namespace ShownText.Charset

/-- One place of a decoded text: a character, or none for a malformed byte sequence. -/
abbrev Place := Option Char

def ascii? (b : UInt8) : Option Char := if b < 0x80 then some (Char.ofNat b.toNat) else none

/-- What a sequence decodes to that ends with the byte `last`. In a malformed one, an ASCII byte
still counts. -/
def Place.ofLast (c : Option Char) (last : UInt8) : List Place :=
  match c, ascii? last with
  | none, some a => [none, some a]
  | c, _ => [c]

structure Decoded where
  text : String
  malformed : Bool
  deriving DecidableEq, Repr

def Decoded.ofPlaces (places : List Place) : Decoded :=
  ⟨String.ofList (places.map (·.getD '\ufffd')), places.any Option.isNone⟩

structure Decoder where
  State : Type
  start : State
  step : State → UInt8 → List Place × State
  finish : State → List Place

namespace Decoder

variable (d : Decoder)

def runOnto (done : Array Place) (state : d.State) : List UInt8 → Array Place
  | [] => done ++ d.finish state
  | b :: bytes => runOnto (done ++ (d.step state b).1) (d.step state b).2 bytes

def runFrom (state : d.State) (bytes : List UInt8) : List Place :=
  (d.runOnto #[] state bytes).toList

def run (bytes : List UInt8) : List Place := d.runFrom d.start bytes

def decode (bytes : List UInt8) : Decoded := .ofPlaces (d.run bytes)

theorem toList_runOnto (done : Array Place) (state : d.State) (bytes : List UInt8) :
    (d.runOnto done state bytes).toList = done.toList ++ d.runFrom state bytes := by
  unfold runFrom
  induction bytes generalizing done state with
  | nil => simp [runOnto]
  | cons b bytes ih =>
    rw [runOnto, runOnto, ih, ih (#[] ++ (d.step state b).1)]
    simp

@[simp] theorem runFrom_nil (state : d.State) : d.runFrom state [] = d.finish state := by
  simp [runFrom, runOnto]

@[simp] theorem runFrom_cons (state : d.State) (b : UInt8) (bytes : List UInt8) :
    d.runFrom state (b :: bytes) =
      (d.step state b).1 ++ d.runFrom (d.step state b).2 bytes := by
  rw [runFrom, runOnto, toList_runOnto]
  simp

end Decoder

end ShownText.Charset
