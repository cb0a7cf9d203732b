import ShownText.Charset.Decoder

namespace ShownText.Charset.DoubleByte

structure Scheme where
  single? : UInt8 → Option Char
  isLead : UInt8 → Bool
  pair? : UInt8 → UInt8 → Option Char

namespace Scheme

variable (s : Scheme)

def readFirst (b : UInt8) : List Place × Option UInt8 :=
  if s.isLead b then ([], some b) else ([s.single? b], none)

def step : Option UInt8 → UInt8 → List Place × Option UInt8
  | none, b => s.readFirst b
  | some lead, b => (Place.ofLast (s.pair? lead b) b, none)

def finish : Option UInt8 → List Place
  | none => []
  | some _ => [none]

def decoder : Decoder := ⟨Option UInt8, none, s.step, finish⟩

end Scheme

end ShownText.Charset.DoubleByte
