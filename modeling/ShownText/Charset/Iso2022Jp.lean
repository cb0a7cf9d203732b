import ShownText.Charset.Decoder
import ShownText.Charset.Jis0201
import ShownText.Charset.Jis0208

namespace ShownText.Charset.Iso2022Jp

inductive CharacterSet
  | ascii
  | roman
  | katakana
  | kanji
  deriving DecidableEq, Repr

def CharacterSet.selected? (first second : UInt8) : Option CharacterSet :=
  if first = 0x28 then
    if second = 0x42 then some .ascii
    else if second = 0x4A then some .roman
    else if second = 0x49 then some .katakana
    else none
  else if first = 0x24 ∧ (second = 0x40 ∨ second = 0x42) then some .kanji
  else none

def CharacterSet.char? (set : CharacterSet) (b : UInt8) : Option Char :=
  let isText := b < 0x80 && b != 0x0E && b != 0x0F
  match set with
  | .ascii => if isText then some (Char.ofNat b.toNat) else none
  | .roman => if isText then some (Jis0201.roman b) else none
  | .katakana => if 0x21 ≤ b then Jis0201.katakana? (b.toNat - 0x21) else none
  | .kanji => none

def isUpper (b : UInt8) : Bool := 0x21 ≤ b && b ≤ 0x7E

def pair? (lead b : UInt8) : Option Char :=
  if isUpper b then
    Jis0208.char? ((lead.toNat - 0x21) * Jis0208.rowLength + (b.toNat - 0x21))
  else none

inductive Pending
  | nothing
  | pair (lead : UInt8)
  | escape
  | sequence (first : UInt8)
  deriving DecidableEq, Repr

structure State where
  set : CharacterSet
  pending : Pending
  /-- Nothing has been read since a set was selected. -/
  fresh : Bool
  deriving DecidableEq, Repr

namespace State

def start : State := ⟨.ascii, .nothing, false⟩

def readFirst (s : State) (b : UInt8) : List Place × State :=
  if b = 0x1B then ([], { s with pending := .escape })
  else if s.set = .kanji ∧ isUpper b then ([], ⟨s.set, .pair b, false⟩)
  else ([s.set.char? b], ⟨s.set, .nothing, false⟩)

def readSecond (s : State) (lead b : UInt8) : List Place × State :=
  if b = 0x1B then ([none], ⟨s.set, .escape, s.fresh⟩)
  else ([pair? lead b], ⟨s.set, .nothing, s.fresh⟩)

def read (s : State) (b : UInt8) : List Place × State :=
  match s.pending with
  | .pair lead => s.readSecond lead b
  | _ => s.readFirst b

def abandon (s : State) : State := ⟨s.set, .nothing, false⟩

end State

def step (s : State) (b : UInt8) : List Place × State :=
  match s.pending with
  | .nothing | .pair _ => s.read b
  | .escape =>
    if b = 0x24 ∨ b = 0x28 then ([], { s with pending := .sequence b })
    else
      let next := s.abandon.read b
      (none :: next.1, next.2)
  | .sequence first =>
    match CharacterSet.selected? first b with
    | some set => (if s.fresh then [none] else [], ⟨set, .nothing, true⟩)
    | none =>
      let again := s.abandon.read first
      let next := again.2.read b
      (none :: again.1 ++ next.1, next.2)

def finish (s : State) : List Place :=
  match s.pending with
  | .nothing => []
  | .pair _ | .escape => [none]
  | .sequence first =>
    let again := s.abandon.read first
    none :: again.1 ++ if again.2.pending = .nothing then [] else [none]

def decoder : Decoder := ⟨State, .start, step, finish⟩

end ShownText.Charset.Iso2022Jp
