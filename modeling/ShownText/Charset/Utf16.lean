import ShownText.Charset.Decoder
import ShownText.Text.Surrogate

namespace ShownText.Charset.Utf16

open Text

inductive ByteOrder
  | littleEndian
  | bigEndian
  deriving DecidableEq, Repr

def ByteOrder.unit (order : ByteOrder) (first second : UInt8) : Nat :=
  match order with
  | .littleEndian => second.toNat * 256 + first.toNat
  | .bigEndian => first.toNat * 256 + second.toNat

structure State where
  byte : Option UInt8
  high : Option Nat
  deriving DecidableEq, Repr

def readUnit (unit : Nat) : List Place × State :=
  if isHighSurrogate unit then ([], ⟨none, some unit⟩)
  else if isLowSurrogate unit then ([none], ⟨none, none⟩)
  else ([some (Char.ofNat unit)], ⟨none, none⟩)

def step (order : ByteOrder) (s : State) (b : UInt8) : List Place × State :=
  match s.byte with
  | none => ([], ⟨some b, s.high⟩)
  | some first =>
    let unit := order.unit first b
    match s.high with
    | none => readUnit unit
    | some high =>
      if isLowSurrogate unit then ([some (joinSurrogates high unit)], ⟨none, none⟩)
      else (none :: (readUnit unit).1, (readUnit unit).2)

def finish (s : State) : List Place := if s.byte.isSome || s.high.isSome then [none] else []

def decoder (order : ByteOrder) : Decoder := ⟨State, ⟨none, none⟩, step order, finish⟩

end ShownText.Charset.Utf16
