namespace ShownText.Text

/-- What becomes of a sum that is too large for an offset: the program stops, or the sum begins
anew from zero. -/
inductive Overflow
  | stops
  | wraps
  deriving DecidableEq, Repr

def Overflow.next? (mode : Overflow) (offset : UInt64) : Option Nat :=
  if offset.toNat + 1 < UInt64.size then some (offset.toNat + 1)
  else
    match mode with
    | .stops => none
    | .wraps => some 0

end ShownText.Text
