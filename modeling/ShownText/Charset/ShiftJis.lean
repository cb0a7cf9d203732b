import ShownText.Charset.DoubleByte
import ShownText.Charset.Jis0201
import ShownText.Charset.Jis0208

namespace ShownText.Charset.ShiftJis

def single? (b : UInt8) : Option Char :=
  if b ≤ 0x80 then some (Char.ofNat b.toNat)
  else if 0xA1 ≤ b then Jis0201.katakana? (b.toNat - 0xA1)
  else none

def isLead (b : UInt8) : Bool := (0x81 ≤ b && b ≤ 0x9F) || (0xE0 ≤ b && b ≤ 0xFC)

def isTrail (b : UInt8) : Bool := (0x40 ≤ b && b ≤ 0x7E) || (0x80 ≤ b && b ≤ 0xFC)

def index (lead trail : UInt8) : Nat :=
  (lead.toNat - if lead < 0xA0 then 0x81 else 0xC1) * (2 * Jis0208.rowLength) +
    (trail.toNat - if trail < 0x7F then 0x40 else 0x41)

/-- Rows 95 to 114 are for private use. -/
def charAt? (index : Nat) : Option Char :=
  let first := 94 * Jis0208.rowLength
  if index < first ∨ 114 * Jis0208.rowLength ≤ index then Jis0208.char? index
  else some (Char.ofNat (0xE000 + (index - first)))

def scheme : DoubleByte.Scheme where
  single? := single?
  isLead := isLead
  pair? lead trail := if isTrail trail then charAt? (index lead trail) else none

end ShownText.Charset.ShiftJis
