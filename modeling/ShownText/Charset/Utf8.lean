import ShownText.Charset.Decoder

namespace ShownText.Charset.Utf8

inductive State
  | idle
  /-- Inside a character: the next byte lies between `low` and `high`, and `more` follow it. -/
  | inside (code more : Nat) (low high : UInt8)
  deriving DecidableEq, Repr

def readLead (b : UInt8) : List Place × State :=
  if b < 0x80 then ([some (Char.ofNat b.toNat)], .idle)
  else if 0xC2 ≤ b ∧ b ≤ 0xDF then ([], .inside (b.toNat - 0xC0) 0 0x80 0xBF)
  else if 0xE0 ≤ b ∧ b ≤ 0xEF then
    ([], .inside (b.toNat - 0xE0) 1 (if b = 0xE0 then 0xA0 else 0x80)
      (if b = 0xED then 0x9F else 0xBF))
  else if 0xF0 ≤ b ∧ b ≤ 0xF4 then
    ([], .inside (b.toNat - 0xF0) 2 (if b = 0xF0 then 0x90 else 0x80)
      (if b = 0xF4 then 0x8F else 0xBF))
  else ([none], .idle)

def step : State → UInt8 → List Place × State
  | .idle, b => readLead b
  | .inside code more low high, b =>
    if low ≤ b ∧ b ≤ high then
      let code := code * 64 + (b.toNat - 0x80)
      match more with
      | 0 => ([some (Char.ofNat code)], .idle)
      | more + 1 => ([], .inside code more 0x80 0xBF)
    else (none :: (readLead b).1, (readLead b).2)

def finish : State → List Place
  | .idle => []
  | .inside .. => [none]

def decoder : Decoder := ⟨State, .idle, step, finish⟩

end ShownText.Charset.Utf8
