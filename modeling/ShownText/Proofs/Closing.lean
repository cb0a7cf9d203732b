import ShownText.Proofs.Tiling

namespace ShownText.PostScript

open Text

namespace Literal

/-- The last character closes a literal in which `depth` inner parentheses are open before the first
one. A backslash takes the character after it with it. -/
inductive Closing : ℕ → List Char → Prop
  | last : Closing 0 [')']
  | close {depth : ℕ} {cs : List Char} : Closing depth cs → Closing (depth + 1) (')' :: cs)
  | opening {depth : ℕ} {cs : List Char} : Closing (depth + 1) cs → Closing depth ('(' :: cs)
  | escaped {depth : ℕ} {c : Char} {cs : List Char} : Closing depth cs →
      Closing depth ('\\' :: c :: cs)
  | other {depth : ℕ} {c : Char} {cs : List Char} : ¬(c = '\\' ∨ c = '(' ∨ c = ')') →
      Closing depth cs → Closing depth (c :: cs)

def Partial.outline (p : Partial) : ℕ × Bool := (p.depth, p.mode == .escape)

def follow : ℕ × Bool → Char → Option (ℕ × Bool)
  | (depth, true), _ => some (depth, false)
  | (depth, false), c =>
    if c = '\\' then some (depth, true)
    else if c = '(' then some (depth + 1, false)
    else if c = ')' then if depth = 0 then none else some (depth - 1, false)
    else some (depth, false)

theorem follow_other {c : Char} (hc : ¬(c = '\\' ∨ c = '(' ∨ c = ')')) (depth : ℕ) :
    follow (depth, false) c = some (depth, false) := by
  simp only [not_or] at hc
  rw [follow, if_neg hc.1, if_neg hc.2.1, if_neg hc.2.2]

theorem outline_settle (p : Partial) : p.settle.outline = (p.depth, false) := by
  unfold Partial.settle
  split <;> rfl

theorem outline_readPlain (p : Partial) (c : Char) :
    (p.readPlain c).map Partial.outline = follow (p.depth, false) c := by
  unfold Partial.readPlain
  split
  · rfl
  · rfl
  · cases p.depth <;> rfl
  · next h₁ h₂ h₃ =>
    rw [follow_other (by simpa only [not_or] using ⟨h₁, h₂, h₃⟩)]
    rfl

theorem outline_readEscaped (p : Partial) (c : Char) :
    (p.readEscaped c).outline = (p.depth, false) := by
  unfold Partial.readEscaped
  split <;> try rfl
  split <;> rfl

theorem other_of_octalDigit? {c : Char} {digit : ℕ} (h : octalDigit? c = some digit) :
    ¬(c = '\\' ∨ c = '(' ∨ c = ')') := by
  rintro (rfl | rfl | rfl) <;> cases h

theorem outline_settle_readPlain (p : Partial) (c : Char) :
    (p.settle.readPlain c).map Partial.outline = follow (p.depth, false) c := by
  have hd : p.settle.depth = p.depth := congrArg Prod.fst (outline_settle p)
  rw [outline_readPlain, hd]

theorem outline_read (p : Partial) (c : Char) :
    (p.read c).map Partial.outline = follow p.outline c := by
  have hsettle := outline_settle_readPlain p c
  obtain ⟨depth, mode, value⟩ := p
  cases mode with
  | plain => exact outline_readPlain _ c
  | escape => exact congrArg some (outline_readEscaped _ c)
  | lineEnd =>
    simp only [Partial.read]
    split
    · next hc => subst hc; rfl
    · exact hsettle
  | octal code more =>
    simp only [Partial.read]
    split
    · next hd => exact (follow_other (other_of_octalDigit? hd) depth).symm
    · next hd => exact (follow_other (other_of_octalDigit? hd) depth).symm
    · exact hsettle

def ClosingFrom : ℕ × Bool → List Char → Prop
  | (depth, false), cs => Closing depth cs
  | (depth, true), cs => ∃ c rest, cs = c :: rest ∧ Closing depth rest

theorem closingFrom_singleton {o : ℕ × Bool} {c : Char} (h : follow o c = none) :
    ClosingFrom o [c] := by
  obtain ⟨depth, escaped⟩ := o
  cases escaped with
  | true => cases h
  | false =>
    by_cases hc : c = '\\' ∨ c = '(' ∨ c = ')'
    · rcases hc with rfl | rfl | rfl
      · cases h
      · cases h
      · cases depth with
        | zero => exact .last
        | succ depth => cases h
    · rw [follow_other hc] at h
      cases h

theorem ClosingFrom.cons {o o' : ℕ × Bool} {c : Char} {cs : List Char} (h : follow o c = some o')
    (hcs : ClosingFrom o' cs) : ClosingFrom o (c :: cs) := by
  obtain ⟨depth, escaped⟩ := o
  cases escaped with
  | true =>
    cases h
    exact ⟨c, cs, rfl, hcs⟩
  | false =>
    by_cases hc : c = '\\' ∨ c = '(' ∨ c = ')'
    · rcases hc with rfl | rfl | rfl
      · cases h
        obtain ⟨d, rest, rfl, hrest⟩ := hcs
        exact .escaped hrest
      · cases h
        exact .opening hcs
      · cases depth with
        | zero => cases h
        | succ depth =>
          cases h
          exact .close hcs
    · rw [follow_other hc] at h
      cases h
      exact .other hc hcs

theorem Closes.closingFrom {p : Partial} {cs : List Char} {value : String}
    (h : Closes p cs value) : ClosingFrom p.outline cs := by
  induction h with
  | @last p c hread =>
    have hf := outline_read p c
    rw [hread] at hf
    exact closingFrom_singleton hf.symm
  | @next p q c cs value hread _ ih =>
    have hf := outline_read p c
    rw [hread] at hf
    exact ih.cons hf.symm

theorem exists_read {p : Partial} {o : ℕ × Bool} {c : Char} (h : follow p.outline c = some o) :
    ∃ q, p.read c = some q ∧ q.outline = o := by
  rw [← outline_read] at h
  exact Option.map_eq_some_iff.mp h

theorem Closing.exists_closes {depth : ℕ} {cs : List Char} (h : Closing depth cs) (p : Partial)
    (hp : p.outline = (depth, false)) : ∃ value, Closes p cs value := by
  induction h generalizing p with
  | last =>
    have hread := outline_read p ')'
    rw [hp] at hread
    exact ⟨_, .last (Option.map_eq_none_iff.mp hread)⟩
  | close _ ih =>
    obtain ⟨q, hread, hq⟩ := exists_read (p := p) (c := ')') (by rw [hp]; rfl)
    obtain ⟨value, hv⟩ := ih q hq
    exact ⟨value, .next hread hv⟩
  | opening _ ih =>
    obtain ⟨q, hread, hq⟩ := exists_read (p := p) (c := '(') (by rw [hp]; rfl)
    obtain ⟨value, hv⟩ := ih q hq
    exact ⟨value, .next hread hv⟩
  | @escaped _ c _ _ ih =>
    obtain ⟨q, hread, hq⟩ := exists_read (p := p) (c := '\\') (by rw [hp]; rfl)
    obtain ⟨r, hread', hr⟩ := exists_read (p := q) (c := c) (by rw [hq]; rfl)
    obtain ⟨value, hv⟩ := ih r hr
    exact ⟨value, .next hread (.next hread' hv)⟩
  | other hc _ ih =>
    obtain ⟨q, hread, hq⟩ := exists_read (p := p) (by rw [hp, follow_other hc])
    obtain ⟨value, hv⟩ := ih q hq
    exact ⟨value, .next hread hv⟩

/-- The reader closes a literal at the parenthesis that matches the opening one. -/
theorem exists_closes_iff {cs : List Char} : (∃ value, Closes .start cs value) ↔ Closing 0 cs :=
  ⟨fun ⟨_, h⟩ ↦ h.closingFrom, fun h ↦ h.exists_closes .start rfl⟩

end Literal

inductive Delimited : List Char → Prop
  | literal {body : List Char} : Literal.Closing 0 body → Delimited ('(' :: body)
  | hex {digits : List Char} : (∀ c ∈ digits, c ≠ '>') → Delimited ('<' :: (digits ++ ['>']))

def ClosedIn (text : String) (l : Lexeme) : Prop :=
  ∃ spelled after, Spans text l.start l.stop spelled after ∧ Delimited spelled

end ShownText.PostScript
