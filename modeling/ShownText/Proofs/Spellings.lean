import Mathlib.Data.List.Infix
import ShownText.Proofs.HexPairs
import ShownText.Proofs.LiteralItems
import ShownText.Proofs.Recovery
import ShownText.Proofs.Tiling

namespace ShownText.PostScript

open Text

variable {text : String} {opening stop : ℕ} {after : List Char}

theorem Spans.inside {first last : Char} {inside : List Char}
    (h : Spans text opening stop (first :: (inside ++ [last])) after) (hfirst : first.utf8Size = 1)
    (hlast : last.utf8Size = 1) :
    Cursor.IsIn ⟨opening + 1, inside ++ last :: after⟩ text ∧
      stop = opening + 1 + byteLength inside + 1 := by
  have hstop := h.stop_eq
  obtain ⟨before, htext, hstart, -⟩ := h
  have hin : Cursor.IsIn ⟨opening, first :: (inside ++ last :: after)⟩ text :=
    ⟨before, by simpa using htext, hstart.symm⟩
  refine ⟨hfirst ▸ hin.advance_one, ?_⟩
  simp only [byteLength_cons, byteLength_append, byteLength_nil, hfirst, hlast] at hstop
  omega

namespace Literal

def octalDigits (c : Char) : List Char :=
  [Nat.digitChar (c.toNat / 64), Nat.digitChar (c.toNat / 8 % 8), Nat.digitChar (c.toNat % 8)]

def octalEscapes (cs : List Char) : List Char := cs.flatMap fun c ↦ '\\' :: octalDigits c

/-- No closing parenthesis lacks its opening one, and all are closed at the end, where `depth` were
open before the first character. -/
structure Balanced (depth : ℕ) (cs : List Char) : Prop where
  opened : ∀ front, front <+: cs → front.count ')' ≤ front.count '(' + depth
  closed : cs.count ')' = cs.count '(' + depth

variable {depth offset : ℕ} {value cs rest : List Char} {c : Char}

theorem isOctalDigit_digitChar : ∀ n < 8, isOctalDigit (Nat.digitChar n) = true := by decide

theorem firstItem?_octal (h : c.toNat ≤ 0x1FF) (rest : List Char) :
    firstItem? ('\\' :: (octalDigits c ++ rest)) = some (.octal (octalDigits c), rest) := by
  have hfirst := isOctalDigit_digitChar (c.toNat / 64) (by omega)
  have hsecond := isOctalDigit_digitChar (c.toNat / 8 % 8) (by omega)
  have hthird := isOctalDigit_digitChar (c.toNat % 8) (by omega)
  simp [octalDigits, firstItem?, escapedItem?, hfirst, hsecond, hthird]

theorem meaning_octalDigits (h : c.toNat ≤ 0x1FF) : (Item.octal (octalDigits c)).meaning = [c] := by
  have hcode : Nat.ofDigitChars 8 (octalDigits c) 0 = c.toNat := by
    have hzero : '0'.toNat = 48 := rfl
    simp only [octalDigits, Nat.ofDigitChars_cons, Nat.ofDigitChars_nil]
    rw [Nat.toNat_digitChar_of_lt_ten (by omega), Nat.toNat_digitChar_of_lt_ten (by omega),
      Nat.toNat_digitChar_of_lt_ten (by omega)]
    omega
  rw [Item.meaning, hcode, Char.ofNat_toNat]

theorem close?_octalEscape (h : c.toNat ≤ 0x1FF) (rest : List Char) :
    close? ⟨depth, .plain, value⟩ offset ('\\' :: (octalDigits c ++ rest)) =
      close? ⟨depth, .plain, c :: value⟩ (offset + byteLength ('\\' :: octalDigits c)) rest := by
  rw [close?_firstItem (firstItem?_octal h rest) (by simp), meaning_octalDigits h]
  rfl

theorem close?_octalEscapes (h : ∀ c ∈ cs, c.toNat ≤ 0x1FF) :
    close? ⟨depth, .plain, value⟩ offset (octalEscapes cs ++ rest) =
      close? ⟨depth, .plain, cs.reverse ++ value⟩ (offset + byteLength (octalEscapes cs)) rest := by
  induction cs generalizing value offset with
  | nil => rfl
  | cons c cs ih =>
    obtain ⟨hc, hcs⟩ := List.forall_mem_cons.mp h
    have hcons : octalEscapes (c :: cs) = ('\\' :: octalDigits c) ++ octalEscapes cs := rfl
    rw [hcons, List.append_assoc, List.cons_append, close?_octalEscape hc, ih hcs,
      byteLength_append, List.reverse_cons, List.append_assoc, List.singleton_append, Nat.add_assoc]

theorem Balanced.not_closing (h : Balanced depth (c :: cs)) :
    ¬(Item.plain c = .plain ')' ∧ depth = 0) := by
  rintro ⟨hc, rfl⟩
  obtain rfl := Item.plain.inj hc
  have hopened := h.opened [')'] (List.prefix_append [')'] cs)
  exact absurd hopened (by decide)

theorem count_depthAfter (h : ¬(Item.plain c = .plain ')' ∧ depth = 0)) (front : List Char) :
    (c :: front).count ')' + (Item.plain c).depthAfter depth + front.count '(' =
      (c :: front).count '(' + depth + front.count ')' := by
  simp only [List.count_cons]
  by_cases hopen : c = '('
  · subst hopen
    simp [Item.depthAfter]
    omega
  by_cases hclose : c = ')'
  · subst hclose
    have hdepth : depth ≠ 0 := by simpa using h
    simp [Item.depthAfter]
    omega
  · rw [Item.depthAfter_of_ne (by simpa using hopen) (by simpa using hclose)]
    simp [hopen, hclose]
    omega

theorem Balanced.tail (h : Balanced depth (c :: cs)) :
    Balanced ((Item.plain c).depthAfter depth) cs := by
  constructor
  · intro front hfront
    have hopened := h.opened (c :: front) (List.cons_prefix_cons.mpr ⟨rfl, hfront⟩)
    have hcount := count_depthAfter h.not_closing front
    omega
  · have hclosed := h.closed
    have hcount := count_depthAfter h.not_closing cs
    omega

/-- Without a backslash the characters stand for themselves, and behind balanced ones the next
closing parenthesis closes the literal. -/
theorem close?_balanced (h : Balanced depth cs) (hplain : '\\' ∉ cs) :
    close? ⟨depth, .plain, value⟩ offset (cs ++ ')' :: rest) =
      some (String.ofList (value.reverse ++ cs), ⟨offset + byteLength cs + 1, rest⟩) := by
  induction cs generalizing depth value offset with
  | nil =>
    obtain rfl : 0 = depth := by simpa using h.closed
    rw [List.append_nil]
    exact close?_of_closing rfl
  | cons c cs ih =>
    rw [List.mem_cons, not_or] at hplain
    have hitem : firstItem? (c :: (cs ++ ')' :: rest)) = some (.plain c, cs ++ ')' :: rest) :=
      if_neg (Ne.symm hplain.1)
    rw [List.cons_append, close?_firstItem hitem h.not_closing, ih h.tail hplain.2]
    simp [Item.meaning, Item.spelling, Nat.add_assoc]

theorem readAt_of_close? {value : String} {c : Cursor} (h : Cursor.IsIn ⟨opening + 1, rest⟩ text)
    (hclose : close? .start (opening + 1) rest = some (value, c)) :
    readAt text opening = (value, c.offset) := by
  rw [readAt, readFrom, h.skipBytes?]
  simp only [read, hclose, Option.getD_some]

theorem readAt_octalEscapes (hcs : ∀ c ∈ cs, c.toNat ≤ 0x1FF)
    (h : Spans text opening stop ('(' :: (octalEscapes cs ++ [')'])) after) :
    readAt text opening = (String.ofList cs, stop) := by
  obtain ⟨hin, rfl⟩ := h.inside rfl rfl
  rw [readAt_of_close? hin ((close?_octalEscapes hcs).trans (close?_of_closing rfl))]
  simp

theorem readAt_balanced (hcs : Balanced 0 cs) (hplain : '\\' ∉ cs)
    (h : Spans text opening stop ('(' :: (cs ++ [')'])) after) :
    readAt text opening = (String.ofList cs, stop) := by
  obtain ⟨hin, rfl⟩ := h.inside rfl rfl
  exact readAt_of_close? hin (close?_balanced hcs hplain)

end Literal

theorem HexSpelling.length {digits cs : List Char} (h : HexSpelling digits cs) :
    digits.length = 2 * cs.length := by
  induction h with
  | nil => rfl
  | cons _ _ _ _ ih =>
    simp only [List.length_cons, ih]
    omega

theorem exists_hexSpelling {cs : List Char} (h : ∀ c ∈ cs, c.toNat ≤ 0xFF) :
    ∃ digits, HexSpelling digits cs := by
  induction cs with
  | nil => exact ⟨[], .nil⟩
  | cons c cs ih =>
    obtain ⟨hc, hcs⟩ := List.forall_mem_cons.mp h
    obtain ⟨digits, hdigits⟩ := ih hcs
    exact ⟨_, .cons hc (.inl rfl) (.inl rfl) hdigits⟩

namespace Hex

/-- Digits in either case that spell the characters, with whitespace anywhere among them. The last
digit may be left out if it is a zero. -/
inductive Digits (cs inside : List Char) : Prop
  | all : HexSpelling (inside.filter (!isWhitespace ·)) cs → Digits cs inside
  | butLast : HexSpelling (inside.filter (!isWhitespace ·) ++ ['0']) cs → Digits cs inside

variable {cs inside : List Char}

theorem pairs_append_zero {digits : List Char} (h : digits.length % 2 = 1) :
    pairs (digits ++ ['0']) = pairs digits := by
  induction digits using pairs.induct with
  | case1 high low digits ih =>
    rw [List.cons_append, List.cons_append, pairs, pairs, ih (by simp at h; omega)]
  | case2 high => rfl
  | case3 => cases h

theorem Digits.value (h : Digits cs inside) : value inside = String.ofList cs := by
  cases h with
  | all h => rw [Hex.value, decode, h.pairs]
  | butLast h =>
    have hodd : (inside.filter (!isWhitespace ·)).length % 2 = 1 := by
      have hlength := h.length
      rw [List.length_append, List.length_singleton] at hlength
      omega
    rw [Hex.value, decode, ← pairs_append_zero hodd, h.pairs]

theorem Digits.ne_closing (h : Digits cs inside) : ∀ c ∈ inside, c ≠ '>' := by
  rintro c hc rfl
  have hmem : '>' ∈ inside.filter (!isWhitespace ·) := List.mem_filter.mpr ⟨hc, rfl⟩
  have hregular : isRegular '>' = true := by
    cases h with
    | all h => exact h.regular _ hmem
    | butLast h => exact h.regular _ (List.mem_append_left _ hmem)
  exact absurd hregular (by decide)

theorem readAt_digits (hcs : Digits cs inside)
    (h : Spans text opening stop ('<' :: (inside ++ ['>'])) after) :
    readAt text opening = (String.ofList cs, stop) := by
  obtain ⟨hin, rfl⟩ := h.inside rfl rfl
  rw [readAt_closed hin hcs.ne_closing, ← value_eq, hcs.value]

end Hex

/-- A string of bytes has spellings in hexadecimal digits. These, its octal escapes and, if its
parentheses are balanced and it has no backslash, its own characters are read as the string from
their opening delimiter to their closing one, in any text. Octal escapes reach up to U+01FF. -/
theorem spellings_agree (s : String) :
    ((∀ c ∈ s.toList, c.toNat ≤ 0xFF) → ∃ inside, Hex.Digits s.toList inside) ∧
    ∀ text opening stop after,
      (∀ inside, Hex.Digits s.toList inside →
        Spans text opening stop ('<' :: (inside ++ ['>'])) after →
        Hex.readAt text opening = (s, stop)) ∧
      ((∀ c ∈ s.toList, c.toNat ≤ 0x1FF) →
        Spans text opening stop ('(' :: (Literal.octalEscapes s.toList ++ [')'])) after →
        Literal.readAt text opening = (s, stop)) ∧
      (Literal.Balanced 0 s.toList → '\\' ∉ s.toList →
        Spans text opening stop ('(' :: (s.toList ++ [')'])) after →
        Literal.readAt text opening = (s, stop)) := by
  refine ⟨fun hbytes ↦ ?_, fun text opening stop after ↦ ⟨?_, ?_, ?_⟩⟩
  · obtain ⟨digits, h⟩ := exists_hexSpelling hbytes
    refine ⟨digits, .all ?_⟩
    rwa [h.filter_eq_self]
  · intro inside hdigits h
    rw [Hex.readAt_digits hdigits h, String.ofList_toList]
  · intro hoctal h
    rw [Literal.readAt_octalEscapes hoctal h, String.ofList_toList]
  · intro hbalanced hplain h
    rw [Literal.readAt_balanced hbalanced hplain h, String.ofList_toList]

theorem spellings_agree_of_parens :
    Hex.Digits "(é)0".toList "28E9 29\n3".toList ∧ (∀ c ∈ "(é)0".toList, c.toNat ≤ 0x1FF) ∧
    Literal.Balanced 0 "(é)0".toList ∧ '\\' ∉ "(é)0".toList ∧
    Literal.readAt "ä(\\050\\351\\051\\060)<28E9 29\n3>((é)0)7" 2 = ("(é)0", 20) ∧
    Hex.readAt "ä(\\050\\351\\051\\060)<28E9 29\n3>((é)0)7" 20 = ("(é)0", 31) ∧
    Literal.readAt "ä(\\050\\351\\051\\060)<28E9 29\n3>((é)0)7" 31 = ("(é)0", 38) := by
  have hdigits : Hex.Digits "(é)0".toList "28E9 29\n3".toList := by
    refine .butLast ?_
    exact .cons (by decide) (.inl rfl) (.inl rfl) (.cons (by decide) (.inr rfl) (.inl rfl)
      (.cons (by decide) (.inl rfl) (.inl rfl) (.cons (by decide) (.inl rfl) (.inl rfl) .nil)))
  have hoctal : ∀ c ∈ "(é)0".toList, c.toNat ≤ 0x1FF := by simp
  have hbalanced : Literal.Balanced 0 "(é)0".toList := by
    have hinits : ∀ front ∈ "(é)0".toList.inits, front.count ')' ≤ front.count '(' + 0 := by decide
    exact ⟨fun front h ↦ hinits front ((List.mem_inits front _).mpr h), by decide⟩
  have hplain : '\\' ∉ "(é)0".toList := by simp
  obtain ⟨-, hagree⟩ := spellings_agree "(é)0"
  have hread := hagree "ä(\\050\\351\\051\\060)<28E9 29\n3>((é)0)7"
  exact ⟨hdigits, hoctal, hbalanced, hplain,
    (hread 2 20 "<28E9 29\n3>((é)0)7".toList).2.1 hoctal ⟨"ä".toList, by decide⟩,
    (hread 20 31 "((é)0)7".toList).1 _ hdigits
      ⟨"ä(\\050\\351\\051\\060)".toList, by decide⟩,
    (hread 31 38 "7".toList).2.2 hbalanced hplain
      ⟨"ä(\\050\\351\\051\\060)<28E9 29\n3>".toList, by decide⟩⟩

end ShownText.PostScript
