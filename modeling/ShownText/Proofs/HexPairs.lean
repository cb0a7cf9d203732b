import ShownText.Proofs.Grammar
import ShownText.Proofs.Places

namespace ShownText.PostScript.Hex

open Text

def digitOf? (c : Char) : Option ℕ := "0123456789abcdef".toList.idxOf? c.toLower

def pad (digits : List Char) : List Char :=
  if digits.length % 2 = 0 then digits else digits ++ ['0']

def counted (inside : List Char) : List Char := pad (inside.filter (!isWhitespace ·))

/-- The character that the pair at a place stands for, if it is one of two digits. -/
def pairAt? (digits : List Char) (i : ℕ) : Option Char := do
  let high ← digitOf? (← digits[2 * i]?)
  let low ← digitOf? (← digits[2 * i + 1]?)
  return Char.ofNat (16 * high + low)

def pairsValue (inside : List Char) : String :=
  let digits := counted inside
  String.ofList ((List.range (digits.length / 2)).filterMap (pairAt? digits))

theorem hexDigit?_ascii : ∀ n < 0x80, hexDigit? (Char.ofNat n) = digitOf? (Char.ofNat n) := by
  decide

/-- The two readings of a digit agree. No character beyond ASCII is one. -/
theorem hexDigit?_eq (c : Char) : hexDigit? c = digitOf? c := by
  rcases Nat.lt_or_ge c.toNat 0x80 with hc | hc
  · have hascii := hexDigit?_ascii c.toNat hc
    rwa [Char.ofNat_toNat] at hascii
  · have hbelow : ∀ d : Char, d.toNat < 0x80 → ¬c ≤ d := fun d hd ↦ not_le_ascii hc hd
    have hlower : c.toLower = c := dif_neg fun h ↦ hbelow 'Z' (by decide) h.2
    have hdigits : ∀ d ∈ "0123456789abcdef".toList, d.toNat < 0x80 := by simp
    have hnot : c ∉ "0123456789abcdef".toList := by
      intro hmem
      exact Nat.not_le.mpr (hdigits c hmem) hc
    rw [digitOf?, hlower, List.idxOf?_eq_none_iff.mpr hnot, hexDigit?,
      if_neg fun h ↦ hbelow '9' (by decide) h.2, if_neg fun h ↦ hbelow 'f' (by decide) h.2,
      if_neg fun h ↦ hbelow 'F' (by decide) h.2]

theorem digitOf?_lt {c : Char} {n : ℕ} (h : digitOf? c = some n) : n < 16 := by
  obtain ⟨hlt, -⟩ := List.idxOf?_eq_some_iff.mp h
  exact hlt

theorem pad_pair (high low : Char) (digits : List Char) :
    pad (high :: low :: digits) = high :: low :: pad digits := by
  have hparity : (high :: low :: digits).length % 2 = digits.length % 2 := by
    simp only [List.length_cons]
    omega
  rw [pad, hparity, pad]
  split <;> rfl

theorem pairAt?_zero (high low : Char) (digits : List Char) :
    pairAt? (high :: low :: digits) 0 = pair? high low := by
  simp only [pairAt?, pair?, hexDigit?_eq]
  rfl

theorem pairAt?_succ (high low : Char) (digits : List Char) (i : ℕ) :
    pairAt? (high :: low :: digits) (i + 1) = pairAt? digits i := by
  have hhigh : 2 * (i + 1) = 2 * i + 2 := by omega
  rw [pairAt?, hhigh]
  rfl

theorem filterMap_pairs (digits : List Char) :
    (pairs digits).filterMap (fun p ↦ pair? p.1 p.2) =
      (List.range ((pad digits).length / 2)).filterMap (pairAt? (pad digits)) := by
  induction digits using pairs.induct with
  | case1 high low digits ih =>
    have hlength : (pad (high :: low :: digits)).length / 2 = (pad digits).length / 2 + 1 := by
      rw [pad_pair, List.length_cons, List.length_cons]
      omega
    rw [pairs, List.filterMap_cons, ih, hlength, List.range_succ_eq_map, List.filterMap_cons,
      List.filterMap_map, pad_pair, pairAt?_zero]
    have hnext : pairAt? (high :: low :: pad digits) ∘ Nat.succ = pairAt? (pad digits) :=
      funext fun i ↦ pairAt?_succ high low (pad digits) i
    rw [hnext]
  | case2 high =>
    have hpad : pad [high] = [high, '0'] := rfl
    simp [pairs, hpad, pairAt?_zero, List.filterMap_cons]
  | case3 => rfl

theorem value_eq (inside : List Char) : value inside = pairsValue inside := by
  rw [value, decode, filterMap_pairs]
  rfl

theorem toNat_pairAt? {digits : List Char} {i : ℕ} {c : Char} (h : pairAt? digits i = some c) :
    c.toNat ≤ 0xFF := by
  simp only [pairAt?, Option.bind_eq_bind, Option.bind_eq_some_iff] at h
  obtain ⟨_, -, high, hhigh, _, -, low, hlow, hc⟩ := h
  have hh := digitOf?_lt hhigh
  have hl := digitOf?_lt hlow
  obtain rfl : Char.ofNat (16 * high + low) = c := Option.some.inj hc
  rw [toNat_ofNat_of_lt (by omega)]
  omega

theorem toNat_pairsValue {inside : List Char} {c : Char} (h : c ∈ (pairsValue inside).toList) :
    c.toNat ≤ 0xFF := by
  rw [pairsValue, String.toList_ofList] at h
  obtain ⟨i, -, hi⟩ := List.mem_filterMap.mp h
  exact toNat_pairAt? hi

variable {text : String} {opening : ℕ} {inside after before rest : List Char}

theorem readAt_eq (h : Cursor.IsIn ⟨opening + 1, rest⟩ text) :
    readAt text opening = (read ⟨opening + 1, rest⟩).map id Cursor.offset := by
  rw [readAt, readFrom, h.skipBytes?]
  rfl

theorem readAt_closed (h : Cursor.IsIn ⟨opening + 1, inside ++ '>' :: after⟩ text)
    (hinside : ∀ c ∈ inside, c ≠ '>') :
    readAt text opening = (pairsValue inside, opening + 1 + byteLength inside + 1) := by
  rw [readAt_eq h, read_closed hinside, value_eq]
  rfl

theorem readAt_open (h : Cursor.IsIn ⟨opening + 1, inside⟩ text)
    (hinside : ∀ c ∈ inside, c ≠ '>') :
    readAt text opening = (pairsValue inside, text.utf8ByteSize) := by
  rw [readAt_eq h, read_open hinside, value_eq, ← h.offset_add]
  rfl

theorem isIn_ofList (h : byteLength before = opening + 1) (rest : List Char) :
    Cursor.IsIn ⟨opening + 1, rest⟩ (String.ofList (before ++ rest)) :=
  ⟨before, String.toList_ofList, h.symm⟩

theorem value_read (c : Cursor) : (read c).1 = pairsValue (c.rest.takeWhile (· != '>')) := by
  rw [← value_eq]
  rfl

theorem counted_gap {front gap back : List Char} (hgap : ∀ c ∈ gap, isWhitespace c = true) :
    counted (front ++ (gap ++ back)) = counted (front ++ back) := by
  have hnone : gap.filter (!isWhitespace ·) = [] := by
    rw [List.filter_eq_nil_iff]
    intro c hc
    simp [hgap c hc]
  rw [counted, List.filter_append, List.filter_append, hnone, List.nil_append,
    ← List.filter_append, ← counted]

theorem readAt_gap (hbefore : byteLength before = opening + 1) {front gap back : List Char}
    (hfront : ∀ c ∈ front, c ≠ '>') (hgap : ∀ c ∈ gap, isWhitespace c = true) :
    (readAt (String.ofList (before ++ (front ++ (gap ++ back)))) opening).1 =
      (readAt (String.ofList (before ++ (front ++ back))) opening).1 := by
  have hfront' : ∀ c ∈ front, (c != '>') = true := by simpa using hfront
  have hgap' : ∀ c ∈ gap, (c != '>') = true := by
    intro c hc
    rw [bne_iff_ne]
    rintro rfl
    exact absurd (hgap _ hc) (by decide)
  rw [readAt_eq (isIn_ofList hbefore _), readAt_eq (isIn_ofList hbefore _)]
  simp only [Prod.map_fst, id, value_read, List.takeWhile_append_of_pos hfront',
    List.takeWhile_append_of_pos hgap', pairsValue, counted_gap hgap]

/-- A hexadecimal string opened before a character boundary has the value of the pairs up to the
first closing bracket, and it ends behind that bracket or with the text. No character of the value
is beyond a byte, and whitespace may be put in before the bracket or taken away there. -/
theorem readAt_pairs (text : String) (opening : ℕ)
    (h : String.Pos.Raw.IsValid text ⟨opening + 1⟩) :
    ∃ before rest, text.toList = before ++ rest ∧ byteLength before = opening + 1 ∧
      (∀ inside after, rest = inside ++ '>' :: after → (∀ c ∈ inside, c ≠ '>') →
        readAt text opening = (pairsValue inside, opening + 1 + byteLength inside + 1)) ∧
      ((∀ c ∈ rest, c ≠ '>') → readAt text opening = (pairsValue rest, text.utf8ByteSize)) ∧
      (∀ c ∈ (readAt text opening).1.toList, c.toNat ≤ 0xFF) ∧
      (∀ front gap back, rest = front ++ back → (∀ c ∈ front, c ≠ '>') →
        (∀ c ∈ gap, isWhitespace c = true) →
        (readAt (String.ofList (before ++ (front ++ (gap ++ back)))) opening).1 =
          (readAt text opening).1) ∧
      (∀ front gap back, rest = front ++ (gap ++ back) → (∀ c ∈ front, c ≠ '>') →
        (∀ c ∈ gap, isWhitespace c = true) →
        (readAt (String.ofList (before ++ (front ++ back))) opening).1 =
          (readAt text opening).1) := by
  obtain ⟨rest, hin⟩ := Cursor.exists_isIn h
  obtain ⟨before, htext, hbefore⟩ := id hin
  have hofList : text = String.ofList (before ++ rest) := by
    rw [← htext, String.ofList_toList]
  refine ⟨before, rest, htext, hbefore.symm, ?_, readAt_open hin, ?_, ?_, ?_⟩
  · rintro inside after rfl hinside
    exact readAt_closed hin hinside
  · rw [readAt_eq hin]
    simp only [Prod.map_fst, id, value_read]
    intro c hc
    exact toNat_pairsValue hc
  · rintro front gap back rfl hfront hgap
    rw [readAt_gap hbefore.symm hfront hgap, ← hofList]
  · rintro front gap back rfl hfront hgap
    rw [← readAt_gap hbefore.symm hfront hgap, ← hofList]

theorem readAt_pairs_of_bad :
    String.Pos.Raw.IsValid "é<41 zé\n4>x" ⟨3⟩ ∧ readAt "é<41 zé\n4>x" 2 = ("A@", 12) ∧
      (readAt "é<4\t1 zé\n4>x" 2).1 = "A@" := by
  have hvalid : String.Pos.Raw.IsValid "é<41 zé\n4>x" ⟨3⟩ := by decide
  obtain ⟨before, rest, htext, hbefore, hclosed, -, -, hinsert, -⟩ := readAt_pairs _ 2 hvalid
  have hsplit : "é<41 zé\n4>x".toList = ['é', '<'] ++ ("41 zé\n4".toList ++ ['>', 'x']) := by rfl
  obtain ⟨rfl, rfl⟩ := Cursor.append_inj_of_byteLength (htext.symm.trans hsplit) hbefore
  have hvalue : pairsValue "41 zé\n4".toList = "A@" := by decide +kernel
  have hread := hclosed _ _ rfl (by simp)
  have hrespaced := hinsert ['4'] ['\t'] ("1 zé\n4".toList ++ ['>', 'x']) rfl (by simp)
    (by simp [isWhitespace])
  rw [hvalue] at hread
  rw [hread] at hrespaced
  exact ⟨hvalid, hread, hrespaced⟩

end ShownText.PostScript.Hex
