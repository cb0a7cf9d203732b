import ShownText.Proofs.Utf8

namespace ShownText.Text.Cursor

/-- The cursor stands at a character boundary of the text, before the characters that follow it. -/
def IsIn (c : Cursor) (text : String) : Prop :=
  ∃ before, text.toList = before ++ c.rest ∧ c.offset = byteLength before

variable {text : String} {c : Cursor}

theorem isIn_ofString (text : String) : (ofString text).IsIn text := ⟨[], rfl, rfl⟩

theorem IsIn.advance {offset : ℕ} {xs ys : List Char} (h : IsIn ⟨offset, xs ++ ys⟩ text) :
    IsIn ⟨offset + byteLength xs, ys⟩ text := by
  obtain ⟨before, ht, ho⟩ := h
  exact ⟨before ++ xs, by rw [ht, List.append_assoc], by rw [byteLength_append, ← ho]⟩

theorem IsIn.advance_one {offset : ℕ} {d : Char} {cs : List Char}
    (h : IsIn ⟨offset, d :: cs⟩ text) : IsIn ⟨offset + d.utf8Size, cs⟩ text := by
  obtain ⟨before, ht, ho⟩ := h
  exact ⟨before ++ [d], by simp [ht], by simp [← ho]⟩

theorem IsIn.offset_add (h : c.IsIn text) : c.offset + byteLength c.rest = text.utf8ByteSize := by
  obtain ⟨before, ht, ho⟩ := h
  rw [utf8ByteSize_eq, ht, byteLength_append, ho]

theorem IsIn.isValid (h : c.IsIn text) : String.Pos.Raw.IsValid text ⟨c.offset⟩ := by
  obtain ⟨before, ht, ho⟩ := h
  refine String.Pos.Raw.isValid_iff_exists_append.mpr
    ⟨String.ofList before, String.ofList c.rest, ?_, ?_⟩
  · rw [← String.ofList_append, ← ht, String.ofList_toList]
  · rw [ho, String.rawEndPos, utf8ByteSize_eq, String.toList_ofList]

theorem exists_isIn {n : ℕ} (h : String.Pos.Raw.IsValid text ⟨n⟩) :
    ∃ rest, IsIn ⟨n, rest⟩ text := by
  obtain ⟨before, after, rfl, hn⟩ := String.Pos.Raw.isValid_iff_exists_append.mp h
  refine ⟨after.toList, before.toList, String.toList_append, ?_⟩
  rw [← utf8ByteSize_eq]
  exact congrArg String.Pos.Raw.byteIdx hn

theorem dropBytes?_byteLength (xs ys : List Char) :
    skipBytes?.dropBytes? (byteLength xs) (xs ++ ys) = some ys := by
  induction xs with
  | nil => rw [byteLength_nil, skipBytes?.dropBytes?, List.nil_append]
  | cons x xs ih =>
    obtain ⟨n, hn⟩ := Nat.exists_eq_succ_of_ne_zero
      (Nat.ne_of_gt (Nat.lt_of_lt_of_le x.utf8Size_pos (Nat.le_add_right _ (byteLength xs))))
    rw [byteLength_cons, List.cons_append, hn, skipBytes?.dropBytes?, if_pos (by omega)]
    have he : n + 1 - x.utf8Size = byteLength xs := by omega
    rw [he, ih]

theorem append_inj_of_byteLength {xs xs' ys ys' : List Char} (h : xs ++ ys = xs' ++ ys')
    (hl : byteLength xs = byteLength xs') : xs = xs' ∧ ys = ys' := by
  have hdrop := dropBytes?_byteLength xs ys
  rw [h, hl, dropBytes?_byteLength, Option.some.injEq] at hdrop
  subst hdrop
  exact ⟨List.append_cancel_right h, rfl⟩

theorem exists_of_dropBytes? {n : ℕ} {cs rest : List Char}
    (h : skipBytes?.dropBytes? n cs = some rest) : ∃ xs, cs = xs ++ rest ∧ byteLength xs = n := by
  induction cs generalizing n with
  | nil =>
    cases n with
    | zero => exact ⟨[], by simpa [skipBytes?.dropBytes?] using h, rfl⟩
    | succ n => simp [skipBytes?.dropBytes?] at h
  | cons c cs ih =>
    cases n with
    | zero => exact ⟨[], by simpa [skipBytes?.dropBytes?] using h, rfl⟩
    | succ n =>
      rw [skipBytes?.dropBytes?] at h
      split at h
      · obtain ⟨xs, rfl, hl⟩ := ih h
        exact ⟨c :: xs, rfl, by rw [byteLength_cons, hl]; omega⟩
      · cases h

theorem IsIn.skipBytes? (h : c.IsIn text) : (ofString text).skipBytes? c.offset = some c := by
  obtain ⟨offset, rest⟩ := c
  obtain ⟨before, ht, rfl⟩ := h
  simp only at ht
  rw [Cursor.skipBytes?, ofString, ht, dropBytes?_byteLength, Option.map_some, Nat.zero_add]

theorem isIn_of_skipBytes? {n : ℕ} (h : (ofString text).skipBytes? n = some c) :
    c.IsIn text ∧ c.offset = n := by
  obtain ⟨rest, hr, rfl⟩ := Option.map_eq_some_iff.mp h
  obtain ⟨xs, ht, hl⟩ := exists_of_dropBytes? hr
  exact ⟨⟨xs, ht, by rw [hl]; exact Nat.zero_add n⟩, Nat.zero_add n⟩

theorem IsIn.drop_bytes (h : c.IsIn text) :
    text.toUTF8.data.toList.drop c.offset = encode c.rest := by
  obtain ⟨before, ht, ho⟩ := h
  rw [toList_toUTF8, ht, encode_append, ho, ← length_encode, List.drop_left]

theorem IsIn.getElem?_bytes (h : c.IsIn text) :
    text.toUTF8.data.toList[c.offset]? = (encode c.rest).head? := by
  rw [← h.drop_bytes, List.head?_drop]

end ShownText.Text.Cursor
