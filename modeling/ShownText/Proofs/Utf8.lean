import ShownText.Proofs.Marks
import ShownText.Text.Cursor

namespace ShownText.Text

def encode (cs : List Char) : List UInt8 := cs.flatMap String.utf8EncodeChar

theorem toList_toUTF8 (text : String) : text.toUTF8.data.toList = encode text.toList := by
  rw [String.toUTF8_eq_toByteArray, ← String.utf8Encode_toList, List.utf8Encode,
    List.data_toByteArray, encode]

theorem toList_loop (bytes : ByteArray) (i : ℕ) (read : List UInt8) :
    ByteArray.toList.loop bytes i read = read.reverse ++ bytes.data.toList.drop i := by
  fun_induction ByteArray.toList.loop bytes i read with
  | case1 i read h ih =>
    have hi : i < bytes.data.toList.length := by simpa using h
    rw [ih, List.drop_eq_getElem_cons hi, List.reverse_cons, List.append_assoc]
    simp [ByteArray.get!, h]
  | case2 i read h =>
    have hi : bytes.data.toList.length ≤ i := by simpa using h
    rw [List.drop_eq_nil_of_le hi, List.append_nil]

theorem toList_eq_data (bytes : ByteArray) : bytes.toList = bytes.data.toList := by
  rw [ByteArray.toList, toList_loop]
  rfl

@[simp] theorem encode_nil : encode [] = [] := rfl

@[simp] theorem encode_cons (c : Char) (cs : List Char) :
    encode (c :: cs) = String.utf8EncodeChar c ++ encode cs := List.flatMap_cons

@[simp] theorem encode_append (xs ys : List Char) : encode (xs ++ ys) = encode xs ++ encode ys :=
  List.flatMap_append

theorem toUTF8_append (s t : String) :
    (s ++ t).toUTF8.toList = s.toUTF8.toList ++ t.toUTF8.toList := by
  rw [toList_eq_data, toList_eq_data, toList_eq_data, toList_toUTF8, toList_toUTF8, toList_toUTF8,
    String.toList_append, encode_append]

theorem length_encode (cs : List Char) : (encode cs).length = byteLength cs := by
  induction cs with
  | nil => rfl
  | cons c cs ih =>
    rw [encode_cons, List.length_append, String.length_utf8EncodeChar, ih, byteLength_cons]

theorem utf8ByteSize_eq (text : String) : text.utf8ByteSize = byteLength text.toList := by
  rw [← length_encode, ← toList_toUTF8, Array.length_toList]
  rfl

theorem utf8EncodeChar_ascii {c : Char} (h : c.toNat < 0x80) :
    String.utf8EncodeChar c = [UInt8.ofNat c.toNat] := by
  have hv : c.val.toNat ≤ 0x7f := Nat.le_of_lt_succ h
  rw [String.utf8EncodeChar]
  simp only [if_pos hv]
  rfl

theorem utf8Size_ascii {c : Char} (h : c.toNat < 0x80) : c.utf8Size = 1 := by
  rw [← String.length_utf8EncodeChar, utf8EncodeChar_ascii h, List.length_singleton]

theorem toNat_byte_ascii {c : Char} (h : c.toNat < 0x80) :
    (UInt8.ofNat c.toNat).toNat = c.toNat := by
  apply UInt8.toNat_ofNat_of_lt'
  rw [UInt8.size]
  omega

theorem not_le_ascii {c d : Char} (hc : 0x80 ≤ c.toNat) (hd : d.toNat < 0x80) : ¬c ≤ d := by
  intro hle
  have hcode : c.toNat ≤ d.toNat := hle
  omega

theorem exists_first_byte (c : Char) :
    ∃ b ∈ String.utf8EncodeChar c, ∃ bs, String.utf8EncodeChar c = b :: bs := by
  obtain ⟨b, bs, hbs⟩ := List.exists_cons_of_ne_nil (@String.utf8EncodeChar_ne_nil c)
  exact ⟨b, by rw [hbs]; exact List.mem_cons_self, bs, hbs⟩

theorem le_of_mem_utf8EncodeChar {c : Char} (h : 0x80 ≤ c.toNat) {b : UInt8}
    (hb : b ∈ String.utf8EncodeChar c) : 0x80 ≤ b.toNat := by
  have hv : ¬c.val.toNat ≤ 0x7f := Nat.not_le.mpr h
  simp only [String.utf8EncodeChar, if_neg hv] at hb
  split_ifs at hb
  all_goals
    simp only [List.mem_cons, List.not_mem_nil, or_false] at hb
    rcases hb with rfl | rfl | rfl | rfl <;> simp <;> omega

theorem val_ofNat {n : ℕ} (h : n < 0xD800 ∨ 0xDFFF < n ∧ n < 0x110000) :
    (Char.ofNat n).val.toNat = n := by
  have hv : n.isValidChar := h
  rw [Char.ofNat, dif_pos hv]
  rfl

theorem toNat_ofNat_of_lt {n : ℕ} (h : n < 0xD800) : (Char.ofNat n).toNat = n := val_ofNat (.inl h)

theorem eq_of_mem_utf8EncodeChar {c d : Char} (hd : d.toNat < 0x80) {b : UInt8}
    (hb : b ∈ String.utf8EncodeChar c) : b = UInt8.ofNat d.toNat ↔ c = d := by
  have hd' := toNat_byte_ascii hd
  rcases Nat.lt_or_ge c.toNat 0x80 with hc | hc
  · rw [utf8EncodeChar_ascii hc, List.mem_singleton] at hb
    rw [hb, ← UInt8.toNat_inj, toNat_byte_ascii hc, hd', Char.toNat_inj]
  · have hle := le_of_mem_utf8EncodeChar hc hb
    constructor
    · rintro rfl
      omega
    · rintro rfl
      omega

theorem beq_of_mem_utf8EncodeChar {c d : Char} (hd : d.toNat < 0x80) {b : UInt8}
    (hb : b ∈ String.utf8EncodeChar c) : (b == UInt8.ofNat d.toNat) = (c == d) := by
  rw [Bool.eq_iff_iff, beq_iff_eq, beq_iff_eq]
  exact eq_of_mem_utf8EncodeChar hd hb

theorem head?_encode_eq_some_iff {d : Char} (hd : d.toNat < 0x80) (cs : List Char) :
    (encode cs).head? = some (UInt8.ofNat d.toNat) ↔ cs.head? = some d := by
  cases cs with
  | nil => simp
  | cons c cs =>
    obtain ⟨b, hb, bs, hbs⟩ := exists_first_byte c
    simp [hbs, eq_of_mem_utf8EncodeChar hd hb]

theorem takeWhile_encode {p : UInt8 → Bool} {q : Char → Bool}
    (h : ∀ c, ∀ b ∈ String.utf8EncodeChar c, p b = q c) (cs : List Char) :
    (encode cs).takeWhile p = encode (cs.takeWhile q) := by
  induction cs with
  | nil => rfl
  | cons c cs ih =>
    rw [encode_cons, List.takeWhile_cons]
    split
    · next hq =>
      rw [List.takeWhile_append_of_pos (fun b hb ↦ by rw [h c b hb, hq]), ih, encode_cons]
    · next hq =>
      obtain ⟨b, hb, bs, hbs⟩ := exists_first_byte c
      rw [hbs, List.cons_append, List.takeWhile_cons, h c b hb, if_neg hq, encode_nil]

/-- Only ASCII characters are in the class, so that a byte tells whether its character is. -/
def AsciiClass (q : Char → Bool) : Prop := ∀ c : Char, 0x80 ≤ c.toNat → q c = false

theorem asciiClass_beq {d : Char} (hd : d.toNat < 0x80) : AsciiClass (· == d) := by
  intro c hc
  apply beq_false_of_ne
  intro heq
  rw [heq] at hc
  omega

theorem AsciiClass.or {q r : Char → Bool} (hq : AsciiClass q) (hr : AsciiClass r) :
    AsciiClass fun c ↦ q c || r c := by
  intro c hc
  exact Bool.or_eq_false_iff.mpr ⟨hq c hc, hr c hc⟩

theorem AsciiClass.utf8Size {q : Char → Bool} (hq : AsciiClass q) {c : Char} (hc : q c = true) :
    c.utf8Size = 1 := by
  have hlt : c.toNat < 0x80 := by
    by_contra hle
    rw [hq c (Nat.not_lt.mp hle)] at hc
    cases hc
  exact utf8Size_ascii hlt

theorem AsciiClass.byte {q : Char → Bool} (hq : AsciiClass q) {c : Char} {b : UInt8}
    (hb : b ∈ String.utf8EncodeChar c) : q (Char.ofNat b.toNat) = q c := by
  rcases Nat.lt_or_ge c.toNat 0x80 with hc | hc
  · rw [utf8EncodeChar_ascii hc, List.mem_singleton] at hb
    rw [hb, toNat_byte_ascii hc, Char.ofNat_toNat]
  · have hb' := le_of_mem_utf8EncodeChar hc hb
    have hlt := b.toNat_lt
    rw [hq c hc, hq _ (by rw [toNat_ofNat_of_lt (by omega)]; exact hb')]

theorem AsciiClass.all {q : Char → Bool} (hq : AsciiClass q) (cs : List Char) :
    ((encode cs).map fun b ↦ Char.ofNat b.toNat).all q = cs.all q := by
  induction cs with
  | nil => rfl
  | cons c cs ih =>
    have hbytes : (String.utf8EncodeChar c).all (fun b ↦ q (Char.ofNat b.toNat)) = q c := by
      obtain ⟨b, hb, bs, hbs⟩ := exists_first_byte c
      have hclass : ∀ d ∈ b :: bs, q (Char.ofNat d.toNat) = q c := by
        intro d hd
        rw [← hbs] at hd
        exact hq.byte hd
      rw [hbs, List.all_cons, hclass b (by simp)]
      cases hc : q c with
      | false => rfl
      | true =>
        rw [Bool.true_and, List.all_eq_true]
        intro d hd
        rw [hclass d (by simp [hd]), hc]
    rw [encode_cons, List.map_append, List.all_append, ih, List.all_map, List.all_cons]
    exact congrArg (· && cs.all q) hbytes

end ShownText.Text

namespace ShownText.Charset.Utf8

open Text

theorem runFrom_cons (state : State) (b : UInt8) (bytes : List UInt8) :
    decoder.runFrom state (b :: bytes) =
      (step state b).1 ++ decoder.runFrom (step state b).2 bytes :=
  Decoder.runFrom_cons decoder state b bytes

theorem step_lead_one : ∀ n < 0x80,
    step .idle (UInt8.ofNat n) = ([some (Char.ofNat n)], .idle) := by decide

theorem step_lead_two : ∀ n < 0x20, 2 ≤ n →
    step .idle (UInt8.ofNat (n + 0xC0)) = ([], .inside n 0 0x80 0xBF) := by decide

theorem step_lead_three : ∀ n < 0x10, step .idle (UInt8.ofNat (n + 0xE0)) =
    ([], .inside n 1 (if n = 0 then 0xA0 else 0x80) (if n = 13 then 0x9F else 0xBF)) := by decide

theorem step_lead_four : ∀ n < 5, step .idle (UInt8.ofNat (n + 0xF0)) =
    ([], .inside n 2 (if n = 0 then 0x90 else 0x80) (if n = 4 then 0x8F else 0xBF)) := by decide

theorem step_inside {code more n : ℕ} {low high : UInt8} (hn : n < 0x40)
    (hl : low.toNat ≤ n + 0x80) (hh : n + 0x80 ≤ high.toNat) :
    step (.inside code more low high) (UInt8.ofNat (n + 0x80)) =
      match more with
      | 0 => ([some (Char.ofNat (code * 64 + n))], .idle)
      | more + 1 => ([], .inside (code * 64 + n) more 0x80 0xBF) := by
  have hb : (UInt8.ofNat (n + 0x80)).toNat = n + 0x80 := UInt8.toNat_ofNat_of_lt' (by
    rw [UInt8.size]; omega)
  rw [step, if_pos ⟨UInt8.le_iff_toNat_le.mpr (by rwa [hb]),
    UInt8.le_iff_toNat_le.mpr (by rwa [hb])⟩, hb]
  cases more <;> simp only [Nat.add_sub_cancel]

theorem runFrom_utf8EncodeChar (c : Char) (bytes : List UInt8) :
    decoder.runFrom State.idle (String.utf8EncodeChar c ++ bytes) =
      some c :: decoder.runFrom State.idle bytes := by
  have hc : c.toNat < 0xD800 ∨ 0xDFFF < c.toNat ∧ c.toNat < 0x110000 := c.valid
  have hv : Char.ofNat c.val.toNat = c := Char.ofNat_toNat c
  change c.val.toNat < _ ∨ _ < c.val.toNat ∧ c.val.toNat < _ at hc
  unfold String.utf8EncodeChar
  generalize c.val.toNat = v at hc hv
  subst hv
  simp only
  split_ifs with h₁ h₂ h₃
  · rw [List.singleton_append, runFrom_cons, step_lead_one v (by omega)]
    rfl
  · rw [List.cons_append, List.cons_append, runFrom_cons, step_lead_two _ (by omega) (by omega),
      runFrom_cons, step_inside (by omega) (by simp) (by simp; omega)]
    simp only [List.nil_append, List.cons_append]
    congr 3
    omega
  · have hlow : (if v / 4096 % 16 = 0 then 0xA0 else 0x80 : UInt8).toNat ≤ v / 64 % 64 + 0x80 := by
      split_ifs
      · change 0xA0 ≤ _; omega
      · exact Nat.le_add_left _ _
    have hhigh : v / 64 % 64 + 0x80 ≤
        (if v / 4096 % 16 = 13 then 0x9F else 0xBF : UInt8).toNat := by
      split_ifs
      · change _ ≤ 0x9F; omega
      · change _ ≤ 0xBF; omega
    rw [List.cons_append, List.cons_append, List.cons_append, runFrom_cons,
      step_lead_three _ (by omega), runFrom_cons, step_inside (by omega) hlow hhigh,
      runFrom_cons, step_inside (by omega) (by simp) (by simp; omega)]
    simp only [List.nil_append, List.cons_append]
    congr 3
    omega
  · have hlow : (if v / 262144 % 8 = 0 then 0x90 else 0x80 : UInt8).toNat ≤
        v / 4096 % 64 + 0x80 := by
      split_ifs
      · change 0x90 ≤ _; omega
      · exact Nat.le_add_left _ _
    have hhigh : v / 4096 % 64 + 0x80 ≤
        (if v / 262144 % 8 = 4 then 0x8F else 0xBF : UInt8).toNat := by
      split_ifs
      · change _ ≤ 0x8F; omega
      · change _ ≤ 0xBF; omega
    rw [List.cons_append, List.cons_append, List.cons_append, List.cons_append, runFrom_cons,
      step_lead_four _ (by omega), runFrom_cons, step_inside (by omega) hlow hhigh,
      runFrom_cons, step_inside (by omega) (by simp) (by simp; omega),
      runFrom_cons, step_inside (by omega) (by simp) (by simp; omega)]
    simp only [List.nil_append, List.cons_append]
    congr 3
    omega

theorem runFrom_encode_append (cs : List Char) (bytes : List UInt8) :
    decoder.runFrom State.idle (encode cs ++ bytes) =
      cs.map some ++ decoder.runFrom State.idle bytes := by
  induction cs with
  | nil => rfl
  | cons c cs ih =>
    rw [encode_cons, List.append_assoc, runFrom_utf8EncodeChar, ih, List.map_cons, List.cons_append]

end ShownText.Charset.Utf8

theorem ShownText.Charset.Utf8.undoes : decoder.Undoes Text.encode where
  run_nil := Decoder.runFrom_nil decoder State.idle
  run_append := runFrom_encode_append

theorem ShownText.Charset.utf8_isEncoder [LegacyDecoders] :
    IsEncoder .utf8 Utf8.decoder Text.encode where
  toUndoes := Utf8.undoes
  decodeAll_eq := rfl
  mark_eq := by decide
