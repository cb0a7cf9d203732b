import ShownText.Proofs.Extraction
import ShownText.Proofs.Utf8

namespace ShownText

namespace Charset

namespace Utf8

open Text

def Completes (read : List UInt8) : ℕ → ℕ → UInt8 → UInt8 → Prop
  | code, 0, low, high => ∀ b, low ≤ b → b ≤ high →
    String.utf8EncodeChar (Char.ofNat (code * 64 + (b.toNat - 0x80))) = read ++ [b]
  | code, more + 1, low, high => ∀ b, low ≤ b → b ≤ high →
    Completes (read ++ [b]) (code * 64 + (b.toNat - 0x80)) more 0x80 0xBF

theorem ofNat_eq {n : ℕ} {b : UInt8} (h : n = b.toNat) : UInt8.ofNat n = b := by
  rw [h, UInt8.ofNat_toNat]

theorem completes_two {a : UInt8} (hlow : 0xC2 ≤ a) (hhigh : a ≤ 0xDF) :
    Completes [a] (a.toNat - 0xC0) 0 0x80 0xBF := by
  intro b hb hb'
  rw [UInt8.le_iff_toNat_le] at hlow hhigh hb hb'
  simp only [UInt8.reduceToNat] at hlow hhigh hb hb'
  rw [String.utf8EncodeChar, val_ofNat (by omega), if_neg (by omega), if_pos (by omega),
    ofNat_eq (b := a) (by omega), ofNat_eq (b := b) (by omega)]
  rfl

theorem completes_three {a : UInt8} (hlow : 0xE0 ≤ a) (hhigh : a ≤ 0xEF) :
    Completes [a] (a.toNat - 0xE0) 1 (if a = 0xE0 then 0xA0 else 0x80)
      (if a = 0xED then 0x9F else 0xBF) := by
  intro b hb hb' c hc hc'
  rw [apply_ite (· ≤ b), ite_prop_iff_and] at hb
  rw [apply_ite (b ≤ ·), ite_prop_iff_and] at hb'
  simp only [UInt8.le_iff_toNat_le, ← UInt8.toNat_inj,
    UInt8.reduceToNat] at hlow hhigh hb hb' hc hc'
  rw [String.utf8EncodeChar, val_ofNat (by omega), if_neg (by omega), if_neg (by omega),
    if_pos (by omega), ofNat_eq (b := a) (by omega), ofNat_eq (b := b) (by omega),
    ofNat_eq (b := c) (by omega)]
  rfl

theorem completes_four {a : UInt8} (hlow : 0xF0 ≤ a) (hhigh : a ≤ 0xF4) :
    Completes [a] (a.toNat - 0xF0) 2 (if a = 0xF0 then 0x90 else 0x80)
      (if a = 0xF4 then 0x8F else 0xBF) := by
  intro b hb hb' c hc hc' d hd hd'
  rw [apply_ite (· ≤ b), ite_prop_iff_and] at hb
  rw [apply_ite (b ≤ ·), ite_prop_iff_and] at hb'
  simp only [UInt8.le_iff_toNat_le, ← UInt8.toNat_inj,
    UInt8.reduceToNat] at hlow hhigh hb hb' hc hc' hd hd'
  rw [String.utf8EncodeChar, val_ofNat (by omega), if_neg (by omega), if_neg (by omega),
    if_neg (by omega), ofNat_eq (b := a) (by omega), ofNat_eq (b := b) (by omega),
    ofNat_eq (b := c) (by omega), ofNat_eq (b := d) (by omega)]
  rfl

/-- The bytes of an unfinished character and the state in which the decoder is behind them. -/
inductive Pending : List UInt8 → State → Prop
  | idle : Pending [] .idle
  | inside {read : List UInt8} {code more : ℕ} {low high : UInt8} (hread : ∀ b ∈ read, 0x80 ≤ b)
      (hlow : 0x80 ≤ low) (hcompletes : Completes read code more low high) :
      Pending read (.inside code more low high)

theorem Pending.of_lead {b low high : UInt8} {code more : ℕ} (hb : 0x80 ≤ b) (hlow : 0x80 ≤ low)
    (hcompletes : Completes [b] code more low high) : Pending [b] (.inside code more low high) :=
  .inside (List.forall_mem_singleton.mpr hb) hlow hcompletes

/-- The bytes in pieces: a character in its bytes, or a malformed sequence without ASCII bytes. -/
inductive Pieces : List UInt8 → List Place → Prop
  | nil : Pieces [] []
  | char (c : Char) {bytes : List UInt8} {places : List Place} (h : Pieces bytes places) :
      Pieces (String.utf8EncodeChar c ++ bytes) (some c :: places)
  | malformed {broken bytes : List UInt8} {places : List Place} (hbroken : ∀ b ∈ broken, 0x80 ≤ b)
      (h : Pieces bytes places) : Pieces (broken ++ bytes) (none :: places)

theorem readLead_cases (b : UInt8) :
    (∃ c, String.utf8EncodeChar c = [b] ∧ readLead b = ([some c], .idle)) ∨
    0x80 ≤ b ∧ (readLead b = ([none], .idle) ∨ ∃ s, readLead b = ([], s) ∧ Pending [b] s) := by
  rw [readLead]
  by_cases hascii : b < 0x80
  · rw [if_pos hascii]
    have hb : (Char.ofNat b.toNat).toNat = b.toNat :=
      toNat_ofNat_of_lt (Nat.lt_trans hascii (by decide))
    refine .inl ⟨_, ?_, rfl⟩
    rw [utf8EncodeChar_ascii (by rwa [hb]), hb, UInt8.ofNat_toNat]
  have hb : 0x80 ≤ b := Nat.le_of_not_lt hascii
  rw [if_neg hascii]
  refine .inr ⟨hb, ?_⟩
  by_cases htwo : 0xC2 ≤ b ∧ b ≤ 0xDF
  · rw [if_pos htwo]
    exact .inr ⟨_, rfl, .of_lead hb (by decide) (completes_two htwo.1 htwo.2)⟩
  rw [if_neg htwo]
  by_cases hthree : 0xE0 ≤ b ∧ b ≤ 0xEF
  · rw [if_pos hthree]
    refine .inr ⟨_, rfl, .of_lead hb ?_ (completes_three hthree.1 hthree.2)⟩
    split <;> decide
  rw [if_neg hthree]
  by_cases hfour : 0xF0 ≤ b ∧ b ≤ 0xF4
  · rw [if_pos hfour]
    refine .inr ⟨_, rfl, .of_lead hb ?_ (completes_four hfour.1 hfour.2)⟩
    split <;> decide
  rw [if_neg hfour]
  exact .inl rfl

theorem step_cases {read : List UInt8} {code more : ℕ} {low high : UInt8}
    (h : Pending read (.inside code more low high)) (b : UInt8) :
    (∃ c, String.utf8EncodeChar c = read ++ [b] ∧
      step (.inside code more low high) b = ([some c], .idle)) ∨
    (∃ s, step (.inside code more low high) b = ([], s) ∧ Pending (read ++ [b]) s) ∨
    step (.inside code more low high) b = (none :: (readLead b).1, (readLead b).2) := by
  cases h with | inside hread hlow hcompletes =>
  rw [step]
  by_cases hb : low ≤ b ∧ b ≤ high
  · rw [if_pos hb]
    cases more with
    | zero => exact .inl ⟨_, hcompletes b hb.1 hb.2, rfl⟩
    | succ more =>
      refine .inr (.inl ⟨_, rfl, .inside ?_ (by decide) (hcompletes b hb.1 hb.2)⟩)
      rw [List.forall_mem_append, List.forall_mem_singleton]
      exact ⟨hread, UInt8.le_trans hlow hb.1⟩
  · rw [if_neg hb]
    exact .inr (.inr rfl)

theorem Pending.pieces {read : List UInt8} {s : State} (h : Pending read s) (bytes : List UInt8) :
    Pieces (read ++ bytes) (decoder.runFrom s bytes) := by
  induction bytes generalizing read s with
  | nil =>
    cases h with
    | idle => exact .nil
    | inside hread _ _ => exact .malformed hread .nil
  | cons b bytes ih =>
    have hidle : Pieces (b :: bytes) (decoder.runFrom State.idle (b :: bytes)) := by
      rw [runFrom_cons]
      obtain ⟨c, hc, hstep⟩ | ⟨hb, hstep | ⟨s, hstep, hs⟩⟩ := readLead_cases b
      · rw [step, hstep, ← List.singleton_append, ← hc]
        exact .char c (ih .idle)
      · rw [step, hstep]
        exact .malformed (List.forall_mem_singleton.mpr hb) (ih .idle)
      · rw [step, hstep]
        exact ih hs
    cases h with
    | idle => exact hidle
    | inside hread hlow hcompletes =>
      rw [runFrom_cons]
      obtain ⟨c, hc, hstep⟩ | ⟨s, hstep, hs⟩ | hstep := step_cases (.inside hread hlow hcompletes) b
      · rw [hstep, List.append_cons, ← hc]
        exact .char c (ih .idle)
      · rw [hstep, List.append_cons]
        exact ih hs
      · -- The byte is read anew, behind a malformed sequence.
        rw [runFrom_cons, step] at hidle
        rw [hstep, List.cons_append]
        exact .malformed hread hidle

theorem pieces_run (bytes : List UInt8) : Pieces bytes (decoder.run bytes) :=
  Pending.idle.pieces bytes

def asciiOf (bytes : List UInt8) : List Char :=
  (bytes.filter (· < 0x80)).map fun b ↦ Char.ofNat b.toNat

theorem asciiOf_append (xs ys : List UInt8) : asciiOf (xs ++ ys) = asciiOf xs ++ asciiOf ys := by
  rw [asciiOf, List.filter_append, List.map_append, asciiOf, asciiOf]

theorem asciiOf_eq_nil {bytes : List UInt8} (h : ∀ b ∈ bytes, 0x80 ≤ b) : asciiOf bytes = [] := by
  rw [asciiOf, List.map_eq_nil_iff, List.filter_eq_nil_iff]
  intro b hb hlt
  exact absurd (of_decide_eq_true hlt) (Nat.not_lt.mpr (h b hb))

theorem asciiOf_utf8EncodeChar (c : Char) :
    asciiOf (String.utf8EncodeChar c) = [c].filter (·.toNat < 0x80) := by
  by_cases hc : c.toNat < 0x80
  · have hb : (UInt8.ofNat c.toNat).toNat = c.toNat :=
      UInt8.toNat_ofNat_of_lt' (Nat.lt_trans hc (by decide))
    have hlt : UInt8.ofNat c.toNat < 0x80 := UInt8.lt_iff_toNat_lt.mpr (by rwa [hb])
    rw [utf8EncodeChar_ascii hc, asciiOf, List.filter_cons_of_pos (by simpa using hlt),
      List.filter_cons_of_pos (by simpa using hc), List.filter_nil, List.filter_nil,
      List.map_singleton, hb, Char.ofNat_toNat]
  · rw [List.filter_cons_of_neg (by simpa using hc), List.filter_nil]
    exact asciiOf_eq_nil fun b hb ↦ le_of_mem_utf8EncodeChar (Nat.le_of_not_lt hc) hb

theorem Pieces.ascii {bytes : List UInt8} {places : List Place} (h : Pieces bytes places) :
    (places.map (·.getD '\ufffd')).filter (·.toNat < 0x80) = asciiOf bytes := by
  induction h with
  | nil => rfl
  | char c _ ih =>
    rw [asciiOf_append, asciiOf_utf8EncodeChar, ← ih, ← List.filter_append]
    rfl
  | malformed hbroken _ ih =>
    rw [asciiOf_append, asciiOf_eq_nil hbroken, List.nil_append, ← ih]
    rfl

theorem Pieces.exists_encode {bytes : List UInt8} {places : List Place} (h : Pieces bytes places)
    (hplaces : none ∉ places) : ∃ cs, bytes = encode cs ∧ places = cs.map some := by
  induction h with
  | nil => exact ⟨[], rfl, rfl⟩
  | char c _ ih =>
    obtain ⟨cs, rfl, rfl⟩ := ih fun hmem ↦ hplaces (List.mem_cons_of_mem _ hmem)
    exact ⟨c :: cs, rfl, rfl⟩
  | malformed _ _ _ => exact absurd List.mem_cons_self hplaces

theorem isValidUTF8_iff (bytes : List UInt8) :
    bytes.toByteArray.IsValidUTF8 ↔ ∃ cs, bytes = encode cs := by
  constructor
  · intro ⟨cs, hcs⟩
    exact ⟨cs, List.toByteArray_inj.mp hcs⟩
  · intro ⟨cs, hcs⟩
    exact ⟨cs, congrArg List.toByteArray hcs⟩

theorem isValidUTF8_iff_run (bytes : List UInt8) :
    bytes.toByteArray.IsValidUTF8 ↔ none ∉ decoder.run bytes := by
  rw [isValidUTF8_iff]
  constructor
  · intro ⟨cs, hcs⟩
    have hrun : decoder.run bytes = cs.map some := hcs ▸ undoes.run_encode cs
    simp [hrun]
  · intro h
    obtain ⟨cs, hcs, -⟩ := (pieces_run bytes).exists_encode h
    exact ⟨cs, hcs⟩

end Utf8

open Utf8

theorem withoutMark_cases (bytes : List UInt8) :
    bytes = utf8.mark ++ withoutMark bytes ∨ bytes = withoutMark bytes := by
  unfold withoutMark
  split
  · exact .inl rfl
  · exact .inr rfl

theorem asciiOf_withoutMark (bytes : List UInt8) :
    asciiOf (withoutMark bytes) = asciiOf bytes := by
  obtain h | h := withoutMark_cases bytes
  · conv_rhs => rw [h, asciiOf_append]
    rfl
  · exact congrArg asciiOf h.symm

/-- A mark in front makes no bytes well-formed or malformed. -/
theorem isValidUTF8_iff_withoutMark (bytes : List UInt8) :
    bytes.toByteArray.IsValidUTF8 ↔ none ∉ Utf8.decoder.run (withoutMark bytes) := by
  rw [isValidUTF8_iff_run]
  obtain h | h := withoutMark_cases bytes
  · have hrun : Utf8.decoder.run bytes = some '\ufeff' :: Utf8.decoder.run (withoutMark bytes) := by
      conv_lhs => rw [h]
      exact Utf8.undoes.run_append ['\ufeff'] _
    rw [hrun, List.mem_cons, or_iff_right (by decide)]
  · rw [← h]

variable [LegacyDecoders]

theorem ascii_text_utf8 (bytes : List UInt8) :
    (utf8.decode bytes).text.toList.filter (·.toNat < 0x80) = asciiOf bytes := by
  rw [decode_utf8, Decoded.ofPlaces, String.toList_ofList, (pieces_run _).ascii,
    asciiOf_withoutMark]

theorem decode_utf8_of_valid {bytes : List UInt8} (h : bytes.toByteArray.IsValidUTF8) :
    (utf8.decode bytes).malformed = false ∧
      (utf8.decode bytes).text.toUTF8.data.toList = withoutMark bytes := by
  rw [isValidUTF8_iff_withoutMark] at h
  obtain ⟨cs, hcs, hrun⟩ := (pieces_run (withoutMark bytes)).exists_encode h
  have hdecoded : utf8.decode bytes = ⟨String.ofList cs, false⟩ := by
    rw [decode_utf8]
    exact Decoder.decode_eq_of_run hrun
  rw [hdecoded, Text.toList_toUTF8, String.toList_ofList, hcs]
  exact ⟨rfl, rfl⟩

theorem decode_utf8_of_not_valid {bytes : List UInt8} (h : ¬bytes.toByteArray.IsValidUTF8) :
    (utf8.decode bytes).malformed = true ∧ '\ufffd' ∈ (utf8.decode bytes).text.toList := by
  rw [isValidUTF8_iff_withoutMark, not_not] at h
  rw [decode_utf8, Decoded.ofPlaces, String.toList_ofList]
  exact ⟨List.any_eq_true.mpr ⟨none, h, rfl⟩, List.mem_map.mpr ⟨none, h, rfl⟩⟩

end Charset

open Charset

variable [LegacyDecoders]

/-- The ASCII characters of a text decoded from UTF-8 are the ASCII bytes of the document.
Malformed bytes are reported, and stand in the text as U+FFFD. If there are none, the text has the
bytes of the document, less a leading mark. -/
theorem ascii_kept (bytes : List UInt8) :
    ∃ text log, decodeText "UTF-8" bytes = ⟨.ok text, log⟩ ∧
      text.toList.filter (·.toNat < 0x80) =
        (bytes.filter (· < 0x80)).map (fun b ↦ Char.ofNat b.toNat) ∧
      (bytes.toByteArray.IsValidUTF8 ∧ log = [] ∧
          text.toUTF8.data.toList = withoutMark bytes ∨
        ¬bytes.toByteArray.IsValidUTF8 ∧ log = [.malformed .utf8] ∧ '\ufffd' ∈ text.toList) := by
  refine ⟨_, _, decodeText_eq charsetOf_default bytes, ascii_text_utf8 bytes, ?_⟩
  rw [malformedEvents]
  by_cases h : bytes.toByteArray.IsValidUTF8
  · obtain ⟨hmalformed, htext⟩ := decode_utf8_of_valid h
    refine .inl ⟨h, ?_, htext⟩
    rw [hmalformed]
    rfl
  · obtain ⟨hmalformed, htext⟩ := decode_utf8_of_not_valid h
    refine .inr ⟨h, ?_, htext⟩
    rw [hmalformed]
    rfl

example : Utf8.decoder.decode [0x28, 0xE2, 0x82, 0x29, 0xF0, 0x9F, 0x5D] =
    ⟨"(\ufffd)\ufffd]", true⟩ := by
  decide +kernel

end ShownText
