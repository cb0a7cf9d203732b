import ShownText.PostScript.Number
import ShownText.Proofs.Grammar

namespace ShownText.PostScript

inductive Mantissa : List Char → Prop
  | digits {whole : List Char} : (∀ c ∈ whole, c.isDigit = true) → Mantissa whole
  | point {whole fraction : List Char} : (∀ c ∈ whole, c.isDigit = true) →
      (∀ c ∈ fraction, c.isDigit = true) → Mantissa (whole ++ '.' :: fraction)

inductive Signs : List Char → Prop
  | none : Signs []
  | plus : Signs ['+']
  | minus : Signs ['-']

inductive Numeral : List Char → Prop
  | radix {base digits : List Char} : base ≠ [] → (∀ c ∈ base, c.isDigit = true) →
      digits ≠ [] → (∀ c ∈ digits, c.isAlphanum = true) → Numeral (base ++ '#' :: digits)
  | decimal {sign mantissa : List Char} : Signs sign → Mantissa mantissa → mantissa ≠ [] →
      Numeral (sign ++ mantissa)
  | scientific {sign mantissa sign' digits : List Char} {mark : Char} : Signs sign →
      Mantissa mantissa → (sign ≠ [] ∨ mantissa ≠ []) → isExponentMark mark = true →
      Signs sign' → digits ≠ [] → (∀ c ∈ digits, c.isDigit = true) →
      Numeral (sign ++ (mantissa ++ mark :: (sign' ++ digits)))

theorem ne_of_isDigit {c d : Char} (h : c.isDigit = true) (hd : d.isDigit = false) : c ≠ d := by
  rintro rfl
  rw [h] at hd
  cases hd

theorem Mantissa.char {cs : List Char} (h : Mantissa cs) {c : Char} (hc : c ∈ cs) :
    c.isDigit = true ∨ c = '.' := by
  cases h with
  | digits hd => exact .inl (hd c hc)
  | point hw hf =>
    simp only [List.mem_append, List.mem_cons] at hc
    rcases hc with hc | rfl | hc
    · exact .inl (hw c hc)
    · exact .inr rfl
    · exact .inl (hf c hc)

theorem count_point {cs : List Char} (h : ∀ c ∈ cs, c.isDigit = true) : cs.count '.' = 0 := by
  refine List.count_eq_zero.mpr ?_
  intro hc
  exact absurd (h _ hc) (by decide)

theorem Mantissa.isMantissa {cs : List Char} (h : Mantissa cs) : isMantissa cs = true := by
  have hall : cs.all (fun c ↦ c.isDigit || c == '.') = true :=
    List.all_eq_true.mpr fun c hc ↦ by simpa using h.char hc
  have hcount : cs.count '.' ≤ 1 := by
    cases h with
    | digits hd => rw [count_point hd]; exact Nat.zero_le 1
    | point hw hf =>
      rw [List.count_append, List.count_cons_self, count_point hw, count_point hf]
  simp [PostScript.isMantissa, hall, hcount]

theorem dropSign_append {sign cs : List Char} (h : Signs sign)
    (hc : ∀ c ∈ cs.head?, isSign c = false) : dropSign (sign ++ cs) = cs := by
  cases h with
  | none =>
    cases cs with
    | nil => rfl
    | cons c cs => simp [dropSign, hc c rfl]
  | plus | minus => rfl

theorem isSign_of_isDigit {c : Char} (h : c.isDigit = true) : isSign c = false := by
  have hplus : c ≠ '+' := ne_of_isDigit h (by decide)
  have hminus : c ≠ '-' := ne_of_isDigit h (by decide)
  simp [isSign, hplus, hminus]

theorem Mantissa.isSign {cs : List Char} (h : Mantissa cs) {c : Char} (hc : c ∈ cs) :
    isSign c = false := by
  rcases h.char hc with hd | rfl
  · exact isSign_of_isDigit hd
  · rfl

theorem Mantissa.isExponentMark {cs : List Char} (h : Mantissa cs) {c : Char} (hc : c ∈ cs) :
    isExponentMark c = false := by
  rcases h.char hc with hd | rfl
  · have he : c ≠ 'e' := ne_of_isDigit hd (by decide)
    have hE : c ≠ 'E' := ne_of_isDigit hd (by decide)
    simp [PostScript.isExponentMark, he, hE]
  · rfl

theorem isExponent_append {sign digits : List Char} (h : Signs sign) (hne : digits ≠ [])
    (hd : ∀ c ∈ digits, c.isDigit = true) : isExponent (sign ++ digits) = true := by
  rw [isExponent, dropSign_append h fun c hc ↦ isSign_of_isDigit (hd c (List.mem_of_head? hc))]
  simpa [hne] using hd

theorem isRadixNumber_eq {base : List Char} (hbase : ∀ c ∈ base, c ≠ '#') (digits : List Char) :
    isRadixNumber (base ++ '#' :: digits) = (!base.isEmpty && base.all Char.isDigit &&
      !digits.isEmpty && digits.all Char.isAlphanum) := by
  have hrun : ∀ c ∈ base, (c != '#') = true := by simpa using hbase
  have ht : (base ++ '#' :: digits).takeWhile (· != '#') = base := takeWhile_run hrun (by simp)
  rw [isRadixNumber, ht, List.dropWhile_append_of_pos hrun]
  rfl

theorem isRadixNumber_of_not_mem {cs : List Char} (h : ∀ c ∈ cs, c ≠ '#') :
    isRadixNumber cs = false := by
  have hdrop : cs.dropWhile (· != '#') = [] := List.dropWhile_eq_nil_iff.mpr (by simpa using h)
  simp [isRadixNumber, hdrop]

theorem isRadixNumber_append {base digits : List Char} (hb : base ≠ [])
    (hbase : ∀ c ∈ base, c.isDigit = true) (hd : digits ≠ [])
    (hdigits : ∀ c ∈ digits, c.isAlphanum = true) :
    isRadixNumber (base ++ '#' :: digits) = true := by
  rw [isRadixNumber_eq fun c hc ↦ ne_of_isDigit (hbase c hc) (by decide)]
  simpa [hb, hd] using ⟨hbase, hdigits⟩

theorem isDecimalNumber_append {sign mantissa : List Char} (hs : Signs sign)
    (hm : Mantissa mantissa) (hne : mantissa ≠ []) : isDecimalNumber (sign ++ mantissa) = true := by
  have hbody : dropSign (sign ++ mantissa) = mantissa :=
    dropSign_append hs fun c hc ↦ hm.isSign (List.mem_of_head? hc)
  have hrun : ∀ c ∈ mantissa, (!isExponentMark c) = true := fun c hc ↦ by
    rw [hm.isExponentMark hc]
    rfl
  have ht : mantissa.takeWhile (!isExponentMark ·) = mantissa := List.takeWhile_eq_self_iff.mpr hrun
  have hdrop : mantissa.dropWhile (!isExponentMark ·) = [] := List.dropWhile_eq_nil_iff.mpr hrun
  simp [isDecimalNumber, hbody, ht, hdrop, hm.isMantissa, hne]

theorem isDecimalNumber_scientific {sign mantissa sign' digits : List Char} {mark : Char}
    (hs : Signs sign) (hm : Mantissa mantissa) (hne : sign ≠ [] ∨ mantissa ≠ [])
    (hmark : isExponentMark mark = true) (hs' : Signs sign') (hd : digits ≠ [])
    (hdigits : ∀ c ∈ digits, c.isDigit = true) :
    isDecimalNumber (sign ++ (mantissa ++ mark :: (sign' ++ digits))) = true := by
  have hsign : isSign mark = false := by
    have hmark' : mark = 'e' ∨ mark = 'E' := by simpa [isExponentMark] using hmark
    rcases hmark' with rfl | rfl <;> rfl
  have hbody : dropSign (sign ++ (mantissa ++ mark :: (sign' ++ digits))) =
      mantissa ++ mark :: (sign' ++ digits) := by
    refine dropSign_append hs fun c hc ↦ ?_
    cases mantissa with
    | nil =>
      obtain rfl : mark = c := by simpa using hc
      exact hsign
    | cons d mantissa =>
      obtain rfl : d = c := by simpa using hc
      exact hm.isSign (by simp)
  have hrun : ∀ c ∈ mantissa, (!isExponentMark c) = true := fun c hc ↦ by
    rw [hm.isExponentMark hc]
    rfl
  have ht : (mantissa ++ mark :: (sign' ++ digits)).takeWhile (!isExponentMark ·) = mantissa :=
    takeWhile_run hrun (by simp [hmark])
  have hdrop : (mantissa ++ mark :: (sign' ++ digits)).dropWhile (!isExponentMark ·) =
      mark :: (sign' ++ digits) := by
    rw [List.dropWhile_append_of_pos hrun, List.dropWhile_cons_of_neg (by simp [hmark])]
  have hsigned : (mantissa ++ mark :: (sign' ++ digits)).length <
      (sign ++ (mantissa ++ mark :: (sign' ++ digits))).length ↔ sign ≠ [] := by
    rw [@List.length_append _ sign, ← List.length_pos_iff]
    omega
  simp only [isDecimalNumber, hbody, ht, hdrop, hsigned, hm.isMantissa,
    isExponent_append hs' hd hdigits]
  simpa using hne

theorem isRegular_of_isAlphanum {c : Char} (h : c.isAlphanum = true) : isRegular c = true := by
  have hne : ∀ d : Char, d.isAlphanum = false → (c == d) = false := by
    intro d hd
    rw [beq_eq_false_iff_ne]
    rintro rfl
    rw [h] at hd
    cases hd
  simp (disch := decide) only [isRegular, endsWord, isWhitespace, isSpecial, hne, Bool.or_false,
    Bool.not_false]

theorem isRegular_of_isDigit {c : Char} (h : c.isDigit = true) : isRegular c = true :=
  isRegular_of_isAlphanum (by simp [Char.isAlphanum, h])

theorem Signs.regular {cs : List Char} (h : Signs cs) : ∀ c ∈ cs, isRegular c = true := by
  cases h <;> exact List.all_eq_true.mp rfl

theorem Mantissa.regular {cs : List Char} (h : Mantissa cs) : ∀ c ∈ cs, isRegular c = true := by
  intro c hc
  rcases h.char hc with hd | rfl
  · exact isRegular_of_isDigit hd
  · rfl

theorem Numeral.regular {cs : List Char} (h : Numeral cs) : ∀ c ∈ cs, isRegular c = true := by
  cases h with
  | radix _ hbase _ hdigits =>
    intro c hc
    simp only [List.mem_append, List.mem_cons] at hc
    rcases hc with hc | rfl | hc
    · exact isRegular_of_isDigit (hbase c hc)
    · rfl
    · exact isRegular_of_isAlphanum (hdigits c hc)
  | decimal hs hm _ =>
    intro c hc
    rcases List.mem_append.mp hc with hc | hc
    · exact hs.regular c hc
    · exact hm.regular c hc
  | @scientific _ _ _ _ mark hs hm _ hmark hs' _ hdigits =>
    have hmark' : mark = 'e' ∨ mark = 'E' := by simpa [isExponentMark] using hmark
    intro c hc
    simp only [List.mem_append, List.mem_cons] at hc
    rcases hc with hc | hc | rfl | hc | hc
    · exact hs.regular c hc
    · exact hm.regular c hc
    · rcases hmark' with rfl | rfl <;> rfl
    · exact hs'.regular c hc
    · exact isRegular_of_isDigit (hdigits c hc)

theorem Numeral.ne_nil {cs : List Char} (h : Numeral cs) : cs ≠ [] := by
  cases h with
  | radix _ _ _ _ => simp
  | decimal _ _ hne => simp [hne]
  | scientific _ _ _ _ _ _ _ => simp

theorem Numeral.isNumber {cs : List Char} (h : Numeral cs) :
    isNumber (String.ofList cs) = true := by
  rw [PostScript.isNumber, String.toList_ofList, Bool.or_eq_true]
  cases h with
  | radix hb hbase hd hdigits => exact .inl (isRadixNumber_append hb hbase hd hdigits)
  | decimal hs hm hne => exact .inr (isDecimalNumber_append hs hm hne)
  | scientific hs hm hne hmark hs' hd hdigits =>
    exact .inr (isDecimalNumber_scientific hs hm hne hmark hs' hd hdigits)

theorem isDigit_of_count_point {cs : List Char} (h : ∀ c ∈ cs, c.isDigit = true ∨ c = '.')
    (hcount : cs.count '.' = 0) : ∀ c ∈ cs, c.isDigit = true := by
  intro c hc
  apply (h c hc).resolve_right
  intro hpoint
  exact List.count_eq_zero.mp hcount (hpoint ▸ hc)

theorem mantissa_of_isMantissa {cs : List Char} (h : isMantissa cs = true) : Mantissa cs := by
  have hparts := h
  simp only [isMantissa, Bool.and_eq_true, List.all_eq_true, Bool.or_eq_true, beq_iff_eq,
    decide_eq_true_eq] at hparts
  obtain ⟨hchars, hcount⟩ := hparts
  by_cases hpoint : '.' ∈ cs
  · obtain ⟨whole, fraction, rfl⟩ := List.append_of_mem hpoint
    simp only [List.mem_append, List.mem_cons] at hchars
    rw [List.count_append, List.count_cons_self] at hcount
    apply Mantissa.point
    · exact isDigit_of_count_point (fun c hc ↦ hchars c (.inl hc)) (by omega)
    · exact isDigit_of_count_point (fun c hc ↦ hchars c (.inr (.inr hc))) (by omega)
  · exact .digits (isDigit_of_count_point hchars (List.count_eq_zero.mpr hpoint))

theorem exists_sign (cs : List Char) : ∃ sign, Signs sign ∧ cs = sign ++ dropSign cs := by
  cases cs with
  | nil => exact ⟨[], .none, rfl⟩
  | cons c cs =>
    rw [dropSign]
    split
    · next hc =>
      have hsign : c = '+' ∨ c = '-' := by simpa [isSign] using hc
      rcases hsign with rfl | rfl
      · exact ⟨['+'], .plus, rfl⟩
      · exact ⟨['-'], .minus, rfl⟩
    · exact ⟨[], .none, rfl⟩

theorem exists_of_isExponent {cs : List Char} (h : isExponent cs = true) : ∃ sign digits,
    Signs sign ∧ digits ≠ [] ∧ (∀ c ∈ digits, c.isDigit = true) ∧ cs = sign ++ digits := by
  obtain ⟨sign, hsign, hcs⟩ := exists_sign cs
  have hdigits : dropSign cs ≠ [] ∧ ∀ c ∈ dropSign cs, c.isDigit = true := by
    simpa [isExponent] using h
  exact ⟨sign, dropSign cs, hsign, hdigits.1, hdigits.2, hcs⟩

theorem exists_of_isDecimalNumber {cs : List Char} (h : isDecimalNumber cs = true) :
    ∃ sign mantissa, Signs sign ∧ Mantissa mantissa ∧
      ((mantissa ≠ [] ∧ cs = sign ++ mantissa) ∨
        (sign ≠ [] ∨ mantissa ≠ []) ∧ ∃ mark sign' digits, isExponentMark mark = true ∧
          Signs sign' ∧ digits ≠ [] ∧ (∀ c ∈ digits, c.isDigit = true) ∧
          cs = sign ++ (mantissa ++ mark :: (sign' ++ digits))) := by
  obtain ⟨sign, hsign, hcs⟩ := exists_sign cs
  have hsigned : (dropSign cs).length < cs.length ↔ sign ≠ [] := by
    have hlength := congrArg List.length hcs
    rw [List.length_append] at hlength
    rw [← List.length_pos_iff]
    omega
  obtain ⟨mantissa, rest, hbody, hrun, hrest⟩ := exists_run (!isExponentMark ·) (dropSign cs)
  have ht := takeWhile_run hrun hrest
  have hd : (mantissa ++ rest).dropWhile (!isExponentMark ·) = rest := by
    have hall := List.takeWhile_append_dropWhile (p := (!isExponentMark ·)) (l := mantissa ++ rest)
    rw [ht] at hall
    exact List.append_cancel_left hall
  rw [isDecimalNumber, Bool.and_eq_true, hbody, ht, hd] at h
  refine ⟨sign, mantissa, hsign, mantissa_of_isMantissa h.1, ?_⟩
  cases rest with
  | nil =>
    have hne : mantissa ≠ [] := by simpa using h.2
    rw [hbody, List.append_nil] at hcs
    exact .inl ⟨hne, hcs⟩
  | cons mark exponent =>
    have hmark : isExponentMark mark = true := by simpa using hrest mark rfl
    have hparts : (sign ≠ [] ∨ mantissa ≠ []) ∧ isExponent exponent = true := by
      rw [← hsigned, hbody]
      simpa using h.2
    obtain ⟨sign', digits, hsign', hne, hdigits, rfl⟩ := exists_of_isExponent hparts.2
    rw [hbody] at hcs
    exact .inr ⟨hparts.1, mark, sign', digits, hmark, hsign', hne, hdigits, hcs⟩

/-- A word is a number if and only if its characters are a numeral. -/
theorem isNumber_iff (word : String) : isNumber word = true ↔ Numeral word.toList := by
  constructor
  · intro h
    rcases Bool.or_eq_true_iff.mp h with hradix | hdecimal
    · obtain ⟨base, rest, hword, hbase, hrest⟩ := exists_run (· != '#') word.toList
      rw [hword] at hradix ⊢
      cases rest with
      | nil =>
        rw [isRadixNumber_of_not_mem (by simpa using hbase)] at hradix
        cases hradix
      | cons c digits =>
        obtain rfl : c = '#' := by simpa using hrest c rfl
        rw [isRadixNumber_eq (by simpa using hbase)] at hradix
        simp only [Bool.and_eq_true, Bool.not_eq_true', List.isEmpty_eq_false_iff,
          List.all_eq_true] at hradix
        obtain ⟨⟨⟨hb, hdigits⟩, hd⟩, halnum⟩ := hradix
        exact .radix hb hdigits hd halnum
    · obtain ⟨sign, mantissa, hs, hm, ⟨hne, hword⟩ | ⟨hne, mark, sign', digits, hmark, hs', hd,
        hdigits, hword⟩⟩ := exists_of_isDecimalNumber hdecimal
      · rw [hword]
        exact .decimal hs hm hne
      · rw [hword]
        exact .scientific hs hm hne hmark hs' hd hdigits
  · intro h
    have hnumber := h.isNumber
    rwa [String.ofList_toList] at hnumber

end ShownText.PostScript
