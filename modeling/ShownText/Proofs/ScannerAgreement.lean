import ShownText.Proofs.Scanner

namespace ShownText.PostScript.Scanner

open Text

variable {text : String} {offset : ℕ} {cs : List Char}

theorem from?_eq {c : Cursor} (h : c.IsIn text) : from? text c.offset = .ok c := by
  rw [from?, h.skipBytes?]

theorem charAt?_eq (h : Cursor.IsIn ⟨offset, cs⟩ text) : charAt? text offset = .ok cs.head? := by
  rw [charAt?, from?_eq h]
  rfl

theorem byteAt?_eq (h : Cursor.IsIn ⟨offset, cs⟩ text) :
    byteAt? text offset = (encode cs).head? := h.getElem?_bytes

theorem byteAt?_eq_some_iff (h : Cursor.IsIn ⟨offset, cs⟩ text) (d : Char) (hd : d.toNat < 0x80) :
    byteAt? text offset = some (UInt8.ofNat d.toNat) ↔ cs.head? = some d := by
  rw [byteAt?_eq h, head?_encode_eq_some_iff hd]

theorem slice_eq {xs ys : List Char} (h : Cursor.IsIn ⟨offset, xs ++ ys⟩ text) :
    slice text offset (offset + byteLength xs) = .ok (String.ofList xs) := by
  have hlen : (xs ++ ys).length - ys.length = xs.length := by
    rw [List.length_append, Nat.add_sub_cancel]
  have hfirst := from?_eq h
  have hlast := from?_eq h.advance
  simp only at hfirst hlast
  rw [slice, hfirst, hlast]
  simp only [bind, Except.bind, pure, Except.pure, hlen, List.take_left]

theorem passBytes_eq {p : UInt8 → Bool} {q : Char → Bool}
    (hpq : ∀ c, ∀ b ∈ String.utf8EncodeChar c, p b = q c) {c : Cursor} (h : c.IsIn text) :
    passBytes text p c.offset = (c.skipWhile q).offset := by
  rw [passBytes, h.drop_bytes, takeWhile_encode hpq, length_encode]
  rfl

theorem asciiClass_endsWord : AsciiClass endsWord := by
  intro c hc
  have hne : ∀ d : Char, d.toNat < 0x80 → (c == d) = false := fun d hd ↦ asciiClass_beq hd c hc
  simp (disch := decide) only [endsWord, isWhitespace, isSpecial, hne, Bool.or_false]

/-- All characters that end a word are ASCII, so a byte of any other character is regular. -/
theorem isRegular_byte {c : Char} {b : UInt8} (hb : b ∈ String.utf8EncodeChar c) :
    isRegular (Char.ofNat b.toNat) = isRegular c :=
  congrArg not (asciiClass_endsWord.byte hb)

theorem passRegular_eq {c : Cursor} (h : c.IsIn text) :
    passRegular text c.offset = (c.skipWhile isRegular).offset :=
  passBytes_eq (fun _ _ hb ↦ isRegular_byte hb) h

theorem slice_regular {c : Cursor} (h : c.IsIn text) :
    slice text c.offset (passRegular text c.offset) =
      .ok (String.ofList (c.rest.takeWhile isRegular)) := by
  rw [passRegular_eq h, Cursor.skipWhile]
  refine @slice_eq text c.offset _ (c.rest.dropWhile isRegular) ?_
  rwa [List.takeWhile_append_dropWhile]

theorem isLineEnd_byte {c : Char} {b : UInt8} (hb : b ∈ String.utf8EncodeChar c) :
    (b != 0x0A && b != 0x0D) = !isLineEnd c := by
  have hlf : (b == 0x0A) = (c == '\n') := @beq_of_mem_utf8EncodeChar c '\n' (by decide) b hb
  have hcr : (b == 0x0D) = (c == '\r') := @beq_of_mem_utf8EncodeChar c '\r' (by decide) b hb
  rw [isLineEnd, bne, bne, hlf, hcr, Bool.not_or]

theorem passComment_eq (h : Cursor.IsIn ⟨offset, '%' :: cs⟩ text) :
    passComment text offset = (Cursor.skipWhile (!isLineEnd ·) ⟨offset + 1, cs⟩).offset :=
  passBytes_eq (fun _ _ hb ↦ isLineEnd_byte hb) h.advance_one

theorem octalDigit?_eq (c : Char) : ∃ b bs, String.utf8EncodeChar c = b :: bs ∧
    octalDigit? c = if 0x30 ≤ b ∧ b ≤ 0x37 then some (b.toNat - 0x30) else none := by
  rcases Nat.lt_or_ge c.toNat 0x80 with hc | hc
  · refine ⟨_, [], utf8EncodeChar_ascii hc, ?_⟩
    simp only [octalDigit?, UInt8.le_iff_toNat_le, toNat_byte_ascii hc]
    rfl
  · obtain ⟨b, hmem, bs, hbs⟩ := exists_first_byte c
    have hb := le_of_mem_utf8EncodeChar hc hmem
    refine ⟨b, bs, hbs, ?_⟩
    have hc' : ¬('0' ≤ c ∧ c ≤ '7') := fun h ↦ by
      have h' : c.toNat ≤ 0x37 := h.2
      omega
    have hb' : ¬(0x30 ≤ b ∧ b ≤ 0x37) := fun h ↦ by
      have h' : b.toNat ≤ 0x37 := h.2
      omega
    rw [octalDigit?, if_neg hc', if_neg hb']

theorem utf8Size_of_octalDigit? {c : Char} {digit : ℕ} (h : octalDigit? c = some digit) :
    c.utf8Size = 1 := by
  unfold octalDigit? at h
  split at h
  · next hc =>
    have hc' : c.toNat ≤ 0x37 := hc.2
    exact utf8Size_ascii (by omega)
  · cases h

theorem octal_succ (h : Cursor.IsIn ⟨offset, cs⟩ text) (code more : ℕ) :
    octal text code offset (more + 1) =
      match cs.head?.bind octalDigit? with
      | some digit => octal text (code * 8 + digit) (offset + 1) more
      | none => (code, offset) := by
  rw [octal, byteAt?_eq h]
  cases cs with
  | nil => rfl
  | cons c cs =>
    obtain ⟨b, bs, hbs, hd⟩ := octalDigit?_eq c
    rw [encode_cons, hbs, List.cons_append, List.head?_cons, List.head?_cons, Option.bind_some, hd]
    simp only
    split <;> rfl

theorem close?_octal {more : ℕ} (h : more = 0 ∨ cs.head?.bind octalDigit? = none)
    (depth code : ℕ) (value : List Char) :
    Literal.close? ⟨depth, .octal code more, value⟩ offset cs =
      Literal.close? ⟨depth, .plain, Char.ofNat code :: value⟩ offset cs := by
  cases cs with
  | nil => rfl
  | cons c cs =>
    have hr : Literal.Partial.read ⟨depth, .octal code more, value⟩ c =
        Literal.Partial.read ⟨depth, .plain, Char.ofNat code :: value⟩ c := by
      rcases h with rfl | h
      · cases hd : octalDigit? c <;> simp only [Literal.Partial.read, hd] <;> rfl
      · rw [List.head?_cons, Option.bind_some] at h
        simp only [Literal.Partial.read, h]
        rfl
    have hf : Literal.Partial.finish ⟨depth, .octal code more, value⟩ =
        Literal.Partial.finish ⟨depth, .plain, Char.ofNat code :: value⟩ := rfl
    rw [Literal.close?, Literal.close?, hr, hf]

theorem close?_octal_succ {c : Char} {digit : ℕ} (h : octalDigit? c = some digit)
    (depth code more : ℕ) (value : List Char) :
    Literal.close? ⟨depth, .octal code (more + 1), value⟩ offset (c :: cs) =
      Literal.close? ⟨depth, .octal (code * 8 + digit) more, value⟩ (offset + 1) cs := by
  rw [Literal.close?, utf8Size_of_octalDigit? h]
  cases more with
  | zero =>
    simp only [Literal.Partial.read, h]
    exact (close?_octal (.inl rfl) depth _ value).symm
  | succ more => simp only [Literal.Partial.read, h]

theorem octal_fits (h : Cursor.IsIn ⟨offset, cs⟩ text) (depth code more : ℕ) (value : List Char) :
    ∃ rest, Cursor.IsIn ⟨(octal text code offset more).2, rest⟩ text ∧ rest.length ≤ cs.length ∧
      Literal.close? ⟨depth, .octal code more, value⟩ offset cs =
        Literal.close? ⟨depth, .plain, Char.ofNat (octal text code offset more).1 :: value⟩
          (octal text code offset more).2 rest := by
  induction more generalizing offset cs code with
  | zero => exact ⟨cs, h, Nat.le_refl _, close?_octal (.inl rfl) depth code value⟩
  | succ more ih =>
    rw [octal_succ h]
    cases hd : cs.head?.bind octalDigit? with
    | none => exact ⟨cs, h, Nat.le_refl _, close?_octal (.inr hd) depth code value⟩
    | some digit =>
      -- A digit is one byte, so the escape goes on at the next boundary.
      obtain ⟨c, hc, hd⟩ := Option.bind_eq_some_iff.mp hd
      obtain ⟨cs, rfl⟩ := List.head?_eq_some_iff.mp hc
      have hnext := h.advance_one
      rw [utf8Size_of_octalDigit? hd] at hnext
      obtain ⟨rest, hin, hlen, hcl⟩ := ih hnext (code * 8 + digit)
      exact ⟨rest, hin, Nat.le_succ_of_le hlen, by rw [close?_octal_succ hd, hcl]⟩

/-- What a piece does from a place on is what the lexer does there. -/
def Piece.Fits (text : String) (depth : ℕ) (value : List Char) (c : Cursor) : Piece → Prop
  | .unclosed => Literal.close? ⟨depth, .plain, value⟩ c.offset c.rest = none
  | .closed stop => ∃ rest, Cursor.IsIn ⟨stop, rest⟩ text ∧
      Literal.close? ⟨depth, .plain, value⟩ c.offset c.rest =
        some (String.ofList value.reverse, ⟨stop, rest⟩)
  | .again depth' value' pos => ∃ rest, Cursor.IsIn ⟨pos, rest⟩ text ∧
      rest.length < c.rest.length ∧
      Literal.close? ⟨depth, .plain, value⟩ c.offset c.rest =
        Literal.close? ⟨depth', .plain, value'⟩ pos rest

theorem close?_lineEnd (h : cs.head? ≠ some '\n') (depth : ℕ) (value : List Char) :
    Literal.close? ⟨depth, .lineEnd, value⟩ offset cs =
      Literal.close? ⟨depth, .plain, value⟩ offset cs := by
  cases cs with
  | nil => rfl
  | cons c cs =>
    have hc : c ≠ '\n' := by simpa using h
    have hr : Literal.Partial.read ⟨depth, .lineEnd, value⟩ c =
        Literal.Partial.read ⟨depth, .plain, value⟩ c := if_neg hc
    have hf : Literal.Partial.finish ⟨depth, .lineEnd, value⟩ =
        Literal.Partial.finish ⟨depth, .plain, value⟩ := rfl
    rw [Literal.close?, Literal.close?, hr, hf]

theorem escapePiece_fits {c : Char} (h : Cursor.IsIn ⟨offset, c :: cs⟩ text) (depth : ℕ)
    (value : List Char) : ∃ depth' value' pos rest,
      escapePiece text depth value c offset = .again depth' value' pos ∧
      Cursor.IsIn ⟨pos, rest⟩ text ∧ rest.length ≤ cs.length ∧
      Literal.close? ⟨depth, .escape, value⟩ offset (c :: cs) =
        Literal.close? ⟨depth', .plain, value'⟩ pos rest := by
  have hnext := h.advance_one
  unfold escapePiece
  split
  iterate 5 exact ⟨_, _, _, cs, rfl, hnext, Nat.le_refl _, rfl⟩
  · have hb : byteAt? text (offset + 1) = some 0x0A ↔ cs.head? = some '\n' :=
      byteAt?_eq_some_iff hnext '\n' (by decide)
    by_cases hlf : cs.head? = some '\n'
    · rw [if_pos (hb.mpr hlf)]
      obtain ⟨cs, rfl⟩ := List.head?_eq_some_iff.mp hlf
      exact ⟨_, _, _, cs, rfl, hnext.advance_one, Nat.le_succ _, rfl⟩
    · rw [if_neg (mt hb.mp hlf)]
      exact ⟨_, _, _, cs, rfl, hnext, Nat.le_refl _, close?_lineEnd hlf depth value⟩
  · exact ⟨_, _, _, cs, rfl, hnext, Nat.le_refl _, rfl⟩
  · have hread : Literal.Partial.readEscaped ⟨depth, .escape, value⟩ c =
        match octalDigit? c with
        | some digit => ⟨depth, .octal digit 2, value⟩
        | none => ⟨depth, .plain, c :: value⟩ := by
      cases hd : octalDigit? c <;> simp [Literal.Partial.readEscaped, Literal.Partial.push, *]
    have hcl : Literal.close? ⟨depth, .escape, value⟩ offset (c :: cs) =
        Literal.close? (Literal.Partial.readEscaped ⟨depth, .escape, value⟩ c)
          (offset + c.utf8Size) cs := rfl
    rw [hcl, hread]
    cases hd : octalDigit? c with
    | some digit =>
      rw [utf8Size_of_octalDigit? hd] at hnext ⊢
      obtain ⟨rest, hin, hlen, hcl⟩ := octal_fits hnext depth digit 2 value
      exact ⟨_, _, _, rest, rfl, hin, hlen, hcl⟩
    | none => exact ⟨_, _, _, cs, rfl, hnext, Nat.le_refl _, rfl⟩

theorem literalPiece_fits (h : Cursor.IsIn ⟨offset, cs⟩ text) (depth : ℕ) (value : List Char) :
    ∃ piece, literalPiece text depth value offset = .ok piece ∧
      piece.Fits text depth value ⟨offset, cs⟩ := by
  unfold literalPiece
  rw [charAt?_eq h]
  cases cs with
  | nil => exact ⟨.unclosed, rfl, rfl⟩
  | cons c cs =>
    have hnext := h.advance_one
    rw [List.head?_cons]
    split
    · next hc => cases hc
    · next hc => cases hc
    · next hc =>
      obtain rfl : c = '\\' := by simpa using hc
      have hchar : charAt? text (offset + 1) = .ok cs.head? := charAt?_eq hnext
      rw [hchar]
      cases cs with
      | nil => exact ⟨_, rfl, [], hnext, Nat.zero_lt_succ _, rfl⟩
      | cons c cs =>
        obtain ⟨depth', value', pos, rest, hu, hin, hlen, hcl⟩ := escapePiece_fits hnext depth value
        refine ⟨_, congrArg Except.ok hu, rest, hin, ?_, hcl⟩
        exact Nat.lt_of_le_of_lt hlen (Nat.lt_succ_of_lt (Nat.lt_succ_self _))
    · next hc =>
      obtain rfl : c = '(' := by simpa using hc
      exact ⟨_, rfl, cs, hnext, Nat.lt_succ_self _, rfl⟩
    · next hc =>
      obtain rfl : c = ')' := by simpa using hc
      refine ⟨_, rfl, ?_⟩
      by_cases hd : depth = 0
      · subst hd
        exact ⟨cs, hnext, rfl⟩
      · have hr : Literal.Partial.read ⟨depth, .plain, value⟩ ')' =
            some ⟨depth - 1, .plain, ')' :: value⟩ := if_neg hd
        rw [if_neg hd]
        refine ⟨cs, hnext, Nat.lt_succ_self _, ?_⟩
        rw [Literal.close?, hr]
        rfl
    · next d hbackslash hopen hclose hc =>
      obtain rfl : c = d := by simpa using hc
      have hr := Literal.read_plain (c := c) (by rintro (rfl | rfl | rfl) <;> simp_all) depth value
      refine ⟨_, rfl, cs, hnext, Nat.lt_succ_self _, ?_⟩
      rw [Literal.close?, hr]

theorem literal_eq (h : Cursor.IsIn ⟨offset, cs⟩ text) (depth : ℕ) (value : List Char) :
    literal text depth value offset =
      .ok (((Literal.close? ⟨depth, .plain, value⟩ offset cs).getD
        ("", ⟨text.utf8ByteSize, []⟩)).map id Cursor.offset) := by
  -- Every piece but the last leaves fewer characters, so the induction is on their number.
  induction hn : cs.length using Nat.strongRecOn generalizing offset cs depth value with
  | ind n ih =>
    obtain ⟨piece, hu, hfits⟩ := literalPiece_fits h depth value
    rw [literal]
    split
    · next slip hl => rw [hu] at hl; cases hl
    · next hl =>
      obtain rfl := Except.ok.inj (hu.symm.trans hl)
      rw [show Literal.close? ⟨depth, .plain, value⟩ offset cs = none from hfits]
      rfl
    · next stop hl =>
      obtain rfl := Except.ok.inj (hu.symm.trans hl)
      obtain ⟨rest, hin, hcl⟩ := hfits
      simp only at hcl
      rw [hcl]
      rfl
    · next depth' value' pos hl =>
      obtain rfl := Except.ok.inj (hu.symm.trans hl)
      obtain ⟨rest, hin, hlen, hcl⟩ := hfits
      simp only at hcl hlen
      rw [hcl, ih rest.length (hn ▸ hlen) hin depth' value' rfl]

theorem literal_start_eq (h : Cursor.IsIn ⟨offset, cs⟩ text) :
    literal text 0 [] offset = .ok ((Literal.read ⟨offset, cs⟩).map id Cursor.offset) := by
  rw [literal_eq h, Literal.read, Cursor.toEnd, Cursor.stop, h.offset_add]
  rfl

theorem hexDigits_eq (h : Cursor.IsIn ⟨offset, cs⟩ text) :
    hexDigits text offset = .ok ((cs.takeWhile (· != '>')).filter (!isWhitespace ·),
      (Cursor.skipWhile (· != '>') ⟨offset, cs⟩).offset) := by
  induction cs generalizing offset with
  | nil =>
    rw [hexDigits]
    split <;> simp_all [charAt?_eq h, Cursor.skipWhile]
  | cons c cs ih =>
    have hc := charAt?_eq h
    rw [hexDigits]
    split
    · next hl => rw [hc] at hl; cases hl
    · next hl => rw [hc] at hl; cases hl
    · next hl =>
      obtain rfl : c = '>' := by simpa [hc] using hl
      simp [Cursor.skipWhile]
    · next d hgt hl =>
      obtain rfl : c = d := by simpa [hc] using hl
      have hne : (c != '>') = true := by simpa using hgt
      have ht : (c :: cs).takeWhile (· != '>') = c :: cs.takeWhile (· != '>') :=
        List.takeWhile_cons_of_pos hne
      rw [ih h.advance_one]
      simp only [Except.map, Cursor.skipWhile, ht, List.filter_cons, byteLength_cons, Nat.add_assoc]
      cases isWhitespace c <;> rfl

theorem hex_eq (h : Cursor.IsIn ⟨offset, cs⟩ text) :
    hex text offset = .ok ((Hex.read ⟨offset, cs⟩).map id Cursor.offset) := by
  obtain ⟨run, rest, rfl, hrun, hrest⟩ := exists_run (· != '>') cs
  have hsize := h.advance.offset_add
  have hskip := skipWhile_run hrun hrest offset
  rw [hex, hexDigits_eq h, Hex.read, hskip]
  cases rest with
  | nil =>
    simp only [byteLength_nil, Nat.add_zero] at hsize
    simp [Except.map, Cursor.skipOne, hsize]
  | cons c rest =>
    obtain rfl : c = '>' := by simpa using hrest
    have hlt : offset + byteLength run < text.utf8ByteSize := by
      rw [← hsize, byteLength_cons]
      exact Nat.lt_add_of_pos_right (Nat.lt_add_right _ (Char.utf8Size_pos _))
    simp only [Except.map, if_pos hlt]
    rfl

theorem look_regular {first : Char} (h : Cursor.IsIn ⟨offset, first :: cs⟩ text)
    (hr : isRegular first = true) : look text offset =
      .ok (.token (.word (String.ofList (first :: cs.takeWhile isRegular)))
        (Cursor.skipWhile isRegular ⟨offset + first.utf8Size, cs⟩).offset) := by
  have hc : charAt? text offset = .ok (some first) := charAt?_eq h
  have hw := isWhitespace_of_isRegular hr
  have ht : (first :: cs).takeWhile isRegular = first :: cs.takeWhile isRegular :=
    List.takeWhile_cons_of_pos hr
  have hstop : passRegular text offset =
      offset + first.utf8Size + byteLength (cs.takeWhile isRegular) := by
    have hp := passRegular_eq h
    simp only [Cursor.skipWhile, ht, byteLength_cons] at hp
    rw [hp, Nat.add_assoc]
  have hne : passRegular text offset ≠ offset := by
    have hpos := first.utf8Size_pos
    omega
  have hslice := slice_regular h
  simp only [ht] at hslice
  unfold look
  rw [hc]
  split
  case h_13 hd =>
    cases hd
    simp only [hw, Bool.false_eq_true, if_false, if_neg hne, hslice]
    rw [Except.map, hstop]
    rfl
  -- The other cases are those of special characters.
  all_goals
    next hd => cases hd <;> exact absurd hr (by decide)

theorem look_eq {first : Char} (h : Cursor.IsIn ⟨offset, first :: cs⟩ text)
    (hs : startsToken first = true) : look text offset =
      .ok (.token (Token.read first ⟨offset + first.utf8Size, cs⟩).1
        (Token.read first ⟨offset + first.utf8Size, cs⟩).2.offset) := by
  have hc : charAt? text offset = .ok (some first) := charAt?_eq h
  have hnext := h.advance_one
  -- Brackets and a closing parenthesis are tokens by themselves; the others look further.
  rcases (startsToken_iff first).mp hs with hr | rfl | rfl | rfl | rfl | rfl | rfl | rfl | rfl | rfl
  · rw [look_regular h hr, Token.read_regular hr]
  · have hl : literal text 0 [] (offset + 1) = _ := literal_start_eq hnext
    simp only [look, hc, hl]
    rfl
  · simp only [look, hc]
    rfl
  · have hb : byteAt? text (offset + 1) = _ := byteAt?_eq hnext
    have hx : hex text (offset + 1) = _ := hex_eq hnext
    cases cs with
    | nil =>
      simp only [look, hc, hb]
      rfl
    | cons c cs =>
      obtain ⟨b, hmem, bs, hbs⟩ := exists_first_byte c
      have hlt : b = 0x3C ↔ c = '<' := @eq_of_mem_utf8EncodeChar c '<' (by decide) b hmem
      rw [encode_cons, hbs, List.cons_append, List.head?_cons] at hb
      by_cases hless : c = '<'
      · simp only [look, hc, hb, if_pos (hlt.mpr hless), hless]
        rfl
      · rw [Token.read_angle (by simp) (by simpa using hless)]
        simp only [look, hc, hb, if_neg (mt hlt.mp hless), hx]
        rfl
  · have hb : byteAt? text (offset + 1) = some 0x3E ↔ cs.head? = some '>' :=
      byteAt?_eq_some_iff hnext '>' (by decide)
    by_cases hgt : cs.head? = some '>'
    · obtain ⟨cs, rfl⟩ := List.head?_eq_some_iff.mp hgt
      simp only [look, hc, if_pos (hb.mpr hgt)]
      rfl
    · rw [Token.read_greater hgt]
      simp only [look, hc, if_neg (mt hb.mp hgt)]
      rfl
  · simp only [look, hc]
    rfl
  · simp only [look, hc]
    rfl
  · simp only [look, hc]
    rfl
  · simp only [look, hc]
    rfl
  · have hslice : slice text (offset + 1) (passRegular text (offset + 1)) = _ :=
      slice_regular hnext
    have hstop : passRegular text (offset + 1) = _ := passRegular_eq hnext
    simp only [look, hc, hslice]
    rw [hstop]
    rfl

theorem look_comment (h : Cursor.IsIn ⟨offset, '%' :: cs⟩ text) : ∃ pos rest,
    look text offset = .ok (.again pos) ∧ Cursor.IsIn ⟨pos, rest⟩ text ∧
      rest.length ≤ cs.length ∧
      PostScript.next ⟨offset, '%' :: cs⟩ = PostScript.next ⟨pos, rest⟩ := by
  have hc : charAt? text offset = .ok (some '%') := charAt?_eq h
  obtain ⟨body, rest, rfl, hbody, hrest⟩ := exists_run (!isLineEnd ·) cs
  have hpos : passComment text offset = offset + 1 + byteLength body := by
    rw [passComment_eq h, skipWhile_run hbody hrest]
  simp only [Bool.not_eq_true', Bool.not_eq_false'] at hbody hrest
  refine ⟨_, rest, ?_, h.advance_one.advance, by simp, ?_⟩
  · simp only [look, hc, hpos]
    rfl
  · have hs : skipBlanks false offset ('%' :: (body ++ rest)) =
        skipBlanks false (offset + 1 + byteLength body) rest :=
      skipBlanks_comment (offset + 1) hbody hrest
    rw [PostScript.next, hs]
    rfl

theorem look_space {c : Char} (h : Cursor.IsIn ⟨offset, c :: cs⟩ text)
    (hw : isWhitespace c = true) : look text offset = .ok (.again (offset + 1)) ∧
      Cursor.IsIn ⟨offset + 1, cs⟩ text ∧
      PostScript.next ⟨offset, c :: cs⟩ = PostScript.next ⟨offset + 1, cs⟩ := by
  have hc : charAt? text offset = .ok (some c) := charAt?_eq h
  have hnext := h.advance_one
  simp only [isWhitespace, Bool.or_eq_true, beq_iff_eq] at hw
  rcases hw with ((((rfl | rfl) | rfl) | rfl) | rfl) | rfl
  all_goals
    simp only [look, hc]
    exact ⟨rfl, hnext, rfl⟩

theorem next_of_startsToken {first : Char} (hs : startsToken first = true) :
    PostScript.next ⟨offset, first :: cs⟩ = readHere ⟨offset, first :: cs⟩ := by
  have hsk := @Gap.skipBlanks [] (first :: cs) .nil (by simpa using hs) offset
  rw [List.nil_append] at hsk
  rw [PostScript.next, hsk]
  rfl

theorem next_eq_match (text : String) (offset : ℕ) : next text offset =
    match look text offset with
    | .error slip => .error slip
    | .ok .ended => .ok (none, offset)
    | .ok (.token t stop) => .ok (some ⟨offset, t, stop⟩, stop)
    | .ok (.again pos) => next text pos := by
  rw [next]
  split <;> next hl => rw [hl]

theorem next_eq {c : Cursor} (h : c.IsIn text) :
    next text c.offset = .ok ((PostScript.next c).1, (PostScript.next c).2.offset) := by
  induction hn : c.rest.length using Nat.strongRecOn generalizing c with
  | ind n ih =>
    obtain ⟨offset, cs⟩ := c
    simp only at hn ⊢
    cases cs with
    | nil =>
      have hl : look text offset = .ok .ended := by rw [look, charAt?_eq h]; rfl
      rw [next_eq_match, hl]
      rfl
    | cons first cs =>
      by_cases hs : startsToken first = true
      · rw [next_eq_match, look_eq h hs, next_of_startsToken hs, readHere]
      by_cases hw : isWhitespace first = true
      · obtain ⟨hl, hin, hnext⟩ := look_space h hw
        rw [next_eq_match, hl, hnext]
        exact ih cs.length (by simp [← hn]) hin rfl
      · obtain rfl : first = '%' := by simpa [startsToken, hw] using hs
        obtain ⟨pos, rest, hl, hin, hlen, hnext⟩ := look_comment h
        rw [next_eq_match, hl, hnext]
        exact ih rest.length (by simp at hn; omega) hin rfl

theorem next_isIn {c : Cursor} (h : c.IsIn text) : (PostScript.next c).2.IsIn text := by
  obtain ⟨offset, cs⟩ := c
  rcases gap_or_token cs with hg | ⟨gap, body, rest, t, rfl, hg, hb⟩
  · rw [next_of_gap hg]
    rw [← List.append_nil cs] at h
    exact h.advance
  · rw [next_of_spells hg hb]
    exact h.advance.advance

end ShownText.PostScript.Scanner
