import ShownText.Proofs.Extraction
import ShownText.Proofs.Numerals
import ShownText.Proofs.Printing
import ShownText.Proofs.Utf8

namespace ShownText.PostScript

open Text

inductive Blank : List Char → Prop
  | nil : Blank []
  | space {c : Char} {cs : List Char} : isWhitespace c = true → Blank cs → Blank (c :: cs)
  | comment {body cs : List Char} {c : Char} : (∀ d ∈ body, isLineEnd d = false) →
      isLineEnd c = true → Blank cs → Blank ('%' :: (body ++ c :: cs))

structure Separator where
  chars : List Char
  blank : Blank chars
  ne_nil : chars ≠ []

/-- Leaves the waiting strings alone. -/
inductive Quiet : Token → Prop
  | name {text : List Char} : (∀ c ∈ text, isRegular c = true) → Quiet (.name (String.ofList text))
  | bracket (kind : Bracket) : Quiet (.bracket kind)
  | number {text : List Char} : Numeral text → Quiet (.word (String.ofList text))

/-- Does nothing where no string waits. -/
inductive Idle : Token → Prop
  | quiet {t : Token} : Quiet t → Idle t
  | word {text : List Char} : text ≠ [] → (∀ c ∈ text, isRegular c = true) →
      Idle (.word (String.ofList text))

structure Part (p : Token → Prop) where
  sep : Separator
  token : Token
  allowed : p token

def partsSource {p : Token → Prop} (parts : List (Part p)) : List Char :=
  parts.flatMap fun part ↦ part.sep.chars ++ part.token.spelling

def IsHexDigit (n : ℕ) (d : Char) : Prop := d = hexDigit n ∨ d = (hexDigit n).toUpper

inductive HexSpelling : List Char → List Char → Prop
  | nil : HexSpelling [] []
  | cons {high low c : Char} {digits cs : List Char} : c.toNat ≤ 0xFF →
      IsHexDigit (c.toNat / 16) high → IsHexDigit (c.toNat % 16) low → HexSpelling digits cs →
      HexSpelling (high :: low :: digits) (c :: cs)

inductive Operand : List Char → String → Prop
  | literal (value : String) : Operand (literalSpelling value) value
  | hex {digits : List Char} {value : String} : HexSpelling digits value.toList →
      Operand ('<' :: (digits ++ ['>'])) value

structure Entry where
  value : String
  operand : List Char
  spelled : Operand operand value
  filler : List (Part Quiet)
  sep : Separator
  operator : PaintingOperator
  noise : List (Part Idle)

namespace Entry

def source (e : Entry) : List Char :=
  e.operand ++ (partsSource e.filler ++
    (e.sep.chars ++ (e.operator.name.toList ++ partsSource e.noise)))

def tokens (e : Entry) : List Token :=
  .string e.value :: (e.filler.map Part.token ++
    .word e.operator.name :: e.noise.map Part.token)

end Entry

/-- Entries with separators between them, and blanks or nothing after the last one. -/
inductive Script
  | nil (trail : List Char) (blank : Blank trail)
  | last (e : Entry)
  | cons (e : Entry) (sep : Separator) (script : Script)

namespace Script

def source : Script → List Char
  | nil trail _ => trail
  | last e => e.source
  | cons e sep script => e.source ++ (sep.chars ++ script.source)

def values : Script → List String
  | nil _ _ => []
  | last e => [e.value]
  | cons e _ script => e.value :: script.values

def tokens : Script → List Token
  | nil _ _ => []
  | last e => e.tokens
  | cons e _ script => e.tokens ++ script.tokens

end Script

theorem Blank.gap {cs : List Char} (h : Blank cs) (rest : List Char) : Gap rest cs := by
  induction h with
  | nil => exact .nil
  | space hc _ ih => exact .space hc ih
  | comment hb hc _ ih =>
    exact .comment hb (by simpa using hc) (.space (isWhitespace_of_isLineEnd hc) ih)

def Ended (cs : List Char) : Prop := ∀ c ∈ cs.head?, startsToken c = false

theorem Separator.ended (sep : Separator) (rest : List Char) : Ended (sep.chars ++ rest) := by
  obtain ⟨chars, blank, hne⟩ := sep
  cases blank with
  | nil => exact absurd rfl hne
  | @space c cs hc _ =>
    intro d hd
    obtain rfl : c = d := by simpa using hd
    simp [startsToken, hc]
  | comment _ _ _ =>
    intro d hd
    obtain rfl : '%' = d := by simpa using hd
    rfl

theorem hexDigit_read : ∀ n < 16, hexDigit? (hexDigit n) = some n ∧
    hexDigit? (hexDigit n).toUpper = some n := by decide

theorem hexDigit_regular : ∀ n < 16, isRegular (hexDigit n) = true ∧
    isRegular (hexDigit n).toUpper = true := by decide

theorem IsHexDigit.read {n : ℕ} {d : Char} (hn : n < 16) (h : IsHexDigit n d) :
    hexDigit? d = some n := by
  rcases h with rfl | rfl
  · exact (hexDigit_read n hn).1
  · exact (hexDigit_read n hn).2

theorem IsHexDigit.regular {n : ℕ} {d : Char} (hn : n < 16) (h : IsHexDigit n d) :
    isRegular d = true := by
  rcases h with rfl | rfl
  · exact (hexDigit_regular n hn).1
  · exact (hexDigit_regular n hn).2

theorem HexSpelling.regular {digits cs : List Char} (h : HexSpelling digits cs) :
    ∀ d ∈ digits, isRegular d = true := by
  induction h with
  | nil => simp
  | cons hc hhigh hlow _ ih =>
    intro d hd
    simp only [List.mem_cons] at hd
    rcases hd with rfl | rfl | hd
    · exact hhigh.regular (by omega)
    · exact hlow.regular (by omega)
    · exact ih d hd

theorem HexSpelling.pairs {digits cs : List Char} (h : HexSpelling digits cs) :
    (Hex.pairs digits).filterMap (fun p ↦ Hex.pair? p.1 p.2) = cs := by
  induction h with
  | nil => rfl
  | @cons high low c digits cs hc hhigh hlow _ ih =>
    have hpair : Hex.pair? high low = some c := by
      rw [Hex.pair?, hhigh.read (by omega), hlow.read (by omega)]
      simp [Nat.div_add_mod]
    rw [Hex.pairs, List.filterMap_cons]
    simp only [hpair, ih]

theorem HexSpelling.filter_eq_self {digits cs : List Char} (h : HexSpelling digits cs) :
    digits.filter (!isWhitespace ·) = digits := by
  rw [List.filter_eq_self]
  intro d hd
  rw [isWhitespace_of_isRegular (h.regular d hd)]
  rfl

theorem HexSpelling.value {digits cs : List Char} (h : HexSpelling digits cs) :
    Hex.value digits = String.ofList cs := by
  rw [Hex.value, h.filter_eq_self, Hex.decode, h.pairs]

theorem Operand.spells {body : List Char} {value : String} (h : Operand body value)
    (rest : List Char) : Spells rest body (.string value) := by
  cases h with
  | literal => exact spells_literal value rest
  | @hex digits _ h =>
    have hne : ∀ d ∈ digits, d ≠ '>' := by
      rintro d hd rfl
      exact absurd (h.regular _ hd) (by decide)
    have hhead : digits.head? ≠ some '<' := fun hd ↦
      absurd (h.regular _ (List.mem_of_head? hd)) (by decide)
    have hs := @Spells.hex rest digits hne hhead
    rwa [h.value, String.ofList_toList] at hs

theorem Idle.wellFormed {t : Token} (h : Idle t) : t.WellFormed ∧ t ≠ .stray '<' := by
  cases h with
  | quiet h =>
    cases h with
    | name ht => exact ⟨by simpa [Token.WellFormed] using ht, by simp⟩
    | bracket kind => exact ⟨trivial, by simp⟩
    | number hn => exact ⟨by simpa [Token.WellFormed] using ⟨hn.ne_nil, hn.regular⟩, by simp⟩
  | word hne ht => exact ⟨by simpa [Token.WellFormed] using ⟨hne, ht⟩, by simp⟩

theorem ended_partsSource {p : Token → Prop} (parts : List (Part p)) {rest : List Char}
    (hr : Ended rest) : Ended (partsSource parts ++ rest) := by
  cases parts with
  | nil => exact hr
  | cons part parts =>
    simp only [partsSource, List.flatMap_cons, List.append_assoc]
    exact part.sep.ended _

theorem readAs_parts {p : Token → Prop} (hp : ∀ t, p t → Idle t) (parts : List (Part p))
    {rest : List Char} {ts : List Token} (he : Ended rest) (h : ReadAs rest ts) :
    ReadAs (partsSource parts ++ rest) (parts.map Part.token ++ ts) := by
  induction parts with
  | nil => exact h
  | cons part parts ih =>
    obtain ⟨hwf, hne⟩ := (hp _ part.allowed).wellFormed
    have hs := hwf.spells (ended_partsSource parts he) fun hl ↦ absurd hl hne
    have hread := ReadAs.token (part.sep.blank.gap _) hs ih
    simpa [partsSource] using hread

theorem Entry.readAs (e : Entry) {gap rest : List Char} {ts : List Token} (hg : Blank gap)
    (he : Ended rest) (h : ReadAs rest ts) :
    ReadAs (gap ++ (e.source ++ rest)) (e.tokens ++ ts) := by
  have hop : (Token.word e.operator.name).WellFormed := by cases e.operator <;> decide
  -- From the end of the entry on, since whether a part ends depends on what follows it.
  have hnoise := readAs_parts (fun _ ht ↦ ht) e.noise he h
  have hword := ReadAs.token (e.sep.blank.gap _)
    (hop.spells (ended_partsSource e.noise he) (by simp)) hnoise
  have hfiller := readAs_parts (fun _ ↦ Idle.quiet) e.filler (e.sep.ended _) hword
  have hread := ReadAs.token (hg.gap _) (e.spelled.spells _) hfiller
  simpa [Entry.source, Entry.tokens, Token.spelling] using hread

theorem Blank.append {xs ys : List Char} (hx : Blank xs) (hy : Blank ys) : Blank (xs ++ ys) := by
  induction hx with
  | nil => exact hy
  | space hc _ ih => exact .space hc ih
  | comment hb hc _ ih =>
    rw [List.cons_append, List.append_assoc, List.cons_append]
    exact .comment hb hc ih

theorem Script.readAs (script : Script) {gap : List Char} (hg : Blank gap) :
    ReadAs (gap ++ script.source) script.tokens := by
  induction script generalizing gap with
  | nil trail blank => exact .gap ((hg.append blank).gap [])
  | last e =>
    have hread := @Entry.readAs e gap [] [] hg (by simp [Ended]) (.gap .nil)
    simpa [Script.source, Script.tokens] using hread
  | cons e sep script ih => exact e.readAs hg (sep.ended _) (ih sep.blank)

theorem ofName?_of_isNumber {word : String} (h : isNumber word = true) :
    PaintingOperator.ofName? word = none := by
  cases hop : PaintingOperator.ofName? word with
  | none => rfl
  | some op =>
    rw [← PaintingOperator.ofName?_eq_some_iff.mp hop] at h
    cases op <;> exact absurd h (by decide)

theorem Quiet.accept {t : Token} (h : Quiet t) (s : Showing) : s.accept t = s := by
  cases h with
  | name _ | bracket _ => rfl
  | number hn =>
    rw [Showing.accept, Showing.applyWord, ofName?_of_isNumber hn.isNumber]
    exact if_pos hn.isNumber

theorem Idle.accept {t : Token} (h : Idle t) (shown : Array String) :
    Showing.accept ⟨[], shown⟩ t = ⟨[], shown⟩ := by
  cases h with
  | quiet h => exact h.accept _
  | word _ _ =>
    rw [Showing.accept, Showing.applyWord]
    split
    · next h => cases h
    · exact ite_self _

theorem acceptAll_parts {p : Token → Prop} {s : Showing} (hp : ∀ t, p t → s.accept t = s)
    (parts : List (Part p)) : s.acceptAll (parts.map Part.token) = s := by
  induction parts with
  | nil => rfl
  | cons part parts ih =>
    rw [List.map_cons, Showing.acceptAll, List.foldl_cons, hp part.token part.allowed]
    exact ih

theorem Entry.acceptAll (e : Entry) (shown : Array String) :
    Showing.acceptAll ⟨[], shown⟩ e.tokens = ⟨[], shown.push e.value⟩ := by
  have hfiller : Showing.acceptAll ⟨[e.value], shown⟩ (e.filler.map Part.token) =
      ⟨[e.value], shown⟩ := acceptAll_parts (fun _ ht ↦ ht.accept _) e.filler
  have hoperator : Showing.accept ⟨[e.value], shown⟩ (.word e.operator.name) =
      ⟨[], shown.push e.value⟩ := by
    rw [Showing.accept, Showing.applyWord, PaintingOperator.ofName?_name]
  have hnoise : Showing.acceptAll ⟨[], shown.push e.value⟩ (e.noise.map Part.token) =
      ⟨[], shown.push e.value⟩ := acceptAll_parts (fun _ ht ↦ ht.accept _) e.noise
  calc Showing.acceptAll ⟨[], shown⟩ e.tokens
      = Showing.acceptAll ⟨[e.value], shown⟩ (e.filler.map Part.token ++
          .word e.operator.name :: e.noise.map Part.token) := rfl
    _ = Showing.acceptAll ⟨[e.value], shown⟩
          (.word e.operator.name :: e.noise.map Part.token) := by
      rw [Showing.acceptAll_append, hfiller]
    _ = Showing.acceptAll ⟨[], shown.push e.value⟩ (e.noise.map Part.token) := by
      rw [Showing.acceptAll, List.foldl_cons, hoperator, Showing.acceptAll]
    _ = ⟨[], shown.push e.value⟩ := hnoise

theorem Script.acceptAll (script : Script) (shown : Array String) :
    Showing.acceptAll ⟨[], shown⟩ script.tokens = ⟨[], shown ++ script.values.toArray⟩ := by
  induction script generalizing shown with
  | nil _ _ => simp [Script.tokens, Script.values, Showing.acceptAll]
  | last e => simp [Script.tokens, Script.values, e.acceptAll]
  | cons e sep script ih =>
    rw [Script.tokens, Showing.acceptAll_append, e.acceptAll, ih, Script.values]
    simp

theorem Script.shownStrings_eq (script : Script) :
    shownStrings (String.ofList script.source) = script.values := by
  have hread := (script.readAs .nil).tokens_eq
  rw [List.nil_append] at hread
  rw [shownStrings, showing, hread, Showing.start, script.acceptAll]
  simp

theorem decode_toUTF8 [Charset.LegacyDecoders] {text : String}
    (h : text.toList.head? ≠ some '\ufeff') :
    (Charset.utf8.decode text.toUTF8.data.toList).text = text := by
  rw [toList_toUTF8, Charset.utf8_isEncoder.decode_encode h, String.ofList_toList]

theorem text_outcome [Charset.LegacyDecoders] {text : String}
    (hmark : text.toList.head? ≠ some '\ufeff') (hne : shownText text ≠ "") :
    (Document.text {} text.toUTF8.data.toList).outcome = .ok (shownText text) := by
  have houtcome := Document.outcome_text charsetOf_default text.toUTF8.data.toList
  rw [decode_toUTF8 hmark, if_neg hne] at houtcome
  exact houtcome

theorem Blank.head? {cs : List Char} (h : Blank cs) : cs.head? ≠ some '\ufeff' := by
  cases h with
  | nil => simp
  | space hc _ =>
    rw [List.head?_cons, ne_eq, Option.some.injEq]
    rintro rfl
    exact absurd hc (by decide)
  | comment _ _ _ => simp

theorem Operand.exists_cons {body : List Char} {value : String} (h : Operand body value) :
    ∃ c cs, body = c :: cs ∧ c ≠ '\ufeff' := by
  cases h with
  | literal => exact ⟨'(', _, rfl, by decide⟩
  | hex _ => exact ⟨'<', _, rfl, by decide⟩

theorem Entry.head? (e : Entry) (rest : List Char) :
    (e.source ++ rest).head? ≠ some '\ufeff' := by
  obtain ⟨c, cs, hcs, hc⟩ := e.spelled.exists_cons
  simpa [Entry.source, hcs] using hc

theorem Script.head?_source (script : Script) : script.source.head? ≠ some '\ufeff' := by
  cases script with
  | nil _ blank => exact blank.head?
  | last e => simpa [Script.source] using e.head? []
  | cons e _ _ => exact e.head? _

/-- A script shows its strings in their order, and they are the text of its bytes. -/
theorem Script.recovered [Charset.LegacyDecoders] (script : Script) :
    shownStrings (String.ofList script.source) = script.values ∧
    (" ".intercalate script.values ≠ "" →
      (Document.text {} (String.ofList script.source).toUTF8.data.toList).outcome =
        .ok (" ".intercalate script.values)) := by
  have hshown : shownText (String.ofList script.source) = " ".intercalate script.values := by
    rw [← script.shownStrings_eq]
    rfl
  refine ⟨script.shownStrings_eq, fun hne ↦ ?_⟩
  rw [← hshown] at hne ⊢
  exact text_outcome (by rw [String.toList_ofList]; exact script.head?_source) hne

open scoped Charset.LegacyDecoders.AsciiOnly

theorem Script.recovered_of_noise :
    shownStrings "(a\\(b) /F -1.5E3 %x)\n xshow show <E9> kshow" = ["a(b", "é"] ∧
    (Document.text {} "(a\\(b) /F -1.5E3 %x)\n xshow show <E9> kshow".toUTF8.data.toList).outcome =
      .ok "a(b é" := by
  let space : Separator := ⟨[' '], .space rfl .nil, by simp⟩
  let comment : Separator := ⟨" %x)\n ".toList, .space rfl
    (@Blank.comment ['x', ')'] [' '] '\n' (by simp [isLineEnd]) rfl (.space rfl .nil)), by decide⟩
  let name : Part Quiet := ⟨space, .name "F", @Quiet.name ['F'] (List.all_eq_true.mp rfl)⟩
  let number : Part Quiet := ⟨space, .word "-1.5E3", .number
    (@Numeral.scientific ['-'] "1.5".toList [] ['3'] 'E' .minus
      (@Mantissa.point ['1'] ['5'] (List.all_eq_true.mp rfl) (List.all_eq_true.mp rfl))
      (by decide) rfl .none (by decide) (List.all_eq_true.mp rfl))⟩
  let word : Part Idle :=
    ⟨space, .word "show", @Idle.word "show".toList (by decide) (List.all_eq_true.mp rfl)⟩
  let script : Script :=
    .cons ⟨"a(b", _, .literal "a(b", [name, number], comment, .xshow, [word]⟩ space
      (.last ⟨"é", _, .hex (.cons (by decide) (.inr rfl) (.inl rfl) .nil), [], space, .kshow, []⟩)
  have hsource : String.ofList script.source = "(a\\(b) /F -1.5E3 %x)\n xshow show <E9> kshow" := by
    decide
  rw [← hsource]
  exact ⟨script.recovered.1, script.recovered.2 (by decide)⟩

end ShownText.PostScript
