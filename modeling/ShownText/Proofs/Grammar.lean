import Mathlib.Data.List.TakeWhile
import ShownText.PostScript.Lexer

namespace ShownText.PostScript

open Text

def startsToken (c : Char) : Bool := !(isWhitespace c || c == '%')

/-- What may stand before `rest` without being part of a token: whitespace, and comments that last
up to a line end or to the end of the text. -/
inductive Gap (rest : List Char) : List Char → Prop
  | nil : Gap rest []
  | space {c : Char} {gap : List Char} : isWhitespace c = true → Gap rest gap → Gap rest (c :: gap)
  | comment {body gap : List Char} : (∀ c ∈ body, isLineEnd c = false) →
      (∀ c ∈ (gap ++ rest).head?, isLineEnd c = true) → Gap rest gap →
      Gap rest ('%' :: (body ++ gap))

theorem skipBlanks_lineEnd {c : Char} (h : isLineEnd c = true) (offset : ℕ) (cs : List Char) :
    skipBlanks true offset (c :: cs) = skipBlanks false offset (c :: cs) := by
  have hc : c = '\n' ∨ c = '\r' := by simpa [isLineEnd] using h
  rcases hc with rfl | rfl <;> rfl

theorem skipBlanks_comment {body rest : List Char} (offset : ℕ)
    (hb : ∀ c ∈ body, isLineEnd c = false) (hr : ∀ c ∈ rest.head?, isLineEnd c = true) :
    skipBlanks true offset (body ++ rest) = skipBlanks false (offset + byteLength body) rest := by
  induction body generalizing offset with
  | nil =>
    cases rest with
    | nil => rfl
    | cons c rest => exact skipBlanks_lineEnd (hr c rfl) offset rest
  | cons c body ih =>
    have hc := hb c (by simp)
    rw [List.cons_append, skipBlanks, if_pos rfl, hc, Bool.not_false,
      ih _ (fun d hd ↦ hb d (by simp [hd])), byteLength_cons, Nat.add_assoc]

theorem Gap.skipBlanks {gap rest : List Char} (h : Gap rest gap)
    (hr : ∀ c ∈ rest.head?, startsToken c = true) (offset : ℕ) :
    skipBlanks false offset (gap ++ rest) = ⟨offset + byteLength gap, rest⟩ := by
  induction h generalizing offset with
  | nil =>
    cases rest with
    | nil => rfl
    | cons c rest =>
      have hc := hr c rfl
      simp only [startsToken, Bool.not_eq_true', Bool.or_eq_false_iff, beq_eq_false_iff_ne] at hc
      simp [PostScript.skipBlanks, hc.1, hc.2]
  | @space c gap hc hg ih =>
    have hne : c ≠ '%' := by rintro rfl; simp [isWhitespace] at hc
    rw [List.cons_append, PostScript.skipBlanks, if_neg Bool.false_ne_true, if_neg hne, if_pos hc,
      ih, byteLength_cons, Nat.add_assoc]
  | @comment body gap hb hl hg ih =>
    rw [List.cons_append, PostScript.skipBlanks, if_neg Bool.false_ne_true, if_pos rfl,
      List.append_assoc, skipBlanks_comment _ hb hl, ih, byteLength_cons, byteLength_append]
    congr 1
    omega

theorem exists_run (p : Char → Bool) (cs : List Char) : ∃ run rest,
    cs = run ++ rest ∧ (∀ c ∈ run, p c = true) ∧ ∀ c ∈ rest.head?, p c = false := by
  refine ⟨cs.takeWhile p, cs.dropWhile p, List.takeWhile_append_dropWhile.symm,
    fun c hc ↦ List.mem_takeWhile_imp hc, fun c hc ↦ ?_⟩
  have h := List.head?_dropWhile_not p cs
  rwa [Option.mem_def.mp hc] at h

theorem exists_gap (offset : ℕ) (cs : List Char) : ∃ gap rest,
    skipBlanks false offset cs = ⟨offset + byteLength gap, rest⟩ ∧ cs = gap ++ rest ∧
      Gap rest gap ∧ ∀ c ∈ rest.head?, startsToken c = true := by
  -- A comment is skipped as a whole, so the induction is on the length.
  induction hn : cs.length using Nat.strongRecOn generalizing offset cs with
  | ind n ih =>
    cases cs with
    | nil => exact ⟨[], [], rfl, rfl, .nil, by simp⟩
    | cons c cs =>
      rw [skipBlanks, if_neg Bool.false_ne_true]
      by_cases hp : c = '%'
      · obtain ⟨body, tail, rfl, hbody, hend⟩ := exists_run (!isLineEnd ·) cs
        simp only [Bool.not_eq_true', Bool.not_eq_false'] at hbody hend
        obtain ⟨gap, rest, hs, rfl, hg, hr⟩ := ih tail.length (by simp at hn; omega)
          (offset + c.utf8Size + byteLength body) tail rfl
        refine ⟨'%' :: (body ++ gap), rest, ?_, by simp [hp], .comment hbody hend hg, hr⟩
        rw [if_pos hp, skipBlanks_comment _ hbody hend, hs, byteLength_cons, byteLength_append, hp]
        congr 1
        omega
      rw [if_neg hp]
      by_cases hw : isWhitespace c = true
      · obtain ⟨gap, rest, hs, rfl, hg, hr⟩ := ih cs.length (by rw [← hn]; simp)
          (offset + c.utf8Size) cs rfl
        refine ⟨c :: gap, rest, ?_, rfl, .space hw hg, hr⟩
        rw [if_pos hw, hs, byteLength_cons, Nat.add_assoc]
      · refine ⟨[], c :: cs, by rw [if_neg hw]; rfl, rfl, .nil, fun d hd ↦ ?_⟩
        obtain rfl : c = d := by simpa using hd
        simp [startsToken, hp, hw]

namespace Literal

theorem read_plain {c : Char} (hc : ¬(c = '\\' ∨ c = '(' ∨ c = ')')) (depth : ℕ)
    (value : List Char) :
    Partial.read ⟨depth, .plain, value⟩ c = some ⟨depth, .plain, c :: value⟩ := by
  simp only [not_or] at hc
  simp only [Partial.read, Partial.readPlain]
  split <;> simp_all [Partial.push]

inductive Closes : Partial → List Char → String → Prop
  | last {p : Partial} {c : Char} : p.read c = none → Closes p [c] p.finish
  | next {p q : Partial} {c : Char} {cs : List Char} {value : String} :
      p.read c = some q → Closes q cs value → Closes p (c :: cs) value

def StaysOpen (p : Partial) (cs : List Char) : Prop :=
  ∀ body value, body <+: cs → ¬Closes p body value

theorem Closes.close? {p : Partial} {body : List Char} {value : String} (h : Closes p body value)
    (offset : ℕ) (rest : List Char) :
    close? p offset (body ++ rest) = some (value, ⟨offset + byteLength body, rest⟩) := by
  induction h generalizing offset with
  | last h => simp [Literal.close?, h]
  | next h _ ih =>
    rw [List.cons_append, Literal.close?, h]
    simp only [ih, byteLength_cons, Nat.add_assoc]

theorem exists_closes {p : Partial} {offset : ℕ} {cs : List Char} {value : String} {after : Cursor}
    (h : close? p offset cs = some (value, after)) :
    ∃ body, cs = body ++ after.rest ∧ after.offset = offset + byteLength body ∧
      Closes p body value := by
  induction cs generalizing p offset with
  | nil => simp [Literal.close?] at h
  | cons c cs ih =>
    rw [Literal.close?] at h
    split at h
    · next hc =>
      simp only [Option.some.injEq, Prod.mk.injEq] at h
      obtain ⟨rfl, rfl⟩ := h
      exact ⟨[c], rfl, rfl, .last hc⟩
    · next q hq =>
      obtain ⟨body, hcs, ho, hb⟩ := ih h
      exact ⟨c :: body, by rw [hcs, List.cons_append],
        by rw [ho, byteLength_cons, Nat.add_assoc], .next hq hb⟩

theorem close?_eq_none_iff {p : Partial} {offset : ℕ} {cs : List Char} :
    close? p offset cs = none ↔ StaysOpen p cs := by
  constructor
  · rintro h body value ⟨rest, rfl⟩ hb
    rw [hb.close?] at h
    cases h
  · intro h
    cases hc : Literal.close? p offset cs with
    | none => rfl
    | some r =>
      obtain ⟨body, hcs, -, hb⟩ := exists_closes hc
      exact absurd hb (h body r.1 ⟨_, hcs.symm⟩)

end Literal

def Hex.value (digits : List Char) : String := decode (digits.filter (!isWhitespace ·))

def Bracket.spelling : Bracket → List Char
  | .openDict => ['<', '<']
  | .closeDict => ['>', '>']
  | .openArray => ['[']
  | .closeArray => [']']
  | .openProc => ['\x7b']
  | .closeProc => ['\x7d']

/-- The characters `body`, where `rest` follows them, spell a token. -/
inductive Spells (rest : List Char) : List Char → Token → Prop
  | literal {body : List Char} {value : String} : Literal.Closes .start body value →
      Spells rest ('(' :: body) (.string value)
  | openLiteral {body : List Char} : Literal.StaysOpen .start body → rest = [] →
      Spells rest ('(' :: body) (.string "")
  | hex {digits : List Char} : (∀ c ∈ digits, c ≠ '>') → digits.head? ≠ some '<' →
      Spells rest ('<' :: (digits ++ ['>'])) (.string (Hex.value digits))
  | openHex {digits : List Char} : (∀ c ∈ digits, c ≠ '>') → digits.head? ≠ some '<' →
      digits ≠ [] → rest = [] → Spells rest ('<' :: digits) (.string (Hex.value digits))
  | bracket (kind : Bracket) : Spells rest kind.spelling (.bracket kind)
  | closeParen : Spells rest [')'] (.stray ')')
  | greater : rest.head? ≠ some '>' → Spells rest ['>'] (.stray '>')
  | less : rest = [] → Spells rest ['<'] (.stray '<')
  | name {text : List Char} : (∀ c ∈ text, isRegular c = true) →
      (∀ c ∈ rest.head?, isRegular c = false) →
      Spells rest ('/' :: text) (.name (String.ofList text))
  | word {text : List Char} : text ≠ [] → (∀ c ∈ text, isRegular c = true) →
      (∀ c ∈ rest.head?, isRegular c = false) → Spells rest text (.word (String.ofList text))

theorem takeWhile_run {p : Char → Bool} {run rest : List Char} (h : ∀ c ∈ run, p c = true)
    (hr : ∀ c ∈ rest.head?, p c = false) : (run ++ rest).takeWhile p = run := by
  rw [List.takeWhile_append_of_pos h]
  cases rest with
  | nil => simp
  | cons c rest => simp [hr c rfl]

theorem skipWhile_run {p : Char → Bool} {run rest : List Char} (h : ∀ c ∈ run, p c = true)
    (hr : ∀ c ∈ rest.head?, p c = false) (offset : ℕ) :
    (⟨offset, run ++ rest⟩ : Cursor).skipWhile p = ⟨offset + byteLength run, rest⟩ := by
  rw [Cursor.skipWhile, takeWhile_run h hr, List.dropWhile_append_of_pos h]
  cases rest with
  | nil => simp
  | cons c rest => simp [hr c rfl]

theorem Token.read_regular {first : Char} (h : isRegular first = true) (after : Cursor) :
    Token.read first after = (.word (String.ofList (first :: after.rest.takeWhile isRegular)),
      after.skipWhile isRegular) := by
  unfold Token.read
  split <;> first | rfl | exact absurd h (by decide)

theorem Hex.read_closed {digits : List Char} (h : ∀ c ∈ digits, c ≠ '>') (offset : ℕ)
    (rest : List Char) : Hex.read ⟨offset, digits ++ '>' :: rest⟩ =
      (Hex.value digits, ⟨offset + byteLength digits + 1, rest⟩) := by
  have h' : ∀ c ∈ digits, (c != '>') = true := by simpa using h
  have hr : ∀ c ∈ ('>' :: rest).head?, (c != '>') = false := by simp
  rw [Hex.read, skipWhile_run h' hr, takeWhile_run h' hr]
  rfl

theorem Hex.read_open {digits : List Char} (h : ∀ c ∈ digits, c ≠ '>') (offset : ℕ) :
    Hex.read ⟨offset, digits⟩ = (Hex.value digits, ⟨offset + byteLength digits, []⟩) := by
  have h' : ∀ c ∈ digits, (c != '>') = true := by simpa using h
  have hs := @skipWhile_run (· != '>') digits [] h' (by simp) offset
  have ht := @takeWhile_run (· != '>') digits [] h' (by simp)
  rw [List.append_nil] at hs ht
  rw [Hex.read, hs, ht]
  rfl

theorem Token.read_angle {after : Cursor} (hn : after.rest ≠ [])
    (hh : after.rest.head? ≠ some '<') :
    Token.read '<' after = (.string (Hex.read after).1, (Hex.read after).2) := by
  obtain ⟨offset, _ | ⟨c, cs⟩⟩ := after
  · exact absurd rfl hn
  · have hc : c ≠ '<' := by simpa using hh
    simp only [Token.read]
    split <;> simp_all [Prod.map]

theorem Token.read_greater {after : Cursor} (hh : after.rest.head? ≠ some '>') :
    Token.read '>' after = (.stray '>', after) := by
  obtain ⟨offset, _ | ⟨c, cs⟩⟩ := after
  · rfl
  · have hc : c ≠ '>' := by simpa using hh
    unfold Token.read
    split <;> simp_all

theorem Spells.read {first : Char} {body rest : List Char} {t : Token}
    (h : Spells rest (first :: body) t) (offset : ℕ) :
    Token.read first ⟨offset, body ++ rest⟩ = (t, ⟨offset + byteLength body, rest⟩) := by
  generalize hb : first :: body = spelled at h
  cases h with
  | literal hc =>
    cases hb
    simp [Token.read, Literal.read, hc.close?]
  | openLiteral hc hr =>
    cases hb
    subst hr
    simp [Token.read, Literal.read, Literal.close?_eq_none_iff.mpr hc, Cursor.toEnd, Cursor.stop]
  | @hex digits hd hh =>
    cases hb
    have hh' : (digits ++ ['>'] ++ rest).head? ≠ some '<' := by
      cases digits with
      | nil => simp
      | cons d digits => exact hh
    rw [Token.read_angle (by simp) hh', List.append_assoc, List.singleton_append,
      Hex.read_closed hd, byteLength_append, Nat.add_assoc]
    rfl
  | openHex hd hh hn hr =>
    cases hb
    subst hr
    rw [List.append_nil, Token.read_angle hn hh, Hex.read_open hd]
  | bracket kind => cases kind <;> cases hb <;> rfl
  | closeParen => cases hb; rfl
  | greater hr => cases hb; exact Token.read_greater hr
  | less hr => cases hb; subst hr; rfl
  | name ht hr =>
    cases hb
    simp [Token.read, skipWhile_run ht hr, takeWhile_run ht hr]
  | word hne ht hr =>
    subst hb
    have hbody : ∀ c ∈ body, isRegular c = true := fun c hc ↦ ht c (by simp [hc])
    rw [Token.read_regular (ht first (by simp)), skipWhile_run hbody hr, takeWhile_run hbody hr]

theorem startsToken_iff (c : Char) : startsToken c = true ↔ isRegular c = true ∨ c = '(' ∨
    c = ')' ∨ c = '<' ∨ c = '>' ∨ c = '[' ∨ c = ']' ∨ c = '\x7b' ∨ c = '\x7d' ∨ c = '/' := by
  constructor
  · intro h
    simp only [startsToken, Bool.not_eq_true', Bool.or_eq_false_iff, beq_eq_false_iff_ne] at h
    by_cases hs : isSpecial c = true
    · simp only [isSpecial, Bool.or_eq_true, beq_iff_eq] at hs
      grind
    · simp [isRegular, endsWord, h.1, hs]
  · rintro (h | rfl | rfl | rfl | rfl | rfl | rfl | rfl | rfl | rfl)
    · simp only [isRegular, endsWord, isSpecial, Bool.not_eq_true', Bool.or_eq_false_iff] at h
      simp [startsToken, h.1, h.2.2]
    all_goals decide

theorem isWhitespace_of_isRegular {c : Char} (h : isRegular c = true) : isWhitespace c = false := by
  simp only [isRegular, endsWord, Bool.not_eq_true', Bool.or_eq_false_iff] at h
  exact h.1

theorem isWhitespace_of_isLineEnd {c : Char} (h : isLineEnd c = true) : isWhitespace c = true := by
  have hc : c = '\n' ∨ c = '\r' := by simpa [isLineEnd] using h
  rcases hc with rfl | rfl <;> rfl

theorem startsToken_of_isRegular {c : Char} (h : isRegular c = true) : startsToken c = true :=
  (startsToken_iff c).mpr (.inl h)

theorem exists_spells {first : Char} (hs : startsToken first = true) (cs : List Char) :
    ∃ body rest t, cs = body ++ rest ∧ Spells rest (first :: body) t := by
  rcases (startsToken_iff first).mp hs with h | rfl | rfl | rfl | rfl | rfl | rfl | rfl | rfl | rfl
  · obtain ⟨run, rest, rfl, hrun, hrest⟩ := exists_run isRegular cs
    refine ⟨run, rest, _, rfl, .word (by simp) (fun c hc ↦ ?_) hrest⟩
    rcases List.mem_cons.mp hc with rfl | hc
    · exact h
    · exact hrun c hc
  · cases hc : Literal.close? .start 0 cs with
    | none => exact ⟨cs, [], _, by simp, .openLiteral (Literal.close?_eq_none_iff.mp hc) rfl⟩
    | some r =>
      obtain ⟨body, hcs, -, hb⟩ := Literal.exists_closes hc
      exact ⟨body, _, _, hcs, .literal hb⟩
  · exact ⟨[], cs, _, rfl, .closeParen⟩
  · by_cases hh : cs.head? = some '<'
    · obtain ⟨rest, rfl⟩ := List.head?_eq_some_iff.mp hh
      exact ⟨['<'], rest, _, rfl, .bracket .openDict⟩
    by_cases hn : cs = []
    · exact ⟨[], [], _, hn, .less rfl⟩
    obtain ⟨run, rest, rfl, hrun, hrest⟩ := exists_run (· != '>') cs
    simp only [bne_iff_ne, ne_eq, bne_eq_false_iff_eq] at hrun hrest
    cases rest with
    | nil =>
      rw [List.append_nil] at hh hn ⊢
      exact ⟨run, [], _, by simp, .openHex hrun hh hn rfl⟩
    | cons c rest =>
      obtain rfl : c = '>' := hrest c rfl
      refine ⟨run ++ ['>'], rest, _, by simp, .hex hrun fun h ↦ hh ?_⟩
      rw [List.head?_append, h]
      rfl
  · by_cases hh : cs.head? = some '>'
    · obtain ⟨rest, rfl⟩ := List.head?_eq_some_iff.mp hh
      exact ⟨['>'], rest, _, rfl, .bracket .closeDict⟩
    · exact ⟨[], cs, _, rfl, .greater hh⟩
  · exact ⟨[], cs, _, rfl, .bracket .openArray⟩
  · exact ⟨[], cs, _, rfl, .bracket .closeArray⟩
  · exact ⟨[], cs, _, rfl, .bracket .openProc⟩
  · exact ⟨[], cs, _, rfl, .bracket .closeProc⟩
  · obtain ⟨run, rest, rfl, hrun, hrest⟩ := exists_run isRegular cs
    exact ⟨run, rest, _, rfl, .name hrun hrest⟩

theorem Spells.exists_cons {body rest : List Char} {t : Token} (h : Spells rest body t) :
    ∃ first tail, body = first :: tail ∧ startsToken first = true := by
  cases h with
  | literal _ | openLiteral _ _ => exact ⟨'(', _, rfl, by decide⟩
  | hex _ _ | openHex _ _ _ _ | less _ => exact ⟨'<', _, rfl, by decide⟩
  | bracket kind => cases kind <;> exact ⟨_, _, rfl, by decide⟩
  | closeParen => exact ⟨')', _, rfl, by decide⟩
  | greater _ => exact ⟨'>', _, rfl, by decide⟩
  | name _ _ => exact ⟨'/', _, rfl, by decide⟩
  | word hne ht _ =>
    obtain ⟨first, tail, rfl⟩ := List.exists_cons_of_ne_nil hne
    exact ⟨first, tail, rfl, startsToken_of_isRegular (ht first (by simp))⟩

theorem next_of_gap {gap : List Char} (h : Gap [] gap) (offset : ℕ) :
    next ⟨offset, gap⟩ = (none, ⟨offset + byteLength gap, []⟩) := by
  have hs := h.skipBlanks (by simp) offset
  rw [List.append_nil] at hs
  rw [next, hs, readHere]

theorem next_of_spells {gap body rest : List Char} {t : Token} (hg : Gap (body ++ rest) gap)
    (hb : Spells rest body t) (offset : ℕ) : next ⟨offset, gap ++ (body ++ rest)⟩ =
      (some ⟨offset + byteLength gap, t, offset + byteLength gap + byteLength body⟩,
        ⟨offset + byteLength gap + byteLength body, rest⟩) := by
  obtain ⟨first, tail, rfl, hf⟩ := hb.exists_cons
  have hs := hg.skipBlanks (by simpa using hf) offset
  rw [next, hs, List.cons_append, readHere, hb.read, byteLength_cons]
  simp only [Nat.add_assoc]

/-- The characters from an offset on are gaps and tokens in turn. -/
inductive Reads : ℕ → List Char → List Lexeme → Prop
  | done {offset : ℕ} {gap : List Char} : Gap [] gap → Reads offset gap []
  | token {offset : ℕ} {gap body rest : List Char} {t : Token} {lexemes : List Lexeme} :
      Gap (body ++ rest) gap → Spells rest body t →
      Reads (offset + byteLength gap + byteLength body) rest lexemes →
      Reads offset (gap ++ (body ++ rest))
        (⟨offset + byteLength gap, t, offset + byteLength gap + byteLength body⟩ :: lexemes)

/-- What is left of a text is a gap, or a gap and a token before something shorter. -/
theorem gap_or_token (cs : List Char) : Gap [] cs ∨ ∃ gap body rest t,
    cs = gap ++ (body ++ rest) ∧ Gap (body ++ rest) gap ∧ Spells rest body t := by
  obtain ⟨gap, rest, -, rfl, hg, hr⟩ := exists_gap 0 cs
  cases rest with
  | nil => exact .inl (by simpa using hg)
  | cons first cs =>
    obtain ⟨body, rest, t, rfl, hb⟩ := exists_spells (hr first rfl) cs
    exact .inr ⟨gap, first :: body, rest, t, rfl, hg, hb⟩

theorem Reads.lexemes_eq {offset : ℕ} {cs : List Char} {ls : List Lexeme}
    (h : Reads offset cs ls) : lexemes ⟨offset, cs⟩ = ls := by
  induction h with
  | done hg => rw [PostScript.lexemes_eq, next_of_gap hg]
  | token hg hb _ ih => rw [PostScript.lexemes_eq, next_of_spells hg hb]; simp only [ih]

theorem Reads.eq_nil {offset : ℕ} {ls : List Lexeme} (h : Reads offset [] ls) : ls = [] := by
  rw [← h.lexemes_eq, PostScript.lexemes_eq, next_of_gap .nil]

theorem exists_reads (offset : ℕ) (cs : List Char) : ∃ ls, Reads offset cs ls := by
  induction hn : cs.length using Nat.strongRecOn generalizing offset cs with
  | ind n ih =>
    rcases gap_or_token cs with hg | ⟨gap, body, rest, t, rfl, hg, hb⟩
    · exact ⟨[], .done hg⟩
    · obtain ⟨first, tail, rfl, -⟩ := hb.exists_cons
      obtain ⟨ls, h⟩ := ih rest.length (by simp at hn; omega) _ rest rfl
      exact ⟨_, .token hg hb h⟩

/-- The tokens of a text are the ones that the grammar reads in it. -/
theorem lexemes_eq_iff {offset : ℕ} {cs : List Char} {ls : List Lexeme} :
    lexemes ⟨offset, cs⟩ = ls ↔ Reads offset cs ls := by
  refine ⟨fun h ↦ ?_, Reads.lexemes_eq⟩
  obtain ⟨ls', h'⟩ := exists_reads offset cs
  rwa [← h, h'.lexemes_eq]

theorem reads_lexemes (c : Cursor) : Reads c.offset c.rest (lexemes c) := lexemes_eq_iff.mp rfl

def ReadAs (cs : List Char) (ts : List Token) : Prop :=
  ∀ offset, (lexemes ⟨offset, cs⟩).map Lexeme.token = ts

theorem ReadAs.gap {gap : List Char} (h : Gap [] gap) : ReadAs gap [] := fun offset ↦ by
  rw [lexemes_eq, next_of_gap h]
  rfl

theorem ReadAs.token {gap body rest : List Char} {t : Token} {ts : List Token}
    (hg : Gap (body ++ rest) gap) (hb : Spells rest body t) (h : ReadAs rest ts) :
    ReadAs (gap ++ (body ++ rest)) (t :: ts) := fun offset ↦ by
  rw [lexemes_eq, next_of_spells hg hb]
  exact congrArg (t :: ·) (h _)

theorem ReadAs.tokens_eq {cs : List Char} {ts : List Token} (h : ReadAs cs ts) :
    tokens (String.ofList cs) = ts := by
  rw [tokens, Cursor.ofString, String.toList_ofList, h 0]

end ShownText.PostScript
