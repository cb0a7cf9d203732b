import ShownText.Proofs.Closing
import ShownText.Proofs.Cutting
import ShownText.Proofs.Printing

namespace ShownText.PostScript

open Text

variable {gap body rest cs cs' : List Char} {t : Token} {offset : ℕ} {ls ls' : List Lexeme}

theorem Spells.before_line (h : Spells rest body t)
    (hs : ∀ value, t = .string value → Delimited body) (ha : t ≠ .stray '<') (more : List Char) :
    Spells (rest ++ '\n' :: more) body t := by
  have hhead : ∀ c ∈ (rest ++ '\n' :: more).head?, c ∈ rest.head? ∨ c = '\n' := by
    cases rest with
    | nil => simp
    | cons d rest => exact fun c hc ↦ .inl hc
  have hended : (∀ c ∈ rest.head?, isRegular c = false) →
      ∀ c ∈ (rest ++ '\n' :: more).head?, isRegular c = false := by
    intro hr c hc
    rcases hhead c hc with hc | rfl
    · exact hr c hc
    · rfl
  cases h with
  | literal hc => exact .literal hc
  | openLiteral hc hr =>
    cases hs _ rfl with
    | literal hclosing =>
      obtain ⟨value, hv⟩ := Literal.exists_closes_iff.mpr hclosing
      exact absurd hv (hc _ value List.prefix_rfl)
  | hex hd hh => exact .hex hd hh
  | @openHex digits hd hh hn hr =>
    -- What is delimited ends in an angle bracket, which is none of the digits.
    generalize hspelled : '<' :: digits = spelled at hs
    cases hs _ rfl with
    | literal _ => cases hspelled
    | hex _ =>
      obtain ⟨-, rfl⟩ := List.cons.inj hspelled
      exact absurd rfl (hd '>' (by simp))
  | bracket kind => exact .bracket kind
  | closeParen => exact .closeParen
  | greater hr =>
    refine .greater fun hc ↦ ?_
    rcases hhead _ hc with hc | hc
    · exact hr hc
    · exact absurd hc (by decide)
  | less hr => exact absurd rfl ha
  | name ht hr => exact .name ht (hended hr)
  | word hne ht hr => exact .word hne ht (hended hr)

theorem Gap.before_line (h : Gap [] gap) (more : List Char) : Gap ('\n' :: more) gap := by
  induction h with
  | nil => exact .nil
  | space hc _ ih => exact .space hc ih
  | @comment body gap hb hl _ ih =>
    refine .comment hb ?_ ih
    cases gap with
    | nil => simp [isLineEnd]
    | cons d gap => simpa using hl

theorem Reads.gap_line (hg : Gap [] gap) (h : Reads (offset + byteLength gap + 1) cs ls) :
    Reads offset (gap ++ '\n' :: cs) ls := by
  have hline : Reads (offset + byteLength gap) (['\n'] ++ cs) ls :=
    h.behind_gap (.space rfl .nil)
  exact hline.behind_gap (hg.before_line cs)

theorem Reads.append_line {text : String} (h : Reads offset cs ls)
    (hin : Cursor.IsIn ⟨offset, cs⟩ text)
    (hs : ∀ l ∈ ls, ∀ value, l.token = .string value → ClosedIn text l)
    (ha : ∀ l ∈ ls, l.token ≠ .stray '<')
    (h' : Reads (offset + byteLength cs + 1) cs' ls') :
    Reads offset (cs ++ '\n' :: cs') (ls ++ ls') := by
  induction h with
  | done hg => exact Reads.gap_line hg h'
  | @token offset gap body rest t ls hg hb hr ih =>
    have hspan := spans_of_isIn hin.advance
    have hclosed : ∀ value, t = .string value → Delimited body := by
      intro value hv
      obtain ⟨spelled, after, hspan', hd⟩ := hs _ List.mem_cons_self value hv
      rwa [hspan.unique hspan']
    have hspells := hb.before_line hclosed (ha _ List.mem_cons_self) cs'
    have htail : Reads (offset + byteLength gap + byteLength body) (rest ++ '\n' :: cs')
        (ls ++ ls') := by
      apply ih hin.advance.advance
      · exact fun l hl ↦ hs l (List.mem_cons_of_mem _ hl)
      · exact fun l hl ↦ ha l (List.mem_cons_of_mem _ hl)
      · simpa only [byteLength_append, ← Nat.add_assoc] using h'
    have hread := Reads.token (hg.before_token hb) hspells htail
    simpa using hread

theorem ne_lone_angle {text : String} (h : (tokens text).getLast? ≠ some (.stray '<')) :
    ∀ t ∈ tokens text, t ≠ .stray '<' := by
  intro t ht
  rcases List.eq_nil_or_concat (tokens text) with hnil | ⟨ts, last, hts⟩
  · rw [hnil] at ht
    cases ht
  · have hlone := (printable_tokens text).lone_angle
    rw [hts, List.concat_eq_append] at h ht hlone
    rw [List.dropLast_concat] at hlone
    rcases List.mem_append.mp ht with ht | ht
    · exact hlone t ht
    · obtain rfl := List.mem_singleton.mp ht
      simpa using h

/-- A text whose strings are closed and that does not end in a lone opening angle bracket is read as
before when a line end and another text follow it, and so is the other text. What the other text
shows then depends on the strings left waiting. -/
theorem lexemes_join (a b : String)
    (hs : ∀ l ∈ lexemes (.ofString a), ∀ value, l.token = .string value → ClosedIn a l)
    (ha : (tokens a).getLast? ≠ some (.stray '<')) :
    lexemes (.ofString (a ++ "\n" ++ b)) =
      lexemes (.ofString a) ++ (lexemes (.ofString b)).map (Lexeme.shift (a.utf8ByteSize + 1)) ∧
    shownStrings (a ++ "\n" ++ b) = shownStrings a ++ (showing a).shownOn (tokens b) ∧
    ((showing a).waiting = [] →
      shownStrings (a ++ "\n" ++ b) = shownStrings a ++ shownStrings b) := by
  have hlone : ∀ l ∈ lexemes (.ofString a), l.token ≠ .stray '<' :=
    fun l hl ↦ ne_lone_angle ha _ (List.mem_map_of_mem hl)
  have hb := (reads_lexemes (.ofString b)).shift (a.utf8ByteSize + 1)
  rw [utf8ByteSize_eq, ← Nat.add_assoc] at hb
  have hjoin := (reads_lexemes (.ofString a)).append_line (Cursor.isIn_ofString a) hs hlone hb
  have htext : (a ++ "\n" ++ b).toList = a.toList ++ '\n' :: b.toList := by
    simp
  have hlexemes : lexemes (.ofString (a ++ "\n" ++ b)) =
      lexemes (.ofString a) ++ (lexemes (.ofString b)).map (Lexeme.shift (a.utf8ByteSize + 1)) := by
    rw [Cursor.ofString, htext, utf8ByteSize_eq]
    exact hjoin.lexemes_eq
  refine ⟨hlexemes, shownStrings_of_append hlexemes, fun hw ↦ ?_⟩
  rw [shownStrings_of_append hlexemes, Showing.shownOn, hw]
  rfl

theorem lexemes_join_of_comment :
    (∀ l ∈ lexemes (.ofString "(a\\)) show %("), ∀ value,
      l.token = .string value → ClosedIn "(a\\)) show %(" l) ∧
    (tokens "(a\\)) show %(").getLast? ≠ some (.stray '<') ∧
    (showing "(a\\)) show %(").waiting = [] ∧
    lexemes (.ofString ("(a\\)) show %(" ++ "\n" ++ "<62>show")) =
      lexemes (.ofString "(a\\)) show %(") ++
        (lexemes (.ofString "<62>show")).map (Lexeme.shift 14) ∧
    shownStrings ("(a\\)) show %(" ++ "\n" ++ "<62>show") =
      shownStrings "(a\\)) show %(" ++ shownStrings "<62>show" := by
  have hs : ∀ l ∈ lexemes (.ofString "(a\\)) show %("), ∀ value,
      l.token = .string value → ClosedIn "(a\\)) show %(" l := by
    have hlexemes : lexemes (.ofString "(a\\)) show %(") =
        [⟨0, .string "a)", 5⟩, ⟨6, .word "show", 10⟩] := by decide +kernel
    rw [hlexemes]
    intro l hl value hv
    rcases List.mem_cons.mp hl with rfl | hl
    · exact ⟨"(a\\))".toList, " show %(".toList, ⟨[], rfl, rfl, rfl⟩,
        .literal (.other (by decide) (.escaped .last))⟩
    · obtain rfl := List.mem_singleton.mp hl
      cases hv
  have ha : (tokens "(a\\)) show %(").getLast? ≠ some (.stray '<') := by decide +kernel
  have hw : (showing "(a\\)) show %(").waiting = [] := by decide +kernel
  obtain ⟨hlexemes, -, hshown⟩ := lexemes_join "(a\\)) show %(" "<62>show" hs ha
  exact ⟨hs, ha, hw, hlexemes, hshown hw⟩

end ShownText.PostScript
