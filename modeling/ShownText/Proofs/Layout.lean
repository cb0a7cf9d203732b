import ShownText.Proofs.Cutting
import ShownText.Proofs.Recovery

namespace ShownText.PostScript

open Text

variable {body rest cs : List Char} {t : Token} {offset : ℕ} {l : Lexeme}
  {ls ls' : List Lexeme}

theorem Reads.ne_nil (h : Reads offset cs (l :: ls)) : cs ≠ [] := by
  cases h with
  | token _ hb _ =>
    obtain ⟨first, tail, rfl, -⟩ := hb.exists_cons
    simp

theorem Spells.before_separator (h : Spells rest body t) (hne : rest ≠ []) (sep : Separator)
    (more : List Char) : Spells (sep.chars ++ more) body t := by
  have hregular : ∀ c ∈ (sep.chars ++ more).head?, isRegular c = false := by
    intro c hc
    have hended := sep.ended more c hc
    apply Bool.eq_false_iff.mpr
    intro hr
    rw [startsToken_of_isRegular hr] at hended
    cases hended
  cases h with
  | literal hc => exact .literal hc
  | openLiteral _ hr => exact absurd hr hne
  | hex hd hh => exact .hex hd hh
  | openHex _ _ _ hr => exact absurd hr hne
  | bracket kind => exact .bracket kind
  | closeParen => exact .closeParen
  | greater _ =>
    apply Spells.greater
    intro hc
    exact absurd (sep.ended more _ hc) (by decide)
  | less hr => exact absurd hr hne
  | name ht _ => exact .name ht hregular
  | word hw ht _ => exact .word hw ht hregular

/-- Before each token a text has a gap. Any separator can stand there instead, whatever tokens
follow it: those before the gap are read as they were. -/
theorem Reads.respace (h : Reads offset cs (ls ++ l :: ls')) :
    ∃ before gap after, cs = before ++ (gap ++ after) ∧
      offset + byteLength before = (ls.getLast?.map Lexeme.stop).getD offset ∧
      offset + byteLength (before ++ gap) = l.start ∧ Reads l.start after (l :: ls') ∧
      ∀ (sep : Separator) (more : List Lexeme),
        Reads (offset + byteLength (before ++ sep.chars)) after more →
          Reads offset (before ++ (sep.chars ++ after)) (ls ++ more) := by
  generalize hall : ls ++ l :: ls' = all at h
  -- Over the tokens read: the gap is that of the first one, or lies behind it.
  induction h generalizing ls with
  | done _ => exact absurd (List.append_eq_nil_iff.mp hall).2 (List.cons_ne_nil l ls')
  | @token offset gap body rest t all hg hb hr ih =>
    cases ls with
    | nil =>
      obtain ⟨rfl, rfl⟩ := List.cons.inj hall
      refine ⟨[], gap, body ++ rest, rfl, rfl, rfl, ?_, ?_⟩
      · exact @Reads.token (offset + byteLength gap) [] body rest t _ .nil hb hr
      · intro sep more hmore
        simp only [List.nil_append] at hmore ⊢
        exact hmore.behind_gap (sep.blank.gap _)
    | cons l₀ ls =>
      obtain ⟨rfl, htail⟩ := List.cons.inj hall
      obtain ⟨before, gap', after, rfl, hstop, hstart, hafter, hsep⟩ := ih htail
      have hsize : ∀ chars, offset + byteLength (gap ++ (body ++ before) ++ chars) =
          offset + byteLength gap + byteLength body + byteLength (before ++ chars) := by
        intro chars
        simp only [byteLength_append, Nat.add_assoc]
      refine ⟨gap ++ (body ++ before), gap', after, by simp, ?_, ?_, hafter, ?_⟩
      · rw [List.getLast?_cons]
        have h₀ := hsize []
        simp only [List.append_nil] at h₀
        rw [h₀, hstop]
        cases ls.getLast? <;> rfl
      · rw [hsize, hstart]
      · intro sep more hmore
        rw [hsize] at hmore
        have hspells : Spells (before ++ (sep.chars ++ after)) body t := by
          cases before with
          | nil => exact hb.before_separator (by simp [hafter.ne_nil]) sep after
          | cons c before => exact hb.mono fun d hd ↦ hd
        have hread := Reads.token (hg.before_token hb) hspells (hsep sep more hmore)
        simpa using hread

theorem lexemes_respace (text : String) (n : ℕ) (hn : n < (lexemes (.ofString text)).length) :
    ∃ before gap after, text = before ++ gap ++ after ∧
      before.utf8ByteSize = tell text (lexemes (.ofString text)) n ∧
      (before ++ gap).utf8ByteSize = (lexemes (.ofString text))[n].start ∧
      lexemes (.ofString text) = (lexemes (.ofString text)).take n ++
        (lexemes (.ofString after)).map (Lexeme.shift (before ++ gap).utf8ByteSize) ∧
      ∀ sep : Separator, lexemes (.ofString (before ++ String.ofList sep.chars ++ after)) =
        (lexemes (.ofString text)).take n ++ (lexemes (.ofString after)).map
          (Lexeme.shift (before ++ String.ofList sep.chars).utf8ByteSize) := by
  have hreads := reads_lexemes (.ofString text)
  generalize hls : lexemes (.ofString text) = ls at hn hreads ⊢
  rw [← List.take_append_drop n ls, List.drop_eq_getElem_cons hn] at hreads
  obtain ⟨before, gap, after, htext, hstop, hstart, hafter, hsep⟩ := hreads.respace
  simp only [Cursor.ofString, Nat.zero_add] at htext hstop hstart hsep
  have hsize : ∀ cs, (String.ofList cs).utf8ByteSize = byteLength cs := by
    intro cs
    rw [utf8ByteSize_eq, String.toList_ofList]
  refine ⟨String.ofList before, String.ofList gap, String.ofList after, ?_, ?_, ?_, ?_, ?_⟩
  · rw [← String.ofList_append, ← String.ofList_append, List.append_assoc, ← htext,
      String.ofList_toList]
  · rw [hsize, hstop]
    cases n with
    | zero => rfl
    | succ n =>
      rw [List.getLast?_take, if_neg (Nat.succ_ne_zero n), Nat.add_sub_cancel,
        List.getElem?_eq_getElem (Nat.lt_of_succ_lt hn), tell,
        List.getElem?_eq_getElem (Nat.lt_of_succ_lt hn)]
      rfl
  · rw [← String.ofList_append, hsize, hstart]
  · rw [← String.ofList_append, hsize, hstart, Cursor.ofString, String.toList_ofList,
      ← lexemes_shift, hafter.lexemes_eq, ← List.drop_eq_getElem_cons hn, List.take_append_drop]
  · intro sep
    have hread := hsep sep _ (reads_lexemes ⟨byteLength (before ++ sep.chars), after⟩)
    rw [← String.ofList_append, ← String.ofList_append, hsize, Cursor.ofString, Cursor.ofString,
      String.toList_ofList, String.toList_ofList, ← lexemes_shift, List.append_assoc]
    exact hread.lexemes_eq

/-- The text between two tokens, or before the first one, has no influence. Whatever whitespace and
comments with their line ends replace it, the tokens and the strings shown stay the same. -/
theorem layout_free (text : String) (n : ℕ) (hn : n < (lexemes (.ofString text)).length) :
    ∃ before gap after, text = before ++ gap ++ after ∧
      before.utf8ByteSize = tell text (lexemes (.ofString text)) n ∧
      (before ++ gap).utf8ByteSize = (lexemes (.ofString text))[n].start ∧
      ∀ sep : Separator,
        tokens (before ++ String.ofList sep.chars ++ after) = tokens text ∧
        shownStrings (before ++ String.ofList sep.chars ++ after) = shownStrings text ∧
        shownText (before ++ String.ofList sep.chars ++ after) = shownText text := by
  obtain ⟨before, gap, after, htext, hstop, hstart, hlexemes, hsep⟩ := lexemes_respace text n hn
  refine ⟨before, gap, after, htext, hstop, hstart, ?_⟩
  intro sep
  have htokens : tokens (before ++ String.ofList sep.chars ++ after) = tokens text := by
    rw [tokens, hsep sep, tokens]
    conv_rhs => rw [hlexemes]
    rw [List.map_append, List.map_append, map_token_shift, map_token_shift]
  have hshowing : showing (before ++ String.ofList sep.chars ++ after) = showing text := by
    rw [showing, htokens, showing]
  exact ⟨htokens, by rw [shownStrings, hshowing, shownStrings],
    by rw [shownText, hshowing, shownText]⟩

theorem layout_free_of_touching :
    1 < (lexemes (.ofString "(a)show")).length ∧
    tokens "(a)%)<(é) show\rshow" = tokens "(a)show" ∧
    shownStrings "(a)%)<(é) show\rshow" = shownStrings "(a)show" ∧
    shownText "(a)%)<(é) show\rshow" = shownText "(a)show" := by
  have hn : 1 < (lexemes (.ofString "(a)show")).length := by decide +kernel
  obtain ⟨before, gap, after, htext, hstop, hstart, hsep⟩ := layout_free "(a)show" 1 hn
  have hend : tell "(a)show" (lexemes (.ofString "(a)show")) 1 = 3 := by decide +kernel
  have hshow : (lexemes (.ofString "(a)show"))[1]? = some ⟨3, .word "show", 7⟩ := by
    decide +kernel
  rw [List.getElem?_eq_getElem hn, Option.some.injEq] at hshow
  rw [hend, utf8ByteSize_eq] at hstop
  rw [hshow, utf8ByteSize_eq, String.toList_append] at hstart
  have hlist : before.toList ++ (gap.toList ++ after.toList) = "(a)".toList ++ "show".toList := by
    have happend := congrArg String.toList htext
    rw [String.toList_append, String.toList_append, List.append_assoc] at happend
    exact happend.symm
  -- The two places are known by their offsets.
  obtain ⟨hbefore, -⟩ := Cursor.append_inj_of_byteLength hlist hstop
  rw [← List.append_assoc] at hlist
  obtain ⟨-, hafter⟩ := Cursor.append_inj_of_byteLength hlist hstart
  obtain rfl : before = "(a)" := String.toList_inj.mp hbefore
  obtain rfl : after = "show" := String.toList_inj.mp hafter
  have hbody : ∀ d ∈ ")<(é) show".toList, isLineEnd d = false := by
    have hall : (")<(é) show".toList.all fun d ↦ !isLineEnd d) = true := by decide
    simpa only [Bool.not_eq_true'] using List.all_eq_true.mp hall
  exact ⟨hn, hsep ⟨"%)<(é) show\r".toList, @Blank.comment ")<(é) show".toList [] '\r'
    hbody rfl .nil, by decide⟩⟩

end ShownText.PostScript
