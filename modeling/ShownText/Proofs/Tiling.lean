import ShownText.Proofs.ScannerAgreement

namespace ShownText.PostScript

open Text

/-- From byte `start` to byte `stop` the text has the characters `cs`, and then those of `after`. -/
def Spans (text : String) (start stop : ℕ) (cs after : List Char) : Prop :=
  ∃ before, text.toList = before ++ (cs ++ after) ∧ byteLength before = start ∧
    byteLength (before ++ cs) = stop

structure MaximalRun (run after : List Char) : Prop where
  regular : ∀ c ∈ run, endsWord c = false
  ended : ∀ c ∈ after.head?, endsWord c = true

def GapAt (text : String) (start stop : ℕ) : Prop :=
  ∃ gap after, Spans text start stop gap after ∧ Gap after gap

structure TokenAt (text : String) (l : Lexeme) : Prop where
  start_lt_stop : l.start < l.stop
  stop_le : l.stop ≤ text.utf8ByteSize
  start_isValid : String.Pos.Raw.IsValid text ⟨l.start⟩
  stop_isValid : String.Pos.Raw.IsValid text ⟨l.stop⟩
  name : ∀ name, l.token = .name name → ∃ after,
    Spans text l.start l.stop ('/' :: name.toList) after ∧ MaximalRun name.toList after
  word : ∀ word, l.token = .word word → ∃ after,
    Spans text l.start l.stop word.toList after ∧ MaximalRun word.toList after

/-- Gaps and the tokens lie side by side, from an offset to the end of the text. -/
def Tiles (text : String) : ℕ → List Lexeme → Prop
  | lower, [] => GapAt text lower text.utf8ByteSize
  | lower, l :: ls => GapAt text lower l.start ∧ TokenAt text l ∧ Tiles text l.stop ls

variable {text : String} {offset : ℕ}

theorem spans_of_isIn {cs after : List Char} (h : Cursor.IsIn ⟨offset, cs ++ after⟩ text) :
    Spans text offset (offset + byteLength cs) cs after := by
  obtain ⟨before, ht, ho⟩ := h
  exact ⟨before, ht, ho.symm, by rw [byteLength_append, ← ho]⟩

theorem Spans.stop_eq {start stop : ℕ} {xs after : List Char}
    (h : Spans text start stop xs after) : stop = start + byteLength xs := by
  obtain ⟨before, -, hstart, hstop⟩ := h
  rw [← hstop, byteLength_append, hstart]

theorem Spans.append_eq {start stop stop' : ℕ} {xs xs' after after' : List Char}
    (h : Spans text start stop xs after) (h' : Spans text start stop' xs' after') :
    xs ++ after = xs' ++ after' := by
  obtain ⟨before, ht, hstart, -⟩ := h
  obtain ⟨before', ht', hstart', -⟩ := h'
  exact (Cursor.append_inj_of_byteLength (ht.symm.trans ht') (hstart.trans hstart'.symm)).2

theorem Spans.unique {start stop : ℕ} {xs xs' after after' : List Char}
    (h : Spans text start stop xs after) (h' : Spans text start stop xs' after') : xs = xs' := by
  have hsize := h.stop_eq.symm.trans h'.stop_eq
  exact (Cursor.append_inj_of_byteLength (h.append_eq h') (by omega)).1

theorem maximalRun_of_regular {run after : List Char} (h : ∀ c ∈ run, isRegular c = true)
    (ha : ∀ c ∈ after.head?, isRegular c = false) : MaximalRun run after :=
  ⟨fun c hc ↦ by simpa [isRegular] using h c hc, fun c hc ↦ by simpa [isRegular] using ha c hc⟩

theorem tokenAt_of_spells {body rest : List Char} {t : Token}
    (h : Cursor.IsIn ⟨offset, body ++ rest⟩ text) (hb : Spells rest body t) :
    TokenAt text ⟨offset, t, offset + byteLength body⟩ := by
  have hsize := h.advance.offset_add
  refine ⟨?_, ?_, h.isValid, h.advance.isValid, ?_, ?_⟩
  · obtain ⟨first, tail, rfl, -⟩ := hb.exists_cons
    have hpos := first.utf8Size_pos
    simp only [byteLength_cons]
    omega
  · simp only at hsize ⊢
    omega
  · rintro name rfl
    cases hb with
    | name ht hr =>
      rw [String.toList_ofList]
      exact ⟨rest, spans_of_isIn h, maximalRun_of_regular ht hr⟩
  · rintro word rfl
    cases hb with
    | word _ ht hr =>
      rw [String.toList_ofList]
      exact ⟨rest, spans_of_isIn h, maximalRun_of_regular ht hr⟩

theorem Reads.tiles {cs : List Char} {ls : List Lexeme} (h : Reads offset cs ls)
    (hin : Cursor.IsIn ⟨offset, cs⟩ text) : Tiles text offset ls := by
  induction h with
  | @done offset gap hg =>
    rw [← List.append_nil gap] at hin
    have hspan := spans_of_isIn hin
    have hsize := hin.advance.offset_add
    simp only [byteLength_nil, Nat.add_zero] at hsize
    rw [hsize] at hspan
    exact ⟨gap, [], hspan, hg⟩
  | @token offset gap body rest t ls hg hb _ ih =>
    exact ⟨⟨gap, body ++ rest, spans_of_isIn hin, hg⟩, tokenAt_of_spells hin.advance hb,
      ih hin.advance.advance⟩

/-- The offset after `n` calls that give the tokens one by one, and nothing after the last. -/
def tell (text : String) (ls : List Lexeme) : ℕ → ℕ
  | 0 => 0
  | n + 1 => (ls[n]?.map Lexeme.stop).getD text.utf8ByteSize

theorem head?_lexemes (c : Cursor) : (lexemes c).head? = (next c).1 := by
  rw [lexemes_eq]
  split <;> next h => rw [h]; rfl

theorem tail_lexemes (c : Cursor) : (lexemes c).tail = lexemes (next c).2 := by
  obtain ⟨offset, cs⟩ := c
  rcases gap_or_token cs with hg | ⟨gap, body, rest, t, rfl, hg, hb⟩
  · rw [lexemes_eq, next_of_gap hg, (Reads.done .nil).lexemes_eq]
    rfl
  · rw [lexemes_eq, next_of_spells hg hb]
    rfl

theorem offset_next {c : Cursor} (h : c.IsIn text) :
    (next c).2.offset = ((next c).1.map Lexeme.stop).getD text.utf8ByteSize := by
  obtain ⟨offset, cs⟩ := c
  rcases gap_or_token cs with hg | ⟨gap, body, rest, t, rfl, hg, hb⟩
  · rw [next_of_gap hg]
    exact h.offset_add
  · rw [next_of_spells hg hb]
    rfl

theorem exists_place (text : String) (n : ℕ) : ∃ c : Cursor, c.IsIn text ∧
    c.offset = tell text (lexemes (Cursor.ofString text)) n ∧
    lexemes c = (lexemes (Cursor.ofString text)).drop n ∧
    Scanner.calls text n =
      .ok ((List.range n).map fun i ↦ (lexemes (Cursor.ofString text))[i]?, c.offset) := by
  induction n with
  | zero => exact ⟨_, Cursor.isIn_ofString text, rfl, rfl, rfl⟩
  | succ n ih =>
    obtain ⟨c, hin, -, hls, hcalls⟩ := ih
    have hanswer : (next c).1 = (lexemes (Cursor.ofString text))[n]? := by
      rw [← head?_lexemes, hls, List.head?_drop]
    refine ⟨(next c).2, Scanner.next_isIn hin, ?_, ?_, ?_⟩
    · rw [offset_next hin, hanswer, tell]
    · rw [← tail_lexemes, hls, List.tail_drop]
    · rw [Scanner.calls, hcalls]
      simp only [bind, Except.bind, Scanner.next_eq hin, pure, Except.pure, hanswer,
        List.range_succ, List.map_append, List.map_cons, List.map_nil]

/-- The tokens of a text tile it, and calls on its bytes give them one by one, without a slip. -/
theorem lexemes_tile (text : String) : Tiles text 0 (lexemes (Cursor.ofString text)) ∧
    ∀ n, Scanner.calls text n =
      .ok ((List.range n).map fun i ↦ (lexemes (Cursor.ofString text))[i]?,
        tell text (lexemes (Cursor.ofString text)) n) := by
  refine ⟨(reads_lexemes (Cursor.ofString text)).tiles (Cursor.isIn_ofString text), fun n ↦ ?_⟩
  obtain ⟨c, -, ho, -, hcalls⟩ := exists_place text n
  rw [hcalls, ho]

end ShownText.PostScript
