import ShownText.PostScript.Shown
import ShownText.Proofs.Tiling

namespace ShownText.PostScript

open Text

def Lexeme.shift (n : ℕ) (l : Lexeme) : Lexeme := ⟨l.start + n, l.token, l.stop + n⟩

variable {gap body rest rest' : List Char} {t : Token} {offset : ℕ} {ls ls' : List Lexeme}

theorem Gap.mono (hg : Gap rest gap) (h : ∀ c ∈ rest'.head?, c ∈ rest.head?) : Gap rest' gap := by
  induction hg with
  | nil => exact .nil
  | space hc _ ih => exact .space hc ih
  | @comment body gap hb hl _ ih =>
    refine .comment hb ?_ ih
    cases gap with
    | nil => exact fun c hc ↦ hl c (h c hc)
    | cons d gap => exact hl

theorem Spells.mono (hb : Spells rest body t) (h : ∀ c ∈ rest'.head?, c ∈ rest.head?) :
    Spells rest' body t := by
  have hnil : rest = [] → rest' = [] := by
    rintro rfl
    cases rest' with
    | nil => rfl
    | cons c rest' => exact absurd (h c rfl) (by simp)
  cases hb with
  | literal hc => exact .literal hc
  | openLiteral hc hr => exact .openLiteral hc (hnil hr)
  | hex hd hh => exact .hex hd hh
  | openHex hd hh hn hr => exact .openHex hd hh hn (hnil hr)
  | bracket kind => exact .bracket kind
  | closeParen => exact .closeParen
  | greater hr => exact .greater fun hc ↦ hr (h _ hc)
  | less hr => exact .less (hnil hr)
  | name ht hr => exact .name ht fun c hc ↦ hr c (h c hc)
  | word hne ht hr => exact .word hne ht fun c hc ↦ hr c (h c hc)

theorem Gap.before_token (hg : Gap (body ++ rest) gap) (hb : Spells rest body t) :
    Gap (body ++ rest') gap := by
  obtain ⟨first, tail, rfl, -⟩ := hb.exists_cons
  exact hg.mono fun c hc ↦ hc

theorem Gap.append {gap' : List Char} (h : Gap (gap' ++ rest) gap) (h' : Gap rest gap') :
    Gap rest (gap ++ gap') := by
  induction h with
  | nil => exact h'
  | space hc _ ih => exact .space hc ih
  | comment hb hl _ ih =>
    rw [List.cons_append, List.append_assoc]
    refine .comment hb ?_ ih
    rwa [List.append_assoc]

theorem Reads.behind_gap {cs : List Char} (h : Reads (offset + byteLength gap) cs ls)
    (hg : Gap cs gap) : Reads offset (gap ++ cs) ls := by
  generalize ho : offset + byteLength gap = o at h
  cases h with
  | done hg' =>
    apply Reads.done
    exact Gap.append (by rwa [List.append_nil]) hg'
  | @token o gap' body rest t ls hg' hb hr =>
    have hsize : offset + byteLength (gap ++ gap') = o + byteLength gap' := by
      rw [byteLength_append]
      omega
    have hread := Reads.token (hg.append hg') hb (by rw [hsize]; exact hr)
    rwa [hsize, List.append_assoc] at hread

theorem Reads.shift {cs : List Char} (h : Reads offset cs ls) (n : ℕ) :
    Reads (offset + n) cs (ls.map (Lexeme.shift n)) := by
  induction h with
  | done hg => exact .done hg
  | @token offset gap body rest t ls hg hb _ ih =>
    have hstart : offset + byteLength gap + n = offset + n + byteLength gap := by omega
    have hstop : offset + byteLength gap + byteLength body + n =
        offset + n + byteLength gap + byteLength body := by omega
    rw [hstop] at ih
    rw [List.map_cons, Lexeme.shift]
    simp only [hstart, hstop]
    exact .token hg hb ih

/-- Before the token stands what is read as `ls`, and after it what is read as `ls'`. -/
structure Splits (offset : ℕ) (cs : List Char) (ls : List Lexeme) (l : Lexeme) (ls' : List Lexeme)
    (front body rest : List Char) : Prop where
  chars : cs = front ++ (body ++ rest)
  reads_front : Reads offset front ls
  start : l.start = offset + byteLength front
  spells : Spells rest body l.token
  stop : l.stop = l.start + byteLength body
  reads_through : Reads offset (front ++ body) (ls ++ [l])
  reads_rest : Reads l.stop rest ls'

/-- What stands before a token, and what stands up to its end, is read as if the text ended there.
What stands behind it is read as it is in the whole text. -/
theorem Reads.splits {cs : List Char} {l : Lexeme} (h : Reads offset cs (ls ++ l :: ls')) :
    ∃ front body rest, Splits offset cs ls l ls' front body rest := by
  generalize hls : ls ++ l :: ls' = all at h
  -- Over the tokens read: the first one belongs to the front unless it is the token itself.
  induction h generalizing ls with
  | done _ => simp at hls
  | @token offset gap body rest t all hg hb hr ih =>
    cases ls with
    | nil =>
      obtain ⟨rfl, rfl⟩ := List.cons.inj hls
      have hend : Reads (offset + byteLength gap + byteLength body) [] [] := .done .nil
      have hthrough := Reads.token (hg.before_token hb) (hb.mono (by simp)) hend
      rw [List.append_nil] at hthrough
      exact ⟨gap, body, rest, rfl, .done (hg.mono (by simp)), rfl, hb, rfl, hthrough, hr⟩
    | cons first ls =>
      obtain ⟨rfl, rfl⟩ := List.cons.inj hls
      obtain ⟨front, body', rest', hsplit⟩ := ih rfl
      obtain ⟨rfl, hfront, hstart, hspells, hstop, hthrough, hrest⟩ := hsplit
      have hhead : ∀ xs ys : List Char, ∀ c ∈ xs.head?, c ∈ (xs ++ ys).head? := by
        intro xs ys c hc
        rw [List.head?_append, Option.mem_def.mp hc]
        rfl
      refine ⟨gap ++ (body ++ front), body', rest', ?_, ?_, ?_, hspells, hstop, ?_, hrest⟩
      · simp only [List.append_assoc]
      · exact .token (hg.before_token hb) (hb.mono (hhead front _)) hfront
      · rw [hstart, byteLength_append, byteLength_append]
        omega
      · have hb' := hb
        rw [← List.append_assoc] at hb'
        have hread := Reads.token (hg.before_token hb) (hb'.mono (hhead _ rest')) hthrough
        simpa only [List.append_assoc, List.cons_append] using hread

theorem Reads.cut {cs : List Char} (h : Reads offset cs (ls ++ ls')) (hne : ls ≠ []) :
    ∃ front back, cs = front ++ back ∧ Reads offset front ls ∧
      (ls.getLast hne).stop = offset + byteLength front ∧
      Reads (offset + byteLength front) back ls' := by
  obtain ⟨ls, l, rfl⟩ := (List.eq_nil_or_concat ls).resolve_left hne
  simp only [List.concat_eq_append, List.append_assoc, List.singleton_append] at h hne ⊢
  obtain ⟨front, body, rest, hsplit⟩ := h.splits
  have hstop : l.stop = offset + byteLength (front ++ body) := by
    rw [hsplit.stop, hsplit.start, byteLength_append, Nat.add_assoc]
  refine ⟨front ++ body, rest, ?_, hsplit.reads_through, ?_, ?_⟩
  · rw [hsplit.chars, List.append_assoc]
  · rw [List.getLast_append_singleton, hstop]
  · rw [← hstop]
    exact hsplit.reads_rest

namespace Showing

def shownOn (s : Showing) (ts : List Token) : List String :=
  (acceptAll ⟨s.waiting, #[]⟩ ts).shown.toList

theorem accept_frame (waiting : List String) (shown : Array String) (t : Token) :
    accept ⟨waiting, shown⟩ t =
      ⟨(accept ⟨waiting, #[]⟩ t).waiting, shown ++ (accept ⟨waiting, #[]⟩ t).shown⟩ := by
  cases t with
  | string _ | name _ | bracket _ | stray _ => simp [accept]
  | word text =>
    simp only [accept, applyWord]
    split
    · simp
    · split <;> simp

theorem acceptAll_frame (waiting : List String) (shown : Array String) (ts : List Token) :
    acceptAll ⟨waiting, shown⟩ ts =
      ⟨(acceptAll ⟨waiting, #[]⟩ ts).waiting, shown ++ (acceptAll ⟨waiting, #[]⟩ ts).shown⟩ := by
  induction ts generalizing waiting shown with
  | nil => simp [acceptAll]
  | cons t ts ih =>
    simp only [acceptAll, List.foldl_cons] at ih ⊢
    rw [accept_frame, ih]
    conv_rhs => rw [ih]
    simp

theorem shown_acceptAll (s : Showing) (ts : List Token) :
    (s.acceptAll ts).shown.toList = s.shown.toList ++ s.shownOn ts := by
  rw [acceptAll_frame, Array.toList_append]
  rfl

end Showing

theorem map_token_shift (n : ℕ) (ls : List Lexeme) :
    (ls.map (Lexeme.shift n)).map Lexeme.token = ls.map Lexeme.token := by
  rw [List.map_map]
  rfl

theorem shownStrings_of_append {text front back : String} {n : ℕ}
    (h : lexemes (.ofString text) =
      lexemes (.ofString front) ++ (lexemes (.ofString back)).map (Lexeme.shift n)) :
    shownStrings text = shownStrings front ++ (showing front).shownOn (tokens back) := by
  rw [shownStrings, showing, tokens, h, List.map_append, map_token_shift, Showing.acceptAll_append,
    Showing.shown_acceptAll]
  rfl

theorem lexemes_shift (n : ℕ) (cs : List Char) :
    lexemes ⟨n, cs⟩ = (lexemes ⟨0, cs⟩).map (Lexeme.shift n) := by
  have h := (reads_lexemes ⟨0, cs⟩).shift n
  rw [Nat.zero_add] at h
  exact h.lexemes_eq

/-- Right after each token a text falls into two parts. Its tokens are those of the front part,
which are the ones up to there, and then those of the back part. The front part shows the strings
that the text shows first. -/
theorem lexemes_cut (text : String) (n : ℕ) (hn : n < (lexemes (.ofString text)).length) :
    ∃ front back, text = front ++ back ∧
      front.utf8ByteSize = tell text (lexemes (.ofString text)) (n + 1) ∧
      lexemes (.ofString front) = (lexemes (.ofString text)).take (n + 1) ∧
      lexemes (.ofString text) = lexemes (.ofString front) ++
        (lexemes (.ofString back)).map (Lexeme.shift front.utf8ByteSize) ∧
      shownStrings front <+: shownStrings text := by
  have hreads := reads_lexemes (.ofString text)
  generalize hls : lexemes (.ofString text) = ls at hn hreads ⊢
  rw [← List.take_append_drop (n + 1) ls] at hreads
  have hne : ls.take (n + 1) ≠ [] := by
    rw [← List.length_pos_iff, List.length_take]
    omega
  obtain ⟨front, back, htext, hfront, hstop, hback⟩ := hreads.cut hne
  simp only [Cursor.ofString, Nat.zero_add] at htext hfront hstop hback
  have hsize : (String.ofList front).utf8ByteSize = byteLength front := by
    rw [utf8ByteSize_eq, String.toList_ofList]
  have hlexemes : lexemes (.ofString (String.ofList front)) = ls.take (n + 1) := by
    rw [Cursor.ofString, String.toList_ofList, hfront.lexemes_eq]
  have happend : lexemes (.ofString text) = lexemes (.ofString (String.ofList front)) ++
      (lexemes (.ofString (String.ofList back))).map (Lexeme.shift (byteLength front)) := by
    rw [hls, hlexemes, Cursor.ofString, String.toList_ofList, ← lexemes_shift, hback.lexemes_eq,
      List.take_append_drop]
  refine ⟨String.ofList front, String.ofList back, ?_, ?_, hlexemes, ?_, ?_⟩
  · rw [← String.ofList_append, ← htext, String.ofList_toList]
  · rw [hsize, ← hstop, tell, List.getLast_take, Nat.add_sub_cancel, List.getElem?_eq_getElem hn]
    rfl
  · rw [← hls, hsize, happend]
  · rw [shownStrings_of_append happend]
    exact List.prefix_append _ _

theorem lexemes_cut_of_open :
    1 < (lexemes (.ofString "(a)show<4")).length ∧
    ∃ front back, "(a)show<4" = front ++ back ∧
      front.utf8ByteSize = tell "(a)show<4" (lexemes (.ofString "(a)show<4")) 2 ∧
      lexemes (.ofString front) = (lexemes (.ofString "(a)show<4")).take 2 ∧
      lexemes (.ofString "(a)show<4") = lexemes (.ofString front) ++
        (lexemes (.ofString back)).map (Lexeme.shift front.utf8ByteSize) ∧
      shownStrings front <+: shownStrings "(a)show<4" := by
  have hn : 1 < (lexemes (.ofString "(a)show<4")).length := by decide +kernel
  exact ⟨hn, lexemes_cut "(a)show<4" 1 hn⟩

end ShownText.PostScript
