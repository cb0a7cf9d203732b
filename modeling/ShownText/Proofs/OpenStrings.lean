import ShownText.Proofs.Closing
import ShownText.Proofs.Cutting
import ShownText.Proofs.Matching

namespace ShownText.PostScript

open Text Matching

variable {offset : ℕ} {cs front body rest : List Char} {ls ls' : List Lexeme} {l m : Lexeme}
variable {text value : String} {i j n : ℕ}

theorem Splits.stop_le (h : Splits offset cs ls l ls' front body rest) (hm : m ∈ ls') :
    l.stop ≤ m.start := by
  obtain ⟨before, after, rfl⟩ := List.append_of_mem hm
  obtain ⟨_, _, _, hsplit⟩ := h.reads_rest.splits
  rw [hsplit.start]
  exact Nat.le_add_right _ _

theorem exists_splits (h : (lexemes (.ofString text))[n]? = some l) :
    ∃ ls ls' front body rest, lexemes (.ofString text) = ls ++ l :: ls' ∧ ls.length = n ∧
      Splits 0 text.toList ls l ls' front body rest := by
  obtain ⟨hn, rfl⟩ := List.getElem?_eq_some_iff.mp h
  have hlexemes : lexemes (.ofString text) = (lexemes (.ofString text)).take n ++
      (lexemes (.ofString text))[n] :: (lexemes (.ofString text)).drop (n + 1) := by
    rw [← List.drop_eq_getElem_cons hn, List.take_append_drop]
  have hreads := reads_lexemes (.ofString text)
  rw [hlexemes] at hreads
  obtain ⟨front, body, rest, hsplit⟩ := hreads.splits
  exact ⟨_, _, front, body, rest, hlexemes, List.length_take_of_le hn.le, hsplit⟩

theorem Splits.spans (h : Splits 0 text.toList ls l ls' front body rest) :
    Spans text l.start l.stop body rest := by
  refine ⟨front, h.chars, ?_, ?_⟩
  · rw [h.start, Nat.zero_add]
  · rw [h.stop, h.start, byteLength_append, Nat.zero_add]

theorem Spans.closedIn_iff (h : Spans text l.start l.stop body rest) :
    ClosedIn text l ↔ Delimited body := by
  constructor
  · rintro ⟨spelled, after, hspans, hclosed⟩
    rwa [h.unique hspans]
  · intro hclosed
    exact ⟨body, rest, h, hclosed⟩

theorem stop_le_start (hl : (lexemes (.ofString text))[i]? = some l)
    (hm : (lexemes (.ofString text))[j]? = some m) (h : i < j) : l.stop ≤ m.start := by
  obtain ⟨ls, ls', front, body, rest, hlexemes, rfl, hsplit⟩ := exists_splits hl
  obtain ⟨k, rfl⟩ := Nat.exists_eq_add_of_lt h
  rw [hlexemes, Nat.add_assoc, List.getElem?_append_right (Nat.le_add_right _ _),
    Nat.add_sub_cancel_left, List.getElem?_cons_succ] at hm
  exact hsplit.stop_le (List.mem_of_getElem? hm)

theorem Spells.delimited_or_eq_nil (h : Spells rest body (.string value)) :
    Delimited body ∨ rest = [] := by
  cases h with
  | literal hc => exact .inl (.literal (Literal.exists_closes_iff.mp ⟨_, hc⟩))
  | openLiteral _ hr => exact .inr hr
  | hex hd _ => exact .inl (.hex hd)
  | openHex _ _ _ hr => exact .inr hr

/-- A string that is not closed has no closed beginning either. -/
theorem Spells.not_delimited {spelled : List Char} (h : Spells rest body (.string value))
    (hbody : ¬ Delimited body) (hbegin : spelled <+: body) : ¬ Delimited spelled := by
  intro hspelled
  cases h with
  | literal hc => exact hbody (.literal (Literal.exists_closes_iff.mp ⟨_, hc⟩))
  | hex hd _ => exact hbody (.hex hd)
  | openLiteral hopen _ =>
    cases hspelled with
    | literal hc =>
      obtain ⟨found, hfound⟩ := Literal.exists_closes_iff.mpr hc
      exact hopen _ found (List.cons_prefix_cons.mp hbegin).2 hfound
    | hex _ => exact absurd (List.cons_prefix_cons.mp hbegin).1 (by decide)
  | openHex hd _ _ _ =>
    cases hspelled with
    | literal _ => exact absurd (List.cons_prefix_cons.mp hbegin).1 (by decide)
    | hex _ =>
      have hmem := (List.cons_prefix_cons.mp hbegin).2.subset
        (List.mem_append_right _ (List.mem_singleton_self '>'))
      exact hd _ hmem rfl

theorem length_tokens (text : String) :
    (tokens text).length = (lexemes (.ofString text)).length :=
  List.length_map _

/-- The token ends the text, since no closed string begins where it does. It is not shown, and the
text up to it shows the same strings. -/
structure AddsNothing (text : String) (n : ℕ) (l : Lexeme) : Prop where
  last : n + 1 = (lexemes (.ofString text)).length
  stop : l.stop = text.utf8ByteSize
  unclosed : ∀ stop spelled after, Spans text l.start stop spelled after → ¬ Delimited spelled
  unshown : ∀ j, ¬ Shows (tokens text) n j
  cut : ∃ front back, text = front ++ back ∧ front.utf8ByteSize = l.start ∧
    shownStrings text = shownStrings front

theorem not_shows_of_last (h : n + 1 = (tokens text).length) (j : ℕ) :
    ¬ Shows (tokens text) n j := by
  intro hshows
  have hmatches := shows_iff.mp hshows
  have hlt := hmatches.encloses.lt
  have hlength := hmatches.lt_length
  omega

theorem shownStrings_of_last {front : String}
    (h : tokens text = tokens front ++ [.string value]) :
    shownStrings text = shownStrings front := by
  rw [shownStrings, showing, h, Showing.acceptAll_append]
  rfl

theorem addsNothing_of_open (h : (lexemes (.ofString text))[n]? = some l)
    (hvalue : l.token = .string value) (hopen : ¬ ClosedIn text l) : AddsNothing text n l := by
  obtain ⟨ls, ls', front, body, rest, hlexemes, rfl, hsplit⟩ := exists_splits h
  have hspells := hsplit.spells
  rw [hvalue] at hspells
  have hbody : ¬ Delimited body := mt hsplit.spans.closedIn_iff.mpr hopen
  obtain rfl := hspells.delimited_or_eq_nil.resolve_left hbody
  obtain rfl := hsplit.reads_rest.eq_nil
  have hlast : ls.length + 1 = (lexemes (.ofString text)).length := by
    rw [hlexemes, List.length_append, List.length_singleton]
  have htext := hsplit.chars
  rw [List.append_nil] at htext
  have hfront : lexemes (.ofString (String.ofList front)) = ls := by
    rw [Cursor.ofString, String.toList_ofList]
    exact hsplit.reads_front.lexemes_eq
  have htokens : tokens text = tokens (String.ofList front) ++ [.string value] := by
    rw [tokens, hlexemes, tokens, hfront, List.map_append, List.map_singleton, hvalue]
  refine ⟨hlast, ?_, ?_, ?_, String.ofList front, String.ofList body, ?_, ?_, ?_⟩
  · rw [hsplit.stop, hsplit.start, utf8ByteSize_eq, htext, byteLength_append, Nat.zero_add]
  · intro stop spelled after hspans
    have hsame := hspans.append_eq hsplit.spans
    rw [List.append_nil] at hsame
    exact hspells.not_delimited hbody ⟨after, hsame⟩
  · apply not_shows_of_last
    rw [length_tokens, hlast]
  · rw [← String.ofList_append, ← htext, String.ofList_toList]
  · rw [hsplit.start, utf8ByteSize_eq, String.toList_ofList, Nat.zero_add]
  · exact shownStrings_of_last htokens

structure ClosedBefore (text : String) (value : String) (l m : Lexeme) : Prop where
  token : l.token = .string value
  closed : ClosedIn text l
  stop_le : l.stop ≤ m.start
  operator : ∃ op : PaintingOperator, m.token = .word op.name

theorem exists_operator {t : Token} (h : role t = .pop) :
    ∃ op : PaintingOperator, t = .word op.name := by
  cases t with
  | word text =>
    simp only [role] at h
    split at h
    · next hop =>
      obtain ⟨op, hop⟩ := Option.isSome_iff_exists.mp hop
      exact ⟨op, congrArg Token.word (PaintingOperator.ofName?_eq_some_iff.mp hop).symm⟩
    · split at h <;> cases h
  | string _ | name _ | bracket _ | stray _ => cases h

theorem exists_closedBefore (h : Shows (tokens text) i j) : ∃ value l m,
    stringAt? (tokens text) i = some value ∧ (lexemes (.ofString text))[i]? = some l ∧
      (lexemes (.ofString text))[j]? = some m ∧ ClosedBefore text value l m := by
  have hmatches := shows_iff.mp h
  obtain ⟨value, hvalue⟩ := hmatches.encloses.stringAt?
  have htoken := stringAt?_eq_some_iff.mp hvalue
  have hpop := hmatches.isPop
  rw [tokens, List.getElem?_map] at htoken
  rw [IsPop, tokens, List.getElem?_map] at hpop
  obtain ⟨l, hl, htoken⟩ := Option.map_eq_some_iff.mp htoken
  obtain ⟨t, ht, hrole⟩ := Option.map_eq_some_iff.mp hpop
  obtain ⟨m, hm, rfl⟩ := Option.map_eq_some_iff.mp ht
  refine ⟨value, l, m, hvalue, hl, hm, htoken, ?_, ?_, exists_operator hrole⟩
  · by_contra hopen
    exact (addsNothing_of_open hl htoken hopen).unshown j h
  · exact stop_le_start hl hm hmatches.encloses.lt

theorem exists_shows (h : value ∈ shownStrings text) :
    ∃ i j, Shows (tokens text) i j ∧ stringAt? (tokens text) i = some value := by
  rw [shownStrings, showing, shown_eq, List.mem_filterMap] at h
  obtain ⟨j, -, hj⟩ := h
  obtain ⟨i, hi, hvalue⟩ := Option.bind_eq_some_iff.mp hj
  have hmatches : Matches (tokens text) i j := by simpa using List.find?_some hi
  exact ⟨i, j, shows_iff.mpr hmatches, hvalue⟩

/-- A string that its token does not close adds nothing to what a text shows. All strings that are
shown are closed before their operators. -/
theorem shown_closed (text : String) :
    (∀ n l value, (lexemes (.ofString text))[n]? = some l → l.token = .string value →
      ¬ ClosedIn text l → AddsNothing text n l) ∧
    (∀ i j, Shows (tokens text) i j → ∃ value l m, stringAt? (tokens text) i = some value ∧
      (lexemes (.ofString text))[i]? = some l ∧ (lexemes (.ofString text))[j]? = some m ∧
      ClosedBefore text value l m) ∧
    ∀ value ∈ shownStrings text,
      ∃ i j, Shows (tokens text) i j ∧ stringAt? (tokens text) i = some value := by
  refine ⟨?_, ?_, ?_⟩
  · intro n l value hl hvalue hopen
    exact addsNothing_of_open hl hvalue hopen
  · intro i j h
    exact exists_closedBefore h
  · intro value h
    exact exists_shows h

theorem not_delimited_hex : ¬ Delimited "<41".toList := by
  intro h
  generalize hs : "<41".toList = s at h
  cases h with
  | literal _ => cases hs
  | hex _ =>
    have hlast := congrArg List.getLast? (List.cons.inj hs).2
    rw [List.getLast?_append] at hlast
    cases hlast

theorem not_delimited_literal : ¬ Delimited "(b(\\)".toList := by
  intro h
  generalize hs : "(b(\\)".toList = s at h
  cases h with
  | hex _ => cases hs
  | literal h =>
    cases hs
    cases h with
    | other _ h =>
      cases h with
      | opening h =>
        cases h with
        | escaped h => cases h
        | other hc _ => exact hc (by decide)
      | other hc _ => exact hc (by decide)

theorem shown_closed_of_open :
    ¬ ClosedIn "(a)show <41" ⟨8, .string "A", 11⟩ ∧
    AddsNothing "(a)show <41" 2 ⟨8, .string "A", 11⟩ ∧
    ¬ ClosedIn "(a)show (b(\\)" ⟨8, .string "", 13⟩ ∧
    AddsNothing "(a)show (b(\\)" 2 ⟨8, .string "", 13⟩ := by
  have hhex : ¬ ClosedIn "(a)show <41" ⟨8, .string "A", 11⟩ := by
    have hspans : Spans "(a)show <41" 8 11 "<41".toList [] := ⟨"(a)show ".toList, by decide⟩
    exact mt hspans.closedIn_iff.mp not_delimited_hex
  have hliteral : ¬ ClosedIn "(a)show (b(\\)" ⟨8, .string "", 13⟩ := by
    have hspans : Spans "(a)show (b(\\)" 8 13 "(b(\\)".toList [] :=
      ⟨"(a)show ".toList, by decide⟩
    exact mt hspans.closedIn_iff.mp not_delimited_literal
  refine ⟨hhex, ?_, hliteral, ?_⟩
  · exact (shown_closed _).1 2 _ "A" (by decide +kernel) rfl hhex
  · exact (shown_closed _).1 2 _ "" (by decide +kernel) rfl hliteral

end ShownText.PostScript
