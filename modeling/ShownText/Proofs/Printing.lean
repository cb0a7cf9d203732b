import ShownText.Proofs.Grammar

namespace ShownText.PostScript

open Text

def escape (c : Char) : List Char :=
  if c = '\\' ∨ c = '(' ∨ c = ')' then ['\\', c] else [c]

def literalSpelling (value : String) : List Char := '(' :: (value.toList.flatMap escape ++ [')'])

def Token.spelling : Token → List Char
  | .string value => literalSpelling value
  | .name text => '/' :: text.toList
  | .bracket kind => kind.spelling
  | .stray c => [c]
  | .word text => text.toList

def print (tokens : List Token) : String :=
  String.ofList ([' '].intercalate (tokens.map Token.spelling))

def Token.WellFormed : Token → Prop
  | .string _ | .bracket _ => True
  | .name text => ∀ c ∈ text.toList, isRegular c = true
  | .stray c => c = ')' ∨ c = '>' ∨ c = '<'
  | .word text => text.toList ≠ [] ∧ ∀ c ∈ text.toList, isRegular c = true

instance : DecidablePred Token.WellFormed
  | .string _ | .bracket _ => inferInstanceAs (Decidable True)
  | .name text => decidable_of_iff (text.toList.all isRegular = true) List.all_eq_true
  | .stray c => inferInstanceAs (Decidable (c = ')' ∨ c = '>' ∨ c = '<'))
  | .word text => decidable_of_iff (text.toList ≠ [] ∧ text.toList.all isRegular = true)
    (and_congr_right fun _ ↦ List.all_eq_true)

/-- An opening angle bracket may stand alone only at the end. -/
structure Printable (tokens : List Token) : Prop where
  wellFormed : ∀ t ∈ tokens, t.WellFormed
  lone_angle : ∀ t ∈ tokens.dropLast, t ≠ .stray '<'

instance : DecidablePred Printable := fun tokens ↦
  decidable_of_iff ((∀ t ∈ tokens, t.WellFormed) ∧ ∀ t ∈ tokens.dropLast, t ≠ .stray '<')
    ⟨fun h ↦ ⟨h.1, h.2⟩, fun h ↦ ⟨h.wellFormed, h.lone_angle⟩⟩

namespace Literal

theorem closes_escaped (cs value : List Char) : Closes ⟨0, .plain, value⟩
    (cs.flatMap escape ++ [')']) (String.ofList (value.reverse ++ cs)) := by
  induction cs generalizing value with
  | nil =>
    rw [List.append_nil]
    exact .last rfl
  | cons c cs ih =>
    have h := ih (c :: value)
    rw [List.reverse_cons, List.append_assoc, List.singleton_append] at h
    rw [List.flatMap_cons, List.append_assoc, escape]
    split
    · next hc => rcases hc with rfl | rfl | rfl <;> exact .next rfl (.next rfl h)
    · next hc => exact .next (read_plain hc 0 value) h

end Literal

theorem spells_literal (value : String) (rest : List Char) :
    Spells rest (literalSpelling value) (.string value) := by
  have h := Literal.closes_escaped value.toList []
  rw [List.reverse_nil, List.nil_append, String.ofList_toList] at h
  exact .literal h

theorem Token.WellFormed.spells {t : Token} (h : t.WellFormed) {rest : List Char}
    (hr : ∀ c ∈ rest.head?, startsToken c = false) (hl : t = .stray '<' → rest = []) :
    Spells rest t.spelling t := by
  have hr' : ∀ c ∈ rest.head?, isRegular c = false := fun c hc ↦ by
    rw [Bool.eq_false_iff]
    intro hreg
    have hs := hr c hc
    rw [startsToken_of_isRegular hreg] at hs
    cases hs
  cases t with
  | string value => exact spells_literal value rest
  | name text =>
    have hs := Spells.name h hr'
    rwa [String.ofList_toList] at hs
  | bracket kind => exact .bracket kind
  | stray c =>
    rcases h with rfl | rfl | rfl
    · exact .closeParen
    · exact .greater fun hc ↦ absurd (hr _ hc) (by decide)
    · exact .less (hl rfl)
  | word text =>
    have hs := Spells.word h.1 h.2 hr'
    rwa [String.ofList_toList] at hs

theorem intercalate_cons {α : Type} (sep x : List α) (xs : List (List α)) :
    sep.intercalate (x :: xs) = x ++ xs.flatMap (sep ++ ·) := by
  induction xs generalizing x with
  | nil => simp [List.intercalate]
  | cons y ys ih =>
    have h := ih y
    simp only [List.intercalate, List.intersperse, List.flatten_cons, List.flatMap_cons] at h ⊢
    rw [h, List.append_assoc]

theorem Printable.tail {t : Token} {ts : List Token} (h : Printable (t :: ts)) : Printable ts := by
  refine ⟨fun u hu ↦ h.wellFormed u (by simp [hu]), fun u hu ↦ h.lone_angle u ?_⟩
  cases ts with
  | nil => simp at hu
  | cons v ts => simp [List.dropLast_cons_cons, hu]

theorem Printable.head_spells {t : Token} {ts : List Token} (h : Printable (t :: ts)) :
    Spells ((ts.map Token.spelling).flatMap ([' '] ++ ·)) t.spelling t := by
  refine (h.wellFormed t (by simp)).spells ?_ ?_
  · cases ts with
    | nil => simp
    | cons u ts => simp; rfl
  · rintro rfl
    cases ts with
    | nil => rfl
    | cons u ts => exact absurd rfl (h.lone_angle _ (by simp [List.dropLast_cons_cons]))

theorem Printable.readAs {ts : List Token} (h : Printable ts) :
    ReadAs ((ts.map Token.spelling).flatMap ([' '] ++ ·)) ts := by
  induction ts with
  | nil => exact .gap .nil
  | cons t ts ih =>
    rw [List.map_cons, List.flatMap_cons, List.append_assoc]
    exact .token (.space rfl .nil) h.head_spells (ih h.tail)

theorem tokens_print {ts : List Token} (h : Printable ts) : tokens (print ts) = ts := by
  refine ReadAs.tokens_eq ?_
  cases ts with
  | nil => exact .gap .nil
  | cons t ts =>
    rw [List.map_cons, intercalate_cons]
    exact .token .nil h.head_spells h.tail.readAs

theorem Spells.wellFormed {body rest : List Char} {t : Token} (h : Spells rest body t) :
    t.WellFormed := by
  cases h with
  | literal _ | openLiteral _ _ | hex _ _ | openHex _ _ _ _ | bracket _ => trivial
  | closeParen => exact .inl rfl
  | greater _ => exact .inr (.inl rfl)
  | less _ => exact .inr (.inr rfl)
  | name ht _ => simpa [Token.WellFormed] using ht
  | word hne ht _ => simpa [Token.WellFormed] using ⟨hne, ht⟩

theorem Spells.rest_eq_nil {body rest : List Char} (h : Spells rest body (.stray '<')) :
    rest = [] := by
  cases h with
  | less hr => exact hr

theorem Reads.printable {offset : ℕ} {cs : List Char} {ls : List Lexeme} (h : Reads offset cs ls) :
    Printable (ls.map Lexeme.token) := by
  induction h with
  | done _ => exact ⟨by simp, by simp⟩
  | @token offset gap body rest t lexemes hg hb hr ih =>
    constructor
    · intro u hu
      rcases List.mem_cons.mp hu with rfl | hu
      · exact hb.wellFormed
      · exact ih.wellFormed u hu
    · intro u hu
      cases lexemes with
      | nil => simp at hu
      | cons l ls =>
        rw [List.map_cons, List.map_cons, List.dropLast_cons_cons, ← List.map_cons] at hu
        rcases List.mem_cons.mp hu with rfl | hu
        · rintro rfl
          rw [hb.rest_eq_nil] at hr
          exact absurd hr.eq_nil (by simp)
        · exact ih.lone_angle u hu

theorem printable_tokens (text : String) : Printable (tokens text) :=
  (reads_lexemes (Cursor.ofString text)).printable

/-- Printable lists of tokens are exactly what texts are read as, and reading undoes printing. -/
theorem print_round_trip :
    (∀ ts, Printable ts → tokens (print ts) = ts) ∧
    ∀ text, Printable (tokens text) ∧ tokens (print (tokens text)) = tokens text :=
  ⟨fun _ h ↦ tokens_print h,
    fun text ↦ ⟨printable_tokens text, tokens_print (printable_tokens text)⟩⟩

theorem print_round_trip_of_strays :
    Printable [.word "a", .stray '>', .stray '>', .string "(\\", .name "", .stray '<'] ∧
    tokens (print [.word "a", .stray '>', .stray '>', .string "(\\", .name "", .stray '<']) =
      [.word "a", .stray '>', .stray '>', .string "(\\", .name "", .stray '<'] :=
  ⟨by decide, print_round_trip.1 _ (by decide)⟩

end ShownText.PostScript
