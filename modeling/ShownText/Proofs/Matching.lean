import Mathlib.Combinatorics.Enumerative.DyckWord
import ShownText.PostScript.Shown

namespace ShownText.PostScript.Matching

open DyckStep

inductive Role
  | push (value : String)
  | pop
  | clear
  | neutral
  deriving DecidableEq, Repr

def role : Token → Role
  | .string value => .push value
  | .name _ | .bracket _ | .stray _ => .neutral
  | .word text =>
    if (PaintingOperator.ofName? text).isSome then .pop
    else if isNumber text then .neutral
    else .clear

def Role.step? : Role → Option DyckStep
  | .push _ => some U
  | .pop => some D
  | .clear | .neutral => none

def steps (tokens : List Token) : List DyckStep := tokens.filterMap fun t ↦ (role t).step?

/-- No token clears, and the brackets match one another. -/
structure Balanced (tokens : List Token) : Prop where
  no_clear : ∀ t ∈ tokens, role t ≠ .clear
  dyck : ∃ w : DyckWord, w.toList = steps tokens

def between (tokens : List Token) (i j : ℕ) : List Token := (tokens.take j).drop (i + 1)

def stringAt? (tokens : List Token) (i : ℕ) : Option String :=
  match tokens[i]? with
  | some (.string value) => some value
  | _ => none

def IsPop (tokens : List Token) (j : ℕ) : Prop := tokens[j]?.map role = some .pop

/-- The string at `i` stands open at `j`, and what follows it up to there is balanced. -/
structure Encloses (tokens : List Token) (i j : ℕ) : Prop where
  lt : i < j
  isString : (stringAt? tokens i).isSome
  balanced : Balanced (between tokens i j)

/-- The operator at `j` closes the string at `i`. -/
structure Matches (tokens : List Token) (i j : ℕ) : Prop where
  isPop : IsPop tokens j
  encloses : Encloses tokens i j

/-- The string at `i` is neither cleared nor matched by a token before `n`. -/
structure Waits (tokens : List Token) (n i : ℕ) : Prop where
  lt : i < n
  isString : (stringAt? tokens i).isSome
  no_clear : ∀ t ∈ between tokens i n, role t ≠ .clear
  unmatched : ∀ j < n, ¬Matches tokens i j

theorem exists_dyckWord_iff (s : List DyckStep) : (∃ w : DyckWord, w.toList = s) ↔
    s.count U = s.count D ∧ ∀ i < s.length, (s.take i).count D ≤ (s.take i).count U := by
  constructor
  · rintro ⟨w, rfl⟩
    exact ⟨w.count_U_eq_count_D, fun i _ ↦ w.count_D_le_count_U i⟩
  · rintro ⟨he, hle⟩
    refine ⟨⟨s, he, fun i ↦ ?_⟩, rfl⟩
    rcases Nat.lt_or_ge i s.length with hi | hi
    · exact hle i hi
    · rw [List.take_of_length_le hi, he]

instance (tokens : List Token) : Decidable (Balanced tokens) :=
  decidable_of_iff
    ((∀ t ∈ tokens, role t ≠ .clear) ∧ (steps tokens).count U = (steps tokens).count D ∧
      ∀ i < (steps tokens).length,
        ((steps tokens).take i).count D ≤ ((steps tokens).take i).count U)
    ⟨fun h ↦ ⟨h.1, (exists_dyckWord_iff _).mpr h.2⟩,
      fun h ↦ ⟨h.no_clear, (exists_dyckWord_iff _).mp h.dyck⟩⟩

instance (tokens : List Token) (i j : ℕ) : Decidable (Encloses tokens i j) :=
  decidable_of_iff (i < j ∧ (stringAt? tokens i).isSome ∧ Balanced (between tokens i j))
    ⟨fun h ↦ ⟨h.1, h.2.1, h.2.2⟩, fun h ↦ ⟨h.lt, h.isString, h.balanced⟩⟩

instance (tokens : List Token) (j : ℕ) : Decidable (IsPop tokens j) :=
  inferInstanceAs (Decidable (_ = _))

instance (tokens : List Token) (i j : ℕ) : Decidable (Matches tokens i j) :=
  decidable_of_iff (IsPop tokens j ∧ Encloses tokens i j)
    ⟨fun h ↦ ⟨h.1, h.2⟩, fun h ↦ ⟨h.isPop, h.encloses⟩⟩

instance (tokens : List Token) (n i : ℕ) : Decidable (Waits tokens n i) :=
  decidable_of_iff
    (i < n ∧ (stringAt? tokens i).isSome ∧ (∀ t ∈ between tokens i n, role t ≠ .clear) ∧
      ∀ j < n, ¬Matches tokens i j)
    ⟨fun h ↦ ⟨h.1, h.2.1, h.2.2.1, h.2.2.2⟩,
      fun h ↦ ⟨h.lt, h.isString, h.no_clear, h.unmatched⟩⟩

def matchedString? (tokens : List Token) (j : ℕ) : Option String :=
  ((List.range j).find? fun i ↦ Matches tokens i j).bind (stringAt? tokens)

structure Trace where
  waiting : List (ℕ × String)
  shown : List ((ℕ × String) × ℕ)

namespace Trace

def start : Trace := ⟨[], []⟩

def accept (s : Trace) (place : ℕ) (t : Token) : Trace :=
  match role t, s.waiting with
  | .push value, waiting => ⟨(place, value) :: waiting, s.shown⟩
  | .pop, top :: below => ⟨below, s.shown ++ [(top, place)]⟩
  | .pop, [] => s
  | .clear, _ => ⟨[], s.shown⟩
  | .neutral, _ => s

def upTo (tokens : List Token) : ℕ → Trace
  | 0 => start
  | n + 1 =>
    match tokens[n]? with
    | some t => (upTo tokens n).accept n t
    | none => upTo tokens n

def erase (s : Trace) : Showing :=
  ⟨s.waiting.map Prod.snd, (s.shown.map fun p ↦ p.1.2).toArray⟩

theorem erase_accept (s : Trace) (place : ℕ) (t : Token) :
    (s.accept place t).erase = s.erase.accept t := by
  rcases s with ⟨waiting, shown⟩
  cases t with
  | string value => rfl
  | name text => rfl
  | bracket kind => rfl
  | stray c => rfl
  | word text =>
    cases hop : PaintingOperator.ofName? text with
    | some op =>
      cases waiting with
      | nil => simp [accept, erase, Showing.accept, Showing.applyWord, role, hop]
      | cons top below => simp [accept, erase, Showing.accept, Showing.applyWord, role, hop]
    | none =>
      by_cases hn : isNumber text = true
      · simp [accept, erase, Showing.accept, Showing.applyWord, role, hop, hn]
      · simp [accept, erase, Showing.accept, Showing.applyWord, role, hop, hn]

theorem erase_upTo (tokens : List Token) (n : ℕ) :
    (upTo tokens n).erase = Showing.start.acceptAll (tokens.take n) := by
  induction n with
  | zero => rfl
  | succ n ih =>
    rw [upTo, List.take_add_one]
    cases h : tokens[n]? with
    | none => simpa using ih
    | some t => simp [erase_accept, ih, Showing.acceptAll]

variable {tokens : List Token} {n : ℕ} {t : Token}

theorem waiting_succ (h : tokens[n]? = some t) : (upTo tokens (n + 1)).waiting =
    match role t with
    | .push value => (n, value) :: (upTo tokens n).waiting
    | .pop => (upTo tokens n).waiting.tail
    | .clear => []
    | .neutral => (upTo tokens n).waiting := by
  rw [upTo, h]
  simp only [accept]
  cases role t with
  | push value => rfl
  | pop => cases hw : (upTo tokens n).waiting <;> simp [hw]
  | clear => rfl
  | neutral => rfl

theorem shown_succ (h : tokens[n]? = some t) : (upTo tokens (n + 1)).shown =
    (upTo tokens n).shown ++
      if role t = .pop then ((upTo tokens n).waiting.head?.map (·, n)).toList else [] := by
  rw [upTo, h]
  simp only [accept]
  cases role t with
  | push value => simp
  | pop => cases hw : (upTo tokens n).waiting <;> simp
  | clear => simp
  | neutral => simp

end Trace

open Trace

variable {tokens : List Token} {i j n : ℕ} {t : Token} {value : String}

theorem role_eq_push_iff : role t = .push value ↔ t = .string value := by
  cases t with
  | string v => simp [role]
  | name text => simp [role]
  | bracket kind => simp [role]
  | stray c => simp [role]
  | word text => simp only [role]; split_ifs <;> simp

theorem stringAt?_eq_some_iff :
    stringAt? tokens i = some value ↔ tokens[i]? = some (.string value) := by
  unfold stringAt?
  split
  · next h => simp [h]
  · next h => simp only [reduceCtorEq, false_iff]; exact fun h' ↦ h _ h'

theorem between_succ_self (i : ℕ) : between tokens i (i + 1) = [] :=
  List.drop_eq_nil_of_le (List.length_take_le _ _)

theorem between_succ (hi : i < n) (h : tokens[n]? = some t) :
    between tokens i (n + 1) = between tokens i n ++ [t] := by
  have hn : n < tokens.length := (List.getElem?_eq_some_iff.mp h).1
  unfold between
  rw [List.take_add_one, h, List.drop_append_of_le_length (by simp; omega)]
  rfl

theorem between_split (hi : i < j) (hj : j < n) (hn : n ≤ tokens.length)
    (h : tokens[j]? = some t) :
    between tokens i n = between tokens i j ++ t :: between tokens j n := by
  induction n, hj using Nat.le_induction with
  | base => rw [between_succ hi h, between_succ_self]
  | succ n hjn ih =>
    have hn' : tokens[n]? = some tokens[n] := List.getElem?_eq_getElem hn
    rw [between_succ (by omega) hn', between_succ hjn hn', ih (by omega)]
    simp

theorem steps_concat (xs : List Token) (t : Token) :
    steps (xs ++ [t]) = steps xs ++ (role t).step?.toList := by
  rw [steps, List.filterMap_append]
  cases h : (role t).step? <;> simp [steps, h]

theorem Balanced.nil : Balanced [] := ⟨by simp, 0, rfl⟩

theorem Balanced.append {xs ys : List Token} (hx : Balanced xs) (hy : Balanced ys) :
    Balanced (xs ++ ys) := by
  obtain ⟨v, hv⟩ := hx.dyck
  obtain ⟨w, hw⟩ := hy.dyck
  constructor
  · intro t ht
    rcases List.mem_append.mp ht with ht | ht
    · exact hx.no_clear t ht
    · exact hy.no_clear t ht
  · refine ⟨v + w, ?_⟩
    rw [steps, List.filterMap_append, ← steps, ← steps, ← hv, ← hw]
    rfl

theorem Balanced.neutral (h : role t = .neutral) : Balanced [t] :=
  ⟨by simp [h], 0, by simp [steps, h, Role.step?]; rfl⟩

theorem Balanced.nest {xs : List Token} {first last : Token} (hx : Balanced xs)
    (hf : role first = .push value) (hl : role last = .pop) :
    Balanced (first :: xs ++ [last]) := by
  obtain ⟨w, hw⟩ := hx.dyck
  constructor
  · intro t ht
    simp only [List.cons_append, List.mem_cons, List.mem_append, List.not_mem_nil, or_false] at ht
    rcases ht with rfl | ht | rfl
    · simp [hf]
    · exact hx.no_clear t ht
    · simp [hl]
  · refine ⟨w.nest, ?_⟩
    simp [DyckWord.nest, steps, hw, hf, hl, Role.step?]

/-- Each string of the stack encloses the place, and what is below it stood there when the string
was read. -/
inductive Stacked (tokens : List Token) : List (ℕ × String) → ℕ → Prop
  | nil (n : ℕ) : Stacked tokens [] n
  | cons {i n : ℕ} {value : String} {below : List (ℕ × String)} :
      i < n → stringAt? tokens i = some value → Balanced (between tokens i n) →
      Stacked tokens below i → Stacked tokens ((i, value) :: below) n

theorem Stacked.neutral {stack : List (ℕ × String)} (hs : Stacked tokens stack n)
    (h : tokens[n]? = some t) (ht : role t = .neutral) : Stacked tokens stack (n + 1) := by
  cases hs with
  | nil => exact .nil _
  | cons hi hv hb hbelow =>
    refine .cons (by omega) hv ?_ hbelow
    rw [between_succ hi h]
    exact hb.append (.neutral ht)

theorem Stacked.pop {stack : List (ℕ × String)} (hs : Stacked tokens stack n)
    (h : tokens[n]? = some t) (ht : role t = .pop) : Stacked tokens stack.tail (n + 1) := by
  cases hs with
  | nil => exact .nil _
  | @cons i _ value below hi hv hb hbelow =>
    have hn : n < tokens.length := (List.getElem?_eq_some_iff.mp h).1
    have htop := stringAt?_eq_some_iff.mp hv
    cases hbelow with
    | nil => exact .nil _
    | @cons j _ _ _ hj hv' hb' hbelow' =>
      refine .cons (by omega) hv' ?_ hbelow'
      have hsplit : between tokens j (n + 1) =
          between tokens j i ++ (.string value :: between tokens i n ++ [t]) := by
        rw [between_succ (by omega) h, between_split hj hi hn.le htop, List.append_assoc]
      rw [hsplit]
      exact hb'.append (hb.nest rfl ht)

theorem stacked_upTo (hn : n ≤ tokens.length) : Stacked tokens (upTo tokens n).waiting n := by
  induction n with
  | zero => exact .nil 0
  | succ n ih =>
    have h : tokens[n]? = some tokens[n] := List.getElem?_eq_getElem hn
    have hs := ih (by omega)
    rw [waiting_succ h]
    cases hr : role tokens[n] with
    | push value =>
      refine .cons (by omega) ?_ ?_ hs
      · rw [stringAt?_eq_some_iff, h, role_eq_push_iff.mp hr]
      · rw [between_succ_self]
        exact .nil
    | pop => exact hs.pop h hr
    | clear => exact .nil _
    | neutral => exact hs.neutral h hr

theorem Stacked.lt_and_pairwise {stack : List (ℕ × String)} (hs : Stacked tokens stack n) :
    (∀ p ∈ stack, p.1 < n) ∧ stack.Pairwise (fun p q ↦ q.1 < p.1) := by
  induction hs with
  | nil => simp
  | @cons i n value below hi hv hb hbelow ih =>
    constructor
    · intro p hp
      rcases List.mem_cons.mp hp with rfl | hp
      · exact hi
      · exact (ih.1 p hp).trans hi
    · exact List.pairwise_cons.mpr ⟨ih.1, ih.2⟩

/-- As long as every stretch from `i` on opens at least as often as it closes, what waited just
after `i` stays below what the stretch leaves open. -/
theorem exists_above (hi : i < n) (hn : n ≤ tokens.length)
    (hclear : ∀ t ∈ between tokens i n, role t ≠ .clear)
    (hle : ∀ m, i < m → m ≤ n →
      (steps (between tokens i m)).count D ≤ (steps (between tokens i m)).count U) :
    ∃ above, (upTo tokens n).waiting = above ++ (upTo tokens (i + 1)).waiting ∧
      above.length + (steps (between tokens i n)).count D =
        (steps (between tokens i n)).count U := by
  induction n, hi using Nat.le_induction with
  | base => exact ⟨[], rfl, by simp [between_succ_self, steps]⟩
  | succ n hin ih =>
    have h : tokens[n]? = some tokens[n] := List.getElem?_eq_getElem hn
    have hb := between_succ hin h
    have hlast := hle (n + 1) (by omega) le_rfl
    have hnc : role tokens[n] ≠ .clear := hclear _ (by simp [hb])
    obtain ⟨above, hw, hc⟩ := ih (by omega) (fun t ht ↦ hclear t (by simp [hb, ht]))
      (fun m hm hmn ↦ hle m hm (by omega))
    rw [hb, steps_concat, List.count_append, List.count_append] at hlast ⊢
    rw [waiting_succ h]
    cases hr : role tokens[n] with
    | push value =>
      refine ⟨(n, value) :: above, by simp [hw], ?_⟩
      simp only [Role.step?, Option.toList_some, List.count_singleton_self, List.length_cons,
        List.count_singleton, reduceCtorEq, beq_iff_eq, if_false]
      omega
    | pop =>
      simp only [hr, Role.step?, Option.toList_some, List.count_singleton_self,
        List.count_singleton, reduceCtorEq, beq_iff_eq, if_false] at hlast ⊢
      cases above with
      | nil => simp only [List.length_nil] at hc; omega
      | cons top above =>
        refine ⟨above, by simp [hw], ?_⟩
        simp only [List.length_cons] at hc
        omega
    | clear => exact absurd hr hnc
    | neutral => exact ⟨above, hw, by simpa [Role.step?] using hc⟩

theorem steps_between_eq_take {m : ℕ} (hm : m ≤ n) :
    steps (between tokens i m) =
      (steps (between tokens i n)).take (steps (between tokens i m)).length := by
  have hp : between tokens i m <+: between tokens i n := by
    unfold between
    exact (List.take_prefix_take_left hm).drop _
  exact List.prefix_iff_eq_take.mp (hp.filterMap _)

theorem head?_waiting_eq_some_iff (hn : n ≤ tokens.length) :
    (upTo tokens n).waiting.head? = some (i, value) ↔
      Encloses tokens i n ∧ stringAt? tokens i = some value := by
  constructor
  · intro h
    have hs := stacked_upTo hn
    cases hw : (upTo tokens n).waiting with
    | nil => simp [hw] at h
    | cons top below =>
      simp only [hw, List.head?_cons, Option.some.injEq] at h
      subst h
      rw [hw] at hs
      cases hs with
      | cons hi hv hb hbelow => exact ⟨⟨hi, by simp [hv], hb⟩, hv⟩
  · rintro ⟨⟨hi, -, hb⟩, hv⟩
    obtain ⟨w, hdyck⟩ := hb.dyck
    obtain ⟨above, hw, hc⟩ := exists_above hi hn hb.no_clear (fun m _ hm ↦ by
      rw [steps_between_eq_take hm, ← hdyck]
      exact w.count_D_le_count_U _)
    have hcount := w.count_U_eq_count_D
    rw [hdyck] at hcount
    have hnil : above = [] := List.length_eq_zero_iff.mp (by omega)
    rw [hw, hnil, waiting_succ (stringAt?_eq_some_iff.mp hv)]
    rfl

theorem Encloses.stringAt? (h : Encloses tokens i n) :
    ∃ value, stringAt? tokens i = some value := Option.isSome_iff_exists.mp h.isString

theorem Encloses.unique {k : ℕ} (hn : n ≤ tokens.length) (hi : Encloses tokens i n)
    (hk : Encloses tokens k n) : i = k := by
  obtain ⟨v, hv⟩ := hi.stringAt?
  obtain ⟨w, hw⟩ := hk.stringAt?
  have h := (head?_waiting_eq_some_iff hn).mpr ⟨hi, hv⟩
  rw [(head?_waiting_eq_some_iff hn).mpr ⟨hk, hw⟩] at h
  simp only [Option.some.injEq, Prod.mk.injEq] at h
  exact h.1.symm

theorem IsPop.lt (h : IsPop tokens j) : j < tokens.length := by
  by_contra hj
  simp [IsPop, List.getElem?_eq_none (Nat.le_of_not_lt hj)] at h

theorem Matches.lt_length (h : Matches tokens i j) : j < tokens.length := h.isPop.lt

theorem matches_iff : Matches tokens i j ↔
    IsPop tokens j ∧ ∃ value, (upTo tokens j).waiting.head? = some (i, value) := by
  constructor
  · intro h
    obtain ⟨v, hv⟩ := h.encloses.stringAt?
    exact ⟨h.isPop, v, (head?_waiting_eq_some_iff h.lt_length.le).mpr ⟨h.encloses, hv⟩⟩
  · rintro ⟨hp, v, hv⟩
    exact ⟨hp, ((head?_waiting_eq_some_iff hp.lt.le).mp hv).1⟩

theorem waits_succ_self (ht : tokens[n]? = some t) :
    Waits tokens (n + 1) n ↔ ∃ value, role t = .push value := by
  constructor
  · intro h
    obtain ⟨v, hv⟩ := Option.isSome_iff_exists.mp h.isString
    rw [stringAt?_eq_some_iff, ht, Option.some.injEq] at hv
    exact ⟨v, role_eq_push_iff.mpr hv⟩
  · rintro ⟨v, hv⟩
    have hs : stringAt? tokens n = some v := by
      rw [stringAt?_eq_some_iff, ht, role_eq_push_iff.mp hv]
    exact ⟨by omega, by simp [hs], by simp [between_succ_self],
      fun j hj h ↦ absurd h.encloses.lt (by omega)⟩

theorem waits_succ_of_lt (hi : i < n) (ht : tokens[n]? = some t) :
    Waits tokens (n + 1) i ↔ Waits tokens n i ∧ role t ≠ .clear ∧ ¬Matches tokens i n := by
  constructor
  · rintro ⟨-, hstr, hc, hm⟩
    rw [between_succ hi ht] at hc
    exact ⟨⟨hi, hstr, fun t h ↦ hc t (by simp [h]), fun j hj ↦ hm j (by omega)⟩,
      hc _ (by simp), hm n (by omega)⟩
  · rintro ⟨⟨-, hstr, hc, hm⟩, hnc, hmn⟩
    refine ⟨by omega, hstr, fun t h ↦ ?_, fun j hj ↦ ?_⟩
    · rw [between_succ hi ht, List.mem_append, List.mem_singleton] at h
      rcases h with h | rfl
      · exact hc t h
      · exact hnc
    · rcases Nat.lt_succ_iff_lt_or_eq.mp hj with hj | rfl
      · exact hm j hj
      · exact hmn

theorem waits_succ (ht : tokens[n]? = some t) : Waits tokens (n + 1) i ↔
    (i = n ∧ ∃ value, role t = .push value) ∨
      (Waits tokens n i ∧ role t ≠ .clear ∧ ¬Matches tokens i n) := by
  rcases Nat.lt_trichotomy i n with hi | rfl | hi
  · simp [waits_succ_of_lt hi ht, hi.ne]
  · rw [waits_succ_self ht]
    exact ⟨fun h ↦ .inl ⟨rfl, h⟩, fun h ↦ h.elim And.right fun h ↦ absurd h.1.lt (by omega)⟩
  · exact ⟨fun h ↦ absurd h.lt (by omega),
      fun h ↦ h.elim (fun h ↦ absurd h.1 (by omega)) fun h ↦ absurd h.1.lt (by omega)⟩

/-- The stack after `n` tokens holds exactly the strings that wait. -/
theorem mem_waiting_iff (hn : n ≤ tokens.length) :
    i ∈ (upTo tokens n).waiting.map Prod.fst ↔ Waits tokens n i := by
  induction n with
  | zero => exact ⟨by simp [upTo, start], fun h ↦ absurd h.lt (Nat.not_lt_zero i)⟩
  | succ n ih =>
    have ht : tokens[n]? = some tokens[n] := List.getElem?_eq_getElem hn
    have hm : Matches tokens i n ↔
        role tokens[n] = .pop ∧ ∃ v, (upTo tokens n).waiting.head? = some (i, v) := by
      rw [matches_iff, IsPop, ht]
      simp
    have hs := (stacked_upTo (Nat.le_of_succ_le hn)).lt_and_pairwise.2
    rw [waits_succ ht, hm, ← ih (by omega), waiting_succ ht]
    cases role tokens[n] with
    | push value => simp
    | clear => simp
    | neutral => simp
    | pop =>
      cases hw : (upTo tokens n).waiting with
      | nil => simp
      | cons top below =>
        rw [hw, List.pairwise_cons] at hs
        obtain ⟨k, v⟩ := top
        simp only [List.tail_cons, List.map_cons, List.mem_cons, List.head?_cons]
        constructor
        · intro h
          obtain ⟨p, hp, rfl⟩ := List.mem_map.mp h
          have hlt := hs.1 p hp
          exact .inr ⟨.inr h, by simp, by simp; omega⟩
        · rintro (⟨-, _, h⟩ | ⟨rfl | h, -, hne⟩)
          · simp at h
          · simp at hne
          · exact h

theorem length_waiting (hn : n ≤ tokens.length) : (upTo tokens n).waiting.length =
    (List.range n).countP fun i ↦ Waits tokens n i := by
  have hs := (stacked_upTo hn).lt_and_pairwise
  have hnodup : ((upTo tokens n).waiting.map Prod.fst).Nodup :=
    List.pairwise_map.mpr (hs.2.imp fun h ↦ h.ne')
  have hperm : ((upTo tokens n).waiting.map Prod.fst).Perm
      ((List.range n).filter fun i ↦ Waits tokens n i) := by
    rw [List.perm_ext_iff_of_nodup hnodup (List.nodup_range.filter _)]
    intro i
    rw [mem_waiting_iff hn, List.mem_filter, List.mem_range, decide_eq_true_eq]
    exact ⟨fun h ↦ ⟨h.lt, h⟩, And.right⟩
  rw [List.countP_eq_length_filter, ← hperm.length_eq, List.length_map]

theorem shown_upTo (hn : n ≤ tokens.length) : (upTo tokens n).shown =
    (List.range n).filterMap fun j ↦
      if IsPop tokens j then (upTo tokens j).waiting.head?.map (·, j) else none := by
  induction n with
  | zero => rfl
  | succ n ih =>
    have ht : tokens[n]? = some tokens[n] := List.getElem?_eq_getElem hn
    have hpop : IsPop tokens n ↔ role tokens[n] = .pop := by simp [IsPop, ht]
    rw [shown_succ ht, ih (by omega), List.range_succ, List.filterMap_append]
    congr 1
    by_cases h : role tokens[n] = .pop
    · cases hw : (upTo tokens n).waiting with
      | nil => simp [hw]
      | cons top below => simp [hpop, h, hw]
    · simp [hpop, h]

/-- In the run, the operator at `j` takes the string at `i` off the stack and shows it. -/
def Shows (tokens : List Token) (i j : ℕ) : Prop :=
  ∃ value, ((i, value), j) ∈ (upTo tokens tokens.length).shown

theorem shows_iff : Shows tokens i j ↔ Matches tokens i j := by
  simp only [Shows, shown_upTo le_rfl, List.mem_filterMap, List.mem_range]
  constructor
  · rintro ⟨v, k, -, h⟩
    split at h
    · next hp =>
      simp only [Option.map_eq_some_iff, Prod.mk.injEq] at h
      obtain ⟨top, htop, rfl, rfl⟩ := h
      exact matches_iff.mpr ⟨hp, v, htop⟩
    · cases h
  · intro h
    obtain ⟨hp, v, hv⟩ := matches_iff.mp h
    exact ⟨v, j, h.lt_length, by simp [hp, hv]⟩

theorem matchedString?_eq (hj : j ≤ tokens.length) : matchedString? tokens j =
    if IsPop tokens j then (upTo tokens j).waiting.head?.map Prod.snd else none := by
  cases hf : (List.range j).find? fun i ↦ Matches tokens i j with
  | none =>
    have hnone : ∀ i, ¬Matches tokens i j := fun i h ↦ by
      simpa [h] using List.find?_eq_none.mp hf i (List.mem_range.mpr h.encloses.lt)
    rw [matchedString?, hf]
    split
    · next hp =>
      cases hw : (upTo tokens j).waiting.head? with
      | none => rfl
      | some top => exact absurd (matches_iff.mpr ⟨hp, top.2, hw⟩) (hnone top.1)
    · rfl
  | some i =>
    have hm : Matches tokens i j := by simpa using List.find?_some hf
    obtain ⟨v, hv⟩ := hm.encloses.stringAt?
    rw [matchedString?, hf, if_pos hm.isPop,
      (head?_waiting_eq_some_iff hj).mpr ⟨hm.encloses, hv⟩]
    exact hv

theorem Matches.unique_right {k : ℕ} (hj : Matches tokens i j) (hk : Matches tokens i k) :
    j = k := by
  suffices hlt : ∀ {j k}, Matches tokens i j → Matches tokens i k → ¬j < k by
    have h₁ := hlt hj hk
    have h₂ := hlt hk hj
    omega
  intro j k hj hk hjk
  have hw := (mem_waiting_iff hk.lt_length.le (i := i)).mp (by
    obtain ⟨v, hv⟩ := (matches_iff.mp hk).2
    exact List.mem_map.mpr ⟨_, List.mem_of_head? hv, rfl⟩)
  exact hw.unmatched j hjk hj

theorem shown_eq (tokens : List Token) : (Showing.start.acceptAll tokens).shown.toList =
    (List.range tokens.length).filterMap (matchedString? tokens) := by
  have he := erase_upTo tokens tokens.length
  rw [List.take_length] at he
  rw [← he, erase, shown_upTo le_rfl, List.map_filterMap]
  refine List.filterMap_congr fun j hj ↦ ?_
  rw [matchedString?_eq (List.mem_range.mp hj).le]
  split <;> simp [Function.comp_def]

theorem pending_eq (tokens : List Token) : (Showing.start.acceptAll tokens).waiting.length =
    (List.range tokens.length).countP fun i ↦ Waits tokens tokens.length i := by
  have he := erase_upTo tokens tokens.length
  rw [List.take_length] at he
  rw [← he, erase, List.length_map, length_waiting le_rfl]

/-- Operators and strings are brackets. The run with places is the run without them; in it an
operator shows the string that it matches, which is at most one, and no string is shown twice. The
shown strings are the matched ones in the order of their operators, and those neither matched nor
cleared are still waiting. -/
theorem shown_by_bracket_matching (tokens : List Token) :
    (upTo tokens tokens.length).erase = Showing.start.acceptAll tokens ∧
    (∀ i j, Shows tokens i j ↔ Matches tokens i j) ∧
    (∀ i k j, Matches tokens i j → Matches tokens k j → i = k) ∧
    (∀ i j k, Matches tokens i j → Matches tokens i k → j = k) ∧
    (Showing.start.acceptAll tokens).shown.toList =
      (List.range tokens.length).filterMap (matchedString? tokens) ∧
    (Showing.start.acceptAll tokens).waiting.length =
      (List.range tokens.length).countP fun i ↦ Waits tokens tokens.length i := by
  refine ⟨?_, fun _ _ ↦ shows_iff, ?_, fun _ _ _ hj hk ↦ hj.unique_right hk, shown_eq tokens,
    pending_eq tokens⟩
  · rw [erase_upTo, List.take_length]
  · intro i k j hi hk
    exact hi.encloses.unique hi.lt_length.le hk.encloses

end ShownText.PostScript.Matching
