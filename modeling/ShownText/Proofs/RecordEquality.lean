import Mathlib.Data.List.Perm.Subperm
import ShownText.Proofs.RecordHistory

namespace ShownText.OrderedMap

variable {α β : Type} [DecidableEq α]

theorem keys_perm {m n : OrderedMap α β} (h : ∀ key, m.get? key = n.get? key) :
    m.keys.Perm n.keys := by
  refine (List.perm_ext_iff_of_nodup m.nodup n.nodup).mpr fun key ↦ not_iff_not.mp ?_
  rw [← keys, ← keys, ← get?_eq_none_iff, ← get?_eq_none_iff, h]

variable [BEq β] [LawfulBEq β]

theorem beq_iff_entries (m n : OrderedMap α β) : (m == n) = true ↔
    m.keys.length = n.keys.length ∧ ∀ entry ∈ m.entries, n.get? entry.1 = some entry.2 := by
  have hbeq : (m == n) = (m.entries.length == n.entries.length &&
      m.entries.all fun entry ↦ n.get? entry.1 == some entry.2) := rfl
  rw [hbeq, Bool.and_eq_true, beq_iff_eq, List.all_eq_true, keys, keys, List.length_map,
    List.length_map]
  simp only [beq_iff_eq]

/-- Maps are equal if they look up alike. As many entries as another map has, all of them entries of
that map too, are all that it has. -/
theorem beq_iff (m n : OrderedMap α β) : (m == n) = true ↔ ∀ key, m.get? key = n.get? key := by
  rw [beq_iff_entries]
  constructor
  · rintro ⟨hlength, hentries⟩ key
    have hkeys : m.keys ⊆ n.keys := by
      intro key hkey
      obtain ⟨entry, hentry, rfl⟩ := List.mem_map.mp hkey
      exact List.mem_map_of_mem ((get?_eq_some_iff n).mp (hentries entry hentry))
    have hperm : m.keys.Perm n.keys :=
      (List.subperm_of_subset m.nodup hkeys).perm_of_length_le (Nat.le_of_eq hlength.symm)
    cases hm : m.get? key with
    | some value => exact (hentries (key, value) ((get?_eq_some_iff m).mp hm)).symm
    | none =>
      rw [get?_eq_none_iff, hperm.mem_iff, ← get?_eq_none_iff] at hm
      exact hm.symm
  · intro h
    refine ⟨(keys_perm h).length_eq, fun entry hentry ↦ ?_⟩
    rw [← h]
    exact (get?_eq_some_iff m).mpr hentry

end ShownText.OrderedMap

namespace ShownText.Record

variable {r s : Record} {key : String} {first second : Change}

theorem beq_iff (r s : Record) :
    (r == s) = true ↔ r.content = s.content ∧ ∀ key, r.values? key = s.values? key := by
  have hbeq : (r == s) = (r.content == s.content && r.metadata == s.metadata) := rfl
  rw [hbeq, Bool.and_eq_true, beq_iff_eq, OrderedMap.beq_iff]
  rfl

theorem content_apply_congr (h : r.content = s.content) (change : Change) :
    (change.apply r).content = (change.apply s).content := by
  cases change with
  | addValue key value => exact h
  | setValues key values => exact h
  | setContent content => rfl
  | takeContent => rfl

theorem values?_apply_congr (h : r.values? key = s.values? key) (change : Change) :
    (change.apply r).values? key = (change.apply s).values? key := by
  rw [values?, values?] at h
  cases change with
  | addValue k value =>
    by_cases hk : key = k
    · simp [values?, Change.apply, addValue, hk ▸ h, hk]
    · simp [values?, Change.apply, addValue, h, hk]
  | setValues k values => simp [values?, Change.apply, setValues, OrderedMap.insert, h]
  | setContent content => exact h
  | takeContent => exact h

theorem apply_congr (h : (r == s) = true) (change : Change) :
    (change.apply r == change.apply s) = true := by
  obtain ⟨hcontent, hvalues⟩ := (beq_iff r s).mp h
  exact (beq_iff _ _).mpr ⟨content_apply_congr hcontent change,
    fun key ↦ values?_apply_congr (hvalues key) change⟩

theorem applyAll_congr (h : (r == s) = true) (changes : List Change) :
    (r.applyAll changes == s.applyAll changes) = true := by
  induction changes generalizing r s with
  | nil => exact h
  | cons change changes ih => exact ih (apply_congr h change)

theorem content_apply_of_put {change : Change} (h : change.key? = some key) :
    (change.apply r).content = r.content := by
  cases change with
  | addValue k value => rfl
  | setValues k values => rfl
  | setContent content => cases h
  | takeContent => cases h

theorem values?_apply_of_ne {change : Change} (h : change.key? ≠ some key) :
    (change.apply r).values? key = r.values? key := by
  have hkey : key ∉ keysPut [change] := by
    intro hmem
    obtain ⟨put, hput, hkey⟩ := List.mem_filterMap.mp hmem
    rw [List.mem_singleton.mp hput] at hkey
    exact h hkey
  exact values?_applyAll_of_not_put r hkey

/-- A change that leaves the values of a key alone may come before another or after it. -/
theorem values?_apply_apply_of_ne (h : second.key? ≠ some key) :
    (second.apply (first.apply r)).values? key = (first.apply (second.apply r)).values? key := by
  rw [values?_apply_of_ne h]
  exact values?_apply_congr (values?_apply_of_ne h).symm first

theorem apply_apply_beq {j k : String} (hfirst : first.key? = some j)
    (hsecond : second.key? = some k) (hne : j ≠ k) (r : Record) :
    (second.apply (first.apply r) == first.apply (second.apply r)) = true := by
  refine (beq_iff _ _).mpr ⟨?_, fun key ↦ ?_⟩
  · rw [content_apply_of_put hsecond, content_apply_of_put hfirst, content_apply_of_put hfirst,
      content_apply_of_put hsecond]
  · -- One of the two at least leaves the values of the key alone.
    by_cases hkey : key = k
    · refine (values?_apply_apply_of_ne ?_).symm
      rw [hfirst, hkey]
      exact fun h ↦ hne (Option.some.inj h)
    · refine values?_apply_apply_of_ne ?_
      rw [hsecond]
      exact fun h ↦ hkey (Option.some.inj h).symm

theorem beq_equivalence : Equivalence fun r s : Record ↦ (r == s) = true where
  refl r := (beq_iff r r).mpr ⟨rfl, fun _ ↦ rfl⟩
  symm h := by
    obtain ⟨hcontent, hvalues⟩ := (beq_iff _ _).mp h
    exact (beq_iff _ _).mpr ⟨hcontent.symm, fun key ↦ (hvalues key).symm⟩
  trans hrs hst := by
    obtain ⟨hcontent, hvalues⟩ := (beq_iff _ _).mp hrs
    obtain ⟨hcontent', hvalues'⟩ := (beq_iff _ _).mp hst
    exact (beq_iff _ _).mpr
      ⟨hcontent.trans hcontent', fun key ↦ (hvalues key).trans (hvalues' key)⟩

/-- Records are equal exactly if they have one content and the same values under each key, whatever
the order of their keys. Equal records answer alike and stay equal under any changes. Neighbouring
puts under different keys may change places. -/
theorem equality_congruent :
    (∀ r s : Record, (r == s) = true ↔
      r.content = s.content ∧ ∀ key, r.values? key = s.values? key) ∧
    Equivalence (fun r s : Record ↦ (r == s) = true) ∧
    (∀ r s : Record, (r == s) = true →
      (∀ key, r.values? key = s.values? key) ∧ r.takeContent.1 = s.takeContent.1 ∧
      (∀ change : Change, (change.apply r == change.apply s) = true) ∧
      ∀ changes, (r.applyAll changes == s.applyAll changes) = true) ∧
    ∀ (r : Record) before first second after j k, Change.key? first = some j →
      Change.key? second = some k → j ≠ k →
      (r.applyAll (before ++ first :: second :: after) ==
        r.applyAll (before ++ second :: first :: after)) = true := by
  refine ⟨beq_iff, beq_equivalence, fun r s h ↦ ?_, ?_⟩
  · obtain ⟨hcontent, hvalues⟩ := (beq_iff r s).mp h
    exact ⟨hvalues, hcontent, apply_congr h, applyAll_congr h⟩
  · intro r before first second after j k hfirst hsecond hne
    rw [applyAll_append, applyAll_append]
    exact applyAll_congr (apply_apply_beq hfirst hsecond hne _) after

theorem equality_congruent_of_orders :
    ((fresh none).applyAll [.setValues "a" ["1", "2"], .addValue "b" "3", .takeContent]).keys =
      ["a", "b"] ∧
    ((fresh none).applyAll [.addValue "b" "3", .setValues "a" ["1", "2"], .takeContent]).keys =
      ["b", "a"] ∧
    ((fresh none).applyAll [.setValues "a" ["1", "2"], .addValue "b" "3", .takeContent] ==
      (fresh none).applyAll [.addValue "b" "3", .setValues "a" ["1", "2"], .takeContent]) = true ∧
    ((fresh none).applyAll [.setValues "a" ["1", "2"], .addValue "b" "3", .takeContent,
        .addValue "a" "4"] ==
      (fresh none).applyAll [.addValue "b" "3", .setValues "a" ["1", "2"], .takeContent,
        .addValue "a" "4"]) = true ∧
    ((fresh none).applyAll [.setValues "a" ["1", "2"]] ==
      (fresh none).applyAll [.setValues "a" ["2", "1"]]) = false := by
  have hne : "a" ≠ "b" := by decide
  have hequal := equality_congruent.2.2.2 (fresh none) [] (.setValues "a" ["1", "2"])
    (.addValue "b" "3") [.takeContent] "a" "b" rfl rfl hne
  have hstays := (equality_congruent.2.2.1 _ _ hequal).2.2.1 (.addValue "a" "4")
  exact ⟨rfl, rfl, hequal, hstays, by decide⟩

end ShownText.Record
