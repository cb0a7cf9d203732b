import ShownText.Proofs.Puts
import ShownText.Record

namespace ShownText.Record

inductive Change
  | addValue (key value : String)
  | setValues (key : String) (values : List String)
  | setContent (content : Option String)
  | takeContent
  deriving DecidableEq, Repr

namespace Change

def apply (r : Record) : Change → Record
  | .addValue key value => r.addValue key value
  | .setValues key values => r.setValues key values
  | .setContent content => r.withContent content
  | .takeContent => r.takeContent.2

def key? : Change → Option String
  | .addValue key _ | .setValues key _ => some key
  | .setContent _ | .takeContent => none

def content? : Change → Option (Option String)
  | .setContent content => some content
  | .takeContent => some none
  | .addValue _ _ | .setValues _ _ => none

def added? (key : String) : Change → Option String
  | .addValue k value => if k = key then some value else none
  | .setValues _ _ | .setContent _ | .takeContent => none

def put? : Change → Option (OrderedMap.Put String (List String))
  | .addValue key value => some (key, fun values ↦ values.getD [] ++ [value])
  | .setValues key values => some (key, fun _ ↦ values)
  | .setContent _ | .takeContent => none

end Change

def applyAll (r : Record) (changes : List Change) : Record := changes.foldl Change.apply r

def fresh : Option String → Record
  | some content => ofContent content
  | none => empty

def keysPut (changes : List Change) : List String := changes.filterMap Change.key?

/-- What a new record holds after the changes. -/
structure Follows (start : Option String) (changes : List Change) (r : Record) : Prop where
  keys : r.keys = (keysPut changes).eraseDups
  nodup : r.keys.Nodup
  absent : ∀ key, r.values? key = none ↔ key ∉ keysPut changes
  added : ∀ key, key ∈ keysPut changes → (∀ values, .setValues key values ∉ changes) →
    r.values? key = some (changes.filterMap (Change.added? key))
  replaced : ∀ key values before after, changes = before ++ .setValues key values :: after →
    (∀ others, .setValues key others ∉ after) →
    r.values? key = some (values ++ after.filterMap (Change.added? key))
  content : r.content = (changes.filterMap Change.content?).getLast?.getD start
  metadata : r.metadata =
    ((fresh start).applyAll (changes.filter (·.key?.isSome))).metadata

variable {key : String} {changes : List Change} (r : Record)

theorem applyAll_append (before after : List Change) :
    r.applyAll (before ++ after) = (r.applyAll before).applyAll after :=
  List.foldl_append

theorem applyAll_cons (change : Change) (changes : List Change) :
    r.applyAll (change :: changes) = (change.apply r).applyAll changes := rfl

theorem metadata_fresh (start : Option String) : (fresh start).metadata = ∅ := by
  cases start <;> rfl

theorem content_fresh (start : Option String) : (fresh start).content = start := by
  cases start <;> rfl

theorem content_applyAll (changes : List Change) : (r.applyAll changes).content =
    (changes.filterMap Change.content?).getLast?.getD r.content := by
  induction changes generalizing r with
  | nil => rfl
  | cons change changes ih =>
    rw [applyAll_cons, ih]
    cases change with
    | addValue key value => rfl
    | setValues key values => rfl
    | setContent content => simp [Change.apply, Change.content?, withContent, List.getLast?_cons]
    | takeContent =>
      simp [Change.apply, Change.content?, takeContent, withContent, List.getLast?_cons]

theorem metadata_applyAll (changes : List Change) :
    (r.applyAll changes).metadata = r.metadata.putAll (changes.filterMap Change.put?) := by
  induction changes generalizing r with
  | nil => rfl
  | cons change changes ih =>
    rw [applyAll_cons, ih]
    cases change <;> rfl

theorem map_fst_put? (changes : List Change) :
    (changes.filterMap Change.put?).map Prod.fst = keysPut changes := by
  rw [List.map_filterMap, keysPut]
  congr 1
  funext change
  cases change <;> rfl

theorem filterMap_put?_filter (changes : List Change) :
    (changes.filter (·.key?.isSome)).filterMap Change.put? = changes.filterMap Change.put? := by
  rw [List.filterMap_filter]
  congr 1
  funext change
  cases change <;> rfl

theorem keys_applyAll (start : Option String) (changes : List Change) :
    ((fresh start).applyAll changes).keys = (keysPut changes).eraseDups := by
  rw [keys, metadata_applyAll, metadata_fresh, OrderedMap.keys_putAll, map_fst_put?]

theorem values?_eq_none_iff (start : Option String) (changes : List Change) (key : String) :
    ((fresh start).applyAll changes).values? key = none ↔ key ∉ keysPut changes := by
  rw [values?, OrderedMap.get?_eq_none_iff, ← keys, keys_applyAll, List.mem_eraseDups]

def valuesOf (key : String) : List String := (r.values? key).getD []

theorem valuesOf_apply {change : Change} (h : ∀ values, change ≠ .setValues key values) :
    (change.apply r).valuesOf key = r.valuesOf key ++ (change.added? key).toList := by
  cases change with
  | addValue k value =>
    by_cases hk : k = key
    · simp [valuesOf, values?, Change.apply, Change.added?, addValue, hk]
    · simp [valuesOf, values?, Change.apply, Change.added?, addValue, hk, Ne.symm hk]
  | setValues k values =>
    have hk : k ≠ key := fun hk ↦ h values (by rw [hk])
    simp [valuesOf, values?, Change.apply, Change.added?, setValues, OrderedMap.insert, Ne.symm hk]
  | setContent content => exact (List.append_nil _).symm
  | takeContent => exact (List.append_nil _).symm

/-- Values that are not replaced are added to. -/
theorem valuesOf_applyAll (h : ∀ values, .setValues key values ∉ changes) :
    (r.applyAll changes).valuesOf key =
      r.valuesOf key ++ changes.filterMap (Change.added? key) := by
  induction changes generalizing r with
  | nil => exact (List.append_nil _).symm
  | cons change changes ih =>
    have hchange : ∀ values, change ≠ .setValues key values := by
      rintro values rfl
      exact h values List.mem_cons_self
    have hchanges : ∀ values, .setValues key values ∉ changes := fun values hmem ↦
      h values (List.mem_cons_of_mem _ hmem)
    rw [applyAll_cons, ih _ hchanges, valuesOf_apply r hchange, List.append_assoc]
    cases hadded : change.added? key with
    | none => rw [List.filterMap_cons_none hadded]; rfl
    | some value => rw [List.filterMap_cons_some hadded]; rfl

theorem values?_setValues (values : List String) :
    (Change.apply r (.setValues key values)).values? key = some values := by
  simp [values?, Change.apply, setValues, OrderedMap.insert]

theorem values?_of_put (start : Option String) (h : key ∈ keysPut changes) :
    ((fresh start).applyAll changes).values? key =
      some (((fresh start).applyAll changes).valuesOf key) := by
  rw [valuesOf]
  cases hvalues : ((fresh start).applyAll changes).values? key with
  | none => exact absurd h ((values?_eq_none_iff start changes key).mp hvalues)
  | some values => rfl

/-- A new record follows the history of its changes. Its keys stand in the order of their first
puts. A key that was put has the values that last replaced others, if any, and those added since.
The content is the last one put, and it does not touch the metadata nor they it. -/
theorem follows_changes (start : Option String) (changes : List Change) :
    Follows start changes ((fresh start).applyAll changes) where
  keys := keys_applyAll start changes
  nodup := OrderedMap.nodup _
  absent := values?_eq_none_iff start changes
  added := by
    intro key hput hadded
    rw [values?_of_put start hput, valuesOf_applyAll _ hadded, valuesOf, values?, metadata_fresh]
    rfl
  replaced := by
    rintro key values before after rfl hadded
    have hput : key ∈ keysPut (before ++ .setValues key values :: after) :=
      List.mem_filterMap.mpr ⟨.setValues key values, by simp, rfl⟩
    rw [values?_of_put start hput, applyAll_append, applyAll_cons, valuesOf_applyAll _ hadded,
      valuesOf, values?_setValues, Option.getD_some]
  content := by rw [content_applyAll, content_fresh]
  metadata := by rw [metadata_applyAll, metadata_applyAll, filterMap_put?_filter]

example : ((fresh none).applyAll [.addValue "b" "1", .addValue "a" "2", .setValues "b" ["3"],
    .takeContent, .addValue "b" "4"]).metadata.entries = [("b", ["3", "4"]), ("a", ["2"])] := rfl

def Filled (r : Record) : Prop :=
  ∀ key ∈ r.keys, ∃ value values, r.values? key = some (value :: values)

/-- The last change to the values of the key left none. -/
def Emptied (key : String) (changes : List Change) : Prop :=
  ∃ before after, changes = before ++ .setValues key [] :: after ∧ key ∉ keysPut after

theorem exists_last_put (h : key ∈ keysPut changes) : ∃ before change after,
    changes = before ++ change :: after ∧ change.key? = some key ∧ key ∉ keysPut after := by
  induction changes with
  | nil => cases h
  | cons change changes ih =>
    by_cases hlater : key ∈ keysPut changes
    · obtain ⟨before, last, after, rfl, hlast⟩ := ih hlater
      exact ⟨change :: before, last, after, rfl, hlast⟩
    · obtain ⟨first, hfirst, hkey⟩ := List.mem_filterMap.mp h
      rcases List.mem_cons.mp hfirst with rfl | hmem
      · exact ⟨[], first, changes, rfl, hkey, hlater⟩
      · exact absurd (List.mem_filterMap.mpr ⟨first, hmem, hkey⟩) hlater

theorem values?_applyAll_of_not_put (h : key ∉ keysPut changes) :
    (r.applyAll changes).values? key = r.values? key := by
  rw [← map_fst_put?] at h
  rw [values?, metadata_applyAll, OrderedMap.get?_putAll_of_not_mem h]
  rfl

theorem values?_of_last {before after : List Change} {change : Change}
    (h : key ∉ keysPut after) : (r.applyAll (before ++ change :: after)).values? key =
      (change.apply (r.applyAll before)).values? key := by
  rw [applyAll_append, applyAll_cons, values?_applyAll_of_not_put _ h]

theorem values?_apply_eq_cons {change : Change} (h : change.key? = some key)
    (hsome : change ≠ .setValues key []) :
    ∃ value values, (change.apply r).values? key = some (value :: values) := by
  cases change with
  | addValue k value =>
    obtain rfl : k = key := Option.some.inj h
    have hvalues : (Change.apply r (.addValue k value)).values? k =
        some (r.valuesOf k ++ [value]) := by
      simp [values?, valuesOf, Change.apply, addValue]
    rw [hvalues]
    cases r.valuesOf k with
    | nil => exact ⟨value, [], rfl⟩
    | cons first others => exact ⟨first, others ++ [value], rfl⟩
  | setValues k values =>
    obtain rfl : k = key := Option.some.inj h
    cases values with
    | nil => exact absurd rfl hsome
    | cons value values => exact ⟨value, values, values?_setValues r (value :: values)⟩
  | setContent content => cases h
  | takeContent => cases h

theorem mem_keys_applyAll (start : Option String) (changes : List Change) (key : String) :
    key ∈ ((fresh start).applyAll changes).keys ↔ key ∈ keysPut changes := by
  rw [keys_applyAll, List.mem_eraseDups]

/-- After any changes each key has values, unless the last put under some key was none at all. -/
theorem filled_iff (start : Option String) (changes : List Change) :
    ((fresh start).applyAll changes).Filled ↔ ∀ key, ¬Emptied key changes := by
  constructor
  · rintro hfilled key ⟨before, after, rfl, hlast⟩
    have hkey : key ∈ keysPut (before ++ .setValues key [] :: after) :=
      List.mem_filterMap.mpr ⟨.setValues key [], by simp, rfl⟩
    obtain ⟨value, values, hvalues⟩ := hfilled key ((mem_keys_applyAll _ _ _).mpr hkey)
    rw [values?_of_last _ hlast, values?_setValues] at hvalues
    cases hvalues
  · intro hsome key hkey
    obtain ⟨before, change, after, rfl, hchange, hlast⟩ :=
      exists_last_put ((mem_keys_applyAll _ _ _).mp hkey)
    rw [values?_of_last _ hlast]
    apply values?_apply_eq_cons _ hchange
    rintro rfl
    exact hsome key ⟨before, after, rfl, hlast⟩

/-- A key may be set to no values. -/
theorem not_filled_of_no_values :
    ((fresh none).applyAll [.setValues "k" []]).keys = ["k"] ∧
    ((fresh none).applyAll [.setValues "k" []]).values? "k" = some [] ∧
    ¬((fresh none).applyAll [.setValues "k" []]).Filled := by
  refine ⟨rfl, rfl, fun hfilled ↦ ?_⟩
  obtain ⟨value, values, hvalues⟩ := hfilled "k" List.mem_cons_self
  cases hvalues

end ShownText.Record
