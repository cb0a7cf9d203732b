namespace ShownText

structure OrderedMap (α β : Type) where
  entries : List (α × β)
  nodup : (entries.map Prod.fst).Nodup
  deriving Repr

namespace OrderedMap

variable {α β : Type}

def empty : OrderedMap α β := ⟨[], List.nodup_nil⟩

instance : EmptyCollection (OrderedMap α β) := ⟨empty⟩

instance : Inhabited (OrderedMap α β) := ⟨empty⟩

def keys (m : OrderedMap α β) : List α := m.entries.map Prod.fst

theorem ext_entries {m n : OrderedMap α β} (h : m.entries = n.entries) : m = n := by
  cases m; cases n; simp_all

variable [DecidableEq α]

def get? (m : OrderedMap α β) (key : α) : Option β := m.entries.lookup key

def upsertEntries (key : α) (f : Option β → β) : List (α × β) → List (α × β)
  | [] => [(key, f none)]
  | (k, v) :: rest =>
    if k = key then (k, f (some v)) :: rest else (k, v) :: upsertEntries key f rest

theorem map_fst_upsertEntries (key : α) (f : Option β → β) (entries : List (α × β)) :
    (upsertEntries key f entries).map Prod.fst =
      if key ∈ entries.map Prod.fst then entries.map Prod.fst
      else entries.map Prod.fst ++ [key] := by
  induction entries with
  | nil => simp [upsertEntries]
  | cons e rest ih =>
    obtain ⟨k, v⟩ := e
    by_cases h : k = key
    · simp [upsertEntries, h]
    · simp only [upsertEntries, h, if_false, List.map_cons, ih, List.mem_cons, Ne.symm h, false_or]
      split <;> simp

def upsert (m : OrderedMap α β) (key : α) (f : Option β → β) : OrderedMap α β where
  entries := upsertEntries key f m.entries
  nodup := by
    rw [map_fst_upsertEntries]
    split
    · exact m.nodup
    · rename_i h
      rw [List.nodup_append]
      refine ⟨m.nodup, by simp, ?_⟩
      intro a ha b hb
      rw [List.mem_singleton] at hb
      rintro rfl
      exact h (hb ▸ ha)

def insert (m : OrderedMap α β) (key : α) (value : β) : OrderedMap α β := m.upsert key fun _ ↦ value

/-- Of a repeated key, the first place and the last value count. -/
def ofList (entries : List (α × β)) : OrderedMap α β :=
  entries.foldl (fun m e ↦ m.insert e.1 e.2) ∅

@[simp] theorem keys_upsert (m : OrderedMap α β) (key : α) (f : Option β → β) :
    (m.upsert key f).keys = if key ∈ m.keys then m.keys else m.keys ++ [key] :=
  map_fst_upsertEntries key f m.entries

@[simp] theorem get?_upsert (m : OrderedMap α β) (key k : α) (f : Option β → β) :
    (m.upsert key f).get? k = if k = key then some (f (m.get? key)) else m.get? k := by
  simp only [get?, upsert]
  induction m.entries with
  | nil =>
    by_cases h : k = key
    · simp [upsertEntries, h]
    · simp [upsertEntries, List.lookup_cons, h, beq_false_of_ne h]
  | cons e rest ih =>
    obtain ⟨k', v⟩ := e
    by_cases h' : k' = key
    · by_cases h : k = key
      · simp [upsertEntries, h, h']
      · simp [upsertEntries, List.lookup_cons, h, h', beq_false_of_ne h]
    · by_cases h : k = k'
      · simp [upsertEntries, h, h']
      · simp [upsertEntries, List.lookup_cons, h', beq_false_of_ne h, beq_false_of_ne (Ne.symm h'),
          ih]

/-- Equality without regard to the order of the keys. -/
instance [BEq β] : BEq (OrderedMap α β) where
  beq m n := m.entries.length == n.entries.length && m.entries.all fun e ↦ n.get? e.1 == some e.2

end OrderedMap

end ShownText
