import Mathlib.Data.List.Induction
import ShownText.OrderedMap

namespace ShownText.OrderedMap

variable {α β : Type}

/-- A key, and its new value for the one that it had, if any. -/
abbrev Put (α β : Type) := α × (Option β → β)

variable [DecidableEq α]

def putAll (m : OrderedMap α β) (puts : List (Put α β)) : OrderedMap α β :=
  puts.foldl (fun m put ↦ m.upsert put.1 put.2) m

theorem putAll_concat (m : OrderedMap α β) (puts : List (Put α β)) (put : Put α β) :
    m.putAll (puts ++ [put]) = (m.putAll puts).upsert put.1 put.2 := by
  rw [putAll, List.foldl_append]
  rfl

theorem eraseDups_concat (keys : List α) (key : α) : (keys ++ [key]).eraseDups =
    if key ∈ keys then keys.eraseDups else keys.eraseDups ++ [key] := by
  rw [List.eraseDups_append]
  by_cases h : key ∈ keys
  · simp [List.removeAll, h]
  · simp [List.removeAll, h, List.eraseDups_cons]

theorem keys_putAll (puts : List (Put α β)) :
    ((∅ : OrderedMap α β).putAll puts).keys = (puts.map Prod.fst).eraseDups := by
  induction puts using List.reverseRecOn with
  | nil => rfl
  | append_singleton puts put ih =>
    rw [putAll_concat, keys_upsert, ih, List.map_append, List.map_cons, List.map_nil,
      eraseDups_concat]
    simp only [List.mem_eraseDups]

theorem get?_putAll_of_not_mem {puts : List (Put α β)} {key : α} (h : key ∉ puts.map Prod.fst)
    (m : OrderedMap α β) : (m.putAll puts).get? key = m.get? key := by
  induction puts using List.reverseRecOn with
  | nil => rfl
  | append_singleton puts put ih =>
    rw [List.map_append, List.mem_append, not_or, List.map_singleton, List.mem_singleton] at h
    rw [putAll_concat, get?_upsert, if_neg h.2, ih h.1]

theorem get?_eq_some_iff (m : OrderedMap α β) {key : α} {value : β} :
    m.get? key = some value ↔ (key, value) ∈ m.entries := by
  rw [get?, List.lookup_eq_some_iff]
  constructor
  · rintro ⟨before, after, hm, -⟩
    rw [hm]
    exact List.mem_append_right before List.mem_cons_self
  · intro h
    obtain ⟨before, after, hm⟩ := List.append_of_mem h
    refine ⟨before, after, hm, fun entry hentry ↦ bne_iff_ne.mpr fun hkey ↦ ?_⟩
    have hnodup := m.nodup
    rw [hm, List.map_append, List.map_cons, List.nodup_append] at hnodup
    exact hnodup.2.2 entry.1 (List.mem_map_of_mem hentry) key List.mem_cons_self hkey.symm

theorem get?_eq_none_iff (m : OrderedMap α β) (key : α) : m.get? key = none ↔ key ∉ m.keys := by
  rw [get?, List.lookup_eq_none_iff, keys, List.mem_map]
  constructor
  · rintro h ⟨entry, hentry, rfl⟩
    exact absurd (h entry hentry) (by simp)
  · intro h entry hentry
    rw [bne_iff_ne]
    rintro rfl
    exact h ⟨entry, hentry, rfl⟩

end ShownText.OrderedMap
