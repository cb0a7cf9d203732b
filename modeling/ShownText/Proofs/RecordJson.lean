import ShownText.Proofs.JsonText

namespace ShownText

namespace OrderedMap

variable {α β : Type} [DecidableEq α]

theorem upsertEntries_of_not_mem {key : α} {entries : List (α × β)}
    (h : key ∉ entries.map Prod.fst) (f : Option β → β) :
    upsertEntries key f entries = entries ++ [(key, f none)] := by
  induction entries with
  | nil => rfl
  | cons e entries ih =>
    rw [List.map_cons, List.mem_cons, not_or] at h
    rw [upsertEntries, if_neg (Ne.symm h.1), ih h.2, List.cons_append]

theorem entries_foldl_insert (entries : List (α × β)) (m : OrderedMap α β)
    (h : ((m.entries ++ entries).map Prod.fst).Nodup) :
    (entries.foldl (fun m e ↦ m.insert e.1 e.2) m).entries = m.entries ++ entries := by
  induction entries generalizing m with
  | nil => exact (List.append_nil _).symm
  | cons e entries ih =>
    have hkey : e.1 ∉ m.entries.map Prod.fst := by
      rw [List.map_append, List.map_cons] at h
      intro hmem
      exact (List.nodup_append.mp h).2.2 _ hmem _ List.mem_cons_self rfl
    have hinsert : (m.insert e.1 e.2).entries = m.entries ++ [e] :=
      upsertEntries_of_not_mem hkey fun _ ↦ e.2
    rw [List.foldl_cons, ih (m.insert e.1 e.2) (by rwa [hinsert, ← List.append_cons]), hinsert,
      ← List.append_cons]

theorem ofList_entries (m : OrderedMap α β) : ofList m.entries = m :=
  ext_entries (entries_foldl_insert m.entries ∅ m.nodup)

end OrderedMap

namespace Record

theorem contentOfJson?_contentToJson (content : Option String) :
    contentOfJson? (contentToJson content) = some content := by
  cases content <;> rfl

theorem mapM_map_eq_some {α β : Type} {write : α → β} {read : β → Option α}
    (h : ∀ a, read (write a) = some a) (as : List α) : (as.map write).mapM read = some as := by
  induction as with
  | nil => rfl
  | cons a as ih =>
    rw [List.map_cons, List.mapM_cons, h, ih]
    rfl

theorem valuesOfJson?_ofStrings (values : List String) :
    valuesOfJson? (.ofStrings values) = some values := by
  rw [Json.ofStrings, valuesOfJson?]
  apply mapM_map_eq_some
  intro value
  rfl

theorem metadataOfJson?_metadataToJson (metadata : OrderedMap String (List String)) :
    metadataOfJson? (metadataToJson metadata) = some metadata := by
  rw [metadataToJson, Json.ofMembers, List.map_map, metadataOfJson?, mapM_map_eq_some]
  · exact congrArg some metadata.ofList_entries
  · intro e
    simp only [Function.comp_apply, valuesOfJson?_ofStrings]
    rfl

theorem ofJson?_toJson (r : Record) : ofJson? r.toJson = some r := by
  have hmembers : ofJson? r.toJson = (do
      return ⟨← contentOfJson? (contentToJson r.content),
        ← metadataOfJson? (metadataToJson r.metadata)⟩) := rfl
  rw [hmembers, contentOfJson?_contentToJson, metadataOfJson?_metadataToJson]
  rfl

/-- A record is read from its JSON text as it was: its content, also if it is absent or empty, and
its metadata with all keys in their order and each key with all of its values. -/
theorem json_round_trip (r : Record) : ofJsonText? r.toJsonText = some r := by
  rw [ofJsonText?, toJsonText, Json.parse?_render r.textual_toJson, Option.bind_some,
    ofJson?_toJson]

example : (Record.mk (some "") (.ofList [("b\"", []), ("", ["", "\\\x01😀"])])).toJsonText =
    "\x7b\"content\":\"\",\"metadata\":\x7b\"b\\\"\":[],\"\":[\"\",\"\\\\\\u0001😀\"]\x7d\x7d" := by
  decide +kernel

end Record

end ShownText
