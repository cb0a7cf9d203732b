import ShownText.Document
import ShownText.Proofs.StandardRegistry

namespace ShownText

variable {α β : Type}

namespace Event

/-- The event with another resource. The one of malformed bytes has none. -/
def withResource (resource : String) : Event → Event
  | .malformed charset => .malformed charset
  | .scanned _ bytes strings => .scanned resource bytes strings
  | .decoded _ bytes => .decoded resource bytes
  | .fallback fault extractor _ => .fallback fault extractor resource

def resource? : Event → Option String
  | .malformed _ => none
  | .scanned resource _ _ | .decoded resource _ | .fallback _ _ resource => some resource

theorem resource?_withResource (resource : String) (event : Event) :
    (event.withResource resource).resource? = event.resource?.map fun _ ↦ resource := by
  cases event <;> rfl

end Event

/-- Under any params the outcome is the same, and the events differ in their resource at most. It is
the one that the params name, or a dash. -/
structure Immaterial (f : Option Params → Traced α) : Prop where
  outcome (p q : Option Params) : (f p).outcome = (f q).outcome
  log (p q : Option Params) : (f q).log = (f p).log.map (.withResource (resourceLabel q))
  resource (p : Option Params) : ∀ event ∈ (f p).log, ∀ resource, event.resource? = some resource →
    resource = (p.bind fun params ↦ params.get? "resourceName").getD "-"

namespace Traced

def withResource (resource : String) (x : Traced α) : Traced α :=
  ⟨x.outcome, x.log.map (.withResource resource)⟩

theorem withResource_bind (resource : String) (x : Traced α) (f : α → Traced β) :
    (x >>= f).withResource resource =
      x.withResource resource >>= fun a ↦ (f a).withResource resource := by
  obtain ⟨outcome, log⟩ := x
  cases outcome with
  | error fault => rfl
  | ok a => exact congrArg (Traced.mk _) List.map_append

theorem withResource_mapFault (resource : String) (g : Fault → Fault) (x : Traced α) :
    (x.mapFault g).withResource resource = (x.withResource resource).mapFault g := rfl

theorem immaterial {f : Option Params → Traced α}
    (h : ∀ p q, f q = (f p).withResource (resourceLabel q)) : Immaterial f where
  outcome p q := by rw [h p q, withResource]
  log p q := by rw [h p q, withResource]
  resource p event hevent resource hresource := by
    rw [h p p, withResource, List.mem_map] at hevent
    obtain ⟨event, -, rfl⟩ := hevent
    rw [Event.resource?_withResource, Option.map_eq_some_iff] at hresource
    obtain ⟨-, -, rfl⟩ := hresource
    rfl

end Traced

section

variable [Charset.LegacyDecoders]

theorem decodeText_withResource (resource label : String) (bytes : List UInt8) :
    (decodeText label bytes).withResource resource = decodeText label bytes := by
  cases h : charsetOf label with
  | error fault =>
    rw [decodeText, h]
    rfl
  | ok charset =>
    rw [decodeText_eq h, malformedEvents]
    split <;> rfl

section

variable (bytes : List UInt8) (source : Source) (p q : Option Params)

namespace PostScriptExtractor

variable (e : PostScriptExtractor)

theorem extract_eq_withResource :
    e.extract bytes q = (e.extract bytes p).withResource (resourceLabel q) := by
  rw [extract, extract, Traced.withResource_bind, Traced.withResource_mapFault,
    decodeText_withResource]
  congr 1
  funext text
  rw [Traced.withResource_bind]
  apply congrArg (Traced.report _ >>= ·)
  funext _
  dsimp only
  split <;> rfl

theorem extractFrom_eq_withResource :
    e.extractFrom source q = (e.extractFrom source p).withResource (resourceLabel q) := by
  rw [extractFrom, extractFrom]
  split
  · exact e.extract_eq_withResource _ p q
  · rfl

end PostScriptExtractor

namespace PlainTextExtractor

variable (e : PlainTextExtractor)

theorem extract_eq_withResource :
    e.extract bytes q = (e.extract bytes p).withResource (resourceLabel q) := by
  rw [extract, extract, Traced.withResource_bind, Traced.withResource_mapFault,
    decodeText_withResource]
  rfl

theorem extractFrom_eq_withResource :
    e.extractFrom source q = (e.extractFrom source p).withResource (resourceLabel q) := by
  rw [extractFrom, extractFrom]
  split
  · exact e.extract_eq_withResource _ p q
  · rfl

end PlainTextExtractor

end

inductive Extractor.BuiltIn : Extractor → Prop
  | postScript (e : PostScriptExtractor) : BuiltIn e.toExtractor
  | plainText (e : PlainTextExtractor) : BuiltIn e.toExtractor

theorem Extractor.BuiltIn.extract_eq_withResource {e : Extractor} (h : e.BuiltIn) (source : Source)
    (p q : Option Params) :
    e.extract source q = (e.extract source p).withResource (resourceLabel q) := by
  cases h with
  | postScript e => exact e.extractFrom_eq_withResource source p q
  | plainText e => exact e.extractFrom_eq_withResource source p q

namespace Registry

def BuiltIn (r : Registry) : Prop :=
  ∀ mime added, r.table.get? mime = some added → ∀ e ∈ added, e.BuiltIn

theorem builtIn_of_mem {r : Registry} (hr : r.BuiltIn) {mime : String} {e : Extractor}
    (he : e ∈ (r.table.get? mime).getD []) : e.BuiltIn := by
  cases h : r.table.get? mime with
  | none => simp [h] at he
  | some added => exact hr mime added h e (by simpa [h] using he)

theorem builtIn_add {r : Registry} {e : Extractor} (hr : r.BuiltIn) (he : e.BuiltIn)
    (mime : String) : (r.add mime e).BuiltIn := by
  intro m added hadded
  rw [add, OrderedMap.get?_upsert] at hadded
  split at hadded
  · cases hadded
    simp only [List.mem_append, List.mem_singleton]
    rintro a (ha | rfl)
    · exact builtIn_of_mem hr ha
    · exact he
  · exact hr m added hadded

theorem builtIn_addAll {entries : List (String × Extractor)}
    (h : ∀ entry ∈ entries, entry.2.BuiltIn) : (empty.addAll entries).BuiltIn := by
  induction entries using List.reverseRecOn with
  | nil =>
    intro mime added hadded
    cases hadded
  | append_singleton entries entry ih =>
    rw [addAll_concat]
    apply builtIn_add
    · exact ih fun entry hentry ↦ h entry (List.mem_append_left _ hentry)
    · exact h entry (List.mem_append_right _ (List.mem_singleton_self _))

theorem builtIn_of_mem_extractorsFor {r : Registry} (hr : r.BuiltIn) {mime : String} {e : Extractor}
    (he : e ∈ r.extractorsFor mime) : e.BuiltIn := by
  rw [extractorsFor, List.mem_mergeSort] at he
  exact builtIn_of_mem hr he

variable (bytes : List UInt8) (p q : Option Params)

theorem tryInTurn_eq_withResource {es : List Extractor} (hes : ∀ e ∈ es, e.BuiltIn)
    (last : Fault) : tryInTurn bytes q last es =
      (tryInTurn bytes p last es).withResource (resourceLabel q) := by
  induction es generalizing last with
  | nil => rfl
  | cons e others ih =>
    obtain ⟨he, hothers⟩ := List.forall_mem_cons.mp hes
    have hanswer : answer bytes q e = (answer bytes p e).withResource (resourceLabel q) :=
      he.extract_eq_withResource _ p q
    have hlacks : lacksText (answer bytes q e) = lacksText (answer bytes p e) := by
      rw [hanswer]
      rfl
    cases h : lacksText (answer bytes p e) with
    | false =>
      rw [tryInTurn_of_not_lacksText last others h,
        tryInTurn_of_not_lacksText last others (hlacks.trans h), hanswer]
    | true =>
      obtain ⟨message, hp⟩ := (lacksText_iff _).mp h
      have hq : (answer bytes q e).outcome = .error (.noText message) := by
        rw [hanswer]
        exact hp
      rw [tryInTurn_of_lacksText last others hp, tryInTurn_of_lacksText last others hq, ih hothers,
        hanswer, warnings_of_lacksText hp, warnings_of_lacksText hq]
      simp only [Traced.withResource, List.map_append]
      rfl

end Registry

/-- Params are immaterial to every registry of built-in extractors, to each of these extractors,
however its input is delivered, and to the record of a document. -/
theorem params_immaterial :
    (∀ r : Registry, r.BuiltIn → ∀ mime bytes, Immaterial (r.extract mime bytes)) ∧
    (∀ (e : PostScriptExtractor) bytes, Immaterial (e.extract bytes)) ∧
    (∀ (e : PostScriptExtractor) source, Immaterial (e.extractFrom source)) ∧
    (∀ (e : PlainTextExtractor) source, Immaterial (e.extractFrom source)) ∧
    ∀ (e : PostScriptExtractor) bytes, Immaterial (Document.record e bytes) := by
  refine ⟨fun r hr mime bytes ↦ ?_, fun e bytes ↦ ?_, fun e source ↦ ?_, fun e source ↦ ?_,
    fun e bytes ↦ ?_⟩
  · have hbuiltIn : ∀ e ∈ r.extractorsFor mime, e.BuiltIn :=
      fun e he ↦ Registry.builtIn_of_mem_extractorsFor hr he
    exact Traced.immaterial fun p q ↦ Registry.tryInTurn_eq_withResource bytes p q hbuiltIn _
  · exact Traced.immaterial (e.extract_eq_withResource bytes)
  · exact Traced.immaterial (e.extractFrom_eq_withResource source)
  · exact Traced.immaterial (e.extractFrom_eq_withResource source)
  · exact Traced.immaterial (e.extract_eq_withResource bytes)

end

open scoped Charset.LegacyDecoders.AsciiOnly

theorem params_immaterial_of_fallback :
    Registry.standard.BuiltIn ∧
    (Registry.standard.extract MediaType.postScript "(a)".toUTF8.toList
      (some (.ofList [("resourceName", "a.ps"), ("b", "c")]))).outcome =
        (Registry.standard.extract MediaType.postScript "(a)".toUTF8.toList none).outcome ∧
    (Registry.standard.extract MediaType.postScript "(a)".toUTF8.toList
      (some (.ofList [("resourceName", "a.ps"), ("b", "c")]))).log =
        [.scanned "a.ps" 3 0, .fallback PostScriptExtractor.nothingShown "ps" "a.ps",
          .decoded "a.ps" 3] := by
  have hbuiltIn : Registry.standard.BuiltIn := by
    apply Registry.builtIn_addAll
    simp [Extractor.BuiltIn.postScript, Extractor.BuiltIn.plainText]
  have himmaterial := params_immaterial.1 _ hbuiltIn MediaType.postScript "(a)".toUTF8.toList
  refine ⟨hbuiltIn, himmaterial.outcome _ none, (himmaterial.log none _).trans ?_⟩
  have hmime : MediaType.canonical MediaType.postScript = MediaType.postScript := by decide
  rw [Registry.extract, Registry.extractorsFor_postScript hmime]
  decide +kernel

end ShownText
