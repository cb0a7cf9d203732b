import ShownText.Proofs.Extraction

namespace ShownText

namespace Delivery

def bytes : Delivery → List UInt8
  | .chunk bytes => bytes
  | .interrupted | .failure _ => []

def reason? : Delivery → Option String
  | .failure reason => some reason
  | .chunk _ | .interrupted => none

end Delivery

namespace Source

/-- The deliveries before the end of the input. -/
def beforeEnd (source : Source) : List Delivery := source.takeWhile (· ≠ .chunk [])

def delivered (source : Source) : List UInt8 := source.beforeEnd.flatMap Delivery.bytes

def failure? (source : Source) : Option String := source.beforeEnd.findSome? Delivery.reason?

theorem beforeEnd_cons {d : Delivery} (h : d ≠ .chunk []) (source : Source) :
    beforeEnd (d :: source) = d :: source.beforeEnd :=
  List.takeWhile_cons_of_pos (by simpa using h)

theorem delivered_cons {d : Delivery} (h : d ≠ .chunk []) (source : Source) :
    delivered (d :: source) = d.bytes ++ source.delivered := by
  rw [delivered, beforeEnd_cons h, List.flatMap_cons, delivered]

theorem failure?_cons {d : Delivery} (h : d ≠ .chunk []) (source : Source) :
    failure? (d :: source) = d.reason?.or source.failure? := by
  rw [failure?, beforeEnd_cons h, List.findSome?_cons, failure?]
  cases d <;> rfl

theorem readToEnd_eq (source : Source) : source.readToEnd =
    match source.failure? with
    | none => .ok source.delivered
    | some reason => .error reason := by
  induction source with
  | nil => rfl
  | cons d source ih =>
    cases d with
    | chunk bytes =>
      cases bytes with
      | nil => rfl
      | cons b bytes =>
        have hd : Delivery.chunk (b :: bytes) ≠ .chunk [] := by simp
        rw [readToEnd, ih, failure?_cons hd, delivered_cons hd, Delivery.reason?, Option.none_or]
        · cases failure? source <;> rfl
        · simp
    | interrupted =>
      have hd : Delivery.interrupted ≠ .chunk [] := by simp
      rw [readToEnd, ih, failure?_cons hd, delivered_cons hd, Delivery.reason?, Option.none_or]
      rfl
    | failure reason => rfl

end Source

section

variable [Charset.LegacyDecoders]

theorem extractFrom_postScript (e : PostScriptExtractor) (source : Source)
    (params : Option Params) : e.extractFrom source params =
      match source.failure? with
      | none => e.extract source.delivered params
      | some reason => .fail (.failedOutside PostScriptExtractor.failure reason) := by
  rw [PostScriptExtractor.extractFrom, Source.readToEnd_eq]
  cases source.failure? <;> rfl

theorem extractFrom_plainText (e : PlainTextExtractor) (source : Source)
    (params : Option Params) : e.extractFrom source params =
      match source.failure? with
      | none => e.extract source.delivered params
      | some reason => .fail (.failed e.failure (.unreadable reason)) := by
  rw [PlainTextExtractor.extractFrom, Source.readToEnd_eq]
  cases source.failure? <;> rfl

/-- An extractor answers to the bytes that were delivered, however that was done. If reading fails
before the end of the input, this is all that an extractor answers, whatever its charset, and it
reports no event. -/
theorem delivery_immaterial (source : Source) (params : Option Params) :
    (source.failure? = none →
      (∀ e : PostScriptExtractor,
        e.extractFrom source params = e.extract source.delivered params) ∧
      ∀ e : PlainTextExtractor,
        e.extractFrom source params = e.extractFrom (.ofBytes source.delivered) params) ∧
    ∀ reason, source.failure? = some reason →
      (∀ e : PostScriptExtractor, e.extractFrom source params =
        ⟨.error (.failedOutside PostScriptExtractor.failure reason), []⟩) ∧
      ∀ e : PlainTextExtractor, e.extractFrom source params =
        ⟨.error (.failed e.failure (.unreadable reason)), []⟩ := by
  constructor
  · intro h
    refine ⟨fun e ↦ ?_, fun e ↦ ?_⟩
    · rw [extractFrom_postScript, h]
    · rw [extractFrom_plainText, h, PlainTextExtractor.extractFrom, Source.readToEnd_ofBytes]
  · intro reason h
    refine ⟨fun e ↦ ?_, fun e ↦ ?_⟩
    · rw [extractFrom_postScript, h]
      rfl
    · rw [extractFrom_plainText, h]
      rfl

end

open scoped Charset.LegacyDecoders.AsciiOnly

theorem delivery_immaterial_of_split :
    (PostScriptExtractor.mk "UTF-8").extractFrom
        [.chunk [0x28, 0xC3], .interrupted, .chunk [0xA9, 0x29, 0x20, 0x73], .interrupted,
          .chunk [0x68, 0x6F, 0x77], .chunk [], .failure "never read"] none =
      (PostScriptExtractor.mk "UTF-8").extract
        [0x28, 0xC3, 0xA9, 0x29, 0x20, 0x73, 0x68, 0x6F, 0x77] none ∧
    (PlainTextExtractor.mk "no-such-charset").extractFrom
        [.chunk [0x28, 0xC3], .interrupted, .failure "disk on fire", .chunk [0xA9]] none =
      ⟨.error (.failed "Failed to extract text content (encoding: no-such-charset)"
        (.unreadable "disk on fire")), []⟩ := by
  constructor
  · exact ((delivery_immaterial _ none).1 (by decide)).1 _
  · exact ((delivery_immaterial _ none).2 "disk on fire" (by decide)).2 _

end ShownText
