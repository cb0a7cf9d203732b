import ShownText.Registry

namespace ShownText.Registry

def lacksText (x : Traced Record) : Bool :=
  match x.outcome with
  | .error (.noText _) => true
  | _ => false

variable (bytes : List UInt8) (params : Option Params)

def answer (e : Extractor) : Traced Record := e.extract (.ofBytes bytes) params

def warnings (e : Extractor) : List Event :=
  match (answer bytes params e).outcome with
  | .error (.noText message) => [.fallback (.noText message) e.name (resourceLabel params)]
  | _ => []

/-- Those that find no text, up to the first that answers otherwise, and this one. -/
def asked (es : List Extractor) : List Extractor :=
  es.takeWhile (fun e ↦ lacksText (answer bytes params e)) ++
    (es.find? fun e ↦ !lacksText (answer bytes params e)).toList

/-- The first that answers otherwise than that it found no text, or else the last. -/
def decisive? (es : List Extractor) : Option Extractor :=
  (es.find? fun e ↦ !lacksText (answer bytes params e)).or es.getLast?

theorem lacksText_iff (x : Traced Record) :
    lacksText x = true ↔ ∃ message, x.outcome = .error (.noText message) := by
  unfold lacksText
  split
  · next message h => exact iff_of_true rfl ⟨message, h⟩
  · next h => exact iff_of_false Bool.false_ne_true fun ⟨message, hm⟩ ↦ h message hm

theorem allowsFallback_of_outcome {x : Traced Record} {fault : Fault}
    (h : x.outcome = .error fault) : fault.allowsFallback = lacksText x := by
  rw [lacksText, h]
  cases fault <;> rfl

theorem level_warnings (e : Extractor) : (warnings bytes params e).map Event.level =
    if lacksText (answer bytes params e) then [.warn] else [] := by
  unfold warnings lacksText
  split <;> rfl

variable {bytes params} {e : Extractor} (last : Fault) (others : List Extractor)

theorem warnings_of_lacksText {message : String}
    (h : (answer bytes params e).outcome = .error (.noText message)) :
    warnings bytes params e = [.fallback (.noText message) e.name (resourceLabel params)] := by
  rw [warnings, h]

theorem tryInTurn_of_lacksText {message : String}
    (h : (answer bytes params e).outcome = .error (.noText message)) :
    tryInTurn bytes params last (e :: others) =
      ⟨(tryInTurn bytes params (.noText message) others).outcome, (answer bytes params e).log ++
        warnings bytes params e ++ (tryInTurn bytes params (.noText message) others).log⟩ := by
  have hw := warnings_of_lacksText h
  rw [answer] at h
  rw [tryInTurn, hw, answer, h, List.append_assoc]
  rfl

theorem tryInTurn_of_not_lacksText (h : lacksText (answer bytes params e) = false) :
    tryInTurn bytes params last (e :: others) = answer bytes params e := by
  rw [tryInTurn]
  split
  · rfl
  · next fault hf =>
    rw [allowsFallback_of_outcome hf]
    exact if_neg (Bool.eq_false_iff.mp h)

theorem asked_of_lacksText (h : lacksText (answer bytes params e) = true) :
    asked bytes params (e :: others) = e :: asked bytes params others := by
  simp [asked, h]

theorem asked_of_not_lacksText (h : lacksText (answer bytes params e) = false) :
    asked bytes params (e :: others) = [e] := by
  simp [asked, h]

theorem decisive?_of_lacksText (h : lacksText (answer bytes params e) = true) :
    decisive? bytes params (e :: others) = some ((decisive? bytes params others).getD e) := by
  rw [decisive?, List.find?_cons_of_neg (by simp [h]), List.getLast?_cons, decisive?]
  cases others.find? fun e ↦ !lacksText (answer bytes params e) with
  | none => rfl
  | some f => rfl

theorem decisive?_of_not_lacksText (h : lacksText (answer bytes params e) = false) :
    decisive? bytes params (e :: others) = some e := by
  simp [decisive?, h]

variable (bytes params)

theorem outcome_tryInTurn (es : List Extractor) : (tryInTurn bytes params last es).outcome =
    match decisive? bytes params es with
    | some e => (answer bytes params e).outcome
    | none => .error last := by
  induction es generalizing last with
  | nil => rfl
  | cons e others ih =>
    cases h : lacksText (answer bytes params e) with
    | false => rw [tryInTurn_of_not_lacksText last others h, decisive?_of_not_lacksText others h]
    | true =>
      obtain ⟨message, hm⟩ := (lacksText_iff _).mp h
      rw [tryInTurn_of_lacksText last others hm, decisive?_of_lacksText others h, ih]
      -- The fault of this extractor is the last one only where no other decides.
      cases decisive? bytes params others with
      | none => exact hm.symm
      | some f => rfl

theorem log_tryInTurn (es : List Extractor) : (tryInTurn bytes params last es).log =
    (asked bytes params es).flatMap fun e ↦
      (answer bytes params e).log ++ warnings bytes params e := by
  induction es generalizing last with
  | nil => rfl
  | cons e others ih =>
    cases h : lacksText (answer bytes params e) with
    | false =>
      have hw : warnings bytes params e = [] := by
        simpa [h] using level_warnings bytes params e
      rw [tryInTurn_of_not_lacksText last others h, asked_of_not_lacksText others h,
        List.flatMap_singleton, hw, List.append_nil]
    | true =>
      obtain ⟨message, hm⟩ := (lacksText_iff _).mp h
      rw [tryInTurn_of_lacksText last others hm, asked_of_lacksText others h, List.flatMap_cons, ih]

/-- The first extractor whose answer is not that it found no text decides, or else the last one,
and without any extractor the media type itself is at fault. Those asked leave their own events and
a warning if they found no text, and those behind the deciding one leave nothing. -/
theorem extract_in_turn (r : Registry) (mime : String) (bytes : List UInt8)
    (params : Option Params) :
    (Source.ofBytes bytes).readToEnd = .ok bytes ∧
    (∀ x, lacksText x = true ↔ ∃ message, x.outcome = .error (.noText message)) ∧
    (r.extract mime bytes params).outcome =
      (match decisive? bytes params (r.extractorsFor mime) with
      | some e => (answer bytes params e).outcome
      | none => .error (.noExtractor mime)) ∧
    (r.extract mime bytes params).log =
      ((asked bytes params (r.extractorsFor mime)).flatMap fun e ↦
        (answer bytes params e).log ++ warnings bytes params e) ∧
    ∀ e, (warnings bytes params e).map Event.level =
      if lacksText (answer bytes params e) then [.warn] else [] :=
  ⟨Source.readToEnd_ofBytes bytes, lacksText_iff, outcome_tryInTurn bytes params _ _,
    log_tryInTurn bytes params _ _, level_warnings bytes params⟩

end ShownText.Registry
