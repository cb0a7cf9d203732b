import ShownText.Proofs.Extraction

namespace ShownText

def Characterless (strings : List String) : Prop := ∀ s ∈ strings, s = ""

instance (strings : List String) : Decidable (Characterless strings) :=
  inferInstanceAs (Decidable (∀ s ∈ strings, s = ""))

/-- Several strings without a character, so that a join of them consists of separators. -/
def OnlySeparated (strings : List String) : Prop := Characterless strings ∧ 2 ≤ strings.length

variable {strings : List String}

theorem Characterless.eq_replicate (h : Characterless strings) :
    strings = List.replicate strings.length "" :=
  List.eq_replicate_of_mem h

theorem intercalate_replicate (n : ℕ) :
    " ".intercalate (List.replicate (n + 1) "") = String.ofList (List.replicate n ' ') := by
  induction n with
  | zero => exact String.intercalate_singleton
  | succ n ih =>
    have hne : List.replicate (n + 1) "" ≠ [] := by simp
    rw [List.replicate_succ, String.intercalate_cons_of_ne_nil hne, ih, List.replicate_succ,
      String.empty_append]
    exact String.ofList_append.symm

theorem OnlySeparated.intercalate (h : OnlySeparated strings) :
    " ".intercalate strings = String.ofList (List.replicate (strings.length - 1) ' ') := by
  obtain ⟨n, hn⟩ := Nat.exists_eq_add_of_le' h.2
  rw [h.1.eq_replicate, hn, List.length_replicate]
  exact intercalate_replicate (n + 1)

theorem intercalate_eq_empty_iff :
    " ".intercalate strings = "" ↔ Characterless strings ∧ strings.length ≤ 1 := by
  cases strings with
  | nil => simp [Characterless]
  | cons s rest =>
    cases rest with
    | nil => simp [Characterless]
    | cons t rest => simp

namespace PostScriptExtractor

section Signal

variable [Charset.LegacyDecoders]

def shownIn (charset : Charset) (bytes : List UInt8) : List String :=
  PostScript.shownStrings (charset.decode bytes).text

/-- The signal that there is no text is given exactly if no shown string has a character, and
otherwise the strings are joined. -/
structure SignalsNoText (outcome : Except Fault Record) (shown : List String) : Prop where
  signal_iff : outcome = .error nothingShown ↔ Characterless shown
  joined : ¬ Characterless shown → outcome = .ok (.ofContent (" ".intercalate shown))

variable {charset : Charset} {e : PostScriptExtractor} (h : charsetOf e.encoding = .ok charset)
  (bytes : List UInt8) (params : Option Params)

include h

theorem outcome_of_signal
    (hshown : Characterless (shownIn charset bytes) ∧ (shownIn charset bytes).length ≤ 1) :
    (e.extract bytes params).outcome = .error nothingShown := by
  rw [outcome_extract h]
  exact if_pos (intercalate_eq_empty_iff.mpr hshown)

theorem outcome_of_text
    (hshown : ¬ (Characterless (shownIn charset bytes) ∧ (shownIn charset bytes).length ≤ 1)) :
    (e.extract bytes params).outcome =
      .ok (.ofContent (" ".intercalate (shownIn charset bytes))) := by
  rw [outcome_extract h]
  exact if_neg (mt intercalate_eq_empty_iff.mp hshown)

/-- The signal is given where it ought to be, unless several strings are shown and all of them are
empty. The content then consists of the spaces between them. -/
theorem signals_no_text_iff :
    (SignalsNoText (e.extract bytes params).outcome (shownIn charset bytes) ↔
      ¬ OnlySeparated (shownIn charset bytes)) ∧
    (OnlySeparated (shownIn charset bytes) →
      (e.extract bytes params).outcome = .ok (.ofContent
        (String.ofList (List.replicate ((shownIn charset bytes).length - 1) ' ')))) := by
  have hspaces : OnlySeparated (shownIn charset bytes) →
      (e.extract bytes params).outcome = .ok (.ofContent
        (String.ofList (List.replicate ((shownIn charset bytes).length - 1) ' '))) := by
    intro hshown
    have hmany : ¬ (shownIn charset bytes).length ≤ 1 := Nat.not_le.mpr hshown.2
    rw [outcome_of_text h bytes params fun hfew ↦ hmany hfew.2, hshown.intercalate]
  refine ⟨⟨?_, ?_⟩, hspaces⟩
  · intro hsignals hshown
    have hsignal := hsignals.signal_iff.mpr hshown.1
    rw [hspaces hshown] at hsignal
    cases hsignal
  · intro hshown
    by_cases hnone : Characterless (shownIn charset bytes)
    · have hfew : (shownIn charset bytes).length ≤ 1 := by
        by_contra hmany
        exact hshown ⟨hnone, Nat.not_le.mp hmany⟩
      have hsignal := outcome_of_signal h bytes params ⟨hnone, hfew⟩
      exact ⟨iff_of_true hsignal hnone, fun hsome ↦ absurd hnone hsome⟩
    · have htext := outcome_of_text h bytes params fun hfew ↦ hnone hfew.1
      refine ⟨iff_of_false ?_ hnone, fun _ ↦ htext⟩
      rw [htext]
      intro hsignal
      cases hsignal

end Signal

open scoped Charset.LegacyDecoders.AsciiOnly

theorem shownIn_empty : shownIn .utf8 "() show".toUTF8.toList = [""] := by decide +kernel

theorem shownIn_empties : shownIn .utf8 "() show () show".toUTF8.toList = ["", ""] := by
  decide +kernel

theorem signals_no_text_of_empty :
    charsetOf ({} : PostScriptExtractor).encoding = .ok .utf8 ∧
    SignalsNoText (extract {} "() show".toUTF8.toList none).outcome [""] ∧
    (extract {} "() show () show".toUTF8.toList none).outcome = .ok (.ofContent " ") := by
  have hone := (signals_no_text_iff charsetOf_default "() show".toUTF8.toList none).1
  have htwo := (signals_no_text_iff charsetOf_default "() show () show".toUTF8.toList none).2
  rw [shownIn_empty] at hone
  rw [shownIn_empties] at htwo
  have hsignals : ¬ OnlySeparated [""] := by
    intro hmany
    exact absurd hmany.2 (by decide)
  exact ⟨charsetOf_default, hone.mpr hsignals, htwo ⟨by decide, by decide⟩⟩

/-- Two empty strings are no text, but their join is a space. -/
theorem not_signals_no_text :
    Characterless (shownIn .utf8 "() show () show".toUTF8.toList) ∧
    (extract {} "() show () show".toUTF8.toList none).outcome = .ok (.ofContent " ") ∧
    ¬ SignalsNoText (extract {} "() show () show".toUTF8.toList none).outcome
      (shownIn .utf8 "() show () show".toUTF8.toList) := by
  have hnone : Characterless (shownIn .utf8 "() show () show".toUTF8.toList) := by
    rw [shownIn_empties]
    decide
  have hspace : (extract {} "() show () show".toUTF8.toList none).outcome =
      .ok (.ofContent " ") := by
    have hmany : ¬ (shownIn .utf8 "() show () show".toUTF8.toList).length ≤ 1 := by
      rw [shownIn_empties]
      decide
    have htext := outcome_of_text charsetOf_default "() show () show".toUTF8.toList none
      fun hfew ↦ hmany hfew.2
    rw [shownIn_empties] at htext
    exact htext
  refine ⟨hnone, hspace, fun hsignals ↦ ?_⟩
  have hsignal := hsignals.signal_iff.mpr hnone
  rw [hspace] at hsignal
  cases hsignal

end PostScriptExtractor

end ShownText
