import ShownText.Proofs.Extraction
import ShownText.Proofs.Fallback
import ShownText.Proofs.Marks
import ShownText.Proofs.Registration

namespace ShownText

namespace Charset

def utf8Text (bytes : List UInt8) : String :=
  String.ofList ((Utf8.decoder.run (withoutMark bytes)).map (·.getD '\ufffd'))

theorem text_decode_utf8 [LegacyDecoders] (bytes : List UInt8) :
    (utf8.decode bytes).text = utf8Text bytes := by
  rw [decode_utf8]
  rfl

end Charset

namespace Registry

open Charset PostScript

theorem Ranked.eq_self {es ranked : List Extractor} (h : Ranked es ranked)
    (hes : es.Pairwise fun a b ↦ b.weight ≤ a.weight) : ranked = es :=
  eq_of_ofWeight h.descending hes h.stable

theorem canonical_postScript : MediaType.canonical MediaType.postScript = MediaType.postScript := by
  decide

theorem canonical_plainText : MediaType.canonical MediaType.plainText = MediaType.plainText := by
  decide

theorem postScript_ne_plainText : MediaType.postScript ≠ MediaType.plainText := by decide

section

variable [LegacyDecoders]

def postScriptExtractor : Extractor := (PostScriptExtractor.mk defaultEncoding).toExtractor

def plainTextExtractor : Extractor := (PlainTextExtractor.mk defaultEncoding).toExtractor

def standardEntries : List (String × Extractor) :=
  [(MediaType.postScript, postScriptExtractor), (MediaType.postScript, plainTextExtractor),
    (MediaType.plainText, plainTextExtractor)]

variable {mime : String}

theorem standard_ranked (mime : String) :
    Ranked (registered standardEntries mime) (standard.extractorsFor mime) :=
  extractorsFor_ranked standardEntries mime

theorem extractorsFor_postScript (h : MediaType.canonical mime = MediaType.postScript) :
    standard.extractorsFor mime = [postScriptExtractor, plainTextExtractor] := by
  have hregistered : registered standardEntries mime =
      [postScriptExtractor, plainTextExtractor] := by
    simp [registered, standardEntries, h, canonical_postScript, canonical_plainText,
      postScript_ne_plainText.symm]
  have hranked := standard_ranked mime
  rw [hregistered] at hranked
  apply hranked.eq_self
  simp [postScriptExtractor, plainTextExtractor, PostScriptExtractor.toExtractor,
    PlainTextExtractor.toExtractor, PostScriptExtractor.weight, Extractor.defaultWeight]

theorem extractorsFor_plainText (h : MediaType.canonical mime = MediaType.plainText) :
    standard.extractorsFor mime = [plainTextExtractor] := by
  have hregistered : registered standardEntries mime = [plainTextExtractor] := by
    simp [registered, standardEntries, h, canonical_postScript, canonical_plainText,
      postScript_ne_plainText]
  have hranked := standard_ranked mime
  rw [hregistered] at hranked
  exact hranked.eq_self (List.pairwise_singleton _ _)

variable (bytes : List UInt8) (params : Option Params)

theorem outcome_postScript : (answer bytes params postScriptExtractor).outcome =
    if shownText (utf8Text bytes) = "" then .error PostScriptExtractor.nothingShown
    else .ok (.ofContent (shownText (utf8Text bytes))) := by
  rw [← text_decode_utf8]
  exact PostScriptExtractor.outcome_extractFrom charsetOf_default bytes params

theorem outcome_plainText :
    (answer bytes params plainTextExtractor).outcome = .ok (.ofContent (utf8Text bytes)) := by
  rw [← text_decode_utf8]
  exact PlainTextExtractor.outcome_extractFrom charsetOf_default bytes params

theorem lacksText_plainText : lacksText (answer bytes params plainTextExtractor) = false := by
  rw [lacksText, outcome_plainText]

/-- Under every spelling of its two media types the standard registry answers a record without
metadata, whatever the bytes. For PostScript its content is the shown text, or all of the text if
that is empty, and for plain text it is the text. -/
theorem standard_total (mime : String) (bytes : List UInt8) (params : Option Params) :
    (MediaType.canonical mime = MediaType.postScript →
      (standard.extract mime bytes params).outcome =
        .ok ⟨some (if shownText (utf8Text bytes) = "" then utf8Text bytes
          else shownText (utf8Text bytes)), ∅⟩) ∧
    (MediaType.canonical mime = MediaType.plainText →
      (standard.extract mime bytes params).outcome = .ok ⟨some (utf8Text bytes), ∅⟩) := by
  have hplain := outcome_plainText bytes params
  have htext := lacksText_plainText bytes params
  constructor
  · intro h
    rw [extract, extractorsFor_postScript h]
    have hfirst := outcome_postScript bytes params
    by_cases hempty : shownText (utf8Text bytes) = ""
    · rw [if_pos hempty] at hfirst
      rw [tryInTurn_of_lacksText _ _ hfirst, tryInTurn_of_not_lacksText _ _ htext, hplain,
        if_pos hempty]
      rfl
    · rw [if_neg hempty] at hfirst
      have hshown : lacksText (answer bytes params postScriptExtractor) = false := by
        rw [lacksText, hfirst]
      rw [tryInTurn_of_not_lacksText _ _ hshown, hfirst, if_neg hempty]
      rfl
  · intro h
    rw [extract, extractorsFor_plainText h, tryInTurn_of_not_lacksText _ _ htext, hplain]
    rfl

end

open scoped LegacyDecoders.AsciiOnly

theorem standard_total_of_malformed :
    MediaType.canonical " Application/POSTSCRIPT ; x=y;" = MediaType.postScript ∧
    (standard.extract " Application/POSTSCRIPT ; x=y;" [0xEF, 0xBB, 0xBF, 0xEF, 0xBB, 0x28, 0xFF]
      none).outcome = .ok ⟨some "\ufffd(\ufffd", ∅⟩ ∧
    MediaType.canonical "Text/plain;" = MediaType.plainText ∧
    (standard.extract "Text/plain;" [0xEF, 0xBB, 0xBF, 0xEF, 0xBB, 0xBF, 0xC3] none).outcome =
      .ok ⟨some "\ufeff\ufffd", ∅⟩ := by
  have hmime : MediaType.canonical " Application/POSTSCRIPT ; x=y;" = MediaType.postScript := by
    decide
  have hmime' : MediaType.canonical "Text/plain;" = MediaType.plainText := by decide
  have hfirst := (standard_total " Application/POSTSCRIPT ; x=y;"
    [0xEF, 0xBB, 0xBF, 0xEF, 0xBB, 0x28, 0xFF] none).1 hmime
  have hsecond := (standard_total "Text/plain;"
    [0xEF, 0xBB, 0xBF, 0xEF, 0xBB, 0xBF, 0xC3] none).2 hmime'
  have htext : utf8Text [0xEF, 0xBB, 0xBF, 0xEF, 0xBB, 0x28, 0xFF] = "\ufffd(\ufffd" := by
    decide +kernel
  have htext' : utf8Text [0xEF, 0xBB, 0xBF, 0xEF, 0xBB, 0xBF, 0xC3] = "\ufeff\ufffd" := by
    decide +kernel
  have hshown : shownText "\ufffd(\ufffd" = "" := by decide +kernel
  rw [htext, if_pos hshown] at hfirst
  rw [htext'] at hsecond
  exact ⟨hmime, hfirst, hmime', hsecond⟩

end Registry

end ShownText
