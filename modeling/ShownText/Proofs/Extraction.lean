import Mathlib.Data.List.Basic
import ShownText.Document

namespace ShownText

namespace Traced

variable {α β : Type} {x : Traced α} {a : α}

theorem eq_mk {outcome : Except Fault α} {log : List Event} (houtcome : x.outcome = outcome)
    (hlog : x.log = log) : x = ⟨outcome, log⟩ := by
  subst houtcome hlog
  rfl

theorem outcome_bind (h : x.outcome = .ok a) (f : α → Traced β) :
    (x >>= f).outcome = (f a).outcome := by
  change (Traced.bind x f).outcome = _
  rw [Traced.bind, h]

theorem outcome_bind_of_error {fault : Fault} (h : x.outcome = .error fault) (f : α → Traced β) :
    (x >>= f).outcome = .error fault := by
  change (Traced.bind x f).outcome = _
  rw [Traced.bind, h]

theorem log_bind (h : x.outcome = .ok a) (f : α → Traced β) :
    (x >>= f).log = x.log ++ (f a).log := by
  change (Traced.bind x f).log = _
  rw [Traced.bind, h]

theorem outcome_mapFault (h : x.outcome = .ok a) (f : Fault → Fault) :
    (x.mapFault f).outcome = .ok a := by
  rw [mapFault, h]
  rfl

end Traced

theorem charsetOf_default : charsetOf defaultEncoding = .ok .utf8 := by decide

variable [Charset.LegacyDecoders] {charset : Charset}

def malformedEvents (charset : Charset) (bytes : List UInt8) : List Event :=
  if (charset.decode bytes).malformed then [.malformed charset] else []

theorem decodeText_eq {label : String} (h : charsetOf label = .ok charset) (bytes : List UInt8) :
    decodeText label bytes = ⟨.ok (charset.decode bytes).text, malformedEvents charset bytes⟩ := by
  rw [decodeText, h]
  rfl

theorem outcome_decodeText {label : String} (h : charsetOf label = .ok charset)
    (bytes : List UInt8) : (decodeText label bytes).outcome = .ok (charset.decode bytes).text := by
  rw [decodeText_eq h]

namespace PostScriptExtractor

def answerTo (text : String) : Except Fault Record :=
  if PostScript.shownText text = "" then .error nothingShown
  else .ok (.ofContent (PostScript.shownText text))

variable {e : PostScriptExtractor} (h : charsetOf e.encoding = .ok charset) (bytes : List UInt8)
  (params : Option Params)

include h

theorem outcome_extract : (e.extract bytes params).outcome =
    if PostScript.shownText (charset.decode bytes).text = "" then .error nothingShown
    else .ok (.ofContent (PostScript.shownText (charset.decode bytes).text)) := by
  have hdecoded := Traced.outcome_mapFault (outcome_decodeText h bytes) (.failed failure)
  rw [extract, Traced.outcome_bind hdecoded, Traced.outcome_bind rfl]
  simp only [apply_ite Traced.outcome, String.isEmpty_iff]
  rfl

theorem log_extract : (e.extract bytes params).log = malformedEvents charset bytes ++
    [.scanned (resourceLabel params) bytes.length
      (PostScript.shownStrings (charset.decode bytes).text).length] := by
  have hdecoded := Traced.outcome_mapFault (outcome_decodeText h bytes) (.failed failure)
  rw [extract, Traced.log_bind hdecoded, Traced.log_bind rfl, decodeText_eq h]
  simp only [apply_ite Traced.log, Traced.fail, Traced.log_pure, ite_self]
  rfl

theorem outcome_extractFrom : (e.extractFrom (.ofBytes bytes) params).outcome =
    if PostScript.shownText (charset.decode bytes).text = "" then .error nothingShown
    else .ok (.ofContent (PostScript.shownText (charset.decode bytes).text)) := by
  rw [extractFrom, Source.readToEnd_ofBytes]
  exact outcome_extract h bytes params

end PostScriptExtractor

namespace PlainTextExtractor

variable {e : PlainTextExtractor} (h : charsetOf e.encoding = .ok charset) (bytes : List UInt8)
  (params : Option Params)

include h

theorem outcome_extract :
    (e.extract bytes params).outcome = .ok (.ofContent (charset.decode bytes).text) := by
  have hdecoded := Traced.outcome_mapFault (outcome_decodeText h bytes) (.failed e.failure)
  rw [extract, Traced.outcome_bind hdecoded, Traced.outcome_bind rfl]
  rfl

theorem log_extract : (e.extract bytes params).log =
    malformedEvents charset bytes ++ [.decoded (resourceLabel params) bytes.length] := by
  have hdecoded := Traced.outcome_mapFault (outcome_decodeText h bytes) (.failed e.failure)
  rw [extract, Traced.log_bind hdecoded, Traced.log_bind rfl, decodeText_eq h]
  rfl

theorem outcome_extractFrom : (e.extractFrom (.ofBytes bytes) params).outcome =
    .ok (.ofContent (charset.decode bytes).text) := by
  rw [extractFrom, Source.readToEnd_ofBytes]
  exact outcome_extract h bytes params

end PlainTextExtractor

theorem Document.outcome_text {e : PostScriptExtractor} (h : charsetOf e.encoding = .ok charset)
    (bytes : List UInt8) : (Document.text e bytes).outcome =
      if PostScript.shownText (charset.decode bytes).text = "" then
        .error PostScriptExtractor.nothingShown
      else .ok (PostScript.shownText (charset.decode bytes).text) := by
  have hrecord := PostScriptExtractor.outcome_extract h bytes none
  rw [Document.text, Document.record]
  split
  · next hempty =>
    rw [if_pos hempty] at hrecord
    exact Traced.outcome_bind_of_error hrecord _
  · next hempty =>
    rw [if_neg hempty] at hrecord
    rw [Traced.outcome_bind hrecord]
    rfl

end ShownText
