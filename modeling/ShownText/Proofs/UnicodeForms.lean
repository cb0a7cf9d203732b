import ShownText.Proofs.Extraction
import ShownText.Proofs.Utf16
import ShownText.Proofs.Utf8

namespace ShownText

open Charset

inductive UnicodeForm
  | utf8
  | utf16 (order : Utf16.ByteOrder)
  deriving DecidableEq

namespace UnicodeForm

def charset : UnicodeForm → Charset
  | .utf8 => .utf8
  | .utf16 order => order.charset

def encode : UnicodeForm → List Char → List UInt8
  | .utf8 => Text.encode
  | .utf16 order => Utf16.encode order

def mark (form : UnicodeForm) : List UInt8 := form.encode ['\ufeff']

def decoder : UnicodeForm → Decoder
  | .utf8 => Utf8.decoder
  | .utf16 order => Utf16.decoder order

theorem isEncoder [LegacyDecoders] (form : UnicodeForm) :
    form.charset.IsEncoder form.decoder form.encode := by
  cases form with
  | utf8 => exact utf8_isEncoder
  | utf16 order => exact Utf16.isEncoder order

theorem mark_charset (form : UnicodeForm) : form.charset.mark = form.mark := by
  cases form with
  | utf8 => decide
  | utf16 order => cases order <;> decide

theorem mark_eq_nil_or (cs : Charset) : cs.mark = [] ∨ ∃ form : UnicodeForm, cs = form.charset := by
  cases cs
  case utf8 => exact .inr ⟨.utf8, rfl⟩
  case utf16le => exact .inr ⟨.utf16 .littleEndian, rfl⟩
  case utf16be => exact .inr ⟨.utf16 .bigEndian, rfl⟩
  all_goals exact .inl rfl

theorem eq_of_marked {form other : UnicodeForm} {bytes : List UInt8}
    (h : form.mark <+: other.mark ++ bytes) : form = other := by
  have hutf8 : mark .utf8 = [0xEF, 0xBB, 0xBF] := by decide
  have hle : mark (.utf16 .littleEndian) = [0xFF, 0xFE] := by decide
  have hbe : mark (.utf16 .bigEndian) = [0xFE, 0xFF] := by decide
  rcases form with _ | _ | _ <;> rcases other with _ | _ | _ <;>
    simp_all [List.cons_prefix_cons]

theorem decode_mark_append [LegacyDecoders] (cs : Charset) (form : UnicodeForm)
    (bytes : List UInt8) :
    cs.decode (form.mark ++ bytes) =
      cs.decodeAll (if cs = form.charset then bytes else form.mark ++ bytes) := by
  split
  · next h =>
    rw [h, ← mark_charset, Charset.decode_mark_append]
  · next h =>
    obtain hnil | ⟨other, rfl⟩ := mark_eq_nil_or cs
    · have hdecode := cs.decode_mark_append (form.mark ++ bytes)
      rwa [hnil] at hdecode
    · apply decode_of_unmarked
      rw [mark_charset]
      intro hprefix
      exact h (congrArg charset (eq_of_marked hprefix))

end UnicodeForm

/-- A way to store texts: in a form, with or without its mark in front, under a label that names
the charset of the form. -/
structure Storage where
  form : UnicodeForm
  marked : Bool
  label : String
  named : charsetOf label = .ok form.charset

namespace Storage

def bytes (storage : Storage) (text : String) : List UInt8 :=
  (if storage.marked then storage.form.mark else []) ++ storage.form.encode text.toList

def Suits (storage : Storage) (text : String) : Prop :=
  storage.marked = true ∨ text.toList.head? ≠ some '\ufeff'

section

variable [LegacyDecoders] {storage : Storage} {text : String}

theorem decode_bytes (h : storage.Suits text) :
    storage.form.charset.decode (storage.bytes text) = ⟨text, false⟩ := by
  have hencoder := storage.form.isEncoder
  rw [bytes]
  split
  · rw [← UnicodeForm.mark_charset, hencoder.decode_mark_encode, String.ofList_toList]
  · next hmarked =>
    rw [List.nil_append, hencoder.decode_encode (h.resolve_left hmarked), String.ofList_toList]

theorem malformedEvents_bytes (h : storage.Suits text) :
    malformedEvents storage.form.charset (storage.bytes text) = [] := by
  rw [malformedEvents, decode_bytes h]
  rfl

variable (params : Option Params)

theorem postScript_bytes (h : storage.Suits text) :
    (PostScriptExtractor.mk storage.label).extract (storage.bytes text) params =
      ⟨PostScriptExtractor.answerTo text, [.scanned (resourceLabel params)
        (storage.bytes text).length (PostScript.shownStrings text).length]⟩ := by
  have hnamed : charsetOf (PostScriptExtractor.mk storage.label).encoding = _ := storage.named
  apply Traced.eq_mk
  · rw [PostScriptExtractor.outcome_extract hnamed, decode_bytes h, PostScriptExtractor.answerTo]
  · rw [PostScriptExtractor.log_extract hnamed, malformedEvents_bytes h, decode_bytes h,
      List.nil_append]

theorem plainText_bytes (h : storage.Suits text) :
    (PlainTextExtractor.mk storage.label).extractFrom (.ofBytes (storage.bytes text)) params =
      ⟨.ok (.ofContent text), [.decoded (resourceLabel params) (storage.bytes text).length]⟩ := by
  have hnamed : charsetOf (PlainTextExtractor.mk storage.label).encoding = _ := storage.named
  rw [PlainTextExtractor.extractFrom, Source.readToEnd_ofBytes]
  apply Traced.eq_mk
  · exact (PlainTextExtractor.outcome_extract hnamed _ params).trans (by rw [decode_bytes h])
  · exact (PlainTextExtractor.log_extract hnamed _ params).trans (by
      rw [malformedEvents_bytes h, List.nil_append])

/-- However a text is stored, each extractor answers what it answers to the text itself, and it
reports no malformed bytes. A mark in front is dropped, once, by the charset that it belongs to and
by no other. -/
theorem same_extraction (text : String) (params : Option Params) :
    (∀ storage : Storage, storage.Suits text →
      (PostScriptExtractor.mk storage.label).extract (storage.bytes text) params =
        ⟨PostScriptExtractor.answerTo text, [.scanned (resourceLabel params)
          (storage.bytes text).length (PostScript.shownStrings text).length]⟩ ∧
      (PlainTextExtractor.mk storage.label).extractFrom (.ofBytes (storage.bytes text)) params =
        ⟨.ok (.ofContent text),
          [.decoded (resourceLabel params) (storage.bytes text).length]⟩) ∧
    (∀ storage other : Storage, storage.Suits text → other.Suits text →
      ((PostScriptExtractor.mk storage.label).extract (storage.bytes text) params).outcome =
        ((PostScriptExtractor.mk other.label).extract (other.bytes text) params).outcome ∧
      ((PlainTextExtractor.mk storage.label).extractFrom
          (.ofBytes (storage.bytes text)) params).outcome =
        ((PlainTextExtractor.mk other.label).extractFrom
          (.ofBytes (other.bytes text)) params).outcome) ∧
    ∀ (cs : Charset) (form : UnicodeForm) (bytes : List UInt8),
      cs.decode (form.mark ++ bytes) =
        cs.decodeAll (if cs = form.charset then bytes else form.mark ++ bytes) := by
  refine ⟨?_, ?_, UnicodeForm.decode_mark_append⟩
  · intro storage h
    exact ⟨postScript_bytes params h, plainText_bytes params h⟩
  · intro storage other h hother
    rw [postScript_bytes params h, postScript_bytes params hother, plainText_bytes params h,
      plainText_bytes params hother]
    exact ⟨rfl, rfl⟩

end

open scoped LegacyDecoders.AsciiOnly

theorem same_extraction_of_surrogates :
    (PostScriptExtractor.mk " UTF-16BE\n").extract
      [0xFE, 0xFF, 0xFE, 0xFF, 0, 0x28, 0xD8, 0x3D, 0xDE, 0, 0, 0xE9, 0, 0x29, 0, 0x20, 0, 0x73,
        0, 0x68, 0, 0x6F, 0, 0x77] none = ⟨.ok (.ofContent "😀é"), [.scanned "-" 24 1]⟩ ∧
    (PlainTextExtractor.mk "utf8").extractFrom (.ofBytes
      [0xEF, 0xBB, 0xBF, 0xEF, 0xBB, 0xBF, 0x28, 0xF0, 0x9F, 0x98, 0x80, 0xC3, 0xA9, 0x29, 0x20,
        0x73, 0x68, 0x6F, 0x77]) none =
      ⟨.ok (.ofContent "\ufeff(😀é) show"), [.decoded "-" 19]⟩ ∧
    (PlainTextExtractor.mk "ucs-2").extractFrom (.ofBytes [0x3D, 0xD8, 0, 0xDE]) none =
      ⟨.ok (.ofContent "😀"), [.decoded "-" 4]⟩ := by
  have hbe : charsetOf " UTF-16BE\n" = .ok .utf16be := by decide +kernel
  have hle : charsetOf "ucs-2" = .ok .utf16le := by decide +kernel
  have hutf8 : charsetOf "utf8" = .ok .utf8 := by decide +kernel
  have hmarked := (same_extraction "\ufeff(😀é) show" none).1
  have hunmarked := (same_extraction "😀" none).1
  have hsuits : Suits ⟨.utf16 .littleEndian, false, "ucs-2", hle⟩ "😀" := .inr (by decide)
  have htext : PostScript.shownText "\ufeff(😀é) show" = "😀é" := by decide +kernel
  have hanswer : PostScriptExtractor.answerTo "\ufeff(😀é) show" = .ok (.ofContent "😀é") := by
    rw [PostScriptExtractor.answerTo, htext, if_neg (by decide)]
  have hshown : PostScript.shownStrings "\ufeff(😀é) show" = ["😀é"] := by decide +kernel
  have hpostScript := (hmarked ⟨.utf16 .bigEndian, true, _, hbe⟩ (.inl rfl)).1
  rw [hanswer, hshown] at hpostScript
  exact ⟨hpostScript, (hmarked ⟨.utf8, true, _, hutf8⟩ (.inl rfl)).2, (hunmarked _ hsuits).2⟩

end Storage

end ShownText
