import Mathlib.Data.List.Basic
import ShownText.Charset.Decode

namespace ShownText.Charset

theorem Decoder.decode_eq_of_run {d : Decoder} {bytes : List UInt8} {text : List Char}
    (h : d.run bytes = text.map some) : d.decode bytes = ⟨String.ofList text, false⟩ := by
  rw [decode, h, Decoded.ofPlaces]
  congr 1
  · simp [Function.comp_def]
  · simp

structure Decoder.Undoes (d : Decoder) (encode : List Char → List UInt8) : Prop where
  run_nil : d.run [] = []
  run_append : ∀ text bytes, d.run (encode text ++ bytes) = text.map some ++ d.run bytes

theorem Decoder.Undoes.run_encode {d : Decoder} {encode : List Char → List UInt8}
    (h : d.Undoes encode) (text : List Char) : d.run (encode text) = text.map some := by
  have hrun := h.run_append text []
  rwa [List.append_nil, h.run_nil, List.append_nil] at hrun

def withoutMark : List UInt8 → List UInt8
  | 0xEF :: 0xBB :: 0xBF :: bytes => bytes
  | bytes => bytes

theorem dropMark_utf8 (bytes : List UInt8) : utf8.dropMark bytes = withoutMark bytes := by
  unfold withoutMark
  split
  · simp [dropMark, mark]
  · next h =>
    rw [dropMark, if_neg]
    intro hp
    obtain ⟨rest, hrest⟩ := List.isPrefixOf_iff_prefix.mp hp
    exact h rest hrest.symm

variable [LegacyDecoders]

theorem decode_mark_append (cs : Charset) (bytes : List UInt8) :
    cs.decode (cs.mark ++ bytes) = cs.decodeAll bytes := by
  have hp : cs.mark.isPrefixOf (cs.mark ++ bytes) = true :=
    List.isPrefixOf_iff_prefix.mpr (List.prefix_append _ _)
  rw [decode, dropMark, if_pos hp, List.drop_left]

theorem decode_of_unmarked {cs : Charset} {bytes : List UInt8} (h : ¬cs.mark <+: bytes) :
    cs.decode bytes = cs.decodeAll bytes := by
  rw [decode, dropMark, if_neg (by rwa [List.isPrefixOf_iff_prefix])]

/-- An encoder of the charset, which writes the mark for U+FEFF. -/
structure IsEncoder (cs : Charset) (d : Decoder) (encode : List Char → List UInt8) : Prop
    extends d.Undoes encode where
  decodeAll_eq : cs.decodeAll = d.decode
  mark_eq : cs.mark = encode ['\ufeff']

namespace IsEncoder

variable {cs : Charset} {d : Decoder} {encode : List Char → List UInt8}
  (h : cs.IsEncoder d encode) {text : List Char}

include h

theorem run_mark_append (bytes : List UInt8) :
    d.run (cs.mark ++ bytes) = some '\ufeff' :: d.run bytes := by
  rw [h.mark_eq, h.run_append]
  rfl

theorem unmarked (htext : text.head? ≠ some '\ufeff') : ¬cs.mark <+: encode text := by
  rintro ⟨bytes, hbytes⟩
  have hrun := h.run_encode text
  rw [← hbytes, h.run_mark_append] at hrun
  cases text with
  | nil => cases hrun
  | cons c text =>
    rw [List.map_cons, List.cons.injEq, Option.some.injEq] at hrun
    exact htext (by rw [← hrun.1]; rfl)

theorem decodeAll_encode (text : List Char) :
    cs.decodeAll (encode text) = ⟨String.ofList text, false⟩ := by
  rw [h.decodeAll_eq, Decoder.decode_eq_of_run (h.run_encode text)]

theorem decode_mark_encode (text : List Char) :
    cs.decode (cs.mark ++ encode text) = ⟨String.ofList text, false⟩ := by
  rw [decode_mark_append, h.decodeAll_encode]

theorem decode_encode (htext : text.head? ≠ some '\ufeff') :
    cs.decode (encode text) = ⟨String.ofList text, false⟩ := by
  rw [decode_of_unmarked (h.unmarked htext), h.decodeAll_encode]

end IsEncoder

theorem decode_utf8 (bytes : List UInt8) :
    utf8.decode bytes = .ofPlaces (Utf8.decoder.run (withoutMark bytes)) := by
  rw [decode, dropMark_utf8]
  rfl

end ShownText.Charset
