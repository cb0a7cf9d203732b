import ShownText.Proofs.HexPairs
import ShownText.Proofs.ScannerAgreement

namespace ShownText.Text

def HasCharAt (text : String) (offset : ℕ) : Prop :=
  ∃ before c after, text.toList = before ++ c :: after ∧ byteLength before = offset

variable {text : String} {offset : ℕ}

theorem hasCharAt_iff : HasCharAt text offset ↔
    (((Cursor.ofString text).skipBytes? offset).any fun c ↦ !c.rest.isEmpty) = true := by
  rw [Option.any_eq_true]
  constructor
  · rintro ⟨before, c, after, htext, rfl⟩
    have hin : Cursor.IsIn ⟨byteLength before, c :: after⟩ text := ⟨before, htext, rfl⟩
    exact ⟨_, hin.skipBytes?, rfl⟩
  · rintro ⟨⟨pos, rest⟩, hskip, hrest⟩
    obtain ⟨⟨before, htext, hpos⟩, rfl⟩ := Cursor.isIn_of_skipBytes? hskip
    cases rest with
    | nil => cases hrest
    | cons c after => exact ⟨before, c, after, htext, hpos.symm⟩

instance : Decidable (HasCharAt text offset) := decidable_of_iff' _ hasCharAt_iff

namespace Cursor

variable {c : Cursor}

theorem IsIn.stop_eq (h : c.IsIn text) : c.stop = text.utf8ByteSize := h.offset_add

theorem IsIn.toEnd (h : c.IsIn text) : c.toEnd.IsIn text := by
  obtain ⟨offset, rest⟩ := c
  rw [← List.append_nil rest] at h
  exact h.advance

theorem IsIn.skipWhile (h : c.IsIn text) (p : Char → Bool) : (c.skipWhile p).IsIn text := by
  obtain ⟨offset, rest⟩ := c
  rw [← List.takeWhile_append_dropWhile (p := p) (l := rest)] at h
  exact h.advance

theorem IsIn.skipOne (h : c.IsIn text) : c.skipOne.IsIn text := by
  obtain ⟨offset, _ | ⟨d, rest⟩⟩ := c
  · exact h
  · exact h.advance_one

theorem IsIn.rest_eq_nil (h : c.IsIn text) (hnone : ¬HasCharAt text c.offset) : c.rest = [] := by
  obtain ⟨before, htext, hoffset⟩ := h
  cases hrest : c.rest with
  | nil => rfl
  | cons d after => exact absurd ⟨before, d, after, hrest ▸ htext, hoffset.symm⟩ hnone

end Cursor

end ShownText.Text

namespace ShownText.PostScript

open Text

variable {text : String} {opening : ℕ} {c : Cursor} {rest : List Char}

namespace Literal

theorem readAt_eq (h : Cursor.IsIn ⟨opening + 1, rest⟩ text) :
    readAt text opening = (read ⟨opening + 1, rest⟩).map id Cursor.offset := by
  rw [readAt, readFrom, h.skipBytes?]
  rfl

end Literal

namespace Hex

end Hex

namespace Scanner

end Scanner

end ShownText.PostScript
