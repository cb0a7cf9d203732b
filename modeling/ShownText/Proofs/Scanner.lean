import ShownText.Proofs.Grammar
import ShownText.Proofs.Places

namespace ShownText.PostScript.Scanner

open Text

inductive Slip
  | insideCharacter
  /-- Nothing was passed where a word should begin. -/
  | standstill
  deriving DecidableEq, Repr

variable (text : String)

def byteAt? (pos : ℕ) : Option UInt8 := text.toUTF8.data.toList[pos]?

def from? (pos : ℕ) : Except Slip Cursor :=
  match (Cursor.ofString text).skipBytes? pos with
  | some c => .ok c
  | none => .error .insideCharacter

def charAt? (pos : ℕ) : Except Slip (Option Char) := (from? text pos).map (·.rest.head?)

def slice (start stop : ℕ) : Except Slip String := do
  let first ← from? text start
  let last ← from? text stop
  return String.ofList (first.rest.take (first.rest.length - last.rest.length))

def passBytes (p : UInt8 → Bool) (pos : ℕ) : ℕ :=
  pos + ((text.toUTF8.data.toList.drop pos).takeWhile p).length

def passRegular (pos : ℕ) : ℕ := passBytes text (fun b ↦ isRegular (Char.ofNat b.toNat)) pos

def passComment (pos : ℕ) : ℕ := passBytes text (fun b ↦ b != 0x0A && b != 0x0D) (pos + 1)

def octal (code pos : ℕ) : ℕ → ℕ × ℕ
  | 0 => (code, pos)
  | more + 1 =>
    match byteAt? text pos with
    | some b =>
      if 0x30 ≤ b ∧ b ≤ 0x37 then octal (code * 8 + (b.toNat - 0x30)) (pos + 1) more
      else (code, pos)
    | none => (code, pos)

/-- What one piece of a literal does: `value` is in reverse, and `depth` inner parentheses are
open. -/
inductive Piece
  | unclosed
  | closed (stop : ℕ)
  | again (depth : ℕ) (value : List Char) (pos : ℕ)

def escapePiece (depth : ℕ) (value : List Char) (c : Char) (pos : ℕ) : Piece :=
  match c with
  | 'n' => .again depth ('\n' :: value) (pos + 1)
  | 'r' => .again depth ('\r' :: value) (pos + 1)
  | 't' => .again depth ('\t' :: value) (pos + 1)
  | 'b' => .again depth ('\x08' :: value) (pos + 1)
  | 'f' => .again depth ('\x0c' :: value) (pos + 1)
  | '\r' => .again depth value (if byteAt? text (pos + 1) = some 0x0A then pos + 2 else pos + 1)
  | '\n' => .again depth value (pos + 1)
  | _ =>
    match octalDigit? c with
    | some digit =>
      let (code, after) := octal text digit (pos + 1) 2
      .again depth (Char.ofNat code :: value) after
    | none => .again depth (c :: value) (pos + c.utf8Size)

def literalPiece (depth : ℕ) (value : List Char) (pos : ℕ) : Except Slip Piece :=
  match charAt? text pos with
  | .error slip => .error slip
  | .ok none => .ok .unclosed
  | .ok (some '\\') =>
    match charAt? text (pos + 1) with
    | .error slip => .error slip
    | .ok none => .ok (.again depth value (pos + 1))
    | .ok (some c) => .ok (escapePiece text depth value c (pos + 1))
  | .ok (some '(') => .ok (.again (depth + 1) ('(' :: value) (pos + 1))
  | .ok (some ')') =>
    .ok (if depth = 0 then .closed (pos + 1) else .again (depth - 1) (')' :: value) (pos + 1))
  | .ok (some c) => .ok (.again depth (c :: value) (pos + c.utf8Size))

variable {text}

theorem lt_of_charAt? {pos : ℕ} {c : Char} (h : charAt? text pos = .ok (some c)) :
    pos < text.utf8ByteSize := by
  unfold charAt? from? at h
  cases hs : (Cursor.ofString text).skipBytes? pos with
  | none => simp [hs, Except.map] at h
  | some cursor =>
    obtain ⟨hin, rfl⟩ := Cursor.isIn_of_skipBytes? hs
    simp only [hs, Except.map, Except.ok.injEq] at h
    obtain ⟨cs, hcs⟩ := List.head?_eq_some_iff.mp h
    have hstop := hin.offset_add
    have hpos := c.utf8Size_pos
    rw [hcs, byteLength_cons] at hstop
    omega

theorem le_octal (code pos more : ℕ) : pos ≤ (octal text code pos more).2 := by
  induction more generalizing code pos with
  | zero => exact Nat.le_refl _
  | succ more ih =>
    rw [octal]
    split
    · split
      · exact Nat.le_of_succ_le (ih _ _)
      · exact Nat.le_refl _
    · exact Nat.le_refl _

theorem lt_of_escapePiece {depth depth' pos pos' : ℕ} {value value' : List Char} {c : Char}
    (h : escapePiece text depth value c pos = .again depth' value' pos') : pos < pos' := by
  unfold escapePiece at h
  split at h
  iterate 5 obtain ⟨-, -, rfl⟩ := h; omega
  · obtain ⟨-, -, rfl⟩ := h
    split <;> omega
  · obtain ⟨-, -, rfl⟩ := h; omega
  · split at h
    · next digit _ =>
      obtain ⟨-, -, rfl⟩ := h
      exact le_octal digit (pos + 1) 2
    · obtain ⟨-, -, rfl⟩ := h
      exact Nat.lt_add_of_pos_right c.utf8Size_pos

theorem lt_of_literalPiece {depth depth' pos pos' : ℕ} {value value' : List Char}
    (h : literalPiece text depth value pos = .ok (.again depth' value' pos')) :
    pos < pos' ∧ pos < text.utf8ByteSize := by
  unfold literalPiece at h
  split at h
  · cases h
  · cases h
  · next hc =>
    have hlt := lt_of_charAt? hc
    split at h
    · cases h
    · obtain ⟨-, -, rfl⟩ := h; omega
    · have hp := lt_of_escapePiece (Except.ok.inj h)
      omega
  · next hc =>
    have hlt := lt_of_charAt? hc
    obtain ⟨-, -, rfl⟩ := h; omega
  · next hc =>
    have hlt := lt_of_charAt? hc
    split at h
    · cases h
    · obtain ⟨-, -, rfl⟩ := h; omega
  · next c _ _ _ hc =>
    have hlt := lt_of_charAt? hc
    have hpos := c.utf8Size_pos
    obtain ⟨-, -, rfl⟩ := h; omega

variable (text)

def literal (depth : ℕ) (value : List Char) (pos : ℕ) : Except Slip (String × ℕ) :=
  match _h : literalPiece text depth value pos with
  | .error slip => .error slip
  | .ok .unclosed => .ok ("", text.utf8ByteSize)
  | .ok (.closed stop) => .ok (String.ofList value.reverse, stop)
  | .ok (.again depth value pos) => literal depth value pos
termination_by text.utf8ByteSize - pos
decreasing_by have := lt_of_literalPiece _h; omega

def hexDigits (pos : ℕ) : Except Slip (List Char × ℕ) :=
  match _h : charAt? text pos with
  | .error slip => .error slip
  | .ok none | .ok (some '>') => .ok ([], pos)
  | .ok (some c) =>
    (hexDigits (pos + c.utf8Size)).map fun r ↦ (if isWhitespace c then r.1 else c :: r.1, r.2)
termination_by text.utf8ByteSize - pos
decreasing_by have := lt_of_charAt? _h; have := c.utf8Size_pos; omega

def hex (pos : ℕ) : Except Slip (String × ℕ) :=
  (hexDigits text pos).map fun r ↦
    (Hex.decode r.1, if r.2 < text.utf8ByteSize then r.2 + 1 else r.2)

inductive Look
  | ended
  | again (pos : ℕ)
  | token (t : Token) (stop : ℕ)

def look (start : ℕ) : Except Slip Look :=
  match charAt? text start with
  | .error slip => .error slip
  | .ok none => .ok .ended
  | .ok (some '%') => .ok (.again (passComment text start))
  | .ok (some '(') => (literal text 0 [] (start + 1)).map fun r ↦ .token (.string r.1) r.2
  | .ok (some '<') =>
    match byteAt? text (start + 1) with
    | none => .ok (.token (.stray '<') (start + 1))
    | some b =>
      if b = 0x3C then .ok (.token (.bracket .openDict) (start + 2))
      else (hex text (start + 1)).map fun r ↦ .token (.string r.1) r.2
  | .ok (some '>') =>
    if byteAt? text (start + 1) = some 0x3E then .ok (.token (.bracket .closeDict) (start + 2))
    else .ok (.token (.stray '>') (start + 1))
  | .ok (some '[') => .ok (.token (.bracket .openArray) (start + 1))
  | .ok (some ']') => .ok (.token (.bracket .closeArray) (start + 1))
  | .ok (some '\x7b') => .ok (.token (.bracket .openProc) (start + 1))
  | .ok (some '\x7d') => .ok (.token (.bracket .closeProc) (start + 1))
  | .ok (some ')') => .ok (.token (.stray ')') (start + 1))
  | .ok (some '/') =>
    let stop := passRegular text (start + 1)
    (slice text (start + 1) stop).map fun name ↦ .token (.name name) stop
  | .ok (some c) =>
    if isWhitespace c then .ok (.again (start + 1))
    else
      let stop := passRegular text start
      if stop = start then .error .standstill
      else (slice text start stop).map fun word ↦ .token (.word word) stop

variable {text}

theorem map_ne_again {α : Type} (x : Except Slip α) {f : α → Look} {pos : ℕ}
    (hf : ∀ a, f a ≠ .again pos) : x.map f ≠ .ok (.again pos) := by
  cases x with
  | error slip => exact fun h ↦ by cases h
  | ok a => exact fun h ↦ hf a (Except.ok.inj h)

theorem lt_of_look {start pos : ℕ} (h : look text start = .ok (.again pos)) :
    start < pos ∧ start < text.utf8ByteSize := by
  unfold look at h
  split at h
  · cases h
  · cases h
  · next hc =>
    refine ⟨?_, lt_of_charAt? hc⟩
    obtain rfl := Look.again.inj (Except.ok.inj h)
    exact Nat.le_add_right _ _
  · exact absurd h (map_ne_again _ (by simp))
  · split at h
    · cases h
    · split at h
      · cases h
      · exact absurd h (map_ne_again _ (by simp))
  · split at h <;> cases h
  iterate 5 cases h
  · exact absurd h (map_ne_again _ (by simp))
  · next hc =>
    split at h
    · obtain rfl := Look.again.inj (Except.ok.inj h)
      exact ⟨Nat.lt_succ_self _, lt_of_charAt? hc⟩
    · simp only at h
      split at h
      · cases h
      · exact absurd h (map_ne_again _ (by simp))

variable (text)

def next (pos : ℕ) : Except Slip (Option Lexeme × ℕ) :=
  match _h : look text pos with
  | .error slip => .error slip
  | .ok .ended => .ok (none, pos)
  | .ok (.token t stop) => .ok (some ⟨pos, t, stop⟩, stop)
  | .ok (.again pos') => next pos'
termination_by text.utf8ByteSize - pos
decreasing_by have := lt_of_look _h; omega

def calls : ℕ → Except Slip (List (Option Lexeme) × ℕ)
  | 0 => .ok ([], 0)
  | n + 1 => do
    let (answers, pos) ← calls n
    let (answer, after) ← next text pos
    return (answers ++ [answer], after)

end ShownText.PostScript.Scanner
