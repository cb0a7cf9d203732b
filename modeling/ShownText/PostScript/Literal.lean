import ShownText.Text.Cursor
import ShownText.Text.Offset

namespace ShownText.PostScript

open Text

def octalDigit? (c : Char) : Option Nat :=
  if '0' ≤ c ∧ c ≤ '7' then some (c.toNat - '0'.toNat) else none

namespace Literal

inductive Mode
  | plain
  | escape
  /-- An octal escape that up to `more` further digits may continue. -/
  | octal (code more : Nat)
  /-- An escaped CR, which takes a directly following LF with it. -/
  | lineEnd
  deriving DecidableEq, Repr

/-- A literal read so far: `depth` inner parentheses are open and `value` is in reverse. -/
structure Partial where
  depth : Nat
  mode : Mode
  value : List Char
  deriving DecidableEq, Repr

namespace Partial

def start : Partial := ⟨0, .plain, []⟩

def push (p : Partial) (c : Char) : Partial := ⟨p.depth, .plain, c :: p.value⟩

def settle (p : Partial) : Partial :=
  match p.mode with
  | .octal code _ => p.push (Char.ofNat code)
  | _ => { p with mode := .plain }

def readPlain (p : Partial) (c : Char) : Option Partial :=
  match c with
  | '\\' => some { p with mode := .escape }
  | '(' => some ⟨p.depth + 1, .plain, c :: p.value⟩
  | ')' => if p.depth = 0 then none else some ⟨p.depth - 1, .plain, c :: p.value⟩
  | _ => some (p.push c)

def readEscaped (p : Partial) (c : Char) : Partial :=
  match c with
  | 'n' => p.push '\n'
  | 'r' => p.push '\r'
  | 't' => p.push '\t'
  | 'b' => p.push '\x08'
  | 'f' => p.push '\x0c'
  | '\r' => { p with mode := .lineEnd }
  | '\n' => { p with mode := .plain }
  | _ =>
    match octalDigit? c with
    | some digit => { p with mode := .octal digit 2 }
    | none => p.push c

/-- None if the character closes the literal. -/
def read (p : Partial) (c : Char) : Option Partial :=
  match p.mode with
  | .plain => p.readPlain c
  | .escape => some (p.readEscaped c)
  | .lineEnd => if c = '\n' then some p.settle else p.settle.readPlain c
  | .octal code more =>
    match octalDigit? c, more with
    | some digit, 1 => some (p.push (Char.ofNat (code * 8 + digit)))
    | some digit, more + 1 => some { p with mode := .octal (code * 8 + digit) more }
    | _, _ => p.settle.readPlain c

def finish (p : Partial) : String := String.ofList p.settle.value.reverse

end Partial

def close? (p : Partial) (offset : Nat) : List Char → Option (String × Cursor)
  | [] => none
  | c :: cs =>
    match p.read c with
    | none => some (p.finish, ⟨offset + c.utf8Size, cs⟩)
    | some p => close? p (offset + c.utf8Size) cs

def read (c : Cursor) : String × Cursor :=
  (close? .start c.offset c.rest).getD ("", c.toEnd)

theorem length_le_of_close? {p : Partial} {offset : Nat} {cs : List Char} {value : String}
    {after : Cursor} (h : close? p offset cs = some (value, after)) :
    after.rest.length ≤ cs.length := by
  induction cs generalizing p offset with
  | nil => simp [close?] at h
  | cons c cs ih =>
    rw [close?] at h
    split at h
    · simp only [Option.some.injEq, Prod.mk.injEq] at h
      simp [← h.2]
    · exact Nat.le_succ_of_le (ih h)

theorem length_read_le (c : Cursor) : (read c).2.rest.length ≤ c.rest.length := by
  unfold read
  cases h : close? .start c.offset c.rest with
  | none => simp [Cursor.toEnd]
  | some r => exact length_le_of_close? h

def readFrom (text : String) (start : Nat) : String × Nat :=
  match (Cursor.ofString text).skipBytes? start with
  | some c => let (value, after) := read c; (value, after.offset)
  | none => ("", (Cursor.ofString text).stop)

/-- The value and the end of the literal that opens at an offset. The character there is not
looked at. -/
def readAt (text : String) (opening : Nat) : String × Nat := readFrom text (opening + 1)

/-- The same for an offset of the machine, none if the program stops. -/
def decodeAt (mode : Overflow) (text : String) (opening : UInt64) : Option (String × Nat) :=
  (mode.next? opening).map (readFrom text)

end Literal

end ShownText.PostScript
