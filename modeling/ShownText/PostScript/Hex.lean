import ShownText.PostScript.Character
import ShownText.Text.Cursor
import ShownText.Text.HexDigit
import ShownText.Text.Offset

namespace ShownText.PostScript

open Text

namespace Hex

def pair? (high low : Char) : Option Char := do
  return Char.ofNat (16 * (← hexDigit? high) + (← hexDigit? low))

def pairs : List Char → List (Char × Char)
  | high :: low :: digits => (high, low) :: pairs digits
  | [high] => [(high, '0')]
  | [] => []

def decode (digits : List Char) : String :=
  String.ofList ((pairs digits).filterMap fun p ↦ pair? p.1 p.2)

def read (c : Cursor) : String × Cursor :=
  (decode ((c.rest.takeWhile (· != '>')).filter fun d ↦ !isWhitespace d),
    (c.skipWhile (· != '>')).skipOne)

theorem length_read_le (c : Cursor) : (read c).2.rest.length ≤ c.rest.length :=
  Nat.le_trans (Cursor.length_skipOne_le _) (Cursor.length_skipWhile_le _ c)

/-- The value and the end of the hexadecimal string whose inside begins at an offset. Where no
character can be read, one more byte is passed if there is one. -/
def readFrom (text : String) (start : Nat) : String × Nat :=
  match (Cursor.ofString text).skipBytes? start with
  | some c => let (value, after) := read c; (value, after.offset)
  | none => ("", if start < (Cursor.ofString text).stop then start + 1 else start)

/-- The value and the end of the hexadecimal string that opens at an offset. The character there
is not looked at. -/
def readAt (text : String) (opening : Nat) : String × Nat := readFrom text (opening + 1)

def decodeAt (mode : Overflow) (text : String) (opening : UInt64) : Option (String × Nat) :=
  (mode.next? opening).map (readFrom text)

end Hex

end ShownText.PostScript
