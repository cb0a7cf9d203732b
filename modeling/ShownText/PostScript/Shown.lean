import ShownText.PostScript.Lexer
import ShownText.PostScript.Number
import ShownText.PostScript.PaintingOperator

namespace ShownText.PostScript

/-- The strings waiting for an operator, the last read first, and those shown so far. -/
structure Showing where
  waiting : List String
  shown : Array String
  deriving DecidableEq, Repr

namespace Showing

def start : Showing := ⟨[], #[]⟩

def applyWord (s : Showing) (word : String) : Showing :=
  match PaintingOperator.ofName? word, s.waiting with
  | some _, top :: below => ⟨below, s.shown.push top⟩
  | _, _ => if isNumber word then s else ⟨[], s.shown⟩

def accept (s : Showing) : Token → Showing
  | .string value => ⟨value :: s.waiting, s.shown⟩
  | .name _ | .bracket _ | .stray _ => s
  | .word text => s.applyWord text

def acceptAll (s : Showing) (tokens : List Token) : Showing := tokens.foldl accept s

theorem acceptAll_append (s : Showing) (xs ys : List Token) :
    s.acceptAll (xs ++ ys) = (s.acceptAll xs).acceptAll ys := List.foldl_append

def text (s : Showing) : String := " ".intercalate s.shown.toList

end Showing

def showing (source : String) : Showing := Showing.start.acceptAll (tokens source)

def shownStrings (source : String) : List String := (showing source).shown.toList

def shownText (source : String) : String := (showing source).text

end ShownText.PostScript
