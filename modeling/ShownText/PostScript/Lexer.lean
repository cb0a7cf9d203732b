import ShownText.PostScript.Hex
import ShownText.PostScript.Literal
import ShownText.PostScript.Token

namespace ShownText.PostScript

open Text

def skipBlanks (inComment : Bool) (offset : Nat) : List Char → Cursor
  | [] => ⟨offset, []⟩
  | c :: cs =>
    if inComment then skipBlanks (!isLineEnd c) (offset + c.utf8Size) cs
    else if c = '%' then skipBlanks true (offset + c.utf8Size) cs
    else if isWhitespace c then skipBlanks false (offset + c.utf8Size) cs
    else ⟨offset, c :: cs⟩

theorem length_skipBlanks_le (inComment : Bool) (offset : Nat) (cs : List Char) :
    (skipBlanks inComment offset cs).rest.length ≤ cs.length := by
  induction cs generalizing inComment offset with
  | nil => simp [skipBlanks]
  | cons c cs ih =>
    rw [skipBlanks]
    split
    · exact Nat.le_succ_of_le (ih _ _)
    split
    · exact Nat.le_succ_of_le (ih _ _)
    split
    · exact Nat.le_succ_of_le (ih _ _)
    · exact Nat.le_refl _

def Token.read (first : Char) (after : Cursor) : Token × Cursor :=
  match first with
  | '(' => (Literal.read after).map .string id
  | '<' =>
    match after.rest with
    | [] => (.stray '<', after)
    | '<' :: _ => (.bracket .openDict, after.skipOne)
    | _ => (Hex.read after).map .string id
  | '>' =>
    match after.rest with
    | '>' :: _ => (.bracket .closeDict, after.skipOne)
    | _ => (.stray '>', after)
  | '[' => (.bracket .openArray, after)
  | ']' => (.bracket .closeArray, after)
  | '\x7b' => (.bracket .openProc, after)
  | '\x7d' => (.bracket .closeProc, after)
  | ')' => (.stray ')', after)
  | '/' => (.name (String.ofList (after.rest.takeWhile isRegular)), after.skipWhile isRegular)
  | _ =>
    (.word (String.ofList (first :: after.rest.takeWhile isRegular)), after.skipWhile isRegular)

theorem Token.length_read_le (first : Char) (after : Cursor) :
    (Token.read first after).2.rest.length ≤ after.rest.length := by
  unfold Token.read
  split
  · exact Literal.length_read_le after
  · split
    · exact Nat.le_refl _
    · exact after.length_skipOne_le
    · exact Hex.length_read_le after
  · split
    · exact after.length_skipOne_le
    · exact Nat.le_refl _
  · exact Nat.le_refl _
  · exact Nat.le_refl _
  · exact Nat.le_refl _
  · exact Nat.le_refl _
  · exact Nat.le_refl _
  · exact after.length_skipWhile_le _
  · exact after.length_skipWhile_le _

structure Lexeme where
  start : Nat
  token : Token
  stop : Nat
  deriving DecidableEq, Repr

def readHere : Cursor → Option Lexeme × Cursor
  | ⟨offset, []⟩ => (none, ⟨offset, []⟩)
  | ⟨offset, first :: cs⟩ =>
    let read := Token.read first ⟨offset + first.utf8Size, cs⟩
    (some ⟨offset, read.1, read.2.offset⟩, read.2)

def next (c : Cursor) : Option Lexeme × Cursor := readHere (skipBlanks false c.offset c.rest)

theorem length_readHere_lt {c after : Cursor} {lexeme : Lexeme}
    (h : readHere c = (some lexeme, after)) : after.rest.length < c.rest.length := by
  obtain ⟨offset, _ | ⟨first, cs⟩⟩ := c
  · simp [readHere] at h
  · simp only [readHere, Prod.mk.injEq] at h
    rw [← h.2]
    exact Nat.lt_succ_of_le (Token.length_read_le first _)

theorem length_next_lt {c after : Cursor} {lexeme : Lexeme} (h : next c = (some lexeme, after)) :
    after.rest.length < c.rest.length :=
  Nat.lt_of_lt_of_le (length_readHere_lt h) (length_skipBlanks_le false c.offset c.rest)

def lexemesOnto (read : Array Lexeme) (c : Cursor) : Array Lexeme :=
  match _h : next c with
  | (none, _) => read
  | (some lexeme, after) => lexemesOnto (read.push lexeme) after
termination_by c.rest.length
decreasing_by exact length_next_lt _h

def lexemes (c : Cursor) : List Lexeme := (lexemesOnto #[] c).toList

theorem toList_lexemesOnto (read : Array Lexeme) (c : Cursor) :
    (lexemesOnto read c).toList = read.toList ++ lexemes c := by
  unfold lexemes
  suffices ∀ n (read : Array Lexeme) (c : Cursor), c.rest.length ≤ n →
      (lexemesOnto read c).toList = read.toList ++ (lexemesOnto #[] c).toList from
    this _ read c (Nat.le_refl _)
  intro n
  induction n with
  | zero =>
    intro read c hc
    rw [lexemesOnto, lexemesOnto]
    split
    · simp
    · rename_i h
      exact absurd (length_next_lt h) (by omega)
  | succ n ih =>
    intro read c hc
    rw [lexemesOnto, lexemesOnto]
    split
    · simp
    · rename_i lexeme after h
      have := length_next_lt h
      rw [ih _ after (by omega), ih (#[].push lexeme) after (by omega)]
      simp

theorem lexemes_eq (c : Cursor) :
    lexemes c = match next c with
      | (none, _) => []
      | (some lexeme, after) => lexeme :: lexemes after := by
  rw [lexemes, lexemesOnto]
  split
  · rename_i h; simp [h]
  · rename_i h; simp [h, toList_lexemesOnto]

def tokens (text : String) : List Token := (lexemes (Cursor.ofString text)).map Lexeme.token

end ShownText.PostScript
