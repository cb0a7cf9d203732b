import ShownText.Json.Basic
import ShownText.Text.HexDigit
import ShownText.Text.Surrogate

namespace ShownText.Json

open Text

def isBlank (c : Char) : Bool := c == ' ' || c == '\n' || c == '\r' || c == '\t'

def skipBlanks (cs : List Char) : List Char := cs.dropWhile isBlank

inductive Piece
  | char (c : Char)
  | unit (code : Nat)
  deriving DecidableEq, Repr

def unit? (a b c d : Char) : Option Nat := do
  return (((← hexDigit? a) * 16 + (← hexDigit? b)) * 16 + (← hexDigit? c)) * 16 + (← hexDigit? d)

def unescape? (c : Char) : Option Char :=
  match c with
  | '"' | '\\' | '/' => some c
  | 'b' => some '\x08'
  | 'f' => some '\x0c'
  | 'n' => some '\n'
  | 'r' => some '\r'
  | 't' => some '\t'
  | _ => none

def readPieces (read : List Piece) : List Char → Option (List Piece × List Char)
  | [] => none
  | '"' :: cs => some (read, cs)
  | '\\' :: 'u' :: a :: b :: c :: d :: cs =>
    match unit? a b c d with
    | some code => readPieces (.unit code :: read) cs
    | none => none
  | '\\' :: e :: cs =>
    match unescape? e with
    | some c => readPieces (.char c :: read) cs
    | none => none
  | c :: cs => if c < ' ' then none else readPieces (.char c :: read) cs

/-- The text of the pieces. None if a surrogate has no partner. -/
def joinPieces (text : List Char) : List Piece → Option (List Char)
  | [] => some text.reverse
  | .char c :: pieces => joinPieces (c :: text) pieces
  | .unit code :: pieces =>
    if isHighSurrogate code then
      match pieces with
      | .unit low :: pieces =>
        if isLowSurrogate low then joinPieces (joinSurrogates code low :: text) pieces else none
      | _ => none
    else if isLowSurrogate code then none
    else joinPieces (Char.ofNat code :: text) pieces

def readString (cs : List Char) : Option (Option String × List Char) :=
  (readPieces [] cs).map fun (pieces, cs) ↦
    ((joinPieces [] pieces.reverse).map String.ofList, cs)

def readDigits (cs : List Char) : Option (List Char × List Char) :=
  if (cs.takeWhile Char.isDigit).isEmpty then none
  else some (cs.takeWhile Char.isDigit, cs.dropWhile Char.isDigit)

def readInteger : List Char → Option (List Char × List Char)
  | '0' :: cs => some (['0'], cs)
  | cs => readDigits cs

def readFraction : List Char → Option (List Char × List Char)
  | '.' :: cs => (readDigits cs).map fun (digits, cs) ↦ ('.' :: digits, cs)
  | cs => some ([], cs)

def readSign : List Char → List Char × List Char
  | '+' :: cs => (['+'], cs)
  | '-' :: cs => (['-'], cs)
  | cs => ([], cs)

def readExponent : List Char → Option (List Char × List Char)
  | c :: cs =>
    if c == 'e' || c == 'E' then
      (readDigits (readSign cs).2).map fun (digits, rest) ↦ (c :: (readSign cs).1 ++ digits, rest)
    else some ([], c :: cs)
  | [] => some ([], [])

def readUnsigned (cs : List Char) : Option (List Char × List Char) := do
  let (integer, cs) ← readInteger cs
  let (fraction, cs) ← readFraction cs
  let (exponent, cs) ← readExponent cs
  return (integer ++ fraction ++ exponent, cs)

def readNumber : List Char → Option (List Char × List Char)
  | '-' :: cs => (readUnsigned cs).map fun (digits, cs) ↦ ('-' :: digits, cs)
  | cs => readUnsigned cs

def readName : List Char → Option (Option String × List Char)
  | '"' :: cs => do
    let (name, cs) ← readString cs
    match skipBlanks cs with
    | ':' :: cs => return (name, cs)
    | _ => none
  | _ => none

mutual

def readValue : Nat → List Char → Option (Json × List Char)
  | 0, _ => none
  | fuel + 1, cs =>
    match skipBlanks cs with
    | 'n' :: 'u' :: 'l' :: 'l' :: cs => some (.null, cs)
    | 't' :: 'r' :: 'u' :: 'e' :: cs => some (.bool true, cs)
    | 'f' :: 'a' :: 'l' :: 's' :: 'e' :: cs => some (.bool false, cs)
    | '"' :: cs => (readString cs).map fun (text, cs) ↦ (.string text, cs)
    | '[' :: cs =>
      match skipBlanks cs with
      | ']' :: cs => some (.array [], cs)
      | cs => (readItems fuel cs).map fun (items, cs) ↦ (.array items, cs)
    | '\x7b' :: cs =>
      match skipBlanks cs with
      | '\x7d' :: cs => some (.object [], cs)
      | cs => (readMembers fuel cs).map fun (members, cs) ↦ (.object members, cs)
    | cs => (readNumber cs).map fun (digits, cs) ↦ (.number (String.ofList digits), cs)

def readItems : Nat → List Char → Option (List Json × List Char)
  | 0, _ => none
  | fuel + 1, cs => do
    let (item, cs) ← readValue fuel cs
    match skipBlanks cs with
    | ']' :: cs => return ([item], cs)
    | ',' :: cs =>
      let (items, cs) ← readItems fuel cs
      return (item :: items, cs)
    | _ => none

def readMembers : Nat → List Char → Option (List (Option String × Json) × List Char)
  | 0, _ => none
  | fuel + 1, cs => do
    let (name, cs) ← readName (skipBlanks cs)
    let (value, cs) ← readValue fuel cs
    match skipBlanks cs with
    | '\x7d' :: cs => return ([(name, value)], cs)
    | ',' :: cs =>
      let (members, cs) ← readMembers fuel cs
      return ((name, value) :: members, cs)
    | _ => none

end

/-- The value of a text that holds one value and nothing else. A character allows at most two
steps of nesting, which bounds the recursion. -/
def parse? (text : String) : Option Json :=
  let cs := text.toList
  match readValue (2 * cs.length + 2) cs with
  | some (value, rest) => if (skipBlanks rest).isEmpty then some value else none
  | none => none

end ShownText.Json
