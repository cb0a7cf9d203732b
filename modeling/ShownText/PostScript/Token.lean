namespace ShownText.PostScript

inductive Bracket
  | openDict
  | closeDict
  | openArray
  | closeArray
  | openProc
  | closeProc
  deriving DecidableEq, Repr

inductive Token
  | string (value : String)
  | name (text : String)
  | bracket (kind : Bracket)
  /-- A closing parenthesis or an angle bracket that stands alone. -/
  | stray (c : Char)
  | word (text : String)
  deriving DecidableEq, Repr

end ShownText.PostScript
