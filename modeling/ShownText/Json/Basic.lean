namespace ShownText

inductive Json
  | null
  | bool (value : Bool)
  | number (text : String)
  /-- None stands for a string with an escape of half a surrogate pair, which no text can hold. -/
  | string (text : Option String)
  | array (items : List Json)
  | object (members : List (Option String × Json))
  deriving Repr

namespace Json

def ofString (text : String) : Json := .string (some text)

def ofStrings (texts : List String) : Json := .array (texts.map ofString)

def ofMembers (members : List (String × Json)) : Json :=
  .object (members.map fun m ↦ (some m.1, m.2))

end Json

end ShownText
