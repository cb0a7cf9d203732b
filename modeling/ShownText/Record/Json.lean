import ShownText.Json.Printer
import ShownText.Json.Reader
import ShownText.Record

namespace ShownText.Record

def contentToJson : Option String → Json
  | some content => .ofString content
  | none => .null

def metadataToJson (metadata : OrderedMap String (List String)) : Json :=
  .ofMembers (metadata.entries.map fun e ↦ (e.1, .ofStrings e.2))

def toJson (r : Record) : Json :=
  .ofMembers [("content", contentToJson r.content), ("metadata", metadataToJson r.metadata)]

def contentOfJson? : Json → Option (Option String)
  | .null => some none
  | .string (some content) => some (some content)
  | _ => none

def textOfJson? : Json → Option String
  | .string text => text
  | _ => none

def valuesOfJson? : Json → Option (List String)
  | .array items => items.mapM textOfJson?
  | _ => none

def metadataOfJson? : Json → Option (OrderedMap String (List String))
  | .object members => do
    let entries ← members.mapM fun m ↦ return (← m.1, ← valuesOfJson? m.2)
    return .ofList entries
  | _ => none

def membersNamed (name : String) (members : List (Option String × Json)) : List Json :=
  (members.filter (·.1 == some name)).map Prod.snd

/-- A part may be given once only, and all names must be texts. -/
def ofMembers? (members : List (Option String × Json)) : Option Record :=
  if members.all (·.1.isSome) then
    match membersNamed "content" members, membersNamed "metadata" members with
    | [], [metadata] => return ⟨none, ← metadataOfJson? metadata⟩
    | [content], [metadata] => return ⟨← contentOfJson? content, ← metadataOfJson? metadata⟩
    | _, _ => none
  else none

def ofJson? : Json → Option Record
  | .object members => ofMembers? members
  | .array [content, metadata] =>
    return ⟨← contentOfJson? content, ← metadataOfJson? metadata⟩
  | _ => none

def toJsonText (r : Record) : String := r.toJson.render

def ofJsonText? (text : String) : Option Record := (Json.parse? text).bind ofJson?

end ShownText.Record
