import ShownText.Command.Arguments
import ShownText.Document
import ShownText.Record.Json

namespace ShownText.Command

structure FileRecord where
  file : String
  data : Option Record
  error : Option String
  deriving Repr

def FileRecord.toJson (r : FileRecord) : Json :=
  let data := r.data.map fun data ↦ ("data", data.toJson)
  let error := r.error.map fun error ↦ ("error", Json.ofString error)
  .ofMembers (("file", .ofString r.file) :: (data.toList ++ error.toList))

/-- Hands the text of a JSON value over piece by piece. -/
structure JsonWriter where
  pieces : Json → List String
  join_pieces : ∀ value, String.join (pieces value) = value.render

inductive Verdict
  | shown (text : String)
  | nothingShown (message : String)
  | failed (message : String)
  deriving DecidableEq, Repr

namespace Verdict

def isFailure : Verdict → Bool
  | .failed _ => true
  | .shown _ | .nothingShown _ => false

def ofResult : Except Fault String → Verdict
  | .ok text => .shown text
  | .error fault =>
    if fault.allowsFallback then .nothingShown fault.message else .failed fault.withCauses

/-- That a file was not read counts before anything found in it. -/
def ofReading : Option String → Except Fault String → Verdict
  | some reason, _ => .failed reason
  | none, result => .ofResult result

def toFileRecord (path : String) : Verdict → FileRecord
  | .shown text =>
    ⟨path, some ((Record.ofContent text).addValue Record.resourceNameKey path), none⟩
  | .nothingShown message | .failed message => ⟨path, none, some message⟩

def pieces (writer : JsonWriter) (format : OutputFormat) (path : SystemText) (v : Verdict) :
    List String :=
  match format, v with
  | .text, .shown text => [text, "\n"]
  | .text, _ => []
  | .json, _ => writer.pieces (v.toFileRecord path.shown).toJson ++ ["\n"]

def complaint (path : SystemText) : Verdict → String
  | .shown _ => ""
  | .nothingShown message => "Warning: " ++ path.shown ++ ": " ++ message ++ "\n"
  | .failed message => "Error processing " ++ path.shown ++ ": " ++ message ++ "\n"

end Verdict

structure Inputs where
  contents : List (List UInt8)
  failures : List (Option String)
  deriving DecidableEq, Repr

namespace Inputs

def empty : Inputs := ⟨[], []⟩

/-- Puts a file before the others, of which either the bytes or the reason why it was not read is
known. -/
def cons (path : SystemText) (answer : Except String (List UInt8)) (inputs : Inputs) : Inputs :=
  match answer with
  | .ok bytes => ⟨bytes :: inputs.contents, none :: inputs.failures⟩
  | .error reason =>
    ⟨[] :: inputs.contents, some (path.shown ++ ": " ++ reason) :: inputs.failures⟩

end Inputs

def verdicts (results : List (Traced String)) (failures : List (Option String)) : List Verdict :=
  (results.zip failures).map fun (result, failure) ↦ .ofReading failure result.outcome

def indented (lead others text : String) : String :=
  lead ++ ("\n" ++ others).intercalate ((text.toList.splitOn '\n').map String.ofList)

def causeLines : List String → List String
  | [cause] => [indented "    " "    " cause]
  | causes => causes.mapIdx fun n cause ↦
    indented (String.ofList ((toString n).toList.leftpad 5 ' ') ++ ": ") "       " cause

def failureText (message : String) (causes : List String) : String :=
  let above := if causes = [] then "" else "\n\nCaused by:"
  "Error: " ++ message ++ above ++ String.join ((causeLines causes).map ("\n" ++ ·)) ++ "\n"

end ShownText.Command
