import Mathlib.Data.List.Forall2
import ShownText.Proofs.JsonText
import ShownText.Proofs.Reporting

namespace ShownText

namespace Json

def member? (name : String) : Json → Option Json
  | .object members => members.lookup (some name)
  | _ => none

end Json

namespace Command

def Verdict.text? : Verdict → Option String
  | .shown text => some text
  | .nothingShown _ | .failed _ => none

def content? (object : Json) : Option String :=
  ((object.member? "data").bind (·.member? "content")).bind Record.textOfJson?

theorem FileRecord.textual_toJson (r : FileRecord) : r.toJson.Textual := by
  obtain ⟨file, data, error⟩ := r
  apply Json.textual_ofMembers
  rw [List.forall_mem_cons, List.forall_mem_append]
  refine ⟨rfl, ?_, ?_⟩
  · cases data with
    | none => exact List.forall_mem_nil _
    | some data => exact List.forall_mem_singleton.mpr data.textual_toJson
  · cases error with
    | none => exact List.forall_mem_nil _
    | some error => exact List.forall_mem_singleton.mpr rfl

def linesOf (texts : List String) : String := String.join (texts.map (· ++ "\n"))

theorem outputOn_text (files : List (SystemText × Verdict)) :
    outputOn .text files = linesOf (files.filterMap (·.2.text?)) := by
  induction files with
  | nil => rfl
  | cons file files ih =>
    obtain ⟨path, v⟩ := file
    rw [outputOn, List.map_cons, String.join_cons, ← outputOn, ih]
    cases v with
    | shown text => exact String.join_cons.symm
    | nothingShown message => exact String.empty_append
    | failed message => exact String.empty_append

section Lines

variable [Charset.LegacyDecoders]

end Lines

open scoped Charset.LegacyDecoders.AsciiOnly

def noText : Machine := machineWith "a.ps" "(a) showpage"

end Command

end ShownText
