import ShownText.Extraction.Extractor
import ShownText.Text.HexDigit

namespace ShownText

inductive Script
  | record (r : Record)
  | fault (f : Fault)
  | echo
  deriving Repr

namespace Script

def metadataOfParams (params : Option Params) : OrderedMap String (List String) :=
  let entries := (params.getD ∅).entries.mergeSort fun a b ↦ decide (a.1 ≤ b.1)
  .ofList (entries.map fun e ↦ (e.1, [e.2]))

def answer (script : Script) (bytes : List UInt8) (params : Option Params) : Traced Record :=
  match script with
  | .record r => pure r
  | .fault f => .fail f
  | .echo => pure
    ⟨some (String.ofList (bytes.flatMap Text.hexDigitsOfByte)), metadataOfParams params⟩

end Script

/-- Reads its input to the end, then follows its script. -/
def Extractor.scripted (name : String) (weight : Int) (script : Script) : Extractor where
  name := name
  weight := weight
  extract source params :=
    match source.readToEnd with
    | .ok bytes => script.answer bytes params
    | .error reason => .fail (.unreadable reason)

end ShownText
