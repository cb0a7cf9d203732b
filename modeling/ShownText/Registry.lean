import ShownText.Extraction.Extractor
import ShownText.Registry.MediaType
import ShownText.Text.Quoted

namespace ShownText

/-- The extractors of each media type in the order in which they were added. -/
structure Registry where
  table : OrderedMap String (List Extractor)

namespace Registry

def empty : Registry := ⟨∅⟩

instance : Inhabited Registry := ⟨empty⟩

def add (r : Registry) (mime : String) (e : Extractor) : Registry :=
  ⟨r.table.upsert (MediaType.canonical mime) fun added ↦ added.getD [] ++ [e]⟩

def addAll (r : Registry) (entries : List (String × Extractor)) : Registry :=
  entries.foldl (fun r entry ↦ r.add entry.1 entry.2) r

def standard [Charset.LegacyDecoders] : Registry :=
  let postScript := (PostScriptExtractor.mk defaultEncoding).toExtractor
  let plainText := (PlainTextExtractor.mk defaultEncoding).toExtractor
  empty.addAll [(MediaType.postScript, postScript), (MediaType.postScript, plainText),
    (MediaType.plainText, plainText)]

def mediaTypes (r : Registry) : List String := r.table.keys

/-- The extractors of a media type, the heaviest first. Equal weights keep their order. -/
def extractorsFor (r : Registry) (mime : String) : List Extractor :=
  ((r.table.get? (MediaType.canonical mime)).getD []).mergeSort fun a b ↦
    decide (b.weight ≤ a.weight)

def preferred? (r : Registry) (mime : String) : Option Extractor := (r.extractorsFor mime).head?

/-- Tries extractors in turn, each on the whole input, and ends with `last` if none is left. -/
def tryInTurn (bytes : List UInt8) (params : Option Params) (last : Fault) :
    List Extractor → Traced Record
  | [] => .fail last
  | e :: others =>
    let answer := e.extract (.ofBytes bytes) params
    match answer.outcome with
    | .ok _ => answer
    | .error fault =>
      if fault.allowsFallback then
        let later := tryInTurn bytes params fault others
        ⟨later.outcome,
          answer.log ++ .fallback fault e.name (resourceLabel params) :: later.log⟩
      else answer

def extract (r : Registry) (mime : String) (bytes : List UInt8) (params : Option Params) :
    Traced Record :=
  tryInTurn bytes params (.noExtractor mime) (r.extractorsFor mime)

def describe (r : Registry) : String :=
  let names (es : List Extractor) := ", ".intercalate (es.map (Text.Quoted.encode ·.name))
  let entries := r.table.entries.map fun (mime, es) ↦
    Text.Quoted.encode mime ++ ": [" ++ names es ++ "]"
  "\x7b" ++ ", ".intercalate entries ++ "\x7d"

end Registry

end ShownText
