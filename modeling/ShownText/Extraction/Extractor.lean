import ShownText.Charset.Decode
import ShownText.Charset.Label
import ShownText.Extraction.Source
import ShownText.Extraction.Traced
import ShownText.PostScript.Shown
import ShownText.Record

namespace ShownText

abbrev Params := OrderedMap String String

def resource? (params : Option Params) : Option String :=
  params.bind (·.get? Record.resourceNameKey)

def resourceLabel (params : Option Params) : String := (resource? params).getD "-"

structure Extractor where
  name : String
  weight : Int
  /-- Fails with `Fault.noText` if the document holds no text that the extractor can find. -/
  extract : Source → Option Params → Traced Record

def Extractor.defaultWeight : Int := 1

def defaultEncoding : String := "UTF-8"

def charsetOf (label : String) : Except Fault Charset :=
  match Charset.ofLabel? label with
  | some charset => .ok charset
  | none => .error (.unknownCharset label)

variable [Charset.LegacyDecoders]

def decodeText (label : String) (bytes : List UInt8) : Traced String :=
  match charsetOf label with
  | .error fault => .fail fault
  | .ok charset =>
    let decoded := charset.decode bytes
    ⟨.ok decoded.text, if decoded.malformed then [.malformed charset] else []⟩

structure PostScriptExtractor where
  encoding : String := defaultEncoding
  deriving DecidableEq, Repr

namespace PostScriptExtractor

def weight : Int := 10

def failure : String := "Failed to extract text from PostScript content."

def nothingShown : Fault := .noText "No text found in PostScript content."

def extractText (_ : PostScriptExtractor) (source : String) : String :=
  " ".intercalate (PostScript.shownStrings source)

def extract (e : PostScriptExtractor) (bytes : List UInt8) (params : Option Params) :
    Traced Record := do
  let source ← (decodeText e.encoding bytes).mapFault (.failed failure)
  let shown := PostScript.shownStrings source
  .report (.scanned (resourceLabel params) bytes.length shown.length)
  let text := " ".intercalate shown
  if text.isEmpty then .fail nothingShown else return .ofContent text

def extractFrom (e : PostScriptExtractor) (source : Source) (params : Option Params) :
    Traced Record :=
  match source.readToEnd with
  | .ok bytes => e.extract bytes params
  | .error reason => .fail (.failedOutside failure reason)

def toExtractor (e : PostScriptExtractor) : Extractor := ⟨"ps", weight, e.extractFrom⟩

end PostScriptExtractor

structure PlainTextExtractor where
  encoding : String := defaultEncoding
  deriving DecidableEq, Repr

namespace PlainTextExtractor

def failure (e : PlainTextExtractor) : String :=
  "Failed to extract text content (encoding: " ++ e.encoding ++ ")"

def extract (e : PlainTextExtractor) (bytes : List UInt8) (params : Option Params) :
    Traced Record := do
  let content ← (decodeText e.encoding bytes).mapFault (.failed e.failure)
  .report (.decoded (resourceLabel params) bytes.length)
  return .ofContent content

def extractFrom (e : PlainTextExtractor) (source : Source) (params : Option Params) :
    Traced Record :=
  match source.readToEnd with
  | .ok bytes => e.extract bytes params
  | .error reason => .fail (.failed e.failure (.unreadable reason))

def toExtractor (e : PlainTextExtractor) : Extractor :=
  ⟨"text", Extractor.defaultWeight, e.extractFrom⟩

end PlainTextExtractor

end ShownText
