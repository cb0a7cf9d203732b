import ShownText.Charset.Basic
import ShownText.Extraction.Fault

namespace ShownText

inductive Level
  | debug
  | warn
  deriving DecidableEq, Repr

def Level.name : Level → String
  | .debug => "DEBUG"
  | .warn => "WARN"

inductive Event
  | malformed (charset : Charset)
  | scanned (resource : String) (bytes strings : Nat)
  | decoded (resource : String) (bytes : Nat)
  | fallback (fault : Fault) (extractor resource : String)
  deriving DecidableEq, Repr

namespace Event

def level : Event → Level
  | .malformed _ | .scanned .. | .decoded .. => .debug
  | .fallback .. => .warn

def message : Event → String
  | .malformed _ => "replaced malformed input sequences"
  | .scanned .. => "scanned PostScript content"
  | .decoded .. => "decoded text content"
  | .fallback fault _ _ => fault.message ++ " Trying next extractor."

def line (e : Event) : String := e.level.name ++ " " ++ e.message ++ "\n"

end Event

end ShownText
