namespace ShownText

inductive Fault
  | noText (message : String)
  | failed (message : String) (cause : Fault)
  /-- It failed for a reason from outside, which may have reasons of its own. -/
  | failedOutside (message reason : String) (deeper : List String := [])
  | unknownCharset (label : String)
  | noExtractor (mime : String)
  | unreadable (reason : String)
  deriving DecidableEq, Repr

namespace Fault

def message : Fault → String
  | .noText message => message
  | .failed message _ => message
  | .failedOutside message .. => message
  | .unknownCharset label => "unsupported encoding: " ++ label
  | .noExtractor mime => "no extractor registered for " ++ mime
  | .unreadable reason => "io error: " ++ reason

def causes : Fault → List String
  | .failed _ cause => cause.message :: cause.causes
  | .failedOutside _ reason deeper => reason :: deeper
  | .unreadable reason => [reason]
  | .noText _ | .unknownCharset _ | .noExtractor _ => []

/-- Whether another extractor may be tried. A cause inside the fault does not count. -/
def allowsFallback : Fault → Bool
  | .noText _ => true
  | _ => false

def withCauses (f : Fault) : String := ": ".intercalate (f.message :: f.causes)

end Fault

end ShownText
