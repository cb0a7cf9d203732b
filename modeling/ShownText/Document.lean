import ShownText.Extraction.Extractor
import ShownText.FileSystem

namespace ShownText

abbrev Collect := (List UInt8 → Traced String) → List (List UInt8) → List (Traced String)

structure Refusal where
  reason : String
  deeper : List String := []
  deriving DecidableEq, Repr

/-- The threads of a machine. What is relied on is that they give results in the order of the
documents, whichever is done first. -/
structure ThreadPools where
  offered : Option Nat
  build : Nat → Except Refusal Collect
  inOrder : ∀ {n collect}, build n = .ok collect → ∀ f documents, collect f documents =
    documents.map f

namespace Document

variable [Charset.LegacyDecoders]

def record (e : PostScriptExtractor) (bytes : List UInt8) (params : Option Params) :
    Traced Record :=
  e.extract bytes params

def text (e : PostScriptExtractor) (bytes : List UInt8) : Traced String := do
  let r ← record e bytes none
  return r.content.getD ""

/-- As many threads as were asked for, or else as many as the machine offers, and at least one. -/
def threadCount (offered asked : Option Nat) : Nat := max (asked.getD (offered.getD 1)) 1

def poolFailure (refusal : Refusal) : Fault :=
  .failedOutside "failed to build extraction thread pool" refusal.reason refusal.deeper

def textsOn (pools : ThreadPools) (e : PostScriptExtractor) (threads : Option Nat)
    (documents : List (List UInt8)) : Except Fault (List (Traced String)) :=
  match pools.build (threadCount pools.offered threads) with
  | .error refusal => .error (poolFailure refusal)
  | .ok collect =>
    .ok (collect
      (fun bytes ↦ do
        let r ← e.extract bytes none
        return r.content.getD "")
      documents)

def textOfFile (e : PostScriptExtractor) (fs : FileSystem) (path : SystemText) : Traced String :=
  match fs.map path with
  | .error error => .fail (.unreadable error.message)
  | .ok bytes => do
    let r ← record e bytes (some (.ofList [(Record.resourceNameKey, path.shown)]))
    return r.content.getD ""

end Document

end ShownText
