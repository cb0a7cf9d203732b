import ShownText.Command.Report

namespace ShownText.Command

/-- The operations on files and on stdout. A file that is open for writing is known by a handle, and
where writing fails, the reason is told. -/
structure Access (m : Type → Type) (Handle : Type) where
  read : SystemText → m (Except String (List UInt8))
  create : SystemText → ExceptT String m Handle
  append : Handle → String → ExceptT String m Unit
  print : String → ExceptT String m Unit

structure Manual where
  help (long : Bool) : String
  misuse (arguments : List SystemText) : String

structure Tools where
  pools : ThreadPools
  writer : JsonWriter
  manual : Manual

structure Exit where
  code : UInt32
  stderr : String
  deriving DecidableEq, Repr

def versionText : String := "ps2txt 0.3.0\n"

inductive Sink (Handle : Type)
  | stdout
  | file (handle : Handle)
  deriving DecidableEq, Repr

/-- What a run has come to. The buffer holds the part of the output that has not gone out. -/
structure Progress where
  buffer : String := ""
  stderr : String := ""
  failed : Bool := false
  deriving DecidableEq, Repr

namespace Progress

def add (p : Progress) (path : SystemText) (v : Verdict) (buffer : String) : Progress :=
  ⟨buffer, p.stderr ++ v.complaint path, p.failed || v.isFailure⟩

def exit (p : Progress) : Exit := ⟨if p.failed then 1 else 0, p.stderr⟩

def broken (p : Progress) (reason : String) : Exit := ⟨1, p.stderr ++ failureText reason []⟩

end Progress

def bufferSize : Nat := 8192

variable {m : Type → Type} [Monad m] {Handle : Type} (access : Access m Handle)

def readInputs : List SystemText → m Inputs
  | [] => return .empty
  | path :: paths => do
    let answer ← access.read path
    let inputs ← readInputs paths
    return .cons path answer inputs

def openSink (outfile : String) : ExceptT String m (Sink Handle) := do
  if outfile = "-" then return .stdout
  return .file (← access.create outfile)

section Output

variable (sink : Sink Handle)

def put (text : String) : ExceptT String m Unit :=
  match sink with
  | .stdout => access.print text
  | .file handle => access.append handle text

def makeRoom (piece buffer : String) : ExceptT String m String := do
  if bufferSize < buffer.utf8ByteSize + piece.utf8ByteSize then
    put access sink buffer
    return ""
  else return buffer

/-- Keeps a piece in the buffer, but one that fills the buffer by itself goes past it. -/
def write (buffer piece : String) : ExceptT String m String := do
  let buffer ← makeRoom access sink piece buffer
  if bufferSize ≤ piece.utf8ByteSize then
    put access sink piece
    return buffer
  else return buffer ++ piece

def finish (p : Progress) : m Exit := do
  match ← (put access sink p.buffer).run with
  | .ok () => return p.exit
  | .error reason => return p.broken reason

/-- Reports on the files in turn. The first failure ends the run, unless failures are passed
over, and so does output that cannot be written. -/
def reportAll (writer : JsonWriter) (options : Options) (p : Progress) :
    List (SystemText × Verdict) → m Exit
  | [] => finish access sink p
  | (path, v) :: files => do
    match ← ((v.pieces writer options.format path).foldlM (write access sink) p.buffer).run with
    | .error reason => return p.broken reason
    | .ok buffer =>
      if v.isFailure && !options.keepGoing then finish access sink (p.add path v buffer)
      else reportAll writer options (p.add path v buffer) files

end Output

variable [Charset.LegacyDecoders] (tools : Tools)

/-- All files are read and their texts extracted before the output is opened. A file that was not
read goes through extraction as an empty document. -/
def runWith (options : Options) : m Exit := do
  let inputs ← readInputs access options.files
  match Document.textsOn tools.pools ⟨options.codec⟩ options.threads inputs.contents with
  | .error fault => return ⟨1, failureText fault.message fault.causes⟩
  | .ok results =>
    let log := if options.debug then String.join (results.flatMap (·.log.map Event.line)) else ""
    let files := options.files.zip (verdicts results inputs.failures)
    match ← (openSink access options.outfile).run with
    | .error reason =>
      return ⟨1, log ++ failureText ("Failed to create output file " ++ options.outfile) [reason]⟩
    | .ok sink => reportAll access sink tools.writer options { stderr := log } files

def run (arguments : List SystemText) : m Exit := do
  match readArguments arguments with
  | .ok options => runWith access tools options
  | .error .version =>
    let _ ← (access.print versionText).run
    return ⟨0, ""⟩
  | .error (.help long) =>
    let _ ← (access.print (tools.manual.help long)).run
    return ⟨0, ""⟩
  | .error .misuse => return ⟨2, tools.manual.misuse arguments⟩

end ShownText.Command
