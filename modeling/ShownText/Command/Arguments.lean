import ShownText.Text.SystemText

namespace ShownText.Command

inductive OutputFormat
  | text
  | json
  deriving DecidableEq, Repr

def OutputFormat.ofName? : String → Option OutputFormat
  | "text" => some .text
  | "json" => some .json
  | _ => none

inductive Setting
  | outfile
  | codec
  | format
  | threads
  deriving DecidableEq, Repr

inductive Flag
  | debug
  | keepGoing
  | version
  | help (long : Bool)
  deriving DecidableEq, Repr

inductive Switch
  | setting (s : Setting)
  | flag (f : Flag)
  deriving DecidableEq, Repr

def Switch.ofLetter? : Char → Option Switch
  | 'o' => some (.setting .outfile)
  | 'c' => some (.setting .codec)
  | 't' => some (.setting .format)
  | 'j' => some (.setting .threads)
  | 'd' => some (.flag .debug)
  | 'v' => some (.flag .version)
  | 'h' => some (.flag (.help false))
  | _ => none

def Switch.ofName? : String → Option Switch
  | "outfile" => some (.setting .outfile)
  | "codec" => some (.setting .codec)
  | "output-type" => some (.setting .format)
  | "threads" => some (.setting .threads)
  | "debug" => some (.flag .debug)
  | "keep-going" => some (.flag .keepGoing)
  | "version" => some (.flag .version)
  | "help" => some (.flag (.help true))
  | _ => none

def readCount? (text : String) : Option Nat :=
  let digits := match text.toList with
    | '+' :: digits => digits
    | digits => digits
  if digits.isEmpty || !digits.all Char.isDigit then none
  else
    let n := Nat.ofDigitChars 10 digits 0
    if n < UInt64.size then some n else none

/-- What the arguments read so far have set. -/
structure Given where
  files : List SystemText := []
  outfile : Option String := none
  codec : Option String := none
  format : Option OutputFormat := none
  threads : Option Nat := none
  debug : Bool := false
  keepGoing : Bool := false
  deriving DecidableEq, Repr

inductive Stop
  | version
  | help (long : Bool)
  | misuse
  deriving DecidableEq, Repr

namespace Given

def addFile (g : Given) (file : SystemText) : Except Stop Given :=
  if file.bytes = [] then .error .misuse else .ok { g with files := g.files ++ [file] }

def set (g : Given) (s : Setting) (value : String) : Except Stop Given :=
  match s with
  | .outfile => if g.outfile.isSome then .error .misuse else .ok { g with outfile := value }
  | .codec => if g.codec.isSome then .error .misuse else .ok { g with codec := value }
  | .format =>
    match g.format, OutputFormat.ofName? value with
    | none, some format => .ok { g with format }
    | _, _ => .error .misuse
  | .threads =>
    match g.threads, readCount? value with
    | none, some threads => .ok { g with threads }
    | _, _ => .error .misuse

def setPlaces (g : Given) (s : Setting) (value : List Charset.Place) : Except Stop Given :=
  match SystemText.ofPlaces? value with
  | some value => g.set s value
  | none => .error .misuse

def raise (g : Given) : Flag → Except Stop Given
  | .version => .error .version
  | .help long => .error (.help long)
  | .debug => if g.debug then .error .misuse else .ok { g with debug := true }
  | .keepGoing => if g.keepGoing then .error .misuse else .ok { g with keepGoing := true }

/-- Reads letters after a single dash. A setting takes the rest as its value, or else waits for
the next argument. -/
def readLetters (g : Given) : List Charset.Place → Except Stop (Given × Option Setting)
  | [] => .ok (g, none)
  | c :: cs =>
    match c.bind Switch.ofLetter? with
    | none => .error .misuse
    | some (.flag f) => do (← g.raise f).readLetters cs
    | some (.setting s) =>
      match cs with
      | [] => .ok (g, some s)
      | some '=' :: value => do return (← g.setPlaces s value, none)
      | value => do return (← g.setPlaces s value, none)

def readName (g : Given) (cs : List Charset.Place) : Except Stop (Given × Option Setting) :=
  let name := SystemText.ofPlaces? (cs.takeWhile (· != some '='))
  match name.bind Switch.ofName?, cs.dropWhile (· != some '=') with
  | some (.flag f), [] => do return (← g.raise f, none)
  | some (.setting s), [] => .ok (g, some s)
  | some (.setting s), _ :: value => do return (← g.setPlaces s value, none)
  | _, _ => .error .misuse

def readArgument (g : Given) (argument : SystemText) : Except Stop (Given × Option Setting) :=
  match argument.places with
  | some '-' :: some '-' :: cs => g.readName cs
  | some '-' :: c :: cs => g.readLetters (c :: cs)
  | _ => do return (← g.addFile argument, none)

/-- Reads the arguments, while `waiting` is a setting whose value comes next. A value does not
begin with a dash unless it is one, and all is a file after two dashes. -/
def readAll (g : Given) (waiting : Option Setting) : List SystemText → Except Stop Given
  | [] => if waiting.isSome then .error .misuse else .ok g
  | argument :: arguments =>
    match waiting with
    | some s =>
      if argument.places.head? = some (some '-') ∧ argument.places ≠ [some '-'] then .error .misuse
      else do (← g.setPlaces s argument.places).readAll none arguments
    | none =>
      if argument.places = [some '-', some '-'] then arguments.foldlM addFile g
      else do
        let (g, waiting) ← g.readArgument argument
        g.readAll waiting arguments

end Given

structure Options where
  files : List SystemText
  outfile : String
  codec : String
  format : OutputFormat
  threads : Option Nat
  debug : Bool
  keepGoing : Bool
  deriving DecidableEq, Repr

def Given.toOptions (g : Given) : Except Stop Options :=
  if g.files.isEmpty then .error .misuse
  else .ok
    { files := g.files
      outfile := g.outfile.getD "-"
      codec := g.codec.getD "utf-8"
      format := g.format.getD .text
      threads := g.threads
      debug := g.debug
      keepGoing := g.keepGoing }

def readArguments (arguments : List SystemText) : Except Stop Options := do
  (← Given.readAll {} none arguments).toOptions

end ShownText.Command
