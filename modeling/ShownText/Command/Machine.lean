import ShownText.Command.Run

namespace ShownText.Command

structure World where
  files : FileSystem
  stdout : Stream

def World.send (sink : Sink Nat) (text : String) (w : World) : Option FileError × World :=
  match sink with
  | .stdout =>
    let (error, stdout) := w.stdout.append text.toUTF8.toList
    (error, { w with stdout })
  | .file id =>
    let (error, files) := w.files.append id text.toUTF8.toList
    (error, { w with files })

def World.create (path : SystemText) (w : World) : Except String Nat × World :=
  match w.files.create path with
  | .ok (id, files) => (.ok id, { w with files })
  | .error error => (.error error.message, w)

def World.put (sink : Sink Nat) (text : String) (w : World) : Except String Unit × World :=
  match w.send sink text with
  | (none, w) => (.ok (), w)
  | (some error, w) => (.error error.message, w)

def worldAccess : Access (StateM World) Nat where
  read path := do return ((← get).files.read path).mapError FileError.message
  create path := ExceptT.mk (modifyGet (World.create path))
  append id text := ExceptT.mk (modifyGet (World.put (.file id) text))
  print text := ExceptT.mk (modifyGet (World.put .stdout text))

structure Machine extends Tools where
  files : FileSystem
  /-- What limits the output on stdout. -/
  stdout : Option Limit := none

def Machine.world (machine : Machine) : World := ⟨machine.files, { limit := machine.stdout }⟩

structure Run where
  code : UInt32
  stdout : List UInt8
  stderr : String
  files : FileSystem

def Run.ofExit (exit : Exit) (w : World) : Run := ⟨exit.code, w.stdout.bytes, exit.stderr, w.files⟩

section Runs

variable [Charset.LegacyDecoders] (machine : Machine)

def runOptions (options : Options) : Run :=
  let (exit, w) := (runWith worldAccess machine.toTools options).run machine.world
  .ofExit exit w

def runOn (arguments : List SystemText) : Run :=
  let (exit, w) := (run worldAccess machine.toTools arguments).run machine.world
  .ofExit exit w

end Runs

end ShownText.Command
