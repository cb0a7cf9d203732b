import ShownText.OrderedMap
import ShownText.Text.SystemText

namespace ShownText

inductive FileError
  | noSuchFile
  | permissionDenied
  | noDevice
  | notADirectory
  | isADirectory
  | noSpace
  | nameTooLong
  | tooManyLinks
  | zeroByte
  | other (message : String)
  deriving DecidableEq, Repr

def FileError.message : FileError → String
  | .noSuchFile => "No such file or directory (os error 2)"
  | .permissionDenied => "Permission denied (os error 13)"
  | .noDevice => "No such device (os error 19)"
  | .notADirectory => "Not a directory (os error 20)"
  | .isADirectory => "Is a directory (os error 21)"
  | .noSpace => "No space left on device (os error 28)"
  | .nameTooLong => "File name too long (os error 36)"
  | .tooManyLinks => "Too many levels of symbolic links (os error 40)"
  | .zeroByte => "file name contained an unexpected NUL byte"
  | .other message => message

structure Limit where
  room : Nat
  error : FileError
  deriving DecidableEq, Repr

structure Stream where
  bytes : List UInt8 := []
  limit : Option Limit := none
  deriving DecidableEq, Repr

def Stream.append (s : Stream) (bytes : List UInt8) : Option FileError × Stream :=
  match s.limit with
  | none => (none, { s with bytes := s.bytes ++ bytes })
  | some ⟨room, error⟩ =>
    (if bytes.length ≤ room then none else some error,
      ⟨s.bytes ++ bytes.take room, some ⟨room - bytes.length, error⟩⟩)

structure File where
  stream : Stream := {}
  /-- What can be read from a device, whatever is written to it. -/
  device : Option (List UInt8) := none
  unreadable : Option FileError := none
  unwritable : Option FileError := none
  deriving DecidableEq, Repr

namespace File

def ofBytes (bytes : List UInt8) : File := { stream := { bytes } }

def content (file : File) : List UInt8 := file.device.getD file.stream.bytes

def emptied (file : File) : File := { file with stream.bytes := [] }

end File

abbrev Location := List SystemText

structure Directory where
  unreadable : Option FileError := none
  /-- Why no part of a path can be followed from it. -/
  closed : Option FileError := none
  /-- Why no file can be created in it. -/
  sealed : Option FileError := none
  deriving DecidableEq, Repr

inductive Node
  /-- A name of a file, which may have others. -/
  | file (id : Nat)
  | directory (d : Directory)
  | link (target : SystemText)
  deriving DecidableEq, Repr

structure FileSystem where
  working : Location
  nodes : OrderedMap Location Node
  files : Nat → File
  limit : Option Limit := none

namespace FileSystem

def node? (fs : FileSystem) (location : Location) : Option Node := fs.nodes.get? location

def maxName : Nat := 255

def maxPath : Nat := 4095

def maxLinks : Nat := 40

def slash : UInt8 := 0x2F

def pathParts (path : SystemText) : Except FileError (List SystemText) :=
  if 0 ∈ path.bytes then .error .zeroByte
  else if path.bytes = [] then .error .noSuchFile
  else if maxPath < path.bytes.length then .error .nameTooLong
  else .ok ((path.bytes.splitOn slash).map SystemText.mk)

def start (here : Location) (path : SystemText) : Location :=
  if path.bytes.head? = some slash then [] else here

def empty : SystemText := ⟨[]⟩

def dot : SystemText := ⟨[0x2E]⟩

def dots : SystemText := ⟨[0x2E, 0x2E]⟩

inductive Step
  | place (location : Location)
  | link (target : SystemText)
  deriving DecidableEq, Repr

/-- Takes one part of a path in a directory. If the part is a name, it leads to the child. -/
def stepIn (d : Directory) (here : Location) (part : SystemText)
    (child : Except FileError Step) : Except FileError Step :=
  if part = empty then .ok (.place here)
  else
    match d.closed with
    | some error => .error error
    | none =>
      if part = dot then .ok (.place here)
      else if part = dots then .ok (.place here.dropLast)
      else child

section Walk

variable (fs : FileSystem) (creating : Bool)

/-- In creating a file, the last part of a path may be missing, but no slash may stand behind it. -/
def child (d : Directory) (here : Location) (name : SystemText) (parts : List SystemText) :
    Except FileError Step :=
  if creating ∧ parts ≠ [] ∧ ∀ p ∈ parts, p = empty then .error .isADirectory
  else if maxName < name.bytes.length then .error .nameTooLong
  else
    match fs.node? (here ++ [name]) with
    | some (.link target) => .ok (.link target)
    | some (.file _) | some (.directory _) => .ok (.place (here ++ [name]))
    | none =>
      if creating ∧ parts = [] then
        match d.sealed with
        | some error => .error error
        | none => .ok (.place (here ++ [name]))
      else .error .noSuchFile

def step (here : Location) (part : SystemText) (parts : List SystemText) : Except FileError Step :=
  match fs.node? here with
  | none => .error .noSuchFile
  | some (.file _) | some (.link _) => .error .notADirectory
  | some (.directory d) => stepIn d here part (fs.child creating d here part parts)

/-- Follows the parts of a path from a location. A link puts its own parts before those left. -/
def walk (follow : Location → List SystemText → Except FileError Location) (here : Location) :
    List SystemText → Except FileError Location
  | [] => .ok here
  | part :: parts =>
    match fs.step creating here part parts with
    | .error error => .error error
    | .ok (.place next) => walk follow next parts
    | .ok (.link target) => do follow (start here target) ((← pathParts target) ++ parts)

end Walk

def resolve (fs : FileSystem) (creating : Bool) :
    Nat → Location → List SystemText → Except FileError Location
  | 0 => fs.walk creating fun _ _ ↦ .error .tooManyLinks
  | links + 1 => fs.walk creating (fs.resolve creating links)

def locate (fs : FileSystem) (creating : Bool) (path : SystemText) : Except FileError Location := do
  fs.resolve creating maxLinks (start fs.working path) (← pathParts path)

/-- None for a directory. -/
def openFile (fs : FileSystem) (path : SystemText) : Except FileError (Option File) := do
  match fs.node? (← fs.locate false path) with
  | some (.file id) =>
    match (fs.files id).unreadable with
    | some error => throw error
    | none => return some (fs.files id)
  | some (.directory d) =>
    match d.unreadable with
    | some error => throw error
    | none => return none
  | some (.link _) | none => throw .noSuchFile

def read (fs : FileSystem) (path : SystemText) : Except FileError (List UInt8) := do
  match ← fs.openFile path with
  | some file => return file.content
  | none => throw .isADirectory

def map (fs : FileSystem) (path : SystemText) : Except FileError (List UInt8) := do
  match ← fs.openFile path with
  | some ⟨stream, none, _, _⟩ => return stream.bytes
  | _ => throw .noDevice

def unused (fs : FileSystem) : Nat := above fs.nodes.entries
where
  above : List (Location × Node) → Nat
    | [] => 0
    | (_, .file id) :: entries => max (id + 1) (above entries)
    | (_, .directory _) :: entries | (_, .link _) :: entries => above entries

def setFile (fs : FileSystem) (id : Nat) (file : File) : FileSystem :=
  { fs with files := fun n ↦ if n = id then file else fs.files n }

@[simp] theorem node?_setFile (fs : FileSystem) (id : Nat) (file : File) (location : Location) :
    (fs.setFile id file).node? location = fs.node? location := rfl

@[simp] theorem files_setFile (fs : FileSystem) (id : Nat) (file : File) (n : Nat) :
    (fs.setFile id file).files n = if n = id then file else fs.files n := rfl

def create (fs : FileSystem) (path : SystemText) : Except FileError (Nat × FileSystem) := do
  let location ← fs.locate true path
  match fs.node? location with
  | some (.file id) =>
    match (fs.files id).unwritable with
    | some error => throw error
    | none => return (id, fs.setFile id (fs.files id).emptied)
  | some (.directory _) | some (.link _) => throw .isADirectory
  | none =>
    let fs' := { fs with nodes := fs.nodes.insert location (.file fs.unused) }
    return (fs.unused, fs'.setFile fs.unused { stream.limit := fs.limit })

def append (fs : FileSystem) (id : Nat) (bytes : List UInt8) : Option FileError × FileSystem :=
  let (error, stream) := (fs.files id).stream.append bytes
  (error, fs.setFile id { fs.files id with stream })

def place (fs : FileSystem) (location : Location) (node : Node) : FileSystem :=
  let above := (List.range location.length).map location.take
  let nodes := above.foldl (fun nodes l ↦ nodes.upsert l fun n ↦ n.getD (.directory {})) fs.nodes
  { fs with nodes := nodes.insert location node }

def placeFile (fs : FileSystem) (location : Location) (file : File) : FileSystem :=
  (fs.place location (.file fs.unused)).setFile fs.unused file

def fresh (working : Location) : FileSystem :=
  place ⟨working, ∅, fun _ ↦ {}, none⟩ working (.directory {})

end FileSystem

end ShownText
