import ShownText.Command.Run

namespace ShownText.Command

def reasonOf (error : IO.Error) : String :=
  match error with
  | .noFileOrDirectory _ code details | .inappropriateType _ code details
  | .permissionDenied _ code details | .resourceExhausted _ code details
  | .invalidArgument _ code details => details ++ " (os error " ++ toString code ++ ")"
  | _ => toString error

def trying {α : Type} (action : IO α) : ExceptT String IO α :=
  ExceptT.mk do
    try return .ok (← action)
    catch error => return .error (reasonOf error)

/-- The machine opens files under names in UTF-8 only. -/
def named (path : SystemText) : IO String :=
  match SystemText.ofPlaces? path.places with
  | some name => return name
  | none => throw (IO.userError "file name is not UTF-8")

def machineAccess : Access IO IO.FS.Handle where
  read path := trying do
    return (← IO.FS.withFile (← named path) .read (·.readBinToEnd)).toList
  create path := trying do IO.FS.Handle.mk (← named path) .write
  append handle text := trying do
    handle.putStr text
    handle.flush
  print text := trying do
    let stdout ← IO.getStdout
    stdout.putStr text
    stdout.flush

def runHere [Charset.LegacyDecoders] (tools : Tools) (arguments : List String) : IO UInt32 := do
  let exit ← run machineAccess tools (arguments.map SystemText.ofString)
  IO.eprint exit.stderr
  return exit.code

end ShownText.Command
