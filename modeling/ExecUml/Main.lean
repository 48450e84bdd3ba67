import ExecUml.CommandLine.Run

/-!
# The command line on files

The host is the machine itself, as far as files can be opened, written and removed. Directories are
not listed: whether one is empty shows when it is removed and made again, so an empty one is
replaced by a new one, and the scripts that are counted are those of this run, without older ones
beside them.
-/

set_option autoImplicit false

namespace ExecUml.CommandLine

def succeeds (act : IO Unit) : IO Bool := do
  match ← act.toBaseIO with
  | .ok _ => return true
  | .error _ => return false

/-- A directory can be opened and not be read. -/
def diskKind? (path : String) : IO (Option PathKind) := do
  match ← (IO.FS.Handle.mk path .read).toBaseIO with
  | .error (.noFileOrDirectory ..) | .error (.inappropriateType ..) => return none
  | .error _ => return some .file
  | .ok handle =>
    match ← (handle.read 1).toBaseIO with
    | .error (.inappropriateType ..) => return some .directory
    | _ => return some .file

def diskText? (path : String) : IO (Option String) := do
  match ← (IO.FS.readBinFile path).toBaseIO with
  | .ok bytes => return String.fromUTF8? bytes
  | .error _ => return none

/-- Only an empty directory can be removed by itself. One that cannot be made again cannot be read
either. -/
def diskIsEmpty? (path : String) : IO (Option Bool) := do
  if ← succeeds (IO.FS.removeDir path) then
    return if ← succeeds (IO.FS.createDirAll path) then some true else none
  else return some false

def diskClear (path : String) : IO Bool :=
  succeeds do
    IO.FS.removeDirAll path
    IO.FS.createDirAll path

def diskAbsolute (path : String) : IO String := do
  match ← (IO.FS.realPath path).toBaseIO with
  | .ok p => return toString p
  | .error _ => return path

/-- Writes a file and remembers its path. -/
def diskWrite (written : IO.Ref (List String)) (path text : String) : IO Bool := do
  let ok ← succeeds (IO.FS.writeFile path text)
  if ok then written.modify fun paths => if paths.contains path then paths else path :: paths
  return ok

/-- The machine as a host, for one invocation. -/
def diskHost (written : IO.Ref (List String)) (invocation : Invocation) : Host IO where
  kind? := diskKind?
  readText? := diskText?
  makeDirectories path := do
    if path.isEmpty then return true
    discard (succeeds (IO.FS.createDirAll path))
    return (← diskKind? path) == some .directory
  writeFile := diskWrite written
  isEmpty? := diskIsEmpty?
  clear := diskClear
  fileNames _ := return (← written.get).filterMap Path.fileName?
  absolute := diskAbsolute
  note n := for shown in invocation.shownNotes [n] do IO.eprintln shown.line
  say := IO.println

def reportError (e : RunError) : IO Unit := do
  IO.eprintln "  ◆ Compilation failed"
  IO.eprintln (e.code ++ ": " ++ e.message)
  if let some help := e.help then IO.eprintln ("help: " ++ help)

/-- Runs the command line and answers with the exit code. -/
def runOnDisk (args : List String) : IO UInt32 := do
  let started ← IO.monoNanosNow
  let invocation := Invocation.ofArguments args
  if invocation = .invalid then IO.eprintln usageLine
  let host := diskHost (← IO.mkRef []) invocation
  let elapsed := return durationText ((← IO.monoNanosNow) - started)
  let ending ← run host elapsed invocation
  if let some e := ending.error then reportError e
  return ending.exitCode.toUInt32

end ExecUml.CommandLine

def main (args : List String) : IO UInt32 := ExecUml.CommandLine.runOnDisk args
