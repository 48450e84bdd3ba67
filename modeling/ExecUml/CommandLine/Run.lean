import ExecUml.CommandLine.Options
import ExecUml.CommandLine.Summary

/-!
# A run of the command line

Input and output are looked at before anything is compiled. A run that is refused then has changed
nothing, unless it was asked to empty the output directory first.
-/

set_option autoImplicit false

namespace ExecUml.CommandLine

inductive RunError where
  | inputMissing (path : String)
  | inputNotAFile (path : String)
  | outputNotADirectory (path : String)
  | outputNotEmpty (path : String)
  | compile (e : CompileError)
  | io (path : String)

namespace RunError

def code : RunError → String
  | inputMissing _ => "xtuml_ts::input_missing"
  | inputNotAFile _ => "xtuml_ts::input_not_file"
  | outputNotADirectory _ => "xtuml_ts::output_not_dir"
  | outputNotEmpty _ => "xtuml_ts::output_not_empty"
  | compile e => e.code
  | io _ => "xtuml_ts::io"

/-- One for what is refused beforehand, two for a document that is no model, three for files that
cannot be read or written. -/
def exitCode : RunError → Nat
  | inputMissing _ | inputNotAFile _ | outputNotADirectory _ | outputNotEmpty _ => 1
  | compile e => match e.kind with
    | .precondition => 1
    | .validation => 2
    | .io => 3
  | io _ => 3

def message : RunError → String
  | inputMissing path => "input file not found: " ++ path
  | inputNotAFile path => "input path is not a regular file: " ++ path
  | outputNotADirectory path => "output path exists but is not a directory: " ++ path
  | outputNotEmpty path => "output directory is not empty: " ++ path
  | compile e => e.message
  | io path => "I/O error at " ++ path

def help : RunError → Option String
  | inputMissing _ => some "Pass the path of an existing JSON model"
  | outputNotEmpty _ => some "Use --force to overwrite or --clean to empty it first"
  | compile e => e.help
  | inputNotAFile _ | outputNotADirectory _ | io _ => none

end RunError

variable {m : Type → Type} [Monad m]

def sayAll (host : Host m) : List String → m Unit
  | [] => pure ()
  | line :: lines => do
    host.say line
    sayAll host lines

/-- The input has to be a file. -/
def checkInput (host : Host m) (path : String) : m (Option RunError) := do
  match ← host.kind? path with
  | none => return some (.inputMissing path)
  | some .directory => return some (.inputNotAFile path)
  | some .file => return none

/-- An output directory that is there is emptied on demand; otherwise it is read, and has to be
empty or the run has to be forced. -/
def prepareOutput (host : Host m) (o : Options) : m (Option RunError) := do
  match ← host.kind? o.output with
  | none => return none
  | some .file => return some (.outputNotADirectory o.output)
  | some .directory =>
    if o.clean then
      if ← host.clear o.output then
        host.say ("  ◇ Cleaned " ++ o.output)
        return none
      else return some (.io o.output)
    else
      match ← host.isEmpty? o.output with
      | none => return some (.io o.output)
      | some empty =>
        if !empty && !o.force then return some (.outputNotEmpty o.output) else return none

/-- The number of script files below the output directory. -/
def countScripts (host : Host m) (output : String) : m Nat := do
  let names ← host.fileNames output
  return (names.filter fun n => Path.nameExtension? n == some "ts").length

def Options.job (o : Options) : Job :=
  ⟨o.input, o.output, if o.split then .split else .merged⟩

/-- Compiles as the options say; `elapsed` tells the time it took. -/
def runOptions (host : Host m) (elapsed : m String) (o : Options) : m (Option RunError) := do
  sayAll host openingLines
  match ← checkInput host o.input with
  | some e => return some e
  | none =>
    match ← prepareOutput host o with
    | some e => return some e
    | none =>
      match ← compile host o.job with
      | .error e => return some (.compile e)
      | .ok report =>
        let scripts ← countScripts host o.output
        let location ← host.absolute o.output
        sayAll host (summaryLines report scripts location (← elapsed))
        return none

/-- How a run ended. -/
structure Ending where
  exitCode : Nat
  error : Option RunError

/-- The exit code of arguments that cannot be read. -/
def usageExitCode : Nat := 2

/-- Does what an invocation asks for. -/
def run (host : Host m) (elapsed : m String) : Invocation → m Ending
  | .help => do
    sayAll host helpLines
    return ⟨0, none⟩
  | .version => do
    host.say versionLine
    return ⟨0, none⟩
  | .invalid => return ⟨usageExitCode, none⟩
  | .run o => do
    match ← runOptions host elapsed o with
    | none => return ⟨0, none⟩
    | some e => return ⟨e.exitCode, some e⟩

/-- The notes that a run shows: warnings, or everything on demand. -/
def Invocation.shownNotes (notes : List Note) : Invocation → List Note
  | .run o => notes.filter fun n => o.verbose || n.level == .warn
  | _ => []

end ExecUml.CommandLine
