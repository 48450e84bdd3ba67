import ExecUml.Host
import ExecUml.Model.Load

/-!
# Compilation

A model file is loaded, its findings are noted, its files are generated and written in order.
Nothing is written before the model has passed its checks, and writing stops at the first path that
cannot be made.
-/

set_option autoImplicit false

namespace ExecUml

/-- The model to compile, the directory to write to, and the form of the output. -/
structure Job where
  input : String
  output : String
  mode : EmitMode
deriving DecidableEq

/-- What was compiled for a domain. -/
structure DomainSummary where
  name : String
  classes : Nat
  associationClasses : Nat
  relationships : Nat
  machines : Nat
deriving DecidableEq

def Domain.summary (d : Domain) : DomainSummary :=
  ⟨d.name, d.classes.length, d.associationClasses.length, d.relationships.length, d.machineCount⟩

structure Report where
  systemName : String
  version : String
  domains : List DomainSummary
  filesWritten : Nat
  findings : List Finding
deriving DecidableEq

/-- The classes of all domains, those of relationships included. -/
def Report.totalClasses (r : Report) : Nat :=
  r.domains.foldl (fun n d => n + (d.classes + d.associationClasses)) 0

def Model.report (m : Model) (mode : EmitMode) : Report :=
  { systemName := m.systemName
    version := m.version
    domains := m.domains.map (·.summary)
    filesWritten := (m.files mode).length
    findings := m.findings }

/-- Whether a path has the extension of model documents, in any case. -/
def hasModelExtension (path : String) : Bool :=
  match Path.extension? path with
  | none => false
  | some ext => (ext.toList.map fun c =>
      if Text.isAsciiUpper c then Char.ofNat (c.toNat + 32) else c) == "json".toList

variable {m : Type → Type} [Monad m]

/-- Reads and checks the model of a file. -/
def loadFile (host : Host m) (path : String) : m (Except CompileError Model) := do
  match ← host.kind? path with
  | none => return .error (.inputNotFound path)
  | some .directory => return .error (.inputNotAFile path)
  | some .file =>
    if !hasModelExtension path then host.note (.otherExtension path)
    match ← host.readText? path with
    | none => return .error (.ioFailed path)
    | some text =>
      match Model.load text with
      | .error e => return .error e
      | .ok model =>
        host.note (.modelLoaded model.systemName model.domains.length)
        return .ok model

/-- Notes everything in a list. -/
def noteAll (host : Host m) : List Note → m Unit
  | [] => pure ()
  | n :: ns => do
    host.note n
    noteAll host ns

/-- Writes files below a directory that exists; answers with the path that could not be made. -/
def writeFiles (host : Host m) (output : String) : List OutputFile → m (Option String)
  | [] => return none
  | f :: fs => do
    let path := Path.join output f.path
    if ← host.makeDirectories (Path.parent path) then
      if ← host.writeFile path f.content then writeFiles host output fs
      else return some path
    else return some (Path.parent path)

/-- Makes the output directory and writes the files. -/
def writeOutput (host : Host m) (output : String) (files : List OutputFile) :
    m (Option String) := do
  if ← host.makeDirectories output then writeFiles host output files else return some output

def compile (host : Host m) (job : Job) : m (Except CompileError Report) := do
  match ← loadFile host job.input with
  | .error e => return .error e
  | .ok model =>
    noteAll host (model.findings.map .found)
    noteAll host (model.generationNotes job.mode)
    let files := model.files job.mode
    match ← writeOutput host job.output files with
    | some path => return .error (.ioFailed path)
    | none =>
      host.note (.compilationFinished files.length job.output)
      return .ok (model.report job.mode)

/-- The findings of a model file, without compiling it. -/
def check (host : Host m) (path : String) : m (Except CompileError (List Finding)) := do
  match ← loadFile host path with
  | .error e => return .error e
  | .ok model =>
    noteAll host (model.findings.map .found)
    return .ok model.findings

end ExecUml
