import ExecUml.Model.Finding
import ExecUml.Output.Module
import ExecUml.Text.Quoted

/-!
# Notes

What the compiler tells about its work: a level, a message and named details, in one line.
-/

set_option autoImplicit false

namespace ExecUml

inductive Level where
  | debug
  | info
  | warn
deriving DecidableEq

def Level.tag : Level → String
  | debug => "DEBUG"
  | info => "INFO"
  | warn => "WARN"

inductive Note where
  | otherExtension (path : String)
  | modelLoaded (system : String) (domains : Nat)
  | found (finding : Finding)
  | methodDropped (className method : String)
  | logWithoutMessage (className : String)
  | stepUnsupported (className kind : String)
  | foreignTarget (className : String) (target : Option String)
  | updateIncomplete (className : String)
  | memberUnknown (className member : String)
  | fileGenerated (path : String)
  | domainGenerated (domain : String) (files : Nat)
  | generationFinished (total : Nat) (mode : EmitMode)
  | compilationFinished (files : Nat) (directory : String)
deriving DecidableEq

namespace Note

def level : Note → Level
  | otherExtension _ | found _ => .warn
  | modelLoaded _ _ | domainGenerated _ _ | compilationFinished _ _ => .info
  | _ => .debug

def message : Note → String
  | otherExtension _ => "input file does not have a .json extension"
  | modelLoaded _ _ => "model loaded"
  | found finding => finding.message
  | methodDropped _ _ => "duplicate method dropped"
  | logWithoutMessage _ => "log step without message skipped"
  | stepUnsupported _ _ => "unsupported action step"
  | foreignTarget _ _ => "update step on foreign target skipped"
  | updateIncomplete _ => "incomplete update step skipped"
  | memberUnknown _ _ => "update of unknown attribute disabled"
  | fileGenerated _ => "generated"
  | domainGenerated _ _ => "domain generated"
  | generationFinished _ _ => "generation finished"
  | compilationFinished _ _ => "compilation finished"

def modeText : EmitMode → String
  | .merged => "Merged"
  | .split => "Split"

/-- The named details in order. -/
def details : Note → List (String × String)
  | otherExtension path => [("path", path)]
  | modelLoaded system domains => [("system", system), ("domains", domains.repr)]
  | found _ => []
  | methodDropped className method => [("class", className), ("method", method)]
  | logWithoutMessage className => [("class", className)]
  | stepUnsupported className kind => [("class", className), ("kind", Text.quoted kind)]
  | foreignTarget className target =>
    [("class", className), ("target", Text.quotedOption target)]
  | updateIncomplete className => [("class", className)]
  | memberUnknown className member => [("class", className), ("attribute", Text.quoted member)]
  | fileGenerated path => [("path", path)]
  | domainGenerated domain files => [("domain", domain), ("files", files.repr)]
  | generationFinished total mode => [("total", total.repr), ("mode", modeText mode)]
  | compilationFinished files directory => [("files", files.repr), ("out_dir", directory)]

/-- A character of a message: those that control a terminal are spelled out. -/
def messageChar (c : Char) : List Char :=
  if ['\x1b', '\x07', '\x08', '\x0c', '\x7f'].contains c then
    ['\\', 'x'] ++ List.replicate (2 - (Nat.toDigits 16 c.toNat).length) '0'
      ++ Nat.toDigits 16 c.toNat
  else if 0x80 ≤ c.toNat && c.toNat ≤ 0x9F then Text.codePointEscape c
  else [c]

def line (n : Note) : String :=
  n.level.tag ++ " " ++ String.ofList (n.message.toList.flatMap messageChar)
    ++ String.join (n.details.map fun d => " " ++ d.1 ++ "=" ++ d.2)

end Note

/-- What is noted about a step while its code is made. -/
def stepNotes (scope : Scope) : ActionStep → List Note
  | .update target member value =>
    let name := scope.owner.name
    if target ≠ some receiver then [.foreignTarget name target]
    else match member, value with
      | some member, some _ =>
        if member = statusAttribute ∧ scope.owner.machine.isSome then []
        else if scope.index.hasAttribute scope.owner member then []
        else [.memberUnknown name member]
      | _, _ => [.updateIncomplete name]
  | .log none => [.logWithoutMessage scope.owner.name]
  | .log (some _) => []
  | .unsupported kind => [.stepUnsupported scope.owner.name (kind.getD "unknown")]

def MethodSource.notes (scope : Scope) : MethodSource → List Note
  | operation _ _ _ op => op.steps.flatMap (stepNotes scope)
  | event _ _ => []

/-- What is noted while the methods of a class are made. -/
def Scope.methodNotes (scope : Scope) : List Note :=
  match scope.owner.machine with
  | none => []
  | some m =>
    let plan := MethodPlan.ofMachine m
    plan.dropped.map (.methodDropped scope.owner.name ·)
      ++ plan.kept.flatMap (·.notes scope)

def Domain.notes (d : Domain) (m : Model) (ix : ClassIndex) (mode : EmitMode) : List Note :=
  (d.allClasses.flatMap fun c =>
      Scope.methodNotes ⟨ix, c⟩
        ++ (Scope.modules ⟨ix, c⟩ m d mode).map fun f =>
          .fileGenerated (pathIn d.directory f.stem))
    ++ [.domainGenerated d.name (d.modules m ix mode).length]

/-- What is noted while the files of a model are generated. -/
def Model.generationNotes (m : Model) (mode : EmitMode) : List Note :=
  m.domains.flatMap (·.notes m (.ofModel m) mode)
    ++ [.generationFinished (m.modules mode).length mode]

end ExecUml
