import ExecUml.Method.Message
import ExecUml.Model.ClassIndex

/-!
# Bodies of generated methods

A method of a state machine does something only in the source state of its transition, and answers
whether it did. The steps of an operation become statements; a step that cannot be carried out
becomes a comment or nothing.
-/

set_option autoImplicit false

namespace ExecUml

open Script (Expr Stmt Method Param TypeExpr camelCase parameterName typeName)

/-- The class that code is generated for, among the others. -/
structure Scope where
  index : ClassIndex
  owner : ClassDecl

/-- The attribute whose update is a change of state. -/
def statusAttribute : String := "Status"

/-- The only target of an update that is understood. -/
def receiver : String := "this"

/-- The property that holds the current state. -/
def stateProperty : String := "state"

/-- Whole numbers and flags stand as they are, all else is quoted. -/
def literal (value : String) : Expr :=
  let digits := value.toList
  if (!digits.isEmpty && digits.all Text.isAsciiDigit) || value = "true" || value = "false" then
    .verbatim value
  else .string value

def assignState (value : Expr) : Stmt := .assign (.member stateProperty) value

def logStmt (message : Expr) : Stmt := .expression (.call "console.log" [message])

/-- The statements of a step, and whether they change the state. -/
structure StepCode where
  statements : List Stmt
  assignsState : Bool

/-- The assignment of an update that does not change the state. -/
def memberUpdate (member value : String) : Stmt :=
  .assign (.member (camelCase member)) (literal value)

/-- An update of the object itself. -/
def updateCode (scope : Scope) (member value : String) : StepCode :=
  if member = statusAttribute ∧ scope.owner.machine.isSome then
    ⟨[assignState (literal value)], true⟩
  else if scope.index.hasAttribute scope.owner member then ⟨[memberUpdate member value], false⟩
  else
    ⟨[.comment ("Update " ++ member ++ " to " ++ value), .disabled (memberUpdate member value)],
      false⟩

def stepCode (scope : Scope) (parameters : List Parameter) : ActionStep → StepCode
  | .update target (some member) (some value) =>
    if target = some receiver then updateCode scope member value else ⟨[], false⟩
  | .update _ _ _ => ⟨[], false⟩
  | .log (some message) => ⟨[logStmt (messageExpr message parameters)], false⟩
  | .log none => ⟨[], false⟩
  | .unsupported kind =>
    ⟨[.comment ("Action type '" ++ kind.getD "unknown" ++ "' not implemented")], false⟩

/-- A body that does something only in the state `source`, and answers whether it did. -/
def guardedBody (source : String) (effects : List Stmt) : List Stmt :=
  [.cond (.strictEq (.member stateProperty) (.string source)) (effects ++ [.ret (.boolean true)]),
   .ret (.boolean false)]

/-- The effects of an operation: its steps, and the change of state if no step makes one. -/
def operationEffects (scope : Scope) (op : Operation) (target : String) : List Stmt :=
  let codes := op.steps.map (stepCode scope op.parameters)
  codes.flatMap (·.statements)
    ++ (if codes.any (·.assignsState) then [] else [assignState (.string target)])

def operationMethod (scope : Scope) (op : Operation) (t : Transition) : Method :=
  { name := camelCase op.name
    params := op.parameters.map fun p => ⟨parameterName p.name, .named (typeName p.dataType)⟩
    returns := .named "boolean"
    body := guardedBody t.fromState (operationEffects scope op t.toState) }

/-- The method of an event: it changes the state and logs the messages. -/
def eventMethod (t : Transition) (messages : List (Option String)) : Method :=
  { name := camelCase t.event
    params := []
    returns := .named "boolean"
    body := guardedBody t.fromState
      (assignState (.string t.toState) :: messages.map fun m => logStmt (legacyExpr m)) }

end ExecUml
