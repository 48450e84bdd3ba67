import ExecUml.Method.Plan

/-!
# Findings

What is doubtful about a model that can be compiled all the same: names declared twice, parents that
are unknown or go round in a circle, states that are not declared, methods whose name is taken.
-/

set_option autoImplicit false

namespace ExecUml

inductive Finding where
  | duplicateClass (name : String)
  | unknownParent (className parent : String)
  | inheritanceCycle (className : String)
  | unknownInitialState (className state : String)
  | unknownTransitionState (className event state : String)
  | duplicateMethod (className method : String)
deriving DecidableEq

def Finding.message : Finding → String
  | duplicateClass name =>
    "class '" ++ name ++ "' is declared more than once; the first declaration is used"
  | unknownParent className parent =>
    "class '" ++ className ++ "' inherits from unknown class '" ++ parent ++ "'"
  | inheritanceCycle className => "class '" ++ className ++ "' has a cyclic inheritance chain"
  | unknownInitialState className state =>
    "class '" ++ className ++ "': initial state '" ++ state ++ "' is not a declared state"
  | unknownTransitionState className event state =>
    "class '" ++ className ++ "': transition on '" ++ event ++ "' references undeclared state '"
      ++ state ++ "'"
  | duplicateMethod className method =>
    "class '" ++ className ++ "': method '" ++ method
      ++ "' is generated once; later definitions are dropped"

def ClassDecl.parentFindings (c : ClassDecl) (ix : ClassIndex) : List Finding :=
  match c.parent with
  | none => []
  | some parent =>
    if (ix.get? parent).isNone then [.unknownParent c.name parent]
    else if ix.hasCycle c then [.inheritanceCycle c.name]
    else []

namespace StateMachine

def initialFindings (m : StateMachine) (className : String) : List Finding :=
  match m.initialState with
  | none => []
  | some s => if m.hasState s then [] else [.unknownInitialState className s]

def transitionFindings (m : StateMachine) (className : String) (t : Transition) : List Finding :=
  ([t.fromState, t.toState].filter (!m.hasState ·)).map
    (.unknownTransitionState className t.event ·)

def findings (m : StateMachine) (className : String) : List Finding :=
  m.initialFindings className
    ++ m.transitions.flatMap (m.transitionFindings className)
    ++ (MethodPlan.ofMachine m).dropped.map (.duplicateMethod className ·)

end StateMachine

def ClassDecl.findings (c : ClassDecl) (ix : ClassIndex) : List Finding :=
  c.parentFindings ix
    ++ match c.machine with
      | none => []
      | some m => m.findings c.name

/-- All findings: duplicate names first, then class by class. -/
def Model.findings (m : Model) : List Finding :=
  let ix := ClassIndex.ofModel m
  ix.duplicates.map .duplicateClass ++ m.declarations.flatMap fun d => d.2.findings ix

end ExecUml
