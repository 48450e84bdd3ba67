import ExecUml.Method.Body

/-!
# The methods of a state machine

Every operation of a transition is the source of a method; a transition of which no operation could
be kept has one method for its event. A name is used once: a later source of the same name is
dropped.
-/

set_option autoImplicit false

namespace ExecUml

open Script (Method camelCase)

/-- What a method is made from, with its place in the machine: the number of the transition and, for
an operation, its number there. -/
inductive MethodSource where
  | operation (transition : Nat) (place : Nat) (t : Transition) (op : Operation)
  | event (transition : Nat) (t : Transition)
deriving DecidableEq

namespace MethodSource

def name : MethodSource → String
  | operation _ _ _ op => camelCase op.name
  | event _ t => camelCase t.event

def method (scope : Scope) : MethodSource → Method
  | operation _ _ t op => operationMethod scope op t
  | event _ t => match t.body with
    | .messages logs => eventMethod t logs
    | .operations _ => eventMethod t []

end MethodSource

/-- The sources that are kept, in order, and the names of those that are dropped. -/
structure MethodPlan where
  kept : List MethodSource
  dropped : List String
deriving DecidableEq

namespace MethodPlan

def empty : MethodPlan := ⟨[], []⟩

def names (p : MethodPlan) : List String := p.kept.map (·.name)

/-- Keeps a source if its name is new. -/
def add (p : MethodPlan) (source : MethodSource) : MethodPlan :=
  if p.names.contains source.name then { p with dropped := p.dropped ++ [source.name] }
  else { p with kept := p.kept ++ [source] }

/-- The sources of the operations of a transition. -/
def operationSources (i : Nat) (t : Transition) : List MethodSource :=
  match t.body with
  | .operations ops => ops.zipIdx.map fun (op, j) => .operation i j t op
  | .messages _ => []

/-- Adds the operations of a transition, and its event if none of them was kept. -/
def addTransition (p : MethodPlan) (i : Nat) (t : Transition) : MethodPlan :=
  let withOperations := (operationSources i t).foldl add p
  if p.kept.length < withOperations.kept.length then withOperations
  else withOperations.add (.event i t)

def ofMachine (m : StateMachine) : MethodPlan :=
  m.transitions.zipIdx.foldl (fun p (t, i) => p.addTransition i t) empty

end MethodPlan

/-- The methods that a state machine gives its class. -/
def StateMachine.methods (m : StateMachine) (scope : Scope) : List Method :=
  (MethodPlan.ofMachine m).kept.map (·.method scope)

end ExecUml
