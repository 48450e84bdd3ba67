import ExecUml.Proofs.EmittedCode
import Mathlib.Data.List.Induction

/-!
# What a generated method does

Code is looked at as a list of actions: values that go to properties and entries that go to the log,
one after the other. The statements under the guard of a method are all passed, and their actions
account for what becomes of the memory. A call in the source state of its transition acts and
answers true; any other call does nothing and answers false. The value that a property has
afterwards is the last one written to it.
-/

set_option autoImplicit false

namespace ExecUml

namespace Script

/-! ## Actions -/

inductive Action where
  | assign (property : String) (value : Value)
  | log (entry : List Value)

namespace Action

def apply (m : Memory) : Action → Memory
  | assign property value => m.set property value
  | log entry => m.append entry

def write? (property : String) : Action → Option Value
  | assign p value => if p = property then some value else none
  | log _ => none

theorem apply_object (m : Memory) (a : Action) (p : String) :
    (a.apply m).object p = (a.write? p).getD (m.object p) := by
  cases a with
  | log entry => rfl
  | assign q value =>
    by_cases hq : q = p
    · subst hq
      simp [apply, write?]
    · simp [apply, write?, hq, Function.update_of_ne (Ne.symm hq)]

end Action

def applyAll (m : Memory) (actions : List Action) : Memory := actions.foldl Action.apply m

@[simp] theorem applyAll_nil (m : Memory) : applyAll m [] = m := rfl

theorem applyAll_append (m : Memory) (xs ys : List Action) :
    applyAll m (xs ++ ys) = applyAll (applyAll m xs) ys := by
  simp [applyAll, List.foldl_append]

theorem applyAll_object (m : Memory) (actions : List Action) (p : String) :
    (applyAll m actions).object p =
      (actions.filterMap (·.write? p)).getLast?.getD (m.object p) := by
  induction actions using List.reverseRecOn with
  | nil => rfl
  | append_singleton actions a ih =>
    have hlast : applyAll m (actions ++ [a]) = a.apply (applyAll m actions) := by
      simp [applyAll]
    rw [hlast, Action.apply_object, ih, List.filterMap_append]
    cases hw : a.write? p <;> simp [hw]

/-- What follows a statement is only done if the statement is passed. -/
def Outcome.actionsThen : Outcome → (Memory → List Action) → List Action
  | next m, later => later m
  | returned _ _, _ => []
  | stuck, _ => []

mutual

/-- The actions of a statement that is carried out in the memory `m`. A call of anything but the log
function shows no action. -/
def Stmt.actions (f : Frame) (m : Memory) : Stmt → List Action
  | .cond test body => if test.eval f m.object = .flag true then actionsAll f m body else []
  | .assign (.member name) value => [.assign name (value.eval f m.object)]
  | .expression (.call callee arguments) =>
    if callee = logFunction then [.log (evalAll f m.object arguments)] else []
  | _ => []

def actionsAll (f : Frame) (m : Memory) : List Stmt → List Action
  | [] => []
  | s :: ss => s.actions f m ++ (s.exec f m).actionsThen fun m' => actionsAll f m' ss

end

section Actions

variable {f : Frame} {m m' : Memory}

theorem actionsAll_append {ss : List Stmt} (h : execAll f m ss = .next m') (ts : List Stmt) :
    actionsAll f m (ss ++ ts) = actionsAll f m ss ++ actionsAll f m' ts := by
  induction ss generalizing m with
  | nil =>
    cases h
    simp [actionsAll]
  | cons s ss ih =>
    rw [execAll] at h
    simp only [List.cons_append, actionsAll]
    cases hs : s.exec f m with
    | next m₁ =>
      rw [hs] at h
      simp [Outcome.actionsThen, ih h]
    | returned m₁ v => simp [hs, Outcome.andThen] at h
    | stuck => simp [hs, Outcome.andThen] at h

theorem exec_assign_member (f : Frame) (m : Memory) (p : String) (e : Expr) :
    (Stmt.assign (.member p) e).exec f m = .next (m.set p (e.eval f m.object)) := by
  simp [Stmt.exec]

theorem exec_logStmt (f : Frame) (m : Memory) (message : Expr) :
    (logStmt message).exec f m = .next (m.append [message.eval f m.object]) := by
  simp [logStmt, Stmt.exec, logFunction, evalAll]

theorem actions_assign_cons (p : String) (value : Expr) (ss : List Stmt) :
    actionsAll f m (.assign (.member p) value :: ss) =
      .assign p (value.eval f m.object) :: actionsAll f (m.set p (value.eval f m.object)) ss := by
  simp [actionsAll, Stmt.actions, exec_assign_member, Outcome.actionsThen]

theorem actions_logStmt_cons (message : Expr) (ss : List Stmt) :
    actionsAll f m (logStmt message :: ss) =
      .log [message.eval f m.object] :: actionsAll f (m.append [message.eval f m.object]) ss := by
  rw [actionsAll, exec_logStmt]
  simp [logStmt, Stmt.actions, logFunction, evalAll, Outcome.actionsThen]

end Actions

end Script

open Script

/-- What stands under the guard of a method is passed. -/
theorem Scope.Emits.exec {scope : Scope} {s : Stmt} (h : scope.Emits s) (f : Frame) (m : Memory) :
    s.exec f m = .next (applyAll m (s.actions f m)) := by
  cases h with
  | assign hp hvalue => rfl
  | log hmessage => simp [logStmt, Stmt.exec, Stmt.actions, logFunction, applyAll, Action.apply]
  | comment text => rfl
  | disabled inner => rfl

theorem execAll_of_emits {scope : Scope} {ss : List Stmt} (h : ∀ s ∈ ss, scope.Emits s) (f : Frame)
    (m : Memory) : execAll f m ss = .next (applyAll m (actionsAll f m ss)) := by
  induction ss generalizing m with
  | nil => rfl
  | cons s ss ih =>
    obtain ⟨hs, hss⟩ := List.forall_mem_cons.mp h
    rw [execAll, actionsAll, hs.exec f m, applyAll_append, Outcome.andThen_next, ih hss]
    rfl

/-! ## Steps -/

def literalValue (value : String) : Value :=
  if isBare value then spelledValue value else .text value

@[simp] theorem literal_eval (f : Frame) (o : Object) (value : String) :
    (literal value).eval f o = literalValue value := by
  unfold literal literalValue isBare isNumeral
  split <;> rename_i h <;> simp [h, Expr.eval]

theorem literalValue_of_not_bare {value : String} (h : isBare value = false) :
    literalValue value = .text value := by
  simp [literalValue, h]

theorem literalValue_of_bare {value : String} (h : isBare value = true) (s : String) :
    literalValue value ≠ .text s := by
  have hbare : isNumeral value = true ∨ value = "true" ∨ value = "false" := by
    simpa [isBare, or_assoc] using h
  simp only [literalValue, h, if_true]
  rcases hbare with hnumeral | rfl | rfl
  · rw [spelledValue, if_pos hnumeral]
    split
    · simp
    · split <;> simp
  · simp [spelledValue]
  · simp [spelledValue]

namespace ActionStep

/-- An update of the object that names a new state. -/
def setsStatus : ActionStep → Bool
  | .update target member (some _) => target = some receiver && member = some statusAttribute
  | _ => false

/-- The text that a step writes into the state of an object, as a change of state or as an attribute
that is spelled alike. -/
def stateWrite? (scope : Scope) : ActionStep → Option String
  | .update target (some member) (some value) =>
    if target = some receiver ∧
        (member = statusAttribute ∧ scope.owner.machine.isSome ∨
          scope.index.hasAttribute scope.owner member ∧ camelCase member = stateProperty) then
      some value
    else none
  | _ => none

theorem setsStatus_iff (step : ActionStep) :
    step.setsStatus = true ↔
      ∃ value, step = .update (some receiver) (some statusAttribute) (some value) := by
  cases step with
  | log message => simp [setsStatus]
  | unsupported kind => simp [setsStatus]
  | update target member value => cases value <;> simp [setsStatus]

end ActionStep

section Steps

variable {scope : Scope} {parameters : List Parameter}

theorem execAll_stepCode (f : Frame) (m : Memory) (step : ActionStep) :
    execAll f m (stepCode scope parameters step).statements =
      .next (applyAll m (actionsAll f m (stepCode scope parameters step).statements)) :=
  execAll_of_emits (fun _ hs => emits_of_stepCode hs) f m

theorem stateWrites_updateCode (f : Frame) (m : Memory) (member value : String) :
    (actionsAll f m (updateCode scope member value).statements).filterMap
        (·.write? stateProperty) =
      ((ActionStep.update receiver member value).stateWrite? scope).toList.map literalValue := by
  by_cases hstatus : member = statusAttribute ∧ scope.owner.machine.isSome
  · simp [updateCode, hstatus, ActionStep.stateWrite?, assignState, actions_assign_cons,
      actionsAll, Action.write?]
  · by_cases hdeclared : scope.index.hasAttribute scope.owner member
    · by_cases hname : camelCase member = stateProperty <;>
        simp [updateCode, hstatus, hdeclared, ActionStep.stateWrite?, memberUpdate, hname,
          actions_assign_cons, actionsAll, Action.write?]
    · simp [updateCode, hstatus, hdeclared, ActionStep.stateWrite?, actionsAll, Stmt.actions,
        Stmt.exec, Outcome.actionsThen]

/-- What the code of a step writes into the state. -/
theorem stateWrites_stepCode (f : Frame) (m : Memory) (step : ActionStep) :
    (actionsAll f m (stepCode scope parameters step).statements).filterMap
        (·.write? stateProperty) =
      (step.stateWrite? scope).toList.map literalValue := by
  cases step with
  | unsupported kind => rfl
  | log message =>
    cases message with
    | none => rfl
    | some message =>
      simp [stepCode, actions_logStmt_cons, actionsAll, Action.write?, ActionStep.stateWrite?]
  | update target member value =>
    cases member with
    | none => simp [stepCode, actionsAll, ActionStep.stateWrite?]
    | some member =>
      cases value with
      | none => simp [stepCode, actionsAll, ActionStep.stateWrite?]
      | some value =>
        by_cases htarget : target = some receiver
        · subst htarget
          simpa [stepCode] using stateWrites_updateCode f m member value
        · simp [stepCode, htarget, actionsAll, ActionStep.stateWrite?]

theorem assignsState_stepCode (step : ActionStep) :
    (stepCode scope parameters step).assignsState =
      (step.setsStatus && scope.owner.machine.isSome) := by
  cases step with
  | unsupported kind => rfl
  | log message => cases message <;> rfl
  | update target member value =>
    cases member with
    | none => cases value <;> simp [stepCode, ActionStep.setsStatus]
    | some member =>
      cases value with
      | none => simp [stepCode, ActionStep.setsStatus]
      | some value =>
        by_cases htarget : target = some receiver
        · by_cases hstatus : member = statusAttribute ∧ scope.owner.machine.isSome
          · simp [stepCode, ActionStep.setsStatus, htarget, updateCode, hstatus]
          · have hfalse : (updateCode scope member value).assignsState = false := by
              rw [updateCode, if_neg hstatus]
              split <;> rfl
            simp_all [stepCode, ActionStep.setsStatus]
        · simp [stepCode, ActionStep.setsStatus, htarget]

end Steps

/-! ## Operations and events -/

namespace Operation

def setsStatus (op : Operation) : Bool := op.steps.any (·.setsStatus)

/-- The last text that a step writes into the state of an object. -/
def lastStateWrite? (op : Operation) (scope : Scope) : Option String :=
  (op.steps.filterMap (·.stateWrite? scope)).getLast?

/-- The code of the steps. -/
def stepStatements (op : Operation) (scope : Scope) : List Stmt :=
  (op.steps.map (stepCode scope op.parameters)).flatMap (·.statements)

end Operation

theorem execAll_steps (f : Frame) (m : Memory) (scope : Scope) (op : Operation) :
    execAll f m (op.stepStatements scope) =
      .next (applyAll m (actionsAll f m (op.stepStatements scope))) :=
  execAll_of_emits (fun _ hs => emits_of_steps hs) f m

theorem stateWrites_steps (f : Frame) (m : Memory) (scope : Scope) (op : Operation) :
    (actionsAll f m (op.stepStatements scope)).filterMap (·.write? stateProperty) =
      (op.steps.filterMap (·.stateWrite? scope)).map literalValue := by
  unfold Operation.stepStatements
  induction op.steps generalizing m with
  | nil => rfl
  | cons step steps ih =>
    rw [List.map_cons, List.flatMap_cons, actionsAll_append (execAll_stepCode f m step),
      List.filterMap_append, ih, stateWrites_stepCode]
    cases hwrite : step.stateWrite? scope <;> simp [hwrite]

/-- The code of an operation is that of its steps, and a change of state unless a step makes one. -/
theorem operationEffects_eq (scope : Scope) (op : Operation) (target : String) :
    operationEffects scope op target = op.stepStatements scope ++
      (if op.setsStatus && scope.owner.machine.isSome then []
        else [assignState (.string target)]) := by
  have hany : (op.steps.map (stepCode scope op.parameters)).any (·.assignsState) =
      (op.setsStatus && scope.owner.machine.isSome) := by
    unfold Operation.setsStatus
    induction op.steps with
    | nil => rfl
    | cons step steps ih =>
      simp only [List.map_cons, List.any_cons, ih, assignsState_stepCode,
        Bool.and_or_distrib_right]
  rw [operationEffects, hany]
  rfl

/-- Without a step that names a state, an operation ends in the target of its transition, whatever
its other steps write. -/
theorem state_of_operation (f : Frame) (m : Memory) (scope : Scope) {op : Operation}
    (hop : op.setsStatus = false) (target : String) :
    (applyAll m (actionsAll f m (operationEffects scope op target))).object stateProperty =
      .text target := by
  rw [operationEffects_eq, hop, actionsAll_append (execAll_steps f m scope op), applyAll_append]
  simp [assignState, actions_assign_cons, actionsAll, applyAll, Action.apply, Expr.eval]

theorem Operation.lastStateWrite?_isSome {op : Operation} {scope : Scope}
    (hmachine : scope.owner.machine.isSome) (hop : op.setsStatus = true) :
    ∃ value, op.lastStateWrite? scope = some value := by
  obtain ⟨step, hstep, hsets⟩ := List.any_eq_true.mp hop
  obtain ⟨value, rfl⟩ := (ActionStep.setsStatus_iff step).mp hsets
  have hwrites : value ∈ op.steps.filterMap (·.stateWrite? scope) := by
    refine List.mem_filterMap.mpr ⟨_, hstep, ?_⟩
    simp [ActionStep.stateWrite?, hmachine]
  exact Option.isSome_iff_exists.mp (List.getLast?_isSome.mpr (List.ne_nil_of_mem hwrites))

/-- With such a step, the last text written into the state stays. -/
theorem state_of_status_operation (f : Frame) (m : Memory) {scope : Scope}
    (hmachine : scope.owner.machine.isSome) {op : Operation} (hop : op.setsStatus = true)
    {value : String} (hlast : op.lastStateWrite? scope = some value) (target : String) :
    (applyAll m (actionsAll f m (operationEffects scope op target))).object stateProperty =
      literalValue value := by
  unfold Operation.lastStateWrite? at hlast
  rw [applyAll_object, operationEffects_eq, hop, hmachine]
  simp [stateWrites_steps, hlast]

/-- Messages change no property, so that all of them are read from the same object. -/
theorem actions_logs (f : Frame) (m : Memory) (messages : List (Option String)) :
    actionsAll f m (messages.map fun message => logStmt (legacyExpr message)) =
      messages.map fun message => .log [(legacyExpr message).eval f m.object] := by
  induction messages generalizing m with
  | nil => rfl
  | cons message messages ih =>
    rw [List.map_cons, List.map_cons, actions_logStmt_cons, ih]
    rfl

theorem state_of_event (f : Frame) (m : Memory) (target : String)
    (messages : List (Option String)) :
    (applyAll m (actionsAll f m (assignState (.string target) :: messages.map fun message =>
      logStmt (legacyExpr message)))).object stateProperty = .text target := by
  have hlogs : ∀ o : Object, (messages.map fun message =>
      Action.log [(legacyExpr message).eval f o]).filterMap (·.write? stateProperty) = [] := by
    simp [Action.write?]
  rw [applyAll_object, assignState, actions_assign_cons, actions_logs, List.filterMap_cons, hlogs]
  simp [Action.write?, Expr.eval]

/-! ## Calls -/

/-- A guarded body acts in its source state only, and says whether it did. -/
theorem perform_guardedBody {r : Reading} {c : Call} {m m' : Memory} {source : String}
    {effects : List Stmt} (hbody : c.method.body = guardedBody source effects)
    (heffects : execAll (c.frame r) m effects = .next m') :
    c.perform r m =
      some (if m.object stateProperty = .text source then (m', .flag true)
        else (m, .flag false)) := by
  unfold Call.perform
  rw [hbody]
  by_cases hsource : m.object stateProperty = .text source
  · simp [guardedBody, execAll, Stmt.exec, Expr.eval, hsource, execAll_append, heffects,
      Expr.boolean, spelledValue]
  · simp [guardedBody, execAll, Stmt.exec, Expr.eval, hsource, Expr.boolean, spelledValue]

namespace MethodSource

/-- A call in the source state does what stands under the guard and answers true, any other call
does nothing and answers false. -/
theorem perform_method (r : Reading) {scope : Scope} {s : MethodSource} {c : Call}
    (hc : c.method = s.method scope) (m : Memory) :
    c.perform r m =
      some (if m.object stateProperty = .text s.transition.fromState then
        (applyAll m (actionsAll (c.frame r) m (s.effects scope)), .flag true)
      else (m, .flag false)) := by
  have hgenerates := s.generates scope
  rw [← hc] at hgenerates
  exact perform_guardedBody hgenerates.body (execAll_of_emits hgenerates.emits _ _)

section Perform

variable {r : Reading} {scope : Scope} {s : MethodSource} {c : Call} {m : Memory}

theorem perform_taken (hc : c.method = s.method scope)
    (hm : m.object stateProperty = .text s.transition.fromState) :
    c.perform r m =
      some (applyAll m (actionsAll (c.frame r) m (s.effects scope)), .flag true) := by
  rw [perform_method r hc, if_pos hm]

theorem perform_refused (hc : c.method = s.method scope)
    (hm : m.object stateProperty ≠ .text s.transition.fromState) :
    c.perform r m = some (m, .flag false) := by
  rw [perform_method r hc, if_neg hm]

end Perform

end MethodSource

end ExecUml
