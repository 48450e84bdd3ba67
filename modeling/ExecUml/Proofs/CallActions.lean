import ExecUml.Proofs.MethodEffects

/-!
# Actions of calls

A call of a generated method is looked at by its actions. The steps of an operation mean a list of
actions on their own, without any code, and the method that is made from an operation acts as its
steps mean, in the source state of its transition and nowhere else.

What a message reads as is left to the `Reading`, as it is for execution.
-/

set_option autoImplicit false

namespace ExecUml

namespace Script

def Call.actions (r : Reading) (c : Call) (m : Memory) : List Action :=
  actionsAll (c.frame r) m c.method.body

end Script

open Script

/-! ## What steps mean -/

/-- An attribute that the class or one of its ancestors has. -/
def Scope.Declares (scope : Scope) (member : String) : Prop :=
  ∃ c ∈ scope.owner :: scope.index.ancestors scope.owner, ∃ a ∈ c.attributes, a.name = member

/-- An update of this attribute is a change of state. -/
def Scope.IsStatus (scope : Scope) (member : String) : Prop :=
  member = statusAttribute ∧ scope.owner.machine.isSome

/-- A step that stands for nothing: neither a message nor an update of anything that is known. -/
def ActionStep.IsIdle (scope : Scope) (step : ActionStep) : Prop :=
  (∀ message, step ≠ .log (some message)) ∧
    ∀ member value, step = .update (some receiver) (some member) (some value) →
      ¬scope.IsStatus member ∧ ¬scope.Declares member

section Meaning

variable (scope : Scope) (parameters : List Parameter) (f : Frame)

/-- The actions that a step stands for in the memory `m`. -/
inductive ActionStep.Means (m : Memory) : ActionStep → List Action → Prop where
  | state {value : String} : scope.owner.machine.isSome →
      Means m (.update (some receiver) (some statusAttribute) (some value))
        [.assign stateProperty (literalValue value)]
  | member {member value : String} : ¬scope.IsStatus member → scope.Declares member →
      Means m (.update (some receiver) (some member) (some value))
        [.assign (camelCase member) (literalValue value)]
  | log {message : String} :
      Means m (.log (some message)) [.log [(messageExpr message parameters).eval f m.object]]
  | nothing {step : ActionStep} : step.IsIdle scope → Means m step []

/-- The actions of steps in their order, each in the memory that those before it leave. -/
inductive StepsMean : Memory → List ActionStep → List Action → Prop where
  | nil (m : Memory) : StepsMean m [] []
  | cons {m : Memory} {step : ActionStep} {steps : List ActionStep} {now later : List Action} :
      step.Means scope parameters f m now → StepsMean (applyAll m now) steps later →
      StepsMean m (step :: steps) (now ++ later)

end Meaning

namespace Operation

/-- An operation with a step that changes the state. -/
def NamesState (op : Operation) (scope : Scope) : Prop :=
  scope.owner.machine.isSome ∧
    ∃ value, .update (some receiver) (some statusAttribute) (some value) ∈ op.steps

/-- The actions of an operation on the way to the state `target`: those of its steps, and the change
of state unless a step makes one. -/
inductive Means (op : Operation) (scope : Scope) (target : String) (f : Frame) (m : Memory) :
    List Action → Prop where
  | stateNamed {actions : List Action} : op.NamesState scope →
      StepsMean scope op.parameters f m op.steps actions → Means op scope target f m actions
  | stateLeft {actions : List Action} : ¬op.NamesState scope →
      StepsMean scope op.parameters f m op.steps actions →
      Means op scope target f m (actions ++ [.assign stateProperty (.text target)])

end Operation

/-- The actions of an event on the way to the state `target`: the change of state, and then the
messages. -/
def eventActions (f : Frame) (m : Memory) (target : String) (messages : List (Option String)) :
    List Action :=
  .assign stateProperty (.text target) :: messages.map fun message =>
    .log [(legacyExpr message).eval f (m.set stateProperty (.text target)).object]

/-- A call that acts in the state `source` only, exactly as `acts` says, and answers whether it
did. -/
structure Script.Call.ActsIn (c : Call) (r : Reading) (m : Memory) (source : String)
    (acts : List Action → Prop) : Prop where
  refused : m.object stateProperty ≠ .text source →
    c.actions r m = [] ∧ c.perform r m = some (m, .flag false)
  taken : m.object stateProperty = .text source →
    (∀ actions, acts actions ↔ actions = c.actions r m) ∧
      c.perform r m = some (applyAll m (c.actions r m), .flag true)

/-! ## What the code of steps does -/

theorem hasAttribute_iff_declares (scope : Scope) (member : String) :
    scope.index.hasAttribute scope.owner member = true ↔ scope.Declares member := by
  simp [ClassIndex.hasAttribute, ClassDecl.hasAttribute, ClassDecl.attribute?, Scope.Declares]

section Steps

variable {scope : Scope} {parameters : List Parameter} {f : Frame} {m : Memory}

theorem updateCode_of_declared {member : String} (hstatus : ¬scope.IsStatus member)
    (hdeclared : scope.Declares member) (value : String) :
    updateCode scope member value = ⟨[memberUpdate member value], false⟩ := by
  unfold Scope.IsStatus at hstatus
  rw [updateCode, if_neg hstatus, if_pos ((hasAttribute_iff_declares scope member).mpr hdeclared)]

theorem updateCode_of_unknown {member : String} (hstatus : ¬scope.IsStatus member)
    (hdeclared : ¬scope.Declares member) (value : String) :
    updateCode scope member value =
      ⟨[.comment ("Update " ++ member ++ " to " ++ value), .disabled (memberUpdate member value)],
        false⟩ := by
  unfold Scope.IsStatus at hstatus
  rw [updateCode, if_neg hstatus, if_neg (mt (hasAttribute_iff_declares scope member).mp hdeclared)]

theorem actions_idle_step {step : ActionStep} (h : step.IsIdle scope) :
    actionsAll f m (stepCode scope parameters step).statements = [] := by
  unfold stepCode
  split
  · rename_i target member value
    split
    · rename_i htarget
      obtain ⟨hstatus, hdeclared⟩ := h.2 member value (by rw [htarget])
      rw [updateCode_of_unknown hstatus hdeclared]
      rfl
    · rfl
  · rfl
  · exact absurd rfl (h.1 _)
  · rfl
  · rfl

theorem actions_stepCode_of_means {step : ActionStep} {actions : List Action}
    (h : step.Means scope parameters f m actions) :
    actionsAll f m (stepCode scope parameters step).statements = actions := by
  cases h with
  | state hmachine =>
    simp [stepCode, updateCode, hmachine, assignState, actions_assign_cons, actionsAll]
  | @member member value hstatus hdeclared =>
    simp [stepCode, updateCode_of_declared hstatus hdeclared, memberUpdate, actions_assign_cons,
      actionsAll]
  | log => simp [stepCode, actions_logStmt_cons, actionsAll]
  | nothing hidle => exact actions_idle_step hidle

/-- Every step means something. -/
theorem exists_means (step : ActionStep) : ∃ actions, step.Means scope parameters f m actions := by
  by_cases hidle : step.IsIdle scope
  · exact ⟨[], .nothing hidle⟩
  · by_cases hlog : ∃ message, step = .log (some message)
    · obtain ⟨message, rfl⟩ := hlog
      exact ⟨_, .log⟩
    · obtain ⟨member, value, rfl, hknown⟩ : ∃ member value,
          step = .update (some receiver) (some member) (some value) ∧
            (scope.IsStatus member ∨ scope.Declares member) := by
        simp only [ActionStep.IsIdle] at hidle
        grind
      by_cases hstatus : scope.IsStatus member
      · obtain ⟨rfl, hmachine⟩ := hstatus
        exact ⟨_, .state hmachine⟩
      · exact ⟨_, .member hstatus (hknown.resolve_left hstatus)⟩

theorem means_iff {step : ActionStep} {actions : List Action} :
    step.Means scope parameters f m actions ↔
      actions = actionsAll f m (stepCode scope parameters step).statements := by
  constructor
  · exact fun h => (actions_stepCode_of_means h).symm
  · rintro rfl
    obtain ⟨actions, h⟩ : ∃ actions, step.Means scope parameters f m actions := exists_means step
    rwa [actions_stepCode_of_means h]

theorem stepsMean_iff {steps : List ActionStep} {actions : List Action} :
    StepsMean scope parameters f m steps actions ↔
      actions = actionsAll f m
        ((steps.map (stepCode scope parameters)).flatMap (·.statements)) := by
  induction steps generalizing m actions with
  | nil =>
    constructor
    · rintro ⟨⟩
      rfl
    · rintro rfl
      exact .nil m
  | cons step steps ih =>
    rw [List.map_cons, List.flatMap_cons, actionsAll_append (execAll_stepCode f m step)]
    constructor
    · rintro (_ | ⟨hnow, hlater⟩)
      rw [means_iff] at hnow
      rw [hnow, ih] at hlater
      rw [hnow, hlater]
    · rintro rfl
      exact .cons (means_iff.mpr rfl) (ih.mpr rfl)

end Steps

theorem Operation.namesState_iff (op : Operation) (scope : Scope) :
    op.NamesState scope ↔ (op.setsStatus && scope.owner.machine.isSome) = true := by
  simp [NamesState, setsStatus, ActionStep.setsStatus_iff, and_comm]

theorem Operation.means_iff {op : Operation} {scope : Scope} {target : String} {f : Frame}
    {m : Memory} {actions : List Action} :
    op.Means scope target f m actions ↔
      actions = actionsAll f m (operationEffects scope op target) := by
  have hsteps : ∀ {actions}, StepsMean scope op.parameters f m op.steps actions ↔
      actions = actionsAll f m (op.stepStatements scope) := stepsMean_iff
  rw [operationEffects_eq, actionsAll_append (execAll_steps f m scope op)]
  by_cases hnames : op.NamesState scope
  · rw [if_pos ((namesState_iff op scope).mp hnames), actionsAll, List.append_nil, ← hsteps]
    constructor
    · rintro (⟨_, hmeans⟩ | ⟨hnot, _⟩)
      · exact hmeans
      · exact absurd hnames hnot
    · exact .stateNamed hnames
  · rw [if_neg (mt (namesState_iff op scope).mpr hnames), assignState, actions_assign_cons]
    constructor
    · rintro (⟨hnamed, _⟩ | ⟨_, hmeans⟩)
      · exact absurd hnamed hnames
      · rw [hsteps.mp hmeans]
        rfl
    · rintro rfl
      exact .stateLeft hnames (hsteps.mpr rfl)

theorem actions_eventEffects (f : Frame) (m : Memory) (target : String)
    (messages : List (Option String)) :
    actionsAll f m (assignState (.string target) :: messages.map fun message =>
      logStmt (legacyExpr message)) = eventActions f m target messages := by
  rw [assignState, actions_assign_cons, actions_logs]
  rfl

/-! ## Calls -/

section Calls

variable {r : Reading} {scope : Scope} {c : Call} {m m' : Memory} {source : String}
  {effects : List Stmt}

theorem actions_taken (hbody : c.method.body = guardedBody source effects)
    (hpassed : execAll (c.frame r) m effects = .next m')
    (hm : m.object stateProperty = .text source) :
    c.actions r m = actionsAll (c.frame r) m effects := by
  rw [Call.actions, hbody]
  simp [guardedBody, actionsAll, Stmt.actions, Stmt.exec, Expr.eval, hm, actionsAll_append hpassed,
    execAll_append, hpassed, execAll, Outcome.actionsThen]

theorem actions_refused (hbody : c.method.body = guardedBody source effects)
    (hm : m.object stateProperty ≠ .text source) : c.actions r m = [] := by
  rw [Call.actions, hbody]
  simp [guardedBody, actionsAll, Stmt.actions, Stmt.exec, Expr.eval, hm, Outcome.actionsThen]

/-- A generated method does what stands under its guard, in its source state. -/
theorem Scope.Generates.actsIn (h : scope.Generates c.method source effects)
    {acts : List Action → Prop}
    (hacts : ∀ actions, acts actions ↔ actions = actionsAll (c.frame r) m effects) :
    c.ActsIn r m source acts := by
  have hpassed := execAll_of_emits h.emits (c.frame r) m
  have hperform := perform_guardedBody h.body hpassed
  constructor
  · intro hm
    rw [if_neg hm] at hperform
    exact ⟨actions_refused h.body hm, hperform⟩
  · intro hm
    rw [if_pos hm] at hperform
    rw [actions_taken h.body hpassed hm]
    exact ⟨hacts, hperform⟩

end Calls

/-- A method made from an operation acts as the steps of the operation mean, and a method made from
an event changes the state and logs its messages: in the source state of the transition, where the
call answers true, and nowhere else, where it answers false. -/
theorem calls_act_as_declared (r : Reading) (scope : Scope) (t : Transition)
    (arguments : List Value)
    (m : Memory) :
    (∀ op : Operation, let call : Call := ⟨operationMethod scope op t, arguments⟩
      call.ActsIn r m t.fromState (op.Means scope t.toState (call.frame r) m)) ∧
    ∀ messages : List (Option String), let call : Call := ⟨eventMethod t messages, arguments⟩
      call.ActsIn r m t.fromState (· = eventActions (call.frame r) m t.toState messages) := by
  refine ⟨fun op => ?_, fun messages => ?_⟩
  · exact (generates_operationMethod scope op t).actsIn fun _ => Operation.means_iff
  · exact (generates_eventMethod scope t messages).actsIn fun _ => by rw [actions_eventEffects]

/-! A clerk is transferred: the state is named first, so that it is not set again at the end, and a
step for an attribute that nobody declares and one of an unknown kind are passed over. -/

namespace Office

def transfer : Operation :=
  ⟨"transfer", [⟨"reason", some "string"⟩],
    [.update (some "this") (some "Status") (some "named"),
     .log (some "moved"),
     .update (some "this") (some "shoe size") (some "42"),
     .update (some "this") (some "full name") (some "7"),
     .unsupported (some "wait")]⟩

def transferCall : Call := ⟨operationMethod scope transfer hire, [.text "ill"]⟩

def newcomer : Memory := ⟨fun _ => .text "new", []⟩

def plainReading : Reading := ⟨fun text _ _ => text, fun _ => ""⟩

def transferActions : List Action :=
  [.assign "state" (.text "named"), .log [.text "moved"], .assign "fullName" (.number 7)]

theorem transfer_means :
    transfer.Means scope "hired" (transferCall.frame plainReading) newcomer transferActions := by
  have hname : scope.Declares "full name" :=
    (hasAttribute_iff_declares scope _).mp (by decide +kernel)
  have hsize : ¬scope.Declares "shoe size" := by
    rw [← hasAttribute_iff_declares]
    decide +kernel
  have hfull : camelCase "full name" = "fullName" := by decide +kernel
  have hstatus : ∀ member, member ≠ "Status" → ¬scope.IsStatus member := fun _ hne h => hne h.1
  have hmoved : messageExpr "moved" transfer.parameters = .string "moved" := by
    have htext : substituted "moved" transfer.parameters = "moved" := by decide +kernel
    rw [messageExpr, htext]
    rfl
  have hnamed : literalValue "named" = .text "named" := by decide +kernel
  have hseven : literalValue "7" = .number 7 := by decide +kernel
  have hunknown :
      (ActionStep.update (some "this") (some "shoe size") (some "42")).IsIdle scope := by
    refine ⟨by simp, ?_⟩
    rintro member value ⟨⟩
    exact ⟨hstatus _ (by decide), hsize⟩
  have hwait : (ActionStep.unsupported (some "wait")).IsIdle scope := ⟨by simp, by simp⟩
  have hsteps : StepsMean scope transfer.parameters (transferCall.frame plainReading) newcomer
      transfer.steps ([.assign stateProperty (literalValue "named")] ++ ([.log [_]] ++ ([] ++
        ([.assign (camelCase "full name") (literalValue "7")] ++ ([] ++ []))))) :=
    .cons (.state rfl) (.cons .log (.cons (.nothing hunknown)
      (.cons (.member (hstatus _ (by decide)) hname) (.cons (.nothing hwait) (.nil _)))))
  rw [hnamed, hseven, hmoved, hfull] at hsteps
  exact .stateNamed ⟨rfl, "named", List.mem_cons_self⟩ hsteps

/-- The transfer of a new clerk acts as its steps mean, and answers true. -/
theorem transfer_acts_as_declared :
    transferCall.actions plainReading newcomer = transferActions ∧
    transferCall.perform plainReading newcomer =
      some (applyAll newcomer transferActions, .flag true) := by
  obtain ⟨hacts, hperform⟩ :=
    ((calls_act_as_declared plainReading scope hire [.text "ill"] newcomer).1 transfer).taken rfl
  have hactions := (hacts transferActions).mp transfer_means
  exact ⟨hactions.symm, hactions ▸ hperform⟩

end Office

end ExecUml
