import ExecUml.Declaration
import ExecUml.Proofs.MachineRuns

/-!
# The states that an object can be in

An object starts in the initial state of its machine. It stays among the declared states as long as
its operations do: an operation that names a state must not be followed there by another text, and
the name must not be spelled like a number or a flag, because such a name is not written as a text.
-/

set_option autoImplicit false

namespace ExecUml

open Script

namespace StateMachine

/-- An object that is in a declared state, which is what the type of its property asks for. -/
def InDeclaredState (sm : StateMachine) (m : Memory) : Prop :=
  (∃ s ∈ sm.states, m.object stateProperty = .text s) ∧
    sm.property.type.Admits (m.object stateProperty)

/-- No sequence of calls gets stuck or leaves the declared states. -/
def StaysDeclared (sm : StateMachine) (r : Reading) (scope : Scope) (start : Memory) : Prop :=
  ∀ calls : List Call, (∀ call ∈ calls, call.method ∈ sm.methods scope) →
    ∃ events, history r start calls = some events ∧
      sm.InDeclaredState (lastMemory start events)

theorem inDeclaredState_of_text {sm : StateMachine} {m : Memory} {s : String} (hs : s ∈ sm.states)
    (hm : m.object stateProperty = .text s) : sm.InDeclaredState m := by
  have htype : sm.property.type = .union sm.states := by
    simp [property, stateType, List.ne_nil_of_mem hs]
  refine ⟨⟨s, hs, hm⟩, ?_⟩
  rw [htype]
  exact ⟨s, hs, hm⟩

theorem state_of_afterInit {sm : StateMachine} {initial : String}
    (h : sm.initialState = some initial) (f : Frame) (m : Memory) :
    (sm.property.afterInit f m).object stateProperty = .text initial := by
  simp [Property.afterInit, property, h, Expr.eval]

end StateMachine

/-- If an operation names a state, the last text that it writes there is the name of a declared
state and is written as a text. -/
def Operation.Settles (op : Operation) (scope : Scope) (sm : StateMachine) : Prop :=
  op.setsStatus = true →
    ∃ value ∈ sm.states, op.lastStateWrite? scope = some value ∧ isBare value = false

theorem Operation.settles_iff {op : Operation} {scope : Scope} {sm : StateMachine}
    (hmachine : scope.owner.machine.isSome) {target : String} (htarget : target ∈ sm.states)
    (f : Frame) (m : Memory) :
    op.Settles scope sm ↔
      ∃ s ∈ sm.states,
        (applyAll m (actionsAll f m (operationEffects scope op target))).object stateProperty =
          .text s := by
  cases hop : op.setsStatus with
  | false =>
    have hstate := state_of_operation f m scope hop target
    exact ⟨fun _ => ⟨target, htarget, hstate⟩, fun _ h => by simp [hop] at h⟩
  | true =>
    obtain ⟨value, hlast⟩ := op.lastStateWrite?_isSome hmachine hop
    have hstate := state_of_status_operation f m hmachine hop hlast target
    constructor
    · intro h
      obtain ⟨value', hvalue, hlast', hbare⟩ := h hop
      have heq : value = value' := Option.some.inj (hlast.symm.trans hlast')
      subst heq
      exact ⟨value, hvalue, hstate.trans (literalValue_of_not_bare hbare)⟩
    · rintro ⟨s, hs, htext⟩ -
      rw [hstate] at htext
      cases hbare : isBare value with
      | true => exact absurd htext (literalValue_of_bare hbare s)
      | false =>
        rw [literalValue_of_not_bare hbare] at htext
        cases htext
        exact ⟨value, hs, hlast, hbare⟩

theorem ActionStep.eq_of_stateWrite? {scope : Scope} {step : ActionStep} {value : String}
    (h : step.stateWrite? scope = some value)
    (hspelling : ∀ member, scope.index.hasAttribute scope.owner member = true →
      camelCase member ≠ stateProperty) :
    step = .update (some receiver) (some statusAttribute) (some value) := by
  unfold stateWrite? at h
  split at h
  · split at h
    · rename_i hwrites
      obtain ⟨htarget, ⟨hmember, _⟩ | ⟨hdeclared, hname⟩⟩ := hwrites
      · cases h
        rw [htarget, hmember]
      · exact absurd hname (hspelling _ hdeclared)
    · simp at h
  · simp at h

/-- Without attributes that are spelled like the state and names that are spelled like numbers or
flags, it is enough that operations name declared states. -/
theorem Operation.settles_of_plain {op : Operation} {scope : Scope} {sm : StateMachine}
    (hmachine : scope.owner.machine.isSome)
    (hstatus : ∀ value, .update (some receiver) (some statusAttribute) (some value) ∈ op.steps →
      value ∈ sm.states)
    (hplain : ∀ s ∈ sm.states, isBare s = false)
    (hspelling : ∀ member, scope.index.hasAttribute scope.owner member = true →
      camelCase member ≠ stateProperty) :
    op.Settles scope sm := by
  intro hop
  obtain ⟨value, hlast⟩ := op.lastStateWrite?_isSome hmachine hop
  obtain ⟨step, hstep, hwrite⟩ := List.mem_filterMap.mp (List.mem_of_getLast? hlast)
  rw [ActionStep.eq_of_stateWrite? hwrite hspelling] at hstep
  exact ⟨value, hstatus value hstep, hlast, hplain value (hstatus value hstep)⟩

/-- The operations of a machine whose source state some sequence of calls gets to settle in a
declared state. -/
def StateMachine.ReachedSettle (sm : StateMachine) (r : Reading) (scope : Scope) (start : Memory) :
    Prop :=
  ∀ t ∈ sm.transitions, ∀ op ∈ t.operations, operationMethod scope op t ∈ sm.methods scope →
    (∃ m, Reached r (sm.methods scope) start m ∧ m.object stateProperty = .text t.fromState) →
      op.Settles scope sm

section Declared

variable {sm : StateMachine} {scope : Scope} (hmachine : scope.owner.machine = some sm)
  (htargets : ∀ t ∈ sm.transitions, t.toState ∈ sm.states) {r : Reading} {start : Memory}
include hmachine htargets

theorem reachedSettle_of_staysDeclared (h : sm.StaysDeclared r scope start) :
    sm.ReachedSettle r scope start := by
  intro t ht op hop hmethod hreached
  obtain ⟨m, hm, hsource⟩ := hreached
  let call : Call := ⟨(MethodSource.operation 0 0 t op).method scope, []⟩
  have hperform :=
    MethodSource.perform_taken (r := r) (s := .operation 0 0 t op) (c := call) rfl hsource
  obtain ⟨calls, events, hcalls, hhistory, hlast⟩ := hm.step hmethod hperform
  obtain ⟨events', hhistory', hdeclared⟩ := h calls hcalls
  have heq : events = events' := Option.some.inj (hhistory.symm.trans hhistory')
  subst heq
  rw [hlast] at hdeclared
  exact (Operation.settles_iff (by simp [hmachine]) (htargets t ht) _ _).mpr hdeclared.1

theorem staysDeclared_of_reachedSettle (h : sm.ReachedSettle r scope start)
    (hstart : ∃ s ∈ sm.states, start.object stateProperty = .text s) :
    sm.StaysDeclared r scope start := by
  -- The invariant remembers that a memory was reached: `h` says nothing about other memories.
  have hstep : ∀ call : Call, call.method ∈ sm.methods scope → ∀ m,
      Reached r (sm.methods scope) start m ∧ (∃ s ∈ sm.states, m.object stateProperty = .text s) →
      ∃ m' v, call.perform r m = some (m', v) ∧
        (Reached r (sm.methods scope) start m' ∧
          ∃ s ∈ sm.states, m'.object stateProperty = .text s) ∧ True := by
    rintro call hcall m ⟨hreached, hdeclared⟩
    obtain ⟨source, hsource, hmethod⟩ := List.mem_map.mp hcall
    by_cases hstate : m.object stateProperty = .text source.transition.fromState
    · have hperform := MethodSource.perform_taken (r := r) hmethod.symm hstate
      refine ⟨_, _, hperform, ⟨hreached.step hcall hperform, ?_⟩, trivial⟩
      have hbelongs := MethodPlan.isSource_of_mem_kept hsource
      cases source with
      | event i t => exact ⟨t.toState, htargets t hbelongs, state_of_event _ _ _ _⟩
      | operation i j t op =>
        obtain ⟨ht, hop⟩ := hbelongs
        rw [← hmethod] at hcall
        have hsettles := h t ht op hop hcall ⟨m, hreached, hstate⟩
        exact (Operation.settles_iff (by simp [hmachine]) (htargets t ht) _ _).mp hsettles
    · have hperform := MethodSource.perform_refused (r := r) hmethod.symm hstate
      exact ⟨_, _, hperform, ⟨hreached.step hcall hperform, hdeclared⟩, trivial⟩
  intro calls hcalls
  obtain ⟨events, hhistory, ⟨-, s, hs, hstate⟩, -⟩ := history_invariant
    (P := fun _ => True) hstep ⟨Reached.refl r _ start, hstart⟩ hcalls
  exact ⟨events, hhistory, StateMachine.inDeclaredState_of_text hs hstate⟩

end Declared

/-- Let the initial state, all ends of transitions and all states that operations name be declared.
A new object stays in the declared states if and only if every operation that can be carried out
settles there, and so it does unless a state is spelled like a number or a flag, or an attribute
like the property of the state. -/
theorem stays_declared_iff_reached_settle (r : Reading) (model : Model) (d : Domain) (c : ClassDecl)
    (sm : StateMachine) (initial : String) (hc : (d, c) ∈ model.declarations)
    (hsm : c.machine = some sm) (hinitial : sm.initialState = some initial)
    (hknown : ∀ state, .unknownInitialState c.name state ∉ model.findings)
    (htransitions : ∀ event state, .unknownTransitionState c.name event state ∉ model.findings)
    (hstatus : ∀ t ∈ sm.transitions, ∀ op ∈ t.operations, ∀ value,
      .update (some receiver) (some statusAttribute) (some value) ∈ op.steps → value ∈ sm.states)
    (f : Frame) (m : Memory) :
    let scope : Scope := ⟨.ofModel model, c⟩
    let start := sm.property.afterInit f m
    (sm.StaysDeclared r scope start ↔ sm.ReachedSettle r scope start) ∧
      ((∀ s ∈ sm.states, isBare s = false) →
        (∀ member, scope.index.hasAttribute c member = true → camelCase member ≠ stateProperty) →
          sm.StaysDeclared r scope start) := by
  intro scope start
  have htargets : ∀ t ∈ sm.transitions, t.toState ∈ sm.states := by
    intro t ht
    exact (Model.transition_declared hc hsm htransitions ht).2
  have hstart : ∃ s ∈ sm.states, start.object stateProperty = .text s :=
    ⟨initial, Model.initial_declared hc hsm hknown hinitial,
      StateMachine.state_of_afterInit hinitial f m⟩
  refine ⟨⟨?_, ?_⟩, ?_⟩
  · exact reachedSettle_of_staysDeclared hsm htargets
  · exact fun h => staysDeclared_of_reachedSettle hsm htargets h hstart
  · intro hplain hspelling
    refine staysDeclared_of_reachedSettle hsm htargets ?_ hstart
    intro t ht op hop _ _
    exact Operation.settles_of_plain (by simp [scope, hsm]) (hstatus t ht op hop) hplain hspelling

/-! A lamp whose states are called by numbers: switching it on stores a number, not the name of a
state. -/

namespace Lamp

def switchOn : Operation := ⟨"switchOn", [], [.update (some "this") (some "Status") (some "1")]⟩

def on : Transition := ⟨"0", "1", "on", .operations [switchOn]⟩

def machine : StateMachine := ⟨some "0", ["0", "1"], [on]⟩

def lamp : ClassDecl :=
  { kind := .ordinary
    name := "Lamp"
    keyLetter := none
    parent := none
    isAbstract := false
    description := none
    attributes := []
    machine := some machine }

def domain : Domain := ⟨"Room", "R", [lamp], []⟩

def model : Model := ⟨"House", "1", [domain]⟩

def scope : Scope := ⟨.ofModel model, lamp⟩

theorem findings_of_model : model.findings = [] := by decide +kernel

theorem switchOn_mem_methods : operationMethod scope switchOn on ∈ machine.methods scope := by
  have hkept : .operation 0 0 on switchOn ∈ (MethodPlan.ofMachine machine).kept := by decide +kernel
  exact List.mem_map.mpr ⟨_, hkept, rfl⟩

theorem not_settles_switchOn : ¬ switchOn.Settles scope machine := by
  intro h
  obtain ⟨value, _, hlast, hbare⟩ := h rfl
  have hone : switchOn.lastStateWrite? scope = some "1" := by
    simp [Operation.lastStateWrite?, switchOn, ActionStep.stateWrite?, receiver, statusAttribute,
      scope, lamp]
  cases hone.symm.trans hlast
  exact absurd hbare (by decide +kernel)

/-- All names are declared, and yet a new lamp can leave the declared states. -/
theorem leaves_declared_states :
    (domain, lamp) ∈ model.declarations ∧ model.findings = [] ∧
    (∀ t ∈ machine.transitions, ∀ op ∈ t.operations, ∀ value,
      .update (some receiver) (some statusAttribute) (some value) ∈ op.steps →
        value ∈ machine.states) ∧
    ∀ (r : Reading) (f : Frame) (m : Memory),
      ¬ machine.StaysDeclared r scope (machine.property.afterInit f m) := by
  have hc : (domain, lamp) ∈ model.declarations := by simp [model, domain, Model.declarations]
  have hstatus : ∀ t ∈ machine.transitions, ∀ op ∈ t.operations, ∀ value,
      .update (some receiver) (some statusAttribute) (some value) ∈ op.steps →
        value ∈ machine.states := by
    simp +contextual [machine, on, Transition.operations, switchOn]
  refine ⟨hc, findings_of_model, hstatus, ?_⟩
  intro r f m hstays
  have hiff := (stays_declared_iff_reached_settle r model domain lamp machine "0" hc rfl rfl
    (by simp [findings_of_model]) (by simp [findings_of_model]) hstatus f m).1
  refine not_settles_switchOn
    (hiff.mp hstays on (by simp [machine]) switchOn ?_ switchOn_mem_methods ?_)
  · simp [on, Transition.operations]
  · exact ⟨_, Reached.refl r _ _, StateMachine.state_of_afterInit rfl f m⟩

end Lamp

end ExecUml
