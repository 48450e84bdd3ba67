import ExecUml.Proofs.Findings
import ExecUml.Proofs.MethodPlan

/-!
# Runs of a state machine

Calls of the generated methods, one after the other, against the transitions that the machine
declares. A call carries its transition out if the object is in the source state, and otherwise
changes nothing.
-/

set_option autoImplicit false

namespace ExecUml

open Script

/-- A call that carries a transition out, or refuses to. -/
structure Transition.Follows (t : Transition) (e : Event) : Prop where
  answer : e.answer = .flag (decide (e.before.object stateProperty = .text t.fromState))
  taken : e.before.object stateProperty = .text t.fromState →
    e.after.object stateProperty = .text t.toState
  refused : e.before.object stateProperty ≠ .text t.fromState → e.after = e.before

/-- The methods of a transition: those of its operations, or that of its event if it has none. -/
def Transition.Yields (t : Transition) (scope : Scope) (method : Method) : Prop :=
  (∃ op ∈ t.operations, method = operationMethod scope op t) ∨
    t.operations = [] ∧ method = eventMethod t t.messages

namespace MethodSource

def setsStatus : MethodSource → Bool
  | operation _ _ _ op => op.setsStatus
  | event _ _ => false

theorem state_of_effects (f : Frame) (m : Memory) (scope : Scope) {s : MethodSource}
    (hs : s.setsStatus = false) :
    (applyAll m (actionsAll f m (s.effects scope))).object stateProperty =
      .text s.transition.toState := by
  cases s with
  | operation i j t op => exact state_of_operation f m scope hs t.toState
  | event i t => exact state_of_event f m t.toState t.messages

variable {r : Reading} {scope : Scope} {s : MethodSource} {c : Call} {m : Memory}

theorem perform_isSome (hc : c.method = s.method scope) :
    ∃ m' v, c.perform r m = some (m', v) :=
  ⟨_, _, perform_method r hc m⟩

theorem follows (hc : c.method = s.method scope) (hs : s.setsStatus = false) {m' : Memory}
    {v : Value} (hperform : c.perform r m = some (m', v)) : s.transition.Follows ⟨c, m, v, m'⟩ := by
  by_cases hsource : m.object stateProperty = .text s.transition.fromState
  · rw [perform_taken hc hsource] at hperform
    cases hperform
    exact ⟨by simp [hsource], fun _ => state_of_effects _ _ _ hs, fun h => absurd hsource h⟩
  · rw [perform_refused hc hsource] at hperform
    cases hperform
    exact ⟨by simp [hsource], fun h => absurd h hsource, fun _ => rfl⟩

end MethodSource

namespace StateMachine

variable {sm : StateMachine} {t : Transition}

theorem mem_sources_of_operation (ht : t ∈ sm.transitions) {op : Operation}
    (hop : op ∈ t.operations) : ∃ i j, .operation i j t op ∈ sm.sources := by
  obtain ⟨i, hi⟩ := List.mem_iff_getElem?.mp ht
  obtain ⟨j, hj⟩ := List.mem_iff_getElem?.mp hop
  refine ⟨i, j, List.mem_flatMap.mpr ⟨(t, i), List.mem_zipIdx_iff_getElem?.mpr hi, ?_⟩⟩
  have hne : t.operations ≠ [] := List.ne_nil_of_mem hop
  simp only [Transition.sources]
  rw [if_neg (by simpa using hne)]
  exact MethodPlan.mem_operationSources.mpr ⟨op, j, List.mem_zipIdx_iff_getElem?.mpr hj, rfl⟩

theorem mem_sources_of_event (ht : t ∈ sm.transitions) (hops : t.operations = []) :
    ∃ i, .event i t ∈ sm.sources := by
  obtain ⟨i, hi⟩ := List.mem_iff_getElem?.mp ht
  refine ⟨i, List.mem_flatMap.mpr ⟨(t, i), List.mem_zipIdx_iff_getElem?.mpr hi, ?_⟩⟩
  simp [Transition.sources, hops]

theorem yields_of_mem_sources {s : MethodSource} (hs : s ∈ sm.sources) (scope : Scope) :
    s.transition ∈ sm.transitions ∧ s.transition.Yields scope (s.method scope) := by
  obtain ⟨⟨t, i⟩, hti, hs⟩ := List.mem_flatMap.mp hs
  have ht := mem_transitions_of_zipIdx hti
  simp only [Transition.sources] at hs
  split at hs
  · rename_i hops
    have hnil : t.operations = [] := by simpa using hops
    rw [List.mem_singleton.mp hs]
    exact ⟨ht, Or.inr ⟨hnil, MethodSource.method_event scope i t⟩⟩
  · obtain ⟨op, j, hop, rfl⟩ := MethodPlan.mem_operationSources.mp hs
    exact ⟨ht, Or.inl ⟨op, List.fst_mem_of_mem_zipIdx hop, rfl⟩⟩

theorem names_of_methods (sm : StateMachine) (scope : Scope) :
    (sm.methods scope).map (·.name) = (MethodPlan.ofMachine sm).names := by
  simp [methods, MethodPlan.names]

end StateMachine

theorem filter_name_eq_singleton {methods : List Method} (h : (methods.map (·.name)).Nodup)
    {x : Method} (hx : x ∈ methods) {name : String} (hname : x.name = name) :
    methods.filter (·.name = name) = [x] := by
  subst hname
  induction methods with
  | nil => simp at hx
  | cons y ys ih =>
    obtain ⟨hy, hys⟩ := List.nodup_cons.mp h
    rcases List.mem_cons.mp hx with rfl | hx
    · have hnone : ys.filter (·.name = x.name) = [] := by
        apply List.filter_eq_nil_iff.mpr
        intro z hz heq
        exact hy (List.mem_map.mpr ⟨z, hz, by simpa using heq⟩)
      simp [hnone]
    · have hne : y.name ≠ x.name := fun heq => hy (List.mem_map.mpr ⟨x, hx, heq.symm⟩)
      simpa [hne] using ih hys hx

theorem Operation.setsStatus_eq_false {op : Operation}
    (h : ∀ value, .update (some receiver) (some statusAttribute) (some value) ∉ op.steps) :
    op.setsStatus = false := by
  apply List.any_eq_false.mpr
  intro step hstep hsets
  obtain ⟨value, rfl⟩ := (ActionStep.setsStatus_iff step).mp hsets
  exact h value hstep

theorem Transition.Yields.source {t : Transition} {scope : Scope} {method : Method}
    (h : t.Yields scope method)
    (hquiet : ∀ op ∈ t.operations, op.setsStatus = false) :
    ∃ s : MethodSource, s.transition = t ∧ s.setsStatus = false ∧ method = s.method scope := by
  rcases h with ⟨op, hop, rfl⟩ | ⟨_, rfl⟩
  · exact ⟨.operation 0 0 t op, rfl, hquiet op hop, rfl⟩
  · exact ⟨.event 0 t, rfl, rfl, (MethodSource.method_event scope 0 t).symm⟩

section Complete

variable {sm : StateMachine} {scope : Scope} (hkept : (MethodPlan.ofMachine sm).kept = sm.sources)
include hkept

/-- If no source is dropped, each has exactly one method. -/
theorem filter_methods_eq_singleton {s : MethodSource} (hs : s ∈ sm.sources) :
    (sm.methods scope).filter (·.name = s.name) = [s.method scope] := by
  have hnames : ((sm.methods scope).map (·.name)).Nodup := by
    rw [StateMachine.names_of_methods]
    exact MethodPlan.names_nodup sm
  have hmem : s.method scope ∈ sm.methods scope := List.mem_map.mpr ⟨s, hkept ▸ hs, rfl⟩
  exact filter_name_eq_singleton hnames hmem (MethodSource.method_name scope s)

theorem call_follows (r : Reading)
    (hquiet : ∀ t ∈ sm.transitions, ∀ op ∈ t.operations, op.setsStatus = false)
    {call : Call} (hcall : call.method ∈ sm.methods scope) (m : Memory) :
    ∃ m' v, call.perform r m = some (m', v) ∧
      (∃ t ∈ sm.transitions, t.Yields scope call.method) ∧
      ∀ t ∈ sm.transitions, t.Yields scope call.method → t.Follows ⟨call, m, v, m'⟩ := by
  obtain ⟨s, hs, hmethod⟩ := List.mem_map.mp hcall
  rw [hkept] at hs
  obtain ⟨m', v, hperform⟩ := MethodSource.perform_isSome (r := r) (m := m) hmethod.symm
  obtain ⟨ht, hyields⟩ := StateMachine.yields_of_mem_sources hs scope
  refine ⟨m', v, hperform, ⟨s.transition, ht, hmethod ▸ hyields⟩, ?_⟩
  intro t ht hyields
  obtain ⟨s', rfl, hs', hmethod'⟩ := hyields.source (hquiet t ht)
  exact MethodSource.follows hmethod' hs' hperform

end Complete

/-- If no method is dropped and no operation names a state, the methods of a class are those of its
transitions, one for each, and all calls follow the transitions. -/
theorem methods_follow_transitions (r : Reading) (model : Model) (d : Domain) (c : ClassDecl)
    (sm : StateMachine) (hc : (d, c) ∈ model.declarations) (hsm : c.machine = some sm)
    (hmethods : ∀ method, .duplicateMethod c.name method ∉ model.findings)
    (hstatus : ∀ t ∈ sm.transitions, ∀ op ∈ t.operations, ∀ value,
      .update (some receiver) (some statusAttribute) (some value) ∉ op.steps) :
    let scope : Scope := ⟨.ofModel model, c⟩
    (∀ t ∈ sm.transitions,
      (∀ op ∈ t.operations, (sm.methods scope).filter (·.name = camelCase op.name) =
        [operationMethod scope op t]) ∧
      (t.operations = [] → (sm.methods scope).filter (·.name = camelCase t.event) =
        [eventMethod t t.messages])) ∧
    ∀ calls : List Call, (∀ call ∈ calls, call.method ∈ sm.methods scope) → ∀ start : Memory,
      ∃ events, history r start calls = some events ∧ events.map (·.call) = calls ∧
        ∀ e ∈ events, (∃ t ∈ sm.transitions, t.Yields scope e.call.method) ∧
          ∀ t ∈ sm.transitions, t.Yields scope e.call.method → t.Follows e := by
  intro scope
  have hkept := MethodPlan.kept_eq_sources (Model.dropped_eq_nil hc hsm hmethods)
  have hquiet : ∀ t ∈ sm.transitions, ∀ op ∈ t.operations, op.setsStatus = false :=
    fun t ht op hop => Operation.setsStatus_eq_false (hstatus t ht op hop)
  refine ⟨fun t ht => ⟨?_, ?_⟩, ?_⟩
  · intro op hop
    obtain ⟨i, j, hs⟩ := StateMachine.mem_sources_of_operation ht hop
    exact filter_methods_eq_singleton hkept hs
  · intro hops
    obtain ⟨i, hs⟩ := StateMachine.mem_sources_of_event ht hops
    rw [← MethodSource.method_event scope i t]
    exact filter_methods_eq_singleton hkept hs
  · intro calls hcalls start
    -- Nothing has to hold between the calls: each of them follows its transition from any memory.
    obtain ⟨events, hhistory, -, hmap, hall⟩ := history_invariant (I := fun _ => True)
      (P := fun e => (∃ t ∈ sm.transitions, t.Yields scope e.call.method) ∧
        ∀ t ∈ sm.transitions, t.Yields scope e.call.method → t.Follows e)
      (fun call hcall m _ => by simpa using call_follows hkept r hquiet hcall m) trivial hcalls
    exact ⟨events, hhistory, hmap, hall⟩

/-! A turnstile: one transition with an operation that also writes an attribute spelled like the
property of the state, and one with a message only. -/

namespace Turnstile

def pay : Operation :=
  { name := "Insert Coin"
    parameters := [⟨"amount", some "integer"⟩]
    steps := [.log (some "paid $\x7bamount\x7d"), .update (some "this") (some "STATE") (some "7")] }

def unlock : Transition := ⟨"Locked", "Open", "coin", .operations [pay]⟩

def lock : Transition := ⟨"Open", "Locked", "push", .messages [some "turned"]⟩

def machine : StateMachine := ⟨some "Locked", ["Locked", "Open"], [unlock, lock]⟩

def gate : ClassDecl :=
  { kind := .ordinary
    name := "Gate"
    keyLetter := none
    parent := none
    isAbstract := false
    description := none
    attributes := [⟨"STATE", some "string", none, none⟩]
    machine := some machine }

def domain : Domain := ⟨"Station", "S", [gate], []⟩

def model : Model := ⟨"Metro", "1", [domain]⟩

def scope : Scope := ⟨.ofModel model, gate⟩

def reading : Reading := ⟨fun text _ _ => text, fun _ => ""⟩

theorem model_findings : model.findings = [] := by decide +kernel

theorem machine_methods :
    machine.methods scope = [operationMethod scope pay unlock, eventMethod lock lock.messages] := by
  have hkept :
      (MethodPlan.ofMachine machine).kept = [.operation 0 0 unlock pay, .event 1 lock] := by
    decide +kernel
  rw [StateMachine.methods, hkept]
  rfl

/-- The turnstile answers a coin and a push from any object as its transitions say. -/
theorem follows_transitions :
    (domain, gate) ∈ model.declarations ∧
    (∀ method, .duplicateMethod gate.name method ∉ model.findings) ∧
    (machine.methods scope).filter (·.name = "insertCoin") = [operationMethod scope pay unlock] ∧
    ∀ start : Memory, ∃ events,
      history reading start
        [⟨operationMethod scope pay unlock, [.number 2]⟩, ⟨eventMethod lock lock.messages, []⟩] =
          some events ∧
      ∀ e ∈ events, ∀ t ∈ machine.transitions, t.Yields scope e.call.method → t.Follows e := by
  have hc : (domain, gate) ∈ model.declarations := by simp [model, domain, Model.declarations]
  have hmethods : ∀ method, .duplicateMethod gate.name method ∉ model.findings := by
    simp [model_findings]
  have hstatus : ∀ t ∈ machine.transitions, ∀ op ∈ t.operations, ∀ value,
      .update (some receiver) (some statusAttribute) (some value) ∉ op.steps := by
    simp [machine, unlock, lock, Transition.operations, pay, statusAttribute]
  obtain ⟨hone, hall⟩ :=
    methods_follow_transitions reading model domain gate machine hc rfl hmethods hstatus
  refine ⟨hc, hmethods, ?_, ?_⟩
  · exact (hone unlock (by simp [machine])).1 pay (by simp [unlock, Transition.operations])
  · intro start
    have hcalls : ∀ call ∈ ([⟨operationMethod scope pay unlock, [.number 2]⟩,
        ⟨eventMethod lock lock.messages, []⟩] : List Call),
          call.method ∈ machine.methods scope := by
      simp [machine_methods]
    obtain ⟨events, hevents, -, hfollows⟩ := hall _ hcalls start
    exact ⟨events, hevents, fun e he => (hfollows e he).2⟩

end Turnstile

end ExecUml
