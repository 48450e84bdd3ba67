import ExecUml.Model.Finding

/-!
# What the absence of findings says

Each kind of finding that a model does not have is a fact about its declared classes.
-/

set_option autoImplicit false

namespace ExecUml

namespace Model

variable {m : Model} {d : Domain} {c : ClassDecl}

theorem mem_findings_of_class (hc : (d, c) ∈ m.declarations) {x : Finding}
    (hx : x ∈ c.findings (.ofModel m)) : x ∈ m.findings :=
  List.mem_append_right _ (List.mem_flatMap.mpr ⟨(d, c), hc, hx⟩)

theorem mem_findings_of_parent (hc : (d, c) ∈ m.declarations) {x : Finding}
    (hx : x ∈ c.parentFindings (.ofModel m)) : x ∈ m.findings :=
  mem_findings_of_class hc (List.mem_append_left _ hx)

theorem mem_findings_of_machine (hc : (d, c) ∈ m.declarations) {sm : StateMachine}
    (hsm : c.machine = some sm) {x : Finding} (hx : x ∈ sm.findings c.name) : x ∈ m.findings := by
  apply mem_findings_of_class hc
  unfold ClassDecl.findings
  rw [hsm]
  exact List.mem_append_right _ hx

theorem parent_known (hc : (d, c) ∈ m.declarations)
    (h : ∀ className parent, .unknownParent className parent ∉ m.findings) {parent : String}
    (hp : c.parent = some parent) : ∃ p, (ClassIndex.ofModel m).get? parent = some p := by
  cases hget : (ClassIndex.ofModel m).get? parent with
  | some p => exact ⟨p, rfl⟩
  | none =>
    refine absurd (mem_findings_of_parent hc ?_) (h c.name parent)
    simp [ClassDecl.parentFindings, hp, hget]

theorem not_hasCycle (hc : (d, c) ∈ m.declarations)
    (h : ∀ className, .inheritanceCycle className ∉ m.findings) {parent : String} {p : ClassDecl}
    (hp : c.parent = some parent) (hget : (ClassIndex.ofModel m).get? parent = some p) :
    (ClassIndex.ofModel m).hasCycle c = false := by
  cases hcycle : (ClassIndex.ofModel m).hasCycle c with
  | false => rfl
  | true =>
    refine absurd (mem_findings_of_parent hc ?_) (h c.name)
    simp [ClassDecl.parentFindings, hp, hget, hcycle]

section Machine

variable {sm : StateMachine} (hc : (d, c) ∈ m.declarations) (hsm : c.machine = some sm)
include hc hsm

theorem dropped_eq_nil (h : ∀ method, .duplicateMethod c.name method ∉ m.findings) :
    (MethodPlan.ofMachine sm).dropped = [] := by
  apply List.eq_nil_iff_forall_not_mem.mpr
  intro method hmethod
  refine h method (mem_findings_of_machine hc hsm ?_)
  exact List.mem_append_right _ (List.mem_map.mpr ⟨method, hmethod, rfl⟩)

theorem initial_declared (h : ∀ state, .unknownInitialState c.name state ∉ m.findings)
    {state : String} (hstate : sm.initialState = some state) : state ∈ sm.states := by
  by_cases hdeclared : state ∈ sm.states
  · exact hdeclared
  refine absurd (mem_findings_of_machine hc hsm ?_) (h state)
  apply List.mem_append_left
  apply List.mem_append_left
  simp [StateMachine.initialFindings, hstate, StateMachine.hasState, hdeclared]

theorem transition_declared
    (h : ∀ event state, .unknownTransitionState c.name event state ∉ m.findings)
    {t : Transition} (ht : t ∈ sm.transitions) :
    t.fromState ∈ sm.states ∧ t.toState ∈ sm.states := by
  have hend : ∀ state ∈ [t.fromState, t.toState], state ∈ sm.states := by
    intro state hstate
    by_cases hdeclared : state ∈ sm.states
    · exact hdeclared
    refine absurd (mem_findings_of_machine hc hsm ?_) (h t.event state)
    apply List.mem_append_left
    apply List.mem_append_right
    refine List.mem_flatMap.mpr ⟨t, ht, List.mem_map.mpr ⟨state, ?_, rfl⟩⟩
    simpa [StateMachine.hasState, hdeclared] using hstate
  exact ⟨hend _ (by simp), hend _ (by simp)⟩

end Machine

end Model

end ExecUml
