import ExecUml.Proofs.MethodEffects
import Mathlib.Data.List.Nodup

/-!
# Which methods a state machine has

Every kept source belongs to the machine, and no two of them share a name. If no name is dropped,
the kept sources are all operations of all transitions, and the events of the transitions without
any.
-/

set_option autoImplicit false

namespace ExecUml

open Script

/-- The operations of a transition, or its event if it has none. -/
def Transition.sources (t : Transition) (i : Nat) : List MethodSource :=
  if t.operations.isEmpty then [.event i t] else MethodPlan.operationSources i t

def StateMachine.sources (m : StateMachine) : List MethodSource :=
  m.transitions.zipIdx.flatMap fun (t, i) => t.sources i

/-- A source that a machine can have a method for. -/
def StateMachine.IsSource (m : StateMachine) : MethodSource → Prop
  | .operation _ _ t op => t ∈ m.transitions ∧ op ∈ t.operations
  | .event _ t => t ∈ m.transitions

theorem mem_transitions_of_zipIdx {m : StateMachine} {t : Transition} {i : Nat}
    (h : (t, i) ∈ m.transitions.zipIdx) : t ∈ m.transitions :=
  List.fst_mem_of_mem_zipIdx h

namespace MethodPlan

theorem mem_operationSources {i : Nat} {t : Transition} {s : MethodSource} :
    s ∈ operationSources i t ↔ ∃ op j, (op, j) ∈ t.operations.zipIdx ∧ s = .operation i j t op := by
  unfold operationSources Transition.operations
  cases t.body with
  | messages logs => simp
  | operations ops => simp [eq_comm]

theorem operationSources_eq_nil_iff {i : Nat} {t : Transition} :
    operationSources i t = [] ↔ t.operations = [] := by
  unfold operationSources Transition.operations
  cases t.body with
  | messages logs => simp
  | operations ops => simp

theorem isSource_of_mem_operationSources {m : StateMachine} {i : Nat} {t : Transition}
    (ht : t ∈ m.transitions) {s : MethodSource} (hs : s ∈ operationSources i t) : m.IsSource s := by
  obtain ⟨op, j, hop, rfl⟩ := mem_operationSources.mp hs
  exact ⟨ht, List.fst_mem_of_mem_zipIdx hop⟩

/-- What holds of the empty plan and is kept by trying a source holds of the plan of a machine. -/
theorem ofMachine_induction {P : MethodPlan → Prop} (m : StateMachine) (start : P empty)
    (step : ∀ p s, m.IsSource s → P p → P (p.add s)) : P (ofMachine m) := by
  unfold ofMachine
  refine List.foldlRecOn _ _ start ?_
  rintro p hp ⟨t, i⟩ hti
  have ht := mem_transitions_of_zipIdx hti
  have hops : P ((operationSources i t).foldl add p) :=
    List.foldlRecOn _ _ hp fun q hq s hs => step q s (isSource_of_mem_operationSources ht hs) hq
  unfold addTransition
  simp only
  split
  · exact hops
  · exact step _ (.event i t) ht hops

theorem add_of_mem {p : MethodPlan} {s : MethodSource} (h : s.name ∈ p.names) :
    p.add s = { p with dropped := p.dropped ++ [s.name] } := by
  unfold add
  rw [if_pos (by simpa using h)]

theorem add_of_not_mem {p : MethodPlan} {s : MethodSource} (h : s.name ∉ p.names) :
    p.add s = { p with kept := p.kept ++ [s] } := by
  unfold add
  rw [if_neg (by simpa using h)]

theorem names_add (p : MethodPlan) (s : MethodSource) :
    (p.add s).names = if s.name ∈ p.names then p.names else p.names ++ [s.name] := by
  by_cases h : s.name ∈ p.names
  · rw [add_of_mem h, if_pos h]
    rfl
  · rw [add_of_not_mem h, if_neg h]
    simp [names]

theorem names_nodup (m : StateMachine) : (ofMachine m).names.Nodup := by
  apply ofMachine_induction (P := fun p => p.names.Nodup)
  · exact List.nodup_nil
  · intro p s _ hp
    rw [names_add]
    split
    · exact hp
    · rename_i hnew
      simpa using hp.append (List.nodup_singleton _) (by simpa using hnew)

theorem isSource_of_mem_kept {m : StateMachine} {s : MethodSource} (hs : s ∈ (ofMachine m).kept) :
    m.IsSource s := by
  revert s
  apply ofMachine_induction (P := fun p => ∀ {s}, s ∈ p.kept → m.IsSource s)
  · intro s hs
    simp [empty] at hs
  · intro p source hsource hp s hs
    unfold add at hs
    split at hs
    · exact hp hs
    · rcases List.mem_append.mp hs with hs | hs
      · exact hp hs
      · rw [List.mem_singleton.mp hs]
        exact hsource

theorem kept_of_add {p : MethodPlan} {s : MethodSource} (h : (p.add s).dropped = []) :
    p.dropped = [] ∧ (p.add s).kept = p.kept ++ [s] := by
  unfold add at h ⊢
  split
  · simp_all
  · simp_all

theorem kept_of_foldl_add {p : MethodPlan} {sources : List MethodSource}
    (h : (sources.foldl add p).dropped = []) :
    p.dropped = [] ∧ (sources.foldl add p).kept = p.kept ++ sources := by
  induction sources generalizing p with
  | nil => exact ⟨h, by simp⟩
  | cons s sources ih =>
    obtain ⟨hadd, hkept⟩ := ih h
    obtain ⟨hp, hs⟩ := kept_of_add hadd
    refine ⟨hp, ?_⟩
    rw [List.foldl_cons, hkept, hs]
    simp

theorem kept_of_addTransition {p : MethodPlan} {i : Nat} {t : Transition}
    (h : (p.addTransition i t).dropped = []) :
    p.dropped = [] ∧ (p.addTransition i t).kept = p.kept ++ t.sources i := by
  unfold addTransition at h ⊢
  simp only at h ⊢
  split
  · rename_i hmore
    rw [if_pos hmore] at h
    obtain ⟨hp, hkept⟩ := kept_of_foldl_add h
    have hsome : operationSources i t ≠ [] := by
      intro hnil
      simp [hnil] at hmore
    refine ⟨hp, ?_⟩
    rw [hkept, Transition.sources, if_neg]
    simpa [operationSources_eq_nil_iff] using hsome
  · rename_i hnone
    rw [if_neg hnone] at h
    obtain ⟨hops, hevent⟩ := kept_of_add h
    obtain ⟨hp, hkept⟩ := kept_of_foldl_add hops
    have hnil : operationSources i t = [] := by
      rw [hkept, List.length_append] at hnone
      exact List.length_eq_zero_iff.mp (by omega)
    refine ⟨hp, ?_⟩
    rw [hevent, hkept, hnil, Transition.sources, if_pos]
    · simp
    · simp [operationSources_eq_nil_iff.mp hnil]

theorem kept_of_foldl_addTransition {p : MethodPlan} {transitions : List (Transition × Nat)}
    (h : (transitions.foldl (fun p (t, i) => p.addTransition i t) p).dropped = []) :
    p.dropped = [] ∧ (transitions.foldl (fun p (t, i) => p.addTransition i t) p).kept =
      p.kept ++ transitions.flatMap fun (t, i) => t.sources i := by
  induction transitions generalizing p with
  | nil => exact ⟨h, by simp⟩
  | cons ti transitions ih =>
    obtain ⟨hadd, hkept⟩ := ih h
    obtain ⟨hp, hs⟩ := kept_of_addTransition hadd
    refine ⟨hp, ?_⟩
    rw [List.foldl_cons, hkept, hs]
    simp

theorem kept_eq_sources {m : StateMachine} (h : (ofMachine m).dropped = []) :
    (ofMachine m).kept = m.sources := by
  have hkept := (kept_of_foldl_addTransition (p := empty) h).2
  exact hkept.trans (List.nil_append _)

end MethodPlan

end ExecUml
