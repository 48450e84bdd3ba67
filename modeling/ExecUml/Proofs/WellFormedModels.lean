import ExecUml.Proofs.IndexedNames
import ExecUml.Proofs.MethodPlan
import ExecUml.Proofs.ParentConstructors

/-!
# Models without findings

A model has no findings exactly if it is well formed: names of classes are distinct, chains of
parents end, states are declared and the names of methods are distinct. Well-formedness is said of
the declarations alone, without the index, the walk along parents or the plan of methods.

Classes of relationships take no part: they are not looked at for findings.
-/

set_option autoImplicit false

namespace ExecUml

open Script

/-! ## Names of methods -/

/-- The names that a transition asks for: those of its operations, or that of its event if it has
none. -/
def Transition.methodNames (t : Transition) : List String :=
  if t.operations.isEmpty then [camelCase t.event] else t.operations.map fun op => camelCase op.name

def StateMachine.methodNames (sm : StateMachine) : List String :=
  sm.transitions.flatMap (·.methodNames)

namespace MethodPlan

theorem map_name_operationSources (i : Nat) (t : Transition) :
    (operationSources i t).map (·.name) = t.operations.map fun op => camelCase op.name := by
  unfold operationSources Transition.operations
  cases t.body with
  | messages logs => rfl
  | operations ops =>
    have hfst : ops.zipIdx.map Prod.fst = ops := List.zipIdx_map_fst 0 ops
    simp only [List.map_map]
    nth_rewrite 2 [← hfst]
    rw [List.map_map]
    rfl

theorem map_name_sources (t : Transition) (i : Nat) :
    (t.sources i).map (·.name) = t.methodNames := by
  unfold Transition.sources Transition.methodNames
  split
  · rfl
  · exact map_name_operationSources i t

theorem map_name_machine (sm : StateMachine) : sm.sources.map (·.name) = sm.methodNames := by
  have hfst : sm.transitions.zipIdx.map Prod.fst = sm.transitions := List.zipIdx_map_fst 0 _
  unfold StateMachine.sources StateMachine.methodNames
  rw [List.map_flatMap]
  nth_rewrite 2 [← hfst]
  rw [List.flatMap_map]
  simp only [map_name_sources]

/-- Sources with new names are all kept. -/
theorem foldl_add_of_nodup {p : MethodPlan} {sources : List MethodSource}
    (h : (p.names ++ sources.map (·.name)).Nodup) :
    sources.foldl add p = { p with kept := p.kept ++ sources } := by
  induction sources generalizing p with
  | nil => simp
  | cons s sources ih =>
    have hnew : s.name ∉ p.names := by
      intro hmem
      exact (List.nodup_append.mp h).2.2 _ hmem _ List.mem_cons_self rfl
    have hrest : ((p.add s).names ++ sources.map (·.name)).Nodup := by
      rw [names_add, if_neg hnew]
      simpa using h
    rw [List.foldl_cons, ih hrest, add_of_not_mem hnew]
    simp

/-- The event of a transition is only tried if it has no operations at all. -/
theorem addTransition_of_nodup {p : MethodPlan} {i : Nat} {t : Transition}
    (h : (p.names ++ t.methodNames).Nodup) :
    p.addTransition i t = { p with kept := p.kept ++ t.sources i } := by
  rw [← map_name_sources t i] at h
  by_cases hnone : t.operations = []
  · have hnil : operationSources i t = [] := operationSources_eq_nil_iff.mpr hnone
    have hsources : t.sources i = [.event i t] := by simp [Transition.sources, hnone]
    rw [hsources] at h ⊢
    have hevent : MethodSource.name (.event i t) ∉ p.names := by
      intro hmem
      exact (List.nodup_append.mp h).2.2 _ hmem _ (by simp) rfl
    simp [addTransition, hnil, add_of_not_mem hevent]
  · have hsome : operationSources i t ≠ [] := fun hnil =>
        hnone (operationSources_eq_nil_iff.mp hnil)
    have hsources : t.sources i = operationSources i t := by simp [Transition.sources, hnone]
    rw [hsources] at h ⊢
    simp [addTransition, foldl_add_of_nodup h, List.length_pos_iff.mpr hsome]

theorem foldl_addTransition_of_nodup {p : MethodPlan} {transitions : List (Transition × Nat)}
    (h : (p.names ++ transitions.flatMap (·.1.methodNames)).Nodup) :
    (transitions.foldl (fun p (t, i) => p.addTransition i t) p).dropped = p.dropped := by
  induction transitions generalizing p with
  | nil => rfl
  | cons ti transitions ih =>
    obtain ⟨t, i⟩ := ti
    rw [List.flatMap_cons, ← List.append_assoc] at h
    have hadd := addTransition_of_nodup (i := i) (List.nodup_append.mp h).1
    have hnames : (p.addTransition i t).names = p.names ++ t.methodNames := by
      rw [hadd, ← map_name_sources t i]
      simp [names]
    have hrest := ih (p := p.addTransition i t) (by rwa [hnames])
    rw [List.foldl_cons, hrest, hadd]

/-- No name is dropped exactly if the names asked for are distinct. -/
theorem dropped_eq_nil_iff (sm : StateMachine) :
    (ofMachine sm).dropped = [] ↔ sm.methodNames.Nodup := by
  constructor
  · intro h
    have hnames := names_nodup sm
    rwa [names, kept_eq_sources h, map_name_machine] at hnames
  · intro h
    have hfst : sm.transitions.zipIdx.map Prod.fst = sm.transitions := List.zipIdx_map_fst 0 _
    refine foldl_addTransition_of_nodup (p := empty) ?_
    rw [StateMachine.methodNames, ← hfst, List.flatMap_map] at h
    exact h

end MethodPlan

/-! ## Names of classes -/

namespace ClassIndex

/-- No name is noted as declared again exactly if the names of the declared classes are distinct. -/
theorem duplicates_eq_nil_iff (m : Model) :
    (ofModel m).duplicates = [] ↔ (m.declarations.map (·.2.name)).Nodup := by
  rw [ofModel, List.eq_nil_iff_forall_not_mem, List.nodup_iff_count_le_one]
  refine forall_congr' fun name => ?_
  rw [(listsRepeated_foldl_insert m.declarations).mem_iff]
  omega

theorem get?_eq_none_iff (m : Model) (name : String) :
    (ofModel m).get? name = none ↔ ∀ d ∈ m.declarations, d.2.name ≠ name := by
  simp [get?, declaration?_ofModel]

end ClassIndex

/-! ## Chains of parents -/

namespace Model

/-- Following parents from a class arrives after `n` steps at a class without parent. -/
inductive EndsAfter (m : Model) : Nat → ClassDecl → Prop where
  | root {c : ClassDecl} : c.parent = none → EndsAfter m 0 c
  | step {n : Nat} {c p : ClassDecl} {d : Domain} :
      c.parent = some p.name → (d, p) ∈ m.declarations → EndsAfter m n p → EndsAfter m (n + 1) c

variable {m : Model}

theorem eq_of_name_eq (hnames : (m.declarations.map (·.2.name)).Nodup) {d e : Domain}
    {c p : ClassDecl}
    (hc : (d, c) ∈ m.declarations) (hp : (e, p) ∈ m.declarations) (h : c.name = p.name) :
    c = p := by
  have heq : (d, c) = (e, p) := List.inj_on_of_nodup_map hnames hc hp h
  exact congrArg Prod.snd heq

/-- If names are distinct, the length of a chain is determined. -/
theorem EndsAfter.unique (hnames : (m.declarations.map (·.2.name)).Nodup) {n k : Nat}
    {c : ClassDecl}
    (hn : m.EndsAfter n c) (hk : m.EndsAfter k c) : n = k := by
  induction hn generalizing k with
  | root hnone =>
    cases hk with
    | root _ => rfl
    | step hparent _ _ => simp [hnone] at hparent
  | step hparent hp _ ih =>
    cases hk with
    | root hnone => simp [hnone] at hparent
    | step hparent' hp' hrest =>
      have hname := Option.some.inj (hparent.symm.trans hparent')
      cases eq_of_name_eq hnames hp hp' hname
      rw [ih hrest]

theorem parent?_of_mem (hnames : (m.declarations.map (·.2.name)).Nodup) {d : Domain}
    {c p : ClassDecl}
    (hparent : c.parent = some p.name) (hp : (d, p) ∈ m.declarations) :
    (ClassIndex.ofModel m).parent? c = some p := by
  cases hget : (ClassIndex.ofModel m).get? p.name with
  | none => exact absurd rfl ((ClassIndex.get?_eq_none_iff m p.name).mp hget _ hp)
  | some q =>
    obtain ⟨e, _, hq, hname⟩ := ClassIndex.declared_of_get? hget
    rw [ClassIndex.parent?, hparent, Option.bind_some, hget, eq_of_name_eq hnames hq hp hname]

/-- A walk along a chain that ends meets no name again, provided the names to avoid belong to
classes with a chain at least as long. -/
theorem walk_of_endsAfter (hnames : (m.declarations.map (·.2.name)).Nodup) {n : Nat} {c : ClassDecl}
    (hends : m.EndsAfter n c) {seen : List String}
    (hseen : ∀ d q k, (d, q) ∈ m.declarations → q.name ∈ seen → m.EndsAfter k q → n ≤ k) :
    ((ClassIndex.ofModel m).walk seen c).2 = false := by
  induction hends generalizing seen with
  | root hnone =>
    rw [ClassIndex.walk_of_parent?_none (by simp [ClassIndex.parent?, hnone])]
  | @step n c p d hparent hp hrest ih =>
    have hstep := parent?_of_mem hnames hparent hp
    -- The chain of the parent is shorter than all that were seen, so the parent is not among them.
    have hnew : p.name ∉ seen := by
      intro hmem
      have := hseen d p n hp hmem hrest
      omega
    rw [ClassIndex.walk_of_not_mem hstep hnew]
    apply ih
    intro e q k hq hmem hk
    rcases List.mem_cons.mp hmem with hname | hmem
    · cases eq_of_name_eq hnames hq hp hname
      exact Nat.le_of_eq (hrest.unique hnames hk)
    · have := hseen e q k hq hmem hk
      omega

theorem hasCycle_of_endsAfter (hnames : (m.declarations.map (·.2.name)).Nodup) {d : Domain}
    {c : ClassDecl} (hc : (d, c) ∈ m.declarations) {n : Nat} (hends : m.EndsAfter n c) :
    (ClassIndex.ofModel m).hasCycle c = false := by
  apply walk_of_endsAfter hnames hends
  intro e q k hq hmem hk
  cases eq_of_name_eq hnames hq hc (List.mem_singleton.mp hmem)
  exact Nat.le_of_eq (hends.unique hnames hk)

/-- If all parents are known, a walk that meets no name again is a chain that ends. -/
theorem endsAfter_of_walk (hknown : ∀ d c parent, (d, c) ∈ m.declarations → c.parent = some parent →
      ∃ p, (ClassIndex.ofModel m).get? parent = some p)
    {seen : List String} {d : Domain} {c : ClassDecl} (hc : (d, c) ∈ m.declarations)
    (h : ((ClassIndex.ofModel m).walk seen c).2 = false) : ∃ n, m.EndsAfter n c := by
  cases hparent : c.parent with
  | none => exact ⟨0, .root hparent⟩
  | some parent =>
    obtain ⟨p, hget⟩ := hknown d c parent hc hparent
    have hstep : (ClassIndex.ofModel m).parent? c = some p := by
      rw [ClassIndex.parent?, hparent, Option.bind_some, hget]
    have hnew : p.name ∉ seen := by
      intro hmem
      simp [ClassIndex.walk_of_mem hstep hmem] at h
    obtain ⟨e, _, hp, hname⟩ := ClassIndex.declared_of_get? hget
    have hless := ClassIndex.unseen_lt hstep hnew
    rw [ClassIndex.walk_of_not_mem hstep hnew] at h
    obtain ⟨n, hn⟩ := endsAfter_of_walk hknown hp h
    exact ⟨n + 1, .step (by rw [hparent, hname]) hp hn⟩
termination_by (ClassIndex.ofModel m).unseen seen

end Model

/-! ## Well-formed models -/

/-- The states that a machine speaks of are declared, and the names of its methods are distinct. -/
structure StateMachine.WellFormed (sm : StateMachine) : Prop where
  initial : ∀ state, sm.initialState = some state → state ∈ sm.states
  transitions : ∀ t ∈ sm.transitions, t.fromState ∈ sm.states ∧ t.toState ∈ sm.states
  methods : sm.methodNames.Nodup

/-- The declared classes of a model fit together. -/
structure Model.WellFormed (m : Model) : Prop where
  names : (m.declarations.map (·.2.name)).Nodup
  parents : ∀ d c parent, (d, c) ∈ m.declarations → c.parent = some parent →
    ∃ e p, (e, p) ∈ m.declarations ∧ p.name = parent
  chains : ∀ d c, (d, c) ∈ m.declarations → ∃ n, m.EndsAfter n c
  machines : ∀ d c sm, (d, c) ∈ m.declarations → c.machine = some sm → sm.WellFormed

theorem StateMachine.findings_eq_nil_iff (sm : StateMachine) (className : String) :
    sm.findings className = [] ↔ sm.WellFormed := by
  have hinitial : sm.initialFindings className = [] ↔
      ∀ state, sm.initialState = some state → state ∈ sm.states := by
    unfold initialFindings
    cases sm.initialState with
    | none => simp
    | some state => simp [hasState]
  have htransition : ∀ t, sm.transitionFindings className t = [] ↔
      t.fromState ∈ sm.states ∧ t.toState ∈ sm.states := by
    intro t
    simp [transitionFindings, hasState]
  unfold findings
  rw [List.append_eq_nil_iff, List.append_eq_nil_iff, List.flatMap_eq_nil_iff, List.map_eq_nil_iff,
    hinitial, MethodPlan.dropped_eq_nil_iff]
  simp only [htransition]
  constructor
  · rintro ⟨⟨hstate, hstates⟩, hmethods⟩
    exact ⟨hstate, hstates, hmethods⟩
  · intro h
    exact ⟨⟨h.initial, h.transitions⟩, h.methods⟩

theorem ClassDecl.parentFindings_eq_nil_iff (c : ClassDecl) (ix : ClassIndex) :
    c.parentFindings ix = [] ↔
      ∀ parent, c.parent = some parent → (∃ p, ix.get? parent = some p) ∧
        ix.hasCycle c = false := by
  unfold parentFindings
  cases c.parent with
  | none => simp
  | some parent => cases hget : ix.get? parent <;> simp [hget]

theorem ClassDecl.findings_eq_nil_iff (c : ClassDecl) (ix : ClassIndex) :
    c.findings ix = [] ↔ c.parentFindings ix = [] ∧ ∀ sm, c.machine = some sm → sm.WellFormed := by
  unfold findings
  rw [List.append_eq_nil_iff]
  cases c.machine with
  | none => simp
  | some sm => simp [StateMachine.findings_eq_nil_iff]

/-- A model has no findings exactly if it is well formed. -/
theorem findings_eq_nil_iff_wellFormed (m : Model) : m.findings = [] ↔ m.WellFormed := by
  unfold Model.findings
  simp only [List.append_eq_nil_iff, List.map_eq_nil_iff, ClassIndex.duplicates_eq_nil_iff,
    List.flatMap_eq_nil_iff, Prod.forall, ClassDecl.findings_eq_nil_iff,
    ClassDecl.parentFindings_eq_nil_iff]
  constructor
  · rintro ⟨hnames, hclasses⟩
    have hknown : ∀ d c parent, (d, c) ∈ m.declarations → c.parent = some parent →
        ∃ p, (ClassIndex.ofModel m).get? parent = some p :=
      fun d c parent hc hparent => ((hclasses d c hc).1 parent hparent).1
    refine ⟨hnames, ?_, ?_, fun d c sm hc hsm => (hclasses d c hc).2 sm hsm⟩
    · intro d c parent hc hparent
      obtain ⟨p, hget⟩ := hknown d c parent hc hparent
      obtain ⟨e, _, hp, hname⟩ := ClassIndex.declared_of_get? hget
      exact ⟨e, p, hp, hname⟩
    · intro d c hc
      cases hparent : c.parent with
      | none => exact ⟨0, .root hparent⟩
      | some parent =>
        exact Model.endsAfter_of_walk hknown hc ((hclasses d c hc).1 parent hparent).2
  · intro h
    refine ⟨h.names, fun d c hc => ⟨?_, fun sm hsm => h.machines d c sm hc hsm⟩⟩
    intro parent hparent
    obtain ⟨n, hends⟩ := h.chains d c hc
    refine ⟨?_, Model.hasCycle_of_endsAfter h.names hc hends⟩
    obtain ⟨e, p, hp, rfl⟩ := h.parents d c parent hc hparent
    have hstep := Model.parent?_of_mem h.names hparent hp
    rw [ClassIndex.parent?, hparent, Option.bind_some] at hstep
    exact ⟨p, hstep⟩

end ExecUml
