import ExecUml.Proofs.MethodPlan

/-!
# The sources that are tried for methods

Which sources a plan tries depends on what it has dropped before: the event of a transition is only
tried if none of its operations is kept. Every source that is tried is kept or its name is dropped,
in the order in which they are tried, and what is dropped is dropped for a source of the same name
that is kept in front of it.

A source knows its place in the machine, so that equal operations of different transitions are
different sources.
-/

set_option autoImplicit false

namespace ExecUml

open Script

namespace MethodSource

/-- The number of the transition that a source belongs to. -/
def transitionNumber : MethodSource → Nat
  | operation i _ _ _ => i
  | event i _ => i

end MethodSource

/-- All operations of the `i`-th transition, and its event if none of them is among `kept`. -/
def Transition.tried (t : Transition) (i : Nat) (kept : List MethodSource) : List MethodSource :=
  let operations := t.operations.zipIdx.map fun (op, j) => .operation i j t op
  operations ++ if ∃ s ∈ operations, s ∈ kept then [] else [.event i t]

def StateMachine.tried (m : StateMachine) (kept : List MethodSource) : List MethodSource :=
  m.transitions.zipIdx.flatMap fun (t, i) => t.tried i kept

namespace MethodPlan

/-- A plan that keeps or drops each of the sources `tried`, in their order: it keeps those without a
source of the same name in front, and drops the others for one that it keeps. -/
structure Accounts (p : MethodPlan) (tried : List MethodSource) : Prop where
  kept : p.kept = tried.filter (· ∈ p.kept)
  dropped : p.dropped = (tried.filter (· ∉ p.kept)).map (·.name)
  kept_iff : ∀ before s after, tried = before ++ s :: after →
    (s ∈ p.kept ↔ s.name ∉ before.map (·.name))
  dropped_for : ∀ before s after, tried = before ++ s :: after → s ∉ p.kept →
    ∃ k ∈ before, k ∈ p.kept ∧ k.name = s.name

/-! ## Trying one source after the other -/

section Accounts

variable {p : MethodPlan} {tried : List MethodSource} {s : MethodSource}

theorem Accounts.subset (h : p.Accounts tried) (hs : s ∈ p.kept) : s ∈ tried := by
  rw [h.kept] at hs
  exact (List.mem_filter.mp hs).1

theorem Accounts.mem_names_iff (h : p.Accounts tried) {name : String} :
    name ∈ p.names ↔ name ∈ tried.map (·.name) := by
  constructor
  · intro hname
    obtain ⟨k, hk, rfl⟩ := List.mem_map.mp hname
    exact List.mem_map.mpr ⟨k, h.subset hk, rfl⟩
  · intro hname
    obtain ⟨k, hk, rfl⟩ := List.mem_map.mp hname
    by_cases hkept : k ∈ p.kept
    · exact List.mem_map.mpr ⟨k, hkept, rfl⟩
    · obtain ⟨before, after, hsplit⟩ := List.append_of_mem hk
      obtain ⟨k', _, hk', heq⟩ := h.dropped_for before k after hsplit hkept
      exact List.mem_map.mpr ⟨k', hk', heq⟩

theorem split_concat {x : MethodSource} {before after : List MethodSource}
    (h : tried ++ [s] = before ++ x :: after) :
    (before = tried ∧ x = s) ∨ ∃ rest, tried = before ++ x :: rest := by
  obtain rfl | ⟨rest, y, rfl⟩ := List.eq_nil_or_concat after
  · obtain ⟨htried, hs⟩ := List.append_inj' h rfl
    exact .inl ⟨htried.symm, (List.cons.inj hs).1.symm⟩
  · have hlast : tried ++ [s] = (before ++ x :: rest) ++ [y] := by simpa using h
    exact .inr ⟨rest, (List.append_inj' hlast rfl).1⟩

theorem Accounts.drop (h : p.Accounts tried) (hs : s ∉ tried) (hname : s.name ∈ p.names) :
    Accounts { p with dropped := p.dropped ++ [s.name] } (tried ++ [s]) := by
  have hnot : s ∉ p.kept := fun hkept => hs (h.subset hkept)
  refine ⟨?_, ?_, ?_, ?_⟩
  · simpa [hnot] using h.kept
  · simpa [hnot] using h.dropped
  · intro before x after hsplit
    rcases split_concat hsplit with ⟨rfl, rfl⟩ | ⟨rest, htried⟩
    · simpa [hnot] using h.mem_names_iff.mp hname
    · exact h.kept_iff before x rest htried
  · intro before x after hsplit hx
    rcases split_concat hsplit with ⟨rfl, rfl⟩ | ⟨rest, htried⟩
    · obtain ⟨k, hk, heq⟩ := List.mem_map.mp hname
      exact ⟨k, h.subset hk, hk, heq⟩
    · exact h.dropped_for before x rest htried hx

theorem Accounts.keep (h : p.Accounts tried) (hs : s ∉ tried) (hname : s.name ∉ p.names) :
    Accounts { p with kept := p.kept ++ [s] } (tried ++ [s]) := by
  -- The new source is none of those tried before, so that nothing changes for them.
  have hsame : ∀ x ∈ tried, (x ∈ p.kept ++ [s] ↔ x ∈ p.kept) := by
    intro x hx
    have hne : x ≠ s := fun heq => hs (heq ▸ hx)
    simp [hne]
  have hold : ∀ {before x rest}, tried = before ++ x :: rest → (x ∈ p.kept ++ [s] ↔ x ∈ p.kept) :=
    fun htried => hsame _ (htried ▸ by simp)
  refine ⟨?_, ?_, ?_, ?_⟩
  · have hfilter : tried.filter (· ∈ p.kept ++ [s]) = tried.filter (· ∈ p.kept) :=
      List.filter_congr fun x hx => decide_eq_decide.mpr (hsame x hx)
    simp only [List.filter_append, hfilter, ← h.kept]
    simp
  · have hfilter : tried.filter (· ∉ p.kept ++ [s]) = tried.filter (· ∉ p.kept) :=
      List.filter_congr fun x hx => decide_eq_decide.mpr (not_congr (hsame x hx))
    simp only [List.filter_append, hfilter, List.map_append, ← h.dropped]
    simp
  · intro before x after hsplit
    rcases split_concat hsplit with ⟨rfl, rfl⟩ | ⟨rest, htried⟩
    · simpa using mt h.mem_names_iff.mpr hname
    · rw [hold htried]
      exact h.kept_iff before x rest htried
  · intro before x after hsplit hx
    rcases split_concat hsplit with ⟨rfl, rfl⟩ | ⟨rest, htried⟩
    · simp at hx
    · obtain ⟨k, hk, hkept, heq⟩ := h.dropped_for before x rest htried (mt (hold htried).mpr hx)
      exact ⟨k, hk, List.mem_append_left _ hkept, heq⟩

theorem Accounts.add (h : p.Accounts tried) (hs : s ∉ tried) :
    (p.add s).Accounts (tried ++ [s]) := by
  by_cases hname : s.name ∈ p.names
  · rw [add_of_mem hname]
    exact h.drop hs hname
  · rw [add_of_not_mem hname]
    exact h.keep hs hname

theorem accounts_foldl_add (h : tried.Nodup) :
    (tried.foldl MethodPlan.add empty).Accounts tried := by
  induction tried using List.reverseRecOn with
  | nil => exact ⟨rfl, rfl, by simp, by simp⟩
  | append_singleton tried s ih =>
    have hparts := List.nodup_append.mp h
    rw [List.foldl_append, List.foldl_cons, List.foldl_nil]
    exact (ih hparts.1).add fun hs => hparts.2.2 s hs s (by simp) rfl

end Accounts

/-! ## What a transition adds -/

theorem operationSources_eq (i : Nat) (t : Transition) :
    operationSources i t = t.operations.zipIdx.map fun (op, j) => .operation i j t op := by
  unfold operationSources Transition.operations
  cases t.body <;> rfl

theorem number_of_mem_operationSources {i : Nat} {t : Transition} {s : MethodSource}
    (hs : s ∈ operationSources i t) : s.transitionNumber = i := by
  obtain ⟨op, j, _, rfl⟩ := mem_operationSources.mp hs
  rfl

theorem number_of_mem_tried {t : Transition} {i : Nat} {kept : List MethodSource} {s : MethodSource}
    (hs : s ∈ t.tried i kept) : s.transitionNumber = i := by
  simp only [Transition.tried, ← operationSources_eq] at hs
  rcases List.mem_append.mp hs with hs | hs
  · exact number_of_mem_operationSources hs
  · split at hs
    · simp at hs
    · rw [List.mem_singleton.mp hs]
      rfl

/-- What is kept stays, and only sources that are tried are added. -/
theorem kept_foldl_add (p : MethodPlan) (sources : List MethodSource) :
    ∃ more, (sources.foldl MethodPlan.add p).kept = p.kept ++ more ∧ more.Sublist sources := by
  induction sources generalizing p with
  | nil => exact ⟨[], by simp, .slnil⟩
  | cons s sources ih =>
    obtain ⟨more, hmore, hsub⟩ := ih (p.add s)
    rw [List.foldl_cons, hmore]
    by_cases hname : s.name ∈ p.names
    · exact ⟨more, by rw [add_of_mem hname], hsub.cons s⟩
    · exact ⟨s :: more, by simp [add_of_not_mem hname], hsub.cons_cons s⟩

theorem kept_addTransition (p : MethodPlan) (i : Nat) (t : Transition) :
    ∃ more, (p.addTransition i t).kept = p.kept ++ more ∧ ∀ s ∈ more, s.transitionNumber = i := by
  obtain ⟨more, hmore, hsub⟩ := kept_foldl_add p (operationSources i t)
  have hnumber : ∀ s ∈ more, s.transitionNumber = i :=
    fun s hs => number_of_mem_operationSources (hsub.subset hs)
  unfold addTransition
  simp only
  split
  · exact ⟨more, hmore, hnumber⟩
  · obtain ⟨event, hevent, hsub'⟩ :=
      kept_foldl_add ((operationSources i t).foldl MethodPlan.add p) [.event i t]
    refine ⟨more ++ event, by simpa [hmore] using hevent, ?_⟩
    intro s hs
    rcases List.mem_append.mp hs with hs | hs
    · exact hnumber s hs
    · rw [List.mem_singleton.mp (hsub'.subset hs)]
      rfl

/-- Adding a transition is trying its sources. Whether an operation is kept can be seen from the
plan in the end, because no other transition has the same sources. -/
theorem addTransition_eq_foldl {p : MethodPlan} {i : Nat} (t : Transition)
    {rest : List MethodSource}
    (hp : ∀ s ∈ p.kept, s.transitionNumber ≠ i) (hrest : ∀ s ∈ rest, s.transitionNumber ≠ i) :
    p.addTransition i t = (t.tried i ((p.addTransition i t).kept ++ rest)).foldl MethodPlan.add
      p := by
  obtain ⟨more, hmore, hsub⟩ := kept_foldl_add p (operationSources i t)
  simp only [Transition.tried, ← operationSources_eq, List.foldl_append]
  by_cases hnone : more = []
  · have hadd : p.addTransition i t =
        ((operationSources i t).foldl MethodPlan.add p).add (.event i t) := by
      simp [addTransition, hmore, hnone]
    obtain ⟨event, hevent, hsub'⟩ :=
      kept_foldl_add ((operationSources i t).foldl MethodPlan.add p) [.event i t]
    have hdropped : ¬∃ s ∈ operationSources i t, s ∈ (p.addTransition i t).kept ++ rest := by
      rintro ⟨s, hs, hkept⟩
      have hnumber := number_of_mem_operationSources hs
      obtain ⟨op, j, _, rfl⟩ := mem_operationSources.mp hs
      rcases List.mem_append.mp hkept with hkept | hkept
      · have hall : (p.addTransition i t).kept = p.kept ++ event := by
          simpa [hadd, hmore, hnone] using hevent
        rw [hall] at hkept
        rcases List.mem_append.mp hkept with hkept | hkept
        · exact hp _ hkept hnumber
        · simpa using hsub'.subset hkept
      · exact hrest _ hkept hnumber
    rw [if_neg hdropped, List.foldl_cons, List.foldl_nil, hadd]
  · have hadd : p.addTransition i t = (operationSources i t).foldl MethodPlan.add p := by
      simp [addTransition, hmore, List.length_pos_iff.mpr hnone]
    have hkept : ∃ s ∈ operationSources i t, s ∈ (p.addTransition i t).kept ++ rest := by
      obtain ⟨s, hs⟩ := List.exists_mem_of_ne_nil more hnone
      exact ⟨s, hsub.subset hs, by simp [hadd, hmore, hs]⟩
    rw [if_pos hkept, List.foldl_nil, hadd]

/-- The plan of a machine is made by trying its sources one after the other. -/
theorem foldl_addTransition_eq (transitions : List Transition) (n : Nat) (p : MethodPlan)
    (hp : ∀ s ∈ p.kept, s.transitionNumber < n) :
    ∃ more, (∀ s ∈ more, n ≤ s.transitionNumber) ∧
      ((transitions.zipIdx n).foldl (fun p (t, i) => p.addTransition i t) p).kept = p.kept ++ more ∧
      (transitions.zipIdx n).foldl (fun p (t, i) => p.addTransition i t) p =
        ((transitions.zipIdx n).flatMap fun (t, i) => t.tried i (p.kept ++ more)).foldl
          MethodPlan.add p := by
  induction transitions generalizing n p with
  | nil => exact ⟨[], by simp, by simp, by simp⟩
  | cons t transitions ih =>
    obtain ⟨now, hnow, hnumber⟩ := kept_addTransition p n t
    have hp' : ∀ s ∈ (p.addTransition n t).kept, s.transitionNumber < n + 1 := by
      intro s hs
      rw [hnow] at hs
      rcases List.mem_append.mp hs with hs | hs
      · have := hp s hs
        omega
      · have := hnumber s hs
        omega
    obtain ⟨later, hlater, hkept, heq⟩ := ih (n + 1) (p.addTransition n t) hp'
    have hothers : ∀ s ∈ p.kept, s.transitionNumber ≠ n := fun s hs => by have := hp s hs; omega
    have hfollowing : ∀ s ∈ later, s.transitionNumber ≠ n := by
      intro s hs
      have := hlater s hs
      omega
    have hfirst := addTransition_eq_foldl t hothers hfollowing
    rw [hnow, List.append_assoc] at hfirst hkept heq
    refine ⟨now ++ later, ?_, ?_, ?_⟩
    · intro s hs
      rcases List.mem_append.mp hs with hs | hs
      · have := hnumber s hs
        omega
      · have := hlater s hs
        omega
    · rw [List.zipIdx_cons, List.foldl_cons]
      exact hkept
    · rw [List.zipIdx_cons, List.foldl_cons, List.flatMap_cons, List.foldl_append, ← hfirst]
      exact heq

theorem ofMachine_eq_foldl (m : StateMachine) :
    ofMachine m = (m.tried (ofMachine m).kept).foldl MethodPlan.add empty := by
  obtain ⟨more, _, hkept, heq⟩ := foldl_addTransition_eq m.transitions 0 empty (by simp [empty])
  have hall : (ofMachine m).kept = empty.kept ++ more := hkept
  rw [StateMachine.tried, hall]
  exact heq

/-! ## Places -/

theorem nodup_places {α : Type} (xs : List α) : (xs.zipIdx.map Prod.snd).Nodup := by
  rw [List.zipIdx_map_snd]
  exact List.nodup_range'

theorem nodup_transition_tried (t : Transition) (i : Nat) (kept : List MethodSource) :
    (t.tried i kept).Nodup := by
  simp only [Transition.tried]
  apply List.Nodup.append
  · refine List.Nodup.map_on ?_ (List.Nodup.of_map _ (nodup_places t.operations))
    rintro ⟨op, j⟩ _ ⟨op', j'⟩ _ heq
    simp_all
  · split <;> simp
  · intro s hs hevent
    obtain ⟨⟨op, j⟩, _, rfl⟩ := List.mem_map.mp hs
    split at hevent <;> simp at hevent

theorem nodup_tried (m : StateMachine) (kept : List MethodSource) : (m.tried kept).Nodup := by
  apply List.nodup_flatMap.mpr
  refine ⟨fun ti _ => nodup_transition_tried ti.1 ti.2 kept, ?_⟩
  apply (List.pairwise_map.mp (nodup_places m.transitions)).imp
  intro ti tj hne s hs hs'
  exact hne ((number_of_mem_tried hs).symm.trans (number_of_mem_tried hs'))

end MethodPlan

/-- The plan of a state machine accounts for all sources that are tried, and every transition keeps
an operation or has its event's name among the methods. -/
theorem plan_accounts_for_tried_sources (m : StateMachine) (scope : Scope) :
    let plan := MethodPlan.ofMachine m
    (plan.kept.map (·.name)).Nodup ∧
    (m.methods scope).map (·.name) = plan.kept.map (·.name) ∧
    (m.tried plan.kept).Nodup ∧
    plan.Accounts (m.tried plan.kept) ∧
    ∀ t i, (t, i) ∈ m.transitions.zipIdx →
      (∃ op j, (op, j) ∈ t.operations.zipIdx ∧ .operation i j t op ∈ plan.kept) ∨
        camelCase t.event ∈ plan.kept.map (·.name) := by
  intro plan
  have hnodup : (m.tried plan.kept).Nodup := MethodPlan.nodup_tried m plan.kept
  have haccounts : plan.Accounts (m.tried plan.kept) := by
    have h := MethodPlan.accounts_foldl_add hnodup
    rwa [← MethodPlan.ofMachine_eq_foldl m] at h
  refine ⟨MethodPlan.names_nodup m, by simp [StateMachine.methods, plan], hnodup, haccounts, ?_⟩
  intro t i hti
  by_cases hkept : ∃ s ∈ MethodPlan.operationSources i t, s ∈ plan.kept
  · obtain ⟨s, hs, hkept⟩ := hkept
    obtain ⟨op, j, hop, rfl⟩ := MethodPlan.mem_operationSources.mp hs
    exact .inl ⟨op, j, hop, hkept⟩
  · right
    have hevent : MethodSource.event i t ∈ m.tried plan.kept := by
      refine List.mem_flatMap.mpr ⟨(t, i), hti, ?_⟩
      simp only [Transition.tried, ← MethodPlan.operationSources_eq]
      rw [if_neg hkept]
      simp
    exact haccounts.mem_names_iff.mpr (List.mem_map.mpr ⟨_, hevent, rfl⟩)

/-! A lift door with operations that are spelled alike: the event of the second transition is tried
because its only operation is dropped, and is kept; that of the third is dropped as well. -/

namespace LiftDoor

def plain (name : String) : Operation := ⟨name, [], []⟩

def opening : Transition :=
  ⟨"shut", "open", "call", .operations [plain "open door", plain "Open Door"]⟩

def holding : Transition := ⟨"open", "open", "hold", .operations [plain "OPEN-DOOR"]⟩

def blocking : Transition := ⟨"open", "stuck", "Hold", .operations [plain "open_door"]⟩

def machine : StateMachine := ⟨some "shut", ["shut", "open", "stuck"], [opening, holding, blocking]⟩

def door : ClassDecl :=
  { kind := .ordinary
    name := "Door"
    keyLetter := none
    parent := none
    isAbstract := false
    description := none
    attributes := []
    machine := some machine }

def kept : List MethodSource := [.operation 0 0 opening (plain "open door"), .event 1 holding]

def tried : List MethodSource :=
  [.operation 0 0 opening (plain "open door"), .operation 0 1 opening (plain "Open Door"),
   .operation 1 0 holding (plain "OPEN-DOOR"), .event 1 holding,
   .operation 2 0 blocking (plain "open_door"), .event 2 blocking]

theorem ofMachine_machine :
    MethodPlan.ofMachine machine = ⟨kept, ["openDoor", "openDoor", "openDoor", "hold"]⟩ := by
  decide +kernel

/-- Six sources are tried for the door, of which two are kept. -/
theorem door_accounts_for_tried :
    MethodPlan.Accounts ⟨kept, ["openDoor", "openDoor", "openDoor", "hold"]⟩ tried := by
  have h := (plan_accounts_for_tried_sources machine ⟨.empty, door⟩).2.2.2.1
  have htried : machine.tried kept = tried := by decide +kernel
  rwa [ofMachine_machine, htried] at h

end LiftDoor

end ExecUml
