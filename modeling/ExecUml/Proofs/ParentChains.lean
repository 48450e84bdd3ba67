import ExecUml.Proofs.ParentConstructors
import Mathlib.Data.List.Chain
import Mathlib.Data.List.Nodup
import Mathlib.Data.List.Perm.Subperm

/-!
# Chains of parents

Following parents as a loop that takes one turn after the other: each turn goes on to the parent of
the class reached, unless that is unknown or has a name met before. The names met are distinct and
indexed, so there are no more turns than indexed classes.

Names are compared, not declarations. For a declaration that lost its name to an earlier one the
loop may stop at its own name although the chain of parents ends, so only for the others a repeated
name means that the chain never ends.
-/

set_option autoImplicit false

namespace ExecUml

namespace ClassIndex

/-- The classes met on a walk from `c`: their names are new, and each is the parent of the one
before. -/
structure IsTrail (ix : ClassIndex) (c : ClassDecl) (met : List ClassDecl) : Prop where
  distinct : (c.name :: met.map (·.name)).Nodup
  linked : (c :: met).IsChain fun a b => ix.parent? a = some b

/-- One turn of the walk from `c`. There is none if the parent of the class reached is unknown or
its name was met. -/
def turn? (ix : ClassIndex) (c : ClassDecl) (met : List ClassDecl) : Option (List ClassDecl) :=
  (ix.parent? (met.getLastD c)).bind fun p =>
    if p.name ∈ c.name :: met.map (·.name) then none else some (met ++ [p])

def afterTurns? (ix : ClassIndex) (c : ClassDecl) : Nat → Option (List ClassDecl)
  | 0 => some []
  | n + 1 => (ix.afterTurns? c n).bind (ix.turn? c)

def nthParent? (ix : ClassIndex) (c : ClassDecl) : Nat → Option ClassDecl
  | 0 => some c
  | n + 1 => (ix.nthParent? c n).bind ix.parent?

variable {ix : ClassIndex} {c p here : ClassDecl} {met met' : List ClassDecl} {seen : List String}
  {n : Nat}

/-! ## Turns -/

theorem turn?_eq_some_iff : ix.turn? c met = some met' ↔
    ∃ p, ix.parent? (met.getLastD c) = some p ∧ p.name ∉ c.name :: met.map (·.name) ∧
      met' = met ++ [p] := by
  unfold turn?
  rw [Option.bind_eq_some_iff]
  apply exists_congr
  intro p
  apply and_congr_right
  intro _
  split
  · simp_all
  · simp_all [eq_comm]

theorem turn?_eq_none_iff : ix.turn? c met = none ↔
    ∀ p, ix.parent? (met.getLastD c) = some p → p.name ∈ c.name :: met.map (·.name) := by
  unfold turn?
  rw [Option.bind_eq_none_iff]
  apply forall_congr'
  intro p
  apply imp_congr_right
  intro _
  split
  · simp_all
  · simp_all

theorem isTrail_nil (ix : ClassIndex) (c : ClassDecl) : ix.IsTrail c [] := ⟨by simp, by simp⟩

theorem IsTrail.turn (h : ix.IsTrail c met) (hturn : ix.turn? c met = some met') :
    ix.IsTrail c met' := by
  obtain ⟨p, hparent, hnew, rfl⟩ := turn?_eq_some_iff.mp hturn
  refine ⟨?_, ?_⟩
  · have hnames : c.name :: (met ++ [p]).map (·.name) = (c.name :: met.map (·.name)) ++
        [p.name] := by simp
    rw [hnames]
    exact h.distinct.append (List.nodup_singleton _) (by simpa using hnew)
  · rw [← List.cons_append]
    refine List.isChain_append.mpr ⟨h.linked, List.isChain_singleton _, ?_⟩
    intro a ha b hb
    simp_all [List.getLast?_cons, List.getLastD_eq_getLast?]

theorem isTrail_of_afterTurns? (h : ix.afterTurns? c n = some met) : ix.IsTrail c met := by
  induction n generalizing met with
  | zero =>
    cases h
    exact isTrail_nil ix c
  | succ n ih =>
    obtain ⟨before, hbefore, hturn⟩ := Option.bind_eq_some_iff.mp h
    exact (ih hbefore).turn hturn

theorem exists_child_of_linked (h : (c :: met).IsChain fun a b => ix.parent? a = some b)
    (hp : p ∈ met) :
    ∃ a, ix.parent? a = some p := by
  induction met generalizing c with
  | nil => cases hp
  | cons q met ih =>
    obtain ⟨hq, hrest⟩ := List.isChain_cons_cons.mp h
    rcases List.mem_cons.mp hp with rfl | hp
    · exact ⟨c, hq⟩
    · exact ih hrest hp

/-- A trail has at most one class for each indexed name. -/
theorem IsTrail.length_le (h : ix.IsTrail c met) : met.length ≤ ix.entries.length := by
  have hindexed : met.map (·.name) ⊆ ix.entries.map (·.2.name) := by
    intro name hname
    obtain ⟨p, hp, rfl⟩ := List.mem_map.mp hname
    obtain ⟨a, ha⟩ := exists_child_of_linked h.linked hp
    obtain ⟨d, hd⟩ := mem_of_parent? ha
    exact List.mem_map.mpr ⟨(d, p), hd, rfl⟩
  have hlength := (List.subperm_of_subset h.distinct.tail hindexed).length_le
  simpa using hlength

/-- The recursion along parents takes the turns that are left, up to the last one. -/
theorem afterTurns?_walk (hseen : ∀ name, name ∈ seen ↔ name ∈ c.name :: met.map (·.name))
    (hhere : met.getLastD c = here) (hmet : ix.afterTurns? c met.length = some met) :
    ix.afterTurns? c (met ++ (ix.walk seen here).1).length = some (met ++ (ix.walk seen here).1) ∧
    ix.turn? c (met ++ (ix.walk seen here).1) = none ∧
    (ix.walk seen here).2 = (ix.parent? ((met ++ (ix.walk seen here).1).getLastD c)).isSome := by
  fun_induction walk ix seen here generalizing met with
  | case1 seen here hp => simp_all [turn?]
  | case2 seen here p hp hs => simp_all [turn?]
  | case3 seen here p hp hs above again hrest ih =>
    have hturn : ix.turn? c met = some (met ++ [p]) :=
      turn?_eq_some_iff.mpr ⟨p, hhere ▸ hp, fun hmem => hs ((hseen _).mpr hmem), rfl⟩
    have hnext : ix.afterTurns? c (met ++ [p]).length = some (met ++ [p]) := by
      rw [List.length_append, List.length_singleton, afterTurns?, hmet, Option.bind_some, hturn]
    have hnames : ∀ name, name ∈ p.name :: seen ↔ name ∈ c.name :: (met ++ [p]).map (·.name) := by
      intro name
      rw [List.mem_cons, hseen, List.map_append, ← List.cons_append, List.mem_append,
        List.map_singleton, List.mem_singleton, or_comm]
    have hrun := ih hnames (by simp) hnext
    simpa [hrest] using hrun

/-! ## Parents of parents -/

theorem name_of_get? {name : String} (h : ix.get? name = some p) : p.name = name := by
  obtain ⟨e, he, rfl⟩ := Option.map_eq_some_iff.mp h
  simpa using List.find?_some he

theorem get?_of_parent? (h : ix.parent? c = some p) : ix.get? p.name = some p := by
  obtain ⟨name, _, hget⟩ := Option.bind_eq_some_iff.mp h
  rw [name_of_get? hget, hget]

theorem getElem?_length (c : ClassDecl) (met : List ClassDecl) :
    (c :: met)[met.length]? = some (met.getLastD c) := by
  have hlast := List.getLast?_eq_getElem? (l := c :: met)
  rw [List.getLast?_cons] at hlast
  simpa using hlast.symm

theorem nthParent?_of_linked (h : (c :: met).IsChain fun a b => ix.parent? a = some b)
    (hn : n ≤ met.length) :
    ix.nthParent? c n = (c :: met)[n]? := by
  induction n with
  | zero => rfl
  | succ n ih =>
    have hlength : n + 1 < (c :: met).length := Nat.lt_succ_of_le hn
    rw [nthParent?, ih (by omega), List.getElem?_eq_getElem (by omega), Option.bind_some,
      h.getElem n hlength, List.getElem?_eq_getElem hlength]

/-- Where the last class of a trail has no parent, the trail is the whole chain. -/
theorem nthParent?_of_ended (h : (c :: met).IsChain fun a b => ix.parent? a = some b)
    (hend : ix.parent? (met.getLastD c) = none) (n : Nat) : ix.nthParent? c n = (c :: met)[n]? := by
  induction n with
  | zero => rfl
  | succ n ih =>
    rcases Nat.lt_trichotomy n met.length with hlt | heq | hgt
    · exact nthParent?_of_linked h hlt
    · subst heq
      rw [nthParent?, ih, getElem?_length, Option.bind_some, hend]
      simp
    · have hout : (c :: met).length ≤ n := hgt
      rw [nthParent?, ih, List.getElem?_eq_none hout,
        List.getElem?_eq_none (Nat.le_succ_of_le hout)]
      rfl

/-- Where the last class of a trail has a parent on the trail, all classes of the trail have. -/
theorem exists_parent_mem (h : (c :: met).IsChain fun a b => ix.parent? a = some b)
    (hlast : ix.parent? (met.getLastD c) = some p) (hp : p ∈ c :: met) {a : ClassDecl}
    (ha : a ∈ c :: met) :
    ∃ b ∈ c :: met, ix.parent? a = some b := by
  obtain ⟨before, after, hsplit⟩ := List.append_of_mem ha
  cases after with
  | nil =>
    have hlength : met.length = before.length := by simpa using congrArg List.length hsplit
    have hhere := getElem?_length c met
    rw [hsplit, hlength] at hhere
    simp only [List.getElem?_concat_length, Option.some.injEq] at hhere
    exact ⟨p, hp, hhere ▸ hlast⟩
  | cons b after =>
    have hmem : b ∈ c :: met := hsplit ▸ by simp
    rw [hsplit] at h
    exact ⟨b, hmem, (List.isChain_append_cons_cons.mp h).2.1⟩

theorem exists_nthParent? {ring : List ClassDecl} (hc : c ∈ ring)
    (h : ∀ a ∈ ring, ∃ b ∈ ring, ix.parent? a = some b) (n : Nat) :
    ∃ a ∈ ring, ix.nthParent? c n = some a := by
  induction n with
  | zero => exact ⟨c, hc, rfl⟩
  | succ n ih =>
    obtain ⟨a, ha, hn⟩ := ih
    obtain ⟨b, hb, hparent⟩ := h a ha
    exact ⟨b, hb, by rw [nthParent?, hn, Option.bind_some, hparent]⟩

/-- If the index has a class under its own name, a name that was met belongs to a class that was
met. -/
theorem mem_trail_of_name (hown : ix.get? c.name = some c) (h : ix.IsTrail c met) {a : ClassDecl}
    (hp : ix.parent? a = some p) (hname : p.name ∈ c.name :: met.map (·.name)) : p ∈ c :: met := by
  have hget := get?_of_parent? hp
  rcases List.mem_cons.mp hname with hname | hname
  · rw [hname, hown] at hget
    exact Option.some.inj hget ▸ List.mem_cons_self
  · obtain ⟨q, hq, hsame⟩ := List.mem_map.mp hname
    obtain ⟨b, hb⟩ := exists_child_of_linked h.linked hq
    rw [← hsame, get?_of_parent? hb] at hget
    exact Option.some.inj hget ▸ List.mem_cons_of_mem _ hq

/-! ## The walk to the ancestors -/

theorem afterTurns?_ancestors (ix : ClassIndex) (c : ClassDecl) :
    ix.afterTurns? c (ix.ancestors c).length = some (ix.ancestors c) ∧
      ix.turn? c (ix.ancestors c) = none ∧
      ix.hasCycle c = (ix.parent? ((ix.ancestors c).getLastD c)).isSome := by
  have hstart : ix.afterTurns? c ([] : List ClassDecl).length = some [] := rfl
  exact afterTurns?_walk (by simp) rfl hstart

theorem isTrail_ancestors (ix : ClassIndex) (c : ClassDecl) : ix.IsTrail c (ix.ancestors c) :=
  isTrail_of_afterTurns? (afterTurns?_ancestors ix c).1

theorem nthParent?_of_hasCycle_eq_false (h : ix.hasCycle c = false) (n : Nat) :
    ix.nthParent? c n = (c :: ix.ancestors c)[n]? := by
  apply nthParent?_of_ended (isTrail_ancestors ix c).linked
  simpa [(afterTurns?_ancestors ix c).2.2] using h

theorem hasCycle_iff_endless (hown : ix.get? c.name = some c) :
    ix.hasCycle c = true ↔ ∀ n, (ix.nthParent? c n).isSome := by
  have htrail := isTrail_ancestors ix c
  obtain ⟨_, hstop, hcycle⟩ := afterTurns?_ancestors ix c
  constructor
  · intro h n
    obtain ⟨p, hp⟩ := Option.isSome_iff_exists.mp (hcycle.symm.trans h)
    have hmem := mem_trail_of_name hown htrail hp (turn?_eq_none_iff.mp hstop p hp)
    obtain ⟨a, _, hn⟩ := exists_nthParent? List.mem_cons_self
      (fun _ => exists_parent_mem htrail.linked hp hmem) n
    rw [hn, Option.isSome_some]
  · intro h
    by_contra hfalse
    have hnone :=
      nthParent?_of_hasCycle_eq_false (Bool.eq_false_iff.mpr hfalse) (ix.ancestors c).length.succ
    have hsome := h (ix.ancestors c).length.succ
    rw [hnone, List.getElem?_eq_none (by simp)] at hsome
    cases hsome

end ClassIndex

/-- Following parents from any class takes at most as many turns as there are indexed classes. It
meets distinct names, goes from parent to parent, and stops only where a parent is unknown or has a
name met before; the latter is what is called a cycle. Otherwise the ancestors are all parents of
parents. For a class that the index has under its own name, a cycle means that every parent has a
parent again. -/
theorem ancestor_walk_ends_exactly (m : Model) (c : ClassDecl) :
    let ix := ClassIndex.ofModel m
    ((ix.ancestors c).length ≤ ix.entries.length ∧
      ix.afterTurns? c (ix.ancestors c).length = some (ix.ancestors c) ∧
      ix.turn? c (ix.ancestors c) = none) ∧
    (c.name :: (ix.ancestors c).map (·.name)).Nodup ∧
    (c :: ix.ancestors c).IsChain (fun a b => ix.parent? a = some b) ∧
    (∀ p, ix.parent? ((ix.ancestors c).getLastD c) = some p →
      p.name ∈ c.name :: (ix.ancestors c).map (·.name)) ∧
    (ix.hasCycle c = true ↔ ∃ p, ix.parent? ((ix.ancestors c).getLastD c) = some p) ∧
    (ix.hasCycle c = false → ∀ n, ix.nthParent? c n = (c :: ix.ancestors c)[n]?) ∧
    (ix.get? c.name = some c → (ix.hasCycle c = true ↔ ∀ n, (ix.nthParent? c n).isSome)) := by
  intro ix
  have htrail := ClassIndex.isTrail_ancestors ix c
  obtain ⟨hturns, hstop, hcycle⟩ := ClassIndex.afterTurns?_ancestors ix c
  refine ⟨⟨htrail.length_le, hturns, hstop⟩, htrail.distinct, htrail.linked,
    ClassIndex.turn?_eq_none_iff.mp hstop, ?_, ClassIndex.nthParent?_of_hasCycle_eq_false,
    ClassIndex.hasCycle_iff_endless⟩
  rw [hcycle, Option.isSome_iff_exists]

/-! A court whose page enters a circle that does not come back to it. The herald has a parent that
nobody declares, and a second herald inherits from the first. -/

namespace Court

open Register (entity)

def page : ClassDecl := entity "Page" (some "Squire") []

def squire : ClassDecl := entity "Squire" (some "Knight") []

def knight : ClassDecl := entity "Knight" (some "Squire") []

def herald : ClassDecl := entity "Herald" (some "Crier") []

def secondHerald : ClassDecl := entity "Herald" (some "Herald") []

def model : Model :=
  ⟨"Court", "1", [⟨"People", "P", [page, squire, knight, herald, secondHerald], []⟩]⟩

/-- The page has two ancestors and parents without end; the chain of the herald is the herald
alone. -/
theorem page_walk_ends :
    (ClassIndex.ofModel model).ancestors page = [squire, knight] ∧
    (ClassIndex.ofModel model).get? "Page" = some page ∧
    (ClassIndex.ofModel model).hasCycle page = true ∧
    (∀ n, ((ClassIndex.ofModel model).nthParent? page n).isSome) ∧
    (ClassIndex.ofModel model).hasCycle herald = false ∧
    ∀ n, (ClassIndex.ofModel model).nthParent? herald n = [herald][n]? := by
  have hancestors :
      (ClassIndex.ofModel model).ancestors page = [squire, knight] := by decide +kernel
  have halone : (ClassIndex.ofModel model).ancestors herald = [] := by decide +kernel
  have hown : (ClassIndex.ofModel model).get? "Page" = some page := by decide +kernel
  have hcycle : (ClassIndex.ofModel model).hasCycle page = true := by decide +kernel
  have hends : (ClassIndex.ofModel model).hasCycle herald = false := by decide +kernel
  obtain ⟨_, _, _, _, _, _, hendless⟩ := ancestor_walk_ends_exactly model page
  obtain ⟨_, _, _, _, _, hchain, _⟩ := ancestor_walk_ends_exactly model herald
  rw [halone] at hchain
  exact ⟨hancestors, hown, hcycle, (hendless hown).mp hcycle, hends, hchain hends⟩

-- The second herald meets its own name at the first one, and yet its chain ends there.
example : (ClassIndex.ofModel model).hasCycle secondHerald = true ∧
    (ClassIndex.ofModel model).nthParent? secondHerald 2 = none := by
  decide +kernel

end Court

end ExecUml
