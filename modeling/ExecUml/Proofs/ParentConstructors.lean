import ExecUml.Declaration
import ExecUml.Proofs.Findings

/-!
# Constructors along a chain of parents

The ancestors of a class are its parent and the ancestors of the parent, unless the chain comes back
to the class. Hence the inherited parameters of a constructor are all parameters of the constructor
of the parent, although both are gathered by walks of their own.
-/

set_option autoImplicit false

namespace ExecUml

open Script

namespace ClassIndex

variable {ix : ClassIndex} {c p : ClassDecl} {seen seen' : List String}

theorem walk_of_parent?_none (hp : ix.parent? c = none) : ix.walk seen c = ([], false) := by
  unfold walk
  split
  · rfl
  · simp_all

theorem walk_of_mem (hp : ix.parent? c = some p) (hs : p.name ∈ seen) :
    ix.walk seen c = ([], true) := by
  unfold walk
  split
  · simp_all
  · simp_all

theorem walk_of_not_mem (hp : ix.parent? c = some p) (hs : p.name ∉ seen) :
    ix.walk seen c = (p :: (ix.walk (p.name :: seen) p).1, (ix.walk (p.name :: seen) p).2) := by
  rw [walk]
  split
  · simp_all
  · rename_i q hq
    cases hp.symm.trans hq
    rw [dif_neg hs]

/-- A walk that meets no name again does not depend on the names it was to avoid. -/
theorem walk_eq_of_subset (h : (ix.walk seen c).2 = false) (hsub : ∀ name ∈ seen', name ∈ seen) :
    ix.walk seen' c = ix.walk seen c := by
  -- Both lists grow by the same name at every step, so the inclusion is kept along the walk.
  fun_induction walk ix seen c generalizing seen' with
  | case1 seen c hp => exact walk_of_parent?_none hp
  | case2 seen c p hp hs => simp at h
  | case3 seen c p hp hs above again hrest ih =>
    have hs' : p.name ∉ seen' := fun hmem => hs (hsub _ hmem)
    have heq : ix.walk (p.name :: seen') p = ix.walk (p.name :: seen) p := by
      apply ih
      · simpa [hrest] using h
      · intro name hname
        rcases List.mem_cons.mp hname with rfl | hname
        · exact List.mem_cons_self
        · exact List.mem_cons_of_mem _ (hsub name hname)
    rw [walk_of_not_mem hp hs', heq, hrest]

/-- Unless the chain comes back to a class, its ancestors are its parent and those of the parent. -/
theorem ancestors_of_parent? (hp : ix.parent? c = some p) (hcycle : ix.hasCycle c = false) :
    ix.ancestors c = p :: ix.ancestors p := by
  have hs : p.name ∉ [c.name] := by
    intro hs
    simp [hasCycle, walk_of_mem hp hs] at hcycle
  have hwalk := walk_of_not_mem hp hs
  have hrest : (ix.walk [p.name, c.name] p).2 = false := by
    simpa [hasCycle, hwalk] using hcycle
  have heq : ix.walk [p.name] p = ix.walk [p.name, c.name] p :=
    walk_eq_of_subset hrest (by simp)
  simp [ancestors, hwalk, heq]

/-- The parameters that a class inherits are those that its parent inherits and declares. -/
theorem inheritedNaming_of_parent? (hp : ix.parent? c = some p) (hcycle : ix.hasCycle c = false) :
    ix.inheritedNaming c = ix.inheritedNaming p ++ p.namingAttributes := by
  simp [inheritedNaming, ancestors_of_parent? hp hcycle, List.flatMap_append]

end ClassIndex

/-- If all parents are known and no chain of parents comes back, the constructor of a class hands
exactly the parameters of the constructor of its parent on to it, under their names and types, and
adds those of the naming attributes of the class. -/
theorem super_call_agrees_with_parent (m : Model) (d : Domain) (c : ClassDecl) (parent : String)
    (hc : (d, c) ∈ m.declarations) (hparent : c.parent = some parent)
    (hknown : ∀ className parent, .unknownParent className parent ∉ m.findings)
    (hcycles : ∀ className, .inheritanceCycle className ∉ m.findings) :
    ∃ p, (ClassIndex.ofModel m).get? parent = some p ∧
      let own : Scope := ⟨.ofModel m, c⟩
      let above : Scope := ⟨.ofModel m, p⟩
      own.constructor.body.head? =
        some (.expression (.call "super" (above.constructor.params.map (.identifier ·.name)))) ∧
      own.constructor.params = above.constructor.params ++ c.namingAttributes.map (·.param) := by
  obtain ⟨p, hget⟩ := Model.parent_known hc hknown hparent
  have hp : (ClassIndex.ofModel m).parent? c = some p := by
    simp [ClassIndex.parent?, hparent, hget]
  have hcycle := Model.not_hasCycle hc hcycles hparent hget
  have hinherited := ClassIndex.inheritedNaming_of_parent? hp hcycle
  refine ⟨p, hget, ?_, ?_⟩
  · simp [Scope.constructor, Scope.superCall, Scope.inherited, hparent, hinherited, Attribute.param,
      Function.comp_def]
  · simp [Scope.constructor, Scope.inherited, hinherited]

/-! A staff register: the second class called Student lost its name to the first, and inherits
through two steps and from another domain. Between it and a person there are lessons. -/

namespace Register

def named (name : String) : Attribute := ⟨name, some "string", some "naming", none⟩

def entity (name : String) (parent : Option String) (attributes : List Attribute) : ClassDecl :=
  { kind := .ordinary
    name := name
    keyLetter := none
    parent := parent
    isAbstract := false
    description := none
    attributes := attributes
    machine := none }

def person : ClassDecl := entity "Person" none [named "name"]

def employee : ClassDecl := entity "Employee" (some "Person") [named "staff no"]

def tutor : ClassDecl := entity "Student" (some "Employee") [named "class"]

def people : Domain := ⟨"People", "P", [entity "Student" (some "Person") [], person, employee], []⟩

def lessons : Relationship :=
  ⟨"R1", none, [⟨"Student", some "teaches", some "1"⟩, ⟨"Person", none, some "*"⟩],
    some ⟨"Lesson", some "L", [named "hour"]⟩⟩

def teaching : Domain := ⟨"Teaching", "T", [tutor], [lessons]⟩

def model : Model := ⟨"School", "1", [people, teaching]⟩

theorem model_findings_eq : model.findings = [.duplicateClass "Student"] := by decide +kernel

theorem get?_employee : (ClassIndex.ofModel model).get? "Employee" = some employee := by
  decide +kernel

/-- The tutor hands the parameters of an employee on and adds its own. -/
theorem tutor_agrees_with_employee :
    (teaching, tutor) ∈ model.declarations ∧ tutor.parent = some "Employee" ∧
    (Scope.constructor ⟨.ofModel model, tutor⟩).body.head? =
      some (.expression (.call "super"
        ((Scope.constructor ⟨.ofModel model, employee⟩).params.map (.identifier ·.name)))) ∧
    (Scope.constructor ⟨.ofModel model, tutor⟩).params =
      (Scope.constructor ⟨.ofModel model, employee⟩).params ++ [⟨"class_", .named "string"⟩] := by
  have hc : (teaching, tutor) ∈ model.declarations := by
    simp [model, people, teaching, Model.declarations]
  obtain ⟨p, hp, hbody, hparams⟩ :=
    super_call_agrees_with_parent model teaching tutor "Employee" hc rfl
    (by simp [model_findings_eq]) (by simp [model_findings_eq])
  cases get?_employee.symm.trans hp
  have hown : tutor.namingAttributes.map (·.param) = [⟨"class_", .named "string"⟩] := by
    decide +kernel
  exact ⟨hc, rfl, hbody, hparams.trans (congrArg _ hown)⟩

end Register

end ExecUml
