import ExecUml.Proofs.CallActions
import ExecUml.Proofs.MemberNames
import Mathlib.Logic.Relation

/-!
# New objects

What the constructors of a chain of classes do to a new object. A constructor binds its parameters,
carries out the constructor of the parent on the inherited ones and assigns its own. If every chain
of parents ends and the parameters have distinct names, each naming attribute of the chain ends up
with the argument at its place, however long the chain is.

Initial values of properties are not looked at.
-/

set_option autoImplicit false

namespace ExecUml

open Script

/-- The variables of a constructor, and the constructor `above` of the parent as what it can
call. -/
def constructorFrame (ix : ClassIndex) (r : Reading) (c : ClassDecl) (arguments : List Value)
    (above : ClassDecl → List Value → Memory → Option Memory) : Frame :=
  { reading := r
    bindings := boundVariables (Scope.constructor ⟨ix, c⟩).params arguments
    invoke callee values m :=
      if callee = "super" then (ix.parent? c).bind fun p => above p values m else none }

/-- Carries out the constructor of a class. At most `depth` constructors run inside each other. -/
def construct (ix : ClassIndex) (r : Reading) :
    (depth : Nat) → ClassDecl → List Value → Memory → Option Memory
  | 0, _, _, _ => none
  | depth + 1, c, arguments, m =>
    (execAll (constructorFrame ix r c arguments (construct ix r depth)) m
      (Scope.constructor ⟨ix, c⟩).body).memory?

/-- Puts values into the members of attributes, one after the other. -/
def assigned (attributes : List Attribute) (values : List Value) (m : Memory) : Memory :=
  (attributes.zip values).foldl (fun m e => m.set e.1.memberName e.2) m

/-- The naming attributes of the ancestors and of the class, in the order of the parameters. -/
def ClassIndex.chainNaming (ix : ClassIndex) (c : ClassDecl) : List Attribute :=
  ix.inheritedNaming c ++ c.namingAttributes

/-- `p` is the class that `c` inherits from. -/
def ClassIndex.IsParent (ix : ClassIndex) (c p : ClassDecl) : Prop := ix.parent? c = some p

/-- A class whose chain of parents ends at a class without parent, and is found by the walk along
parents. -/
inductive ClassIndex.Rooted (ix : ClassIndex) : ClassDecl → Prop where
  | root {c : ClassDecl} : c.parent = none → Rooted ix c
  | child {c p : ClassDecl} : ix.parent? c = some p → ix.ancestors c = p :: ix.ancestors p →
      Rooted ix p → Rooted ix c

/-! ## Variables and assignments -/

theorem boundVariables_of_ne {p : Param} {name : String} (h : name ≠ p.name) (ps : List Param)
    (v : Value) (vs : List Value) :
    boundVariables (p :: ps) (v :: vs) name = boundVariables ps vs name := by
  simp [boundVariables, h]

/-- Parameters with distinct names read the arguments in order. -/
theorem map_boundVariables {params : List Param} (h : (params.map (·.name)).Nodup)
    {values : List Value} (hlength : values.length = params.length) :
    params.map (fun p => boundVariables params values p.name) = values := by
  induction params generalizing values with
  | nil => exact (List.length_eq_zero_iff.mp hlength).symm
  | cons p ps ih =>
    obtain ⟨v, vs, rfl⟩ := List.exists_cons_of_length_eq_add_one hlength
    obtain ⟨hp, hps⟩ := List.nodup_cons.mp h
    have hrest : ps.map (fun q => boundVariables (p :: ps) (v :: vs) q.name) = vs := by
      rw [← ih hps (Nat.succ.inj hlength)]
      apply List.map_congr_left
      intro q hq
      have hne : q.name ≠ p.name := fun heq => hp (List.mem_map.mpr ⟨q, hq, heq⟩)
      rw [boundVariables_of_ne hne, ih hps (Nat.succ.inj hlength)]
    rw [List.map_cons, hrest]
    simp [boundVariables]

theorem evalAll_identifiers (f : Frame) (o : Object) (names : List String) :
    evalAll f o (names.map .identifier) = names.map f.bindings := by
  induction names with
  | nil => rfl
  | cons name names ih => simp [evalAll, Expr.eval, ih]

theorem assigned_append {as bs : List Attribute} {vs ws : List Value} (h : as.length = vs.length)
    (m : Memory) : assigned (as ++ bs) (vs ++ ws) m = assigned bs ws (assigned as vs m) := by
  rw [assigned, List.zip_append h, List.foldl_append]
  rfl

theorem execAll_assignments (f : Frame) (m : Memory) (attributes : List Attribute) :
    execAll f m (attributes.map fun a =>
      .assign (.member (camelCase a.name)) (.identifier (parameterName a.name))) =
      .next
        (assigned attributes (attributes.map fun a => f.bindings (parameterName a.name)) m) := by
  induction attributes generalizing m with
  | nil => rfl
  | cons a attributes ih =>
    simp only [List.map_cons, execAll, exec_assign_member, Outcome.andThen_next, ih]
    rfl

theorem assigned_of_not_mem {attributes : List Attribute} {property : String}
    (h : property ∉ attributes.map (·.memberName)) (values : List Value) (m : Memory) :
    (assigned attributes values m).object property = m.object property := by
  induction attributes generalizing values m with
  | nil => rfl
  | cons a attributes ih =>
    cases values with
    | nil => rfl
    | cons v values =>
      obtain ⟨hne, hrest⟩ := List.ne_and_not_mem_of_not_mem_cons h
      have hstep := ih hrest values (m.set a.memberName v)
      rw [Memory.set_object, Function.update_of_ne hne] at hstep
      exact hstep

/-- Attributes with distinct members keep the values they are given. -/
theorem assigned_getElem? {attributes : List Attribute} (h : (attributes.map (·.memberName)).Nodup)
    {values : List Value} {k : Nat} {a : Attribute} {v : Value} (ha : attributes[k]? = some a)
    (hv : values[k]? = some v) (m : Memory) :
    (assigned attributes values m).object a.memberName = v := by
  induction attributes generalizing values k m with
  | nil => simp at ha
  | cons b attributes ih =>
    obtain ⟨hb, hrest⟩ := List.nodup_cons.mp h
    cases values with
    | nil => simp at hv
    | cons w values =>
      cases k with
      | zero =>
        have hab : b = a := Option.some.inj ha
        have hwv : w = v := Option.some.inj hv
        subst hab hwv
        have hstep := assigned_of_not_mem hb values (m.set b.memberName w)
        rw [Memory.set_object, Function.update_self] at hstep
        exact hstep
      | succ k => exact ih hrest ha hv _

/-! ## Chains -/

namespace ClassIndex

variable {ix : ClassIndex} {c p : ClassDecl}

theorem chainNaming_of_root (h : c.parent = none) : ix.chainNaming c = c.namingAttributes := by
  have hwalk : ix.ancestors c = [] := by
    rw [ancestors, walk_of_parent?_none (by simp [parent?, h])]
  simp [chainNaming, inheritedNaming, hwalk]

theorem inheritedNaming_of_ancestors (h : ix.ancestors c = p :: ix.ancestors p) :
    ix.inheritedNaming c = ix.chainNaming p := by
  simp [chainNaming, inheritedNaming, h, List.flatMap_append]

theorem map_param_chainNaming (ix : ClassIndex) (c : ClassDecl) :
    (Scope.constructor ⟨ix, c⟩).params = (ix.chainNaming c).map (·.param) := rfl

/-- The naming attributes of every class that following parents leads to are among the
parameters. -/
theorem Rooted.mem_chainNaming (h : ix.Rooted c) {b : ClassDecl}
    (hb : Relation.ReflTransGen ix.IsParent c b) {a : Attribute}
    (ha : a ∈ b.namingAttributes) : a ∈ ix.chainNaming c := by
  induction h with
  | @root c hnone =>
    rcases hb.cases_head with rfl | ⟨q, hq, _⟩
    · exact List.mem_append_right _ ha
    · simp [IsParent, parent?, hnone] at hq
  | @child c p hp hancestors _ ih =>
    rcases hb.cases_head with rfl | ⟨q, hq, hrest⟩
    · exact List.mem_append_right _ ha
    · cases hp.symm.trans hq
      exact List.mem_append_left _ (inheritedNaming_of_ancestors hancestors ▸ ih hrest)

end ClassIndex

/-- If all parents are known and no chain of parents comes back, every chain ends. -/
theorem Model.rooted {m : Model}
    (hknown : ∀ className parent, .unknownParent className parent ∉ m.findings)
    (hcycles : ∀ className, .inheritanceCycle className ∉ m.findings) {c : ClassDecl}
    (hc : ∀ parent, c.parent = some parent → ∃ d, (d, c) ∈ m.declarations) :
    (ClassIndex.ofModel m).Rooted c := by
  -- The parent has one ancestor less than the class, whatever the names on the chain are.
  induction hn : ((ClassIndex.ofModel m).ancestors c).length using Nat.strongRecOn
    generalizing c with
  | _ n ih =>
    cases hparent : c.parent with
    | none => exact .root hparent
    | some parent =>
      obtain ⟨d, hd⟩ := hc parent hparent
      obtain ⟨p, hget⟩ := parent_known hd hknown hparent
      have hp : (ClassIndex.ofModel m).parent? c = some p := by
        simp [ClassIndex.parent?, hparent, hget]
      have hancestors := ClassIndex.ancestors_of_parent? hp (not_hasCycle hd hcycles hparent hget)
      obtain ⟨e, _, he, _⟩ := ClassIndex.declared_of_get? hget
      have hfewer : ((ClassIndex.ofModel m).ancestors p).length < n := by
        rw [← hn, hancestors, List.length_cons]
        omega
      exact .child hp hancestors (ih _ hfewer (fun _ _ => ⟨e, he⟩) rfl)

/-! ## Constructors -/

section Construct

variable {ix : ClassIndex} {c : ClassDecl} {f : Frame} {m : Memory}

theorem execAll_root (h : c.parent = none) :
    execAll f m (Scope.constructor ⟨ix, c⟩).body =
      .next (assigned c.namingAttributes
        (c.namingAttributes.map fun a => f.bindings (parameterName a.name)) m) := by
  simp only [Scope.constructor, h, Option.isSome_none]
  exact execAll_assignments f m c.namingAttributes

theorem execAll_child {parent : String} (h : c.parent = some parent) {m' : Memory}
    (hsuper : f.invoke "super"
      ((ix.inheritedNaming c).map fun a => f.bindings (parameterName a.name)) m = some m') :
    execAll f m (Scope.constructor ⟨ix, c⟩).body =
      .next (assigned c.namingAttributes
        (c.namingAttributes.map fun a => f.bindings (parameterName a.name)) m') := by
  have hcall : execAll f m [Scope.superCall ⟨ix, c⟩] = .next m' := by
    have hvalues :=
      evalAll_identifiers f m.object ((ix.inheritedNaming c).map fun a => parameterName a.name)
    simp only [List.map_map, Function.comp_def] at hvalues
    simp [execAll, Scope.superCall, Scope.inherited, Stmt.exec, logFunction, hvalues, hsuper,
      Outcome.ofOption]
  simp only [Scope.constructor, h, Option.isSome_some, if_true]
  rw [execAll_append, hcall, Outcome.andThen_next, execAll_assignments]

end Construct

section Chain

variable {ix : ClassIndex} {r : Reading} {c p : ClassDecl} {arguments : List Value}

theorem map_bindings (above : ClassDecl → List Value → Memory → Option Memory)
    (hnames : ((Scope.constructor ⟨ix, c⟩).params.map (·.name)).Nodup)
    (hlength : arguments.length = (Scope.constructor ⟨ix, c⟩).params.length) :
    (ix.chainNaming c).map (fun a =>
      (constructorFrame ix r c arguments above).bindings (parameterName a.name)) = arguments := by
  have hread := map_boundVariables hnames hlength
  simpa only [constructorFrame, ClassIndex.map_param_chainNaming, List.map_map, Function.comp_def,
    Attribute.param] using hread

/-- The constructor of a class in a chain assigns the arguments to the naming attributes of the
chain, oldest class first. -/
theorem construct_of_rooted (hc : ix.Rooted c)
    (hnames : ((Scope.constructor ⟨ix, c⟩).params.map (·.name)).Nodup)
    (hlength : arguments.length = (Scope.constructor ⟨ix, c⟩).params.length) {depth : Nat}
    (hdepth : (ix.ancestors c).length < depth) (m : Memory) :
    construct ix r depth c arguments m = some (assigned (ix.chainNaming c) arguments m) := by
  induction hc generalizing arguments depth m with
  | @root c hnone =>
    obtain ⟨depth, rfl⟩ : ∃ n, depth = n + 1 := ⟨depth - 1, by omega⟩
    have hread := map_bindings (r := r) (construct ix r depth) hnames hlength
    rw [ClassIndex.chainNaming_of_root hnone] at hread ⊢
    rw [construct, execAll_root hnone, hread]
    rfl
  | @child c p hp hancestors _ ih =>
    obtain ⟨depth, rfl⟩ : ∃ n, depth = n + 1 := ⟨depth - 1, by omega⟩
    obtain ⟨parent, hparent, _⟩ := Option.bind_eq_some_iff.mp hp
    have hinherited := ClassIndex.inheritedNaming_of_ancestors hancestors
    have hread := map_bindings (r := r) (construct ix r depth) hnames hlength
    obtain ⟨f, hf⟩ : ∃ f, f = constructorFrame ix r c arguments (construct ix r depth) := ⟨_, rfl⟩
    rw [← hf, ClassIndex.chainNaming, List.map_append] at hread
    -- The arguments fall into those that are handed on and those of the class itself.
    obtain ⟨vs, hvs⟩ :
        ∃ vs, (ix.inheritedNaming c).map (fun a => f.bindings (parameterName a.name)) = vs :=
      ⟨_, rfl⟩
    have hlength' : vs.length = (Scope.constructor ⟨ix, p⟩).params.length := by
      simp [← hvs, hinherited, ClassIndex.map_param_chainNaming]
    have hnames' : ((Scope.constructor ⟨ix, p⟩).params.map (·.name)).Nodup := by
      rw [ClassIndex.map_param_chainNaming, ClassIndex.chainNaming, List.map_append, hinherited,
        List.map_append] at hnames
      exact (List.nodup_append.mp hnames).1
    have hdepth' : (ix.ancestors p).length < depth := by
      rw [hancestors, List.length_cons] at hdepth
      omega
    have habove := ih hnames' hlength' hdepth' m
    have hsuper : f.invoke "super" vs m = some (assigned (ix.inheritedNaming c) vs m) := by
      simp [hf, constructorFrame, hp, habove, hinherited]
    rw [construct, ← hf, execAll_child hparent (hvs ▸ hsuper), ClassIndex.chainNaming, ← hread, hvs,
      assigned_append (by simp [← hvs])]
    rfl

end Chain

/-! ## Models -/

/-- If all parents are known, no chain of parents comes back and the parameters of a class have
distinct names, its constructor comes to an end on every list of arguments of the right length, and
every naming attribute of the class and its ancestors then holds the argument at its place among the
parameters. -/
theorem constructor_initialises_chain {m : Model}
    (hknown : ∀ className parent, .unknownParent className parent ∉ m.findings)
    (hcycles : ∀ className, .inheritanceCycle className ∉ m.findings)
    {d : Domain} (hd : d ∈ m.domains) {c : ClassDecl} (hc : c ∈ d.allClasses)
    (hnames : ((Scope.constructor ⟨.ofModel m, c⟩).params.map (·.name)).Nodup)
    {arguments : List Value}
    (hlength : arguments.length = (Scope.constructor ⟨.ofModel m, c⟩).params.length)
    (r : Reading) (start : Memory) :
    ∃ finish : Memory,
      (∀ depth, ((ClassIndex.ofModel m).ancestors c).length < depth →
        construct (.ofModel m) r depth c arguments start = some finish) ∧
      ∀ b, Relation.ReflTransGen (ClassIndex.ofModel m).IsParent c b →
        ∀ a ∈ b.namingAttributes, ∃ k : Nat,
          (Scope.constructor ⟨.ofModel m, c⟩).params[k]? = some a.param ∧
          arguments[k]? = some (finish.object (camelCase a.name)) := by
  have hrooted : (ClassIndex.ofModel m).Rooted c := by
    apply Model.rooted hknown hcycles
    intro parent hparent
    exact ⟨d, Model.mem_declarations.mpr ⟨hd, Domain.mem_classes_of_parent hc hparent⟩⟩
  refine ⟨assigned ((ClassIndex.ofModel m).chainNaming c) arguments start, ?_, ?_⟩
  · intro depth hdepth
    exact construct_of_rooted hrooted hnames hlength hdepth start
  · intro b hb a ha
    obtain ⟨k, hk⟩ := List.mem_iff_getElem?.mp (hrooted.mem_chainNaming hb ha)
    have hparam : (Scope.constructor ⟨.ofModel m, c⟩).params[k]? = some a.param := by
      rw [ClassIndex.map_param_chainNaming, List.getElem?_map, hk]
      rfl
    obtain ⟨hinside, _⟩ := List.getElem?_eq_some_iff.mp hparam
    have hvalue : arguments[k]? = some arguments[k] := List.getElem?_eq_getElem (hlength ▸ hinside)
    have hmembers := (params_nodup_iff ⟨.ofModel m, c⟩).mp hnames
    refine ⟨k, hparam, ?_⟩
    rw [hvalue]
    exact congrArg some (assigned_getElem? hmembers hk hvalue start).symm

namespace Register

def newTutor : List Value := [.text "Ann", .number 7, .text "5b"]

def blank : Memory := ⟨fun _ => .undefined, []⟩

theorem params_tutor : (Scope.constructor ⟨.ofModel model, tutor⟩).params =
    [⟨"name", .named "string"⟩, ⟨"staffNo", .named "string"⟩, ⟨"class_", .named "string"⟩] := by
  decide +kernel

/-- A tutor is made with a name, a staff number and a class. The class goes from the parameter
`class_` to the member `class`, and the name goes through three constructors to the member of a
person. -/
theorem tutor_holds_arguments :
    ∃ finish, construct (.ofModel model) ⟨fun text _ _ => text, fun _ => ""⟩ 3 tutor newTutor
        blank = some finish ∧
      finish.object "name" = .text "Ann" ∧ finish.object "staffNo" = .number 7 ∧
      finish.object "class" = .text "5b" := by
  have hemployee : (ClassIndex.ofModel model).IsParent tutor employee := by
    unfold ClassIndex.IsParent
    decide +kernel
  have hperson : (ClassIndex.ofModel model).IsParent employee person := by
    unfold ClassIndex.IsParent
    decide +kernel
  have hancestors :
      (ClassIndex.ofModel model).ancestors tutor = [employee, person] := by decide +kernel
  have hc : tutor ∈ teaching.allClasses := by simp [Domain.allClasses, teaching]
  have hlength : newTutor.length = (Scope.constructor ⟨.ofModel model, tutor⟩).params.length := by
    rw [params_tutor]
    rfl
  obtain ⟨finish, hfinish, hall⟩ := constructor_initialises_chain (by simp [model_findings_eq])
    (by simp [model_findings_eq]) (by simp [model]) hc (by rw [params_tutor]; decide) hlength
    ⟨fun text _ _ => text, fun _ => ""⟩ blank
  rw [params_tutor] at hall
  -- The parameters are distinct, so that the place of an attribute is the only one there is.
  have hplace : ∀ (j : Nat) {b : ClassDecl} {a : Attribute} {v : Value},
      Relation.ReflTransGen (ClassIndex.ofModel model).IsParent tutor b → a ∈ b.namingAttributes →
      [(⟨"name", .named "string"⟩ : Param), ⟨"staffNo", .named "string"⟩,
        ⟨"class_", .named "string"⟩][j]? = some a.param →
      newTutor[j]? = some v → finish.object (camelCase a.name) = v := by
    intro j b a v hb ha hj hv
    obtain ⟨k, hk, hvalue⟩ := hall b hb a ha
    have hkj : k = j :=
      (List.getElem?_inj (List.getElem?_eq_some_iff.mp hk).1 (by decide)).mp (hk.trans hj.symm)
    subst hkj
    exact Option.some.inj (hvalue.symm.trans hv)
  have hname : camelCase "name" = "name" := by decide +kernel
  have hstaff : camelCase "staff no" = "staffNo" := by decide +kernel
  have hclass : camelCase "class" = "class" := by decide +kernel
  refine ⟨finish, hfinish 3 (by simp [hancestors]), ?_, ?_, ?_⟩
  · rw [← hname]
    exact hplace 0 (a := named "name") ((Relation.ReflTransGen.single hemployee).tail hperson)
      (by decide) (by decide +kernel) rfl
  · rw [← hstaff]
    exact hplace 1 (a := named "staff no") (.single hemployee) (by decide) (by decide +kernel) rfl
  · rw [← hclass]
    exact hplace 2 (a := named "class") .refl (by decide) (by decide +kernel) rfl

end Register

end ExecUml
