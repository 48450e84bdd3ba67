import ExecUml.Proofs.EmittedCode
import Mathlib.Data.List.Forall2

/-!
# Classes and their interfaces

A class is declared twice, as an interface and as a class that implements it, and its constructor
goes over the attributes once more. All three agree: the same properties stand in both declarations,
the required ones among them are those of the naming attributes and the state, and the constructor
assigns each required attribute from the parameter at its place.
-/

set_option autoImplicit false

namespace ExecUml

namespace Script

/-- The property is what the interface declares: it has the same name and type and may be left out
or not alike. -/
structure Property.Meets (p : Property) (s : Signature) : Prop where
  name : p.name = s.name
  optional : p.optional = s.optional
  type : p.type = s.type

def Stmt.assignment? : Stmt → Option (Expr × Expr)
  | .assign target value => some (target, value)
  | _ => none

/-- Without conditions all assignments stand at the top. -/
theorem targetsOf_of_flat {ss : List Stmt} (h : ∀ s ∈ ss, ∀ test body, s ≠ .cond test body) :
    targetsOf ss = (ss.filterMap Stmt.assignment?).map (·.1) := by
  induction ss with
  | nil => rfl
  | cons s ss ih =>
    obtain ⟨hs, hss⟩ := List.forall_mem_cons.mp h
    rw [targetsOf, ih hss, List.filterMap_cons]
    cases s with
    | cond test body => exact absurd rfl (hs test body)
    | assign target value => rfl
    | expression value => rfl
    | ret value => rfl
    | comment text => rfl
    | disabled inner => rfl

def Constructor.assignments (k : Constructor) : List (Expr × Expr) :=
  k.body.filterMap Stmt.assignment?

end Script

open Script

/-! ## Properties -/

theorem Attribute.property_meets (a : Attribute) : a.property.Meets a.signature := ⟨rfl, rfl, rfl⟩

theorem StateMachine.property_meets (sm : StateMachine) :
    sm.property.Meets ⟨stateProperty, false, sm.stateType⟩ := ⟨rfl, rfl, rfl⟩

theorem Attribute.filter_signatures (attributes : List Attribute) :
    (attributes.map (·.signature)).filter (!·.optional) =
      (attributes.filter (·.isNaming)).map (·.signature) := by
  rw [List.filter_map]
  congr 2
  funext a
  exact Bool.not_not a.isNaming

namespace Scope

variable (scope : Scope)

/-- The state of a class with a machine, as an interface declares it. -/
def stateSignatures : List Signature :=
  scope.owner.machine.toList.map fun sm => ⟨stateProperty, false, sm.stateType⟩

/-- The properties of the interface that are made from attributes and may not be left out. -/
def requiredAttributes : List Signature :=
  (scope.interface.properties.take scope.owner.attributes.length).filter (!·.optional)

theorem interface_properties :
    scope.interface.properties =
      scope.owner.attributes.map (·.signature) ++ scope.stateSignatures := by
  rw [interface, stateSignatures]
  cases scope.owner.machine <;> rfl

theorem properties_meet :
    List.Forall₂ Property.Meets scope.classDecl.properties scope.interface.properties := by
  rw [interface_properties]
  apply List.rel_append
  · rw [List.forall₂_map_left_iff, List.forall₂_map_right_iff, List.forall₂_same]
    exact fun a _ => a.property_meets
  · rw [stateSignatures]
    cases scope.owner.machine with
    | none => exact .nil
    | some sm => exact .cons sm.property_meets .nil

theorem requiredAttributes_eq :
    scope.requiredAttributes = scope.owner.namingAttributes.map (·.signature) := by
  rw [requiredAttributes, interface_properties, List.take_left' (List.length_map _),
    Attribute.filter_signatures]
  rfl

theorem filter_stateSignatures :
    scope.stateSignatures.filter (!·.optional) = scope.stateSignatures := by
  rw [stateSignatures]
  cases scope.owner.machine <;> rfl

theorem required_eq :
    scope.interface.properties.filter (!·.optional) =
      scope.requiredAttributes ++ scope.stateSignatures := by
  rw [requiredAttributes_eq, interface_properties, List.filter_append,
    Attribute.filter_signatures, filter_stateSignatures]
  rfl

/-! ## Assignments -/

/-- The parameters of the attributes of the class itself, behind those that are handed on. -/
def ownParams : List Param := scope.owner.namingAttributes.map (·.param)

theorem params_eq : scope.constructor.params = scope.inherited.map (·.param) ++ scope.ownParams :=
  List.map_append

theorem assignments_eq :
    scope.constructor.assignments =
      List.zipWith (fun s q => (.member s.name, .identifier q.name)) scope.requiredAttributes
        scope.ownParams := by
  have hhanded : (if scope.owner.parent.isSome then [scope.superCall] else []).filterMap
      Stmt.assignment? = [] := by
    split <;> rfl
  rw [requiredAttributes_eq, ownParams, List.zipWith_map, List.zipWith_self,
    Constructor.assignments, constructor, List.filterMap_append, hhanded, List.nil_append,
    List.filterMap_map]
  simp only [Function.comp_def, Stmt.assignment?, Attribute.signature, Attribute.param,
    List.filterMap_eq_map']

/-- Nothing is assigned inside another statement. -/
theorem targets_of_constructor :
    targetsOf scope.constructor.body = scope.constructor.assignments.map (·.1) := by
  apply targetsOf_of_flat
  intro s hs test body
  rcases List.mem_append.mp hs with hs | hs
  · split at hs
    · rw [List.mem_singleton.mp hs]
      exact nofun
    · cases hs
  · obtain ⟨a, _, rfl⟩ := List.mem_map.mp hs
    exact nofun

end Scope

/-- The properties of a class are those of its interface, one by one. The required ones are those of
the naming attributes, in order, and then the state if the class has a machine. The constructor
assigns each required attribute, in order, from the parameter that stands at its place among the
last ones and has its type, and assigns nothing else. -/
theorem class_fulfils_interface (scope : Scope) :
    List.Forall₂ Property.Meets scope.classDecl.properties scope.interface.properties ∧
    scope.interface.properties.filter (!·.optional) =
      scope.requiredAttributes ++ scope.stateSignatures ∧
    List.Forall₂ (fun s a => s.name = camelCase a.name ∧ s.type = a.type) scope.requiredAttributes
      scope.owner.namingAttributes ∧
    ∃ handed own : List Param,
      scope.classDecl.constructor.params = handed ++ own ∧
      List.Forall₂ (fun s q => q.type = s.type) scope.requiredAttributes own ∧
      scope.classDecl.constructor.assignments =
        List.zipWith (fun s q => (.member s.name, .identifier q.name)) scope.requiredAttributes
          own ∧
      targetsOf scope.classDecl.constructor.body =
        scope.classDecl.constructor.assignments.map (·.1) := by
  refine ⟨scope.properties_meet, scope.required_eq, ?_, _, scope.ownParams, scope.params_eq, ?_,
    scope.assignments_eq, scope.targets_of_constructor⟩
  · rw [scope.requiredAttributes_eq, List.forall₂_map_left_iff, List.forall₂_same]
    exact fun a _ => ⟨rfl, rfl⟩
  · rw [scope.requiredAttributes_eq, Scope.ownParams, List.forall₂_map_left_iff,
      List.forall₂_map_right_iff, List.forall₂_same]
    exact fun a _ => rfl

/-! The tickets of a cinema are vouchers for a seat. A voucher has a number, a ticket is sold and
then used. -/

namespace Cinema

def voucher : ClassDecl :=
  { kind := .ordinary
    name := "Voucher"
    keyLetter := none
    parent := none
    isAbstract := false
    description := none
    attributes := [⟨"voucher no", some "ID", some "naming", none⟩]
    machine := none }

def ticket : ClassDecl :=
  { voucher with
    name := "Ticket"
    parent := some "Voucher"
    attributes := [⟨"seat", some "ID", some "naming", none⟩, ⟨"price", some "real", none, some "9"⟩]
    machine := some ⟨some "sold", ["sold", "used"], [⟨"sold", "used", "show", .messages []⟩]⟩ }

def sales : Model := ⟨"Cinema", "1", [⟨"Sales", "S", [voucher, ticket], []⟩]⟩

def scope : Scope := ⟨.ofModel sales, ticket⟩

/-- Seat and state of a ticket are required and the price is not. The constructor takes the number
of the voucher and the seat, and the seat is all that it assigns. -/
theorem ticket_fulfils_interface :
    scope.interface.properties.map (·.name) = ["seat", "price", "state"] ∧
    (scope.interface.properties.filter (!·.optional)).map (·.name) = ["seat", "state"] ∧
    ∃ number seat : Param,
      scope.classDecl.constructor.params = [number, seat] ∧ number.name = "voucherNo" ∧
      scope.classDecl.constructor.assignments = [(.member "seat", .identifier seat.name)] ∧
      targetsOf scope.classDecl.constructor.body = [.member "seat"] := by
  obtain ⟨_, hrequired, _, handed, own, hparams, htypes, hassigned, htargets⟩ :=
    class_fulfils_interface scope
  have hnames : scope.requiredAttributes = [⟨"seat", false, .named "string"⟩] := by decide +kernel
  rw [hnames] at hrequired htypes hassigned
  obtain ⟨seat, rfl⟩ : ∃ seat, own = [seat] := List.length_eq_one_iff.mp htypes.length_eq.symm
  have hcount : handed.length = 1 := by
    have htwo : scope.classDecl.constructor.params.length = 2 := by decide +kernel
    rw [hparams, List.length_append] at htwo
    exact Nat.succ.inj htwo
  obtain ⟨number, rfl⟩ := List.length_eq_one_iff.mp hcount
  have hnumber : scope.classDecl.constructor.params.head?.map (·.name) = some "voucherNo" := by
    decide +kernel
  rw [hparams] at hnumber
  refine ⟨by decide +kernel, ?_, number, seat, hparams, Option.some.inj hnumber, hassigned, ?_⟩
  · rw [hrequired]
    decide +kernel
  · rw [htargets, hassigned]
    rfl

end Cinema

end ExecUml
