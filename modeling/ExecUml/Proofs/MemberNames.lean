import ExecUml.Model.Load
import ExecUml.Proofs.EmittedCode
import ExecUml.Proofs.MachineRuns
import ExecUml.Proofs.ModuleGraph
import ExecUml.Proofs.SpelledNames
import ExecUml.Proofs.WellFormedModels

/-!
# Names of members and parameters

Only the methods of a state machine are kept apart from each other. Attributes, the state and the
methods share the members of a class, and the naming attributes of a whole chain of ancestors share
the parameters of a constructor. All of them are spelled in camel case, where names that differ in
the model may be the same.
-/

set_option autoImplicit false

namespace ExecUml

open Script

def Attribute.memberName (a : Attribute) : String := camelCase a.name

@[simp] theorem Attribute.name_property (a : Attribute) : a.property.name = a.memberName := rfl

/-- The names of the members that a class declares: its properties, then its methods. -/
def Script.Class.memberNames (c : Script.Class) : List String :=
  c.propertyNames ++ (c.methods.getD []).map (·.name)

/-- A class whose members are spelled apart, said of its declaration. -/
structure ClassDecl.MembersApart (c : ClassDecl) : Prop where
  attributes : (c.attributes.map (·.memberName)).Nodup
  state : c.machine.isSome → stateProperty ∉ c.attributes.map (·.memberName)
  methods : ∀ sm, c.machine = some sm → ∀ name ∈ sm.methodNames,
    name ∉ c.attributes.map (·.memberName) ∧ name ≠ stateProperty

/-! ## Members -/

theorem StateMachine.names_of_methods_eq {sm : StateMachine}
    (h : (MethodPlan.ofMachine sm).dropped = []) (scope : Scope) :
    (sm.methods scope).map (·.name) = sm.methodNames := by
  rw [names_of_methods, MethodPlan.names, MethodPlan.kept_eq_sources h, MethodPlan.map_name_machine]

theorem memberNames_of_none {scope : Scope} (h : scope.owner.machine = none) :
    scope.classDecl.memberNames = scope.owner.attributes.map (·.memberName) := by
  simp [Class.memberNames, Class.propertyNames, Scope.classDecl, h]

theorem memberNames_of_some {scope : Scope} {sm : StateMachine} (h : scope.owner.machine = some sm)
    (hkept : (MethodPlan.ofMachine sm).dropped = []) :
    scope.classDecl.memberNames =
      scope.owner.attributes.map (·.memberName) ++ stateProperty :: sm.methodNames := by
  simp [Class.memberNames, Class.propertyNames, Scope.classDecl, h, StateMachine.property,
    StateMachine.names_of_methods_eq hkept]

theorem memberNames_nodup_iff {scope : Scope}
    (hkept : ∀ sm, scope.owner.machine = some sm → (MethodPlan.ofMachine sm).dropped = []) :
    scope.classDecl.memberNames.Nodup ↔ scope.owner.MembersApart := by
  cases hmachine : scope.owner.machine with
  | none =>
    rw [memberNames_of_none hmachine]
    constructor
    · intro h
      exact ⟨h, by simp [hmachine], by simp [hmachine]⟩
    · exact fun h => h.attributes
  | some sm =>
    have hmethods : sm.methodNames.Nodup :=
      (MethodPlan.dropped_eq_nil_iff sm).mp (hkept sm hmachine)
    rw [memberNames_of_some hmachine (hkept sm hmachine), List.nodup_append, List.nodup_cons]
    constructor
    · rintro ⟨hattributes, ⟨hstate, _⟩, hapart⟩
      refine ⟨hattributes, fun _ hmem => hapart _ hmem _ List.mem_cons_self rfl, ?_⟩
      intro sm' hsm' name hname
      cases hmachine.symm.trans hsm'
      exact ⟨fun hmem => hapart _ hmem _ (List.mem_cons_of_mem _ hname) rfl,
        fun heq => hstate (heq ▸ hname)⟩
    · intro h
      refine ⟨h.attributes, ⟨fun hmem => (h.methods sm hmachine _ hmem).2 rfl, hmethods⟩, ?_⟩
      rintro a ha b hb rfl
      rcases List.mem_cons.mp hb with rfl | hb
      · exact h.state (by simp [hmachine]) ha
      · exact (h.methods sm hmachine _ hb).1 ha

/-! ## Parameters -/

theorem params_nodup_iff (scope : Scope) :
    (scope.constructor.params.map (·.name)).Nodup ↔
      ((scope.inherited ++ scope.owner.namingAttributes).map (·.memberName)).Nodup := by
  simp only [Scope.constructor, List.map_map, List.Nodup, List.pairwise_map]
  simp [Attribute.param, Attribute.memberName, parameterName_eq_iff]

/-! ## Classes of a model -/

theorem Domain.mem_classes_of_machine {d : Domain} {c : ClassDecl} (hc : c ∈ d.allClasses)
    {sm : StateMachine} (hsm : c.machine = some sm) : c ∈ d.classes := by
  rcases List.mem_append.mp hc with hc | hc
  · exact hc
  · obtain ⟨r, _, hr⟩ := List.mem_filterMap.mp hc
    obtain ⟨a, _, rfl⟩ := Option.map_eq_some_iff.mp hr
    simp at hsm

/-- In a model without findings the members of a class have distinct names exactly if they are
spelled apart, and the parameters of its constructor exactly if the naming attributes of the class
and its ancestors are. -/
theorem members_distinct_iff_spelled_apart {m : Model} (hfindings : m.findings = []) {d : Domain}
    (hd : d ∈ m.domains) {c : ClassDecl} (hc : c ∈ d.allClasses) :
    ((Scope.classDecl ⟨.ofModel m, c⟩).memberNames.Nodup ↔ c.MembersApart) ∧
    (((Scope.classDecl ⟨.ofModel m, c⟩).constructor.params.map (·.name)).Nodup ↔
      (((ClassIndex.ofModel m).inheritedNaming c ++ c.namingAttributes).map
        (·.memberName)).Nodup) := by
  refine ⟨memberNames_nodup_iff ?_, params_nodup_iff ⟨.ofModel m, c⟩⟩
  intro sm hsm
  have hdeclared : (d, c) ∈ m.declarations :=
    Model.mem_declarations.mpr ⟨hd, Domain.mem_classes_of_machine hc hsm⟩
  exact Model.dropped_eq_nil hdeclared hsm (by simp [hfindings])

namespace House

/-- A device is known by its serial number. -/
def device : ClassDecl :=
  { kind := .ordinary
    name := "Device"
    keyLetter := none
    parent := none
    isAbstract := false
    description := none
    attributes := [⟨"serial no", some "string", some "naming", none⟩]
    machine := none }

def switching : StateMachine := ⟨some "off", ["off", "lit"], [⟨"off", "lit", "on", .messages []⟩]⟩

/-- A dimmer has a serial number of its own, and both an attribute and an event to do with being
on. -/
def dimmer : ClassDecl :=
  { device with
    name := "Dimmer"
    parent := some "Device"
    attributes :=
      [⟨"Serial No", some "string", some "naming", none⟩, ⟨"on", some "boolean", none, none⟩]
    machine := some switching }

def devices : Domain := ⟨"Devices", "D", [device, dimmer], []⟩

def wiring : Model := ⟨"House", "1", [devices]⟩

theorem ancestors_dimmer : (ClassIndex.ofModel wiring).ancestors dimmer = [device] := by
  decide +kernel

/-- The attribute names of a dimmer and its ancestor are distinct, but neither its members nor the
parameters of its constructor are; those of a device are. -/
theorem dimmer_members_clash :
    wiring.defect? = none ∧ wiring.findings = [] ∧
    ((dimmer :: (ClassIndex.ofModel wiring).ancestors dimmer).flatMap
      fun c => c.attributes.map (·.name)).Nodup ∧
    ¬(Scope.classDecl ⟨.ofModel wiring, dimmer⟩).memberNames.Nodup ∧
    ¬((Scope.classDecl ⟨.ofModel wiring, dimmer⟩).constructor.params.map (·.name)).Nodup ∧
    (Scope.classDecl ⟨.ofModel wiring, device⟩).memberNames.Nodup := by
  have hfindings : wiring.findings = [] := by decide +kernel
  have hdomain : devices ∈ wiring.domains := List.mem_singleton_self _
  have hdimmer := members_distinct_iff_spelled_apart hfindings hdomain
    (c := dimmer) (by simp [Domain.allClasses, devices])
  have hdevice := members_distinct_iff_spelled_apart hfindings hdomain
    (c := device) (by simp [Domain.allClasses, devices])
  refine ⟨by decide +kernel, hfindings, ?_, ?_, ?_, ?_⟩
  · rw [ancestors_dimmer]
    decide
  · rw [hdimmer.1]
    intro h
    exact (h.methods switching rfl "on" (by decide +kernel)).1 (by decide +kernel)
  · rw [hdimmer.2, ClassIndex.inheritedNaming, ancestors_dimmer]
    decide +kernel
  · exact hdevice.1.mpr ⟨by decide +kernel, by simp [device], by simp [device]⟩

end House

end ExecUml
