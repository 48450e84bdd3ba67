import ExecUml.Compile
import ExecUml.Proofs.ModuleGraph

/-!
# Merged and split output

Both forms of the output declare the same things in the same order. The merged module of a class is
its interface module followed by its class module, less the import between the two, and it imports
from the directory of the parent what they import from there. A directory is that of a domain:
sources are read as in the graph of modules.

The number of files is compared with the classes that a report counts.
-/

set_option autoImplicit false

namespace ExecUml

open Script

/-- The directory that the modules of a parent are looked for in; an unknown parent is looked for
beside the class. -/
def parentDirectory (ix : ClassIndex) (d : Domain) (parent : String) : String :=
  ((ix.domainOf? parent).getD d).directory

theorem pathOfSource?_parentDirectory (ix : ClassIndex) (d : Domain) (parent stem : String) :
    pathOfSource? d.directory (parentSource ix d parent stem) =
      some (pathIn (parentDirectory ix d parent) stem) := by
  unfold parentDirectory
  cases hhome : ix.domainOf? parent with
  | some home => exact pathOfSource?_parentSource hhome stem
  | none =>
    rw [parentSource, hhome]
    exact pathOfSource?_sibling d.directory stem

/-- What is generated for a class in both forms. -/
structure ClassOutput where
  owner : ClassDecl
  merged : ClassModule
  interface : ClassModule
  implementation : ClassModule

namespace ClassOutput

/-- The imports of split output except that of the interface by its own class. -/
def splitImports (o : ClassOutput) : List Import :=
  o.interface.module.imports ++ o.implementation.module.imports.tail

structure Agrees (o : ClassOutput) (ix : ClassIndex) (d : Domain) : Prop where
  items : ∃ declared implemented, o.interface.module.items = [.interface declared] ∧
    o.implementation.module.items = [.classDecl implemented] ∧
    o.merged.module.items = [.interface declared, .classDecl implemented]
  ownInterface : o.implementation.module.imports.head? =
    some ⟨o.interface.exports, "./" ++ o.interface.stem⟩
  names : o.merged.module.imports.flatMap (·.names) = o.splitImports.flatMap (·.names)
  /-- All of them come from modules of the parent in one directory. -/
  sources : ∀ i ∈ o.merged.module.imports ++ o.splitImports, ∃ parent,
    o.owner.parent = some parent ∧
    ∃ stem ∈ [interfaceStem parent, classStem parent],
      pathOfSource? d.directory i.source = some (pathIn (parentDirectory ix d parent) stem)

end ClassOutput

def Scope.output (scope : Scope) (m : Model) (d : Domain) : ClassOutput :=
  ⟨scope.owner, scope.mergedModule m d, scope.interfaceModule m d, scope.classModule m d⟩

theorem Scope.output_agrees (scope : Scope) (m : Model) (d : Domain) :
    (scope.output m d).Agrees scope.index d := by
  refine ⟨⟨scope.interface, scope.classDecl, rfl, rfl, rfl⟩, rfl, ?_, ?_⟩
  · cases hparent : scope.owner.parent with
    | none =>
      simp [ClassOutput.splitImports, output, mergedModule, interfaceModule, classModule, hparent]
    | some parent =>
      simp [ClassOutput.splitImports, output, mergedModule, interfaceModule, classModule, hparent]
  · intro i hi
    cases hparent : scope.owner.parent with
    | none =>
      simp [ClassOutput.splitImports, output, mergedModule, interfaceModule, classModule, hparent]
        at hi
    | some parent =>
      refine ⟨parent, hparent, ?_⟩
      simp only [ClassOutput.splitImports, output, mergedModule, interfaceModule, classModule,
        hparent, Option.map_some, Option.toList_some, List.tail_cons, List.mem_append,
        List.mem_singleton] at hi
      rcases hi with rfl | rfl | rfl
      · exact ⟨_, by simp, pathOfSource?_parentDirectory scope.index d parent (classStem parent)⟩
      · exact ⟨_, by simp, pathOfSource?_parentDirectory scope.index d parent
          (interfaceStem parent)⟩
      · exact ⟨_, by simp, pathOfSource?_parentDirectory scope.index d parent (classStem parent)⟩

def Domain.place (d : Domain) (f : ClassModule) : PlacedModule :=
  ⟨pathIn d.directory f.stem, f.module⟩

/-- The modules of a domain in both forms, class by class, with an index at the end of each. -/
structure Domain.FormsAgree (d : Domain) (m : Model) (ix : ClassIndex) (outputs : List ClassOutput)
    (merged split : PlacedModule) : Prop where
  owners : outputs.map (·.owner) = d.classes ++ d.associationClasses
  agrees : ∀ o ∈ outputs, o.Agrees ix d
  mergedModules : d.modules m ix .merged = outputs.map (fun o => d.place o.merged) ++ [merged]
  splitModules : d.modules m ix .split =
    outputs.flatMap (fun o => [d.place o.interface, d.place o.implementation]) ++ [split]
  indexes : merged.path = pathIn d.directory indexStem ∧ split.path = pathIn d.directory indexStem
  exports : merged.module.items.flatMap (·.reexportedNames) =
    split.module.items.flatMap (·.reexportedNames)

theorem Domain.forms_agree (d : Domain) (m : Model) (ix : ClassIndex) :
    ∃ outputs merged split, d.FormsAgree m ix outputs merged split := by
  refine ⟨d.allClasses.map fun c => Scope.output ⟨ix, c⟩ m d,
    ⟨pathIn d.directory indexStem, d.indexModule m (d.classModules m ix .merged)⟩,
    ⟨pathIn d.directory indexStem, d.indexModule m (d.classModules m ix .split)⟩, ?_, ?_, ?_, ?_,
    ⟨rfl, rfl⟩, ?_⟩
  · simp [Scope.output, Function.comp_def, allClasses]
  · intro o ho
    obtain ⟨c, _, rfl⟩ := List.mem_map.mp ho
    exact Scope.output_agrees ⟨ix, c⟩ m d
  · simp [Domain.modules, Domain.classModules, Scope.modules, Scope.output, place,
      List.map_eq_flatMap, List.flatMap_assoc]
  · simp [Domain.modules, Domain.classModules, Scope.modules, Scope.output, place, List.flatMap_map,
      List.map_flatMap]
  · have hmerged := flatMap_exports ix m d .merged
    have hsplit := flatMap_exports ix m d .split
    simpa [Domain.indexModule, List.flatMap_map, Item.reexportedNames] using hmerged.trans
      hsplit.symm

/-! ## Numbers of files -/

/-- The number of files of a class. -/
def EmitMode.filesPerClass : EmitMode → Nat
  | merged => 1
  | split => 2

theorem Scope.length_modules (scope : Scope) (m : Model) (d : Domain) (mode : EmitMode) :
    (scope.modules m d mode).length = mode.filesPerClass := by
  cases mode <;> rfl

theorem Domain.length_modules (d : Domain) (m : Model) (ix : ClassIndex) (mode : EmitMode) :
    (d.modules m ix mode).length = mode.filesPerClass * d.allClasses.length + 1 := by
  simp [Domain.modules, Domain.classModules, List.length_flatMap, Scope.length_modules,
    Nat.mul_comm]

theorem Model.totalClasses_report (m : Model) (mode : EmitMode) :
    (m.report mode).totalClasses = (m.domains.flatMap (·.allClasses)).length := by
  have hfold : ∀ (ds : List Domain) (n : Nat),
      (ds.map (·.summary)).foldl (fun n d => n + (d.classes + d.associationClasses)) n =
        n + (ds.flatMap (·.allClasses)).length := by
    intro ds
    induction ds with
    | nil => simp
    | cons d ds ih =>
      intro n
      rw [List.map_cons, List.foldl_cons, ih, List.flatMap_cons, List.length_append]
      simp only [Domain.summary, Domain.allClasses, List.length_append]
      omega
  exact (hfold m.domains 0).trans (Nat.zero_add _)

theorem Model.length_files (m : Model) (mode : EmitMode) :
    (m.files mode).length =
      mode.filesPerClass * (m.report mode).totalClasses + m.domains.length + 1 := by
  have hlength : ∀ ds : List Domain,
      (ds.flatMap fun d => d.modules m (.ofModel m) mode).length =
        mode.filesPerClass * (ds.flatMap (·.allClasses)).length + ds.length := by
    intro ds
    induction ds with
    | nil => simp
    | cons d ds ih =>
      rw [List.flatMap_cons, List.length_append, ih, Domain.length_modules, List.flatMap_cons,
        List.length_append, Nat.mul_add, List.length_cons]
      omega
  rw [m.totalClasses_report, Model.files, List.length_map, Model.modules, List.length_append,
    hlength]
  rfl

/-- Merged and split output of a model are the same program, and the numbers of their files follow
from the classes that a report counts. -/
theorem merged_and_split_agree (m : Model) :
    (∀ d : Domain, ∃ outputs merged split,
      d.FormsAgree m (.ofModel m) outputs merged split) ∧
    (m.files .merged).length = (m.report .merged).totalClasses + m.domains.length + 1 ∧
    (m.files .split).length = 2 * (m.report .split).totalClasses + m.domains.length + 1 := by
  refine ⟨fun d => d.forms_agree m (.ofModel m), ?_, m.length_files .split⟩
  rw [m.length_files .merged, EmitMode.filesPerClass, Nat.one_mul]

/-- The register has four declared classes and the lessons of a relationship in two domains. -/
theorem Register.lessons_in_both_forms :
    (∃ outputs merged split, teaching.FormsAgree model (.ofModel model) outputs merged split ∧
      outputs.map (·.owner.name) = ["Student", "Lesson"]) ∧
    (model.files .merged).length = 5 + 2 + 1 ∧ (model.files .split).length = 2 * 5 + 2 + 1 := by
  obtain ⟨hforms, hmerged, hsplit⟩ := merged_and_split_agree model
  obtain ⟨outputs, merged, split, hagree⟩ := hforms teaching
  refine ⟨⟨outputs, merged, split, hagree, ?_⟩, hmerged, hsplit⟩
  have hnames := congrArg (List.map (·.name)) hagree.owners
  rw [List.map_map] at hnames
  exact hnames

end ExecUml
