import ExecUml.Output.Module
import ExecUml.Proofs.Findings
import ExecUml.Proofs.FirstDeclaration
import ExecUml.Proofs.ParentConstructors
import Mathlib.Data.List.Forall2

/-!
# The graph of generated modules

What imports and exports lead to. A source that starts with `./` is read from the directory of the
module it stands in, one that starts with `../` from the output directory; the file is the one with
that stem. Nothing is said about two modules with the same path: a source leads to some emitted
module at its path that declares the names.
-/

set_option autoImplicit false

namespace ExecUml

open Script

namespace Script

def Item.declaredName? : Item → Option String
  | .interface decl => some decl.name
  | .classDecl decl => some decl.name
  | .reexport _ _ | .reexportAll _ => none

def Item.reexportedNames : Item → List String
  | .reexport names _ => names
  | _ => []

def Module.Declares (m : Module) (name : String) : Prop :=
  name ∈ m.items.filterMap (·.declaredName?)

end Script

/-- The path of the file that a source in a module of a directory stands for. -/
def pathOfSource? (directory source : String) : Option String :=
  match source.toList with
  | '.' :: '.' :: '/' :: rest => some (String.ofList rest ++ fileExtension)
  | '.' :: '/' :: rest => some (pathIn directory (String.ofList rest))
  | _ => none

/-- The path of the index in the directory that a source in the root index stands for. -/
def indexOfSource? (source : String) : Option String :=
  match source.toList with
  | '.' :: '/' :: rest => some (pathIn (String.ofList rest) indexStem)
  | _ => none

theorem pathOfSource?_sibling (directory stem : String) :
    pathOfSource? directory ("./" ++ stem) = some (pathIn directory stem) := by
  simp [pathOfSource?, String.toList_append]

theorem pathOfSource?_cousin (directory other stem : String) :
    pathOfSource? directory ("../" ++ other ++ "/" ++ stem) = some (pathIn other stem) := by
  simp [pathOfSource?, String.toList_append, pathIn, String.append_assoc]

theorem indexOfSource?_directory (directory : String) :
    indexOfSource? ("./" ++ directory) = some (pathIn directory indexStem) := by
  simp [indexOfSource?, String.toList_append]

/-- A source leads to one of the files, and that file declares the names. -/
def Links (files : List PlacedModule) (directory : String) (names : List String) (source : String) :
    Prop :=
  ∃ q ∈ files, pathOfSource? directory source = some q.path ∧ ∀ name ∈ names, q.module.Declares name

theorem Links.mono {files files' : List PlacedModule} {directory source : String}
    {names : List String} (h : Links files directory names source)
    (hsub : ∀ q ∈ files, q ∈ files') : Links files' directory names source := by
  obtain ⟨q, hq, hpath, hnames⟩ := h
  exact ⟨q, hsub q hq, hpath, hnames⟩

section ClassModules

variable {ix : ClassIndex} {m : Model} {d : Domain} {c : ClassDecl} {mode : EmitMode}
  {f : ClassModule}

theorem mem_modules_of_class (hc : c ∈ d.allClasses) (hf : f ∈ Scope.modules ⟨ix, c⟩ m d mode) :
    ⟨pathIn d.directory f.stem, f.module⟩ ∈ d.modules m ix mode := by
  apply List.mem_append_left
  exact List.mem_map.mpr ⟨f, List.mem_flatMap.mpr ⟨c, hc, hf⟩, rfl⟩

theorem declares_exports (hf : f ∈ Scope.modules ⟨ix, c⟩ m d mode) :
    ∀ name ∈ f.exports, f.module.Declares name := by
  intro name hname
  cases mode with
  | merged =>
    rw [List.mem_singleton.mp hf] at hname ⊢
    simpa [Scope.mergedModule, Module.Declares, Item.declaredName?, Scope.interface,
      Scope.classDecl] using hname
  | split =>
    rcases List.mem_cons.mp hf with rfl | hf
    · simpa [Scope.interfaceModule, Module.Declares, Item.declaredName?, Scope.interface]
        using hname
    · rw [List.mem_singleton.mp hf] at hname ⊢
      simpa [Scope.classModule, Module.Declares, Item.declaredName?, Scope.classDecl] using hname

theorem links_of_class (hc : c ∈ d.allClasses) (hf : f ∈ Scope.modules ⟨ix, c⟩ m d mode)
    {directory source : String}
    (hsource : pathOfSource? directory source = some (pathIn d.directory f.stem)) :
    Links (d.modules m ix mode) directory f.exports source :=
  ⟨_, mem_modules_of_class hc hf, hsource, declares_exports hf⟩

/-- Where an import comes from: another module of the class, or the module of the same kind of the
parent. -/
theorem import_origin (hf : f ∈ Scope.modules ⟨ix, c⟩ m d mode) {i : Import}
    (hi : i ∈ f.module.imports) :
    (∃ g ∈ Scope.modules ⟨ix, c⟩ m d mode, i = ⟨g.exports, "./" ++ g.stem⟩) ∨
    ∃ parent, c.parent = some parent ∧ ∀ (p : ClassDecl) (home : Domain), p.name = parent →
      ∃ g ∈ Scope.modules ⟨ix, p⟩ m home mode,
        i = ⟨g.exports, parentSource ix d parent g.stem⟩ := by
  cases mode with
  | merged =>
    rw [List.mem_singleton.mp hf] at hi
    obtain ⟨parent, hparent, rfl⟩ := Option.map_eq_some_iff.mp (Option.mem_toList.mp hi)
    refine Or.inr ⟨parent, hparent, ?_⟩
    rintro p home rfl
    exact ⟨Scope.mergedModule ⟨ix, p⟩ m home, by simp [Scope.modules], by simp [Scope.mergedModule]⟩
  | split =>
    rcases List.mem_cons.mp hf with rfl | hf
    · obtain ⟨parent, hparent, rfl⟩ := Option.map_eq_some_iff.mp (Option.mem_toList.mp hi)
      refine Or.inr ⟨parent, hparent, ?_⟩
      rintro p home rfl
      refine ⟨Scope.interfaceModule ⟨ix, p⟩ m home, by simp [Scope.modules], ?_⟩
      simp [Scope.interfaceModule]
    · rw [List.mem_singleton.mp hf] at hi
      rcases List.mem_cons.mp hi with rfl | hi
      · refine Or.inl ⟨Scope.interfaceModule ⟨ix, c⟩ m d, by simp [Scope.modules], ?_⟩
        simp [Scope.interfaceModule]
      · obtain ⟨parent, hparent, rfl⟩ := Option.map_eq_some_iff.mp (Option.mem_toList.mp hi)
        refine Or.inr ⟨parent, hparent, ?_⟩
        rintro p home rfl
        refine ⟨Scope.classModule ⟨ix, p⟩ m home, by simp [Scope.modules], ?_⟩
        simp [Scope.classModule]

end ClassModules

theorem pathOfSource?_parentSource {ix : ClassIndex} {d home : Domain} {parent : String}
    (h : ix.domainOf? parent = some home) (stem : String) :
    pathOfSource? d.directory (parentSource ix d parent stem) =
      some (pathIn home.directory stem) := by
  unfold parentSource
  rw [h]
  simp only
  split
  · rename_i hname
    rw [pathOfSource?_sibling, Domain.directory, Domain.directory, hname]
  · exact pathOfSource?_cousin _ _ _

theorem Model.mem_declarations {m : Model} {d : Domain} {c : ClassDecl} :
    (d, c) ∈ m.declarations ↔ d ∈ m.domains ∧ c ∈ d.classes := by
  simp [declarations]

theorem Model.mem_modules_of_domain {m : Model} {d : Domain} {mode : EmitMode} (hd : d ∈ m.domains)
    {q : PlacedModule} (hq : q ∈ d.modules m (.ofModel m) mode) : q ∈ m.modules mode :=
  List.mem_append_left _ (List.mem_flatMap.mpr ⟨d, hd, hq⟩)

/-- The classes of a domain beside the declared ones are those that its relationships carry. -/
theorem Domain.mem_associationClasses {d : Domain} {c : ClassDecl} :
    c ∈ d.associationClasses ↔ ∃ r ∈ d.relationships, ∃ a, r.association = some a ∧
      c = { kind := .association
            name := a.name
            keyLetter := a.keyLetter
            parent := none
            isAbstract := false
            description := some ("Association class for relationship " ++ r.id)
            attributes := a.attributes
            machine := none } := by
  simp only [associationClasses, Relationship.classDecl?, List.mem_filterMap,
    Option.map_eq_some_iff, @eq_comm _ c]

theorem Domain.mem_classes_of_parent {d : Domain} {c : ClassDecl} (hc : c ∈ d.allClasses)
    {parent : String} (hparent : c.parent = some parent) : c ∈ d.classes := by
  rcases List.mem_append.mp hc with hc | hc
  · exact hc
  · obtain ⟨r, _, a, _, rfl⟩ := mem_associationClasses.mp hc
    cases hparent

theorem links_of_import {m : Model} {mode : EmitMode}
    (hknown : ∀ className parent, .unknownParent className parent ∉ m.findings) {d : Domain}
    (hd : d ∈ m.domains) {c : ClassDecl} (hc : c ∈ d.allClasses) {f : ClassModule}
    (hf : f ∈ Scope.modules ⟨.ofModel m, c⟩ m d mode) {i : Import} (hi : i ∈ f.module.imports) :
    Links (m.modules mode) d.directory i.names i.source := by
  rcases import_origin hf hi with ⟨g, hg, rfl⟩ | ⟨parent, hparent, horigin⟩
  · apply (links_of_class hc hg (pathOfSource?_sibling _ _)).mono
    exact fun q hq => Model.mem_modules_of_domain hd hq
  · have hdeclared : (d, c) ∈ m.declarations :=
      Model.mem_declarations.mpr ⟨hd, Domain.mem_classes_of_parent hc hparent⟩
    obtain ⟨p, hget⟩ := Model.parent_known hdeclared hknown hparent
    obtain ⟨home, hhome, hp, hname⟩ := ClassIndex.declared_of_get? hget
    obtain ⟨hhomes, hclasses⟩ := Model.mem_declarations.mp hp
    obtain ⟨g, hg, rfl⟩ := horigin p home hname
    have hall : p ∈ home.allClasses := List.mem_append_left _ hclasses
    apply (links_of_class hall hg (pathOfSource?_parentSource hhome g.stem)).mono
    exact fun q hq => Model.mem_modules_of_domain hhomes hq

theorem flatMap_exports (ix : ClassIndex) (m : Model) (d : Domain) (mode : EmitMode) :
    (d.classModules m ix mode).flatMap (·.exports) =
      d.allClasses.flatMap fun c => [interfaceName c.name, pascalCase c.name] := by
  unfold Domain.classModules
  rw [List.flatMap_assoc]
  cases mode with
  | merged => simp [Scope.modules, Scope.mergedModule]
  | split => simp [Scope.modules, Scope.interfaceModule, Scope.classModule]

/-- The generated modules of a model link. -/
structure Model.Linked (m : Model) (mode : EmitMode) : Prop where
  /-- Every import of a module leads to an emitted module that declares the names. -/
  imports : ∀ d ∈ m.domains, ∀ q ∈ d.modules m (.ofModel m) mode, ∀ i ∈ q.module.imports,
    Links (m.modules mode) d.directory i.names i.source
  /-- The index of a domain passes on, from modules of the domain that declare them, the interface
  and the class of every declared class and then of every class of a relationship. -/
  index : ∀ d ∈ m.domains, ∃ index, (d.modules m (.ofModel m) mode).getLast? = some index ∧
    index.path = pathIn d.directory indexStem ∧
    (∀ item ∈ index.module.items, ∃ names source, item = .reexport names source ∧
      Links (d.modules m (.ofModel m) mode) d.directory names source) ∧
    index.module.items.flatMap (·.reexportedNames) =
      (d.classes ++ d.associationClasses).flatMap fun c => [interfaceName c.name, pascalCase c.name]
  /-- The root index passes on the index of every domain, in order. -/
  root : ∃ root, (m.modules mode).getLast? = some root ∧ root.path = indexStem ++ fileExtension ∧
    List.Forall₂ (fun d item => ∃ source index, item = .reexportAll source ∧
      (d.modules m (.ofModel m) mode).getLast? = some index ∧
        indexOfSource? source = some index.path) m.domains root.module.items

theorem getLast?_modules (ix : ClassIndex) (m : Model) (d : Domain) (mode : EmitMode) :
    (d.modules m ix mode).getLast? =
      some ⟨pathIn d.directory indexStem, d.indexModule m (d.classModules m ix mode)⟩ := by
  simp [Domain.modules]

/-- If all parents are known, the generated modules link. -/
theorem modules_linked (m : Model) (mode : EmitMode)
    (hknown : ∀ className parent, .unknownParent className parent ∉ m.findings) :
    m.Linked mode := by
  refine ⟨?_, ?_, ?_⟩
  · intro d hd q hq i hi
    rcases List.mem_append.mp hq with hq | hq
    · obtain ⟨f, hf, rfl⟩ := List.mem_map.mp hq
      obtain ⟨c, hc, hf⟩ := List.mem_flatMap.mp hf
      exact links_of_import hknown hd hc hf hi
    · rw [List.mem_singleton.mp hq] at hi
      simp [Domain.indexModule] at hi
  · intro d hd
    refine ⟨_, getLast?_modules _ m d mode, rfl, ?_, ?_⟩
    · intro item hitem
      obtain ⟨f, hf, rfl⟩ := List.mem_map.mp hitem
      obtain ⟨c, hc, hf⟩ := List.mem_flatMap.mp hf
      exact ⟨_, _, rfl, links_of_class hc hf (pathOfSource?_sibling _ _)⟩
    · have hexports := flatMap_exports (.ofModel m) m d mode
      simpa [Domain.indexModule, List.flatMap_map, Item.reexportedNames, Domain.allClasses]
        using hexports
  · refine ⟨m.rootModule, by simp [Model.modules], rfl, ?_⟩
    simp only [Model.rootModule]
    rw [List.forall₂_map_right_iff]
    apply List.forall₂_same.mpr
    intro d _
    exact ⟨_, _, rfl, getLast?_modules _ m d mode, indexOfSource?_directory d.directory⟩

/-- The register, with a name declared in two domains and a parent in another domain, links. What is
taught is passed on with the lessons, which only a relationship declares. -/
theorem Register.model_linked :
    (∀ className parent, .unknownParent className parent ∉ model.findings) ∧
    model.Linked .merged ∧ model.Linked .split ∧
    ∃ index, (teaching.modules model (.ofModel model) .split).getLast? = some index ∧
      index.module.items.flatMap (·.reexportedNames) =
        ["IStudent", "Student", "ILesson", "Lesson"] := by
  have hknown : ∀ className parent, .unknownParent className parent ∉ model.findings := by
    simp [model_findings_eq]
  have hsplit := modules_linked model .split hknown
  obtain ⟨index, hindex, _, _, hnames⟩ := hsplit.index teaching (by simp [model])
  refine ⟨hknown, modules_linked model .merged hknown, hsplit, index, hindex, ?_⟩
  rw [hnames]
  decide +kernel

end ExecUml
