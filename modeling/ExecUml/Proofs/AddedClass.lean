import ExecUml.Proofs.FirstDefects
import ExecUml.Proofs.ModuleGraph
import ExecUml.Proofs.OutputPaths

/-!
# A class is added

What a new class at the end of the last domain changes in the output: its own files are put in, and
the index of the domain passes them on. Everything else that is generated asks the index of classes
only for the parents of declared classes and of their ancestors, and only for the class of that name
and the name of its domain; these answers stay the same as long as the new class takes no name that
somebody inherits from and nobody has declared.

The files of the new class itself are those that the larger model gives it.
-/

set_option autoImplicit false

namespace ExecUml

open Script

def Domain.addClass (d : Domain) (x : ClassDecl) : Domain := { d with classes := d.classes ++ [x] }

/-- The model with one more class at the end of its last domain. -/
def Model.addClass (m : Model) (x : ClassDecl) : Model :=
  { m with domains := m.domains.dropLast ++ (m.domains.getLast?.map (·.addClass x)).toList }

theorem Model.domains_addClass {m : Model} {before : List Domain} {d : Domain}
    (h : m.domains = before ++ [d]) (x : ClassDecl) :
    (m.addClass x).domains = before ++ [d.addClass x] := by
  simp [addClass, h]

/-! ## What is asked of the index -/

namespace ClassIndex

/-- The class of a name and the name of its domain. -/
def home? (ix : ClassIndex) (name : String) : Option (String × ClassDecl) :=
  (ix.declaration? name).map fun e => (e.1.name, e.2)

theorem parent?_eq_home? (ix : ClassIndex) (c : ClassDecl) :
    ix.parent? c = c.parent.bind fun name => (ix.home? name).map (·.2) := by
  have hget : ix.get? = fun name => (ix.home? name).map (·.2) := by
    funext name
    rw [get?, home?, Option.map_map]
    rfl
  rw [parent?, hget]

/-- Two indexes give the parents of a class the same homes. -/
def SameHomes (ix ix' : ClassIndex) (c : ClassDecl) : Prop :=
  ∀ name, c.parent = some name → ix'.home? name = ix.home? name

variable {ix ix' : ClassIndex}

theorem SameHomes.parent? {c : ClassDecl} (h : SameHomes ix ix' c) :
    ix'.parent? c = ix.parent? c := by
  rw [parent?_eq_home?, parent?_eq_home?]
  cases hparent : c.parent with
  | none => rfl
  | some name => rw [Option.bind_some, Option.bind_some, h name hparent]

/-- Walks agree if the indexes agree on every class that is met. -/
theorem walk_eq_of_sameHomes (hmet : ∀ c p, ix.parent? c = some p → SameHomes ix ix' p)
    {c : ClassDecl}
    (hc : SameHomes ix ix' c) (seen : List String) : ix'.walk seen c = ix.walk seen c := by
  fun_induction walk ix seen c with
  | case1 seen c hp => exact walk_of_parent?_none (hc.parent?.trans hp)
  | case2 seen c p hp hs => exact walk_of_mem (hc.parent?.trans hp) hs
  | case3 seen c p hp hs above again hrest ih =>
    rw [walk_of_not_mem (hc.parent?.trans hp) hs, ih (hmet c p hp), hrest]

theorem home?_ofModel (m : Model) (name : String) :
    (ofModel m).home? name =
      (m.declarations.map fun e => (e.1.name, e.2)).find? (·.2.name == name) := by
  rw [home?, declaration?_ofModel, List.find?_map]
  rfl

end ClassIndex

section Index

variable {m : Model} {before : List Domain} {d : Domain} {x : ClassDecl}

theorem homes_addClass (h : m.domains = before ++ [d]) (x : ClassDecl) :
    (m.addClass x).declarations.map (fun e => (e.1.name, e.2)) =
      m.declarations.map (fun e => (e.1.name, e.2)) ++ [(d.name, x)] := by
  simp [Model.declarations, m.domains_addClass h, h, Domain.addClass, Function.comp_def]

theorem home?_addClass (h : m.domains = before ++ [d]) {name : String}
    (hname : (∃ e ∈ m.declarations, e.2.name = x.name) ∨ name ≠ x.name) :
    (ClassIndex.ofModel (m.addClass x)).home? name = (ClassIndex.ofModel m).home? name := by
  rw [ClassIndex.home?_ofModel, ClassIndex.home?_ofModel, homes_addClass h, List.find?_append]
  by_cases hx : name = x.name
  · obtain ⟨e, he, hex⟩ := hname.resolve_right (not_not.mpr hx)
    have hsome :
        ((m.declarations.map fun e => (e.1.name, e.2)).find? (·.2.name == name)).isSome := by
      rw [List.find?_isSome]
      exact ⟨(e.1.name, e.2), List.mem_map.mpr ⟨e, he, rfl⟩, by simp [hex, hx]⟩
    rw [Option.or_of_isSome hsome]
  · have hnone : [(d.name, x)].find? (·.2.name == name) = none := by simp [Ne.symm hx]
    rw [hnone, Option.or_none]

theorem sameHomes_of_declared (h : m.domains = before ++ [d])
    (hx : (∃ e ∈ m.declarations, e.2.name = x.name) ∨
      ∀ e ∈ m.declarations, e.2.parent ≠ some x.name)
    {e : Domain × ClassDecl} (he : e ∈ m.declarations) :
    ClassIndex.SameHomes (.ofModel m) (.ofModel (m.addClass x)) e.2 := by
  intro name hname
  apply home?_addClass h
  rcases hx with hx | hx
  · exact Or.inl hx
  · refine Or.inr ?_
    rintro rfl
    exact hx e he hname

theorem sameHomes_of_parent? (h : m.domains = before ++ [d])
    (hx : (∃ e ∈ m.declarations, e.2.name = x.name) ∨
      ∀ e ∈ m.declarations, e.2.parent ≠ some x.name)
    (c p : ClassDecl) (hp : (ClassIndex.ofModel m).parent? c = some p) :
    ClassIndex.SameHomes (.ofModel m) (.ofModel (m.addClass x)) p := by
  obtain ⟨name, _, hget⟩ := Option.bind_eq_some_iff.mp hp
  obtain ⟨home, _, hdeclared, _⟩ := ClassIndex.declared_of_get? hget
  exact sameHomes_of_declared h hx hdeclared

end Index

/-! ## What the index decides in a module -/

section Modules

variable {ix ix' : ClassIndex} {m m' : Model} {d d' : Domain} {c : ClassDecl}

theorem parentSource_eq_home? (ix : ClassIndex) (d : Domain) (parent stem : String) :
    parentSource ix d parent stem =
      match ix.home? parent with
      | some home =>
        if home.1 = d.name then "./" ++ stem else "../" ++ camelCase home.1 ++ "/" ++ stem
      | none => "./" ++ stem := by
  unfold parentSource ClassIndex.domainOf? ClassIndex.home?
  cases ix.declaration? parent <;> rfl

theorem updateCode_eq_of_ancestors (h : ix'.ancestors c = ix.ancestors c) (member value : String) :
    updateCode ⟨ix', c⟩ member value = updateCode ⟨ix, c⟩ member value := by
  have hdeclared : ix'.hasAttribute c member = ix.hasAttribute c member := by
    rw [ClassIndex.hasAttribute, ClassIndex.hasAttribute, h]
  simp only [updateCode, hdeclared]

theorem stepCode_eq_of_ancestors (h : ix'.ancestors c = ix.ancestors c)
    (parameters : List Parameter) :
    stepCode ⟨ix', c⟩ parameters = stepCode ⟨ix, c⟩ parameters := by
  funext step
  unfold stepCode
  simp only [updateCode_eq_of_ancestors h]

theorem methods_eq_of_ancestors (h : ix'.ancestors c = ix.ancestors c) (machine : StateMachine) :
    machine.methods ⟨ix', c⟩ = machine.methods ⟨ix, c⟩ := by
  apply List.map_congr_left
  intro source _
  cases source with
  | operation i j t op =>
    simp only [MethodSource.method, operationMethod, operationEffects, stepCode_eq_of_ancestors h]
  | event i t => rfl

/-- A class is generated from its own declaration and its ancestors. -/
theorem classDecl_eq_of_ancestors (h : ix'.ancestors c = ix.ancestors c) :
    Scope.classDecl ⟨ix', c⟩ = Scope.classDecl ⟨ix, c⟩ := by
  have hconstructor : Scope.constructor ⟨ix', c⟩ = Scope.constructor ⟨ix, c⟩ := by
    simp only [Scope.constructor, Scope.superCall, Scope.inherited, ClassIndex.inheritedNaming, h]
  simp only [Scope.classDecl, hconstructor, methods_eq_of_ancestors h]

/-- The part of a model that all headers show. -/
structure SameHeading (m m' : Model) (d d' : Domain) : Prop where
  systemName : m'.systemName = m.systemName
  version : m'.version = m.version
  name : d'.name = d.name
  keyLetter : d'.keyLetter = d.keyLetter

theorem SameHeading.systemLine (h : SameHeading m m' d d') :
    Header.systemLine m' = Header.systemLine m := by
  rw [Header.systemLine, Header.systemLine, h.systemName, h.version]

theorem SameHeading.domainLine (h : SameHeading m m' d d') :
    Header.domainLine d' = Header.domainLine d := by
  rw [Header.domainLine, Header.domainLine, h.name, h.keyLetter]

theorem SameHeading.directory (h : SameHeading m m' d d') : d'.directory = d.directory := by
  rw [Domain.directory, Domain.directory, h.name]

theorem parentSource_eq_of_sameHomes (hheading : SameHeading m m' d d')
    (h : ClassIndex.SameHomes ix ix' c) {parent : String} (hparent : c.parent = some parent)
    (stem : String) : parentSource ix' d' parent stem = parentSource ix d parent stem := by
  rw [parentSource_eq_home?, parentSource_eq_home?, h parent hparent, hheading.name]

/-- The modules of a class depend on the index by the homes of its parent and by its ancestors. -/
theorem modules_eq_of_sameHomes (hheading : SameHeading m m' d d')
    (hhomes : ClassIndex.SameHomes ix ix' c) (hancestors : ix'.ancestors c = ix.ancestors c)
    (mode : EmitMode) : Scope.modules ⟨ix', c⟩ m' d' mode = Scope.modules ⟨ix, c⟩ m d mode := by
  have hclass := classDecl_eq_of_ancestors hancestors
  have hsource : ∀ (names : String → List String) (stem : String → String),
      (c.parent.map fun p => (⟨names p, parentSource ix' d' p (stem p)⟩ : Import)) =
        c.parent.map fun p => ⟨names p, parentSource ix d p (stem p)⟩ := by
    intro names stem
    cases hparent : c.parent with
    | none => rfl
    | some parent =>
      simp only [Option.map_some, parentSource_eq_of_sameHomes hheading hhomes hparent]
  cases mode with
  | merged =>
    simp only [Scope.modules, Scope.mergedModule, Scope.interface, hclass, hsource, Header.ofClass,
      hheading.systemLine, hheading.domainLine]
  | split =>
    simp only [Scope.modules, Scope.interfaceModule, Scope.classModule, Scope.interface, hclass,
      hsource, Header.ofClass, Header.ofInterface, hheading.systemLine, hheading.domainLine]

end Modules

/-! ## Files of a domain -/

theorem printItems_exports {items : List Item} (h : ∀ item ∈ items, item.isExport = true) :
    printItems true true items = String.join (items.map Item.print) := by
  induction items with
  | nil => rfl
  | cons item items ih =>
    have hitem := h item List.mem_cons_self
    rw [printItems, hitem, ih fun i hi => h i (List.mem_cons_of_mem item hi)]
    simp

/-- An index is a header, an empty line and one line for each export. -/
theorem print_index {header : List String} {items : List Item} (hheader : header ≠ [])
    (hitems : items ≠ []) (hexports : ∀ item ∈ items, item.isExport = true) :
    Module.print ⟨header, [], items⟩ =
      blockComment 0 header ++ "\n" ++ String.join (items.map Item.print) := by
  obtain ⟨line, lines, rfl⟩ := List.exists_cons_of_ne_nil hheader
  obtain ⟨item, items, rfl⟩ := List.exists_cons_of_ne_nil hitems
  have hitem := hexports item List.mem_cons_self
  have hrest := printItems_exports fun i hi => hexports i (List.mem_cons_of_mem item hi)
  simp [Module.print, printItems, hitem, hrest, String.append_assoc]

/-- The line that passes names on from a file beside an index. -/
def exportLine (names stem : String) : String :=
  "export \x7b " ++ names ++ " \x7d from './" ++ stem ++ "';\n"

theorem print_reexport (names : List String) (stem : String) :
    (Item.reexport names ("./" ++ stem)).print = exportLine (String.intercalate ", " names)
      stem := by
  have hprint : (Item.reexport names ("./" ++ stem)).print = "export " ++
      ("\x7b " ++ String.intercalate ", " names ++ " \x7d from '" ++ ("./" ++ stem) ++ "';\n") :=
        rfl
  have hopen : "export " ++ "\x7b " = "export \x7b " := rfl
  have hfrom : " \x7d from '" ++ "./" = " \x7d from './" := rfl
  rw [hprint, exportLine, ← hopen, ← hfrom]
  simp only [String.append_assoc]

/-- The text that passes a class on: its names, and the files beside the index that they are in. -/
def exportText (className : String) : EmitMode → String
  | .merged => exportLine (interfaceName className ++ ", " ++ pascalCase className)
      (classStem className)
  | .split => exportLine (interfaceName className) (interfaceStem className) ++
      exportLine (pascalCase className) (classStem className)

namespace Domain

def modulesOf (d : Domain) (m : Model) (mode : EmitMode) (cs : List ClassDecl) : List ClassModule :=
  cs.flatMap fun c => Scope.modules ⟨.ofModel m, c⟩ m d mode

/-- The files of some classes of a domain. -/
def filesOf (d : Domain) (m : Model) (mode : EmitMode) (cs : List ClassDecl) : List OutputFile :=
  (d.modulesOf m mode cs).map fun f => ⟨pathIn d.directory f.stem, f.module.print⟩

/-- The lines of an index that pass some classes on. -/
def exportLines (d : Domain) (m : Model) (mode : EmitMode) (cs : List ClassDecl) : String :=
  String.join
    ((d.modulesOf m mode cs).map fun f => (Item.reexport f.exports ("./" ++ f.stem)).print)

def indexFile (d : Domain) (content : String) : OutputFile :=
  ⟨pathIn d.directory indexStem, content⟩

/-- What stands in front of the exports of an index. -/
def indexHead (d : Domain) (m : Model) : String := blockComment 0 (Header.ofDomain m d) ++ "\n"

variable {d : Domain}

theorem modulesOf_ne_nil {cs : List ClassDecl} (h : cs ≠ []) (m : Model) (mode : EmitMode) :
    d.modulesOf m mode cs ≠ [] := by
  obtain ⟨c, cs, rfl⟩ := List.exists_cons_of_ne_nil h
  cases mode <;> simp [modulesOf, Scope.modules]

theorem print_indexModule (m : Model) (mode : EmitMode) {cs : List ClassDecl} (h : cs ≠ []) :
    (d.indexModule m (d.modulesOf m mode cs)).print = d.indexHead m ++ d.exportLines m mode cs := by
  have hitems : (d.modulesOf m mode cs).map
      (fun f => Item.reexport f.exports ("./" ++ f.stem)) ≠ [] := by
    simpa using modulesOf_ne_nil h m mode
  rw [indexModule, print_index (by simp [Header.ofDomain]) hitems (by simp [Item.isExport])]
  simp only [indexHead, exportLines, List.map_map, Function.comp_def]

theorem filesOf_append (m : Model) (mode : EmitMode) (cs cs' : List ClassDecl) :
    d.filesOf m mode (cs ++ cs') = d.filesOf m mode cs ++ d.filesOf m mode cs' := by
  simp [filesOf, modulesOf]

theorem exportLines_singleton (m : Model) (mode : EmitMode) (c : ClassDecl) :
    d.exportLines m mode [c] = exportText c.name mode := by
  unfold exportLines modulesOf
  rw [List.flatMap_singleton]
  cases mode with
  | merged =>
    simp only [Scope.modules, Scope.mergedModule, List.map_cons, List.map_nil, print_reexport,
      String.join_cons, String.join_nil, String.append_empty]
    rfl
  | split =>
    simp only [Scope.modules, Scope.interfaceModule, Scope.classModule, List.map_cons,
      List.map_nil, print_reexport, String.join_cons, String.join_nil, String.append_empty]
    rfl

theorem exportLines_append (m : Model) (mode : EmitMode) (cs cs' : List ClassDecl) :
    d.exportLines m mode (cs ++ cs') = d.exportLines m mode cs ++ d.exportLines m mode cs' := by
  simp [exportLines, modulesOf]

theorem files_of_modules (m : Model) (mode : EmitMode) (h : d.classes ≠ []) :
    (d.modules m (.ofModel m) mode).map (·.file) =
      d.filesOf m mode d.allClasses
        ++ [d.indexFile (d.indexHead m ++ d.exportLines m mode d.allClasses)] := by
  have hall : d.allClasses ≠ [] := by simp [allClasses, h]
  rw [← print_indexModule m mode hall]
  simp only [Domain.modules, List.map_append, List.map_map]
  rfl

end Domain

/-! ## Files of a model -/

theorem last_domain_of_defect? {m : Model} (h : m.defect? = none) :
    ∃ before d, m.domains = before ++ [d] ∧ d.classes ≠ [] := by
  have hm : m.Complete := Model.defect?_eq_none_iff.mp h
  refine ⟨m.domains.dropLast, m.domains.getLast hm.domains,
    (List.dropLast_append_getLast hm.domains).symm, ?_⟩
  exact (hm.each _ (List.getLast_mem hm.domains)).classes

theorem Model.files_eq_flatMap (m : Model) (mode : EmitMode) :
    m.files mode =
      m.domains.flatMap (fun d => (d.modules m (.ofModel m) mode).map (·.file)) ++
        [m.rootModule.file] := by
  simp [Model.files, Model.modules, List.map_flatMap]

section AddClass

variable {m : Model} {before : List Domain} {d : Domain} {x : ClassDecl}

theorem rootModule_addClass (h : m.domains = before ++ [d]) (x : ClassDecl) :
    (m.addClass x).rootModule = m.rootModule := by
  simp [Model.rootModule, h, Header.ofRoot, Header.systemLine, Model.addClass,
    Domain.directory, Domain.addClass]

variable (h : m.domains = before ++ [d])
  (hx : (∃ e ∈ m.declarations, e.2.name = x.name) ∨
    ∀ e ∈ m.declarations, e.2.parent ≠ some x.name)
include h hx

theorem modulesOf_addClass {home home' : Domain}
    (hheading : SameHeading m (m.addClass x) home home')
    {cs : List ClassDecl}
    (hcs : ∀ c ∈ cs, ClassIndex.SameHomes (.ofModel m) (.ofModel (m.addClass x)) c)
    (mode : EmitMode) :
    home'.modulesOf (m.addClass x) mode cs = home.modulesOf m mode cs := by
  apply List.flatMap_congr
  intro c hc
  have hwalk := ClassIndex.walk_eq_of_sameHomes (sameHomes_of_parent? h hx) (hcs c hc) [c.name]
  exact modules_eq_of_sameHomes hheading (hcs c hc) (congrArg Prod.fst hwalk) mode

theorem filesOf_addClass {home home' : Domain} (hheading : SameHeading m (m.addClass x) home home')
    {cs : List ClassDecl}
    (hcs : ∀ c ∈ cs, ClassIndex.SameHomes (.ofModel m) (.ofModel (m.addClass x)) c)
    (mode : EmitMode) :
    home'.filesOf (m.addClass x) mode cs = home.filesOf m mode cs := by
  rw [Domain.filesOf, Domain.filesOf, modulesOf_addClass h hx hheading hcs, hheading.directory]

theorem exportLines_addClass {home home' : Domain}
    (hheading : SameHeading m (m.addClass x) home home') {cs : List ClassDecl}
    (hcs : ∀ c ∈ cs, ClassIndex.SameHomes (.ofModel m) (.ofModel (m.addClass x)) c)
    (mode : EmitMode) :
    home'.exportLines (m.addClass x) mode cs = home.exportLines m mode cs := by
  rw [Domain.exportLines, Domain.exportLines, modulesOf_addClass h hx hheading hcs]

theorem sameHomes_of_class {home : Domain} (hhome : home ∈ m.domains) {c : ClassDecl}
    (hc : c ∈ home.allClasses) :
    ClassIndex.SameHomes (.ofModel m) (.ofModel (m.addClass x)) c := by
  intro name hname
  have hdeclared := Model.mem_declarations.mpr ⟨hhome, Domain.mem_classes_of_parent hc hname⟩
  exact sameHomes_of_declared h hx hdeclared name hname

theorem modules_addClass {home : Domain} (hhome : home ∈ m.domains) (mode : EmitMode) :
    home.modules (m.addClass x) (.ofModel (m.addClass x)) mode = home.modules m
      (.ofModel m) mode := by
  have hclasses : home.classModules (m.addClass x) (.ofModel (m.addClass x)) mode =
      home.classModules m (.ofModel m) mode :=
    modulesOf_addClass h hx ⟨rfl, rfl, rfl, rfl⟩ (fun c hc => sameHomes_of_class h hx hhome hc) mode
  rw [Domain.modules, Domain.modules, hclasses]
  rfl

theorem files_of_addClass (mode : EmitMode) :
    ((d.addClass x).modules (m.addClass x) (.ofModel (m.addClass x)) mode).map (·.file) =
      d.filesOf m mode d.classes ++ d.filesOf (m.addClass x) mode [x]
        ++ d.filesOf m mode d.associationClasses
        ++ [d.indexFile (d.indexHead m ++ d.exportLines m mode d.classes
            ++ d.exportLines (m.addClass x) mode [x]
            ++ d.exportLines m mode d.associationClasses)] := by
  have hheading : SameHeading m (m.addClass x) d (d.addClass x) := ⟨rfl, rfl, rfl, rfl⟩
  have hmem : d ∈ m.domains := by simp [h]
  have hclasses : ∀ c ∈ d.classes, ClassIndex.SameHomes (.ofModel m) (.ofModel (m.addClass x)) c :=
    fun c hc => sameHomes_of_class h hx hmem (List.mem_append_left _ hc)
  have hassociations : ∀ c ∈ d.associationClasses,
      ClassIndex.SameHomes (.ofModel m) (.ofModel (m.addClass x)) c :=
    fun c hc => sameHomes_of_class h hx hmem (List.mem_append_right _ hc)
  have hown :
      (d.addClass x).modulesOf (m.addClass x) mode [x] = d.modulesOf (m.addClass x) mode [x] := by
    apply List.flatMap_congr
    intro c _
    exact modules_eq_of_sameHomes ⟨rfl, rfl, rfl, rfl⟩ (fun _ _ => rfl) rfl mode
  have hfiles :
      (d.addClass x).filesOf (m.addClass x) mode [x] = d.filesOf (m.addClass x) mode [x] := by
    rw [Domain.filesOf, hown]
    rfl
  have hlines : (d.addClass x).exportLines (m.addClass x) mode [x] =
      d.exportLines (m.addClass x) mode [x] := by
    rw [Domain.exportLines, hown]
    rfl
  have hhead : (d.addClass x).indexHead (m.addClass x) = d.indexHead m := rfl
  have hall : (d.addClass x).allClasses = d.classes ++ [x] ++ d.associationClasses := rfl
  rw [Domain.files_of_modules _ _ (by simp [Domain.addClass]), hall, Domain.filesOf_append,
    Domain.filesOf_append, Domain.exportLines_append, Domain.exportLines_append, hfiles, hlines,
    hhead, filesOf_addClass h hx hheading hclasses, filesOf_addClass h hx hheading hassociations,
    exportLines_addClass h hx hheading hclasses, exportLines_addClass h hx hheading hassociations]
  simp only [String.append_assoc]
  rfl

end AddClass

/-- What the output of a model looks like before and after a class is added to its last domain `d`.
The files in front of those of `d` and the head of the index of `d` are the same in both. -/
structure Model.OnlyAdds (m : Model) (x : ClassDecl) (mode : EmitMode) (d : Domain)
    (earlier : List OutputFile) (head : String) : Prop where
  last : m.domains.getLast? = some d
  before : m.files mode =
    earlier ++ d.filesOf m mode d.classes ++ d.filesOf m mode d.associationClasses
      ++ [d.indexFile (head ++ d.exportLines m mode d.classes
          ++ d.exportLines m mode d.associationClasses), m.rootModule.file]
  /-- The files and the exports of `x` follow those of the declared classes. -/
  after : (m.addClass x).files mode =
    earlier ++ d.filesOf m mode d.classes ++ d.filesOf (m.addClass x) mode [x]
      ++ d.filesOf m mode d.associationClasses
      ++ [d.indexFile
        (head ++ d.exportLines m mode d.classes ++ d.exportLines (m.addClass x) mode [x]
          ++ d.exportLines m mode d.associationClasses), m.rootModule.file]
  own : (d.filesOf (m.addClass x) mode [x]).map (·.path) =
    (stemsOf x.name mode).map (pathIn d.directory)
  lines : d.exportLines (m.addClass x) mode [x] = exportText x.name mode

/-- A class is added at the end of the last domain of a model that passes its checks. If its name is
declared already, or nobody inherits from that name, then its own files and exports are all that is
new. -/
theorem files_addClass (m : Model) (x : ClassDecl) (mode : EmitMode) (hm : m.defect? = none)
    (hx : (∃ e ∈ m.declarations, e.2.name = x.name) ∨
      ∀ e ∈ m.declarations, e.2.parent ≠ some x.name) :
    ∃ d earlier head, m.OnlyAdds x mode d earlier head := by
  obtain ⟨before, d, h, hd⟩ := last_domain_of_defect? hm
  refine ⟨d, before.flatMap (fun d => (d.modules m (.ofModel m) mode).map (·.file)), d.indexHead m,
    by simp [h], ?_, ?_, ?_, d.exportLines_singleton _ mode x⟩
  · rw [m.files_eq_flatMap, h, List.flatMap_append, List.flatMap_singleton,
      d.files_of_modules m mode hd, Domain.allClasses, Domain.filesOf_append,
      Domain.exportLines_append]
    simp [String.append_assoc]
  · have hbefore : before.flatMap (fun e =>
        (e.modules (m.addClass x) (.ofModel (m.addClass x)) mode).map (·.file)) =
          before.flatMap fun e => (e.modules m (.ofModel m) mode).map (·.file) := by
      apply List.flatMap_congr
      intro e he
      rw [modules_addClass h hx (by simp [h, he]) mode]
    rw [(m.addClass x).files_eq_flatMap, m.domains_addClass h, List.flatMap_append, hbefore,
      List.flatMap_singleton, files_of_addClass h hx, rootModule_addClass h]
    simp
  · simp [Domain.filesOf, Domain.modulesOf,
      ← map_stem_modules ⟨.ofModel (m.addClass x), x⟩ (m.addClass x) d]

/-! Two newcomers to the register: a third class called Student, and a class that inherits from
itself. -/

namespace Register

def visitor : ClassDecl := entity "Student" (some "Employee") [named "pass"]

def guest : ClassDecl := entity "Guest" (some "Guest") [named "pass"]

/-- Neither of them changes the code of the others. -/
theorem newcomers_only_add :
    model.defect? = none ∧ (∃ e ∈ model.declarations, e.2.name = visitor.name) ∧
    (∀ e ∈ model.declarations, e.2.parent ≠ some guest.name) ∧
    (∃ earlier head, model.OnlyAdds visitor .merged teaching earlier head) ∧
    (∃ earlier head, model.OnlyAdds guest .split teaching earlier head) ∧
    exportText visitor.name .merged = "export \x7b IStudent, Student \x7d from './student';\n" := by
  have hvalid : model.defect? = none := by decide +kernel
  have hvisitor : ∃ e ∈ model.declarations, e.2.name = visitor.name :=
    ⟨(teaching, tutor), by simp [model, people, teaching, Model.declarations], rfl⟩
  have hguest : ∀ e ∈ model.declarations, e.2.parent ≠ some guest.name := by decide +kernel
  have hlast : ∀ {d : Domain}, model.domains.getLast? = some d → d = teaching := by
    intro d hd
    exact (Option.some.inj hd).symm
  refine ⟨hvalid, hvisitor, hguest, ?_, ?_, by decide +kernel⟩
  · obtain ⟨d, earlier, head, hadds⟩ :=
      files_addClass model visitor .merged hvalid (Or.inl hvisitor)
    cases hlast hadds.last
    exact ⟨earlier, head, hadds⟩
  · obtain ⟨d, earlier, head, hadds⟩ := files_addClass model guest .split hvalid (Or.inr hguest)
    cases hlast hadds.last
    exact ⟨earlier, head, hadds⟩

end Register

end ExecUml
