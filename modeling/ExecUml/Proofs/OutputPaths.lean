import ExecUml.Proofs.Respelling
import ExecUml.Proofs.StoreWrites

/-!
# Where generated files go

The paths of the generated files, and when all of them stay below the output directory. Directories
and stems are spelled from declared names, in which slashes and dots survive, so this is a condition
on the declared names: between slashes there has to be something, and not only dots.
-/

set_option autoImplicit false

namespace ExecUml

open Text Script

/-! ## Paths of a model -/

def stemsOf (className : String) : EmitMode → List String
  | .merged => [classStem className]
  | .split => [interfaceStem className, classStem className]

/-- The stems of the files of a domain, that of its index last. -/
def Domain.stems (d : Domain) (mode : EmitMode) : List String :=
  d.allClasses.flatMap (fun c => stemsOf c.name mode) ++ [indexStem]

def Domain.paths (d : Domain) (mode : EmitMode) : List String :=
  (d.stems mode).map (pathIn d.directory)

theorem map_stem_modules (scope : Scope) (m : Model) (d : Domain) (mode : EmitMode) :
    (scope.modules m d mode).map (·.stem) = stemsOf scope.owner.name mode := by
  cases mode with
  | merged => simp [Scope.modules, Scope.mergedModule, stemsOf]
  | split => simp [Scope.modules, Scope.interfaceModule, Scope.classModule, stemsOf]

theorem map_path_modules (d : Domain) (m : Model) (ix : ClassIndex) (mode : EmitMode) :
    (d.modules m ix mode).map (·.path) = d.paths mode := by
  have hstems : (d.classModules m ix mode).map (·.stem) =
      d.allClasses.flatMap fun c => stemsOf c.name mode := by
    simp only [Domain.classModules, List.map_flatMap, map_stem_modules]
  rw [Domain.paths, Domain.stems, ← hstems]
  simp [Domain.modules]

theorem map_path_files (m : Model) (mode : EmitMode) :
    (m.files mode).map (·.path) =
      m.domains.flatMap (·.paths mode) ++ [indexStem ++ fileExtension] := by
  have hfile : ∀ p : PlacedModule, p.file.path = p.path := fun _ => rfl
  simp only [Model.files, Model.modules, List.map_map, Function.comp_def, hfile, List.map_append,
    List.map_flatMap, map_path_modules]
  rfl

/-! ## Contained paths -/

/-- Names that lead to an entry of a directory, and from there on to an entry of that entry. -/
def Path.IsContained (path : String) : Prop :=
  ∀ name ∈ Path.pieces path, name ≠ "" ∧ name ≠ "." ∧ name ≠ ".."

def AllBelow (pieces : List (List Char)) : Prop := ∀ piece ∈ pieces, LeadsBelow piece

theorem Path.isContained_iff (path : String) :
    IsContained path ↔ AllBelow (splitWhere isSlash path.toList) := by
  have hpiece : ∀ piece : List Char,
      (String.ofList piece ≠ "" ∧ String.ofList piece ≠ "." ∧ String.ofList piece ≠ "..") ↔
        LeadsBelow piece := by
    intro piece
    simp only [LeadsBelow, ne_eq, ← String.toList_inj, String.toList_ofList]
    rfl
  unfold IsContained AllBelow
  simp only [Path.pieces, List.forall_mem_map, hpiece]
  rfl

theorem allBelow_append {ws vs : List (List Char)} :
    AllBelow (ws ++ vs) ↔ AllBelow ws ∧ AllBelow vs :=
  List.forall_mem_append

theorem allBelow_iff_of_forall₂ {ws vs : List (List Char)} (h : List.Forall₂ Respells ws vs) :
    AllBelow vs ↔ AllBelow ws := by
  induction h with
  | nil => rfl
  | cons hw _ ih =>
    unfold AllBelow at ih ⊢
    rw [List.forall_mem_cons, List.forall_mem_cons, hw.leadsBelow_iff, ih]

theorem forall₂_dropLast {ws vs : List (List Char)} (h : List.Forall₂ Respells ws vs) :
    List.Forall₂ Respells ws.dropLast vs.dropLast := by
  induction h with
  | nil => exact .nil
  | cons hw hws ih =>
    cases hws with
    | nil => exact .nil
    | cons hw' hws' => exact .cons hw ih

theorem leadsBelow_extension (last : List Char) : LeadsBelow (last ++ fileExtension.toList) := by
  have hlength : (last ++ fileExtension.toList).length = last.length + 3 := by
    rw [List.length_append]
    rfl
  refine ⟨?_, ?_, ?_⟩
  all_goals
    intro heq
    rw [heq] at hlength
    simp at hlength

/-- A file in a directory is contained if the directory is, and its stem up to the last slash. -/
theorem isContained_pathIn (directory stem : String) :
    Path.IsContained (pathIn directory stem) ↔
      AllBelow (splitWhere isSlash directory.toList) ∧
      AllBelow (splitWhere isSlash stem.toList).dropLast := by
  -- The extension has no slash and three characters, so the last piece always leads to an entry.
  have hextension : ∀ c ∈ fileExtension.toList, isSlash c = false := by
    simp [fileExtension, isSlash]
  obtain ⟨before, last, hstem, hname⟩ := splitWhere_append_right stem.toList hextension
  have hpath : (pathIn directory stem).toList =
      directory.toList ++ '/' :: (stem.toList ++ fileExtension.toList) := by
    simp [pathIn, String.toList_append]
  rw [Path.isContained_iff, hpath, splitWhere_append_cons rfl, hname, hstem, allBelow_append,
    allBelow_append, List.dropLast_concat]
  simp [AllBelow, leadsBelow_extension]

/-! ## Declared names -/

/-- A piece of a declared name from which something else than dots is spelled. -/
def SpellsEntry (piece : String) : Prop := LeadsBelow (spelled piece.toList)

instance : DecidablePred SpellsEntry := fun _ => inferInstanceAs (Decidable (LeadsBelow _))

theorem splitWhere_spelled (cs : List Char) :
    splitWhere isSlash (spelled cs) = (splitWhere isSlash cs).map spelled := by
  apply splitWhere_filter
  intro c hc
  simp only [isSlash, beq_iff_eq] at hc
  rw [hc]
  decide

theorem allBelow_directory_iff (d : Domain) :
    AllBelow (splitWhere isSlash d.directory.toList) ↔
      ∀ piece ∈ Path.pieces d.name, SpellsEntry piece := by
  have hcamel := (respells_uncapitalized (pascalChars d.name.toList)).pieces
  have hpascal := (respells_pascalChars d.name.toList).pieces
  have hdirectory : d.directory.toList = uncapitalized (pascalChars d.name.toList) := by
    simp [Domain.directory, camelCase, camelChars]
  rw [hdirectory, allBelow_iff_of_forall₂ hcamel, allBelow_iff_of_forall₂ hpascal,
    splitWhere_spelled]
  simp only [AllBelow, List.forall_mem_map, Path.pieces, SpellsEntry, String.toList_ofList]
  rfl

theorem allBelow_pascalCase_iff (name : String) :
    AllBelow (splitWhere isSlash (pascalChars name.toList)).dropLast ↔
      ∀ piece ∈ (Path.pieces name).dropLast, SpellsEntry piece := by
  have hpascal := forall₂_dropLast (respells_pascalChars name.toList).pieces
  rw [allBelow_iff_of_forall₂ hpascal, splitWhere_spelled, Path.pieces, ← List.map_dropLast,
    ← List.map_dropLast]
  simp only [AllBelow, List.forall_mem_map, SpellsEntry, String.toList_ofList]
  rfl

theorem allBelow_classStem_iff (name : String) :
    AllBelow (splitWhere isSlash (classStem name).toList).dropLast ↔
      ∀ piece ∈ (Path.pieces name).dropLast, SpellsEntry piece := by
  rw [← allBelow_pascalCase_iff]
  unfold classStem fileStem pascalCase
  by_cases hnil : pascalChars name.toList = []
  · rw [if_pos (by simp [hnil]), hnil]
    simp [AllBelow, splitWhere, isSlash]
  · rw [if_neg (by simpa using hnil), String.toList_ofList, String.toList_ofList]
    exact allBelow_iff_of_forall₂ (forall₂_dropLast (respells_hyphenated none _).pieces)

theorem toList_interfaceStem (name : String) :
    (interfaceStem name).toList = hyphenated none ('I' :: pascalChars name.toList) := by
  have hname : (interfaceName name).toList = 'I' :: pascalChars name.toList := by
    simp [interfaceName, pascalCase, String.toList_append]
  have hne : ¬ (interfaceName name).isEmpty = true := by
    intro hempty
    simp [String.isEmpty_iff.mp hempty] at hname
  rw [interfaceStem, fileStem, if_neg hne, String.toList_ofList, hname]

/-- The letter in front of an interface name only makes its first piece longer. -/
theorem allBelow_interfaceStem (name : String)
    (h : ∀ piece ∈ (Path.pieces name).dropLast, SpellsEntry piece) :
    AllBelow (splitWhere isSlash (interfaceStem name).toList).dropLast := by
  rw [← allBelow_pascalCase_iff] at h
  rw [toList_interfaceStem,
    allBelow_iff_of_forall₂ (forall₂_dropLast (respells_hyphenated none _).pieces),
    splitWhere_cons_of_neg (by decide)]
  cases hpieces : splitWhere isSlash (pascalChars name.toList) with
  | nil => simp [AllBelow]
  | cons w ws =>
    rw [hpieces] at h
    cases ws with
    | nil => simp [AllBelow]
    | cons v vs =>
      have htail : AllBelow (v :: vs).dropLast := fun x hx => h x (List.mem_cons_of_mem _ hx)
      intro x hx
      rcases List.mem_cons.mp hx with rfl | hx
      · simp [LeadsBelow]
      · exact htail x hx

/-- Between the slashes of the name of a domain, and in front of every slash in the name of one of
its classes, something is spelled that is neither one dot nor two. -/
structure Domain.NamesContained (d : Domain) : Prop where
  directory : ∀ piece ∈ Path.pieces d.name, SpellsEntry piece
  classes : ∀ c ∈ d.allClasses, ∀ piece ∈ (Path.pieces c.name).dropLast, SpellsEntry piece

instance (d : Domain) : Decidable d.NamesContained :=
  decidable_of_iff ((∀ piece ∈ Path.pieces d.name, SpellsEntry piece) ∧
      ∀ c ∈ d.allClasses, ∀ piece ∈ (Path.pieces c.name).dropLast, SpellsEntry piece)
    ⟨fun h => ⟨h.1, h.2⟩, fun h => ⟨h.directory, h.classes⟩⟩

def Model.NamesContained (m : Model) : Prop := ∀ d ∈ m.domains, d.NamesContained

instance (m : Model) : Decidable m.NamesContained :=
  inferInstanceAs (Decidable (∀ d ∈ m.domains, d.NamesContained))

theorem Domain.paths_contained_iff (d : Domain) (mode : EmitMode) :
    (∀ path ∈ d.paths mode, Path.IsContained path) ↔ d.NamesContained := by
  unfold Domain.paths Domain.stems
  simp only [List.forall_mem_map, List.forall_mem_append, isContained_pathIn,
    List.forall_mem_flatMap]
  constructor
  · rintro ⟨hclasses, hindex⟩
    refine ⟨(allBelow_directory_iff d).mp (hindex indexStem (by simp)).1, ?_⟩
    intro c hc
    have hstem : classStem c.name ∈ stemsOf c.name mode := by cases mode <;> simp [stemsOf]
    exact (allBelow_classStem_iff c.name).mp (hclasses c hc _ hstem).2
  · intro h
    have hdirectory := (allBelow_directory_iff d).mpr h.directory
    refine ⟨?_, ?_⟩
    · intro c hc stem hstem
      refine ⟨hdirectory, ?_⟩
      have hclass := (allBelow_classStem_iff c.name).mpr (h.classes c hc)
      have hinterface := allBelow_interfaceStem c.name (h.classes c hc)
      cases mode with
      | merged =>
        rw [List.mem_singleton.mp hstem]
        exact hclass
      | split =>
        rcases List.mem_cons.mp hstem with rfl | hstem
        · exact hinterface
        · rw [List.mem_singleton.mp hstem]
          exact hclass
    · intro stem hstem
      rw [List.mem_singleton.mp hstem]
      refine ⟨hdirectory, ?_⟩
      simp [indexStem, AllBelow, splitWhere, isSlash]

theorem Model.paths_contained_iff (m : Model) (mode : EmitMode) :
    (∀ f ∈ m.files mode, Path.IsContained f.path) ↔ m.NamesContained := by
  have hroot : Path.IsContained (indexStem ++ fileExtension) := by
    rw [Path.isContained_iff]
    unfold AllBelow
    decide +kernel
  have hpaths : (∀ f ∈ m.files mode, Path.IsContained f.path) ↔
      ∀ path ∈ (m.files mode).map (·.path), Path.IsContained path := by
    rw [List.forall_mem_map]
  rw [hpaths, map_path_files]
  simp only [List.forall_mem_append, List.forall_mem_flatMap, Domain.paths_contained_iff,
    List.forall_mem_singleton, hroot, and_true]
  rfl

/-! ## Places of contained paths -/

namespace Path

theorem entries_eq_pieces {path : String} (h : IsContained path) : entries path = pieces path := by
  apply List.filter_eq_self.mpr
  intro name hname
  simpa using (h name hname).1

theorem isAbsolute_eq_false {path : String} (h : IsContained path) : isAbsolute path = false := by
  rw [isContained_iff] at h
  unfold isAbsolute
  cases hpath : path.toList with
  | nil => rfl
  | cons c cs =>
    rw [hpath] at h
    cases hc : isSlash c with
    | true =>
      rw [splitWhere_cons_of_pos hc] at h
      exact absurd rfl (h [] List.mem_cons_self).1
    | false => simpa [isSlash] using hc

theorem pieces_ne_nil (path : String) : pieces path ≠ [] := by
  simp [pieces, splitWhere_ne_nil]

theorem pieces_injective : Function.Injective pieces := by
  intro path other h
  have hofList : Function.Injective String.ofList := fun cs ds heq => String.ofList_inj.mp heq
  have hsplit := List.map_injective_iff.mpr hofList h
  rw [← String.toList_inj, ← intercalate_splitWhere '/' path.toList, hsplit, intercalate_splitWhere]

theorem pieces_of_toList {path : String} {as bs : List Char} (h : path.toList = as ++ '/' :: bs) :
    pieces path = pieces (String.ofList as) ++ pieces (String.ofList bs) := by
  unfold pieces
  rw [h, splitWhere_append_cons (by simp), List.map_append, String.toList_ofList,
    String.toList_ofList]

/-- Below a directory a contained path adds its names to those of the directory. -/
theorem entries_join (output : String) {path : String} (h : IsContained path) :
    entries (join output path) = entries output ++ pieces path := by
  rw [← entries_eq_pieces h]
  unfold join
  rw [isAbsolute_eq_false h, Bool.false_or]
  split
  · rename_i hempty
    rw [String.isEmpty_iff.mp hempty]
    rfl
  · split
    · rename_i hslash
      obtain ⟨as, has⟩ := List.getLast?_eq_some_iff.mp (beq_iff_eq.mp hslash)
      have hout := pieces_of_toList has
      have hjoin : pieces (output ++ path) = pieces (String.ofList as) ++ pieces path := by
        have htext : (output ++ path).toList = as ++ '/' :: path.toList := by
          simp [String.toList_append, has]
        rw [pieces_of_toList htext, String.ofList_toList]
      unfold entries
      rw [hout, hjoin, List.filter_append, List.filter_append]
      simp [pieces, splitWhere]
    · have htext : (output ++ "/" ++ path).toList = output.toList ++ '/' :: path.toList := by
        simp [String.toList_append]
      unfold entries
      rw [pieces_of_toList htext, String.ofList_toList, String.ofList_toList, List.filter_append]

theorem isAbsolute_join (output : String) {path : String} (h : IsContained path) :
    isAbsolute (join output path) = isAbsolute output := by
  unfold join
  rw [isAbsolute_eq_false h, Bool.false_or]
  split
  · rename_i hempty
    rw [isAbsolute_eq_false h, String.isEmpty_iff.mp hempty]
    rfl
  · rename_i hempty
    have hne : output.toList ≠ [] := by simpa using hempty
    split
    · simp [isAbsolute, String.toList_append, List.head?_append_of_ne_nil _ hne]
    · simp [isAbsolute, String.toList_append, List.head?_append_of_ne_nil _ hne]

end Path

namespace FileStore

theorem foldl_enter_of_below (p : Place) {names : List String}
    (h : ∀ name ∈ names, name ≠ "" ∧ name ≠ "." ∧ name ≠ "..") :
    names.foldl enter p = p ++ names := by
  induction names generalizing p with
  | nil => simp
  | cons name names ih =>
    obtain ⟨⟨_, hdot, hdots⟩, hrest⟩ := List.forall_mem_cons.mp h
    rw [List.foldl_cons, ih _ hrest]
    simp [enter, hdot, hdots]

theorem destination_join (fs : FileStore) (output : String) {path : String}
    (h : Path.IsContained path) :
    fs.destination (Path.join output path) = fs.destination output ++ Path.pieces path := by
  unfold destination start
  rw [Path.entries_join output h, Path.isAbsolute_join output h, List.foldl_append]
  exact foldl_enter_of_below _ h

end FileStore

/-- The paths of all generated files consist of names that lead to an entry if and only if the
declared names are so. In that case every file that is written is below the output directory. -/
theorem files_contained_iff (m : Model) (mode : EmitMode) :
    ((∀ f ∈ m.files mode, Path.IsContained f.path) ↔ m.NamesContained) ∧
    (m.NamesContained → ∀ f ∈ m.files mode, ∀ (fs : FileStore) (output : String) (place : Place),
      fs.locate? (Path.join output f.path) = some place →
        ∃ below, below ≠ [] ∧ place = fs.destination output ++ below) := by
  refine ⟨m.paths_contained_iff mode, ?_⟩
  intro hnames f hf fs output place hplace
  have hcontained := (m.paths_contained_iff mode).mpr hnames f hf
  refine ⟨Path.pieces f.path, Path.pieces_ne_nil _, ?_⟩
  rw [FileStore.eq_destination_of_locate? hplace, FileStore.destination_join fs output hcontained]

/-! Houses with one domain of plain classes. -/

namespace House

/-- A class with nothing but a name and a description. -/
def plain (name : String) (description : Option String) : ClassDecl :=
  { kind := .ordinary
    name := name
    keyLetter := none
    parent := none
    isAbstract := false
    description := description
    attributes := []
    machine := none }

def room (name : String) (classes : List ClassDecl) : Domain := ⟨name, "R", classes, []⟩

def ofDomain (d : Domain) : Model := ⟨"House", "1", [d]⟩

/-- A lamp in a room is contained. Nothing is wrong with a domain called by two dots, or by a mark
of which nothing is spelled, but its files are not. -/
theorem lamp_contained_in_room :
    (ofDomain (room ".." [plain "Lamp" none])).defect? = none ∧
    (ofDomain (room ".." [plain "Lamp" none])).findings = [] ∧
    (∀ f ∈ (ofDomain (room "Room" [plain "Lamp" none])).files .split, Path.IsContained f.path) ∧
    ∀ domain ∈ ["..", "_"], ∀ mode,
      ¬ ∀ f ∈ (ofDomain (room domain [plain "Lamp" none])).files mode, Path.IsContained f.path := by
  refine ⟨by decide +kernel, by decide +kernel, ?_, ?_⟩
  · exact (files_contained_iff _ _).1.mpr (by decide +kernel)
  · intro domain hdomain mode hcontained
    have hnames := (files_contained_iff _ mode).1.mp hcontained
    have hspelled : ∀ domain ∈ ["..", "_"],
        ¬ (ofDomain (room domain [plain "Lamp" none])).NamesContained := by decide +kernel
    exact hspelled domain hdomain hnames

end House

end ExecUml
