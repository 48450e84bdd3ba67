import ExecUml.Proofs.LastWrites
import Mathlib.Data.List.Dedup
import Mathlib.Data.List.Nodup
import Mathlib.Data.List.Pairwise

/-!
# When no generated file is lost

Two files collide if their paths are equal. Directories and stems forget much of the names they are
spelled from, and they share their paths with the indexes, so files of different classes may
collide. This module says exactly when none do, and that then all of them are on disk.
-/

set_option autoImplicit false

namespace ExecUml

open Text Script

/-! ## Stems of a domain -/

/-- No two files of a domain have one stem. -/
structure Domain.StemsApart (d : Domain) (mode : EmitMode) : Prop where
  classes : (d.allClasses.map fun c => classStem c.name).Nodup
  index : ∀ c ∈ d.allClasses, classStem c.name ≠ indexStem
  /-- Interfaces with files of their own differ from the index and from all classes. -/
  interfaces : mode = .split → ∀ c ∈ d.allClasses, interfaceStem c.name ≠ indexStem ∧
    ∀ e ∈ d.allClasses, interfaceStem c.name ≠ classStem e.name

theorem hyphenated_upper_I (cs : List Char) :
    hyphenated none ('I' :: cs) = 'i' :: hyphenated none cs := by
  have hrest : hyphenated (some 'I') cs = hyphenated none cs := by
    cases cs with
    | nil => rfl
    | cons c cs => simp [hyphenated, isAsciiLower]
  rw [hyphenated, hrest]
  rfl

theorem classStem_eq (name : String) :
    classStem name = if hyphenated none (pascalChars name.toList) = [] then "unknown"
      else String.ofList (hyphenated none (pascalChars name.toList)) := by
  rw [classStem, fileStem, pascalCase, String.toList_ofList]
  simp [(respells_hyphenated none _).eq_nil_iff]

theorem classStem_eq_of_interfaceStem_eq {a b : String} (h : interfaceStem a = interfaceStem b) :
    classStem a = classStem b := by
  have hlist := congrArg String.toList h
  rw [toList_interfaceStem, toList_interfaceStem, hyphenated_upper_I, hyphenated_upper_I,
    List.cons.injEq] at hlist
  rw [classStem_eq, classStem_eq, hlist.2]

theorem perm_flatMap_pair {α β : Type} (f g : α → β) (l : List α) :
    (l.flatMap fun a => [f a, g a]).Perm (l.map f ++ l.map g) := by
  induction l with
  | nil => exact .nil
  | cons a l ih =>
    have hmove : (g a :: (l.map f ++ l.map g)).Perm (l.map f ++ g a :: l.map g) :=
      List.perm_middle.symm
    exact .cons _ ((ih.cons _).trans hmove)

theorem Domain.nodup_stems_iff (d : Domain) (mode : EmitMode) :
    (d.stems mode).Nodup ↔ d.StemsApart mode := by
  unfold Domain.stems
  cases mode with
  | merged =>
    have hflat : d.allClasses.flatMap (fun c => stemsOf c.name .merged) =
        d.allClasses.map fun c => classStem c.name := List.flatMap_pure_eq_map _ _
    rw [hflat, List.nodup_append]
    constructor
    · rintro ⟨hclasses, _, hindex⟩
      exact ⟨hclasses, fun c hc => hindex _ (List.mem_map_of_mem hc) _ (by simp), by simp⟩
    · intro h
      refine ⟨h.classes, List.nodup_singleton _, ?_⟩
      intro stem hstem index hindex
      obtain ⟨c, hc, rfl⟩ := List.mem_map.mp hstem
      rw [List.mem_singleton.mp hindex]
      exact h.index c hc
  | split =>
    have hperm := perm_flatMap_pair (fun c : ClassDecl => interfaceStem c.name)
      (fun c => classStem c.name) d.allClasses
    have hflat : d.allClasses.flatMap (fun c => stemsOf c.name .split) =
        d.allClasses.flatMap fun c => [interfaceStem c.name, classStem c.name] := rfl
    rw [hflat, (hperm.append_right [indexStem]).nodup_iff, List.nodup_append, List.nodup_append]
    constructor
    · rintro ⟨⟨_, hclasses, hapart⟩, _, hindex⟩
      refine ⟨hclasses, ?_, ?_⟩
      · intro c hc
        exact hindex _ (List.mem_append_right _ (List.mem_map_of_mem hc)) _ (by simp)
      · intro _ c hc
        refine ⟨hindex _ (List.mem_append_left _ (List.mem_map_of_mem hc)) _ (by simp), ?_⟩
        exact fun e he => hapart _ (List.mem_map_of_mem hc) _ (List.mem_map_of_mem he)
    · intro h
      -- Interfaces need no condition among themselves: they collide only if their classes do.
      have hinterfaces : (d.allClasses.map fun c => interfaceStem c.name).Nodup := by
        have hclasses := List.pairwise_map.mp h.classes
        apply List.pairwise_map.mpr
        apply hclasses.imp
        intro a b hne heq
        exact hne (classStem_eq_of_interfaceStem_eq heq)
      refine ⟨⟨hinterfaces, h.classes, ?_⟩, List.nodup_singleton _, ?_⟩
      · intro stem hstem stem' hstem'
        obtain ⟨c, hc, rfl⟩ := List.mem_map.mp hstem
        obtain ⟨e, he, rfl⟩ := List.mem_map.mp hstem'
        exact (h.interfaces rfl c hc).2 e he
      · intro stem hstem index hindex
        rw [List.mem_singleton.mp hindex]
        rcases List.mem_append.mp hstem with hstem | hstem
        · obtain ⟨c, hc, rfl⟩ := List.mem_map.mp hstem
          exact (h.interfaces rfl c hc).1
        · obtain ⟨c, hc, rfl⟩ := List.mem_map.mp hstem
          exact h.index c hc

/-! ## Paths of a model -/

theorem pathIn_eq_iff {directory directory' stem stem' : String} :
    pathIn directory stem = pathIn directory' stem' ↔
      directory.toList ++ '/' :: stem.toList = directory'.toList ++ '/' :: stem'.toList := by
  have hpath : ∀ directory stem : String, (pathIn directory stem).toList =
      (directory.toList ++ '/' :: stem.toList) ++ fileExtension.toList := by
    simp [pathIn, String.toList_append]
  rw [← String.toList_inj, hpath, hpath, List.append_left_inj]

theorem Domain.nodup_paths_iff (d : Domain) (mode : EmitMode) :
    (d.paths mode).Nodup ↔ (d.stems mode).Nodup := by
  apply List.nodup_map_iff
  intro stem stem' h
  have hlist := List.append_cancel_left (pathIn_eq_iff.mp h)
  rw [List.cons.injEq, String.toList_inj] at hlist
  exact hlist.2

/-- Two ways to cut a text at a slash: one of the fronts goes on where the other ends. -/
theorem front_cases {as bs as' bs' : List Char} (hne : as ≠ as')
    (h : as ++ '/' :: bs = as' ++ '/' :: bs') :
    (∃ inner, as' = as ++ '/' :: inner ∧ bs = inner ++ '/' :: bs') ∨
      ∃ inner, as = as' ++ '/' :: inner ∧ bs' = inner ++ '/' :: bs := by
  rcases List.append_eq_append_iff.mp h with ⟨x, hx, hrest⟩ | ⟨x, hx, hrest⟩
  · cases x with
    | nil => exact absurd (by simpa using hx.symm) hne
    | cons c inner =>
      obtain ⟨rfl, hbs⟩ := List.cons.inj hrest
      exact .inl ⟨inner, hx, hbs⟩
  · cases x with
    | nil => exact absurd (by simpa using hx) hne
    | cons c inner =>
      obtain ⟨rfl, hbs⟩ := List.cons.inj hrest
      exact .inr ⟨inner, hx, hbs⟩

/-- A path that lies in two directories has the one in the other. -/
theorem nested_of_pathIn_eq {directory directory' stem stem' : String}
    (hne : directory ≠ directory')
    (h : pathIn directory stem = pathIn directory' stem') :
    (∃ inner, directory' = directory ++ "/" ++ inner ∧ stem = inner ++ "/" ++ stem') ∨
      ∃ inner, directory = directory' ++ "/" ++ inner ∧ stem' = inner ++ "/" ++ stem := by
  have hjoin : ∀ (a : String) (as bs : List Char), a.toList = as ++ '/' :: bs →
      a = String.ofList as ++ "/" ++ String.ofList bs := by
    intro a as bs heq
    rw [← String.toList_inj, heq]
    simp [String.toList_append]
  have hne' : directory.toList ≠ directory'.toList := by simpa [String.toList_inj] using hne
  rcases front_cases hne' (pathIn_eq_iff.mp h) with ⟨inner, hfront, hrest⟩ | ⟨inner, hfront, hrest⟩
  · exact .inl
      ⟨String.ofList inner, by simpa using hjoin _ _ _ hfront, by simpa using hjoin _ _ _ hrest⟩
  · exact .inr
      ⟨String.ofList inner, by simpa using hjoin _ _ _ hfront, by simpa using hjoin _ _ _ hrest⟩

/-- No two files of a model have one path. -/
structure Model.PathsApart (m : Model) (mode : EmitMode) : Prop where
  directories : (m.domains.map (·.directory)).Nodup
  stems : ∀ d ∈ m.domains, d.StemsApart mode
  /-- If the directory of a domain lies in that of another, no stem of the other leads into it. This
  is about names with slashes only. -/
  nested : ∀ d ∈ m.domains, ∀ e ∈ m.domains, ∀ inner, e.directory = d.directory ++ "/" ++ inner →
    ∀ stem ∈ e.stems mode, inner ++ "/" ++ stem ∉ d.stems mode

theorem mem_paths_index (d : Domain) (mode : EmitMode) :
    pathIn d.directory indexStem ∈ d.paths mode :=
  List.mem_map_of_mem (List.mem_append_right _ (List.mem_singleton_self _))

theorem pathIn_nested {d e : Domain} {inner : String}
    (h : e.directory = d.directory ++ "/" ++ inner)
    (stem : String) : pathIn d.directory (inner ++ "/" ++ stem) = pathIn e.directory stem := by
  rw [h]
  simp [pathIn, String.append_assoc]

theorem pairwise_disjoint_iff (domains : List Domain) (mode : EmitMode) :
    domains.Pairwise (fun d e => (d.paths mode).Disjoint (e.paths mode)) ↔
      (domains.map (·.directory)).Nodup ∧
      ∀ d ∈ domains, ∀ e ∈ domains, ∀ inner, e.directory = d.directory ++ "/" ++ inner →
        ∀ stem ∈ e.stems mode, inner ++ "/" ++ stem ∉ d.stems mode := by
  constructor
  · intro h
    refine ⟨?_, ?_⟩
    · apply List.pairwise_map.mpr
      apply h.imp
      intro d e hdisjoint heq
      exact hdisjoint (mem_paths_index d mode) (heq ▸ mem_paths_index e mode)
    · intro d hd e he inner hinner stem hstem hnested
      -- No directory lies in itself, so these are two domains.
      have hne : d ≠ e := by
        rintro rfl
        have hlength := congrArg String.length hinner
        have hslash : "/".length = 1 := rfl
        rw [String.length_append, String.length_append] at hlength
        omega
      have hsymm : Std.Symm fun d e : Domain => (d.paths mode).Disjoint (e.paths mode) :=
        ⟨fun _ _ hdisjoint _ hpath hpath' => hdisjoint hpath' hpath⟩
      have hdisjoint := h.forall hd he hne
      apply hdisjoint (List.mem_map_of_mem hnested)
      rw [pathIn_nested hinner]
      exact List.mem_map_of_mem hstem
  · rintro ⟨hdirectories, hnested⟩
    have hpairs := List.pairwise_map.mp hdirectories
    apply List.Pairwise.imp_of_mem _ hpairs
    intro d e hd he hne path hpath hpath'
    obtain ⟨stem, hstem, rfl⟩ := List.mem_map.mp hpath
    obtain ⟨stem', hstem', heq⟩ := List.mem_map.mp hpath'
    rcases nested_of_pathIn_eq hne heq.symm with ⟨inner, hinner, rfl⟩ | ⟨inner, hinner, rfl⟩
    · exact hnested d hd e he inner hinner stem' hstem' hstem
    · exact hnested e he d hd inner hinner stem hstem hstem'

theorem root_not_mem_paths (d : Domain) (mode : EmitMode) :
    indexStem ++ fileExtension ∉ d.paths mode := by
  intro hmem
  obtain ⟨stem, _, hpath⟩ := List.mem_map.mp hmem
  have hslash : '/' ∈ (pathIn d.directory stem).toList := by simp [pathIn, String.toList_append]
  rw [hpath] at hslash
  revert hslash
  decide +kernel

theorem Model.nodup_paths_iff (m : Model) (mode : EmitMode) :
    ((m.files mode).map (·.path)).Nodup ↔ m.PathsApart mode := by
  have hroot : ∀ path ∈ m.domains.flatMap (·.paths mode), path ≠ indexStem ++ fileExtension := by
    rintro path hpath rfl
    obtain ⟨d, _, hd⟩ := List.mem_flatMap.mp hpath
    exact root_not_mem_paths d mode hd
  rw [map_path_files, List.nodup_append, List.nodup_flatMap]
  simp only [Domain.nodup_paths_iff, Domain.nodup_stems_iff]
  have hpairs := pairwise_disjoint_iff m.domains mode
  constructor
  · rintro ⟨⟨hstems, hdisjoint⟩, _, _⟩
    obtain ⟨hdirectories, hnested⟩ := hpairs.mp hdisjoint
    exact ⟨hdirectories, hstems, hnested⟩
  · intro h
    refine ⟨⟨h.stems, hpairs.mpr ⟨h.directories, h.nested⟩⟩, List.nodup_singleton _, ?_⟩
    intro path hpath root hmem
    rw [List.mem_singleton.mp hmem]
    exact hroot path hpath

/-! ## Files on disk -/

namespace FileStore

variable {fs fs' : FileStore} {output : String} {f : OutputFile} {files : List OutputFile}
  {base p : Place}

/-- The names of the files below a place, from there on. -/
def filesBelow (fs : FileStore) (base : Place) : List Place :=
  ((fs.below base).filter (·.2 ≠ .directory)).map (·.1)

/-- No place below `base` has two entries. -/
def KnownOnce (base : Place) (fs : FileStore) : Prop :=
  fs.nodes.Pairwise fun e e' => ∀ names ≠ [], e.1 = base ++ names → e'.1 ≠ base ++ names

theorem below_entry_iff {q : Place} {n : Node} {e : Place × Node} :
    (if base.isPrefixOf q && base.length < q.length then some (q.drop base.length, n) else none) =
      some e ↔ e.1 ≠ [] ∧ q = base ++ e.1 ∧ n = e.2 := by
  constructor
  · intro h
    split at h
    · rename_i hbelow
      simp only [Bool.and_eq_true, List.isPrefixOf_iff_prefix, decide_eq_true_eq] at hbelow
      obtain ⟨⟨names, rfl⟩, hlength⟩ := hbelow
      cases h
      simpa [List.ne_nil_iff_length_pos] using hlength
    · simp at h
  · rintro ⟨hnames, rfl, rfl⟩
    simp [List.length_pos_iff.mpr hnames]

theorem mem_below {e : Place × Node} :
    e ∈ fs.below base ↔ e.1 ≠ [] ∧ (base ++ e.1, e.2) ∈ fs.nodes := by
  unfold below
  rw [List.mem_filterMap]
  constructor
  · rintro ⟨⟨q, n⟩, hmem, hentry⟩
    obtain ⟨hnames, rfl, rfl⟩ := below_entry_iff.mp hentry
    exact ⟨hnames, hmem⟩
  · rintro ⟨hnames, hmem⟩
    exact ⟨_, hmem, below_entry_iff.mpr ⟨hnames, rfl, rfl⟩⟩

theorem mem_below_of_node? {names : List String} (hnames : names ≠ []) {n : Node}
    (h : fs.node? (base ++ names) = some n) : (names, n) ∈ fs.below base := by
  have hroot : (base ++ names).isEmpty = false := by simp [hnames]
  rw [node?, hroot] at h
  obtain ⟨before, after, hnodes, _⟩ := List.lookup_eq_some_iff.mp h
  exact mem_below.mpr ⟨hnames, by simp [hnodes]⟩

theorem node?_of_below_eq_nil (h : fs.below base = []) {names : List String} (hnames : names ≠ []) :
    fs.node? (base ++ names) = none := by
  cases hnode : fs.node? (base ++ names) with
  | none => rfl
  | some n => simpa [h] using mem_below_of_node? hnames hnode

namespace KnownOnce

theorem of_below_eq_nil (h : fs.below base = []) : KnownOnce base fs := by
  apply List.pairwise_of_forall_mem_list
  rintro ⟨q, n⟩ hmem e _ names hnames rfl
  have hbelow : (names, n) ∈ fs.below base := mem_below.mpr ⟨hnames, hmem⟩
  simp [h] at hbelow

theorem put (h : KnownOnce base fs) (p : Place) (n : Node) : KnownOnce base (fs.put p n) := by
  refine List.pairwise_cons.mpr ⟨?_, h.filter _⟩
  rintro e he names _ rfl
  simpa using (List.mem_filter.mp he).2

theorem grows (h : KnownOnce base fs) (hgrows : fs.Grows fs') : KnownOnce base fs' := by
  induction hgrows with
  | refl => exact h
  | directory _ _ ih => exact ih.put _ _

theorem written (h : KnownOnce base fs) (hwritten : Written output files fs fs') :
    KnownOnce base fs' := by
  induction hwritten with
  | nil => exact h
  | cons hf _ ih =>
    cases hf with
    | intro hgrows _ _ => exact ih ((h.grows hgrows).put _ _)

theorem node?_eq (h : KnownOnce base fs) {names : List String} (hnames : names ≠ []) {n : Node}
    (hmem : (base ++ names, n) ∈ fs.nodes) : fs.node? (base ++ names) = some n := by
  obtain ⟨before, after, hnodes⟩ := List.append_of_mem hmem
  have hroot : (base ++ names).isEmpty = false := by simp [hnames]
  rw [KnownOnce, hnodes, List.pairwise_append] at h
  rw [node?, hroot]
  refine List.lookup_eq_some_iff.mpr ⟨before, after, hnodes, ?_⟩
  intro e he
  have hne : e.1 ≠ base ++ names := by
    intro heq
    exact h.2.2 e he _ List.mem_cons_self names hnames heq rfl
  simpa using hne.symm

theorem mem_filesBelow_iff (h : KnownOnce base fs) {names : List String} :
    names ∈ fs.filesBelow base ↔ names ≠ [] ∧
      ∃ text, fs.node? (base ++ names) = some (.file text) := by
  unfold filesBelow
  constructor
  · intro hfile
    obtain ⟨⟨_, n⟩, hmem, rfl⟩ := List.mem_map.mp hfile
    obtain ⟨hbelow, hn⟩ := List.mem_filter.mp hmem
    obtain ⟨hnames, hmem⟩ := mem_below.mp hbelow
    have hnode := h.node?_eq hnames hmem
    cases n with
    | directory => simp at hn
    | file text => exact ⟨hnames, text, hnode⟩
  · rintro ⟨hnames, text, hnode⟩
    have hbelow := mem_below_of_node? hnames hnode
    exact List.mem_map_of_mem (List.mem_filter.mpr ⟨hbelow, by simp⟩)

theorem nodup_filesBelow (h : KnownOnce base fs) : (fs.filesBelow base).Nodup := by
  apply List.pairwise_map.mpr
  apply List.Pairwise.filter
  apply List.pairwise_filterMap.mpr
  apply h.imp
  rintro ⟨q, n⟩ ⟨q', n'⟩ hne e hentry e' hentry' heq
  obtain ⟨hnames, hq, _⟩ := below_entry_iff.mp hentry
  obtain ⟨_, hq', _⟩ := below_entry_iff.mp hentry'
  exact hne e.1 hnames hq (heq ▸ hq')

end KnownOnce

section Empty

variable (hempty : ∀ names, names ≠ [] → ∀ text, fs.node? (base ++ names) ≠ some (.file text))
  (hplace : ∀ f ∈ files, fs.destination (Path.join output f.path) = base ++ Path.pieces f.path)

include hempty hplace

theorem Written.mem_filesBelow_iff (h : Written output files fs fs') (hknown : KnownOnce base fs)
    (names : List String) :
    names ∈ fs'.filesBelow base ↔ ∃ f ∈ files, Path.pieces f.path = names := by
  rw [(hknown.written h).mem_filesBelow_iff]
  have hnode := h.node? (base ++ names)
  constructor
  · rintro ⟨hnames, text, hfile⟩
    cases hlast : fs.lastFileAt? output files (base ++ names) with
    | none =>
      -- No file goes there, and none was there before.
      rw [hlast] at hnode
      rcases hnode with heq | ⟨_, hmade⟩
      · exact absurd (heq.symm.trans hfile) (hempty names hnames text)
      · simp [hmade] at hfile
    | some f =>
      have hf : f ∈ files := List.mem_reverse.mp (List.mem_of_find?_eq_some hlast)
      have hdestination : fs.destination (Path.join output f.path) = base ++ names := by
        simpa using List.find?_some hlast
      rw [hplace f hf] at hdestination
      exact ⟨f, hf, List.append_cancel_left hdestination⟩
  · rintro ⟨f, hf, rfl⟩
    obtain ⟨g, _, hlast⟩ := exists_lastFileAt? fs output hf
    rw [hplace f hf] at hlast
    rw [hlast] at hnode
    exact ⟨Path.pieces_ne_nil _, _, hnode⟩

/-- Files that go below an empty place are what is there in the end, one for each of their paths. -/
theorem Written.length_filesBelow (h : Written output files fs fs') (hknown : KnownOnce base fs) :
    (fs'.filesBelow base).length = ((files.map (·.path)).dedup).length := by
  have hnodup := (hknown.written h).nodup_filesBelow
  have hperm : (fs'.filesBelow base).Perm ((files.map (·.path)).dedup.map Path.pieces) := by
    apply (List.perm_ext_iff_of_nodup hnodup ((List.nodup_dedup _).map Path.pieces_injective)).mpr
    intro names
    rw [h.mem_filesBelow_iff hempty hplace hknown]
    simp
  rw [hperm.length_eq, List.length_map]

end Empty

end FileStore

open FileStore

theorem find?_reverse_of_nodup {files : List OutputFile} (h : (files.map (·.path)).Nodup)
    {f : OutputFile} (hf : f ∈ files) : files.reverse.find? (·.path == f.path) = some f := by
  cases hfind : files.reverse.find? (·.path == f.path) with
  | none => simpa using List.find?_eq_none.mp hfind f (List.mem_reverse.mpr hf)
  | some g =>
    have hg := List.mem_reverse.mp (List.mem_of_find?_eq_some hfind)
    have hpath : g.path = f.path := by simpa using List.find?_some hfind
    rw [List.inj_on_of_nodup_map h hg hf hpath]

theorem length_dedup_eq_iff {α : Type} [DecidableEq α] (l : List α) :
    l.dedup.length = l.length ↔ l.Nodup := by
  rw [← List.dedup_eq_self]
  constructor
  · exact (List.dedup_sublist l).eq_of_length
  · intro h
    rw [h]

section Compilations

variable {job : Job} {m : Model} {w w' : World} {report : Report}

theorem Compiles.at?_of_apart (h : Compiles job m w w' report) (hapart : m.PathsApart job.mode)
    (hnames : m.NamesContained) {f : OutputFile} (hf : f ∈ m.files job.mode) :
    w'.store.at? (Path.join job.output f.path) = some (.file (some f.content)) := by
  obtain ⟨g, hlast, hat⟩ := h.at? hf
  have hcontained := (m.paths_contained_iff job.mode).mpr hnames
  rw [lastFileAt?_of_contained hcontained _ _ hf,
    find?_reverse_of_nodup ((m.nodup_paths_iff job.mode).mpr hapart) hf] at hlast
  cases hlast
  exact hat

/-- A compilation into an empty directory leaves one file for each path. -/
theorem Compiles.length_filesBelow (h : Compiles job m w w' report) (hnames : m.NamesContained)
    (hempty : w.store.below (w.store.destination job.output) = []) :
    (w'.store.filesBelow (w.store.destination job.output)).length =
      (((m.files job.mode).map (·.path)).dedup).length := by
  obtain ⟨_, made, hgrows, hwritten⟩ := h.written
  have hcontained := (m.paths_contained_iff job.mode).mpr hnames
  have hknown := (KnownOnce.of_below_eq_nil hempty).grows hgrows
  refine hwritten.length_filesBelow ?_ ?_ hknown
  · intro names hnames text hfile
    have hnone := node?_of_below_eq_nil hempty hnames
    rcases hgrows.node? (w.store.destination job.output ++ names) with heq | ⟨_, hmade⟩
    · simp [heq, hnone] at hfile
    · simp [hmade] at hfile
  · intro f hf
    rw [destination_eq_of_here hgrows.here, destination_join _ _ (hcontained f hf)]

end Compilations

/-- The paths of the generated files are distinct if and only if directories, stems and indexes are
apart. For contained names this decides whether a compilation into an empty directory leaves as many
files as its report says; if it does, every generated file is there. -/
theorem paths_distinct_iff_apart (m : Model) (mode : EmitMode) :
    (((m.files mode).map (·.path)).Nodup ↔ m.PathsApart mode) ∧
    ∀ (job : Job) (w w' : World) (report : Report), job.mode = mode → Compiles job m w w' report →
      m.NamesContained → w.store.below (w.store.destination job.output) = [] →
      ((w'.store.filesBelow (w.store.destination job.output)).length = report.filesWritten ↔
        m.PathsApart mode) ∧
      (m.PathsApart mode → ∀ f ∈ m.files mode,
        w'.store.at? (Path.join job.output f.path) = some (.file (some f.content))) := by
  refine ⟨m.nodup_paths_iff mode, ?_⟩
  rintro job w w' report rfl h hnames hempty
  refine ⟨?_, fun hapart f hf => h.at?_of_apart hapart hnames hf⟩
  have hwritten : report.filesWritten = ((m.files job.mode).map (·.path)).length := by
    rw [h.written.1, List.length_map]
    rfl
  rw [h.length_filesBelow hnames hempty, hwritten, length_dedup_eq_iff, m.nodup_paths_iff]

namespace House

def oneClass (name : String) : Model := ofDomain (room "Room" [plain name none])

def oneClassDocument (name : String) : String :=
  "[\"House\", \"1\", [[\"Room\", \"R\", [[null, \"" ++ name ++ "\"]]]]]"

theorem compiles_lamp : Compiles job (oneClass "Lamp") (holding (oneClassDocument "Lamp"))
    (compiled (oneClassDocument "Lamp")) ((oneClass "Lamp").report job.mode) :=
  .of_load (oneClassDocument "Lamp") (by decide +kernel) (by decide +kernel) (by decide +kernel)

theorem compiles_index : Compiles job (oneClass "Index") (holding (oneClassDocument "Index"))
    (compiled (oneClassDocument "Index")) ((oneClass "Index").report job.mode) :=
  .of_load (oneClassDocument "Index") (by decide +kernel) (by decide +kernel) (by decide +kernel)

theorem nodup_paths_lamp : (((oneClass "Lamp").files job.mode).map (·.path)).Nodup := by
  decide +kernel

theorem not_nodup_paths_index : ¬ (((oneClass "Index").files job.mode).map (·.path)).Nodup := by
  decide +kernel

/-- Three files are reported for a house with one class. They are all on disk if the class is called
Lamp; if it is called Index, which is no fault, one of them is lost. -/
theorem index_loses_file :
    (oneClass "Index").defect? = none ∧ (oneClass "Index").findings = [] ∧
    ((compiled (oneClassDocument "Lamp")).store.filesBelow ["work", "output"]).length = 3 ∧
    ((oneClass "Index").report job.mode).filesWritten = 3 ∧
    ((compiled (oneClassDocument "Index")).store.filesBelow ["work", "output"]).length ≠ 3 := by
  have hempty : ∀ name ∈ ["Lamp", "Index"],
      (holding (oneClassDocument name)).store.below ["work", "output"] = [] := by decide +kernel
  have hnames : ∀ name ∈ ["Lamp", "Index"], (oneClass name).NamesContained := by decide +kernel
  obtain ⟨hlamp, hlampRun⟩ := paths_distinct_iff_apart (oneClass "Lamp") job.mode
  obtain ⟨hindex, hindexRun⟩ := paths_distinct_iff_apart (oneClass "Index") job.mode
  have hkept := (hlampRun job _ _ _ rfl compiles_lamp (hnames _ (by simp)) (hempty _ (by simp))).1
  have hlost := (hindexRun job _ _ _ rfl compiles_index (hnames _ (by simp)) (hempty _ (by simp))).1
  have hreport : ∀ name, ((oneClass name).report job.mode).filesWritten = 3 := fun _ => rfl
  refine ⟨by decide +kernel, by decide +kernel, ?_, hreport _, ?_⟩
  · exact (hkept.mpr (hlamp.mp nodup_paths_lamp)).trans (hreport _)
  · intro hcount
    exact not_nodup_paths_index (hindex.mpr (hlost.mp (hcount.trans (hreport _).symm)))

end House

end ExecUml
