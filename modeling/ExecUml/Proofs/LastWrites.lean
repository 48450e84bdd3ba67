import ExecUml.Proofs.OutputPaths

/-!
# What is on disk after a compilation

Files are written in the order in which they are generated, so of several files that go to one place
the last one stays. Looking a path up among the generated files finds the first one. The two agree
only where first and last have the same content.
-/

set_option autoImplicit false

namespace ExecUml

namespace FileStore

variable {fs fs' : FileStore} {output : String} {f : OutputFile} {files : List OutputFile}
  {p : Place}

/-- The last of some files that go to a place below a directory. -/
def lastFileAt? (fs : FileStore) (output : String) (files : List OutputFile) (p : Place) :
    Option OutputFile :=
  files.reverse.find? fun f => fs.destination (Path.join output f.path) = p

theorem lastFileAt?_cons (fs : FileStore) (output : String) (f : OutputFile)
    (files : List OutputFile) (p : Place) :
    fs.lastFileAt? output (f :: files) p = (fs.lastFileAt? output files p).or
      (if fs.destination (Path.join output f.path) = p then some f else none) := by
  unfold lastFileAt?
  rw [List.reverse_cons, List.find?_append]
  by_cases h : fs.destination (Path.join output f.path) = p
  · simp [h]
  · simp [h]

theorem lastFileAt?_of_here (h : fs'.here = fs.here) (output : String) (files : List OutputFile)
    (p : Place) : fs'.lastFileAt? output files p = fs.lastFileAt? output files p := by
  simp only [lastFileAt?, destination_eq_of_here h]

theorem exists_lastFileAt? (fs : FileStore) (output : String) (hf : f ∈ files) :
    ∃ g ∈ files, fs.lastFileAt? output files (fs.destination (Path.join output f.path)) =
      some g := by
  cases hlast : fs.lastFileAt? output files (fs.destination (Path.join output f.path)) with
  | none =>
    have hnone := List.find?_eq_none.mp hlast f (List.mem_reverse.mpr hf)
    simp at hnone
  | some g => exact ⟨g, List.mem_reverse.mp (List.mem_of_find?_eq_some hlast), rfl⟩

/-- A place where no file goes is as it was, or a directory was made there. -/
def AsBefore (fs fs' : FileStore) (p : Place) : Prop :=
  fs'.node? p = fs.node? p ∨ fs.node? p = none ∧ fs'.node? p = some .directory

theorem AsBefore.trans {fs'' : FileStore} (h : fs.AsBefore fs' p) (h' : fs'.AsBefore fs'' p) :
    fs.AsBefore fs'' p := by
  rcases h with heq | ⟨hnone, hmade⟩
  · rcases h' with heq' | ⟨hnone', hmade'⟩
    · exact .inl (heq'.trans heq)
    · exact .inr ⟨heq ▸ hnone', hmade'⟩
  · rcases h' with heq' | ⟨hnone', _⟩
    · exact .inr ⟨hnone, heq'.trans hmade⟩
    · simp [hmade] at hnone'

namespace Placed

theorem here (h : Placed output f fs fs') : fs'.here = fs.here := by
  cases h with
  | intro hgrows _ _ => exact hgrows.here

theorem keepsDirectories (h : Placed output f fs fs') : fs.KeepsDirectories fs' := by
  cases h with
  | intro hgrows _ hfree => exact hgrows.keepsDirectories.trans (.put hfree _)

theorem locate? (h : Placed output f fs fs') :
    fs'.locate? (Path.join output f.path) = some (fs.destination (Path.join output f.path)) := by
  cases h with
  | intro hgrows hlocate hfree =>
    have hplace := eq_destination_of_locate? hlocate
    rw [destination_eq_of_here hgrows.here] at hplace
    rw [← hplace]
    exact (KeepsDirectories.put hfree _).locate? rfl hlocate

theorem node? (h : Placed output f fs fs') (p : Place) :
    if fs.destination (Path.join output f.path) = p then fs'.node? p = some (.file (some f.content))
    else fs.AsBefore fs' p := by
  cases h with
  | @intro above q hgrows hlocate hfree =>
    have hplace := eq_destination_of_locate? hlocate
    rw [destination_eq_of_here hgrows.here] at hplace
    rw [← hplace, AsBefore, node?_put (ne_root_of_not_directory hfree)]
    by_cases hp : q = p
    · simp [hp]
    · rw [if_neg hp, if_neg (Ne.symm hp)]
      exact hgrows.node? p

end Placed

namespace Written

theorem here (h : Written output files fs fs') : fs'.here = fs.here := by
  induction h with
  | nil => rfl
  | cons hf _ ih => exact ih.trans hf.here

theorem keepsDirectories (h : Written output files fs fs') : fs.KeepsDirectories fs' := by
  induction h with
  | nil => exact fun _ hp => hp
  | cons hf _ ih => exact hf.keepsDirectories.trans ih

theorem locate? (h : Written output files fs fs') (hf : f ∈ files) :
    fs'.locate? (Path.join output f.path) = some (fs.destination (Path.join output f.path)) := by
  induction h with
  | nil => simp at hf
  | cons hg hrest ih =>
    rcases List.mem_cons.mp hf with rfl | hf
    · exact hrest.keepsDirectories.locate? hrest.here hg.locate?
    · rw [ih hf, destination_eq_of_here hg.here]

/-- At a place where files go the last of them stays, and any other place is as before. -/
theorem node? (h : Written output files fs fs') (p : Place) :
    match fs.lastFileAt? output files p with
    | some f => fs'.node? p = some (.file (some f.content))
    | none => fs.AsBefore fs' p := by
  induction h with
  | nil => exact .inl rfl
  | @cons f files fs fs₁ fs' hf hrest ih =>
    have hnode := hf.node? p
    rw [lastFileAt?_of_here hf.here] at ih
    rw [lastFileAt?_cons]
    -- Later files win: this one stays only if none of the rest goes to the same place.
    cases hlast : fs.lastFileAt? output files p with
    | some g =>
      rw [hlast] at ih
      exact ih
    | none =>
      rw [hlast] at ih
      rw [Option.none_or]
      by_cases hp : fs.destination (Path.join output f.path) = p
      · rw [if_pos hp] at hnode ⊢
        rcases ih with heq | ⟨hnone, _⟩
        · exact heq.trans hnode
        · simp [hnode] at hnone
      · rw [if_neg hp] at hnode ⊢
        exact hnode.trans ih

theorem at? (h : Written output files fs fs') (hf : f ∈ files) :
    ∃ g, fs.lastFileAt? output files (fs.destination (Path.join output f.path)) = some g ∧
      fs'.at? (Path.join output f.path) = some (.file (some g.content)) := by
  obtain ⟨g, _, hlast⟩ := exists_lastFileAt? fs output hf
  have hnode := h.node? (fs.destination (Path.join output f.path))
  rw [hlast] at hnode
  exact ⟨g, hlast, by rw [FileStore.at?, h.locate? hf, Option.bind_some, hnode]⟩

end Written

/-- If the paths are contained, files go to one place only if they have one path. -/
theorem lastFileAt?_of_contained (h : ∀ f ∈ files, Path.IsContained f.path) (fs : FileStore)
    (output : String) (hf : f ∈ files) :
    fs.lastFileAt? output files (fs.destination (Path.join output f.path)) =
      files.reverse.find? (·.path == f.path) := by
  unfold lastFileAt?
  rw [← List.head?_filter, ← List.head?_filter]
  apply congrArg List.head?
  apply List.filter_congr
  intro g hg
  have hiff : fs.destination (Path.join output g.path) = fs.destination (Path.join output f.path) ↔
      g.path = f.path := by
    rw [destination_join fs output (h g (List.mem_reverse.mp hg)),
      destination_join fs output (h f hf)]
    constructor
    · intro heq
      exact Path.pieces_injective (List.append_cancel_left heq)
    · intro heq
      rw [heq]
  rw [Bool.eq_iff_iff]
  simp [hiff]

end FileStore

open FileStore

/-! ## Compilations -/

/-- A successful compilation of a model from the document in the input file. -/
structure Compiles (job : Job) (m : Model) (w w' : World) (report : Report) : Prop where
  input : ∃ text, w.store.at? job.input = some (.file (some text)) ∧ Model.load text = .ok m
  run : compile World.host job w = (.ok report, w')

section Compilations

variable {job : Job} {m : Model} {w w' : World} {report : Report}

/-- A compilation succeeds if the document can be loaded and the files can be written. -/
theorem Compiles.of_load (text : String) (hinput : w.store.at? job.input = some (.file (some text)))
    (hload : (Model.load text).toOption = some m)
    (hwrite : (writeOutput World.host job.output (m.files job.mode) w).1 = none) :
    Compiles job m w (compile World.host job w).2 (m.report job.mode) := by
  have hload : Model.load text = .ok m := ok_of_toOption hload
  have hnode : loadNode job.input (w.store.at? job.input) = .ok m := by rw [hinput, loadNode, hload]
  refine ⟨⟨text, hinput, hload⟩, ?_⟩
  rw [← compile_answer hnode hwrite]
  exact (Prod.eta _).symm

theorem Compiles.written (h : Compiles job m w w' report) :
    report = m.report job.mode ∧
      ∃ made, w.store.Grows made ∧ Written job.output (m.files job.mode) made w'.store := by
  obtain ⟨text, hinput, hload⟩ := h.input
  obtain ⟨text', m', made, hinput', hload', hreport, hgrows, hwritten⟩ := compile_ok h.run
  cases hinput.symm.trans hinput'
  cases hload.symm.trans hload'
  exact ⟨hreport, made, hgrows, hwritten⟩

theorem Compiles.at? (h : Compiles job m w w' report) {f : OutputFile} (hf : f ∈ m.files job.mode) :
    ∃ g, w.store.lastFileAt? job.output (m.files job.mode)
        (w.store.destination (Path.join job.output f.path)) = some g ∧
      w'.store.at? (Path.join job.output f.path) = some (.file (some g.content)) := by
  obtain ⟨_, made, hgrows, hwritten⟩ := h.written
  obtain ⟨g, hlast, hat⟩ := hwritten.at? hf
  rw [destination_eq_of_here hgrows.here, lastFileAt?_of_here hgrows.here] at hlast
  exact ⟨g, hlast, hat⟩

end Compilations

theorem exists_contentAt? {files : List OutputFile} {f : OutputFile} (hf : f ∈ files) :
    ∃ content, contentAt? files f.path = some content := by
  cases hfind : files.find? (·.path == f.path) with
  | none => simpa using List.find?_eq_none.mp hfind f hf
  | some g => exact ⟨g.content, by rw [contentAt?, hfind, Option.map_some]⟩

theorem exists_file_of_contentAt? {files : List OutputFile} {path content : String}
    (h : contentAt? files path = some content) : ∃ f ∈ files, f.path = path := by
  obtain ⟨f, hfind, _⟩ := Option.map_eq_some_iff.mp h
  exact ⟨f, List.mem_of_find?_eq_some hfind, by simpa using List.find?_some hfind⟩

/-- After a compilation every path leads to the content of the last generated file that goes to its
place. The first file of each path is on disk if and only if it has the content of that last one. If
the declared names are contained, the last file that goes to the place of a path is the last one
with that path. -/
theorem disk_holds_first_iff (job : Job) (m : Model) (w w' : World) (report : Report)
    (h : Compiles job m w w' report) :
    let files := m.files job.mode
    let last (path : String) := w.store.lastFileAt? job.output files
      (w.store.destination (Path.join job.output path))
    (∀ f ∈ files, ∃ g, last f.path = some g ∧
      w'.store.at? (Path.join job.output f.path) = some (.file (some g.content))) ∧
    ((∀ path content, contentAt? files path = some content →
        w'.store.at? (Path.join job.output path) = some (.file (some content))) ↔
      ∀ f ∈ files, contentAt? files f.path = (last f.path).map (·.content)) ∧
    (m.NamesContained → ∀ f ∈ files, last f.path = files.reverse.find? (·.path == f.path)) := by
  intro files last
  refine ⟨fun f hf => h.at? hf, ⟨?_, ?_⟩, ?_⟩
  · intro hdisk f hf
    obtain ⟨g, hlast, hat⟩ := h.at? hf
    obtain ⟨content, hfirst⟩ := exists_contentAt? hf
    have hsame : some (Node.file (some g.content)) = some (.file (some content)) :=
      hat.symm.trans (hdisk f.path content hfirst)
    have hlast : last f.path = some g := hlast
    rw [hlast, hfirst]
    simpa using hsame.symm
  · intro hsame path content hfirst
    obtain ⟨f, hf, rfl⟩ := exists_file_of_contentAt? hfirst
    obtain ⟨g, hlast, hat⟩ := h.at? hf
    have hlast : last f.path = some g := hlast
    have hcontent := hsame f hf
    rw [hlast, hfirst] at hcontent
    rw [hat]
    simpa using hcontent.symm
  · intro hnames f hf
    exact lastFileAt?_of_contained ((m.paths_contained_iff job.mode).mpr hnames) w.store job.output
      hf

namespace House

def job : Job := ⟨"model.json", "output", .merged⟩

/-- A machine with nothing but a document in its working directory. -/
def holding (document : String) : World :=
  .ofStore ((FileStore.fresh ["work"]).put ["work", "model.json"] (.file (some document)))

def compiled (document : String) : World := (compile World.host job (holding document)).2

/-! Two classes in one domain have the name Lamp. -/

def lamps : Domain := room "Room" [plain "Lamp" none, plain "Lamp" (some "bright")]

def lampsDocument : String :=
  "[\"House\", \"1\", [[\"Room\", \"R\", [[null, \"Lamp\"], "
    ++ "[null, \"Lamp\", null, null, false, \"bright\"]]]]]"

theorem compiles_lamps : Compiles job (ofDomain lamps) (holding lampsDocument)
    (compiled lampsDocument) ((ofDomain lamps).report job.mode) :=
  .of_load lampsDocument (by decide +kernel) (by decide +kernel) (by decide +kernel)

/-- The file that is generated from one of the two lamps. -/
def lampFile (description : Option String) : OutputFile :=
  let scope : Scope := ⟨.ofModel (ofDomain lamps), plain "Lamp" description⟩
  ⟨"room/lamp.ts", (scope.mergedModule (ofDomain lamps) lamps).module.print⟩

theorem find?_first :
    ((ofDomain lamps).files job.mode).find? (·.path == "room/lamp.ts") = some (lampFile none) := by
  decide +kernel

theorem find?_last :
    ((ofDomain lamps).files job.mode).reverse.find? (·.path == "room/lamp.ts") =
      some (lampFile (some "bright")) := by
  decide +kernel

/-- The file of the second lamp is on disk, although the first one is found under its path. -/
theorem disk_holds_second_lamp :
    Compiles job (ofDomain lamps) (holding lampsDocument) (compiled lampsDocument)
      ((ofDomain lamps).report job.mode) ∧
    contentAt? ((ofDomain lamps).files job.mode) "room/lamp.ts" = some (lampFile none).content ∧
    (compiled lampsDocument).store.at? "output/room/lamp.ts" =
      some (.file (some (lampFile (some "bright")).content)) ∧
    (lampFile none).content ≠ (lampFile (some "bright")).content := by
  obtain ⟨hdisk, _, hcontained⟩ := disk_holds_first_iff job _ _ _ _ compiles_lamps
  have hmem : lampFile none ∈ (ofDomain lamps).files job.mode :=
    List.mem_of_find?_eq_some find?_first
  obtain ⟨g, hlast, hat⟩ := hdisk (lampFile none) hmem
  have hg : some (lampFile (some "bright")) = some g :=
    find?_last.symm.trans ((hcontained (by decide +kernel) _ hmem).symm.trans hlast)
  cases hg
  exact ⟨compiles_lamps, by rw [contentAt?, find?_first, Option.map_some], hat, by decide +kernel⟩

end House

end ExecUml
