import ExecUml.Proofs.LastWrites
import Mathlib.Logic.Function.Basic

/-!
# What a failing compilation leaves behind

Nothing is touched before the model has been loaded. From then on files are written one by one, so a
compilation that fails later has written an initial part of the generated files. The file at which
it failed is another matter: a machine may empty a file before it finds that the text does not fit.
All others are as they were.

This holds on every machine whose disk can be looked at as a map from places to contents, which
making directories does not change and a failing write changes at its own place at most. Directories
that were made on the way to a file are not undone.
-/

set_option autoImplicit false

namespace ExecUml

/-! ## Disks -/

/-- What there is to see of the disk of a machine: the place that a path stands for, and what the
files hold, by place. -/
structure DiskView (σ Disk Place Content : Type) where
  disk : σ → Disk
  placeOn : Disk → String → Place
  filesOn : Disk → Place → Option Content
  ofText : String → Content

namespace DiskView

variable {σ Disk Place Content : Type} {host : Host (StateM σ)}
  {v : DiskView σ Disk Place Content} {output path : String} {f : OutputFile}
  {done rest : List OutputFile} {kind : PathKind} {s s' : σ}

def place (v : DiskView σ Disk Place Content) (s : σ) : String → Place := v.placeOn (v.disk s)

def files (v : DiskView σ Disk Place Content) (s : σ) : Place → Option Content :=
  v.filesOn (v.disk s)

theorem place_of_disk (h : v.disk s' = v.disk s) : v.place s' = v.place s := by
  rw [place, place, h]

theorem files_of_disk (h : v.disk s' = v.disk s) : v.files s' = v.files s := by
  rw [files, files, h]

variable [DecidableEq Place]

/-- Puts the text of a generated file at the place that its path below a directory stands for. -/
def put (v : DiskView σ Disk Place Content) (s : σ) (output : String)
    (files : Place → Option Content) (f : OutputFile) : Place → Option Content :=
  Function.update files (v.place s (Path.join output f.path)) (some (v.ofText f.content))

/-- The files after some more were written below a directory, one after the other. -/
def filesAfter (v : DiskView σ Disk Place Content) (s : σ) (output : String)
    (written : List OutputFile) : Place → Option Content :=
  written.foldl (v.put s output) (v.files s)

/-- What is asked of a machine. Only writing changes files, a write that works puts the text in its
place, and one that fails changes no other place. What a path stands for does not depend on what has
been written. -/
structure Laws (v : DiskView σ Disk Place Content) (host : Host (StateM σ)) : Prop
    extends host.LooksOnly v.disk where
  place_makeDirectories : ∀ path, Keeps v.place (host.makeDirectories path)
  files_makeDirectories : ∀ path, Keeps v.files (host.makeDirectories path)
  place_writeFile : ∀ path text, Keeps v.place (host.writeFile path text)
  files_of_written : ∀ {path text s s'}, host.writeFile path text s = (true, s') →
    v.files s' = Function.update (v.files s) (v.place s path) (some (v.ofText text))
  files_of_failed : ∀ {path text s s'}, host.writeFile path text s = (false, s') →
    ∀ p, p ≠ v.place s path → v.files s' p = v.files s p

theorem put_of_place (h : v.place s' = v.place s) (output : String) :
    v.put s' output = v.put s output := by
  funext files f
  rw [put, put, h]

theorem filesAfter_congr (hplace : v.place s' = v.place s) (hfiles : v.files s' = v.files s)
    (output : String) (written : List OutputFile) :
    v.filesAfter s' output written = v.filesAfter s output written := by
  rw [filesAfter, filesAfter, hfiles, put_of_place hplace]

namespace Laws

variable (laws : v.Laws host)

include laws

theorem place_of_made {made : Bool} (h : host.makeDirectories path s = (made, s')) :
    v.place s' = v.place s := by
  rw [← laws.place_makeDirectories path s, h]

theorem files_of_made {made : Bool} (h : host.makeDirectories path s = (made, s')) :
    v.files s' = v.files s := by
  rw [← laws.files_makeDirectories path s, h]

theorem of_writes (h : host.Writes output f s s') :
    v.place s' = v.place s ∧ v.files s' = v.put s output (v.files s) f := by
  obtain ⟨ready, hmade, hwritten⟩ := h
  have hplace := laws.place_of_made hmade
  constructor
  · rw [← hplace, ← laws.place_writeFile (Path.join output f.path) f.content ready, hwritten]
  · rw [laws.files_of_written hwritten, laws.files_of_made hmade, hplace, put]

theorem of_writeFiles (h : writeFiles host output done s = (none, s')) :
    v.place s' = v.place s ∧ v.files s' = v.filesAfter s output done := by
  induction done generalizing s with
  | nil =>
    cases h
    exact ⟨rfl, rfl⟩
  | cons f done ih =>
    rcases writeFiles_cons_cases h with ⟨next, hwrites, hrest⟩ | ⟨_, _, hanswer, _⟩
    · obtain ⟨hplace, hfiles⟩ := laws.of_writes hwrites
      obtain ⟨hplace', hfiles'⟩ := ih hrest
      refine ⟨hplace'.trans hplace, ?_⟩
      rw [hfiles', filesAfter, filesAfter, List.foldl_cons, hfiles, put_of_place hplace]
    · cases hanswer

theorem of_writeOutput (h : writeOutput host output done s = (none, s')) :
    v.place s' = v.place s ∧ v.files s' = v.filesAfter s output done := by
  rcases writeOutput_cases h with ⟨next, hmade, hwrite⟩ | ⟨_, hanswer⟩
  · have hplace := laws.place_of_made hmade
    obtain ⟨hplace', hfiles⟩ := laws.of_writeFiles hwrite
    rw [filesAfter_congr hplace (laws.files_of_made hmade)] at hfiles
    exact ⟨hplace'.trans hplace, hfiles⟩
  · cases hanswer

/-- A directory that cannot be made changes no file, and a file that cannot be made no other one. -/
theorem files_of_refuses (h : host.Refuses output f s kind path s') {p : Place}
    (hp : kind = .directory ∨ p ≠ v.place s path) : v.files s' p = v.files s p := by
  cases h with
  | directory hfails => rw [laws.files_of_made hfails]
  | file hmade hfails =>
    have hp := hp.resolve_left (by simp)
    rw [← laws.place_of_made hmade] at hp
    rw [laws.files_of_failed hfails p hp, laws.files_of_made hmade]

/-- Where writing stopped, the files written until then are there, and nothing else has changed but
the file that could not be made. -/
theorem files_of_stops (h : host.Stops output s done rest kind path s') {p : Place}
    (hp : kind = .directory ∨ p ≠ v.place s path) :
    v.files s' p = v.filesAfter s output done p := by
  cases h with
  | output hfails => rw [laws.files_of_made hfails, filesAfter, List.foldl_nil]
  | next hdone hrefuses =>
    obtain ⟨hplace, hfiles⟩ := laws.of_writeOutput hdone
    rw [← hplace] at hp
    rw [laws.files_of_refuses hrefuses hp, hfiles]

end Laws

end DiskView

namespace FileStore

variable {fs fs' : FileStore} {path : String}

/-- The files of a store by place. A file whose bytes are not text has no text. -/
def contents (fs : FileStore) (p : Place) : Option (Option String) :=
  match fs.node? p with
  | some (.file text) => some text
  | _ => none

theorem Grows.contents (h : fs.Grows fs') : fs'.contents = fs.contents := by
  funext p
  unfold FileStore.contents
  rcases h.node? p with heq | ⟨hnone, hmade⟩
  · rw [heq]
  · rw [hnone, hmade]

theorem contents_write {text : Option String} (h : fs.write path text = (fs', true)) :
    fs'.contents = Function.update fs.contents (fs.destination path) (some text) := by
  obtain ⟨p, hlocate, hfree, rfl⟩ := put_of_write h
  rw [← eq_destination_of_locate? hlocate]
  funext q
  unfold FileStore.contents
  rw [node?_put (ne_root_of_not_directory hfree)]
  by_cases hq : q = p
  · rw [if_pos hq, hq, Function.update_self]
  · rw [if_neg hq, Function.update_of_ne hq]

theorem write_eq_of_fails {text : Option String} (h : (fs.write path text).2 = false) :
    (fs.write path text).1 = fs := by
  unfold write at h ⊢
  split
  · rfl
  · split
    · rfl
    · simp_all

theorem here_write (fs : FileStore) (path : String) (text : Option String) :
    (fs.write path text).1.here = fs.here := by
  cases hdone : (fs.write path text).2 with
  | false => rw [write_eq_of_fails hdone]
  | true =>
    have hrun : fs.write path text = ((fs.write path text).1, true) := Prod.ext rfl hdone
    obtain ⟨p, _, _, hput⟩ := put_of_write hrun
    rw [hput]
    rfl

end FileStore

open FileStore

namespace World

variable {w w' : World} {path text : String}

/-- The disk of the machine in memory is its store. -/
def view : DiskView World FileStore Place (Option String) := ⟨store, destination, contents, some⟩

theorem view_place (h : w'.store.here = w.store.here) : view.place w' = view.place w := by
  funext path
  exact destination_eq_of_here h path

theorem keeps_place_writeFile (path text : String) : Keeps view.place (host.writeFile path text) :=
  fun w => view_place (here_write w.store path (some text))

theorem files_of_host_written (h : host.writeFile path text w = (true, w')) :
    view.files w' = Function.update (view.files w) (view.place w path) (some (some text)) := by
  rw [host_writeFile] at h
  obtain ⟨hdone, rfl⟩ := Prod.mk.inj h
  exact contents_write (Prod.ext rfl hdone)

theorem store_of_host_failed (h : host.writeFile path text w = (false, w')) :
    w'.store = w.store := by
  rw [host_writeFile] at h
  obtain ⟨hfails, rfl⟩ := Prod.mk.inj h
  exact write_eq_of_fails hfails

theorem laws : view.Laws host where
  toLooksOnly := looksOnly
  place_makeDirectories path w := view_place (grows_makeDirectories w.store path).here
  files_makeDirectories path w := (grows_makeDirectories w.store path).contents
  place_writeFile := keeps_place_writeFile
  files_of_written := files_of_host_written
  files_of_failed h p _ := by rw [DiskView.files_of_disk (store_of_host_failed h)]

/-- In memory a file that cannot be written is left alone as well. -/
theorem files_of_stops {output : String} {done rest : List OutputFile} {kind : PathKind}
    (h : host.Stops output w done rest kind path w') :
    view.files w' = view.filesAfter w output done := by
  cases h with
  | output hfails => exact laws.files_of_made hfails
  | next hdone hrefuses =>
    rw [← (laws.of_writeOutput hdone).2]
    cases hrefuses with
    | directory hfails => exact laws.files_of_made hfails
    | file hmade hfails =>
      rw [DiskView.files_of_disk (store_of_host_failed hfails), laws.files_of_made hmade]

/-- A failing compilation in memory leaves exactly the files that were there, with an initial part
of the generated ones written over them. -/
theorem files_of_failed_compile {job : Job} {e : CompileError}
    (h : compile host job w = (.error e, w')) :
    ∃ done, view.files w' = view.filesAfter w job.output done ∧
      ∀ m, (loadFile host job.input w).1 = .ok m → done <+: m.files job.mode := by
  rcases compile_error looksOnly h with
    ⟨hload, hsame⟩ | ⟨m, started, done, rest, kind, path, hload, hsame, hfiles, rfl, hstops⟩
  · refine ⟨[], DiskView.files_of_disk hsame, fun m hok => ?_⟩
    rw [hload] at hok
    cases hok
  · refine ⟨done, ?_, fun m' hok => ?_⟩
    · rw [files_of_stops hstops, DiskView.filesAfter_congr (DiskView.place_of_disk hsame)
        (DiskView.files_of_disk hsame)]
    · rw [hload] at hok
      cases hok
      exact ⟨rest, hfiles.symm⟩

end World

/-! The room of a house has a lamp and a window. There is an old file of the window, and the new one
does not fit. -/

namespace House

open World

end House

end ExecUml
