import ExecUml.Compile

/-!
# What a compilation does to the file store

A successful compilation makes directories where nothing was, and puts every generated file at the
place that its path stands for. `Grows` and `Written` say this step by step; whatever the steps
keep, the compilation keeps.

How a run is put together does not depend on the machine, so this part is said for all of them.
-/

set_option autoImplicit false

namespace ExecUml

namespace FileStore

variable {fs fs' : FileStore} {p q : Place} {n : Node} {path : String}

theorem node?_root (fs : FileStore) : fs.node? [] = some .directory := rfl

/-- Looking up among the nodes at some places only. -/
theorem lookup_filter_place (keep : Place → Bool) (nodes : List (Place × Node)) (q : Place) :
    (nodes.filter (keep ·.1)).lookup q = if keep q then nodes.lookup q else none := by
  induction nodes with
  | nil => simp
  | cons e nodes ih =>
    obtain ⟨r, n⟩ := e
    by_cases hq : q = r
    · subst hq
      by_cases hkeep : keep q = true
      · rw [List.filter_cons_of_pos (by simpa using hkeep), if_pos hkeep, List.lookup_cons_self,
          List.lookup_cons_self]
      · rw [List.filter_cons_of_neg (by simpa using hkeep), ih, if_neg hkeep, if_neg hkeep]
    · have hskip : ((r, n) :: nodes).lookup q = nodes.lookup q := by
        rw [List.lookup_cons, beq_false_of_ne hq]
      rw [hskip, ← ih]
      by_cases hkeep : keep r = true
      · rw [List.filter_cons_of_pos (by simpa using hkeep), List.lookup_cons, beq_false_of_ne hq]
      · rw [List.filter_cons_of_neg (by simpa using hkeep)]

theorem node?_put (hp : p ≠ []) (q : Place) :
    (fs.put p n).node? q = if q = p then some n else fs.node? q := by
  unfold node? put
  by_cases hroot : q = []
  · simp [hroot, hp.symm]
  · by_cases hq : q = p
    · simp [hq, hp]
    · have hne : (q == p) = false := by simpa using hq
      simp [hroot, hq, List.lookup_cons, hne, lookup_filter_place (· != p)]

theorem ne_root_of_not_directory (h : fs.node? p ≠ some .directory) : p ≠ [] := by
  rintro rfl
  exact h (node?_root fs)

/-! ## Places -/

/-- The place that a path stands for, whether there is anything on the way or not. -/
def destination (fs : FileStore) (path : String) : Place :=
  (Path.entries path).foldl enter (fs.start path)

theorem destination_eq_of_here (h : fs'.here = fs.here) (path : String) :
    fs'.destination path = fs.destination path := by
  simp [destination, start, h]

theorem eq_foldl_of_follow {names : List String} (h : fs.follow p names = .ok q) :
    q = names.foldl enter p := by
  fun_induction follow fs p names with
  | case1 p => exact (Except.ok.inj h).symm
  | case2 => simp at h
  | case3 => simp at h
  | case4 p name names _ _ ih => exact ih h
  | case5 => simp at h

theorem eq_destination_of_locate? (h : fs.locate? path = some p) : p = fs.destination path := by
  unfold locate? at h
  split at h
  · simp at h
  · cases hfollow : fs.follow (fs.start path) (Path.names path) with
    | error o => simp [hfollow, Except.toOption] at h
    | ok q =>
      have hq : q = p := by simpa [hfollow, Except.toOption] using h
      rw [← hq, eq_foldl_of_follow hfollow, destination]
      -- The dot that a slash at the end stands for leads nowhere else.
      unfold Path.names
      split
      · simp [enter]
      · rfl

/-- Directories are still there. -/
def KeepsDirectories (fs fs' : FileStore) : Prop :=
  ∀ p, fs.node? p = some .directory → fs'.node? p = some .directory

theorem KeepsDirectories.trans {fs'' : FileStore} (h : fs.KeepsDirectories fs')
    (h' : fs'.KeepsDirectories fs'') : fs.KeepsDirectories fs'' :=
  fun p hp => h' p (h p hp)

theorem KeepsDirectories.put (h : fs.node? p ≠ some .directory) (n : Node) :
    fs.KeepsDirectories (fs.put p n) := by
  intro q hq
  rw [node?_put (ne_root_of_not_directory h), if_neg]
  · exact hq
  · rintro rfl
    exact h hq

theorem KeepsDirectories.follow (h : fs.KeepsDirectories fs') {names : List String}
    (hfollow : fs.follow p names = .ok q) : fs'.follow p names = .ok q := by
  fun_induction FileStore.follow fs p names with
  | case1 p => exact hfollow
  | case2 => simp at hfollow
  | case3 => simp at hfollow
  | case4 p name names hdir hlimit ih =>
    rw [FileStore.follow, h p hdir]
    simp only [hlimit, if_true]
    exact ih hfollow
  | case5 => simp at hfollow

theorem KeepsDirectories.locate? (h : fs.KeepsDirectories fs') (hhere : fs'.here = fs.here)
    (hlocate : fs.locate? path = some p) : fs'.locate? path = some p := by
  unfold FileStore.locate? at hlocate ⊢
  split at hlocate
  · simp at hlocate
  · rename_i hpath
    rw [if_neg hpath]
    cases hfollow : fs.follow (fs.start path) (Path.names path) with
    | error o => simp [hfollow, Except.toOption] at hlocate
    | ok q =>
      have hstart : fs'.start path = fs.start path := by simp [start, hhere]
      rw [hstart, h.follow hfollow]
      simpa [hfollow, Except.toOption] using hlocate

/-! ## Steps -/

/-- Directories are made one by one at places where nothing is. -/
inductive Grows : FileStore → FileStore → Prop where
  | refl (fs : FileStore) : Grows fs fs
  | directory {fs fs' : FileStore} {p : Place} :
      Grows fs fs' → fs'.node? p = none → Grows fs (fs'.put p .directory)

namespace Grows

theorem trans {fs'' : FileStore} (h : fs.Grows fs') (h' : fs'.Grows fs'') : fs.Grows fs'' := by
  induction h' with
  | refl => exact h
  | directory _ hfree ih => exact .directory ih hfree

theorem here (h : fs.Grows fs') : fs'.here = fs.here := by
  induction h with
  | refl => rfl
  | directory _ _ ih => exact ih

theorem node? (h : fs.Grows fs') (p : Place) :
    fs'.node? p = fs.node? p ∨ fs.node? p = none ∧ fs'.node? p = some .directory := by
  induction h with
  | refl => exact .inl rfl
  | @directory fs' q _ hfree ih =>
    have hroot : q ≠ [] := by
      rintro rfl
      simp [node?_root] at hfree
    rw [node?_put hroot]
    by_cases hp : p = q
    · subst hp
      rw [if_pos rfl]
      rcases ih with heq | ⟨_, hdir⟩
      · exact .inr ⟨heq.symm.trans hfree, rfl⟩
      · simp [hfree] at hdir
    · rw [if_neg hp]
      exact ih

theorem keepsDirectories (h : fs.Grows fs') : fs.KeepsDirectories fs' := by
  intro p hp
  rcases h.node? p with heq | ⟨hnone, _⟩
  · exact heq.trans hp
  · simp [hnone] at hp

end Grows

theorem grows_of_makeDirectory (h : fs.makeDirectory path = .ok fs') : fs.Grows fs' := by
  unfold makeDirectory at h
  split at h
  · split at h
    · simp at h
    · rename_i p _
      split at h
      · rename_i hfree
        cases h
        exact .directory (.refl fs) (by simpa using hfree)
      · simp at h
  · simp at h

theorem grows_makeDirectories (fs : FileStore) (path : String) :
    fs.Grows (fs.makeDirectories path).1 := by
  fun_induction makeDirectories fs path with
  | case1 => exact .refl _
  | case2 path _ made hmade => exact grows_of_makeDirectory hmade
  | case3 => exact .refl _
  | case4 => exact .refl _
  | case5 path _ _ up hup hless above made hmade hmake ih =>
    rw [hmake] at ih
    exact ih.trans (grows_of_makeDirectory hmade)
  | case6 path _ _ up hup hless above o hfail hmake ih =>
    rw [hmake] at ih
    exact ih
  | case7 path _ _ up hup hless above ok hmake hok ih =>
    rw [hmake] at ih
    exact ih

theorem put_of_write {text : Option String} (h : fs.write path text = (fs', true)) :
    ∃ p, fs.locate? path = some p ∧ fs.node? p ≠ some .directory ∧ fs' = fs.put p (.file text) := by
  unfold write at h
  split at h
  · simp at h
  · rename_i p hlocate
    split at h
    · simp at h
    · rename_i hdir
      refine ⟨p, hlocate, ?_, (Prod.ext_iff.mp h).1.symm⟩
      simpa [isDirectory] using hdir

/-- A file is put in its place below a directory, after the directories on the way were made. -/
inductive Placed (output : String) (f : OutputFile) : FileStore → FileStore → Prop where
  | intro {fs above : FileStore} {p : Place} : fs.Grows above →
      above.locate? (Path.join output f.path) = some p → above.node? p ≠ some .directory →
      Placed output f fs (above.put p (.file (some f.content)))

/-- Files are put in their places one after the other. -/
inductive Written (output : String) : List OutputFile → FileStore → FileStore → Prop where
  | nil (fs : FileStore) : Written output [] fs fs
  | cons {f : OutputFile} {files : List OutputFile} {fs fs' fs'' : FileStore} :
      Placed output f fs fs' → Written output files fs' fs'' → Written output (f :: files) fs fs''

end FileStore

open FileStore

/-! ## Runs on any machine -/

theorem bind_run {σ α β : Type} (x : StateM σ α) (f : α → StateM σ β) (s : σ) :
    (x >>= f) s = f (x s).1 (x s).2 := rfl

/-- The action changes nothing of what is seen of the machine. -/
def Keeps {σ α β : Type} (see : σ → β) (x : StateM σ α) : Prop :=
  ∀ s, see (x s).2 = see s

namespace Keeps

variable {σ α β γ : Type} {see : σ → β}

theorem pure (a : α) : Keeps see (Pure.pure a : StateM σ α) := fun _ => rfl

theorem bind {x : StateM σ α} {f : α → StateM σ γ} (hx : Keeps see x)
    (hf : ∀ a, Keeps see (f a)) : Keeps see (x >>= f) :=
  fun s => (hf (x s).1 (x s).2).trans (hx s)

end Keeps

namespace Host

variable {σ β : Type} {host : Host (StateM σ)} {see : σ → β}

/-- Looking at files and noting things change nothing of what is seen of the machine. -/
structure LooksOnly (host : Host (StateM σ)) (see : σ → β) : Prop where
  kind? : ∀ path, Keeps see (host.kind? path)
  readText? : ∀ path, Keeps see (host.readText? path)
  note : ∀ n, Keeps see (host.note n)

theorem LooksOnly.noteAll (h : host.LooksOnly see) (notes : List Note) :
    Keeps see (ExecUml.noteAll host notes) := by
  induction notes with
  | nil => exact .pure _
  | cons n notes ih => exact (h.note n).bind fun _ => ih

theorem LooksOnly.loadFile (h : host.LooksOnly see) (path : String) :
    Keeps see (ExecUml.loadFile host path) := by
  refine (h.kind? path).bind fun kind => ?_
  split
  · exact .pure _
  · exact .pure _
  · split
    -- The warning about the extension comes first; the reading is the same without it.
    refine (h.note _).bind fun _ => ?_
    all_goals
      refine (h.readText? path).bind fun text? => ?_
      split
      · exact .pure _
      · split
        · exact .pure _
        · exact (h.note _).bind fun _ => .pure _

/-- A file is written after its directory was made. -/
def Writes (host : Host (StateM σ)) (output : String) (f : OutputFile) (s s' : σ) : Prop :=
  ∃ ready, host.makeDirectories (Path.parent (Path.join output f.path)) s = (true, ready) ∧
    host.writeFile (Path.join output f.path) f.content ready = (true, s')

/-- In the way of a file: its directory cannot be made, or the directory can but not the file. The
path is the one that cannot be made. -/
inductive Refuses (host : Host (StateM σ)) (output : String) (f : OutputFile) (s : σ) :
    PathKind → String → σ → Prop where
  | directory {s' : σ} :
      host.makeDirectories (Path.parent (Path.join output f.path)) s = (false, s') →
      Refuses host output f s .directory (Path.parent (Path.join output f.path)) s'
  | file {ready s' : σ} :
      host.makeDirectories (Path.parent (Path.join output f.path)) s = (true, ready) →
      host.writeFile (Path.join output f.path) f.content ready = (false, s') →
      Refuses host output f s .file (Path.join output f.path) s'

/-- Writing stops where the output directory cannot be made, or behind the files that were written,
where the next one is refused. -/
inductive Stops (host : Host (StateM σ)) (output : String) (s : σ) :
    List OutputFile → List OutputFile → PathKind → String → σ → Prop where
  | output {files : List OutputFile} {s' : σ} : host.makeDirectories output s = (false, s') →
      Stops host output s [] files .directory output s'
  | next {done rest : List OutputFile} {f : OutputFile} {reached s' : σ} {kind : PathKind}
      {path : String} : writeOutput host output done s = (none, reached) →
      host.Refuses output f reached kind path s' →
      Stops host output s done (f :: rest) kind path s'

end Host

section Machines

variable {σ β : Type} {host : Host (StateM σ)} {see : σ → β} {output path : String}
  {f : OutputFile} {files : List OutputFile} {s s' next : σ}

theorem writeFiles_cons_of_writes (h : host.Writes output f s next) (files : List OutputFile) :
    writeFiles host output (f :: files) s = writeFiles host output files next := by
  obtain ⟨ready, hmade, hwritten⟩ := h
  rw [writeFiles, bind_run, hmade]
  simp only [if_true]
  rw [bind_run, hwritten]
  rfl

/-- Writing goes on behind the first file, or stops there. -/
theorem writeFiles_cons_cases {answer : Option String}
    (h : writeFiles host output (f :: files) s = (answer, s')) :
    (∃ next, host.Writes output f s next ∧ writeFiles host output files next = (answer, s')) ∨
    ∃ kind path, answer = some path ∧ host.Refuses output f s kind path s' := by
  rw [writeFiles, bind_run] at h
  rcases hmade : host.makeDirectories (Path.parent (Path.join output f.path)) s with ⟨made, ready⟩
  rw [hmade] at h
  cases made with
  | false =>
    cases h
    exact .inr ⟨_, _, rfl, .directory hmade⟩
  | true =>
    simp only [if_true] at h
    rw [bind_run] at h
    rcases hwritten : host.writeFile (Path.join output f.path) f.content ready with ⟨written, next⟩
    rw [hwritten] at h
    cases written with
    | false =>
      cases h
      exact .inr ⟨_, _, rfl, .file hmade hwritten⟩
    | true => exact .inl ⟨next, ⟨ready, hmade, hwritten⟩, h⟩

/-- Writing that fails has written some files and is refused the next one. -/
theorem refused_of_writeFiles (h : writeFiles host output files s = (some path, s')) :
    ∃ done f rest reached kind, files = done ++ f :: rest ∧
      writeFiles host output done s = (none, reached) ∧
      host.Refuses output f reached kind path s' := by
  induction files generalizing s with
  | nil => cases h
  | cons f files ih =>
    rcases writeFiles_cons_cases h with ⟨next, hwrites, hrest⟩ | ⟨kind, path', hpath, hrefuses⟩
    · obtain ⟨done, g, rest, reached, kind, rfl, hdone, hrefuses⟩ := ih hrest
      rw [← writeFiles_cons_of_writes hwrites done] at hdone
      exact ⟨f :: done, g, rest, reached, kind, rfl, hdone, hrefuses⟩
    · cases hpath
      exact ⟨[], f, files, s, kind, rfl, rfl, hrefuses⟩

theorem writeOutput_of_made (h : host.makeDirectories output s = (true, next))
    (files : List OutputFile) :
    writeOutput host output files s = writeFiles host output files next := by
  rw [writeOutput, bind_run, h]
  rfl

/-- Writing begins in the output directory, unless that cannot be made. -/
theorem writeOutput_cases {answer : Option String}
    (h : writeOutput host output files s = (answer, s')) :
    (∃ next, host.makeDirectories output s = (true, next) ∧
      writeFiles host output files next = (answer, s')) ∨
    host.makeDirectories output s = (false, s') ∧ answer = some output := by
  rw [writeOutput, bind_run] at h
  rcases hmade : host.makeDirectories output s with ⟨made, next⟩
  rw [hmade] at h
  cases made with
  | false =>
    cases h
    exact .inr ⟨rfl, rfl⟩
  | true => exact .inl ⟨next, rfl, h⟩

theorem stops_of_writeOutput (h : writeOutput host output files s = (some path, s')) :
    ∃ done rest kind, files = done ++ rest ∧ host.Stops output s done rest kind path s' := by
  rcases writeOutput_cases h with ⟨next, hmade, hwrite⟩ | ⟨hfails, hpath⟩
  · obtain ⟨done, f, rest, reached, kind, hfiles, hdone, hrefuses⟩ := refused_of_writeFiles hwrite
    rw [← writeOutput_of_made hmade] at hdone
    exact ⟨done, f :: rest, kind, hfiles, .next hdone hrefuses⟩
  · cases hpath
    exact ⟨[], files, .directory, rfl, .output hfails⟩

variable {job : Job}

/-- A compilation fails with the error of loading, or writes the files of the model that was
loaded. -/
theorem compile_cases {answer : Except CompileError Report} (looks : host.LooksOnly see)
    (h : compile host job s = (answer, s')) :
    (∃ e, (loadFile host job.input s).1 = .error e ∧ answer = .error e ∧ see s' = see s) ∨
    ∃ m started result after, (loadFile host job.input s).1 = .ok m ∧ see started = see s ∧
      writeOutput host job.output (m.files job.mode) started = (result, after) ∧
      (∀ path, result = some path → answer = .error (.ioFailed path) ∧ s' = after) ∧
      (result = none → answer = .ok (m.report job.mode) ∧ see s' = see after) := by
  have hload := looks.loadFile job.input s
  rw [compile, bind_run] at h
  rcases hanswer : loadFile host job.input s with ⟨loaded, s₁⟩
  rw [hanswer] at h hload
  cases loaded with
  | error e =>
    cases h
    exact .inl ⟨e, rfl, rfl, hload⟩
  | ok m =>
    simp only [bind_run] at h
    generalize hstarted : (noteAll host (m.generationNotes job.mode)
      (noteAll host (m.findings.map .found) s₁).2).2 = started at h
    have hsame : see started = see s := by
      rw [← hstarted, looks.noteAll, looks.noteAll, ← hload]
    rcases hwrite : writeOutput host job.output (m.files job.mode) started with ⟨result, after⟩
    rw [hwrite] at h
    refine .inr ⟨m, started, result, after, rfl, hsame, hwrite, ?_, ?_⟩
    · rintro path rfl
      cases h
      exact ⟨rfl, rfl⟩
    · rintro rfl
      cases h
      exact ⟨rfl, looks.note _ _⟩

/-- A failing compilation could not load a model, or could not write the files of the one it
loaded. -/
theorem compile_error {e : CompileError} (looks : host.LooksOnly see)
    (h : compile host job s = (.error e, s')) :
    ((loadFile host job.input s).1 = .error e ∧ see s' = see s) ∨
    ∃ m started done rest kind path, (loadFile host job.input s).1 = .ok m ∧
      see started = see s ∧ m.files job.mode = done ++ rest ∧ e = .ioFailed path ∧
      host.Stops job.output started done rest kind path s' := by
  rcases compile_cases looks h with
    ⟨e', hload, hanswer, hsame⟩ | ⟨m, started, result, after, hload, hsame, hwrite, hfailed, hdone⟩
  · cases hanswer
    exact .inl ⟨hload, hsame⟩
  · cases result with
    | none => cases (hdone rfl).1
    | some path =>
      obtain ⟨herror, rfl⟩ := hfailed path rfl
      obtain ⟨done, rest, kind, hfiles, hstops⟩ := stops_of_writeOutput hwrite
      exact .inr ⟨m, started, done, rest, kind, path, hload, hsame, hfiles, Except.error.inj herror,
        hstops⟩

/-- Only a failure with files can come after something was changed. -/
theorem unchanged_of_compile_error {e : CompileError} (looks : host.LooksOnly see)
    (h : compile host job s = (.error e, s')) (hkind : e.kind ≠ .io) :
    (loadFile host job.input s).1 = .error e ∧ see s' = see s := by
  rcases compile_error looks h with hload | ⟨_, _, _, _, _, _, _, _, _, rfl, _⟩
  · exact hload
  · exact absurd rfl hkind

end Machines

/-! ## Runs in memory -/

theorem World.looksOnly : World.host.LooksOnly World.store :=
  ⟨fun _ _ => rfl, fun _ _ => rfl, fun _ _ => rfl⟩

section Runs

variable {w w' : World} {job : Job} {report : Report}

theorem host_makeDirectories (path : String) (w : World) : World.host.makeDirectories path w =
    ((w.store.makeDirectories path).2, { w with store := (w.store.makeDirectories path).1 }) := rfl

theorem host_writeFile (path text : String) (w : World) : World.host.writeFile path text w =
    ((w.store.write path (some text)).2,
      { w with store := (w.store.write path (some text)).1 }) := rfl

theorem grows_of_host {path : String} {made : Bool} {v : World}
    (h : World.host.makeDirectories path w = (made, v)) : w.store.Grows v.store := by
  rw [host_makeDirectories] at h
  cases h
  exact grows_makeDirectories w.store path

theorem placed_of_writes {output : String} {f : OutputFile} {v : World}
    (h : World.host.Writes output f w v) : Placed output f w.store v.store := by
  obtain ⟨ready, hmade, hwritten⟩ := h
  rw [host_writeFile] at hwritten
  obtain ⟨hdone, rfl⟩ := Prod.mk.inj hwritten
  obtain ⟨p, hlocate, hfree, hput⟩ := put_of_write (Prod.ext rfl hdone)
  simp only [hput]
  exact .intro (grows_of_host hmade) hlocate hfree

theorem written_of_writeFiles {output : String} {files : List OutputFile}
    (h : writeFiles World.host output files w = (none, w')) :
    Written output files w.store w'.store := by
  induction files generalizing w with
  | nil =>
    cases h
    exact .nil _
  | cons f files ih =>
    rcases writeFiles_cons_cases h with ⟨next, hwrites, hrest⟩ | ⟨_, _, hpath, _⟩
    · exact .cons (placed_of_writes hwrites) (ih hrest)
    · cases hpath

theorem grows_of_writeOutput {output : String} {files : List OutputFile}
    (h : writeOutput World.host output files w = (none, w')) :
    ∃ made, w.store.Grows made ∧ Written output files made w'.store := by
  rcases writeOutput_cases h with ⟨next, hmade, hrest⟩ | ⟨_, hanswer⟩
  · exact ⟨next.store, grows_of_host hmade, written_of_writeFiles hrest⟩
  · cases hanswer

/-- The answer of loading is a function of what is at the path. -/
def loadNode (path : String) : Option Node → Except CompileError Model
  | none => .error (.inputNotFound path)
  | some .directory => .error (.inputNotAFile path)
  | some (.file none) => .error (.ioFailed path)
  | some (.file (some text)) => Model.load text

theorem loadFile_run (path : String) (w : World) :
    (loadFile World.host path w).1 = loadNode path (w.store.at? path) := by
  have hkind : World.host.kind? path w = ((w.store.at? path).map World.kindOf, w) := rfl
  have hread : ∀ w, World.host.readText? path w = ((w.store.at? path).bind World.textOf, w) :=
    fun _ => rfl
  have hnote : ∀ n w, (World.host.note n w).2.store = w.store := World.looksOnly.note
  rw [loadFile, bind_run, hkind]
  cases hnode : w.store.at? path with
  | none => rfl
  | some node =>
    cases node with
    | directory => rfl
    | file text =>
      simp only [Option.map_some, World.kindOf]
      split
      all_goals
        simp only [bind_run, hread, hnote, hnode, Option.bind_some, World.textOf]
        cases text with
        | none => rfl
        | some text =>
          simp only [loadNode]
          cases Model.load text with
          | error e => rfl
          | ok m => rfl

theorem loadNode_ok {path : String} {node : Option Node} {m : Model}
    (h : loadNode path node = .ok m) :
    ∃ text, node = some (.file (some text)) ∧ Model.load text = .ok m := by
  unfold loadNode at h
  split at h
  · cases h
  · cases h
  · cases h
  · exact ⟨_, rfl, h⟩

/-- Whether writing works depends on the store only. -/
theorem writeFiles_answer (output : String) (files : List OutputFile) {v : World}
    (h : w.store = v.store) :
    (writeFiles World.host output files w).1 = (writeFiles World.host output files v).1 := by
  induction files generalizing w v with
  | nil => rfl
  | cons f files ih =>
    rw [writeFiles, bind_run, bind_run, host_makeDirectories, host_makeDirectories, h]
    simp only
    split
    · rw [bind_run, bind_run, host_writeFile, host_writeFile]
      simp only
      split
      · exact ih rfl
      · rfl
    · rfl

theorem writeOutput_answer (output : String) (files : List OutputFile) {v : World}
    (h : w.store = v.store) :
    (writeOutput World.host output files w).1 = (writeOutput World.host output files v).1 := by
  rw [writeOutput, bind_run, bind_run, host_makeDirectories, host_makeDirectories, h]
  simp only
  split
  · exact writeFiles_answer output files rfl
  · rfl

/-- A compilation succeeds if a model can be loaded and its files can be written. -/
theorem compile_answer {m : Model} (hload : loadNode job.input (w.store.at? job.input) = .ok m)
    (hwrite : (writeOutput World.host job.output (m.files job.mode) w).1 = none) :
    (compile World.host job w).1 = .ok (m.report job.mode) := by
  rcases hrun : compile World.host job w with ⟨answer, w'⟩
  rcases compile_cases World.looksOnly hrun with
    ⟨e, herror, _, _⟩ | ⟨m', started, result, after, hok, hstarted, hresult, _, hdone⟩
  · rw [loadFile_run, hload] at herror
    cases herror
  · rw [loadFile_run, hload] at hok
    cases hok
    have hnone := writeOutput_answer job.output (m.files job.mode) hstarted
    rw [hwrite, hresult] at hnone
    exact (hdone hnone).1

/-- What a successful compilation has done: it read a model, made the output directory and put the
files of the model below it. -/
theorem compile_ok (h : compile World.host job w = (.ok report, w')) :
    ∃ text m made, w.store.at? job.input = some (.file (some text)) ∧ Model.load text = .ok m ∧
      report = m.report job.mode ∧ w.store.Grows made ∧
      Written job.output (m.files job.mode) made w'.store := by
  rcases compile_cases World.looksOnly h with
    ⟨e, _, hanswer, _⟩ | ⟨m, started, result, after, hload, hstarted, hresult, hfailed, hdone⟩
  · cases hanswer
  · rw [loadFile_run] at hload
    obtain ⟨text, hinput, htext⟩ := loadNode_ok hload
    cases result with
    | some path => cases (hfailed path rfl).1
    | none =>
      obtain ⟨made, hgrows, hwritten⟩ := grows_of_writeOutput hresult
      obtain ⟨hreport, hafter⟩ := hdone rfl
      rw [hstarted] at hgrows
      rw [← hafter] at hwritten
      exact ⟨text, m, made, hinput, htext, Except.ok.inj hreport, hgrows, hwritten⟩

end Runs

end ExecUml
