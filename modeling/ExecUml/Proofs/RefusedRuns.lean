import ExecUml.CommandLine.Run
import ExecUml.Proofs.FirstDefects
import ExecUml.Proofs.StoreWrites

/-!
# What a refused run leaves behind

A run that is refused before it compiles, or that finds no model in its input, has changed nothing,
with one exception: emptying the output directory may take the input away, or a directory that the
path of the input leads through. Such a run is refused as well, for an input that was there when it
began.
-/

set_option autoImplicit false

namespace ExecUml

namespace FileStore

variable {fs : FileStore} {out p q : Place} {path : String}

/-! ## Emptied directories -/

/-- Whether a place lies below another one. -/
def isBelow (p q : Place) : Bool := p.isPrefixOf q && p.length < q.length

/-- The places that a path leads through, its start and its end included. -/
def trail (fs : FileStore) (path : String) : List Place :=
  (Path.names path).scanl enter (fs.start path)

theorem node?_clear (fs : FileStore) (out q : Place) :
    (fs.clear out).node? q = if isBelow out q then none else fs.node? q := by
  by_cases hroot : q = []
  · subst hroot
    simp [node?, isBelow]
  · have hnodes : (fs.clear out).nodes = fs.nodes.filter fun e => !isBelow out e.1 := rfl
    cases hbelow : isBelow out q with
    | true => simp [node?, hroot, hnodes, lookup_filter_place (!isBelow out ·), hbelow]
    | false => simp [node?, hroot, hnodes, lookup_filter_place (!isBelow out ·), hbelow]

/-- Following names through a store of which a directory was emptied: whatever lies on the way has
to have been spared. -/
theorem follow_clear {names : List String} (h : fs.follow p names = .ok q) (out : Place) :
    ((fs.clear out).follow p names).toOption.bind (fs.clear out).node? =
      if (names.scanl enter p).any (isBelow out) then none else fs.node? q := by
  fun_induction follow fs p names with
  | case1 p =>
    cases h
    simp [follow, Except.toOption, node?_clear]
  | case2 => simp at h
  | case3 => simp at h
  | case4 p name names hdir hlimit ih =>
    rw [follow, node?_clear, List.scanl_cons, List.any_cons]
    by_cases hbelow : isBelow out p = true
    · simp [hbelow, Except.toOption]
    · simp only [hbelow, hdir, hlimit, if_true, Bool.false_or]
      exact ih h
  | case5 => simp at h

theorem at?_clear (h : fs.locate? path = some q) (out : Place) :
    (fs.clear out).at? path = if (fs.trail path).any (isBelow out) then none else fs.at? path := by
  have hat : fs.at? path = fs.node? q := by rw [at?, h, Option.bind_some]
  rw [hat, at?]
  unfold locate? at h ⊢
  split at h
  · simp at h
  · rename_i hpath
    rw [if_neg hpath]
    exact follow_clear (ok_of_toOption h) out

end FileStore

open FileStore

/-! ## Errors of a document -/

section Errors

variable {e : CompileError}

theorem kind_of_defect? {m : Model} (h : m.defect? = some e) : e.kind = .validation := by
  cases Model.defect?_eq_some_iff.mp h with
  | systemName _ => rfl
  | version _ _ => rfl
  | domains _ _ _ => rfl
  | domain _ _ _ _ hlacks => cases hlacks <;> rfl

theorem kind_of_parse {text : String} (h : Model.parse text = .error e) : e.kind = .validation := by
  unfold Model.parse at h
  split at h
  · cases h; rfl
  · split at h
    · cases h; rfl
    · cases h; rfl
    · cases h

/-- A text that cannot be loaded is no model; it is never a matter of files. -/
theorem kind_of_load {text : String} (h : Model.load text = .error e) : e.kind = .validation := by
  unfold Model.load at h
  cases hparse : Model.parse text with
  | error e' =>
    rw [hparse] at h
    cases h
    exact kind_of_parse hparse
  | ok m =>
    rw [hparse] at h
    dsimp only [bind, Except.bind] at h
    split at h
    · cases h
    · rename_i hdefect
      cases h
      exact kind_of_defect? hdefect

end Errors


namespace CommandLine

variable {o : Options} {w w' : World} {elapsed : StateM World String}

/-! ## Steps of a run -/

theorem sayAll_store (lines : List String) (w : World) :
    (sayAll World.host lines w).2.store = w.store := by
  induction lines generalizing w with
  | nil => rfl
  | cons line lines ih => exact ih _

/-- What the check of the input answers, by what is at its path. -/
def inputError? (path : String) : Option Node → Option RunError
  | none => some (.inputMissing path)
  | some .directory => some (.inputNotAFile path)
  | some (.file _) => none

theorem checkInput_run (path : String) (w : World) :
    checkInput World.host path w = (inputError? path (w.store.at? path), w) := by
  have hkind : World.host.kind? path w = ((w.store.at? path).map World.kindOf, w) := rfl
  rw [checkInput, bind_run, hkind]
  rcases w.store.at? path with _ | _ | text
  · rfl
  · rfl
  · rfl

theorem file_of_inputError? {path : String} {node : Option Node}
    (h : inputError? path node = none) :
    ∃ text, node = some (.file text) := by
  unfold inputError? at h
  split at h
  · cases h
  · cases h
  · exact ⟨_, rfl⟩

/-- The output directory is emptied if that is asked for and it is there. Otherwise preparing it
changes nothing, whatever it answers. -/
theorem prepareOutput_run {answer : Option RunError}
    (h : prepareOutput World.host o w = (answer, w')) :
    (w'.store = w.store ∧ (o.clean = true → w.store.at? o.output ≠ some .directory)) ∨
    ∃ out, o.clean = true ∧ w.store.locate? o.output = some out ∧
      w.store.at? o.output = some .directory ∧ answer = none ∧ w'.store = w.store.clear out := by
  have hkind : World.host.kind? o.output w = ((w.store.at? o.output).map World.kindOf, w) := rfl
  have hempty : World.host.isEmpty? o.output w = (World.isEmptyAt? w.store o.output, w) := rfl
  rw [prepareOutput, bind_run, hkind] at h
  cases hnode : w.store.at? o.output with
  | none =>
    rw [hnode] at h
    cases h
    exact .inl ⟨rfl, fun _ => by simp⟩
  | some node =>
    cases node with
    | file text =>
      rw [hnode] at h
      cases h
      exact .inl ⟨rfl, fun _ => by simp⟩
    | directory =>
      rw [hnode] at h
      simp only [Option.map_some, World.kindOf] at h
      split at h
      · rename_i hclean
        obtain ⟨out, hlocate, _⟩ := Option.bind_eq_some_iff.mp hnode
        have hclear :
            World.host.clear o.output w = (true, { w with store := w.store.clear out }) := by
          have hat : World.clearAt w.store o.output = (w.store.clear out, true) := by
            rw [World.clearAt, hlocate]
          change World.onStore (World.clearAt · o.output) w = _
          rw [World.onStore, hat]
        rw [bind_run, hclear] at h
        cases h
        exact .inr ⟨out, hclean, hlocate, rfl, rfl, rfl⟩
      · rename_i hclean
        have hstore : w'.store = w.store := by
          rw [bind_run, hempty] at h
          cases hanswer : World.isEmptyAt? w.store o.output with
          | none =>
            rw [hanswer] at h
            cases h
            rfl
          | some empty =>
            rw [hanswer] at h
            simp only at h
            split at h
            · cases h
              rfl
            · cases h
              rfl
        exact .inl ⟨hstore, fun hyes => absurd hyes hclean⟩

/-- A run is refused by a check of its paths, or it compiles a file that was there when it began, in
the store that preparing the output left. -/
theorem runOptions_run {answer : Option RunError}
    (h : runOptions World.host elapsed o w = (answer, w')) :
    (w'.store = w.store ∧ ((∃ text, w.store.at? o.input = some (.file text)) → o.clean = true →
      w.store.at? o.output ≠ some .directory)) ∨
    ∃ v v' v'' text result, w.store.at? o.input = some (.file text) ∧ v.store = w.store ∧
      prepareOutput World.host o v = (none, v') ∧ compile World.host o.job v' = (result, v'') ∧
      (∀ e, result = .error e → answer = some (.compile e) ∧ w' = v'') ∧
      (∀ report, result = .ok report → answer = none) := by
  rw [runOptions, bind_run, bind_run, checkInput_run] at h
  generalize hsaid : (sayAll World.host openingLines w).2 = v at h
  have hv : v.store = w.store := by rw [← hsaid, sayAll_store]
  cases hinput : inputError? o.input (v.store.at? o.input) with
  | some e =>
    rw [hinput] at h
    cases h
    refine .inl ⟨hv, ?_⟩
    rintro ⟨text, hfile⟩
    rw [hv, hfile] at hinput
    cases hinput
  | none =>
    obtain ⟨text, hfile⟩ := file_of_inputError? hinput
    rw [hv] at hfile
    rw [hinput] at h
    simp only [bind_run] at h
    rcases hprepare : prepareOutput World.host o v with ⟨refusal, v'⟩
    rw [hprepare] at h
    cases refusal with
    | some e =>
      cases h
      rcases prepareOutput_run hprepare with ⟨hsame, hclean⟩ | ⟨_, _, _, _, hnone, _⟩
      · rw [hv] at hsame hclean
        exact .inl ⟨hsame, fun _ => hclean⟩
      · cases hnone
    | none =>
      simp only [bind_run] at h
      rcases hcompile : compile World.host o.job v' with ⟨result, v''⟩
      rw [hcompile] at h
      refine .inr ⟨v, v', v'', text, result, hfile, hv, hprepare, hcompile, ?_, ?_⟩
      · rintro e rfl
        cases h
        exact ⟨rfl, rfl⟩
      · rintro report rfl
        cases h
        rfl

theorem run_ending {ending : Ending} (h : run World.host elapsed (.run o) w = (ending, w')) :
    ∃ answer, runOptions World.host elapsed o w = (answer, w') ∧
      ending.exitCode = (answer.map RunError.exitCode).getD 0 := by
  rw [run, bind_run] at h
  rcases hanswer : runOptions World.host elapsed o w with ⟨answer, v⟩
  rw [hanswer] at h
  cases answer with
  | none =>
    cases h
    exact ⟨none, rfl, rfl⟩
  | some e =>
    cases h
    exact ⟨some e, rfl, rfl⟩

/-! ## Refused runs -/

/-- Emptying the output directory takes the input away, or something that the path of the input
leads through. -/
structure CutsOffInput (fs : FileStore) (o : Options) : Prop where
  clean : o.clean = true
  input : ∃ text, fs.at? o.input = some (.file text)
  output : fs.at? o.output = some .directory
  below : ∃ out, fs.locate? o.output = some out ∧ (fs.trail o.input).any (isBelow out) = true

/-- A run that asks for the output to be emptied loses its input exactly if it cuts it off. -/
theorem at?_input_clear {out : Place} {text : Option String}
    (hinput : w.store.at? o.input = some (.file text)) (hclean : o.clean = true)
    (houtput : w.store.at? o.output = some .directory)
    (hout : w.store.locate? o.output = some out) :
    (CutsOffInput w.store o ∧ (w.store.clear out).at? o.input = none) ∨
    (¬ CutsOffInput w.store o ∧ (w.store.clear out).at? o.input = some (.file text)) := by
  obtain ⟨q, hlocate, _⟩ := Option.bind_eq_some_iff.mp hinput
  rw [at?_clear hlocate out]
  by_cases hbelow : (w.store.trail o.input).any (isBelow out) = true
  · exact .inl ⟨⟨hclean, ⟨text, hinput⟩, houtput, out, hout, hbelow⟩, by rw [if_pos hbelow]⟩
  · refine .inr ⟨?_, by rw [if_neg hbelow, hinput]⟩
    rintro ⟨_, _, _, out', hout', hbelow'⟩
    cases hout.symm.trans hout'
    exact hbelow hbelow'

/-- The exit code of a failed compilation tells why it failed. -/
theorem exitCode_compile (e : CompileError) :
    (RunError.compile e).exitCode = 1 ∧ e.kind = .precondition ∨
    (RunError.compile e).exitCode = 2 ∧ e.kind = .validation ∨
    (RunError.compile e).exitCode = 3 ∧ e.kind = .io := by
  rw [RunError.exitCode]
  cases e.kind with
  | precondition => exact .inl ⟨rfl, rfl⟩
  | validation => exact .inr (.inl ⟨rfl, rfl⟩)
  | io => exact .inr (.inr ⟨rfl, rfl⟩)

/-- A compilation without input fails and changes nothing. -/
theorem compile_of_missing {job : Job} {result : Except CompileError Report}
    (hmissing : w.store.at? job.input = none) (h : compile World.host job w = (result, w')) :
    result = .error (.inputNotFound job.input) ∧ w'.store = w.store := by
  cases result with
  | ok report =>
    obtain ⟨text, _, _, hinput, _⟩ := compile_ok h
    simp [hmissing] at hinput
  | error e =>
    rcases compile_error World.looksOnly h with ⟨hload, hsame⟩ | ⟨m, _, _, _, _, _, hload, _⟩
    · rw [loadFile_run, hmissing] at hload
      cases hload
      exact ⟨rfl, hsame⟩
    · rw [loadFile_run, hmissing] at hload
      cases hload

theorem kind_of_loadNode_file {path : String} {text : Option String} {e : CompileError}
    (h : loadNode path (some (.file text)) = .error e) : e.kind ≠ .precondition := by
  cases text with
  | none =>
    cases h
    simp [CompileError.kind]
  | some text => simp [kind_of_load h]

/-- A compilation whose input is a file does not fail for a precondition. -/
theorem exitCode_of_file {job : Job} {text : Option String} {e : CompileError}
    (hinput : w.store.at? job.input = some (.file text))
    (h : compile World.host job w = (.error e, w')) : (RunError.compile e).exitCode ≠ 1 := by
  intro hexit
  rcases exitCode_compile e with ⟨_, hkind⟩ | ⟨hother, _⟩ | ⟨hother, _⟩
  · obtain ⟨hload, _⟩ := unchanged_of_compile_error World.looksOnly h (by simp [hkind])
    rw [loadFile_run, hinput] at hload
    exact kind_of_loadNode_file hload hkind
  · simp [hexit] at hother
  · simp [hexit] at hother

/-- A run that is refused, or finds no model and was not to empty anything, leaves the store as it
was, unless it cuts off its own input. A run that does so is always refused, and its input is
gone. -/
theorem refused_run_keeps_store_iff (elapsed : StateM World String) (o : Options) (w w' : World)
    (ending : Ending) (h : run World.host elapsed (.run o) w = (ending, w')) :
    (ending.exitCode = 1 ∨ ending.exitCode = 2 ∧ o.clean = false →
      (w'.store = w.store ↔ ¬ CutsOffInput w.store o)) ∧
    (CutsOffInput w.store o → ending.exitCode = 1 ∧ w'.store.at? o.input = none) := by
  obtain ⟨answer, hrun, hcode⟩ := run_ending h
  rcases runOptions_run hrun with
    ⟨hsame, hkept⟩ | ⟨v, v', v'', text, result, hinput, hv, hprepare, hcompile, herror, hok⟩
  · have hnot : ¬ CutsOffInput w.store o := fun hcuts => hkept hcuts.input hcuts.clean hcuts.output
    exact ⟨fun _ => iff_of_true hsame hnot, fun hcuts => absurd hcuts hnot⟩
  · rcases prepareOutput_run hprepare with
      ⟨hsame, hkept⟩ | ⟨out, hclean, hlocate, houtput, _, hcleared⟩
    · rw [hv] at hsame hkept
      have hnot : ¬ CutsOffInput w.store o := fun hcuts => hkept hcuts.clean hcuts.output
      refine ⟨fun hrefused => iff_of_true ?_ hnot, fun hcuts => absurd hcuts hnot⟩
      cases result with
      | ok report => simp [hcode, hok report rfl] at hrefused
      | error e =>
        obtain ⟨rfl, rfl⟩ := herror e rfl
        have hkind : e.kind ≠ .io := by
          intro hio
          simp [hcode, RunError.exitCode, hio] at hrefused
        rw [(unchanged_of_compile_error World.looksOnly hcompile hkind).2, hsame]
    · rw [hv] at hlocate houtput hcleared
      rcases at?_input_clear hinput hclean houtput hlocate with ⟨hcuts, hgone⟩ | ⟨hnot, hthere⟩
      · rw [← hcleared] at hgone
        obtain ⟨rfl, hsame⟩ := compile_of_missing hgone hcompile
        obtain ⟨rfl, rfl⟩ := herror _ rfl
        rw [← hsame] at hgone
        refine ⟨fun _ => iff_of_false ?_ (not_not_intro hcuts), fun _ => ⟨hcode, hgone⟩⟩
        intro hstore
        simp [hstore, hinput] at hgone
      · refine ⟨fun hrefused => ?_, fun hcuts => absurd hcuts hnot⟩
        -- The input is still a file, so what fails now is no longer a precondition.
        exfalso
        cases result with
        | ok report => simp [hcode, hok report rfl] at hrefused
        | error e =>
          obtain ⟨rfl, rfl⟩ := herror e rfl
          rw [← hcleared] at hthere
          rcases hrefused with hexit | ⟨_, hnoclean⟩
          · exact exitCode_of_file hthere hcompile (hcode.symm.trans hexit)
          · simp [hclean] at hnoclean

end CommandLine

/-! A model lies in the directory that is to be emptied for its own output. -/

namespace House

open CommandLine

def lampAndDoorDocument : String :=
  "[\"House\", \"1\", [[\"Room\", \"R\", [[null, \"Lamp\"], [null, \"Door\"]]]]]"

def inside : World :=
  .ofStore (((FileStore.fresh ["work"]).put ["work", "output"] .directory).put
    ["work", "output", "model.json"] (.file (some lampAndDoorDocument)))

def careful : Options :=
  { input := "output/model.json"
    output := "output"
    verbose := false
    force := false
    clean := false
    noColor := false
    split := false }

def cleaning : Options := { careful with clean := true }

/-- The run that was to empty the directory is refused and has lost its input. Without that it is
refused as well, and nothing is changed. -/
theorem input_lost_by_cleaning :
    let cleaned := run World.host (pure "") (.run cleaning) inside
    let refused := run World.host (pure "") (.run careful) inside
    inside.store.at? "output/model.json" = some (.file (some lampAndDoorDocument)) ∧
    cleaned.1.exitCode = 1 ∧ cleaned.2.store.at? "output/model.json" = none ∧
    cleaned.2.store ≠ inside.store ∧
    refused.1.exitCode = 1 ∧ refused.2.store = inside.store := by
  intro cleaned refused
  have hinput : inside.store.at? "output/model.json" = some (.file (some lampAndDoorDocument)) := by
    decide +kernel
  have hcuts : CutsOffInput inside.store cleaning :=
    ⟨rfl, ⟨_, hinput⟩, by decide +kernel, ["work", "output"], by decide +kernel, by decide +kernel⟩
  obtain ⟨hkept, hlost⟩ := refused_run_keeps_store_iff (pure "") cleaning inside _ _ rfl
  obtain ⟨hexit, hgone⟩ := hlost hcuts
  have hrefused : refused.1.exitCode = 1 := by decide +kernel
  have hstore := (refused_run_keeps_store_iff (pure "") careful inside _ _ rfl).1 (.inl hrefused)
  refine ⟨hinput, hexit, hgone, ?_, hrefused, ?_⟩
  · exact fun hsame => (hkept (.inl hexit)).mp hsame hcuts
  · exact hstore.mpr fun hcuts => by simpa [careful] using hcuts.clean

end House

end ExecUml
