import ExecUml.Note
import ExecUml.Store.FileStore

/-!
# Hosts

What the program needs from the machine it runs on: files, a place for notes and one for messages.
`World` is a machine in memory, on which a run is a function of its state.
-/

set_option autoImplicit false

namespace ExecUml

/-- What a path leads to. -/
inductive PathKind where
  | file
  | directory
deriving DecidableEq

structure Host (m : Type → Type) where
  kind? : String → m (Option PathKind)
  /-- The text of a file, unless it cannot be read or is not text. -/
  readText? : String → m (Option String)
  /-- Makes a directory and those above it; says whether it is there now. -/
  makeDirectories : String → m Bool
  /-- Writes a file; says whether that worked. -/
  writeFile : String → String → m Bool
  /-- Whether a directory has no entry, unless it cannot be read. -/
  isEmpty? : String → m (Option Bool)
  /-- Removes the entries of a directory; says whether that worked. -/
  clear : String → m Bool
  /-- The names of all files below a directory. -/
  fileNames : String → m (List String)
  /-- The absolute path of a directory. -/
  absolute : String → m String
  note : Note → m Unit
  say : String → m Unit

/-- The state of a machine in memory. Notes and messages come oldest first. -/
structure World where
  store : FileStore
  notes : List Note
  said : List String

namespace World

def ofStore (fs : FileStore) : World := ⟨fs, [], []⟩

/-- Changes the store and answers. -/
def onStore {α : Type} (f : FileStore → FileStore × α) : StateM World α := fun w =>
  let (fs, a) := f w.store
  (a, { w with store := fs })

/-- Looks at the store. -/
def look {α : Type} (f : FileStore → α) : StateM World α := fun w => (f w.store, w)

def kindOf : Node → PathKind
  | .directory => .directory
  | .file _ => .file

def textOf : Node → Option String
  | .directory => none
  | .file text => text

def fileNamesBelow (fs : FileStore) (path : String) : List String :=
  match fs.locate? path with
  | none => []
  | some p => (fs.below p).filterMap fun (q, n) => if n = .directory then none else q.getLast?

def isEmptyAt? (fs : FileStore) (path : String) : Option Bool :=
  (fs.locate? path).map fun p => (fs.below p).isEmpty

def clearAt (fs : FileStore) (path : String) : FileStore × Bool :=
  match fs.locate? path with
  | none => (fs, false)
  | some p => (fs.clear p, true)

def absoluteAt (fs : FileStore) (path : String) : String :=
  ((fs.locate? path).map FileStore.absolute).getD path

/-- The machine in memory as a host. -/
def host : Host (StateM World) where
  kind? path := look fun fs => (fs.at? path).map kindOf
  readText? path := look fun fs => (fs.at? path).bind textOf
  makeDirectories path := onStore (·.makeDirectories path)
  writeFile path text := onStore (·.write path (some text))
  isEmpty? path := look (isEmptyAt? · path)
  clear path := onStore (clearAt · path)
  fileNames path := look (fileNamesBelow · path)
  absolute path := look (absoluteAt · path)
  note n := modify fun w => { w with notes := w.notes ++ [n] }
  say line := modify fun w => { w with said := w.said ++ [line] }

end World

end ExecUml
