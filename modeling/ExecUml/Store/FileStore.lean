import ExecUml.Store.Path

/-!
# File stores

A file store maps places to files and directories. A path is followed from the working directory, or
from the root if it is absolute, and every name but the last has to be that of a directory.

There are no links and no permissions.
-/

set_option autoImplicit false

namespace ExecUml

/-- The names on the way from the root. -/
abbrev Place := List String

/-- What is at a place. A file whose bytes are not text has no text. -/
inductive Node where
  | directory
  | file (text : Option String)
deriving DecidableEq

structure FileStore where
  /-- Everything below the root. -/
  nodes : List (Place × Node)
  /-- The working directory. -/
  here : Place
deriving DecidableEq

namespace FileStore

/-- A store with nothing in it but the working directory. -/
def fresh (here : Place) : FileStore :=
  ⟨(List.range here.length).map fun n => (here.take (n + 1), .directory), here⟩

def node? (fs : FileStore) (p : Place) : Option Node :=
  if p.isEmpty then some .directory else fs.nodes.lookup p

def isDirectory (fs : FileStore) (p : Place) : Bool := fs.node? p == some .directory

def put (fs : FileStore) (p : Place) (n : Node) : FileStore :=
  { fs with nodes := (p, n) :: fs.nodes.filter (·.1 != p) }

/-- The longest name in bytes. -/
def nameLimit : Nat := 255

/-- The length in bytes from which a path is refused. -/
def pathLimit : Nat := 4096

/-- Whether a path can be followed at all. -/
def isPath (path : String) : Bool :=
  !path.toList.contains '\x00' && path.utf8ByteSize < pathLimit

/-- The place that a name leads to from a directory. -/
def enter (p : Place) (name : String) : Place :=
  if name = "." then p else if name = ".." then p.dropLast else p ++ [name]

/-- Where a path starts. -/
def start (fs : FileStore) (path : String) : Place := if Path.isAbsolute path then [] else fs.here

/-- Why a path leads nowhere: a directory on the way is missing, or something else is in the way. -/
inductive Obstacle where
  | missing
  | blocked
deriving DecidableEq

/-- The place that names lead to, whether there is anything or not. -/
def follow (fs : FileStore) : Place → List String → Except Obstacle Place
  | p, [] => .ok p
  | p, name :: names =>
    match fs.node? p with
    | none => .error .missing
    | some (.file _) => .error .blocked
    | some .directory =>
      if name.utf8ByteSize ≤ nameLimit then fs.follow (enter p name) names else .error .blocked

def locate? (fs : FileStore) (path : String) : Option Place :=
  if path.isEmpty || !isPath path then none
  else (fs.follow (fs.start path) (Path.names path)).toOption

/-- What a path leads to. -/
def at? (fs : FileStore) (path : String) : Option Node := (fs.locate? path).bind fs.node?

def isDirectoryAt (fs : FileStore) (path : String) : Bool := fs.at? path == some .directory

/-- Makes a directory in one that exists. Slashes at the end of the path do not matter. -/
def makeDirectory (fs : FileStore) (path : String) : Except Obstacle FileStore :=
  if isPath path then
    match fs.follow (fs.start path) (Path.entries path) with
    | .error o => .error o
    | .ok p => if (fs.node? p).isNone then .ok (fs.put p .directory) else .error .blocked
  else .error .blocked

/-- Makes a directory and those above it. What was made stays if the rest fails. Above `a/b/.` lies
`a` and not `a/b`, so that such a path needs `a/b` to be there. -/
def makeDirectories (fs : FileStore) (path : String) : FileStore × Bool :=
  if path.isEmpty then (fs, true)
  else match fs.makeDirectory path with
    | .ok made => (made, true)
    | .error .blocked => (fs, fs.isDirectoryAt path)
    | .error .missing =>
      match h : Path.parent? path with
      | none => (fs, false)
      | some up =>
        have := Path.length_parent?_lt h
        let (above, ok) := fs.makeDirectories up
        if ok then
          match above.makeDirectory path with
          | .ok made => (made, true)
          | .error _ => (above, above.isDirectoryAt path)
        else (above, false)
termination_by path.length

/-- Writes a file into a directory that exists; a file of that path is replaced. -/
def write (fs : FileStore) (path : String) (text : Option String) : FileStore × Bool :=
  match fs.locate? path with
  | none => (fs, false)
  | some p => if fs.isDirectory p then (fs, false) else (fs.put p (.file text), true)

/-- The names from `p` on of what lies below `p`. -/
def below (fs : FileStore) (p : Place) : List (Place × Node) :=
  fs.nodes.filterMap fun (q, n) =>
    if p.isPrefixOf q && p.length < q.length then some (q.drop p.length, n) else none

/-- Removes everything below a place. -/
def clear (fs : FileStore) (p : Place) : FileStore :=
  { fs with nodes := fs.nodes.filter fun (q, _) => !(p.isPrefixOf q && p.length < q.length) }

/-- A place as an absolute path. -/
def absolute (p : Place) : String := "/" ++ String.intercalate "/" p

/-- What lies below a path, in order; directories end in a slash. -/
def listing (fs : FileStore) (path : String) : List String :=
  match fs.locate? path with
  | none => []
  | some p =>
    let entries := (fs.below p).map fun (q, n) =>
      String.intercalate "/" q ++ (if n = .directory then "/" else "")
    entries.mergeSort fun a b => !(b < a)

end FileStore

end ExecUml
