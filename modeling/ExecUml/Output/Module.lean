import ExecUml.Declaration
import ExecUml.Output.Header
import ExecUml.Script.Printer

/-!
# Generated modules

The modules of a model as trees with their paths: one or two for each class, an index for each
domain, and the root index. Domains come in order, and in each of them the declared classes, the
classes of its relationships and the index.
-/

set_option autoImplicit false

namespace ExecUml

open Script

/-- Whether interface and class share a file. -/
inductive EmitMode where
  | merged
  | split
deriving DecidableEq

/-- The directory of a domain. -/
def Domain.directory (d : Domain) : String := camelCase d.name

def classStem (className : String) : String := fileStem (pascalCase className)

def interfaceStem (className : String) : String := fileStem (interfaceName className)

def indexStem : String := "index"

/-- A module of a class before it is put into the directory of its domain. -/
structure ClassModule where
  stem : String
  /-- The names that the index passes on. -/
  exports : List String
  module : Module

/-- A module in its place under the output directory. -/
structure PlacedModule where
  path : String
  module : Module

def pathIn (directory stem : String) : String := directory ++ "/" ++ stem ++ fileExtension

/-- How a module of `d` names the file `stem` beside the class `parent`. -/
def parentSource (ix : ClassIndex) (d : Domain) (parent stem : String) : String :=
  match ix.domainOf? parent with
  | some home => if home.name = d.name then "./" ++ stem else "../" ++ home.directory ++ "/" ++ stem
  | none => "./" ++ stem

namespace Scope

def mergedModule (scope : Scope) (m : Model) (d : Domain) : ClassModule :=
  let c := scope.owner
  { stem := classStem c.name
    exports := [interfaceName c.name, pascalCase c.name]
    module :=
      { header := Header.ofClass m d c
        imports := (c.parent.map fun p =>
          ⟨[interfaceName p, pascalCase p], parentSource scope.index d p (classStem p)⟩).toList
        items := [.interface scope.interface, .classDecl scope.classDecl] } }

def interfaceModule (scope : Scope) (m : Model) (d : Domain) : ClassModule :=
  let c := scope.owner
  { stem := interfaceStem c.name
    exports := [interfaceName c.name]
    module :=
      { header := Header.ofInterface m d c
        imports := (c.parent.map fun p =>
          ⟨[interfaceName p], parentSource scope.index d p (interfaceStem p)⟩).toList
        items := [.interface scope.interface] } }

def classModule (scope : Scope) (m : Model) (d : Domain) : ClassModule :=
  let c := scope.owner
  { stem := classStem c.name
    exports := [pascalCase c.name]
    module :=
      { header := Header.ofClass m d c
        imports := ⟨[interfaceName c.name], "./" ++ interfaceStem c.name⟩
          :: (c.parent.map fun p =>
            ⟨[pascalCase p], parentSource scope.index d p (classStem p)⟩).toList
        items := [.classDecl scope.classDecl] } }

/-- The modules of a class. -/
def modules (scope : Scope) (m : Model) (d : Domain) : EmitMode → List ClassModule
  | .merged => [scope.mergedModule m d]
  | .split => [scope.interfaceModule m d, scope.classModule m d]

end Scope

/-- The modules of the classes of a domain. -/
def Domain.classModules (d : Domain) (m : Model) (ix : ClassIndex) (mode : EmitMode) :
    List ClassModule :=
  d.allClasses.flatMap fun c => Scope.modules ⟨ix, c⟩ m d mode

/-- The index of a domain passes on what its modules export. -/
def Domain.indexModule (d : Domain) (m : Model) (files : List ClassModule) : Module :=
  { header := Header.ofDomain m d
    imports := []
    items := files.map fun f => .reexport f.exports ("./" ++ f.stem) }

/-- All modules of a domain, its index last. -/
def Domain.modules (d : Domain) (m : Model) (ix : ClassIndex) (mode : EmitMode) :
    List PlacedModule :=
  let files := d.classModules m ix mode
  files.map (fun f => ⟨pathIn d.directory f.stem, f.module⟩)
    ++ [⟨pathIn d.directory indexStem, d.indexModule m files⟩]

/-- The index of the whole output passes on every domain. -/
def Model.rootModule (m : Model) : PlacedModule :=
  { path := indexStem ++ fileExtension
    module :=
      { header := Header.ofRoot m
        imports := []
        items := m.domains.map fun d => .reexportAll ("./" ++ d.directory) } }

/-- All modules of a model in the order in which they are written. -/
def Model.modules (m : Model) (mode : EmitMode) : List PlacedModule :=
  m.domains.flatMap (·.modules m (.ofModel m) mode) ++ [m.rootModule]

/-- A generated file. -/
structure OutputFile where
  path : String
  content : String
deriving DecidableEq

def PlacedModule.file (p : PlacedModule) : OutputFile := ⟨p.path, p.module.print⟩

/-- The files generated from a model. -/
def Model.files (m : Model) (mode : EmitMode) : List OutputFile :=
  (m.modules mode).map (·.file)

/-- The content of the first file of a path. -/
def contentAt? (files : List OutputFile) (path : String) : Option String :=
  (files.find? (·.path == path)).map (·.content)

end ExecUml
