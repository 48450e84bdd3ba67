import ExecUml.Model.Basic
import ExecUml.Text.Blank

/-!
# Headers of generated files

The lines of the comment at the head of a file. They hold nothing but data of the model, so that the
same model always gives the same files.
-/

set_option autoImplicit false

namespace ExecUml.Header

open Text (allBlank trim)

def notice : String := "Generated by xtuml-ts. Do not edit by hand."

def systemLine (m : Model) : String := "System: " ++ m.systemName ++ " v" ++ m.version

def domainLine (d : Domain) : String := "Domain: " ++ d.name ++ " (" ++ d.keyLetter ++ ")"

def classLine (label : String) (c : ClassDecl) : String :=
  let key := match c.keyLetter with
    | some k => " (" ++ k ++ ")"
    | none => ""
  label ++ ": " ++ c.name ++ key ++ ", " ++ c.kind.tag

/-- A relationship with its description, unless that is blank. -/
def relationshipLine (r : Relationship) : String :=
  match r.description with
  | some text => if allBlank text then "  " ++ r.id else "  " ++ r.id ++ ": " ++ trim text
  | none => "  " ++ r.id

def ofRoot (m : Model) : List String :=
  [systemLine m, "Domains: " ++ m.domains.length.repr, "", notice]

def ofDomain (m : Model) (d : Domain) : List String :=
  let relationships :=
    if d.relationships.isEmpty then []
    else "" :: "Relationships:" :: d.relationships.map relationshipLine
  [systemLine m, domainLine d] ++ relationships ++ ["", notice]

def ofClass (m : Model) (d : Domain) (c : ClassDecl) : List String :=
  [systemLine m, domainLine d, classLine "Class" c, "", notice]

def ofInterface (m : Model) (d : Domain) (c : ClassDecl) : List String :=
  [systemLine m, domainLine d, classLine "Interface of" c, "", notice]

end ExecUml.Header
