/-!
# Scripts as trees

The constructs of the script language that generated files are made of.
-/

set_option autoImplicit false

namespace ExecUml.Script

inductive TypeExpr where
  | named (name : String)
  /-- Exactly these texts. -/
  | union (texts : List String)
deriving DecidableEq

inductive Expr where
  /-- A quoted literal. -/
  | string (text : String)
  /-- A literal written as it stands. -/
  | verbatim (text : String)
  | identifier (name : String)
  /-- A property of the receiver. -/
  | member (name : String)
  /-- A template with live placeholders. -/
  | template (text : String)
  /-- A template without placeholders. -/
  | templateText (text : String)
  | concat (parts : List Expr)
  | call (callee : String) (arguments : List Expr)
  | strictEq (left right : Expr)
deriving Inhabited

def Expr.boolean (b : Bool) : Expr := .verbatim (if b then "true" else "false")

inductive Stmt where
  | cond (test : Expr) (body : List Stmt)
  | assign (target value : Expr)
  | expression (value : Expr)
  | ret (value : Expr)
  | comment (text : String)
  /-- A statement that is written as a comment. -/
  | disabled (inner : Stmt)
deriving Inhabited

structure Param where
  name : String
  type : TypeExpr
deriving DecidableEq

structure Constructor where
  params : List Param
  body : List Stmt

structure Method where
  name : String
  params : List Param
  returns : TypeExpr
  body : List Stmt

/-- A property of an interface. -/
structure Signature where
  name : String
  optional : Bool
  type : TypeExpr
deriving DecidableEq

structure Interface where
  name : String
  parent : Option String
  properties : List Signature
deriving DecidableEq

/-- A property of a class. -/
structure Property where
  name : String
  optional : Bool
  type : TypeExpr
  initial : Option Expr

structure Class where
  doc : List String
  name : String
  isAbstract : Bool
  parent : Option String
  interfaces : List String
  properties : List Property
  constructor : Constructor
  /-- The methods of a state machine, if the class has one. -/
  methods : Option (List Method)

structure Import where
  names : List String
  source : String
deriving DecidableEq

inductive Item where
  | interface (decl : Interface)
  | classDecl (decl : Class)
  | reexport (names : List String) (source : String)
  | reexportAll (source : String)

def Item.isExport : Item → Bool
  | reexport _ _ | reexportAll _ => true
  | _ => false

structure Module where
  header : List String
  imports : List Import
  items : List Item

end ExecUml.Script
