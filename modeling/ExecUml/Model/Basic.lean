/-!
# Models

A model is a system of domains. A domain declares classes, some of which own a state machine, and
relationships between classes, some of which carry a class of their own.
-/

set_option autoImplicit false

namespace ExecUml

structure Attribute where
  name : String
  dataType : Option String
  /-- The part the attribute plays; `naming` attributes identify an object. -/
  role : Option String
  defaultValue : Option String
deriving DecidableEq

def Attribute.isNaming (a : Attribute) : Bool := a.role == some "naming"

/-- One step of an operation. -/
inductive ActionStep where
  | update (target member value : Option String)
  | log (message : Option String)
  | unsupported (kind : Option String)
deriving DecidableEq

/-- The step that a document describes by its kind and the parts it may give. -/
def ActionStep.ofParts (kind target member value message : Option String) : ActionStep :=
  if kind = some "update" then .update target member value
  else if kind = some "log" then .log message
  else .unsupported kind

structure Parameter where
  name : String
  dataType : Option String
deriving DecidableEq

structure Operation where
  name : String
  parameters : List Parameter
  steps : List ActionStep
deriving DecidableEq

/-- What happens on a transition: operations that can be called, or messages that are logged. -/
inductive TransitionBody where
  | operations (ops : List Operation)
  | messages (logs : List (Option String))
deriving DecidableEq

structure Transition where
  fromState : String
  toState : String
  event : String
  body : TransitionBody
deriving DecidableEq

structure StateMachine where
  initialState : Option String
  states : List String
  transitions : List Transition
deriving DecidableEq

def StateMachine.hasState (m : StateMachine) (name : String) : Bool := m.states.contains name

inductive ClassKind where
  | ordinary
  | association
deriving DecidableEq

/-- The word for a kind of class in documents and file headers. -/
def ClassKind.tag : ClassKind → String
  | ordinary => "class"
  | association => "association_class"

def ClassKind.ofTag (tag : Option String) : ClassKind :=
  if tag = some ClassKind.association.tag then association else ordinary

structure ClassDecl where
  kind : ClassKind
  name : String
  keyLetter : Option String
  parent : Option String
  isAbstract : Bool
  description : Option String
  attributes : List Attribute
  machine : Option StateMachine
deriving DecidableEq

namespace ClassDecl

/-- The first attribute of a name. -/
def attribute? (c : ClassDecl) (name : String) : Option Attribute :=
  c.attributes.find? (·.name == name)

def hasAttribute (c : ClassDecl) (name : String) : Bool := (c.attribute? name).isSome

def namingAttributes (c : ClassDecl) : List Attribute := c.attributes.filter (·.isNaming)

end ClassDecl

structure Participant where
  className : String
  role : Option String
  multiplicity : Option String
deriving DecidableEq

/-- The class that a relationship carries. -/
structure AssociationClass where
  name : String
  keyLetter : Option String
  attributes : List Attribute
deriving DecidableEq

structure Relationship where
  id : String
  description : Option String
  participants : List Participant
  association : Option AssociationClass
deriving DecidableEq

/-- The class of a relationship as a declaration of its own. -/
def Relationship.classDecl? (r : Relationship) : Option ClassDecl :=
  r.association.map fun a =>
    { kind := .association
      name := a.name
      keyLetter := a.keyLetter
      parent := none
      isAbstract := false
      description := some ("Association class for relationship " ++ r.id)
      attributes := a.attributes
      machine := none }

structure Domain where
  name : String
  keyLetter : String
  classes : List ClassDecl
  relationships : List Relationship
deriving DecidableEq

namespace Domain

def associationClasses (d : Domain) : List ClassDecl := d.relationships.filterMap (·.classDecl?)

/-- The declared classes, then those of the relationships. -/
def allClasses (d : Domain) : List ClassDecl := d.classes ++ d.associationClasses

def machineCount (d : Domain) : Nat := (d.classes.filter (·.machine.isSome)).length

end Domain

structure Model where
  systemName : String
  version : String
  domains : List Domain
deriving DecidableEq

/-- The classes declared directly in domains, in order, each with its domain. -/
def Model.declarations (m : Model) : List (Domain × ClassDecl) :=
  m.domains.flatMap fun d => d.classes.map (d, ·)

end ExecUml
