import ExecUml.Method.Plan

/-!
# Declarations of classes

A class of a model becomes an interface and a class that implements it. The constructor takes the
naming attributes of the whole chain of ancestors, oldest first, and then those of the class itself.
-/

set_option autoImplicit false

namespace ExecUml

open Script

namespace Attribute

def type (a : Attribute) : TypeExpr := .named (typeName a.dataType)

def signature (a : Attribute) : Signature := ⟨camelCase a.name, !a.isNaming, a.type⟩

/-- A default of type string is quoted, any other stands as it is. -/
def initial (a : Attribute) : Option Expr :=
  a.defaultValue.map fun v => if a.type = .named "string" then .string v else .verbatim v

def property (a : Attribute) : Property := ⟨camelCase a.name, !a.isNaming, a.type, a.initial⟩

def param (a : Attribute) : Param := ⟨parameterName a.name, a.type⟩

end Attribute

namespace StateMachine

/-- One of the declared states; any text if there are none. -/
def stateType (m : StateMachine) : TypeExpr :=
  if m.states.isEmpty then .named "string" else .union m.states

def property (m : StateMachine) : Property :=
  ⟨stateProperty, false, m.stateType, m.initialState.map .string⟩

end StateMachine

namespace Scope

/-- One property for each attribute, and the state of a class with a machine. -/
def interface (scope : Scope) : Interface :=
  { name := interfaceName scope.owner.name
    parent := scope.owner.parent.map interfaceName
    properties := scope.owner.attributes.map (·.signature)
      ++ (scope.owner.machine.map fun sm => ⟨stateProperty, false, sm.stateType⟩).toList }

def inherited (scope : Scope) : List Attribute := scope.index.inheritedNaming scope.owner

/-- The call that hands the inherited parameters on to the parent. -/
def superCall (scope : Scope) : Stmt :=
  .expression (.call "super" (scope.inherited.map fun a => .identifier (parameterName a.name)))

def constructor (scope : Scope) : Constructor :=
  let own := scope.owner.namingAttributes
  { params := (scope.inherited ++ own).map (·.param)
    body := (if scope.owner.parent.isSome then [scope.superCall] else [])
      ++ own.map fun a =>
        .assign (.member (camelCase a.name)) (.identifier (parameterName a.name)) }

def classDecl (scope : Scope) : Script.Class :=
  { doc := (docLines? scope.owner.description).getD []
    name := pascalCase scope.owner.name
    isAbstract := scope.owner.isAbstract
    parent := scope.owner.parent.map pascalCase
    interfaces := [interfaceName scope.owner.name]
    properties := scope.owner.attributes.map (·.property)
      ++ (scope.owner.machine.map (·.property)).toList
    constructor := scope.constructor
    methods := scope.owner.machine.map (·.methods scope) }

end Scope

end ExecUml
