import ExecUml.Document.Schema

/-!
# The shape of model documents

The records of a model document and their fields, in the order in which a record written as a list
gives them.
-/

set_option autoImplicit false

namespace ExecUml

/-- The kinds of record in a model document. -/
inductive RecordKind where
  | model
  | domain
  | classDecl
  | attributeDecl
  | relationship
  | participant
  | associationClass
  | stateMachine
  | state
  | transition
  | action
  | actionLanguage
  | operation
  | parameter
  | step
deriving DecidableEq

namespace RecordKind

open Document

def title : RecordKind → String
  | model => "WireModel"
  | domain => "WireDomain"
  | classDecl => "WireClass"
  | attributeDecl => "WireAttribute"
  | relationship => "WireRelationship"
  | participant => "WireParticipant"
  | associationClass => "WireAssociationClass"
  | stateMachine => "WireStateMachine"
  | state => "WireState"
  | transition => "WireTransition"
  | action => "WireAction"
  | actionLanguage => "WireActionLanguage"
  | operation => "WireOperation"
  | parameter => "WireParameter"
  | step => "WireActionStep"

def textField (key : String) : FieldDecl RecordKind := ⟨key, [], .text⟩

def listField (key : String) (of : RecordKind) : FieldDecl RecordKind := ⟨key, [], .list of⟩

def recordField (key : String) (of : RecordKind) : FieldDecl RecordKind :=
  ⟨key, [], .record of⟩

def languageField : FieldDecl RecordKind :=
  ⟨"actionLanguage", ["action_language"], .record actionLanguage⟩

def fields : RecordKind → List (FieldDecl RecordKind)
  | model => [textField "system_name", textField "version", listField "domains" domain]
  | domain =>
    [textField "name", textField "key_letter", listField "classes" classDecl,
     listField "relationships" relationship]
  | classDecl =>
    [textField "entity_type", textField "name", textField "key_letter", textField "inherits_from",
     ⟨"is_abstract", [], .flag⟩, textField "description",
     listField "attributes" attributeDecl, recordField "state_machine" stateMachine]
  | attributeDecl =>
    [textField "name", textField "data_type", textField "attribute_type",
     textField "default_value"]
  | relationship =>
    [textField "relationship_id", textField "description", listField "participants" participant,
     recordField "association_class" associationClass]
  | participant => [textField "class_name", textField "role", textField "multiplicity"]
  | associationClass =>
    [textField "name", textField "key_letter", listField "attributes" attributeDecl]
  | stateMachine =>
    [textField "initial_state", listField "states" state, listField "transitions" transition]
  | state => [textField "name"]
  | transition =>
    [textField "from_state", textField "to_state", textField "event", listField "actions" action,
     languageField]
  | action => [textField "type", textField "message", languageField]
  | actionLanguage => [listField "operations" operation]
  | operation =>
    [textField "name", listField "parameters" parameter, listField "steps" step,
     listField "actions" step]
  | parameter => [textField "name", ⟨"type", ["data_type"], .text⟩]
  | step =>
    [textField "type", textField "target", textField "attribute", textField "value",
     textField "message"]

end RecordKind

/-- The schema of model documents. -/
def modelSchema : Document.Schema RecordKind := ⟨RecordKind.title, RecordKind.fields⟩

end ExecUml
