import ExecUml.Model.Basic
import ExecUml.Model.Schema

/-!
# Models from the content of a document

Absent lists are empty and absent names are the empty text. The body of a transition is resolved
here: operations of the transition itself come first, then operations of its actions, and only where
there are none at all its log messages.
-/

set_option autoImplicit false

namespace ExecUml

open Document (Content)

/-- A text that is empty when absent. -/
def nameOf (c : Content) (key : String) : String := (c.text? key).getD ""

/-- The elements of a list that is empty when absent. -/
def itemsOf (c : Content) (key : String) : List Content := (c.list? key).getD []

def Attribute.ofContent (c : Content) : Attribute :=
  ⟨nameOf c "name", c.text? "data_type", c.text? "attribute_type", c.text? "default_value"⟩

def ActionStep.ofContent (c : Content) : ActionStep :=
  .ofParts (c.text? "type") (c.text? "target") (c.text? "attribute") (c.text? "value")
    (c.text? "message")

def Parameter.ofContent (c : Content) : Parameter := ⟨nameOf c "name", c.text? "type"⟩

/-- The steps of an operation are under `steps`, or under `actions` where that field is absent. -/
def Operation.ofContent (c : Content) : Operation :=
  { name := nameOf c "name"
    parameters := (itemsOf c "parameters").map Parameter.ofContent
    steps := (((c.list? "steps").or (c.list? "actions")).getD []).map ActionStep.ofContent }

/-- The operations in the action-language block of a transition or an action. -/
def blockOperations (c : Content) : List Operation :=
  match c.field? "actionLanguage" with
  | none => []
  | some block => (itemsOf block "operations").map Operation.ofContent

/-- The message of an action that logs and has no action-language block. -/
def logMessage? (action : Content) : Option (Option String) :=
  if (action.field? "actionLanguage").isNone && action.text? "type" == some "log" then
    some (action.text? "message")
  else none

def TransitionBody.ofContent (c : Content) : TransitionBody :=
  let own := blockOperations c
  let nested := (itemsOf c "actions").flatMap blockOperations
  if !own.isEmpty then .operations own
  else if !nested.isEmpty then .operations nested
  else .messages ((itemsOf c "actions").filterMap logMessage?)

def Transition.ofContent (c : Content) : Transition :=
  ⟨nameOf c "from_state", nameOf c "to_state", nameOf c "event", .ofContent c⟩

def StateMachine.ofContent (c : Content) : StateMachine :=
  { initialState := c.text? "initial_state"
    states := (itemsOf c "states").map (nameOf · "name")
    transitions := (itemsOf c "transitions").map Transition.ofContent }

def ClassDecl.ofContent (c : Content) : ClassDecl :=
  { kind := .ofTag (c.text? "entity_type")
    name := nameOf c "name"
    keyLetter := c.text? "key_letter"
    parent := c.text? "inherits_from"
    isAbstract := (c.flag? "is_abstract").getD false
    description := c.text? "description"
    attributes := (itemsOf c "attributes").map Attribute.ofContent
    machine := (c.field? "state_machine").map StateMachine.ofContent }

def Participant.ofContent (c : Content) : Participant :=
  ⟨nameOf c "class_name", c.text? "role", c.text? "multiplicity"⟩

def AssociationClass.ofContent (c : Content) : AssociationClass :=
  ⟨nameOf c "name", c.text? "key_letter", (itemsOf c "attributes").map Attribute.ofContent⟩

def Relationship.ofContent (c : Content) : Relationship :=
  { id := nameOf c "relationship_id"
    description := c.text? "description"
    participants := (itemsOf c "participants").map Participant.ofContent
    association := (c.field? "association_class").map AssociationClass.ofContent }

def Domain.ofContent (c : Content) : Domain :=
  { name := nameOf c "name"
    keyLetter := nameOf c "key_letter"
    classes := (itemsOf c "classes").map ClassDecl.ofContent
    relationships := (itemsOf c "relationships").map Relationship.ofContent }

def Model.ofContent (c : Content) : Model :=
  ⟨nameOf c "system_name", nameOf c "version", (itemsOf c "domains").map Domain.ofContent⟩

end ExecUml
