import ExecUml.Model.Basic
import ExecUml.Script.Name
import ExecUml.Script.Syntax
import ExecUml.Text.Occurrence

/-!
# Log messages

The expressions that messages of a model become. Messages of operations may name parameters, and
messages of both kinds may hold one of two markers for a property of the object. A message of an
operation with placeholders left in it becomes a template; a message of a transition is cut at its
markers, and the text between them is inert.
-/

set_option autoImplicit false

namespace ExecUml

open Script (Expr parameterName)

/-- The placeholder of a name. -/
def placeholder (name : String) : String := "$\x7b" ++ name ++ "\x7d"

/-- The names that stand for a property of the object, and that property. -/
def propertyMarkers : List (String × String) := [("self.NIM", "nim"), ("self.NIP", "nip")]

/-- The placeholders to be replaced in a message, and what replaces them, in order. -/
def messageSubstitutions (parameters : List Parameter) : List (String × String) :=
  propertyMarkers.map (fun m => (placeholder m.1, placeholder ("this." ++ m.2)))
    ++ parameters.map (fun p => (placeholder p.name, placeholder (parameterName p.name)))

/-- The message with its placeholders replaced, one after the other. -/
def substituted (message : String) (parameters : List Parameter) : String :=
  (messageSubstitutions parameters).foldl (fun text s => Text.replace text s.1 s.2) message

/-- The expression of a message in an operation. -/
def messageExpr (message : String) (parameters : List Parameter) : Expr :=
  let text := substituted message parameters
  if Text.contains text "$\x7b" then .template text else .string text

/-- A part of the message of a transition. -/
inductive MessagePart where
  | text (cs : List Char)
  | property (name : String)
deriving DecidableEq

/-- The property whose marker stands in front, and the text after the marker. -/
def markerInFront? (s : List Char) : Option (String × List Char) :=
  propertyMarkers.findSome? fun m => (Text.afterFront? (placeholder m.1).toList s).map (m.2, ·)

theorem exists_of_markerInFront? {s rest : List Char} {name : String}
    (h : markerInFront? s = some (name, rest)) :
    ∃ m ∈ propertyMarkers, m.2 = name ∧ s = (placeholder m.1).toList ++ rest := by
  obtain ⟨m, hm, h⟩ := List.exists_of_findSome?_eq_some h
  obtain ⟨r, hr, heq⟩ := Option.map_eq_some_iff.1 h
  cases heq
  exact ⟨m, hm, rfl, Text.afterFront?_eq_some_iff.1 hr⟩

theorem length_of_markerInFront? {s rest : List Char} {name : String}
    (h : markerInFront? s = some (name, rest)) : rest.length < s.length := by
  obtain ⟨m, -, -, rfl⟩ := exists_of_markerInFront? h
  simp [placeholder, String.toList_append]
  omega

/-- Puts a character in front of the parts of a message. -/
def consChar (c : Char) : List MessagePart → List MessagePart
  | .text cs :: parts => .text (c :: cs) :: parts
  | parts => .text [c] :: parts

/-- Cuts a message at its markers; no part of text is empty. -/
def messageParts (s : List Char) : List MessagePart :=
  match s with
  | [] => []
  | c :: cs =>
    match _h : markerInFront? (c :: cs) with
    | some (name, rest) => .property name :: messageParts rest
    | none => consChar c (messageParts cs)
termination_by s.length
decreasing_by
  · exact length_of_markerInFront? _h
  · simp

def MessagePart.isProperty : MessagePart → Bool
  | property _ => true
  | text _ => false

def MessagePart.expr : MessagePart → Expr
  | text cs => .templateText (String.ofList cs)
  | property name => .member name

/-- A sum that starts with a property would not be a text: an empty text goes in front. -/
def startingWithText : List MessagePart → List MessagePart
  | .property name :: parts => .text [] :: .property name :: parts
  | parts => parts

/-- The expression of a message of a transition. -/
def legacyExpr : Option String → Expr
  | none => .string ""
  | some message =>
    let parts := messageParts message.toList
    if parts.any (·.isProperty) then .concat ((startingWithText parts).map (·.expr))
    else .string message

end ExecUml
