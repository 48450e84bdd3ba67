import ExecUml.Error
import ExecUml.Model.OfContent
import ExecUml.Text.Blank

/-!
# Loading a model

A model is read from the text of a document and checked for the parts that nothing can be generated
without. The first check that fails is reported: system name, version, the list of domains, then
domain by domain its name, key letter and classes.
-/

set_option autoImplicit false

namespace ExecUml

open Text (allBlank)

namespace Model

/-- Reads a model without checking it. -/
def parse (text : String) : Except CompileError Model :=
  if allBlank text then .error .emptyInput
  else match modelSchema.read .model text.toList with
    | .error f => .error (.malformed (f.position text.toList) f.cause)
    | .ok none => .error .nullModel
    | .ok (some content) => .ok (.ofContent content)

/-- What a domain lacks; `number` is its place in the model. -/
def domainDefect? (number : Nat) (d : Domain) : Option CompileError :=
  if allBlank d.name then some (.domainWithoutName number)
  else if allBlank d.keyLetter then some (.domainWithoutKeyLetter d.name)
  else if d.classes.isEmpty then some (.domainWithoutClasses d.name)
  else none

/-- The first defect of a list of domains, the first of which has the given number. -/
def firstDefect? : (number : Nat) → List Domain → Option CompileError
  | _, [] => none
  | number, d :: ds => (domainDefect? number d).or (firstDefect? (number + 1) ds)

/-- What a model lacks. -/
def defect? (m : Model) : Option CompileError :=
  if allBlank m.systemName then some .missingSystemName
  else if allBlank m.version then some .missingVersion
  else if m.domains.isEmpty then some .noDomains
  else firstDefect? 1 m.domains

/-- Reads and checks a model. -/
def load (text : String) : Except CompileError Model := do
  let m ← parse text
  match m.defect? with
  | none => return m
  | some e => throw e

end Model

/-- Errors are not compared, so results are evaluated as options. -/
theorem ok_of_toOption {ε α : Type} {x : Except ε α} {a : α} (h : x.toOption = some a) :
    x = .ok a := by
  cases x with
  | error e => simp [Except.toOption] at h
  | ok b => simpa [Except.toOption] using h

end ExecUml
