import ExecUml.Proofs.TransitionBodies

/-!
# Log messages of transitions

What a transition without operations logs, said of the document. A transition with an empty
action-language block is treated like one without a block, but an action is not: an action of type
`log` whose block is there and empty is passed over. So a transition keeps the messages of all its
log actions exactly if none of them has a block.
-/

set_option autoImplicit false

namespace ExecUml

open Document

theorem map_filter_eq_map_iff {α β : Type} {p : α → Bool} {f : α → β} {l : List α} :
    (l.filter p).map f = l.map f ↔ ∀ a ∈ l, p a = true := by
  constructor
  · intro h
    -- an element that is left out makes the list shorter
    have hlength := congrArg List.length h
    rw [List.length_map, List.length_map] at hlength
    exact List.length_filter_eq_length_iff.mp hlength
  · intro h
    rw [List.filter_eq_self.mpr h]

namespace Document.Tree

/-! ## Texts in a document -/

/-- The text of a scalar other than null. -/
def text? : Tree → Option String
  | .scalar token => token.scalar?.bind fun v => v.asContent?.bind Content.asText?
  | _ => none

/-- The text that a record gives for a field. -/
def textPart? (k : RecordKind) (key : String) (t : Tree) : Option String :=
  (t.part? modelSchema k key).bind text?

section Texts

variable {k : RecordKind} {t : Tree} {c : Content}

theorem Reads.text?_eq (h : t.Reads modelSchema .text c) : t.text? = c.asText? := by
  obtain ⟨depth, h⟩ := h
  cases t with
  | scalar token =>
    rw [content?] at h
    obtain ⟨v, hv, hc⟩ := Option.bind_eq_some_iff.mp h
    rw [Tree.text?, hv, Option.bind_some, hc, Option.bind_some]
  | list items => cases depth <;> cases h
  | object members => cases depth <;> cases h

theorem Reads.textPart?_eq (h : t.Reads modelSchema (.record k) c) {f : FieldDecl RecordKind}
    (hf : f ∈ k.fields)
    (htype : f.type = .text) : t.textPart? k f.key = c.text? f.key := by
  have hfield := h.field? (RecordKind.nodup_keys k) hf
  rw [Tree.textPart?, Content.text?]
  generalize t.part? modelSchema k f.key = part?, c.field? f.key = field? at hfield
  cases hfield with
  | none => rfl
  | some hread => exact Reads.text?_eq (htype ▸ hread)

end Texts

/-! ## Actions that log -/

def isLog (action : Tree) : Bool := action.textPart? .action "type" == some "log"

def message? (action : Tree) : Option String := action.textPart? .action "message"

/-- The action has an action-language block that is not null, with or without operations in it. -/
def hasBlock (action : Tree) : Bool := (action.part? modelSchema .action "actionLanguage").isSome

/-- The actions of a transition that log, in order. -/
def logTrees (t : Tree) : List Tree := t.actionTrees.filter isLog

/-- No operation occurs in the block of the transition or of one of its actions, be they absent,
null or empty. -/
def WithoutOperations (t : Tree) : Prop :=
  t.operationTrees .transition = [] ∧ ∀ action ∈ t.actionTrees, action.operationTrees .action = []

/-- What the transition that is made from a tree without operations logs. -/
structure Logs (tree : Tree) (t : Transition) : Prop where
  /-- The messages of the log actions that have no block, in order. -/
  body : t.body = .messages ((tree.logTrees.filter (!·.hasBlock)).map message?)
  /-- No message is lost if and only if no log action has a block. -/
  all_iff : t.body = .messages (tree.logTrees.map message?) ↔
    ∀ action ∈ tree.logTrees, action.hasBlock = false

section Actions

variable {action : Tree} {c : Content} (h : action.Reads modelSchema (.record .action) c)
include h

theorem Reads.hasBlock_eq : action.hasBlock = (c.field? "actionLanguage").isSome := by
  have hfield : Option.Rel (Tree.Reads modelSchema (.record .actionLanguage))
      (action.part? modelSchema .action "actionLanguage") (c.field? "actionLanguage") :=
    h.field? (RecordKind.nodup_keys .action)
      (by simp [modelSchema, RecordKind.fields] : RecordKind.languageField ∈ _)
  unfold hasBlock
  generalize action.part? modelSchema .action "actionLanguage" = part?,
    c.field? "actionLanguage" = field? at hfield
  cases hfield <;> rfl

theorem Reads.logMessage?_eq :
    logMessage? c = if action.isLog && !action.hasBlock then some action.message? else none := by
  have htype : action.textPart? .action "type" = c.text? "type" :=
    h.textPart?_eq (f := RecordKind.textField "type") (by simp [RecordKind.fields]) rfl
  have hmessage : action.textPart? .action "message" = c.text? "message" :=
    h.textPart?_eq (f := RecordKind.textField "message") (by simp [RecordKind.fields]) rfl
  rw [logMessage?, isLog, message?, htype, hmessage, h.hasBlock_eq, Bool.and_comm,
    Option.not_isSome]

end Actions

theorem filterMap_logMessage? {actions : List Tree} {cs : List Content}
    (h : List.Forall₂ (Tree.Reads modelSchema (.record .action)) actions cs) :
    cs.filterMap logMessage? = ((actions.filter isLog).filter (!·.hasBlock)).map message? := by
  induction h with
  | nil => rfl
  | @cons action c actions cs hread _ ih =>
    rw [List.filterMap_cons, hread.logMessage?_eq, ih]
    cases hlog : action.isLog <;> cases hblock : action.hasBlock <;> simp [hlog, hblock]

theorem Reads.logs {tree : Tree} {c : Content} (h : tree.Reads modelSchema (.record .transition) c)
    (hnone : tree.WithoutOperations) : tree.Logs (Transition.ofContent c) := by
  have hown : ExecUml.blockOperations c = [] := by
    have hblock := h.blockOperations (by simp [RecordKind.fields])
    rw [hnone.1] at hblock
    exact List.forall₂_nil_left_iff.mp hblock
  have hnested : ExecUml.nestedOperations c = [] := by
    have hblocks := h.nestedOperations
    rw [List.flatMap_eq_nil_iff.mpr hnone.2] at hblocks
    exact List.forall₂_nil_left_iff.mp hblocks
  have hactions :
      List.Forall₂ (Tree.Reads modelSchema (.record .action)) tree.actionTrees
        (itemsOf c "actions") :=
    h.parts (RecordKind.nodup_keys .transition)
      (by simp [modelSchema, RecordKind.fields] : RecordKind.listField "actions" .action ∈ _) rfl
  have hbody :
      (Transition.ofContent c).body = .messages
        ((tree.logTrees.filter (!·.hasBlock)).map message?) := by
    rw [Transition.body_of_none hown hnested, filterMap_logMessage? hactions]
    rfl
  refine ⟨hbody, ?_⟩
  rw [hbody, TransitionBody.messages.injEq, map_filter_eq_map_iff]
  simp only [Bool.not_eq_true']

end Document.Tree

/-- A text that is read as a model is the text of a tree, from whose transitions those of the model
are made, one by one. A transition in which no operation occurs has log messages: those of its
actions of type `log` that have no action-language block, in order. They are the messages of all its
log actions if and only if none of these has a block. -/
theorem no_log_lost_iff_unblocked {text : String} {m : Model} (h : Model.parse text = .ok m) :
    (∃ doc : Tree, doc.Documents text.toList) ∧
    ∀ doc : Tree, doc.Documents text.toList →
      List.Forall₂ (fun tree t => tree.WithoutOperations → tree.Logs t) doc.transitionTrees
        m.transitions := by
  constructor
  · obtain ⟨_, c, hread, _⟩ := parse_eq_ok_iff.mp h
    exact exists_documents_of_read hread
  · intro doc htext
    obtain ⟨c, hc, rfl⟩ := htext.parse_eq_ok_iff.mp h
    have hmade := Tree.Reads.transitions ⟨depthLimit, hc⟩
    refine hmade.imp ?_
    rintro tree _ ⟨c, hread, rfl⟩ hnone
    exact hread.logs hnone

/-! Two transitions of a gate, with all records written as lists. The block of the first is empty.
In the second it is the block of a log action that is empty. -/

namespace Gate

theorem skipScalar_null : outcome (skipScalar "null".toList) = some ((), []) := by decide +kernel

def nothing : Tree := .scalar ⟨_, skipScalar_null⟩

def log : Tree := .scalar ⟨"\"log\"".toList, by decide +kernel⟩

def pushTree : Tree :=
  .list [nothing, nothing, .scalar ⟨"\"push\"".toList, by decide +kernel⟩,
    .list [.list [log, .scalar ⟨"\"pushed\"".toList, by decide +kernel⟩], .list [],
      .list [log, nothing, nothing]],
    .list []]

def stopTree : Tree :=
  .list [nothing, nothing, .scalar ⟨"\"stop\"".toList, by decide +kernel⟩,
    .list [.list [log, .scalar ⟨"\"lost\"".toList, by decide +kernel⟩, .list []],
      .list [log, .scalar ⟨"\"kept\"".toList, by decide +kernel⟩]]]

def tree : Tree :=
  .list [nothing, nothing, .list [.list [nothing, nothing,
    .list [.list [nothing, nothing, nothing, nothing, nothing, nothing, nothing,
      .list [nothing, nothing, .list [pushTree, stopTree]]]]]]]

def text : String :=
  "[null,null,[[null,null,[[null,null,null,null,null,null,null,[null,null,["
    ++ "[null,null,\"push\",[[\"log\",\"pushed\"],[],[\"log\",null,null]],[]],"
    ++ "[null,null,\"stop\",[[\"log\",\"lost\",[]],[\"log\",\"kept\"]]]]]]]]]]"

def push : Transition := ⟨"", "", "push", .messages [some "pushed", none]⟩

def stop : Transition := ⟨"", "", "stop", .messages [some "kept"]⟩

def gate : ClassDecl :=
  { kind := .ordinary
    name := ""
    keyLetter := none
    parent := none
    isAbstract := false
    description := none
    attributes := []
    machine := some ⟨none, [], [push, stop]⟩ }

def model : Model := ⟨"", "", [⟨"", "", [gate], []⟩]⟩

theorem parse_text : Model.parse text = .ok model := ok_of_toOption (by decide +kernel)

theorem transitionTrees_tree : tree.transitionTrees = [pushTree, stopTree] := by rfl

/-- The push keeps both messages, of which one is absent. The stop keeps the second and loses the
first. -/
theorem stop_log_lost :
    Model.parse text = .ok model ∧ tree.Documents text.toList ∧
    pushTree.WithoutOperations ∧ push.body = .messages (pushTree.logTrees.map Tree.message?) ∧
    stopTree.WithoutOperations ∧ stopTree.logTrees.map Tree.message? = [some "lost", some "kept"] ∧
    stop.body ≠ .messages (stopTree.logTrees.map Tree.message?) := by
  have hplain : tree.plain = text.toList := by decide +kernel
  have hdoc : tree.Documents text.toList := hplain ▸ tree.documents_plain
  have hmade := (no_log_lost_iff_unblocked parse_text).2 tree hdoc
  rw [transitionTrees_tree] at hmade
  obtain ⟨hpush, hmade⟩ := List.forall₂_cons.mp hmade
  obtain ⟨hstop, _⟩ := List.forall₂_cons.mp hmade
  have hpushNone : pushTree.WithoutOperations := ⟨rfl, by decide⟩
  have hstopNone : stopTree.WithoutOperations := ⟨rfl, by decide⟩
  refine ⟨parse_text, hdoc, hpushNone, ?_, hstopNone, by decide +kernel, ?_⟩
  · rw [(hpush hpushNone).all_iff]
    decide +kernel
  · rw [Ne, (hstop hstopNone).all_iff]
    decide +kernel

end Gate

end ExecUml
