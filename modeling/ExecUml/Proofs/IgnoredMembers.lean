import ExecUml.Model.Load
import ExecUml.Proofs.AcceptedTexts
import ExecUml.Proofs.UnseenChanges
import Mathlib.Logic.Relation

/-!
# Members of a model document that are ignored

A model is made from the content of a document by asking for fields, so contents that are alike give
one model. With what is known of changes that a schema does not see: null and unknown members of the
records of a model document can be left out, and the others put in any order, without changing the
model.
-/

set_option autoImplicit false

namespace ExecUml

open Document

/-! ## Questions to alike contents -/

section Rel

variable {α β : Type} {r : α → α → Prop}

theorem bind_eq_of_rel {x y : Option α} {f : α → Option β} (hf : ∀ a b, r a b → f a = f b)
    (h : Option.Rel r x y) : x.bind f = y.bind f := by
  cases h with
  | none => rfl
  | some h => exact hf _ _ h

theorem map_eq_of_rel {x y : Option α} {f : α → β} (hf : ∀ a b, r a b → f a = f b)
    (h : Option.Rel r x y) : x.map f = y.map f := by
  cases h with
  | none => rfl
  | some h => exact congrArg some (hf _ _ h)

theorem isNone_eq_of_rel {x y : Option α} (h : Option.Rel r x y) : x.isNone = y.isNone := by
  cases h <;> rfl

theorem map_eq_of_forall₂ {xs ys : List α} {f : α → β} (hf : ∀ a b, r a b → f a = f b)
    (h : List.Forall₂ r xs ys) : xs.map f = ys.map f := by
  induction h with
  | nil => rfl
  | cons h _ ih => rw [List.map_cons, List.map_cons, hf _ _ h, ih]

end Rel

namespace Document.Content.Alike

variable {c c' : Content}

theorem field? (h : c.Alike c') (key : String) :
    Option.Rel Content.Alike (c.field? key) (c'.field? key) := by
  cases h with
  | refl => exact Content.Alike.refl? _
  | list _ => exact .none
  | record h => exact h key

theorem asText? (h : c.Alike c') : c.asText? = c'.asText? := by
  cases h <;> rfl

theorem asFlag? (h : c.Alike c') : c.asFlag? = c'.asFlag? := by
  cases h <;> rfl

theorem text? (h : c.Alike c') (key : String) : c.text? key = c'.text? key :=
  bind_eq_of_rel (fun _ _ => asText?) (h.field? key)

theorem flag? (h : c.Alike c') (key : String) : c.flag? key = c'.flag? key :=
  bind_eq_of_rel (fun _ _ => asFlag?) (h.field? key)

theorem nameOf (h : c.Alike c') (key : String) : nameOf c key = nameOf c' key := by
  rw [ExecUml.nameOf, ExecUml.nameOf, h.text?]

end Document.Content.Alike

/-- Alike contents give the same. -/
def Respects {α : Type} (f : Content → α) : Prop := ∀ ⦃c c'⦄, c.Alike c' → f c = f c'

namespace Respects

variable {α : Type} {f : Content → α} (hf : Respects f) {c c' : Content} (h : c.Alike c')
include hf h

theorem field? (key : String) : (c.field? key).map f = (c'.field? key).map f :=
  map_eq_of_rel (fun _ _ hcd => hf hcd) (h.field? key)

theorem asList? : c.asList?.map (·.map f) = c'.asList?.map (·.map f) := by
  cases h with
  | refl => rfl
  | list h => exact congrArg some (map_eq_of_forall₂ (fun _ _ hcd => hf hcd) h)
  | record _ => rfl

theorem list? (key : String) : (c.list? key).map (·.map f) = (c'.list? key).map (·.map f) := by
  rw [Content.list?, Content.list?, Option.map_bind, Option.map_bind]
  exact bind_eq_of_rel (fun _ _ => hf.asList?) (h.field? key)

theorem items (key : String) : (itemsOf c key).map f = (itemsOf c' key).map f := by
  have hitems : ∀ d : Content, (itemsOf d key).map f = ((d.list? key).map (·.map f)).getD [] := by
    intro d
    cases hd : d.list? key <;> simp [itemsOf, hd]
  rw [hitems, hitems, hf.list? h]

end Respects

/-! ## One model from alike contents -/

theorem respects_attribute : Respects Attribute.ofContent := by
  intro c c' h
  simp only [Attribute.ofContent, h.nameOf, h.text?]

theorem respects_step : Respects ActionStep.ofContent := by
  intro c c' h
  simp only [ActionStep.ofContent, h.text?]

theorem respects_parameter : Respects Parameter.ofContent := by
  intro c c' h
  simp only [Parameter.ofContent, h.nameOf, h.text?]

theorem respects_operation : Respects Operation.ofContent := by
  intro c c' h
  have hsteps : ∀ d : Content,
      (((d.list? "steps").or (d.list? "actions")).getD []).map ActionStep.ofContent =
      (((d.list? "steps").map (·.map ActionStep.ofContent)).or
        ((d.list? "actions").map (·.map ActionStep.ofContent))).getD [] := by
    intro d
    cases d.list? "steps" <;> cases d.list? "actions" <;> rfl
  simp only [Operation.ofContent, h.nameOf, respects_parameter.items h, hsteps,
    respects_step.list? h]

theorem respects_blockOperations : Respects blockOperations := by
  intro c c' h
  have hblock : ∀ d : Content, blockOperations d =
      ((d.field? "actionLanguage").map fun b =>
        (itemsOf b "operations").map Operation.ofContent).getD [] := by
    intro d
    unfold blockOperations
    cases d.field? "actionLanguage" <;> rfl
  have hoperations : Respects fun b => (itemsOf b "operations").map Operation.ofContent :=
    fun _ _ h => respects_operation.items h "operations"
  rw [hblock, hblock, hoperations.field? h]

theorem respects_logMessage? : Respects logMessage? := by
  intro c c' h
  simp only [logMessage?, isNone_eq_of_rel (h.field? "actionLanguage"), h.text?]

theorem respects_body : Respects TransitionBody.ofContent := by
  intro c c' h
  have hmessages : ∀ cs :
      List Content, cs.filterMap logMessage? = (cs.map logMessage?).filterMap id := by
    intro cs
    rw [List.filterMap_map]
    rfl
  simp only [TransitionBody.ofContent, respects_blockOperations h, List.flatMap_def,
    respects_blockOperations.items h, hmessages, respects_logMessage?.items h]

theorem respects_transition : Respects Transition.ofContent := by
  intro c c' h
  simp only [Transition.ofContent, h.nameOf, respects_body h]

theorem respects_machine : Respects StateMachine.ofContent := by
  intro c c' h
  have hname : Respects (nameOf · "name") := fun _ _ h => h.nameOf "name"
  simp only [StateMachine.ofContent, h.text?, hname.items h, respects_transition.items h]

theorem respects_classDecl : Respects ClassDecl.ofContent := by
  intro c c' h
  simp only [ClassDecl.ofContent, h.nameOf, h.text?, h.flag?, respects_attribute.items h,
    respects_machine.field? h]

theorem respects_participant : Respects Participant.ofContent := by
  intro c c' h
  simp only [Participant.ofContent, h.nameOf, h.text?]

theorem respects_association : Respects AssociationClass.ofContent := by
  intro c c' h
  simp only [AssociationClass.ofContent, h.nameOf, h.text?, respects_attribute.items h]

theorem respects_relationship : Respects Relationship.ofContent := by
  intro c c' h
  simp only [Relationship.ofContent, h.nameOf, h.text?, respects_participant.items h,
    respects_association.field? h]

theorem respects_domain : Respects Domain.ofContent := by
  intro c c' h
  simp only [Domain.ofContent, h.nameOf, respects_classDecl.items h, respects_relationship.items h]

theorem respects_model : Respects Model.ofContent := by
  intro c c' h
  simp only [Model.ofContent, h.nameOf, respects_domain.items h]

/-! ## Texts of model documents -/

theorem not_allBlank_of_mem {text : String} {c : Char} (h : c ∈ text.toList)
    (hc : Text.isBlank c = false) : Text.allBlank text = false := by
  rw [Text.allBlank, List.all_eq_false]
  exact ⟨c, h, by simp [hc]⟩

theorem Document.Tree.isNull_of_content? {κ : Type} {S : Schema κ} {k : κ} {depth : Nat} {t : Tree}
    {c : Content} (h : t.content? S depth (.record k) = some c) : t.isNull = false := by
  cases t with
  | scalar token => cases depth <;> cases h
  | list items => rfl
  | object members => rfl

theorem Document.Tree.Documents.not_allBlank {κ : Type} {S : Schema κ} {k : κ} {depth : Nat}
    {t : Tree}
    {text : String} {c : Content} (h : t.Documents text.toList)
    (hc : t.content? S depth (.record k) = some c) : Text.allBlank text = false := by
  obtain ⟨b, u, b', _, hu, _, htext⟩ := h
  cases hu with
  | scalar token => cases depth <;> cases hc
  | list _ => exact not_allBlank_of_mem (c := '[') (by simp [htext]) (by decide)
  | object _ => exact not_allBlank_of_mem (c := '\x7b') (by simp [htext]) (by decide)

theorem parse_eq_ok_iff {text : String} {m : Model} : Model.parse text = .ok m ↔
    Text.allBlank text = false ∧
      ∃ c, (modelSchema.read .model text.toList).toOption = some (some c) ∧ m = .ofContent c := by
  unfold Model.parse
  split
  · rename_i hblank
    simp [hblank]
  · rename_i hblank
    cases modelSchema.read .model text.toList with
    | error f => simp [Except.toOption]
    | ok content? =>
      cases content? with
      | none => simp [Except.toOption]
      | some c => simp [Except.toOption, hblank, eq_comm]

/-- Reading a model from a text of a tree is reading it from the tree. -/
theorem Document.Tree.Documents.parse_eq_ok_iff {t : Tree} {text : String}
    (h : t.Documents text.toList)
    {m : Model} : Model.parse text = .ok m ↔
      ∃ c, t.content? modelSchema depthLimit (.record .model) = some c ∧ m = .ofContent c := by
  rw [ExecUml.parse_eq_ok_iff, h.toOption_read modelSchema .model, optional?]
  constructor
  · rintro ⟨_, c, hc, rfl⟩
    split at hc
    · cases hc
    · obtain ⟨d, hd, heq⟩ := Option.bind_eq_some_iff.mp hc
      cases heq
      exact ⟨c, hd, rfl⟩
  · rintro ⟨c, hc, rfl⟩
    refine ⟨h.not_allBlank hc, c, ?_, rfl⟩
    rw [if_neg (by simp [Tree.isNull_of_content? hc]), hc]
    rfl

/-- What is read stays alike along any number of changes, and so the model stays the same. -/
theorem content?_of_changes {t t' : Tree} {c : Content}
    (h : Relation.ReflTransGen (UnseenChange modelSchema (.record .model)) t t')
    (hc : t.content? modelSchema depthLimit (.record .model) = some c) :
    ∃ c', t'.content? modelSchema depthLimit (.record .model) = some c' ∧
      Model.ofContent c = Model.ofContent c' := by
  induction h with
  | refl => exact ⟨c, hc, rfl⟩
  | tail _ hchange ih =>
    obtain ⟨c₁, hc₁, hmodel⟩ := ih
    obtain ⟨c₂, hc₂, halike⟩ := hchange.content? hc₁
    exact ⟨c₂, hc₂, hmodel.trans (respects_model halike)⟩

/-- A text that is read as a model is the text of a tree; and from every text of that tree, changed
in any of its records by leaving out members that are null or unknown and by putting members in
another order, the same model is read. -/
theorem parse_ignores_unseen_changes {text : String} {m : Model} (h : Model.parse text = .ok m) :
    (∃ t : Tree, t.Documents text.toList) ∧
      ∀ t t' : Tree, t.Documents text.toList →
        Relation.ReflTransGen (UnseenChange modelSchema (.record .model)) t t' →
          (∃ text' : String, t'.Documents text'.toList) ∧
            ∀ text' : String, t'.Documents text'.toList → Model.parse text' = .ok m := by
  refine ⟨?_, fun t t' ht hchanges => ⟨?_, fun text' ht' => ?_⟩⟩
  · obtain ⟨_, c, hread, _⟩ := parse_eq_ok_iff.mp h
    exact exists_documents_of_read hread
  · refine ⟨String.ofList t'.plain, ?_⟩
    rw [String.toList_ofList]
    exact t'.documents_plain
  · obtain ⟨c, hc, rfl⟩ := ht.parse_eq_ok_iff.mp h
    obtain ⟨c', hc', hmodel⟩ := content?_of_changes hchanges hc
    exact ht'.parse_eq_ok_iff.mpr ⟨c', hc', hmodel⟩

namespace House

def fullText : String :=
  "\x7b\"remark\":[1],\"version\":2,\"domains\":[\x7b\"key_letter\":null,\"name\":\"Room\"\x7d]\x7d"

def shortText : String := "\x7b\"domains\":[\x7b\"name\":\"Room\"\x7d],\"version\":2\x7d"

def roomModel : Model := ⟨"", "2", [⟨"Room", "", [], []⟩]⟩

def remarkMember : Key × Tree :=
  (⟨"remark\"".toList, by decide +kernel⟩, .list [.scalar ⟨['1'], by decide +kernel⟩])

def versionMember : Key × Tree :=
  (⟨"version\"".toList, by decide +kernel⟩, .scalar ⟨['2'], by decide +kernel⟩)

def domainsKey : Key := ⟨"domains\"".toList, by decide +kernel⟩

def letterMember : Key × Tree :=
  (⟨"key_letter\"".toList, by decide +kernel⟩, .scalar ⟨"null".toList, by decide +kernel⟩)

def nameMember : Key × Tree :=
  (⟨"name\"".toList, by decide +kernel⟩, .scalar ⟨"\"Room\"".toList, by decide +kernel⟩)

def rooms (members : List (Key × Tree)) : Key × Tree := (domainsKey, .list [.object members])

def fullTree : Tree := .object [remarkMember, versionMember, rooms [letterMember, nameMember]]

def shortTree : Tree := .object [rooms [nameMember], versionMember]

theorem parse_fullText : Model.parse fullText = .ok roomModel := ok_of_toOption (by decide +kernel)

theorem field?_remark : remarkMember.1.text?.bind (modelSchema.field? .model) = none := by
  have hname : remarkMember.1.text? = some "remark" := by decide +kernel
  rw [hname]
  rfl

theorem field?_domains : domainsKey.text?.bind (modelSchema.field? .model) =
    some (RecordKind.listField "domains" .domain) := by
  have hname : domainsKey.text? = some "domains" := by decide +kernel
  rw [hname]
  rfl

/-- An unknown member and, in a domain, a null one are left out, and two members change places. -/
theorem room_read_from_short_text :
    Model.parse fullText = .ok roomModel ∧ Model.parse shortText = .ok roomModel := by
  have hdrop : UnseenChange modelSchema (.record .model) fullTree
      (.object [versionMember, rooms [letterMember, nameMember]]) :=
    .drop [] (.inr field?_remark)
  have hroom : UnseenChange modelSchema (.list .domain) (.list [.object [letterMember, nameMember]])
      (.list [.object [nameMember]]) :=
    .item [] (.drop [] (.inl rfl))
  have hmember : UnseenChange modelSchema (.record .model)
      (.object [versionMember, rooms [letterMember, nameMember]])
      (.object [versionMember, rooms [nameMember]]) :=
    .member [versionMember] field?_domains hroom
  have hswap : UnseenChange modelSchema (.record .model)
      (.object [versionMember, rooms [nameMember]]) shortTree :=
    .permute (.swap ..)
  have hfull : fullTree.Documents fullText.toList := fullTree.documents_plain
  have hshort : shortTree.Documents shortText.toList := shortTree.documents_plain
  refine ⟨parse_fullText, ?_⟩
  exact ((parse_ignores_unseen_changes parse_fullText).2 fullTree shortTree hfull
    (.tail (.tail (.single hdrop) hmember) hswap)).2 shortText hshort

end House

end ExecUml
