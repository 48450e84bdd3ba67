import ExecUml.Proofs.TreeContent
import Mathlib.Data.List.DropRight

/-!
# Accepted texts are texts of trees

Whatever a reader accepts is the text of a tree, also where the reader only skips it. So the texts
that a document reader accepts are among those of trees, about which the theory of trees says all.
-/

set_option autoImplicit false

namespace ExecUml.Document

theorem length_of_outcome {k : Nat} {α : Type} {s r : List Char} {v : α}
    {x : Except Fault (Taken k α s)}
    (h : outcome x = some (v, r)) : r.length + k ≤ s.length := by
  cases x with
  | error f => simp at h
  | ok y =>
    cases h
    exact y.used

/-! ## Between brackets -/

/-- Where the text of the next entry starts: behind the comma, unless it is the first. -/
def EntryAt (first : Bool) (s r : List Char) : Prop :=
  if first then r = skipSpace s else ∃ q, skipSpace s = ',' :: q ∧ r = skipSpace q

theorem nextElement_cases {skipping first closed : Bool} {s r : List Char}
    (h : turn (nextElement skipping first s) = some (closed, r)) :
    (closed = true ∧ skipSpace s = ']' :: r) ∨ (closed = false ∧ EntryAt first s r) := by
  unfold nextElement at h
  split at h
  · simp [turn] at h
  · rename_i c q hs
    split at h
    · rename_i hc
      cases h
      exact .inl ⟨rfl, by rw [hs, hc]⟩
    · split at h
      · rename_i hfirst
        cases h
        exact .inr ⟨rfl, by simp [EntryAt, hfirst, hs]⟩
      · rename_i hfirst
        split at h
        · rename_i hcomma
          split at h
          · simp [turn] at h
          · rename_i d q' hq
            split at h
            · simp [turn] at h
            · cases h
              exact .inr ⟨rfl, by simp [EntryAt, hfirst, hs, hcomma, hq]⟩
        · simp [turn] at h

theorem nextMember_cases {skipping first closed : Bool} {s r : List Char}
    (h : turn (nextMember skipping first s) = some (closed, r)) :
    (closed = true ∧ skipSpace s = '\x7d' :: r) ∨
      (closed = false ∧ EntryAt first s r ∧ ∃ q, r = '"' :: q) := by
  unfold nextMember at h
  split at h
  · simp [turn] at h
  · rename_i c q hs
    split at h
    · rename_i hc
      cases h
      exact .inl ⟨rfl, by rw [hs, hc]⟩
    · split at h
      · rename_i hfirst
        split at h
        · rename_i hquote
          cases h
          exact .inr ⟨rfl, by simp [EntryAt, hfirst, hs], q, by rw [hquote]⟩
        · simp [turn] at h
      · rename_i hfirst
        split at h
        · rename_i hcomma
          split at h
          · simp [turn] at h
          · rename_i d q' hq
            split at h
            · rename_i hquote
              cases h
              exact .inr ⟨rfl, by simp [EntryAt, hfirst, hs, hcomma, hq], q', by rw [hquote]⟩
            · split at h
              · simp [turn] at h
              · simp [turn] at h
        · simp [turn] at h

theorem endList_cases {s r : List Char} {u : Unit} (h : outcome (endList s) = some (u, r)) :
    skipSpace s = ']' :: r := by
  unfold endList at h
  dsimp only at h
  split at h
  · simp at h
  · rename_i q hs
    cases h
    exact hs
  · split at h
    · simp at h
    · simp at h
  · simp at h

theorem length_of_entryAt {first : Bool} {s r : List Char} (h : EntryAt first s r) :
    r.length ≤ s.length := by
  have hs := length_skipSpace_le s
  unfold EntryAt at h
  split at h
  · rw [h]
    exact hs
  · obtain ⟨q, hq, rfl⟩ := h
    have hle := length_skipSpace_le q
    rw [hq, List.length_cons] at hs
    omega

section Enclosed

variable {α : Type} {P : α → List Char → Prop} {close : Char} {first : Bool} {s r : List Char}

theorem enclosed_nil (h : skipSpace s = close :: r) :
    ∃ t, Enclosed P close first [] t ∧ s = t ++ r := by
  obtain ⟨b, hb, hs⟩ := exists_space s
  refine ⟨b ++ [close], .close hb, ?_⟩
  rw [List.append_assoc, List.singleton_append, ← h]
  exact hs

theorem enclosed_cons {x : α} {xs : List α} {b t u q : List Char} (hq : EntryAt first s q)
    (hb : AllSpace b) (hx : P x t) (hxs : Enclosed P close false xs u)
    (heq : q = b ++ (t ++ (u ++ r))) :
    ∃ w, Enclosed P close first (x :: xs) w ∧ s = w ++ r := by
  obtain ⟨b₁, hb₁, hs⟩ := exists_space s
  cases first with
  | true =>
    have hq : q = skipSpace s := hq
    refine ⟨b₁ ++ b ++ (t ++ u), .first (hb₁.append hb) hx hxs, ?_⟩
    rw [hs, ← hq, heq]
    simp only [List.append_assoc]
  | false =>
    obtain ⟨p, hp, rfl⟩ : ∃ p, skipSpace s = ',' :: p ∧ q = skipSpace p := hq
    obtain ⟨b₂, hb₂, hp₂⟩ := exists_space p
    refine ⟨b₁ ++ ',' :: (b₂ ++ b ++ (t ++ u)), .next hb₁ (hb₂.append hb) hx hxs, ?_⟩
    rw [hs, hp, hp₂, heq]
    simp only [List.append_assoc, List.cons_append]

end Enclosed

section Elements

variable {α β : Type} {P : β → List Char → Prop} {read : Reader α} (skipping : Bool)

theorem enclosed_of_readElements
    (hread : ∀ s v r, outcome (read s) = some (v, r) →
      ∃ x b t, AllSpace b ∧ P x t ∧ s = b ++ (t ++ r))
    {first : Bool} {s r : List Char} {vs : List α}
    (h : outcome (readElements skipping read first s) = some (vs, r)) :
    ∃ xs t, Enclosed P ']' first xs t ∧ s = t ++ r := by
  -- every round takes at least one character
  induction hn : s.length using Nat.strongRecOn generalizing first s vs with
  | ind n ih =>
    rw [outcome_readElements_eq] at h
    obtain ⟨⟨closed, q⟩, hturn, h⟩ := Option.bind_eq_some_iff.mp h
    rcases nextElement_cases hturn with ⟨rfl, hs⟩ | ⟨rfl, hq⟩
    · cases h
      exact ⟨[], enclosed_nil hs⟩
    · rw [if_neg Bool.false_ne_true] at h
      obtain ⟨⟨v, q₁⟩, hv, h⟩ := Option.bind_eq_some_iff.mp h
      obtain ⟨⟨ws, q₂⟩, hws, h⟩ := Option.bind_eq_some_iff.mp h
      cases h
      obtain ⟨x, b, t, hb, hx, heq⟩ := hread q v q₁ hv
      have hlt : q₁.length < n := by
        have hused : q₁.length + 1 ≤ q.length := length_of_outcome hv
        have hentry := length_of_entryAt hq
        omega
      obtain ⟨xs, u, hxs, rfl⟩ := ih q₁.length hlt hws rfl
      obtain ⟨w, hw⟩ := enclosed_cons hq hb hx hxs heq
      exact ⟨x :: xs, w, hw⟩

end Elements

section Members

variable {σ β : Type} {P : β → List Char → Prop} {read : σ → Reader σ} (skipping : Bool)

theorem enclosed_of_readMembers
    (hread : ∀ acc q acc' r, outcome (read acc ('"' :: q)) = some (acc', r) →
      ∃ x t, P x t ∧ '"' :: q = t ++ r)
    {first : Bool} {acc acc₁ : σ} {s r : List Char}
    (h : outcome (readMembers skipping read first acc s) = some (acc₁, r)) :
    ∃ xs t, Enclosed P '\x7d' first xs t ∧ s = t ++ r := by
  induction hn : s.length using Nat.strongRecOn generalizing first acc s with
  | ind n ih =>
    rw [outcome_readMembers_eq] at h
    obtain ⟨⟨closed, q⟩, hturn, h⟩ := Option.bind_eq_some_iff.mp h
    rcases nextMember_cases hturn with ⟨rfl, hs⟩ | ⟨rfl, hq, p, rfl⟩
    · cases h
      exact ⟨[], enclosed_nil hs⟩
    · rw [if_neg Bool.false_ne_true] at h
      obtain ⟨⟨acc₂, q₁⟩, hv, h⟩ := Option.bind_eq_some_iff.mp h
      obtain ⟨x, t, hx, heq⟩ := hread acc p acc₂ q₁ hv
      have hlt : q₁.length < n := by
        have hused : q₁.length + 1 ≤ ('"' :: p).length := length_of_outcome hv
        have hentry := length_of_entryAt hq
        omega
      obtain ⟨xs, u, hxs, rfl⟩ := ih q₁.length hlt h rfl
      obtain ⟨w, hw⟩ := enclosed_cons hq allSpace_nil hx hxs heq
      exact ⟨x :: xs, w, hw⟩

end Members

/-! ## Members and scalars -/

/-- The text up to `r` is that of a tree, with blanks in front. -/
def HasTree (s r : List Char) : Prop := ∃ t b u, AllSpace b ∧ Tree.Spells t u ∧ s = b ++ (u ++ r)

theorem HasTree.of_skipSpace {s r : List Char} (h : HasTree (skipSpace s) r) : HasTree s r := by
  obtain ⟨b₁, hb₁, hs⟩ := exists_space s
  obtain ⟨t, b, u, hb, hu, heq⟩ := h
  refine ⟨t, b₁ ++ b, u, hb₁.append hb, hu, ?_⟩
  rw [hs, heq, List.append_assoc]

theorem hasTree_list {items : List Tree} {t r : List Char}
    (h : Enclosed Tree.Spells ']' true items t) :
    HasTree ('[' :: (t ++ r)) r :=
  ⟨.list items, [], '[' :: t, allSpace_nil, .list h, rfl⟩

theorem hasTree_object {members : List (Key × Tree)} {t r : List Char}
    (h : Enclosed (MemberText Tree.Spells) '\x7d' true members t) :
    HasTree ('\x7b' :: (t ++ r)) r :=
  ⟨.object members, [], '\x7b' :: t, allSpace_nil, .object h, rfl⟩

theorem hasTree_of_skipScalar {s r : List Char} {u : Unit}
    (h : outcome (skipScalar s) = some (u, r)) :
    HasTree s r := by
  obtain ⟨t, rfl, htake⟩ := takes_of_skipScalar h
  have htoken := htake [] (ends_nil r)
  rw [List.append_nil] at htoken
  exact ⟨.scalar ⟨t, htoken⟩, [], t, allSpace_nil, .scalar ⟨t, htoken⟩, rfl⟩

theorem hasTree_of_readScalar {s r : List Char} {v : Scalar}
    (h : outcome (readScalar s) = some (v, r)) :
    HasTree s r := by
  obtain ⟨t, rfl, _, hskip⟩ := takes_of_readScalar h
  exact hasTree_of_skipScalar (hskip r (.inr rfl))

theorem space_of_takeColon {s r : List Char} {u : Unit} (h : outcome (takeColon s) = some (u, r)) :
    ∃ b, AllSpace b ∧ s = b ++ ':' :: r := by
  obtain ⟨b, hb, hs⟩ := exists_space s
  unfold takeColon at h
  split at h
  · simp at h
  · rename_i c q hcons
    split at h
    · rename_i hc
      cases h
      exact ⟨b, hb, by rw [← hc, ← hcons]; exact hs⟩
    · simp at h

/-- A key, a colon and the text of a tree are a member. -/
theorem member_of_parts {q p₁ p₂ r : List Char} {u v : Unit}
    (hkey : outcome (skipChars q) = some (u, p₁))
    (hcolon : outcome (takeColon p₁) = some (v, p₂)) (hvalue : HasTree p₂ r) :
    ∃ m t, MemberText Tree.Spells m t ∧ '"' :: q = t ++ r := by
  obtain ⟨k, rfl, hgrab⟩ := grabs_of_skipChars hkey
  have hk := hgrab []
  rw [List.append_nil] at hk
  obtain ⟨b, hb, rfl⟩ := space_of_takeColon hcolon
  obtain ⟨t, b₁, w, hb₁, hw, rfl⟩ := hvalue
  refine ⟨(⟨k, hk⟩, t), _, .mk hb hb₁ hw, ?_⟩
  simp only [List.cons_append, List.append_assoc]

/-! ## Skipped values -/

theorem member_of_skipMember {skip : Reader Unit}
    (hskip : ∀ s u r, outcome (skip s) = some (u, r) → HasTree s r) {q r : List Char} {u : Unit}
    (h : outcome (skipMember skip ('"' :: q)) = some (u, r)) :
    ∃ m t, MemberText Tree.Spells m t ∧ '"' :: q = t ++ r := by
  rw [outcome_skipMember] at h
  obtain ⟨⟨_, p₁⟩, hkey, h⟩ := Option.bind_eq_some_iff.mp h
  obtain ⟨⟨_, p₂⟩, hcolon, h⟩ := Option.bind_eq_some_iff.mp h
  exact member_of_parts hkey hcolon (hskip _ _ _ h)

theorem hasTree_of_skipNested {n : Nat} {s r : List Char} {u : Unit}
    (h : outcome (skipNested n s) = some (u, r)) : HasTree s r := by
  induction n generalizing s r u with
  | zero =>
    unfold skipNested at h
    dsimp only at h
    split at h
    · simp at h
    · simp at h
  | succ n ih =>
    apply HasTree.of_skipSpace
    cases hs : skipSpace s with
    | nil =>
      unfold skipNested at h
      dsimp only at h
      split at h
      · simp at h
      · rename_i hcons
        simp [hs] at hcons
    | cons c q =>
      by_cases hlist : c = '['
      · subst hlist
        rw [outcome_skipNested_list hs] at h
        obtain ⟨⟨vs, r₁⟩, helements, h⟩ := Option.bind_eq_some_iff.mp h
        cases h
        obtain ⟨items, t, ht, rfl⟩ := enclosed_of_readElements true (fun _ _ _ => ih) helements
        exact hasTree_list ht
      · by_cases hobject : c = '\x7b'
        · subst hobject
          rw [outcome_skipNested_object hs] at h
          obtain ⟨members, t, ht, rfl⟩ := enclosed_of_readMembers true
            (fun _ _ _ _ => member_of_skipMember fun _ _ _ => ih) h
          exact hasTree_object ht
        · rw [outcome_skipNested_scalar hs hlist hobject] at h
          exact hasTree_of_skipScalar h

/-! ## Contents -/

theorem hasTree_of_readTextField {depth : Nat} {c : Char} {q r : List Char} {v : Content}
    (hs : skipSpace (c :: q) = c :: q) (h : outcome (readTextField depth (c :: q)) = some (v, r)) :
    HasTree (c :: q) r := by
  by_cases hbracket : c = '[' ∨ c = '\x7b'
  · rw [outcome_readTextField_bracket hs hbracket] at h
    cases h
  · obtain ⟨hlist, hobject⟩ := not_or.mp hbracket
    rw [outcome_readTextField, outcome_readValue_scalar hs hlist hobject, Option.bind_assoc] at h
    obtain ⟨⟨x, r₁⟩, hscalar, h⟩ := Option.bind_eq_some_iff.mp h
    dsimp only [Option.bind_some] at h
    obtain ⟨_, _, h⟩ := Option.bind_eq_some_iff.mp h
    cases h
    exact hasTree_of_readScalar hscalar

theorem hasTree_of_readFlagField {s r : List Char} {v : Content}
    (h : outcome (readFlagField s) = some (v, r)) : HasTree s r := by
  rw [outcome_readFlagField] at h
  obtain ⟨⟨x, r₁⟩, hscalar, h⟩ := Option.bind_eq_some_iff.mp h
  obtain ⟨_, _, h⟩ := Option.bind_eq_some_iff.mp h
  cases h
  exact hasTree_of_readScalar hscalar

theorem hasTree_of_readOptional {α : Type} {read : Reader α}
    (hread : ∀ s v r, outcome (read s) = some (v, r) → HasTree s r) {s r : List Char} {v : Option α}
    (h : outcome (readOptional read s) = some (v, r)) : HasTree s r := by
  apply HasTree.of_skipSpace
  by_cases hnull : ∃ q, skipSpace s = 'n' :: q
  · obtain ⟨q, hq⟩ := hnull
    rw [outcome_readOptional_null hq] at h
    obtain ⟨⟨u, r₁⟩, hword, h⟩ := Option.bind_eq_some_iff.mp h
    cases h
    rw [← outcome_skipScalar_null] at hword
    rw [hq]
    exact hasTree_of_skipScalar hword
  · rw [outcome_readOptional_some (not_exists.mp hnull)] at h
    obtain ⟨⟨x, r₁⟩, hx, h⟩ := Option.bind_eq_some_iff.mp h
    cases h
    exact hread _ _ _ hx

section Record

variable {κ : Type} {read : FieldType κ → Reader (Option Content)}
  (hread : ∀ type s v r, outcome (read type s) = some (v, r) → HasTree s r)
include hread

theorem member_of_readField (field? : String → Option (FieldDecl κ)) (acc : Filled) (q : List Char)
    (acc₁ : Filled) (r : List Char)
    (h : outcome (readField field? read acc ('"' :: q)) = some (acc₁, r)) :
    ∃ m t, MemberText Tree.Spells m t ∧ '"' :: q = t ++ r := by
  rw [outcome_readField, outcome_readText_quote, Option.bind_assoc] at h
  obtain ⟨⟨es, p₁⟩, hchars, h⟩ := Option.bind_eq_some_iff.mp h
  obtain ⟨k, hk, _, hgrab⟩ := grabs_of_readChars hchars
  have hkey := hgrab p₁
  rw [← hk] at hkey
  dsimp only [Option.bind_some] at h
  split at h
  · obtain ⟨⟨_, p₂⟩, hcolon, h⟩ := Option.bind_eq_some_iff.mp h
    obtain ⟨⟨_, p₃⟩, hskip, h⟩ := Option.bind_eq_some_iff.mp h
    cases h
    exact member_of_parts hkey hcolon (hasTree_of_skipNested hskip)
  · split at h
    · cases h
    · obtain ⟨⟨_, p₂⟩, hcolon, h⟩ := Option.bind_eq_some_iff.mp h
      obtain ⟨⟨_, p₃⟩, hvalue, h⟩ := Option.bind_eq_some_iff.mp h
      cases h
      exact member_of_parts hkey hcolon (hread _ _ _ _ hvalue)

theorem enclosed_of_readInOrder (fs : List (FieldDecl κ)) {first : Bool} {acc acc₁ : Filled}
    {s r : List Char} (h : outcome (readInOrder read first fs acc s) = some (acc₁, r)) :
    ∃ items t, Enclosed Tree.Spells ']' first items t ∧ s = t ++ r := by
  induction fs generalizing first acc s with
  | nil =>
    rw [outcome_readInOrder_nil] at h
    obtain ⟨⟨_, r₁⟩, hend, h⟩ := Option.bind_eq_some_iff.mp h
    cases h
    exact ⟨[], enclosed_nil (endList_cases hend)⟩
  | cons f fs ih =>
    rw [outcome_readInOrder_cons] at h
    obtain ⟨⟨closed, q⟩, hturn, h⟩ := Option.bind_eq_some_iff.mp h
    rcases nextElement_cases hturn with ⟨rfl, hs⟩ | ⟨rfl, hq⟩
    · cases h
      exact ⟨[], enclosed_nil hs⟩
    · rw [if_neg Bool.false_ne_true] at h
      obtain ⟨⟨v, q₁⟩, hv, h⟩ := Option.bind_eq_some_iff.mp h
      obtain ⟨x, b, t, hb, hx, heq⟩ := hread f.type q v q₁ hv
      obtain ⟨items, u, hitems, rfl⟩ := ih h
      obtain ⟨w, hw⟩ := enclosed_cons hq hb hx hitems heq
      exact ⟨x :: items, w, hw⟩

theorem hasTree_of_readRecord (S : Schema κ) (k : κ) {c : Char} {q r : List Char} {v : Content}
    (h : outcome (readRecord S k read (c :: q)) = some (v, r)) : HasTree (c :: q) r := by
  by_cases hlist : c = '['
  · subst hlist
    rw [outcome_readRecord_list] at h
    obtain ⟨⟨acc, r₁⟩, hfields, h⟩ := Option.bind_eq_some_iff.mp h
    cases h
    obtain ⟨items, t, ht, rfl⟩ := enclosed_of_readInOrder hread _ hfields
    exact hasTree_list ht
  · by_cases hobject : c = '\x7b'
    · subst hobject
      rw [outcome_readRecord_object] at h
      obtain ⟨⟨acc, r₁⟩, hfields, h⟩ := Option.bind_eq_some_iff.mp h
      cases h
      obtain ⟨members, t, ht, rfl⟩ :=
        enclosed_of_readMembers false (member_of_readField hread (S.field? k)) hfields
      exact hasTree_object ht
    · rw [outcome_readRecord_other S k read q hlist hobject] at h
      cases h

end Record

theorem hasTree_of_readList {read : Reader Content}
    (hread : ∀ s v r, outcome (read s) = some (v, r) → HasTree s r) {c : Char} {q r : List Char}
    {v : Content} (h : outcome (readList read (c :: q)) = some (v, r)) : HasTree (c :: q) r := by
  by_cases hlist : c = '['
  · subst hlist
    rw [outcome_readList] at h
    obtain ⟨⟨vs, r₁⟩, helements, h⟩ := Option.bind_eq_some_iff.mp h
    cases h
    obtain ⟨items, t, ht, rfl⟩ := enclosed_of_readElements false hread helements
    exact hasTree_list ht
  · rw [outcome_readList_other hlist] at h
    cases h

theorem outcome_readContent_nil {κ : Type} (S : Schema κ) (depth : Nat) (type : FieldType κ)
    {s : List Char} (h : skipSpace s = []) : outcome (readContent S depth type s) = none := by
  unfold readContent
  split
  · rfl
  · rename_i hcons
    simp [h] at hcons

theorem hasTree_of_readContent {κ : Type} (S : Schema κ) (depth : Nat) (type : FieldType κ)
    {s r : List Char} {v : Content} (h : outcome (readContent S depth type s) = some (v, r)) :
    HasTree s r := by
  induction depth using Nat.strongRecOn generalizing type s r v with
  | ind depth ih =>
    apply HasTree.of_skipSpace
    cases hs : skipSpace s with
    | nil =>
      rw [outcome_readContent_nil S depth type hs] at h
      cases h
    | cons c q =>
      rw [outcome_readContent_eq S depth type hs] at h
      cases type with
      | text =>
        have hcq : skipSpace (c :: q) = c :: q := by
          rw [← hs]
          exact List.dropWhile_idempotent isSpace s
        exact hasTree_of_readTextField hcq h
      | flag => exact hasTree_of_readFlagField h
      | list k =>
        cases depth with
        | zero => cases h
        | succ depth => exact hasTree_of_readList (fun _ _ _ => ih depth (Nat.lt_succ_self _) _) h
      | record k =>
        cases depth with
        | zero => cases h
        | succ depth =>
          have hfield : ∀ type s v r,
              outcome (readOptional (readContent S depth type) s) = some (v, r) → HasTree s r := by
            intro type s v r h
            exact hasTree_of_readOptional (fun _ _ _ => ih depth (Nat.lt_succ_self _) type) h
          exact hasTree_of_readRecord hfield S k h

/-- Every text that is read as a document is the text of a tree. -/
theorem exists_documents_of_read {κ : Type} {S : Schema κ} {k : κ} {text : List Char}
    {c : Option Content} (h : (S.read k text).toOption = some c) :
    ∃ t : Tree, t.Documents text := by
  rw [toOption_read] at h
  obtain ⟨⟨x, r⟩, hcontent, hrest⟩ := Option.bind_eq_some_iff.mp h
  obtain ⟨t, b, u, hb, hu, rfl⟩ :=
    hasTree_of_readOptional (fun _ _ _ => hasTree_of_readContent S depthLimit (.record k)) hcontent
  refine ⟨t, b, u, r, hb, hu, ?_, rfl⟩
  obtain ⟨b₁, hb₁, hr⟩ := exists_space r
  have hnil : skipSpace r = [] := by
    by_contra hne
    rw [if_neg hne] at hrest
    cases hrest
  rw [hnil, List.append_nil] at hr
  rw [hr]
  exact hb₁

end ExecUml.Document
