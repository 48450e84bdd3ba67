import ExecUml.Document.Schema
import ExecUml.Proofs.DocumentTrees

/-!
# The content of a tree

Reading a document of a given shape, said of its tree: blanks play no part, and what is read at one
place does not depend on what follows. Every reader does on the text of a tree what is said here of
the tree, failures included.
-/

set_option autoImplicit false

namespace ExecUml.Document

/-! ## Scalars and keys -/

def Token.scalar? (token : Token) : Option Scalar := (outcome (readScalar token.1)).map (·.1)

/-- The text that a key stands for; a key that is fit for skipping only has none. -/
def Key.text? (key : Key) : Option String := (outcome (readText ('"' :: key.1))).map (·.1)

/-- A text that is skipped as a whole is read as a whole, or not at all. -/
theorem outcome_replace {k : Nat} {α : Type} {read : (s : List Char) → Except Fault (Taken k α s)}
    {skip : Reader Unit} {E : List Char → Prop} {cs r : List Char}
    (htakes : ∀ s v r₀, outcome (read s) = some (v, r₀) → ∃ t, s = t ++ r₀ ∧ ∀ r₁, E r₁ ∨ r₁ = r₀ →
      outcome (read (t ++ r₁)) = some (v, r₁) ∧ outcome (skip (t ++ r₁)) = some ((), r₁))
    (hnil : E []) (hr : E r) (hcs : outcome (skip cs) = some ((), []))
    (hskip : outcome (skip (cs ++ r)) = some ((), r)) :
    outcome (read (cs ++ r)) = ((outcome (read cs)).map (·.1)).bind fun v => some (v, r) := by
  cases hread : outcome (read (cs ++ r)) with
  | none =>
    cases hwhole : outcome (read cs) with
    | none => rfl
    | some p =>
      obtain ⟨t, rfl, htake⟩ := htakes cs p.1 p.2 hwhole
      have hrest := (htake p.2 (.inr rfl)).2
      have hempty : p.2 = [] := by simpa using hrest.symm.trans hcs
      rw [hempty, List.append_nil, (htake r (.inl hr)).1] at hread
      simp at hread
  | some p =>
    obtain ⟨t, ht, htake⟩ := htakes (cs ++ r) p.1 p.2 hread
    have hrest := (htake p.2 (.inr rfl)).2
    rw [← ht] at hrest
    have hr₁ : p.2 = r := by simpa using hrest.symm.trans hskip
    obtain rfl : cs = t := by
      rw [hr₁] at ht
      exact List.append_cancel_right ht
    have hwhole := (htake [] (.inl hnil)).1
    rw [List.append_nil] at hwhole
    rw [hwhole, ← hr₁]
    rfl

theorem Token.outcome_readScalar (token : Token) {r : List Char} (hr : Delimited r) :
    outcome (readScalar (token.1 ++ r)) = token.scalar?.bind fun v => some (v, r) := by
  apply outcome_replace (E := Delimited) _ (ends_nil []).delimited hr token.2 (token.takes hr)
  intro s v r₀ h
  obtain ⟨t, hs, hread, hskip⟩ := takes_of_readScalar h
  exact ⟨t, hs, fun r₁ hr₁ => ⟨hread r₁ hr₁, hskip r₁ hr₁⟩⟩

theorem Key.outcome_readText (key : Key) (r : List Char) :
    outcome (readText ('"' :: (key.1 ++ r))) = key.text?.bind fun name => some (name, r) := by
  have hchars : outcome (readChars (key.1 ++ r)) =
      ((outcome (readChars key.1)).map (·.1)).bind fun es => some (es, r) := by
    apply outcome_replace (E := fun _ => True) _ trivial trivial key.2 (key.grabs r)
    intro s es r₀ h
    obtain ⟨t, hs, hread, hskip⟩ := grabs_of_readChars h
    exact ⟨t, hs, fun r₁ _ => ⟨hread r₁, hskip r₁⟩⟩
  rw [Key.text?, outcome_readText_quote, outcome_readText_quote, hchars]
  cases outcome (readChars key.1) <;> rfl

/-! ## Contents -/

/-- The content of a scalar at a field for text. -/
def Scalar.asContent? : Scalar → Option Content
  | .text s => some (.text s)
  | .number n => some (.text n.text)
  | .flag b => some (.text (flagText b))
  | .null => none

def Scalar.asFlag? : Scalar → Option Content
  | .flag b => some (.flag b)
  | _ => none

def Tree.isNull : Tree → Bool
  | .scalar token => token.1 == ['n', 'u', 'l', 'l']
  | _ => false

/-- What a field holds: nothing if the value is null. -/
def optional? (content? : Tree → Option Content) (t : Tree) : Option (Option Content) :=
  if t.isNull then some none else (content? t).bind fun c => some (some c)

section Record

variable {κ : Type} (read : FieldType κ → Tree → Option (Option Content))

/-- One more member of an object that is read as a record. -/
def fieldStep (field? : String → Option (FieldDecl κ)) (acc : Filled) (m : Key × Tree) :
    Option Filled :=
  m.1.text?.bind fun name =>
    match field? name with
    | none => some acc
    | some f =>
      if acc.seen.contains f.key then none
      else (read f.type m.2).bind fun c => some (acc.put f.key c)

/-- The fields of a record that is written as a list. -/
def inOrder? : List (FieldDecl κ) → Filled → List Tree → Option Filled
  | _, acc, [] => some acc
  | [], _, _ :: _ => none
  | f :: fs, acc, t :: ts => (read f.type t).bind fun c => inOrder? fs (acc.put f.key c) ts

end Record

def Tree.content? {κ : Type} (S : Schema κ) : Nat → FieldType κ → Tree → Option Content
  | _, .text, .scalar token => token.scalar?.bind Scalar.asContent?
  | _, .flag, .scalar token => token.scalar?.bind Scalar.asFlag?
  | depth + 1, .list k, .list items =>
    (items.mapM (content? S depth (.record k))).bind fun cs => some (.list cs)
  | depth + 1, .record k, .list items =>
    (inOrder? (fun type => optional? (content? S depth type)) (S.fields k) ⟨[], []⟩ items).bind
      fun x => some (.record x.members)
  | depth + 1, .record k, .object members =>
    (members.foldlM (fieldStep (fun type => optional? (content? S depth type)) (S.field? k))
      ⟨[], []⟩).bind fun x => some (.record x.members)
  | _, _, _ => none

/-! ## Fields for text and flags -/

theorem outcome_readValue_scalar {depth : Nat} {s r : List Char} {c : Char}
    (h : skipSpace s = c :: r)
    (hlist : c ≠ '[') (hobject : c ≠ '\x7b') : outcome (readValue depth s) =
      (outcome (readScalar (c :: r))).bind fun p => some (.scalar p.1, p.2) := by
  unfold readValue
  dsimp only
  split
  · rename_i hnil
    simp [h] at hnil
  · rename_i d q hcons
    cases h.symm.trans hcons
    cases depth with
    | zero =>
      dsimp only
      rw [if_neg (by simp [hlist, hobject])]
      exact outcome_bind _ fun _ => rfl
    | succ depth =>
      dsimp only
      rw [if_neg hlist, if_neg hobject]
      exact outcome_bind _ fun _ => rfl

/-- A value that starts with a bracket is no scalar. -/
theorem not_scalar_of_readValue {depth : Nat} {s r r' : List Char} {c : Char} {v : Scalar}
    (h : skipSpace s = c :: r) (hc : c = '[' ∨ c = '\x7b') :
    outcome (readValue depth s) ≠ some (.scalar v, r') := by
  unfold readValue
  dsimp only
  split
  · simp
  · rename_i d q hcons
    cases h.symm.trans hcons
    cases depth with
    | zero =>
      dsimp only
      rw [if_pos (by simpa using hc)]
      simp
    | succ depth =>
      dsimp only
      split
      · rw [outcome_bind (g := fun p => some (.list p.1, p.2)) _ fun _ => rfl]
        simp [Option.bind_eq_some_iff]
      · rename_i hlist
        rw [if_pos (hc.resolve_left hlist),
          outcome_bind (g := fun p => some (.object p.1, p.2)) _ fun _ => rfl]
        simp [Option.bind_eq_some_iff]

theorem outcome_readTextField (depth : Nat) (s : List Char) :
    outcome (readTextField depth s) = (outcome (readValue depth s)).bind fun p =>
      match p.1 with
      | .scalar v => v.asContent?.bind fun c => some (c, p.2)
      | _ => none := by
  apply outcome_bind
  rintro ⟨v, r, hr⟩
  cases v with
  | scalar v => cases v <;> rfl
  | list items => rfl
  | object members => rfl

theorem outcome_wrongKind {k : Nat} {α : Type} {t : List Char} (expected : String) (s : List Char) :
    outcome (wrongKind expected s : Except Fault (Taken k α t)) = none := by
  unfold wrongKind
  split
  · rfl
  · rfl
  · cases readScalar s <;> rfl

theorem asFlag?_of_front {c : Char} {q : List Char} {p : Scalar × List Char}
    (h : outcome (readScalar (c :: q)) = some p) (hyes : c ≠ 't') (hno : c ≠ 'f') :
    p.1.asFlag? = none := by
  obtain ⟨_, _, heq, hc⟩ := front_of_readScalar h
  cases heq
  cases hc with
  | null =>
    rw [outcome_readScalar_null] at h
    obtain ⟨_, _, ⟨⟩⟩ := Option.bind_eq_some_iff.mp h
    rfl
  | yes => exact absurd rfl hyes
  | no => exact absurd rfl hno
  | minus =>
    rw [outcome_readScalar_minus] at h
    obtain ⟨_, _, ⟨⟩⟩ := Option.bind_eq_some_iff.mp h
    rfl
  | digit hc =>
    rw [outcome_readScalar_digit q hc] at h
    obtain ⟨_, _, ⟨⟩⟩ := Option.bind_eq_some_iff.mp h
    rfl
  | quote =>
    rw [outcome_readScalar_quote] at h
    obtain ⟨_, _, ⟨⟩⟩ := Option.bind_eq_some_iff.mp h
    rfl

theorem outcome_readFlagField (s : List Char) :
    outcome (readFlagField s) = (outcome (readScalar s)).bind fun p =>
      p.1.asFlag?.bind fun c => some (c, p.2) := by
  unfold readFlagField
  split
  · rename_i r
    rw [outcome_readScalar_yes, Option.bind_assoc]
    exact outcome_bind _ fun _ => rfl
  · rename_i r
    rw [outcome_readScalar_no, Option.bind_assoc]
    exact outcome_bind _ fun _ => rfl
  · rename_i hyes hno
    rw [outcome_wrongKind]
    cases h : outcome (readScalar s) with
    | none => rfl
    | some p =>
      obtain ⟨c, q, rfl, _⟩ := front_of_readScalar h
      have hflag :=
        asFlag?_of_front h (fun hc => hyes q (by rw [hc])) (fun hc => hno q (by rw [hc]))
      rw [Option.bind_some, hflag]
      rfl

/-! ## Values that may be null -/

theorem outcome_readOptional_null {α : Type} {read : Reader α} {s r : List Char}
    (h : skipSpace s = 'n' :: r) : outcome (readOptional read s) =
      (outcome (takeWord ['u', 'l', 'l'] r)).bind fun p => some (none, p.2) := by
  unfold readOptional
  dsimp only
  split
  · rename_i q hcons
    cases h.symm.trans hcons
    exact outcome_bind _ fun _ => rfl
  · rename_i hne
    exact absurd h (hne r)

theorem outcome_readOptional_some {α : Type} {read : Reader α} {s : List Char}
    (h : ∀ r, skipSpace s ≠ 'n' :: r) : outcome (readOptional read s) =
      (outcome (read (skipSpace s))).bind fun p => some (some p.1, p.2) := by
  unfold readOptional
  dsimp only
  split
  · rename_i q hcons
    exact absurd hcons (h q)
  · exact outcome_bind _ fun _ => rfl

theorem Tree.Spells.eq_null {t : Tree} {u : List Char} (h : t.Spells u) (hnull : t.isNull = true) :
    u = ['n', 'u', 'l', 'l'] := by
  cases h with
  | scalar token => exact eq_of_beq hnull
  | list _ => simp [isNull] at hnull
  | object _ => simp [isNull] at hnull

theorem Tree.Spells.isNull {t : Tree} {u q : List Char} (h : t.Spells u) (hu : u = 'n' :: q) :
    t.isNull = true := by
  cases h with
  | scalar token =>
    have hskip := token.2
    rw [hu, outcome_skipScalar_null, outcome_takeWord_eq_some] at hskip
    simp [Tree.isNull, hu, hskip]
  | list _ => simp at hu
  | object _ => simp at hu

theorem Tree.Spells.outcome_readOptional {t : Tree} {u s r : List Char} (h : t.Spells u)
    (hs : skipSpace s = u ++ r) {read : Reader Content} {content? : Tree → Option Content}
    (hread : outcome (read (u ++ r)) = (content? t).bind fun c => some (c, r)) :
    outcome (readOptional read s) = (optional? content? t).bind fun c => some (c, r) := by
  cases hnull : t.isNull with
  | true =>
    rw [h.eq_null hnull, List.cons_append] at hs
    rw [outcome_readOptional_null hs, (outcome_takeWord_eq_some (u := ())).mpr rfl, optional?,
      if_pos hnull]
    rfl
  | false =>
    have hn : ∀ q, skipSpace s ≠ 'n' :: q := by
      intro q hq
      obtain ⟨c, p, rfl, _⟩ := h.front
      obtain rfl : c = 'n' := (List.cons.inj (hs.symm.trans hq)).1
      simp [h.isNull rfl] at hnull
    rw [outcome_readOptional_some hn, hs, hread, optional?, if_neg (by simp [hnull])]
    cases content? t <;> rfl

/-! ## Records and lists -/

theorem outcome_bind_settling {j : Nat} {α β : Type} {s t : List Char}
    (close : List Char → List Char)
    (x : Except Fault (Taken 1 α s)) {f : Taken 1 α s → Except Fault (Taken j β t)}
    {g : α × List Char → Option (β × List Char)} (h : ∀ y, outcome (f y) = g (y.value, y.rest)) :
    outcome (settling close x >>= f) = (outcome x).bind g := by
  cases x with
  | error f => rfl
  | ok y => exact h y

theorem outcome_readField {κ : Type} (field? : String → Option (FieldDecl κ))
    (read : FieldType κ → Reader (Option Content)) (acc : Filled) (s : List Char) :
    outcome (readField field? read acc s) = (outcome (readText s)).bind fun p =>
      match field? p.1 with
      | none =>
        (outcome (takeColon p.2)).bind fun q =>
          (outcome (skipValue q.2)).bind fun z => some (acc, z.2)
      | some f =>
        if acc.seen.contains f.key then none
        else (outcome (takeColon p.2)).bind fun q =>
          (outcome (read f.type q.2)).bind fun z => some (acc.put f.key z.1, z.2) := by
  apply outcome_bind
  intro y
  dsimp only
  cases field? y.value with
  | none => exact outcome_bind _ fun _ => outcome_bind _ fun _ => rfl
  | some f =>
    dsimp only
    split
    · rfl
    · exact outcome_bind _ fun _ => outcome_bind _ fun _ => rfl

theorem outcome_endList_close {s r : List Char} (h : skipSpace s = ']' :: r) :
    outcome (endList s) = some ((), r) := by
  unfold endList
  dsimp only
  split
  · rename_i hnil
    simp [h] at hnil
  · rename_i q hcons
    cases h.symm.trans hcons
    rfl
  · rename_i q hcons
    simp [h] at hcons
  · rename_i hclose _
    exact absurd h (hclose r)

theorem outcome_endList_other {s r : List Char} {c : Char} (h : skipSpace s = c :: r)
    (hc : c ≠ ']') :
    outcome (endList s) = none := by
  unfold endList
  dsimp only
  split
  · rfl
  · rename_i q hcons
    cases h.symm.trans hcons
    exact absurd rfl hc
  · split <;> rfl
  · rfl

theorem Enclosed.outcome_endList_nil {first : Bool} {s : List Char}
    (h : Enclosed Tree.Spells ']' first [] s) (r : List Char) :
    outcome (endList (s ++ r)) = some ((), r) := by
  cases h with
  | close hb =>
    apply outcome_endList_close
    rw [List.append_assoc, skipSpace_append hb]
    exact skipSpace_cons (by decide) r

theorem Enclosed.outcome_endList_cons {first : Bool} {x : Tree} {xs : List Tree} {s : List Char}
    (h : Enclosed Tree.Spells ']' first (x :: xs) s) (r : List Char) :
    outcome (endList (s ++ r)) = none := by
  cases h with
  | @first _ _ b t u hb hx _ =>
    obtain ⟨c, q, rfl, hc⟩ := hx.front
    have hs : skipSpace (b ++ (c :: q ++ u) ++ r) = c :: (q ++ (u ++ r)) := by
      rw [List.append_assoc, skipSpace_append hb, List.append_assoc]
      exact skipSpace_cons (not_space_of_not_delimiter hc.not_delimiter) _
    exact outcome_endList_other hs (ne_close_of_not_delimiter hc.not_delimiter)
  | @next _ _ b₁ b₂ t u hb _ _ _ =>
    have hs : skipSpace (b₁ ++ ',' :: (b₂ ++ (t ++ u)) ++ r) = ',' :: (b₂ ++ (t ++ u) ++ r) := by
      rw [List.append_assoc, skipSpace_append hb]
      exact skipSpace_cons (by decide) _
    exact outcome_endList_other hs (by decide)

theorem outcome_readInOrder_nil {κ : Type} (read : FieldType κ → Reader (Option Content))
    (first : Bool) (acc : Filled) (s : List Char) :
    outcome (readInOrder read first [] acc s) = (outcome (endList s)).bind fun p =>
      some (acc, p.2) :=
  outcome_bind _ fun _ => rfl

theorem outcome_readInOrder_cons {κ : Type} (read : FieldType κ → Reader (Option Content))
    (first : Bool) (f : FieldDecl κ) (fs : List (FieldDecl κ)) (acc : Filled) (s : List Char) :
    outcome (readInOrder read first (f :: fs) acc s) =
      (turn (nextElement false first s)).bind fun p =>
        if p.1 then some (acc, p.2)
        else (outcome (read f.type p.2)).bind fun q =>
          outcome (readInOrder read false fs (acc.put f.key q.1) q.2) := by
  rw [readInOrder]
  cases nextElement false first s with
  | error e => rfl
  | ok next =>
    cases next with
    | close r h => rfl
    | entry r h => exact outcome_bind _ fun _ => outcome_bind_some _ fun _ => rfl

section Fields

variable {κ : Type} {read : FieldType κ → Reader (Option Content)}
  {read? : FieldType κ → Tree → Option (Option Content)}
  (hread : ∀ type t u s r, Tree.Spells t u → skipSpace s = u ++ r → Delimited r →
    outcome (read type s) = (read? type t).bind fun c => some (c, r))
include hread

theorem MemberText.outcome_readField (field? : String → Option (FieldDecl κ)) (acc : Filled)
    {m : Key × Tree} {t r : List Char} (h : MemberText Tree.Spells m t) (hr : Delimited r) :
    outcome (readField field? read acc (t ++ r)) =
      (fieldStep read? field? acc m).bind fun acc' => some (acc', r) := by
  cases h with
  | @mk key x b b' u hb hb' hx =>
    have hs : ∀ r₁, skipSpace (b' ++ (u ++ r₁)) = u ++ r₁ := hx.skipSpace_append hb'
    rw [Document.outcome_readField, List.cons_append, List.append_assoc, key.outcome_readText,
      fieldStep]
    cases key.text? with
    | none => rfl
    | some name =>
      dsimp only [Option.bind_some]
      rw [List.append_assoc, List.cons_append, outcome_takeColon hb, List.append_assoc]
      cases field? name with
      | none =>
        dsimp only [Option.bind_some]
        rw [hx.outcome_skipValue (hs r) hr]
        rfl
      | some f =>
        dsimp only [Option.bind_some]
        split
        · rfl
        · rw [hread f.type x u _ r hx (hs r) hr]
          cases read? f.type x <;> rfl

theorem outcome_readInOrder (fs : List (FieldDecl κ)) {first : Bool} {xs : List Tree}
    {s : List Char}
    (h : Enclosed Tree.Spells ']' first xs s) (acc : Filled) (r : List Char) :
    outcome (readInOrder read first fs acc (s ++ r)) =
      (inOrder? read? fs acc xs).bind fun acc' => some (acc', r) := by
  induction fs generalizing first xs s acc with
  | nil =>
    rw [outcome_readInOrder_nil]
    cases xs with
    | nil =>
      rw [h.outcome_endList_nil]
      rfl
    | cons x xs =>
      rw [h.outcome_endList_cons]
      rfl
  | cons f fs ih =>
    rw [outcome_readInOrder_cons]
    cases xs with
    | nil =>
      rw [h.turn_close]
      rfl
    | cons x xs =>
      obtain ⟨t, u, hx, hxs, hturn⟩ := h.turn_entry (fun _ _ hx => hx.front) false r
      have hentry := hread f.type x t _ _ hx (hx.skipSpace_eq _) (hxs.delimited (by decide) r)
      rw [hturn, Option.bind_some, if_neg Bool.false_ne_true, hentry, inOrder?]
      cases read? f.type x with
      | none => rfl
      | some c => exact ih hxs (acc.put f.key c)

end Fields

/-- What is read at a field, by its type and the brackets that may still be opened. -/
theorem outcome_readContent_eq {κ : Type} (S : Schema κ) (depth : Nat) (type : FieldType κ)
    {s q : List Char} {c : Char} (h : skipSpace s = c :: q) :
    outcome (readContent S depth type s) = match depth, type with
      | depth, .text => outcome (readTextField depth (c :: q))
      | _, .flag => outcome (readFlagField (c :: q))
      | 0, .list _ => none
      | depth + 1, .list k => outcome (readList (readContent S depth (.record k)) (c :: q))
      | 0, .record _ => none
      | depth + 1, .record k =>
        outcome
          (readRecord S k (fun type => readOptional (readContent S depth type)) (c :: q)) := by
  unfold readContent
  split
  · rename_i hnil
    simp [h] at hnil
  · rename_i d r hcons
    cases h.symm.trans hcons
    cases type with
    | text => exact outcome_bind_some _ fun _ => rfl
    | flag => exact outcome_bind_some _ fun _ => rfl
    | list k =>
      cases depth with
      | zero =>
        dsimp only
        split
        · rfl
        · exact outcome_wrongKind _ _
      | succ depth => exact outcome_bind_some _ fun _ => rfl
    | record k =>
      cases depth with
      | zero =>
        dsimp only
        split
        · rfl
        · exact outcome_wrongKind _ _
      | succ depth => exact outcome_bind_some _ fun _ => rfl

theorem outcome_readList {read : Reader Content} (s : List Char) :
    outcome (readList read ('[' :: s)) =
      (outcome (readElements false read true s)).bind fun p => some (.list p.1, p.2) :=
  outcome_bind _ fun _ => rfl

theorem outcome_readList_other {read : Reader Content} {c : Char} (hc : c ≠ '[') (s : List Char) :
    outcome (readList read (c :: s)) = none := by
  rw [readList]
  · exact outcome_wrongKind _ _
  · intro r heq
    exact hc (List.cons.inj heq).1

section Record

variable {κ : Type} (S : Schema κ) (k : κ) (read : FieldType κ → Reader (Option Content))
  (s : List Char)

theorem outcome_readRecord_list :
    outcome (readRecord S k read ('[' :: s)) =
      (outcome (readInOrder read true (S.fields k) ⟨[], []⟩ s)).bind
        fun p => some (.record p.1.members, p.2) :=
  outcome_bind_settling _ _ fun _ => rfl

theorem outcome_readRecord_object :
    outcome (readRecord S k read ('\x7b' :: s)) =
      (outcome (readMembers false (readField (S.field? k) read) true ⟨[], []⟩ s)).bind
        fun p => some (.record p.1.members, p.2) :=
  outcome_bind_settling _ _ fun _ => rfl

theorem outcome_readRecord_other {c : Char} (hlist : c ≠ '[') (hobject : c ≠ '\x7b') :
    outcome (readRecord S k read (c :: s)) = none := by
  rw [readRecord]
  · exact outcome_wrongKind _ _
  · intro r heq
    exact hlist (List.cons.inj heq).1
  · intro r heq
    exact hobject (List.cons.inj heq).1

end Record

theorem outcome_readTextField_bracket {depth : Nat} {s q : List Char} {c : Char}
    (h : skipSpace s = c :: q) (hc : c = '[' ∨ c = '\x7b') :
    outcome (readTextField depth s) = none := by
  rw [outcome_readTextField]
  cases hvalue : outcome (readValue depth s) with
  | none => rfl
  | some p =>
    obtain ⟨v, r⟩ := p
    cases v with
    | scalar v => exact absurd hvalue (not_scalar_of_readValue h hc)
    | list items => rfl
    | object members => rfl

theorem outcome_readFlagField_bracket {q : List Char} {c : Char} (hc : c = '[' ∨ c = '\x7b') :
    outcome (readFlagField (c :: q)) = none := by
  rw [outcome_readFlagField]
  cases hscalar : outcome (readScalar (c :: q)) with
  | none => rfl
  | some p =>
    obtain ⟨_, _, heq, hfront⟩ := front_of_readScalar hscalar
    cases heq
    rcases hc with rfl | rfl
    · exact absurd rfl hfront.ne_list
    · exact absurd rfl hfront.ne_object

section Tree

variable {κ : Type} (S : Schema κ) (depth : Nat) {t : Tree} {u r : List Char} (h : t.Spells u)
  (hr : Delimited r)
include h hr

theorem Tree.Spells.outcome_readTextField :
    outcome (readTextField depth (u ++ r)) = (t.content? S depth .text).bind fun c =>
      some (c, r) := by
  have hs := h.skipSpace_eq r
  cases h with
  | scalar token =>
    obtain ⟨c, q, htoken, hc⟩ := front_of_skipScalar token.2
    have hfront : skipSpace (token.1 ++ r) = c :: (q ++ r) := by rw [hs, htoken, List.cons_append]
    have hvalue : outcome (readValue depth (token.1 ++ r)) = _ :=
      outcome_readValue_scalar hfront hc.ne_list hc.ne_object
    rw [← List.cons_append, ← htoken, token.outcome_readScalar hr] at hvalue
    rw [Document.outcome_readTextField, hvalue, Tree.content?]
    cases token.scalar? <;> rfl
  | list _ =>
    rw [outcome_readTextField_bracket hs (.inl rfl)]
    cases depth <;> rfl
  | object _ =>
    rw [outcome_readTextField_bracket hs (.inr rfl)]
    cases depth <;> rfl

theorem Tree.Spells.outcome_readFlagField :
    outcome (readFlagField (u ++ r)) = (t.content? S depth .flag).bind fun c => some (c, r) := by
  cases h with
  | scalar token =>
    rw [Document.outcome_readFlagField, token.outcome_readScalar hr, Tree.content?]
    cases token.scalar? <;> rfl
  | list _ =>
    rw [List.cons_append, outcome_readFlagField_bracket (.inl rfl)]
    cases depth <;> rfl
  | object _ =>
    rw [List.cons_append, outcome_readFlagField_bracket (.inr rfl)]
    cases depth <;> rfl

end Tree

section Nested

variable {κ : Type} {S : Schema κ} {depth : Nat}
  (ih : ∀ type t u s r, Tree.Spells t u → skipSpace s = u ++ r → Delimited r →
    outcome (readContent S depth type s) = (Tree.content? S depth type t).bind fun c => some (c, r))
  (k : κ) {t : Tree} {u : List Char} (h : t.Spells u) (r : List Char)
include ih h

theorem Tree.Spells.outcome_readList :
    outcome (readList (readContent S depth (.record k)) (u ++ r)) =
      (t.content? S (depth + 1) (.list k)).bind fun c => some (c, r) := by
  cases h with
  | scalar token =>
    obtain ⟨d, p, htoken, hd⟩ := front_of_skipScalar token.2
    rw [htoken]
    exact outcome_readList_other hd.ne_list _
  | list hitems =>
    have helements := outcome_readElements (fun _ _ hx => hx.front)
      (fun x t r hx hr => ih (.record k) x t _ r hx (hx.skipSpace_eq r) hr) false hitems r
    rw [List.cons_append, Document.outcome_readList, helements, Tree.content?, Option.bind_assoc,
      Option.bind_assoc]
    rfl
  | object _ => exact outcome_readList_other (by decide) _

theorem Tree.Spells.outcome_readRecord :
    outcome (readRecord S k (fun type => readOptional (readContent S depth type)) (u ++ r)) =
      (t.content? S (depth + 1) (.record k)).bind fun c => some (c, r) := by
  have hoptional : ∀ type t u s r, Tree.Spells t u → skipSpace s = u ++ r → Delimited r →
      outcome (readOptional (readContent S depth type) s) =
        (optional? (Tree.content? S depth type) t).bind fun c => some (c, r) := by
    intro type t u s r h hs hr
    exact h.outcome_readOptional hs (ih type t u _ r h (h.skipSpace_eq r) hr)
  cases h with
  | scalar token =>
    obtain ⟨d, p, htoken, hd⟩ := front_of_skipScalar token.2
    rw [htoken]
    exact outcome_readRecord_other S k _ _ hd.ne_list hd.ne_object
  | list hitems =>
    rw [List.cons_append, outcome_readRecord_list, outcome_readInOrder hoptional _ hitems,
      Tree.content?, Option.bind_assoc, Option.bind_assoc]
    rfl
  | object hmembers =>
    have hmember := outcome_readMembers (fun _ _ hx => hx.front)
      (fun acc x t r hx hr => hx.outcome_readField hoptional (S.field? k) acc hr)
      false hmembers ⟨[], []⟩ r
    rw [List.cons_append, outcome_readRecord_object, hmember, Tree.content?, Option.bind_assoc,
      Option.bind_assoc]
    rfl

end Nested

/-- Reading a text of a tree is reading the tree. -/
theorem Tree.Spells.outcome_readContent {κ : Type} (S : Schema κ) (depth : Nat) (type : FieldType κ)
    {t : Tree} {u s r : List Char} (h : t.Spells u) (hs : skipSpace s = u ++ r) (hr : Delimited r) :
    outcome (readContent S depth type s) = (t.content? S depth type).bind fun c => some (c, r) := by
  induction depth using Nat.strongRecOn generalizing type t u s r with
  | ind depth ih =>
    obtain ⟨c, q, hu, _⟩ := h.front
    rw [hu, List.cons_append] at hs
    rw [outcome_readContent_eq S depth type hs, ← List.cons_append, ← hu]
    cases type with
    | text => exact h.outcome_readTextField S depth hr
    | flag => exact h.outcome_readFlagField S depth hr
    | list k =>
      cases depth with
      | zero => cases t <;> rfl
      | succ depth =>
        exact h.outcome_readList (fun type _ _ _ _ => ih depth depth.lt_succ_self type) k r
    | record k =>
      cases depth with
      | zero => cases t <;> rfl
      | succ depth =>
        exact h.outcome_readRecord (fun type _ _ _ _ => ih depth depth.lt_succ_self type) k r

/-! ## Whole documents -/

/-- The texts of a document: those of its tree, with blanks around them. -/
def Tree.Documents (t : Tree) (text : List Char) : Prop :=
  ∃ b u b', AllSpace b ∧ t.Spells u ∧ AllSpace b' ∧ text = b ++ (u ++ b')

theorem Tree.documents_plain (t : Tree) : t.Documents t.plain :=
  ⟨[], t.plain, [], allSpace_nil, t.spells_plain, allSpace_nil, by simp⟩

theorem toOption_read {κ : Type} (S : Schema κ) (k : κ) (text : List Char) :
    (S.read k text).toOption =
      (outcome (readOptional (readContent S depthLimit (.record k)) text)).bind fun p =>
        if skipSpace p.2 = [] then some p.1 else none := by
  unfold Schema.read
  cases readOptional (readContent S depthLimit (.record k)) text with
  | error f => rfl
  | ok x =>
    dsimp only [bind, Except.bind, outcome_ok, Option.bind]
    cases skipSpace x.rest <;> rfl

theorem skipSpace_of_allSpace {b : List Char} (hb : AllSpace b) : skipSpace b = [] := by
  simpa [skipSpace] using skipSpace_append hb []

/-- Reading a text of a document is reading its tree. -/
theorem Tree.Documents.toOption_read {κ : Type} (S : Schema κ) (k : κ) {t : Tree} {text : List Char}
    (h : t.Documents text) :
    (S.read k text).toOption = optional? (Tree.content? S depthLimit (.record k)) t := by
  obtain ⟨b, u, b', hb, hu, hb', rfl⟩ := h
  have hr : Delimited b' := by simpa using delimited_append hb' (ends_nil []).delimited
  have hcontent := hu.outcome_readContent S depthLimit (.record k) (hu.skipSpace_eq b') hr
  rw [Document.toOption_read, hu.outcome_readOptional (hu.skipSpace_append hb b') hcontent,
    Option.bind_assoc]
  simp [skipSpace_of_allSpace hb']

end ExecUml.Document
