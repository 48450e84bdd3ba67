import ExecUml.Document.Bracket
import ExecUml.Proofs.ScalarReading

/-!
# Documents as trees

A document is a tree of scalars, lists and objects, written with blanks between its parts. A tree
keeps the spelling of its scalars and keys and the order of its members, but not the blanks: every
way to put them gives a text of the same tree. Skipping a value takes exactly the text of a tree.
-/

set_option autoImplicit false

namespace ExecUml.Document

/-- A scalar as it is spelled. -/
abbrev Token := { cs : List Char // outcome (skipScalar cs) = some ((), []) }

/-- A key as it is spelled, without the opening quote. -/
abbrev Key := { cs : List Char // outcome (skipChars cs) = some ((), []) }

inductive Tree where
  | scalar (token : Token)
  | list (items : List Tree)
  | object (members : List (Key × Tree))

def AllSpace (s : List Char) : Prop := ∀ c ∈ s, isSpace c = true

section Texts

variable {α : Type} (P : α → List Char → Prop) (close : Char)

/-- The texts behind an opening bracket: elements with texts in `P`, commas between them and the
closing bracket. The flag says that no element was given yet. -/
inductive Enclosed : Bool → List α → List Char → Prop where
  | close {first : Bool} {b : List Char} : AllSpace b → Enclosed first [] (b ++ [close])
  | first {x : α} {xs : List α} {b s s' : List Char} :
      AllSpace b → P x s → Enclosed false xs s' → Enclosed true (x :: xs) (b ++ (s ++ s'))
  | next {x : α} {xs : List α} {b b' s s' : List Char} :
      AllSpace b → AllSpace b' → P x s → Enclosed false xs s' →
        Enclosed false (x :: xs) (b ++ ',' :: (b' ++ (s ++ s')))

/-- The texts of a member of an object. -/
inductive MemberText : Key × α → List Char → Prop where
  | mk {key : Key} {x : α} {b b' s : List Char} : AllSpace b → AllSpace b' → P x s →
      MemberText (key, x) ('"' :: (key.1 ++ (b ++ ':' :: (b' ++ s))))

end Texts

/-- The texts of a tree, from its first character to its last. -/
inductive Tree.Spells : Tree → List Char → Prop where
  | scalar (token : Token) : Spells (.scalar token) token.1
  | list {items : List Tree} {s : List Char} :
      Enclosed Spells ']' true items s → Spells (.list items) ('[' :: s)
  | object {members : List (Key × Tree)} {s : List Char} :
      Enclosed (MemberText Spells) '\x7d' true members s → Spells (.object members) ('\x7b' :: s)

/-! ## Blanks -/

theorem skipSpace_append {b : List Char} (hb : AllSpace b) (s : List Char) :
    skipSpace (b ++ s) = skipSpace s :=
  List.dropWhile_append_of_pos hb

theorem skipSpace_cons {c : Char} (hc : isSpace c = false) (s : List Char) :
    skipSpace (c :: s) = c :: s := by
  simp [skipSpace, hc]

/-- Every text is a run of blanks and the text without it. -/
theorem exists_space (s : List Char) : ∃ b, AllSpace b ∧ s = b ++ skipSpace s :=
  ⟨s.takeWhile isSpace, fun _ => List.mem_takeWhile_imp, List.takeWhile_append_dropWhile.symm⟩

theorem allSpace_nil : AllSpace [] := by simp [AllSpace]

theorem AllSpace.append {b b' : List Char} (hb : AllSpace b) (hb' : AllSpace b') :
    AllSpace (b ++ b') := by
  intro c hc
  rcases List.mem_append.mp hc with hc | hc
  · exact hb c hc
  · exact hb' c hc

/-- Blanks in front of a delimiter. -/
theorem delimited_append {b : List Char} (hb : AllSpace b) {s : List Char} (hs : Delimited s) :
    Delimited (b ++ s) := by
  cases b with
  | nil => exact hs
  | cons c b =>
    intro d hd
    obtain rfl : c = d := by simpa using hd
    simp [isDelimiter, hb c List.mem_cons_self]

theorem delimited_cons {c : Char} (hc : isDelimiter c = true) (s : List Char) :
    Delimited (c :: s) := by
  intro d hd
  obtain rfl : c = d := by simpa using hd
  exact hc

section Enclosed

variable {α : Type} {P Q : α → List Char → Prop} {close : Char} {xs : List α} {s : List Char}

theorem Enclosed.delimited (hclose : isDelimiter close = true) (h : Enclosed P close false xs s)
    (r : List Char) : Delimited (s ++ r) := by
  cases h with
  | close hb =>
    rw [List.append_assoc]
    exact delimited_append hb (delimited_cons hclose _)
  | next hb _ _ _ =>
    rw [List.append_assoc]
    exact delimited_append hb (delimited_cons (by decide) _)

/-- The texts of the elements are not longer than the whole. -/
theorem Enclosed.imp {first : Bool} {n : Nat} (h : Enclosed P close first xs s) (hn : s.length ≤ n)
    (hPQ : ∀ x t, P x t → t.length ≤ n → Q x t) : Enclosed Q close first xs s := by
  induction h with
  | close hb => exact .close hb
  | first hb hx _ ih =>
    simp only [List.length_append] at hn
    exact .first hb (hPQ _ _ hx (by omega)) (ih (by omega))
  | next hb hb' hx _ ih =>
    simp only [List.length_append, List.length_cons] at hn
    exact .next hb hb' (hPQ _ _ hx (by omega)) (ih (by omega))

end Enclosed

mutual

/-- The text without blanks. -/
def Tree.plain : Tree → List Char
  | .scalar token => token.1
  | .list items => '[' :: plainItems true items
  | .object members => '\x7b' :: plainMembers true members

def plainItems (first : Bool) : List Tree → List Char
  | [] => [']']
  | t :: ts => (if first then [] else [',']) ++ (t.plain ++ plainItems false ts)

def plainMembers (first : Bool) : List (Key × Tree) → List Char
  | [] => ['\x7d']
  | (key, t) :: ms =>
    (if first then [] else [',']) ++ ('"' :: (key.1 ++ ':' :: t.plain) ++ plainMembers false ms)

end

mutual

theorem Tree.spells_plain : (t : Tree) → t.Spells t.plain
  | .scalar token => .scalar token
  | .list items => .list (enclosed_plainItems true items)
  | .object members => .object (enclosed_plainMembers true members)

theorem enclosed_plainItems (first : Bool) :
    (items : List Tree) → Enclosed Tree.Spells ']' first items (plainItems first items)
  | [] => .close allSpace_nil
  | t :: ts => by
    have ht := t.spells_plain
    have hts := enclosed_plainItems false ts
    cases first with
    | true => exact .first allSpace_nil ht hts
    | false => exact .next allSpace_nil allSpace_nil ht hts

theorem enclosed_plainMembers (first : Bool) : (members : List (Key × Tree)) →
    Enclosed (MemberText Tree.Spells) '\x7d' first members (plainMembers first members)
  | [] => .close allSpace_nil
  | (key, t) :: ms => by
    have ht : MemberText Tree.Spells (key, t) ('"' :: (key.1 ++ ':' :: t.plain)) :=
      .mk allSpace_nil allSpace_nil t.spells_plain
    have hms := enclosed_plainMembers false ms
    cases first with
    | true => exact .first allSpace_nil ht hms
    | false => exact .next allSpace_nil allSpace_nil ht hms

end

/-! ## First characters -/

/-- The characters that a value may start with. -/
inductive ValueFront : Char → Prop where
  | scalar {c : Char} : ScalarFront c → ValueFront c
  | list : ValueFront '['
  | object : ValueFront '\x7b'

theorem ScalarFront.not_delimiter {c : Char} (h : ScalarFront c) : isDelimiter c = false := by
  cases h with
  | digit hc =>
    cases hdelimiter : isDelimiter c with
    | false => rfl
    | true =>
      have hno := isNoDigit_of_isDelimiter c hdelimiter
      simp [isNoDigit, hc] at hno
  | _ => decide

theorem ValueFront.not_delimiter {c : Char} (h : ValueFront c) : isDelimiter c = false := by
  cases h with
  | scalar hc => exact hc.not_delimiter
  | _ => decide

theorem not_space_of_not_delimiter {c : Char} (h : isDelimiter c = false) : isSpace c = false := by
  simp only [isDelimiter, Bool.or_eq_false_iff] at h
  exact h.1.1.1

theorem ne_close_of_not_delimiter {c : Char} (h : isDelimiter c = false) : c ≠ ']' := by
  rintro rfl
  simp [isDelimiter] at h

theorem Tree.Spells.front {t : Tree} {s : List Char} (h : t.Spells s) :
    ∃ c q, s = c :: q ∧ ValueFront c := by
  cases h with
  | scalar token =>
    obtain ⟨c, q, hs, hc⟩ := front_of_skipScalar token.2
    exact ⟨c, q, hs, .scalar hc⟩
  | list _ => exact ⟨_, _, rfl, .list⟩
  | object _ => exact ⟨_, _, rfl, .object⟩

/-! ## Lists and objects -/

/-- Whether a bracket closes and the text behind it, or else the text from the next entry on. -/
def turn {s : List Char} : Except Fault (Turn s) → Option (Bool × List Char)
  | .ok (.close r _) => some (true, r)
  | .ok (.entry r _) => some (false, r)
  | .error _ => none

theorem turn_nextElement_close {s r : List Char} (h : skipSpace s = ']' :: r)
    (skipping first : Bool) :
    turn (nextElement skipping first s) = some (true, r) := by
  unfold nextElement
  split
  · rename_i hnil
    simp [h] at hnil
  · rename_i c q hcons
    cases h.symm.trans hcons
    rfl

theorem turn_nextElement_first {s r : List Char} {c : Char} (h : skipSpace s = c :: r)
    (hc : c ≠ ']')
    (skipping : Bool) : turn (nextElement skipping true s) = some (false, c :: r) := by
  unfold nextElement
  split
  · rename_i hnil
    simp [h] at hnil
  · rename_i d q hcons
    cases h.symm.trans hcons
    rw [if_neg hc]
    rfl

theorem turn_nextElement_comma {s r r' : List Char} {c : Char} (h : skipSpace s = ',' :: r)
    (h' : skipSpace r = c :: r') (hc : c ≠ ']') (skipping : Bool) :
    turn (nextElement skipping false s) = some (false, c :: r') := by
  unfold nextElement
  split
  · rename_i hnil
    simp [h] at hnil
  · rename_i d q hcons
    cases h.symm.trans hcons
    simp only [Char.reduceEq, if_false, Bool.false_eq_true, if_true]
    split
    · rename_i hnil
      simp [h'] at hnil
    · rename_i d q' hcons'
      cases h'.symm.trans hcons'
      simp [hc, turn]

theorem outcome_readElements_eq {α : Type} (skipping : Bool) (read : Reader α) (first : Bool)
    (s : List Char) :
    outcome (readElements skipping read first s) =
      (turn (nextElement skipping first s)).bind fun p =>
        if p.1 then some ([], p.2)
        else (outcome (read p.2)).bind fun q =>
          (outcome (readElements skipping read false q.2)).bind fun z =>
            some (q.1 :: z.1, z.2) := by
  rw [readElements]
  cases nextElement skipping first s with
  | error f => rfl
  | ok next =>
    cases next with
    | close r h => rfl
    | entry r h =>
      dsimp only [turn, Option.bind_some]
      cases read r with
      | error f => rfl
      | ok x =>
        dsimp only [outcome_ok, Option.bind_some]
        cases readElements skipping read false x.rest <;> rfl

theorem outcome_readElements_entry {α : Type} {skipping first : Bool} {read : Reader α}
    {s t r r' : List Char} {v? : Option α} {vs? : Option (List α)}
    (hturn : turn (nextElement skipping first s) = some (false, t))
    (hread : outcome (read t) = v?.bind fun v => some (v, r))
    (hrest : outcome (readElements skipping read false r) = vs?.bind fun vs => some (vs, r')) :
    outcome (readElements skipping read first s) =
      (v?.bind fun v => vs?.bind fun vs => some (v :: vs)).bind fun vs => some (vs, r') := by
  rw [outcome_readElements_eq, hturn, Option.bind_some, if_neg Bool.false_ne_true, hread]
  cases v? with
  | none => rfl
  | some v =>
    dsimp only [Option.bind_some]
    rw [hrest]
    cases vs? <;> rfl

section Elements

variable {α β : Type} {P : β → List Char → Prop} {first : Bool} {s : List Char}

theorem Enclosed.turn_close (h : Enclosed P ']' first [] s) (skipping : Bool) (r : List Char) :
    turn (nextElement skipping first (s ++ r)) = some (true, r) := by
  cases h with
  | @close _ b hb =>
    apply turn_nextElement_close
    rw [List.append_assoc, skipSpace_append hb]
    exact skipSpace_cons (by decide) r

variable (hfront : ∀ x t, P x t → ∃ c q, t = c :: q ∧ ValueFront c)
include hfront

theorem Enclosed.turn_entry {x : β} {xs : List β} (h : Enclosed P ']' first (x :: xs) s)
    (skipping : Bool) (r : List Char) :
    ∃ t u, P x t ∧ Enclosed P ']' false xs u ∧
      turn (nextElement skipping first (s ++ r)) = some (false, t ++ (u ++ r)) := by
  cases h with
  | @first _ _ b t u hb hx hxs =>
    refine ⟨t, u, hx, hxs, ?_⟩
    obtain ⟨c, q, rfl, hc⟩ := hfront x t hx
    apply turn_nextElement_first _ (ne_close_of_not_delimiter hc.not_delimiter)
    rw [List.append_assoc, skipSpace_append hb, List.append_assoc]
    exact skipSpace_cons (not_space_of_not_delimiter hc.not_delimiter) _
  | @next _ _ b₁ b₂ t u hb₁ hb₂ hx hxs =>
    refine ⟨t, u, hx, hxs, ?_⟩
    obtain ⟨c, q, rfl, hc⟩ := hfront x t hx
    have hcomma : skipSpace (b₁ ++ ',' :: (b₂ ++ (c :: q ++ u)) ++ r) =
        ',' :: (b₂ ++ (c :: q ++ (u ++ r))) := by
      rw [List.append_assoc, skipSpace_append hb₁, List.cons_append, skipSpace_cons (by decide)]
      simp
    apply turn_nextElement_comma hcomma _ (ne_close_of_not_delimiter hc.not_delimiter)
    rw [skipSpace_append hb₂]
    exact skipSpace_cons (not_space_of_not_delimiter hc.not_delimiter) _

/-- Elements that are read one by one are read all together. -/
theorem outcome_readElements {read : Reader α} {f : β → Option α}
    (hread : ∀ x t r, P x t → Delimited r → outcome (read (t ++ r)) = (f x).bind fun v =>
      some (v, r))
    (skipping : Bool) {xs : List β} (h : Enclosed P ']' first xs s) (r : List Char) :
    outcome (readElements skipping read first (s ++ r)) =
      (xs.mapM f).bind fun vs => some (vs, r) := by
  induction xs generalizing first s with
  | nil =>
    rw [outcome_readElements_eq, h.turn_close]
    rfl
  | cons x xs ih =>
    obtain ⟨t, u, hx, hxs, hturn⟩ := h.turn_entry hfront skipping r
    rw [List.mapM_cons]
    exact outcome_readElements_entry hturn (hread x t _ hx (hxs.delimited (by decide) r)) (ih hxs)

end Elements

theorem turn_nextMember_close {s r : List Char} (h : skipSpace s = '\x7d' :: r)
    (skipping first : Bool) : turn (nextMember skipping first s) = some (true, r) := by
  unfold nextMember
  split
  · rename_i hnil
    simp [h] at hnil
  · rename_i c q hcons
    cases h.symm.trans hcons
    rfl

theorem turn_nextMember_first {s r : List Char} (h : skipSpace s = '"' :: r) (skipping : Bool) :
    turn (nextMember skipping true s) = some (false, '"' :: r) := by
  unfold nextMember
  split
  · rename_i hnil
    simp [h] at hnil
  · rename_i c q hcons
    cases h.symm.trans hcons
    rfl

theorem turn_nextMember_comma {s r r' : List Char} (h : skipSpace s = ',' :: r)
    (h' : skipSpace r = '"' :: r') (skipping : Bool) :
    turn (nextMember skipping false s) = some (false, '"' :: r') := by
  unfold nextMember
  split
  · rename_i hnil
    simp [h] at hnil
  · rename_i d q hcons
    cases h.symm.trans hcons
    simp only [Char.reduceEq, if_false, Bool.false_eq_true, if_true]
    split
    · rename_i hnil
      simp [h'] at hnil
    · rename_i d q' hcons'
      cases h'.symm.trans hcons'
      rfl

theorem outcome_readMembers_eq {σ : Type} (skipping : Bool) (read : σ → Reader σ) (first : Bool)
    (acc : σ) (s : List Char) :
    outcome (readMembers skipping read first acc s) =
      (turn (nextMember skipping first s)).bind fun p =>
        if p.1 then some (acc, p.2)
        else (outcome (read acc p.2)).bind fun q =>
          outcome (readMembers skipping read false q.1 q.2) := by
  rw [readMembers]
  cases nextMember skipping first s with
  | error f => rfl
  | ok next =>
    cases next with
    | close r h => rfl
    | entry r h =>
      dsimp only [turn, Option.bind_some]
      cases read acc r with
      | error f => rfl
      | ok x =>
        dsimp only [outcome_ok, Option.bind_some]
        cases readMembers skipping read false x.value x.rest <;> rfl

theorem outcome_readMembers_entry {σ : Type} {skipping first : Bool} {read : σ → Reader σ} {acc : σ}
    {s t r r' : List Char} {acc? : Option σ} {g : σ → Option σ}
    (hturn : turn (nextMember skipping first s) = some (false, t))
    (hread : outcome (read acc t) = acc?.bind fun a => some (a, r))
    (hrest : ∀ a, outcome (readMembers skipping read false a r) = (g a).bind fun a' =>
      some (a', r')) :
    outcome (readMembers skipping read first acc s) = (acc?.bind g).bind fun a' =>
      some (a', r') := by
  rw [outcome_readMembers_eq, hturn, Option.bind_some, if_neg Bool.false_ne_true, hread]
  cases acc? with
  | none => rfl
  | some a => exact hrest a

section Members

variable {σ β : Type} {P : β → List Char → Prop} {first : Bool} {s : List Char}

theorem Enclosed.member_close (h : Enclosed P '\x7d' first [] s) (skipping : Bool) (r : List Char) :
    turn (nextMember skipping first (s ++ r)) = some (true, r) := by
  cases h with
  | @close _ b hb =>
    apply turn_nextMember_close
    rw [List.append_assoc, skipSpace_append hb]
    exact skipSpace_cons (by decide) r

variable (hfront : ∀ x t, P x t → ∃ q, t = '"' :: q)
include hfront

theorem Enclosed.member_entry {x : β} {xs : List β} (h : Enclosed P '\x7d' first (x :: xs) s)
    (skipping : Bool) (r : List Char) :
    ∃ t u, P x t ∧ Enclosed P '\x7d' false xs u ∧
      turn (nextMember skipping first (s ++ r)) = some (false, t ++ (u ++ r)) := by
  cases h with
  | @first _ _ b t u hb hx hxs =>
    refine ⟨t, u, hx, hxs, ?_⟩
    obtain ⟨q, rfl⟩ := hfront x t hx
    apply turn_nextMember_first
    rw [List.append_assoc, skipSpace_append hb, List.append_assoc]
    exact skipSpace_cons (by decide) _
  | @next _ _ b₁ b₂ t u hb₁ hb₂ hx hxs =>
    refine ⟨t, u, hx, hxs, ?_⟩
    obtain ⟨q, rfl⟩ := hfront x t hx
    have hcomma : skipSpace (b₁ ++ ',' :: (b₂ ++ ('"' :: q ++ u)) ++ r) =
        ',' :: (b₂ ++ ('"' :: q ++ (u ++ r))) := by
      rw [List.append_assoc, skipSpace_append hb₁, List.cons_append, skipSpace_cons (by decide)]
      simp
    apply turn_nextMember_comma hcomma
    rw [skipSpace_append hb₂]
    exact skipSpace_cons (by decide) _

/-- Members that are read one by one are read all together. -/
theorem outcome_readMembers {read : σ → Reader σ} {step : σ → β → Option σ}
    (hread : ∀ acc x t r, P x t → Delimited r →
      outcome (read acc (t ++ r)) = (step acc x).bind fun acc₁ => some (acc₁, r))
    (skipping : Bool) {xs : List β} (h : Enclosed P '\x7d' first xs s) (acc : σ) (r : List Char) :
    outcome (readMembers skipping read first acc (s ++ r)) =
      (xs.foldlM step acc).bind fun acc₁ => some (acc₁, r) := by
  induction xs generalizing first s acc with
  | nil =>
    rw [outcome_readMembers_eq, h.member_close]
    rfl
  | cons x xs ih =>
    obtain ⟨t, u, hx, hxs, hturn⟩ := h.member_entry hfront skipping r
    have hentry := hread acc x t _ hx (hxs.delimited (by decide) r)
    rw [List.foldlM_cons]
    exact outcome_readMembers_entry hturn hentry (ih hxs)

end Members

/-! ## Skipped values -/

theorem Token.takes (token : Token) {r : List Char} (hr : Delimited r) :
    outcome (skipScalar (token.1 ++ r)) = some ((), r) := by
  obtain ⟨t, ht, htake⟩ := takes_of_skipScalar token.2
  rw [List.append_nil] at ht
  rw [ht]
  exact htake r (.inl hr)

theorem Key.grabs (key : Key) : Grabs skipChars key.1 () := by
  obtain ⟨t, ht, htake⟩ := grabs_of_skipChars key.2
  rw [List.append_nil] at ht
  rw [ht]
  exact htake

theorem outcome_takeColon {b s : List Char} (hb : AllSpace b) :
    outcome (takeColon (b ++ ':' :: s)) = some ((), s) := by
  have hs : skipSpace (b ++ ':' :: s) = ':' :: s := by
    rw [skipSpace_append hb]
    exact skipSpace_cons (by decide) s
  unfold takeColon
  split
  · rename_i hnil
    simp [hs] at hnil
  · rename_i c q hcons
    cases hs.symm.trans hcons
    rfl

theorem outcome_skipMember (skip : Reader Unit) (c : Char) (s : List Char) :
    outcome (skipMember skip (c :: s)) = (outcome (skipChars s)).bind fun p =>
      (outcome (takeColon p.2)).bind fun q => outcome (skip q.2) :=
  outcome_bind _ fun _ => outcome_bind _ fun _ => outcome_bind_some _ fun _ => rfl

section Skip

variable {depth : Nat} {s r : List Char}

theorem outcome_skipNested_list (h : skipSpace s = '[' :: r) :
    outcome (skipNested (depth + 1) s) =
      (outcome (readElements true (skipNested depth) true r)).bind fun p => some ((), p.2) := by
  unfold skipNested
  dsimp only
  split
  · rename_i hnil
    simp [h] at hnil
  · rename_i c q hcons
    cases h.symm.trans hcons
    exact outcome_bind _ fun _ => rfl

theorem outcome_skipNested_object (h : skipSpace s = '\x7b' :: r) :
    outcome (skipNested (depth + 1) s) =
      outcome (readMembers true (fun _ => skipMember (skipNested depth)) true () r) := by
  unfold skipNested
  dsimp only
  split
  · rename_i hnil
    simp [h] at hnil
  · rename_i c q hcons
    cases h.symm.trans hcons
    exact outcome_bind_some _ fun _ => rfl

theorem outcome_skipNested_scalar {c : Char} (h : skipSpace s = c :: r) (hlist : c ≠ '[')
    (hobject : c ≠ '\x7b') :
    outcome (skipNested (depth + 1) s) = outcome (skipScalar (c :: r)) := by
  unfold skipNested
  dsimp only
  split
  · rename_i hnil
    simp [h] at hnil
  · rename_i d q hcons
    cases h.symm.trans hcons
    rw [if_neg hlist, if_neg hobject]
    exact outcome_bind_some _ fun _ => rfl

end Skip

theorem ScalarFront.ne_list {c : Char} (h : ScalarFront c) : c ≠ '[' := by
  rintro rfl
  cases h with
  | digit hc => exact absurd hc (by decide)

theorem ScalarFront.ne_object {c : Char} (h : ScalarFront c) : c ≠ '\x7b' := by
  rintro rfl
  cases h with
  | digit hc => exact absurd hc (by decide)

theorem MemberText.front {α : Type} {P : α → List Char → Prop} {x : Key × α} {t : List Char}
    (h : MemberText P x t) : ∃ q, t = '"' :: q := by
  cases h with
  | mk _ _ _ => exact ⟨_, rfl⟩

/-- The text of the value is not longer than that of the member. -/
theorem MemberText.imp {α : Type} {P Q : α → List Char → Prop} {x : Key × α} {t : List Char}
    {n : Nat}
    (h : MemberText P x t) (hn : t.length ≤ n) (hPQ : ∀ y u, P y u → u.length ≤ n → Q y u) :
    MemberText Q x t := by
  cases h with
  | mk hb hb' hx =>
    simp only [List.length_append, List.length_cons] at hn
    exact .mk hb hb' (hPQ _ _ hx (by omega))

/-- What is skipped in front of a tree ends where its text starts. -/
theorem Tree.Spells.skipSpace_append {t : Tree} {u b : List Char} (h : t.Spells u) (hb : AllSpace b)
    (r : List Char) : skipSpace (b ++ (u ++ r)) = u ++ r := by
  obtain ⟨c, q, rfl, hc⟩ := h.front
  rw [Document.skipSpace_append hb]
  exact skipSpace_cons (not_space_of_not_delimiter hc.not_delimiter) _

theorem Tree.Spells.skipSpace_eq {t : Tree} {u : List Char} (h : t.Spells u) (r : List Char) :
    skipSpace (u ++ r) = u ++ r :=
  h.skipSpace_append (b := []) allSpace_nil r

theorem MemberText.outcome_skipMember {n : Nat} {skip : Reader Unit}
    (hskip : ∀ t u s r, Tree.Spells t u → u.length ≤ n → skipSpace s = u ++ r → Delimited r →
      outcome (skip s) = some ((), r)) {m : Key × Tree} {t r : List Char}
    (h : MemberText (fun y u => Tree.Spells y u ∧ u.length ≤ n) m t) (hr : Delimited r) :
    outcome (skipMember skip (t ++ r)) = some ((), r) := by
  cases h with
  | @mk key y b b' u hb hb' hy =>
    rw [List.cons_append, Document.outcome_skipMember, List.append_assoc, key.grabs,
      Option.bind_some]
    dsimp only
    rw [List.append_assoc, List.cons_append, outcome_takeColon hb, Option.bind_some]
    dsimp only
    rw [List.append_assoc]
    exact hskip y u _ r hy.1 hy.2 (hy.1.skipSpace_append hb' r) hr

/-- A text of a tree is skipped as a whole if it has no more brackets than are allowed. -/
theorem Tree.Spells.outcome_skipNested {t : Tree} {u : List Char} (h : t.Spells u) {n : Nat}
    (hn : u.length ≤ n) {s r : List Char} (hs : skipSpace s = u ++ r) (hr : Delimited r) :
    outcome (skipNested n s) = some ((), r) := by
  induction n generalizing t u s r with
  | zero =>
    obtain ⟨c, q, rfl, _⟩ := h.front
    simp at hn
  | succ n ih =>
    cases h with
    | scalar token =>
      obtain ⟨c, q, htoken, hc⟩ := front_of_skipScalar token.2
      have htake := token.takes hr
      rw [htoken, List.cons_append] at htake hs
      rw [outcome_skipNested_scalar hs hc.ne_list hc.ne_object]
      exact htake
    | @list items inner hitems =>
      have hitems := hitems.imp (n := n) (by simpa using hn) fun x t hx ht => And.intro hx ht
      have helements : outcome (readElements true (skipNested n) true (inner ++ r)) =
          (items.mapM fun _ => some ()).bind fun vs => some (vs, r) :=
        outcome_readElements (fun x t hx => hx.1.front)
          (fun x t r hx hr => ih hx.1 hx.2 (hx.1.skipSpace_eq r) hr) true hitems r
      have hall : items.mapM (fun _ => some ()) = some (items.map fun _ => ()) := List.mapM_pure
      rw [List.cons_append] at hs
      rw [outcome_skipNested_list hs, helements, hall]
      rfl
    | @object members inner hmembers =>
      have hmembers := hmembers.imp (n := n) (by simpa using hn) fun x t hx ht =>
        hx.imp ht fun y u hy hu => And.intro hy hu
      have hall : members.foldlM (fun _ _ => some ()) () = some () := List.foldlM_pure
      have hobject :
          outcome (readMembers true (fun _ => skipMember (skipNested n)) true () (inner ++ r)) =
          (members.foldlM (fun _ _ => some ()) ()).bind fun acc => some (acc, r) :=
        outcome_readMembers (fun x t hx => hx.front)
          (fun _ x t r hx hr => hx.outcome_skipMember (fun _ _ _ _ hy hn hs => ih hy hn hs) hr)
          true hmembers () r
      rw [List.cons_append] at hs
      rw [outcome_skipNested_object hs, hobject, hall]
      rfl

theorem Tree.Spells.outcome_skipValue {t : Tree} {u s r : List Char} (h : t.Spells u)
    (hs : skipSpace s = u ++ r) (hr : Delimited r) : outcome (skipValue s) = some ((), r) := by
  have hn : u.length ≤ s.length := by
    have hle := length_skipSpace_le s
    rw [hs, List.length_append] at hle
    omega
  exact h.outcome_skipNested hn hs hr

end ExecUml.Document
