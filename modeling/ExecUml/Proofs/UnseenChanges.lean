import ExecUml.Proofs.TreeContent
import Mathlib.Data.List.Forall2

/-!
# Changes that a schema does not see

A record keeps of an object the fields that the schema names and that are not null, and it keeps
them by name. So a member that is null or unknown can be left out, and the members can be put in any
order, at every place of a document that is read as a record: what is read stays alike, that is, it
answers every question for a field in the same way.
-/

set_option autoImplicit false

namespace ExecUml.Document

/-- A change at one record within a tree that is read at a field of the given type. -/
inductive UnseenChange {κ : Type} (S : Schema κ) : FieldType κ → Tree → Tree → Prop where
  | drop {k : κ} {m : Key × Tree} (before : List (Key × Tree)) {after : List (Key × Tree)} :
      m.2.isNull = true ∨ m.1.text?.bind (S.field? k) = none →
        UnseenChange S (.record k) (.object (before ++ m :: after)) (.object (before ++ after))
  | permute {k : κ} {ms ms' : List (Key × Tree)} :
      ms.Perm ms' → UnseenChange S (.record k) (.object ms) (.object ms')
  -- the change may lie deeper, at whatever the schema reads there
  | item {k : κ} {t t' : Tree} (before : List Tree) {after : List Tree} :
      UnseenChange S (.record k) t t' →
        UnseenChange S (.list k) (.list (before ++ t :: after)) (.list (before ++ t' :: after))
  | member {k : κ} {f : FieldDecl κ} {key : Key} {t t' : Tree} (before : List (Key × Tree))
      {after : List (Key × Tree)} :
      key.text?.bind (S.field? k) = some f → UnseenChange S f.type t t' →
        UnseenChange S (.record k) (.object (before ++ (key, t) :: after))
          (.object (before ++ (key, t') :: after))
  | place {k : κ} {f : FieldDecl κ} {t t' : Tree} (before : List Tree) {after : List Tree} :
      (S.fields k)[before.length]? = some f → UnseenChange S f.type t t' →
        UnseenChange S (.record k) (.list (before ++ t :: after)) (.list (before ++ t' :: after))

theorem UnseenChange.not_null {κ : Type} {S : Schema κ} {type : FieldType κ} {t t' : Tree}
    (h : UnseenChange S type t t') : t.isNull = false ∧ t'.isNull = false := by
  cases h <;> exact ⟨rfl, rfl⟩

/-! ## Contents that are alike -/

/-- Contents that cannot be told apart by asking for fields and for the items of lists. -/
inductive Content.Alike : Content → Content → Prop where
  | refl (c : Content) : Alike c c
  | list {cs cs' : List Content} : List.Forall₂ Alike cs cs' → Alike (.list cs) (.list cs')
  | record {ms ms' : List (String × Content)} :
      (∀ key, Option.Rel Alike (ms.lookup key) (ms'.lookup key)) → Alike (.record ms) (.record ms')

theorem Content.Alike.refl? (c : Option Content) : Option.Rel Content.Alike c c := by
  cases c with
  | none => exact .none
  | some c => exact .some (.refl c)

/-- The same keys in the same order, with contents that are alike. -/
def AlikeMembers (ms ms' : List (String × Content)) : Prop :=
  List.Forall₂ (fun x y => x.1 = y.1 ∧ x.2.Alike y.2) ms ms'

theorem AlikeMembers.refl (ms : List (String × Content)) : AlikeMembers ms ms :=
  List.forall₂_same.mpr fun _ _ => ⟨rfl, .refl _⟩

theorem AlikeMembers.lookup {ms ms' : List (String × Content)} (h : AlikeMembers ms ms')
    (key : String) :
    Option.Rel Content.Alike (ms.lookup key) (ms'.lookup key) := by
  induction h with
  | nil => exact .none
  | @cons x y _ _ hxy _ ih =>
    obtain ⟨k, c⟩ := x
    obtain ⟨k', c'⟩ := y
    obtain rfl : k = k' := hxy.1
    rw [List.lookup_cons, List.lookup_cons]
    cases key == k with
    | true => exact .some hxy.2
    | false => exact ih

theorem AlikeMembers.put {acc acc' : Filled} (h : AlikeMembers acc.members acc'.members)
    (key : String)
    {c c' : Option Content} (hc : Option.Rel Content.Alike c c') :
    AlikeMembers (acc.put key c).members (acc'.put key c').members := by
  cases hc with
  | none => exact h
  | some hc => exact List.rel_append h (.cons ⟨rfl, hc⟩ .nil)

/-! ## Records written as objects -/

section Object

variable {κ : Type} (read : FieldType κ → Tree → Option (Option Content))
  (field? : String → Option (FieldDecl κ))

/-- What the members of an object give to the record, one by one. -/
inductive Gives : List (Key × Tree) → List (String × Option Content) → Prop where
  | nil : Gives [] []
  | skip {key : Key} {t : Tree} {name : String} {ms : List (Key × Tree)}
      {gs : List (String × Option Content)} :
      key.text? = some name → field? name = none → Gives ms gs → Gives ((key, t) :: ms) gs
  | give {key : Key} {t : Tree} {name : String} {f : FieldDecl κ} {c : Option Content}
      {ms : List (Key × Tree)} {gs : List (String × Option Content)} :
      key.text? = some name → field? name = some f → read f.type t = some c → Gives ms gs →
        Gives ((key, t) :: ms) ((f.key, c) :: gs)

/-- The fields that are not null. -/
def held (gs : List (String × Option Content)) : List (String × Content) :=
  gs.filterMap fun g => g.2.map (g.1, ·)

/-- The fields are new to what was read before, and each is given once. -/
def Fresh (acc : Filled) (gs : List (String × Option Content)) : Prop :=
  (gs.map (·.1)).Nodup ∧ ∀ g ∈ gs, g.1 ∉ acc.seen

variable {read field?}

theorem members_put (acc : Filled) (key : String) (c : Option Content)
    (gs : List (String × Option Content)) :
    (acc.put key c).members ++ held gs = acc.members ++ held ((key, c) :: gs) := by
  cases c with
  | none => rfl
  | some c => simp [Filled.put, held]

theorem fresh_cons {acc : Filled} {key : String} {c : Option Content}
    {gs : List (String × Option Content)} :
    Fresh acc ((key, c) :: gs) ↔ key ∉ acc.seen ∧ Fresh (acc.put key c) gs := by
  have hseen : (acc.put key c).seen = key :: acc.seen := by cases c <;> rfl
  simp only [Fresh, hseen, List.map_cons, List.nodup_cons, List.mem_map, List.mem_cons, not_or,
    forall_eq_or_imp]
  constructor
  · rintro ⟨⟨hkey, hnodup⟩, hnew, hfresh⟩
    exact ⟨hnew, hnodup, fun g hg => ⟨fun heq => hkey ⟨g, hg, heq⟩, hfresh g hg⟩⟩
  · rintro ⟨hnew, hnodup, hfresh⟩
    exact ⟨⟨fun ⟨g, hg, heq⟩ => (hfresh g hg).1 heq, hnodup⟩, hnew, fun g hg => (hfresh g hg).2⟩

theorem gives_of_foldlM {ms : List (Key × Tree)} {acc acc' : Filled}
    (h : ms.foldlM (fieldStep read field?) acc = some acc') :
    ∃ gs, Gives read field? ms gs ∧ Fresh acc gs ∧ acc'.members = acc.members ++ held gs := by
  induction ms generalizing acc with
  | nil =>
    cases h
    exact ⟨[], .nil, ⟨List.nodup_nil, by simp⟩, by simp [held]⟩
  | cons m ms ih =>
    obtain ⟨key, t⟩ := m
    rw [List.foldlM_cons] at h
    obtain ⟨acc₁, hstep, h⟩ := Option.bind_eq_some_iff.mp h
    obtain ⟨gs, hgs, hfresh, hmembers⟩ := ih h
    obtain ⟨name, hname, hstep⟩ := Option.bind_eq_some_iff.mp hstep
    cases hfield : field? name with
    | none =>
      rw [hfield] at hstep
      cases hstep
      exact ⟨gs, .skip hname hfield hgs, hfresh, hmembers⟩
    | some f =>
      rw [hfield] at hstep
      dsimp only at hstep
      split at hstep
      · cases hstep
      · rename_i hnew
        obtain ⟨c, hc, hstep⟩ := Option.bind_eq_some_iff.mp hstep
        cases hstep
        refine ⟨(f.key, c) :: gs, .give hname hfield hc hgs, ?_, ?_⟩
        · exact fresh_cons.mpr ⟨by simpa using hnew, hfresh⟩
        · rw [hmembers, members_put]

theorem foldlM_of_gives {ms : List (Key × Tree)} {gs : List (String × Option Content)}
    (h : Gives read field? ms gs) (acc : Filled) (hfresh : Fresh acc gs) :
    ∃ acc', ms.foldlM (fieldStep read field?) acc = some acc' ∧
      acc'.members = acc.members ++ held gs := by
  induction h generalizing acc with
  | nil => exact ⟨acc, rfl, by simp [held]⟩
  | @skip key t name ms gs hname hfield _ ih =>
    have hstep : fieldStep read field? acc (key, t) = some acc := by
      simp [fieldStep, hname, hfield]
    rw [List.foldlM_cons, hstep]
    exact ih acc hfresh
  | @give key t name f c ms gs hname hfield hc _ ih =>
    obtain ⟨hnew, hfresh⟩ := fresh_cons.mp hfresh
    have hstep : fieldStep read field? acc (key, t) = some (acc.put f.key c) := by
      simp [fieldStep, hname, hfield, hnew, hc]
    rw [List.foldlM_cons, hstep, ← members_put]
    exact ih _ hfresh

theorem Gives.perm {ms ms' : List (Key × Tree)} {gs : List (String × Option Content)}
    (h : Gives read field? ms gs) (hperm : ms.Perm ms') :
    ∃ gs', Gives read field? ms' gs' ∧ gs.Perm gs' := by
  induction hperm generalizing gs with
  | nil => exact ⟨gs, h, .refl gs⟩
  | cons m _ ih =>
    cases h with
    | skip hname hfield h =>
      obtain ⟨gs', h', hgs⟩ := ih h
      exact ⟨gs', .skip hname hfield h', hgs⟩
    | give hname hfield hc h =>
      obtain ⟨gs', h', hgs⟩ := ih h
      exact ⟨_, .give hname hfield hc h', hgs.cons _⟩
  | swap m m' ms =>
    cases h with
    | skip hname hfield h =>
      cases h with
      | skip hname' hfield' h => exact ⟨gs, .skip hname' hfield' (.skip hname hfield h), .refl _⟩
      | give hname' hfield' hc' h =>
        exact ⟨_, .give hname' hfield' hc' (.skip hname hfield h), .refl _⟩
    | give hname hfield hc h =>
      cases h with
      | skip hname' hfield' h => exact ⟨_, .skip hname' hfield' (.give hname hfield hc h), .refl _⟩
      | give hname' hfield' hc' h =>
        exact ⟨_, .give hname' hfield' hc' (.give hname hfield hc h), .swap ..⟩
  | trans _ _ ih₁ ih₂ =>
    obtain ⟨gs₁, h₁, hgs₁⟩ := ih₁ h
    obtain ⟨gs₂, h₂, hgs₂⟩ := ih₂ h₁
    exact ⟨gs₂, h₂, hgs₁.trans hgs₂⟩

theorem nodup_keys_of_perm {gs gs' : List (String × Option Content)} (h : gs.Perm gs')
    (hnodup : (gs.map (·.1)).Nodup) : (gs'.map (·.1)).Nodup :=
  (h.map (·.1)).nodup_iff.mp hnodup

theorem lookup_held_cons (g : String × Option Content) (gs : List (String × Option Content))
    (key : String) : (held (g :: gs)).lookup key =
      if key = g.1 then g.2.or ((held gs).lookup key) else (held gs).lookup key := by
  obtain ⟨k, c⟩ := g
  cases c with
  | none => simp [held]
  | some c =>
    have hheld : held ((k, some c) :: gs) = (k, c) :: held gs := rfl
    rw [hheld, List.lookup_cons]
    by_cases hk : key = k
    · simp [hk]
    · simp [hk, beq_eq_false_iff_ne.mpr hk]

/-- Of fields that are given once the order does not matter. -/
theorem lookup_held_of_perm {gs gs' : List (String × Option Content)} (h : gs.Perm gs')
    (hnodup : (gs.map (·.1)).Nodup) (key : String) :
    (held gs).lookup key = (held gs').lookup key := by
  induction h with
  | nil => rfl
  | cons g _ ih => rw [lookup_held_cons, lookup_held_cons, ih (List.nodup_cons.mp hnodup).2]
  | swap g g' gs =>
    have hne : g'.1 ≠ g.1 := by
      intro heq
      simp [heq] at hnodup
    rw [lookup_held_cons, lookup_held_cons, lookup_held_cons, lookup_held_cons]
    by_cases hg : key = g.1
    · have hg' : key ≠ g'.1 := fun heq => hne (heq.symm.trans hg)
      rw [if_pos hg, if_neg hg', if_pos hg, if_neg hg']
    · rw [if_neg hg, if_neg hg]
  | trans hp _ ih₁ ih₂ =>
    rw [ih₁ hnodup, ih₂ (nodup_keys_of_perm hp hnodup)]

end Object

theorem content?_object {κ : Type} {S : Schema κ} {depth : Nat} {k : κ} {ms : List (Key × Tree)}
    {c : Content} : (Tree.object ms).content? S (depth + 1) (.record k) = some c ↔
      ∃ gs, Gives (fun type => optional? (Tree.content? S depth type)) (S.field? k) ms gs ∧
        (gs.map (·.1)).Nodup ∧ c = .record (held gs) := by
  rw [Tree.content?]
  constructor
  · intro h
    obtain ⟨acc, hfold, h⟩ := Option.bind_eq_some_iff.mp h
    cases h
    obtain ⟨gs, hgs, hfresh, hmembers⟩ := gives_of_foldlM hfold
    exact ⟨gs, hgs, hfresh.1, by rw [hmembers, List.nil_append]⟩
  · rintro ⟨gs, hgs, hnodup, rfl⟩
    obtain ⟨acc, hfold, hmembers⟩ := foldlM_of_gives hgs ⟨[], []⟩ ⟨hnodup, by simp⟩
    rw [hfold, Option.bind_some, hmembers, List.nil_append]

/-! ## Lists, and records written as lists -/

theorem mapM_replace {f : Tree → Option Content} {t t' : Tree}
    (hchange : ∀ c, f t = some c → ∃ c', f t' = some c' ∧ c.Alike c') {before after : List Tree}
    {cs : List Content} (h : (before ++ t :: after).mapM f = some cs) :
    ∃ cs', (before ++ t' :: after).mapM f = some cs' ∧ List.Forall₂ Content.Alike cs cs' := by
  induction before generalizing cs with
  | nil =>
    rw [List.nil_append, List.mapM_cons] at h
    obtain ⟨c, hc, h⟩ := Option.bind_eq_some_iff.mp h
    obtain ⟨ds, hds, h⟩ := Option.bind_eq_some_iff.mp h
    cases h
    obtain ⟨c', hc', halike⟩ := hchange c hc
    refine ⟨c' :: ds, ?_, .cons halike (List.forall₂_same.mpr fun d _ => .refl d)⟩
    rw [List.nil_append, List.mapM_cons, hc', hds]
    rfl
  | cons x before ih =>
    rw [List.cons_append, List.mapM_cons] at h
    obtain ⟨c, hc, h⟩ := Option.bind_eq_some_iff.mp h
    obtain ⟨ds, hds, h⟩ := Option.bind_eq_some_iff.mp h
    cases h
    obtain ⟨ds', hds', halike⟩ := ih hds
    refine ⟨c :: ds', ?_, .cons (.refl c) halike⟩
    rw [List.cons_append, List.mapM_cons, hc, hds']
    rfl

section InOrder

variable {κ : Type} {read : FieldType κ → Tree → Option (Option Content)}

theorem inOrder?_alike {fs : List (FieldDecl κ)} {acc acc' x : Filled} {ts : List Tree}
    (hacc : AlikeMembers acc.members acc'.members) (h : inOrder? read fs acc ts = some x) :
    ∃ x', inOrder? read fs acc' ts = some x' ∧ AlikeMembers x.members x'.members := by
  induction ts generalizing fs acc acc' with
  | nil =>
    rw [inOrder?] at h
    cases h
    exact ⟨acc', by rw [inOrder?], hacc⟩
  | cons t ts ih =>
    cases fs with
    | nil => cases h
    | cons f fs =>
      obtain ⟨c, hc, h⟩ := Option.bind_eq_some_iff.mp h
      rw [inOrder?, hc]
      exact ih (hacc.put f.key (Content.Alike.refl? c)) h

theorem inOrder?_replace {t t' : Tree} {f : FieldDecl κ}
    (hchange : ∀ c, read f.type t = some c → ∃ c', read f.type t' = some c' ∧
      Option.Rel Content.Alike c c') {before after : List Tree} {fs : List (FieldDecl κ)}
    (hf : fs[before.length]? = some f) {acc x : Filled}
    (h : inOrder? read fs acc (before ++ t :: after) = some x) :
    ∃ x', inOrder? read fs acc (before ++ t' :: after) = some x' ∧
      AlikeMembers x.members x'.members := by
  induction before generalizing fs acc with
  | nil =>
    cases fs with
    | nil => cases hf
    | cons g fs =>
      obtain rfl : g = f := by simpa using hf
      obtain ⟨c, hc, h⟩ := Option.bind_eq_some_iff.mp h
      obtain ⟨c', hc', halike⟩ := hchange c hc
      rw [List.nil_append, inOrder?, hc']
      exact inOrder?_alike ((AlikeMembers.refl _).put g.key halike) h
  | cons y before ih =>
    cases fs with
    | nil => cases hf
    | cons g fs =>
      obtain ⟨c, hc, h⟩ := Option.bind_eq_some_iff.mp h
      rw [List.cons_append, inOrder?, hc]
      exact ih (by simpa using hf) h

end InOrder

/-! ## One change -/

section Change

variable {κ : Type} {S : Schema κ}

theorem UnseenChange.optional? {type : FieldType κ} {t t' : Tree} (h : UnseenChange S type t t')
    {content? : Tree → Option Content}
    (hcontent : ∀ c, content? t = some c → ∃ c', content? t' = some c' ∧ c.Alike c')
    {x : Option Content} (hx : Document.optional? content? t = some x) :
    ∃ c c', x = some c ∧ Document.optional? content? t' = some (some c') ∧ c.Alike c' := by
  obtain ⟨hnull, hnull'⟩ := h.not_null
  rw [Document.optional?, if_neg (by simp [hnull])] at hx
  obtain ⟨c, hc, hx⟩ := Option.bind_eq_some_iff.mp hx
  cases hx
  obtain ⟨c', hc', halike⟩ := hcontent c hc
  refine ⟨c, c', rfl, ?_, halike⟩
  rw [Document.optional?, if_neg (by simp [hnull']), hc']
  rfl

variable {depth : Nat} {k : κ} {c : Content}

theorem content?_permute {ms ms' : List (Key × Tree)} (hperm : ms.Perm ms')
    (h : (Tree.object ms).content? S (depth + 1) (.record k) = some c) :
    ∃ c', (Tree.object ms').content? S (depth + 1) (.record k) = some c' ∧ c.Alike c' := by
  obtain ⟨gs, hgs, hnodup, rfl⟩ := content?_object.mp h
  obtain ⟨gs', hgs', hp⟩ := hgs.perm hperm
  refine ⟨_, content?_object.mpr ⟨gs', hgs', nodup_keys_of_perm hp hnodup, rfl⟩, .record fun key =>
    ?_⟩
  rw [lookup_held_of_perm hp hnodup key]
  exact Content.Alike.refl? _

theorem content?_drop {m : Key × Tree} {ms : List (Key × Tree)}
    (hm : m.2.isNull = true ∨ m.1.text?.bind (S.field? k) = none)
    (h : (Tree.object (m :: ms)).content? S (depth + 1) (.record k) = some c) :
    (Tree.object ms).content? S (depth + 1) (.record k) = some c := by
  obtain ⟨gs, hgs, hnodup, rfl⟩ := content?_object.mp h
  cases hgs with
  | skip _ _ hgs => exact content?_object.mpr ⟨gs, hgs, hnodup, rfl⟩
  | @give key t name f x _ gs hname hfield hx hgs =>
    rcases hm with hnull | hunknown
    · obtain rfl : none = x := by
        rw [optional?, if_pos hnull] at hx
        exact Option.some.inj hx
      exact content?_object.mpr ⟨gs, hgs, (List.nodup_cons.mp hnodup).2, rfl⟩
    · simp [hname, hfield] at hunknown

theorem content?_member {f : FieldDecl κ} {key : Key} {t t' : Tree}
    {before after : List (Key × Tree)}
    (hkey : key.text?.bind (S.field? k) = some f) (hchange : UnseenChange S f.type t t')
    (hcontent : ∀ c, t.content? S depth f.type = some c →
      ∃ c', t'.content? S depth f.type = some c' ∧ c.Alike c')
    (h : (Tree.object (before ++ (key, t) :: after)).content? S (depth + 1) (.record k) = some c) :
    ∃ c', (Tree.object (before ++ (key, t') :: after)).content? S (depth + 1) (.record k) =
      some c' ∧ c.Alike c' := by
  obtain ⟨gs, hgs, hnodup, rfl⟩ := content?_object.mp h
  -- the member is taken to the front, changed there and taken back
  obtain ⟨gs₁, hgs₁, hp₁⟩ := hgs.perm List.perm_middle
  have hnodup₁ := nodup_keys_of_perm hp₁ hnodup
  cases hgs₁ with
  | skip hname hfield _ => simp [hname, hfield] at hkey
  | @give _ _ name g x _ gs₂ hname hfield hx hgs₂ =>
    obtain rfl : g = f := by simpa [hname, hfield] using hkey
    obtain ⟨c, c', rfl, hc', halike⟩ := hchange.optional? hcontent hx
    obtain ⟨gs₃, hgs₃, hp₃⟩ := (Gives.give hname hfield hc' hgs₂).perm List.perm_middle.symm
    have hnodup₃ := nodup_keys_of_perm hp₃ hnodup₁
    have hmembers : AlikeMembers ((g.key, c) :: held gs₂) ((g.key, c') :: held gs₂) :=
      .cons ⟨rfl, halike⟩ (AlikeMembers.refl _)
    refine ⟨_, content?_object.mpr ⟨gs₃, hgs₃, hnodup₃, rfl⟩, .record fun name => ?_⟩
    rw [lookup_held_of_perm hp₁ hnodup, ← lookup_held_of_perm hp₃ hnodup₁]
    exact hmembers.lookup name

end Change

/-- A change that the schema does not see leaves what is read alike. -/
theorem UnseenChange.content? {κ : Type} {S : Schema κ} {type : FieldType κ} {t t' : Tree}
    (h : UnseenChange S type t t') {depth : Nat} {c : Content}
    (hc : t.content? S depth type = some c) :
    ∃ c', t'.content? S depth type = some c' ∧ c.Alike c' := by
  induction h generalizing depth c with
  | drop before hm =>
    cases depth with
    | zero => cases hc
    | succ depth =>
      obtain ⟨c₁, hc₁, halike⟩ := content?_permute List.perm_middle hc
      exact ⟨c₁, content?_drop hm hc₁, halike⟩
  | permute hperm =>
    cases depth with
    | zero => cases hc
    | succ depth => exact content?_permute hperm hc
  | item before _ ih =>
    cases depth with
    | zero => cases hc
    | succ depth =>
      rw [Tree.content?] at hc
      obtain ⟨cs, hcs, hc⟩ := Option.bind_eq_some_iff.mp hc
      cases hc
      obtain ⟨cs', hcs', halike⟩ := mapM_replace (fun _ => ih) hcs
      exact ⟨.list cs', by rw [Tree.content?, hcs']; rfl, .list halike⟩
  | member before hkey hchange ih =>
    cases depth with
    | zero => cases hc
    | succ depth => exact content?_member hkey hchange (fun _ => ih) hc
  | @place k f t t' before after hf hchange ih =>
    cases depth with
    | zero => cases hc
    | succ depth =>
      rw [Tree.content?] at hc
      obtain ⟨x, hx, hc⟩ := Option.bind_eq_some_iff.mp hc
      cases hc
      have hfield : ∀ x, Document.optional? (Tree.content? S depth f.type) t = some x →
          ∃ x', Document.optional? (Tree.content? S depth f.type) t' = some x' ∧
            Option.Rel Content.Alike x x' := by
        intro x hx
        obtain ⟨d, d', rfl, hd', halike⟩ := hchange.optional? (fun _ => ih) hx
        exact ⟨some d', hd', .some halike⟩
      obtain ⟨x', hx', halike⟩ := inOrder?_replace hfield hf hx
      exact ⟨.record x'.members, by rw [Tree.content?, hx']; rfl, .record halike.lookup⟩

end ExecUml.Document
