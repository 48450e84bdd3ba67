import ExecUml.Proofs.UnseenChanges
import Mathlib.Data.List.Nodup

/-!
# Parts of a tree

What a record in a document gives for a field, found in its tree: by the spelling of a member's key
if the record is an object, and by the place if it is a list. A null counts as nothing. The content
of the record has at the field exactly what the part is read as.
-/

set_option autoImplicit false

namespace ExecUml.Document

section Parts

variable {κ : Type} (S : Schema κ) (k : κ)

/-- The fields that a record of kind `k` gives, each with its tree. -/
def Tree.given : Tree → List (FieldDecl κ × Tree)
  | .object members => members.filterMap fun m => (m.1.text?.bind (S.field? k)).map (·, m.2)
  | .list items => (S.fields k).zip items
  | .scalar _ => []

/-- What a record gives for a field, unless it is null. -/
def Tree.part? (key : String) (t : Tree) : Option Tree :=
  ((t.given S k).find? (·.1.key == key)).bind fun g => if g.2.isNull then none else some g.2

def Tree.items : Tree → List Tree
  | .list items => items
  | _ => []

/-- The elements that a record gives for a field with a list. -/
def Tree.parts (key : String) (t : Tree) : List Tree := (t.part? S k key).elim [] Tree.items

/-- The tree is read as this content, at some depth of nesting. -/
def Tree.Reads (type : FieldType κ) (t : Tree) (c : Content) : Prop :=
  ∃ depth, t.content? S depth type = some c

end Parts

section Given

variable {κ : Type} {S : Schema κ} {k : κ} {read : FieldType κ → Tree → Option (Option Content)}

/-- A field with its tree, and the key with the content that is read there. -/
def ReadAt (read : FieldType κ → Tree → Option (Option Content)) (g : FieldDecl κ × Tree)
    (x : String × Option Content) : Prop := g.1.key = x.1 ∧ read g.1.type g.2 = some x.2

theorem forall₂_of_gives {ms : List (Key × Tree)} {gs : List (String × Option Content)}
    (h : Gives read (S.field? k) ms gs) :
    List.Forall₂ (ReadAt read) ((Tree.object ms).given S k) gs := by
  induction h with
  | nil => exact .nil
  | @skip key t name ms gs hname hfield _ ih =>
    have hkey : key.text?.bind (S.field? k) = none := by rw [hname, Option.bind_some, hfield]
    rw [Tree.given, List.filterMap_cons_none (by rw [hkey, Option.map_none])]
    exact ih
  | @give key t name f c ms gs hname hfield hc _ ih =>
    have hkey : key.text?.bind (S.field? k) = some f := by rw [hname, Option.bind_some, hfield]
    rw [Tree.given, List.filterMap_cons_some (by rw [hkey, Option.map_some])]
    exact .cons ⟨rfl, hc⟩ ih

theorem forall₂_of_inOrder? {fs : List (FieldDecl κ)} {ts : List Tree} {acc x : Filled}
    (h : inOrder? read fs acc ts = some x) :
    ∃ gs, List.Forall₂ (ReadAt read) (fs.zip ts) gs ∧ x.members = acc.members ++ held gs := by
  induction ts generalizing fs acc with
  | nil =>
    rw [inOrder?] at h
    cases h
    exact ⟨[], by simp, by simp [held]⟩
  | cons t ts ih =>
    cases fs with
    | nil => cases h
    | cons f fs =>
      obtain ⟨c, hc, h⟩ := Option.bind_eq_some_iff.mp h
      obtain ⟨gs, hgs, hmembers⟩ := ih h
      exact ⟨(f.key, c) :: gs, .cons ⟨rfl, hc⟩ hgs, by rw [hmembers, members_put]⟩

theorem map_key_of_forall₂ {given : List (FieldDecl κ × Tree)} {gs : List (String × Option Content)}
    (h : List.Forall₂ (ReadAt read) given gs) : given.map (·.1.key) = gs.map (·.1) := by
  induction h with
  | nil => rfl
  | cons hx _ ih => rw [List.map_cons, List.map_cons, hx.1, ih]

theorem map_key_zip_sublist (fs : List (FieldDecl κ)) (ts : List Tree) :
    ((fs.zip ts).map (·.1.key)).Sublist (fs.map (·.key)) := by
  induction fs generalizing ts with
  | nil => simp
  | cons f fs ih =>
    cases ts with
    | nil => simp
    | cons t ts => exact (ih ts).cons_cons f.key

/-- A record, however it is written, holds what is read at the fields that it gives. -/
theorem content?_record {t : Tree} {depth : Nat} {c : Content}
    (hkeys : ((S.fields k).map (·.key)).Nodup)
    (h : t.content? S (depth + 1) (.record k) = some c) :
    ∃ gs, List.Forall₂ (ReadAt fun type => optional? (Tree.content? S depth type))
        (t.given S k) gs ∧
      (gs.map (·.1)).Nodup ∧ c = .record (held gs) := by
  cases t with
  | scalar token => cases h
  | list items =>
    obtain ⟨x, hx, heq⟩ := Option.bind_eq_some_iff.mp h
    cases heq
    obtain ⟨gs, hgs, hmembers⟩ := forall₂_of_inOrder? hx
    refine ⟨gs, hgs, ?_, by rw [hmembers, List.nil_append]⟩
    rw [← map_key_of_forall₂ hgs]
    exact (map_key_zip_sublist _ _).nodup hkeys
  | object members =>
    obtain ⟨gs, hgs, hnodup, hc⟩ := content?_object.mp h
    exact ⟨gs, forall₂_of_gives hgs, hnodup, hc⟩

theorem lookup_held_of_not_mem {gs : List (String × Option Content)} {key : String}
    (h : key ∉ gs.map (·.1)) :
    (held gs).lookup key = none := by
  induction gs with
  | nil => rfl
  | cons x gs ih =>
    have hkey : key ≠ x.1 := List.ne_of_not_mem_cons h
    rw [lookup_held_cons, if_neg hkey, ih (List.not_mem_of_not_mem_cons h)]

/-- Of fields that are given once, the first with a key is the only one. -/
theorem read_of_find? {given : List (FieldDecl κ × Tree)} {gs : List (String × Option Content)}
    (h : List.Forall₂ (ReadAt read) given gs) (hnodup : (gs.map (·.1)).Nodup) {key : String}
    {g : FieldDecl κ × Tree} (hfind : given.find? (·.1.key == key) = some g) :
    read g.1.type g.2 = some ((held gs).lookup key) := by
  induction h with
  | nil => cases hfind
  | @cons g₀ x given gs hx _ ih =>
    obtain ⟨hkey, hread⟩ := hx
    obtain ⟨hnew, hnodup⟩ := List.nodup_cons.mp hnodup
    rw [List.find?_cons, hkey] at hfind
    rw [lookup_held_cons]
    by_cases heq : key = x.1
    · rw [heq, beq_self_eq_true] at hfind
      cases hfind
      rw [if_pos heq, hread, heq, lookup_held_of_not_mem hnew, Option.or_none]
    · rw [beq_eq_false_iff_ne.mpr (Ne.symm heq)] at hfind
      rw [if_neg heq]
      exact ih hnodup hfind

theorem lookup_of_find?_none {given : List (FieldDecl κ × Tree)}
    {gs : List (String × Option Content)}
    (h : List.Forall₂ (ReadAt read) given gs) {key : String}
    (hfind : given.find? (·.1.key == key) = none) : (held gs).lookup key = none := by
  apply lookup_held_of_not_mem
  rw [← map_key_of_forall₂ h, List.mem_map]
  rintro ⟨g, hg, hkey⟩
  have hne := List.find?_eq_none.mp hfind g hg
  simp [hkey] at hne

end Given

section Reads

variable {κ : Type} {S : Schema κ} {k : κ} {t : Tree} {c : Content}

theorem Tree.mem_fields_of_mem_given {g : FieldDecl κ × Tree} (h : g ∈ t.given S k) :
    g.1 ∈ S.fields k := by
  cases t with
  | scalar token => cases h
  | list items => exact (List.of_mem_zip h).1
  | object members =>
    obtain ⟨m, _, hm⟩ := List.mem_filterMap.mp h
    obtain ⟨f, hf, rfl⟩ := Option.map_eq_some_iff.mp hm
    obtain ⟨name, _, hname⟩ := Option.bind_eq_some_iff.mp hf
    exact List.mem_of_find?_eq_some hname

/-- At every field of a record stands what its part is read as, and nothing where there is no
part. -/
theorem Tree.Reads.field? (hkeys : ((S.fields k).map (·.key)).Nodup) (h : t.Reads S (.record k) c)
    {f : FieldDecl κ} (hf : f ∈ S.fields k) :
    Option.Rel (Tree.Reads S f.type) (t.part? S k f.key) (c.field? f.key) := by
  obtain ⟨depth, h⟩ := h
  cases depth with
  | zero => cases t <;> cases h
  | succ depth =>
    obtain ⟨gs, hgs, hnodup, rfl⟩ := content?_record hkeys h
    rw [Tree.part?, Content.field?]
    cases hfind : (t.given S k).find? (·.1.key == f.key) with
    | none =>
      rw [lookup_of_find?_none hgs hfind]
      exact .none
    | some g =>
      have hread := read_of_find? hgs hnodup hfind
      have hg : g.1 = f := by
        refine List.inj_on_of_nodup_map hkeys
          (mem_fields_of_mem_given (List.mem_of_find?_eq_some hfind)) hf ?_
        simpa using List.find?_some hfind
      rw [hg, optional?] at hread
      rw [Option.bind_some]
      split at hread
      · rename_i hnull
        rw [if_pos hnull, ← Option.some.inj hread]
        exact .none
      · rename_i hnull
        obtain ⟨x, hx, heq⟩ := Option.bind_eq_some_iff.mp hread
        rw [if_neg hnull, ← Option.some.inj heq]
        exact .some ⟨depth, hx⟩

theorem forall₂_of_mapM {f : Tree → Option Content} {ts : List Tree} {cs : List Content}
    (h : ts.mapM f = some cs) : List.Forall₂ (fun t c => f t = some c) ts cs := by
  induction ts generalizing cs with
  | nil =>
    cases h
    exact .nil
  | cons t ts ih =>
    rw [List.mapM_cons] at h
    obtain ⟨c, hc, h⟩ := Option.bind_eq_some_iff.mp h
    obtain ⟨ds, hds, h⟩ := Option.bind_eq_some_iff.mp h
    cases h
    exact .cons hc (ih hds)

theorem Tree.Reads.items (h : t.Reads S (.list k) c) :
    ∃ cs, c = .list cs ∧ List.Forall₂ (Tree.Reads S (.record k)) t.items cs := by
  obtain ⟨depth, h⟩ := h
  cases depth with
  | zero => cases t <;> cases h
  | succ depth =>
    cases t with
    | scalar token => cases h
    | object members => cases h
    | list items =>
      obtain ⟨cs, hcs, heq⟩ := Option.bind_eq_some_iff.mp h
      cases heq
      exact ⟨cs, rfl, (forall₂_of_mapM hcs).imp fun _ _ hc => ⟨depth, hc⟩⟩

/-- The elements at a field with a list are read one by one. -/
theorem Tree.Reads.parts (hkeys : ((S.fields k).map (·.key)).Nodup) (h : t.Reads S (.record k) c)
    {f : FieldDecl κ} (hf : f ∈ S.fields k) {of : κ} (htype : f.type = .list of) :
    List.Forall₂ (Tree.Reads S (.record of)) (t.parts S k f.key) ((c.list? f.key).getD []) := by
  have hfield := h.field? hkeys hf
  rw [Tree.parts, Content.list?]
  generalize t.part? S k f.key = part?, c.field? f.key = field? at hfield
  cases hfield with
  | none => exact .nil
  | some hread =>
    rw [htype] at hread
    obtain ⟨cs, rfl, hcs⟩ := hread.items
    exact hcs

end Reads

end ExecUml.Document
