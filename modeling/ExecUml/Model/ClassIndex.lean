import ExecUml.Model.Basic

/-!
# The class index

Classes by name. Of several declarations of a name the first one counts. Following parents from a
class ends where a parent is absent or unknown, or where a name comes up again.

Classes of relationships are not indexed: nothing can inherit from them.
-/

set_option autoImplicit false

namespace ExecUml

/-- One declaration per name, in order, and the names that were declared again. -/
structure ClassIndex where
  entries : List (Domain × ClassDecl)
  duplicates : List String

namespace ClassIndex

def empty : ClassIndex := ⟨[], []⟩

/-- The declaration of a name with its domain. -/
def declaration? (ix : ClassIndex) (name : String) : Option (Domain × ClassDecl) :=
  ix.entries.find? (·.2.name == name)

/-- Adds a declaration; if its name is taken, only the name is noted, once. -/
def insert (ix : ClassIndex) (d : Domain × ClassDecl) : ClassIndex :=
  if (ix.declaration? d.2.name).isNone then { ix with entries := ix.entries ++ [d] }
  else if ix.duplicates.contains d.2.name then ix
  else { ix with duplicates := ix.duplicates ++ [d.2.name] }

def ofModel (m : Model) : ClassIndex := m.declarations.foldl insert empty

def get? (ix : ClassIndex) (name : String) : Option ClassDecl := (ix.declaration? name).map (·.2)

def domainOf? (ix : ClassIndex) (name : String) : Option Domain := (ix.declaration? name).map (·.1)

/-- The class that a class inherits from, if it is known. -/
def parent? (ix : ClassIndex) (c : ClassDecl) : Option ClassDecl := c.parent.bind ix.get?

/-- The number of indexed classes with a name outside `seen`. -/
def unseen (ix : ClassIndex) (seen : List String) : Nat :=
  ix.entries.countP fun e => !seen.contains e.2.name

theorem mem_of_get? {ix : ClassIndex} {name : String} {c : ClassDecl}
    (h : ix.get? name = some c) : ∃ d, (d, c) ∈ ix.entries := by
  obtain ⟨e, he, rfl⟩ := Option.map_eq_some_iff.1 h
  exact ⟨e.1, List.mem_of_find?_eq_some he⟩

theorem mem_of_parent? {ix : ClassIndex} {c p : ClassDecl} (h : ix.parent? c = some p) :
    ∃ d, (d, p) ∈ ix.entries := by
  obtain ⟨name, _, hp⟩ := Option.bind_eq_some_iff.1 h
  exact mem_of_get? hp

theorem countP_lt_of_mem {α : Type} {p q : α → Bool} {l : List α} {a : α}
    (hpq : ∀ x, p x = true → q x = true) (ha : a ∈ l) (hp : p a = false) (hq : q a = true) :
    l.countP p < l.countP q := by
  induction l with
  | nil => simp at ha
  | cons b l ih =>
    have hle : l.countP p ≤ l.countP q := List.countP_mono_left fun x _ => hpq x
    rcases List.mem_cons.1 ha with rfl | hl
    · simp only [List.countP_cons, hp, hq]; simp; omega
    · have := ih hl
      simp only [List.countP_cons]
      by_cases hb : p b = true
      · simp [hb, hpq b hb, this]
      · by_cases hqb : q b = true <;> simp [hb, hqb] <;> omega

theorem unseen_lt {ix : ClassIndex} {c p : ClassDecl} {seen : List String}
    (h : ix.parent? c = some p) (hs : p.name ∉ seen) :
    ix.unseen (p.name :: seen) < ix.unseen seen := by
  obtain ⟨d, hd⟩ := mem_of_parent? h
  apply countP_lt_of_mem _ hd
  · simp
  · simpa using hs
  · intro x
    simp only [List.contains_cons, Bool.not_or, Bool.and_eq_true]
    exact fun hx => hx.2

/-- The classes met by following parents, nearest first, and whether the walk ended at a name met
before. -/
def walk (ix : ClassIndex) (seen : List String) (c : ClassDecl) : List ClassDecl × Bool :=
  match _h : ix.parent? c with
  | none => ([], false)
  | some p =>
    if _hs : p.name ∈ seen then ([], true)
    else
      let (above, again) := ix.walk (p.name :: seen) p
      (p :: above, again)
termination_by ix.unseen seen
decreasing_by exact unseen_lt _h _hs

/-- The ancestors of a class, nearest first. -/
def ancestors (ix : ClassIndex) (c : ClassDecl) : List ClassDecl := (ix.walk [c.name] c).1

/-- Whether following parents comes back to a class. -/
def hasCycle (ix : ClassIndex) (c : ClassDecl) : Bool := (ix.walk [c.name] c).2

/-- The naming attributes of the ancestors, oldest ancestor first. -/
def inheritedNaming (ix : ClassIndex) (c : ClassDecl) : List Attribute :=
  (ix.ancestors c).reverse.flatMap (·.namingAttributes)

/-- Whether the class or an ancestor declares the attribute. -/
def hasAttribute (ix : ClassIndex) (c : ClassDecl) (name : String) : Bool :=
  c.hasAttribute name || (ix.ancestors c).any (·.hasAttribute name)

end ClassIndex

end ExecUml
