import ExecUml.Proofs.FirstDeclaration
import Mathlib.Data.List.Forall2
import Mathlib.Data.List.Induction
import Mathlib.Data.List.Nodup

/-!
# What the index of a model holds

The index is made by one pass over all declarations. It finds for each name the class and the domain
of the first declaration, and lists the names that are declared again at the places of their second
declarations. Third and later declarations leave it as it is.
-/

set_option autoImplicit false

namespace ExecUml

/-! ## First declarations -/

/-- The names of the classes that are declared directly in domains, in the order of the model. -/
def Model.classNames (m : Model) : List String := m.domains.flatMap fun d => d.classes.map (·.name)

/-- The class `c` of the domain `d` is the first of its name: neither an earlier domain nor the part
of `d` in front of it has a class of that name. -/
def Model.DeclaresFirst (m : Model) (name : String) (d : Domain) (c : ClassDecl) : Prop :=
  ∃ domains domains' classes classes',
    m.domains = domains ++ d :: domains' ∧ d.classes = classes ++ c :: classes' ∧ c.name = name ∧
    (∀ d' ∈ domains, ∀ c' ∈ d'.classes, c'.name ≠ name) ∧ ∀ c' ∈ classes, c'.name ≠ name

theorem Model.map_name_declarations (m : Model) : m.declarations.map (·.2.name) = m.classNames := by
  simp [declarations, classNames, List.map_flatMap, Function.comp_def]

theorem Domain.find?_classes_eq_some {d e : Domain} {c : ClassDecl} {name : String} :
    (e.classes.map (e, ·)).find? (·.2.name == name) = some (d, c) ↔
      e = d ∧ ∃ classes classes', d.classes = classes ++ c :: classes' ∧ c.name = name ∧
        ∀ c' ∈ classes, c'.name ≠ name := by
  rw [List.find?_map]
  constructor
  · intro h
    obtain ⟨c', hfind, heq⟩ := Option.map_eq_some_iff.mp h
    cases heq
    obtain ⟨hname, classes, classes', hsplit, hbefore⟩ := List.find?_eq_some_iff_append.mp hfind
    exact ⟨rfl, classes, classes', hsplit,
      by simpa using hname, fun c' hc' => by simpa using hbefore c' hc'⟩
  · rintro ⟨rfl, classes, classes', hsplit, hname, hbefore⟩
    refine Option.map_eq_some_iff.mpr
      ⟨c, List.find?_eq_some_iff_append.mpr ⟨by simpa using hname, ?_⟩, rfl⟩
    exact ⟨classes, classes', hsplit, fun c' hc' => by simpa using hbefore c' hc'⟩

theorem Domain.find?_classes_eq_none {d : Domain} {name : String} :
    (d.classes.map (d, ·)).find? (·.2.name == name) = none ↔ ∀ c ∈ d.classes, c.name ≠ name := by
  simp

theorem Model.find?_declarations_eq_some {m : Model} {name : String} {d : Domain} {c : ClassDecl} :
    m.declarations.find? (·.2.name == name) = some (d, c) ↔ m.DeclaresFirst name d c := by
  rw [declarations, List.find?_flatMap, List.findSome?_eq_some_iff]
  simp only [Domain.find?_classes_eq_some, Domain.find?_classes_eq_none]
  constructor
  · rintro ⟨domains, e, domains', hdomains, ⟨rfl, classes, classes', hclasses, hname, hbefore⟩,
      hearlier⟩
    exact ⟨domains, domains', classes, classes', hdomains, hclasses, hname, hearlier, hbefore⟩
  · rintro ⟨domains, domains', classes, classes', hdomains, hclasses, hname, hearlier, hbefore⟩
    exact ⟨domains, d, domains', hdomains, ⟨rfl, classes, classes', hclasses, hname, hbefore⟩,
      hearlier⟩

theorem Model.find?_declarations_eq_none {m : Model} {name : String} :
    m.declarations.find? (·.2.name == name) = none ↔
      ∀ d ∈ m.domains, ∀ c ∈ d.classes, c.name ≠ name := by
  simp [declarations]

/-! ## Second declarations -/

/-- The second occurrence of a name is at place `i`. -/
def IsSecond (names : List String) (name : String) (i : Nat) : Prop :=
  names[i]? = some name ∧ (names.take i).count name = 1

/-- The names that occur at least twice, each once, in the order of their second occurrences. -/
structure ListsRepeated (names repeated : List String) : Prop where
  mem_iff : ∀ name, name ∈ repeated ↔ 2 ≤ names.count name
  nodup : repeated.Nodup
  /-- The places of the second occurrences go up along the list. -/
  ordered : ∃ places : List Nat, List.Forall₂ (IsSecond names) repeated places ∧
    places.Pairwise (· < ·)

section Repeated

variable {names repeated : List String} {name : String}

theorem IsSecond.lt {i : Nat} (h : IsSecond names name i) : i < names.length :=
  (List.getElem?_eq_some_iff.mp h.1).1

theorem IsSecond.append {i : Nat} (h : IsSecond names name i) (more : List String) :
    IsSecond (names ++ more) name i := by
  rw [IsSecond, List.getElem?_append_left h.lt, List.take_append_of_le_length (Nat.le_of_lt h.lt)]
  exact h

theorem forall₂_isSecond_append {places : List Nat}
    (h : List.Forall₂ (IsSecond names) repeated places)
    (more : List String) : List.Forall₂ (IsSecond (names ++ more)) repeated places :=
  h.imp fun _ _ hsecond => hsecond.append more

theorem lt_of_forall₂_isSecond {places : List Nat}
    (h : List.Forall₂ (IsSecond names) repeated places) :
    ∀ i ∈ places, i < names.length := by
  have hboth :
      List.Forall₂ (fun i name => i < names.length ∧ IsSecond names name i) places repeated :=
    h.flip.imp fun _ _ hsecond => ⟨IsSecond.lt hsecond, hsecond⟩
  exact ((List.forall₂_and_left _ _).mp hboth).1

theorem listsRepeated_nil : ListsRepeated [] [] := ⟨by simp, .nil, [], .nil, .nil⟩

/-- Nothing is listed for a name that is new or that is listed already. -/
theorem ListsRepeated.append_of_listed (h : ListsRepeated names repeated)
    (hname : name ∈ names → name ∈ repeated) :
    ListsRepeated (names ++ [name]) repeated := by
  refine ⟨?_, h.nodup, ?_⟩
  · intro other
    rw [h.mem_iff, List.count_append, List.count_singleton]
    by_cases heq : name = other
    · subst heq
      have hcount : 1 ≤ names.count name → 2 ≤ names.count name := fun hone =>
        (h.mem_iff name).mp (hname (List.one_le_count_iff.mp hone))
      rw [if_pos (beq_self_eq_true name)]
      omega
    · rw [if_neg (by simpa using heq), Nat.add_zero]
  · obtain ⟨places, hsecond, hplaces⟩ := h.ordered
    exact ⟨places, forall₂_isSecond_append hsecond [name], hplaces⟩

/-- A name that comes up for the second time is listed last, for its place is behind all others. -/
theorem ListsRepeated.append_of_second (h : ListsRepeated names repeated) (hname : name ∈ names)
    (hnew : name ∉ repeated) : ListsRepeated (names ++ [name]) (repeated ++ [name]) := by
  have hone : names.count name = 1 := by
    have hpos : 1 ≤ names.count name := List.one_le_count_iff.mpr hname
    rw [h.mem_iff] at hnew
    omega
  refine ⟨?_, ?_, ?_⟩
  · intro other
    rw [List.mem_append, List.mem_singleton, h.mem_iff, List.count_append, List.count_singleton]
    by_cases heq : name = other
    · subst heq
      rw [if_pos (beq_self_eq_true name), hone]
      exact iff_of_true (.inr rfl) (Nat.le_refl 2)
    · rw [if_neg (by simpa using heq), Nat.add_zero]
      exact or_iff_left (Ne.symm heq)
  · exact List.nodup_append_comm.mpr (List.nodup_cons.mpr ⟨hnew, h.nodup⟩)
  · obtain ⟨places, hsecond, hplaces⟩ := h.ordered
    have hlast : IsSecond (names ++ [name]) name names.length := by simp [IsSecond, hone]
    refine ⟨places ++ [names.length], ?_, ?_⟩
    · exact List.rel_append (forall₂_isSecond_append hsecond [name]) (.cons hlast .nil)
    · rw [List.pairwise_append]
      refine ⟨hplaces, List.pairwise_singleton _ _, ?_⟩
      intro i hi j hj
      rw [List.mem_singleton.mp hj]
      exact lt_of_forall₂_isSecond hsecond i hi

end Repeated

namespace ClassIndex

/-- One more declaration: the index knows the names in front of it and lists those that are repeated
there. -/
theorem listsRepeated_insert {ix : ClassIndex} {names : List String}
    (h : ListsRepeated names ix.duplicates)
    (hknown : ∀ name, ix.declaration? name = none ↔ name ∉ names) (d : Domain × ClassDecl) :
    ListsRepeated (names ++ [d.2.name]) (ix.insert d).duplicates := by
  unfold insert
  split
  · rename_i hfree
    have hnew : d.2.name ∉ names := (hknown _).mp (by simpa using hfree)
    exact h.append_of_listed fun hmem => absurd hmem hnew
  · rename_i htaken
    have hmem : d.2.name ∈ names := by
      by_contra hnew
      exact htaken (by simpa using (hknown _).mpr hnew)
    -- the second declaration is noted, a later one is not
    split
    · rename_i hlisted
      exact h.append_of_listed fun _ => by simpa using hlisted
    · rename_i hlisted
      exact h.append_of_second hmem (by simpa using hlisted)

theorem declaration?_foldl_insert_eq_none {ds : List (Domain × ClassDecl)} {name : String} :
    declaration? (ds.foldl insert empty) name = none ↔ name ∉ ds.map (·.2.name) := by
  have hempty : declaration? empty name = none := rfl
  rw [declaration?_foldl_insert, hempty, Option.none_or, List.find?_eq_none, List.mem_map]
  simp

theorem listsRepeated_foldl_insert (ds : List (Domain × ClassDecl)) :
    ListsRepeated (ds.map (·.2.name)) (ds.foldl insert empty).duplicates := by
  induction ds using List.reverseRecOn with
  | nil => exact listsRepeated_nil
  | append_singleton ds d ih =>
    rw [List.foldl_concat, List.map_append]
    exact listsRepeated_insert ih (fun _ => declaration?_foldl_insert_eq_none) d

variable {m : Model} {name : String}

theorem found_iff_declaresFirst {d : Domain} {c : ClassDecl} :
    (ofModel m).get? name = some c ∧ (ofModel m).domainOf? name = some d ↔
      m.DeclaresFirst name d c := by
  rw [← Model.find?_declarations_eq_some, ← declaration?_ofModel, get?, domainOf?]
  cases declaration? (ofModel m) name with
  | none => simp
  | some e => simp [Prod.ext_iff, and_comm]

theorem declaration?_eq_none_iff :
    declaration? (ofModel m) name = none ↔ ∀ d ∈ m.domains, ∀ c ∈ d.classes, c.name ≠ name := by
  rw [declaration?_ofModel, Model.find?_declarations_eq_none]

end ClassIndex

/-- The index of a model finds for a name the class and the domain of its first declaration, and
neither of them exactly if no domain declares a class of that name. Its duplicates are the names
that are declared at least twice, each once, in the order of their second declarations. -/
theorem index_keeps_first_and_lists_second (m : Model) (name : String) :
    (∀ d c, (ClassIndex.ofModel m).get? name = some c ∧
      (ClassIndex.ofModel m).domainOf? name = some d ↔ m.DeclaresFirst name d c) ∧
    ((ClassIndex.ofModel m).get? name = none ↔ ∀ d ∈ m.domains, ∀ c ∈ d.classes, c.name ≠ name) ∧
    ((ClassIndex.ofModel m).domainOf? name = none ↔
      ∀ d ∈ m.domains, ∀ c ∈ d.classes, c.name ≠ name) ∧
    ListsRepeated m.classNames (ClassIndex.ofModel m).duplicates := by
  refine ⟨fun d c => ClassIndex.found_iff_declaresFirst, ?_, ?_, ?_⟩
  · rw [ClassIndex.get?, Option.map_eq_none_iff, ClassIndex.declaration?_eq_none_iff]
  · rw [ClassIndex.domainOf?, Option.map_eq_none_iff, ClassIndex.declaration?_eq_none_iff]
  · rw [← m.map_name_declarations]
    exact ClassIndex.listsRepeated_foldl_insert m.declarations

end ExecUml
