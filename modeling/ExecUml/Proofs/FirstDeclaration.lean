import ExecUml.Model.ClassIndex

/-!
# The index finds first declarations

Looking a name up in the index of a model is looking for the first declaration of that name.
-/

set_option autoImplicit false

namespace ExecUml.ClassIndex

theorem entries_insert (ix : ClassIndex) (d : Domain × ClassDecl) :
    (ix.insert d).entries =
      if (ix.declaration? d.2.name).isNone then ix.entries ++ [d] else ix.entries := by
  unfold insert
  split
  · rfl
  · split <;> rfl

theorem declaration?_insert (ix : ClassIndex) (d : Domain × ClassDecl) (name : String) :
    declaration? (ix.insert d) name =
      (ix.declaration? name).or (if d.2.name = name then some d else none) := by
  rw [declaration?, entries_insert]
  split
  · rw [List.find?_append]
    by_cases hname : d.2.name = name
    · simp [declaration?, hname]
    · simp [declaration?, hname]
  · rename_i htaken
    by_cases hname : d.2.name = name
    · subst hname
      obtain ⟨e, he⟩ : ∃ e, ix.declaration? d.2.name = some e :=
        Option.ne_none_iff_exists'.mp (by simpa using htaken)
      rw [he, Option.some_or]
      exact he
    · rw [if_neg hname, Option.or_none]
      rfl

theorem declaration?_foldl_insert (ds : List (Domain × ClassDecl)) (ix : ClassIndex)
    (name : String) :
    declaration? (ds.foldl insert ix) name =
      (ix.declaration? name).or (ds.find? (·.2.name == name)) := by
  induction ds generalizing ix with
  | nil => simp
  | cons d ds ih =>
    rw [List.foldl_cons, ih, declaration?_insert, Option.or_assoc]
    by_cases hname : d.2.name = name
    · rw [if_pos hname, Option.some_or, List.find?_cons_of_pos (by simpa using hname)]
    · rw [if_neg hname, Option.none_or, List.find?_cons_of_neg (by simpa using hname)]

theorem declaration?_ofModel (m : Model) (name : String) :
    declaration? (ofModel m) name = m.declarations.find? (·.2.name == name) := by
  rw [ofModel, declaration?_foldl_insert]
  rfl

variable {m : Model} {name : String}

/-- A class that is found is declared under the name, in the domain that is found with it. -/
theorem declared_of_get? {c : ClassDecl} (h : (ofModel m).get? name = some c) :
    ∃ d, (ofModel m).domainOf? name = some d ∧ (d, c) ∈ m.declarations ∧ c.name = name := by
  obtain ⟨⟨d, c⟩, he, rfl⟩ := Option.map_eq_some_iff.mp h
  have hfind := he
  rw [declaration?_ofModel] at hfind
  refine ⟨d, by simp [domainOf?, he], List.mem_of_find?_eq_some hfind, ?_⟩
  simpa using List.find?_some hfind

end ExecUml.ClassIndex
