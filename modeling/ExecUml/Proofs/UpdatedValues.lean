import ExecUml.Declaration
import ExecUml.Proofs.CallActions
import ExecUml.Proofs.ParentConstructors

/-!
# Values of updates and defaults

The text of an update and the default of an attribute are written into a script by different rules.
For a default the type of the attribute decides, for an update the text itself: whole numbers and
flags stand for themselves. So the two agree for attributes of type string unless the text is a
whole number or a flag, and for all others only if it is one.

An update that is written bare puts a number or a flag into a property of type string.
-/

set_option autoImplicit false

namespace ExecUml

open Script

theorem literal_of_bare {v : String} (h : isBare v = true) : literal v = .verbatim v := by
  have hbare : (!v.toList.isEmpty && v.toList.all Text.isAsciiDigit) = true ∨ v = "true" ∨
      v = "false" := by
    simpa [isBare, isNumeral, or_assoc] using h
  rw [literal, if_pos (by simpa [or_assoc] using hbare)]

theorem literal_of_not_bare {v : String} (h : isBare v = false) : literal v = .string v := by
  have hbare :
      ¬((!v.toList.isEmpty && v.toList.all Text.isAsciiDigit) = true ∨ v = "true" ∨
        v = "false") := by
    rw [Bool.eq_false_iff] at h
    simpa [isBare, isNumeral, or_assoc] using h
  rw [literal, if_neg (by simpa [or_assoc] using hbare)]

/-- A property of type string holds a text after an update exactly if the text was quoted. -/
theorem admits_literal_iff (f : Frame) (o : Object) (v : String) :
    (TypeExpr.named "string").Admits ((literal v).eval f o) ↔ isBare v = false := by
  rw [literal_eval]
  constructor
  · rintro ⟨s, hs⟩
    cases hbare : isBare v with
    | false => rfl
    | true => exact absurd hs (literalValue_of_bare hbare s)
  · intro hbare
    exact ⟨v, literalValue_of_not_bare hbare⟩

namespace Attribute

def withDefault (a : Attribute) (v : String) : Attribute := { a with defaultValue := some v }

theorem initial_withDefault (a : Attribute) (v : String) : (a.withDefault v).property.initial =
    some (if typeName a.dataType = "string" then .string v else .verbatim v) := by
  simp [withDefault, property, initial, type]

/-- Where the type is string, a text is written alike as an update and as a default exactly if it is
not bare; for all other types exactly if it is. -/
theorem initial_eq_literal_iff (a : Attribute) (v : String) :
    (a.withDefault v).property.initial = some (literal v) ↔
      (typeName a.dataType = "string" ↔ isBare v = false) := by
  rw [initial_withDefault]
  cases hbare : isBare v with
  | false =>
    by_cases htype : typeName a.dataType = "string" <;> simp [literal_of_not_bare hbare, htype]
  | true => by_cases htype : typeName a.dataType = "string" <;> simp [literal_of_bare hbare, htype]

end Attribute

theorem Scope.declares_of_attribute? {scope : Scope} {a : Attribute}
    (h : scope.owner.attribute? a.name = some a) : scope.Declares a.name :=
  ⟨scope.owner, List.mem_cons_self, a, List.mem_of_find?_eq_some h, rfl⟩

/-- An update of an attribute that the class itself declares assigns to the property of that
attribute. -/
theorem stepCode_of_attribute {scope : Scope} {a : Attribute}
    (hown : scope.owner.attribute? a.name = some a)
    (hstatus : ¬scope.IsStatus a.name) (parameters : List Parameter) (v : String) :
    stepCode scope parameters (.update (some receiver) (some a.name) (some v)) =
      ⟨[.assign (.member a.property.name) (literal v)], false⟩ := by
  rw [stepCode, if_pos rfl, updateCode_of_declared hstatus (Scope.declares_of_attribute? hown)]
  rfl

/-- The update of an attribute of type string is written like a default of the same text, namely
quoted, exactly if the text is neither a whole number nor a flag; and exactly then the property
holds a text afterwards. -/
theorem update_written_as_default_iff (scope : Scope) (parameters : List Parameter) (a : Attribute)
    (v : String)
    (hown : scope.owner.attribute? a.name = some a) (htype : typeName a.dataType = "string")
    (hstatus : ¬scope.IsStatus a.name) :
    ∃ value, stepCode scope parameters (.update (some receiver) (some a.name) (some v)) =
        ⟨[.assign (.member a.property.name) value], false⟩ ∧
      value = (if isBare v then .verbatim v else .string v) ∧
      (a.withDefault v).property.initial = some (.string v) ∧
      ((a.withDefault v).property.initial = some value ↔ isBare v = false) ∧
      ∀ (f : Frame) (o : Object), a.type.Admits (value.eval f o) ↔ isBare v = false := by
  refine ⟨literal v, stepCode_of_attribute hown hstatus parameters v, ?_, ?_, ?_, ?_⟩
  · cases hbare : isBare v with
    | false => exact literal_of_not_bare hbare
    | true => exact literal_of_bare hbare
  · rw [a.initial_withDefault, if_pos htype]
  · rw [a.initial_eq_literal_iff, htype, eq_self_iff_true, true_iff]
  · intro f o
    rw [Attribute.type, htype]
    exact admits_literal_iff f o v

/-! Students have a number that is kept as a text. -/

namespace Campus

def number : Attribute := ⟨"student no", some "ID", some "naming", none⟩

def student : ClassDecl := Register.entity "Student" none [number]

def scope : Scope := ⟨.ofModel ⟨"Campus", "1", [⟨"Teaching", "T", [student], []⟩]⟩, student⟩

/-- A number with a letter is written alike. -/
theorem lettered_number_written_as_default :
    scope.owner.attribute? "student no" = some number ∧ typeName number.dataType = "string" ∧
    ∃ value, stepCode scope [] (.update (some "this") (some "student no") (some "M-17")) =
        ⟨[.assign (.member "studentNo") value], false⟩ ∧
      (number.withDefault "M-17").property.initial = some value := by
  have hown : scope.owner.attribute? "student no" = some number := by decide +kernel
  have htype : typeName number.dataType = "string" := by decide +kernel
  have hname : number.property.name = "studentNo" := by decide +kernel
  have hbare : isBare "M-17" = false := by decide +kernel
  obtain ⟨value, hcode, _, _, hiff, _⟩ :=
    update_written_as_default_iff scope [] number "M-17" hown htype
      (fun h => absurd h.1 (by decide))
  rw [hname] at hcode
  exact ⟨hown, htype, value, hcode, hiff.mpr hbare⟩

/-- A number of digits only is not. -/
theorem digits_not_written_as_default :
    ¬∀ (scope : Scope) (parameters : List Parameter) (a : Attribute) (v : String),
      scope.owner.attribute? a.name = some a → typeName a.dataType = "string" →
        ¬scope.IsStatus a.name →
        ∃ value,
          (stepCode scope parameters (.update (some receiver) (some a.name) (some v))).statements =
            [.assign (.member a.property.name) value] ∧
          value = .string v ∧ (a.withDefault v).property.initial = some value := by
  intro h
  have hown : scope.owner.attribute? number.name = some number := by decide +kernel
  have htype : typeName number.dataType = "string" := by decide +kernel
  have hstatus : ¬scope.IsStatus number.name := fun h => absurd h.1 (by decide)
  have hbare : isBare "20240017" = true := by decide +kernel
  obtain ⟨value, hcode, hvalue, _⟩ := h scope [] number "20240017" hown htype hstatus
  rw [stepCode_of_attribute hown hstatus, literal_of_bare hbare, hvalue] at hcode
  simp at hcode

end Campus

end ExecUml
