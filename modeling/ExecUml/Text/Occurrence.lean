/-!
# Occurrences of a text in a text

Search and replacement by a fixed, nonempty pattern, from left to right and without overlap.
-/

set_option autoImplicit false

namespace ExecUml.Text

/-- What follows `pat` at the front of `s`. -/
def afterFront? : (pat s : List Char) → Option (List Char)
  | [], s => some s
  | _ :: _, [] => none
  | p :: ps, c :: cs => if p = c then afterFront? ps cs else none

theorem afterFront?_eq_some_iff {pat s rest : List Char} :
    afterFront? pat s = some rest ↔ s = pat ++ rest := by
  induction pat generalizing s with
  | nil => simp [afterFront?, eq_comm]
  | cons p ps ih =>
    cases s with
    | nil => simp [afterFront?]
    | cons c cs =>
      by_cases h : p = c
      · simp [afterFront?, h, ih]
      · simp [afterFront?, h, Ne.symm h]

/-- Whether `pat` occurs in `s`. -/
def occurs (pat : List Char) : List Char → Bool
  | [] => pat.isEmpty
  | c :: cs => (afterFront? pat (c :: cs)).isSome || occurs pat cs

/-- Writes `new` for every occurrence of the nonempty `pat`. -/
def replaceAll (pat new : List Char) : List Char → List Char
  | [] => []
  | c :: cs =>
    if (afterFront? pat (c :: cs)).isSome then
      new ++ replaceAll pat new (cs.drop (pat.length - 1))
    else c :: replaceAll pat new cs
termination_by s => s.length
decreasing_by
  · simp only [List.length_drop, List.length_cons]; omega
  · simp

def contains (s pat : String) : Bool := occurs pat.toList s.toList

def replace (s pat new : String) : String :=
  String.ofList (replaceAll pat.toList new.toList s.toList)

end ExecUml.Text
