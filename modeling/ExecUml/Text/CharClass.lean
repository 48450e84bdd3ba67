/-!
# Classes of characters

A class is a list of closed ranges of code points. The module knows no particular class.
-/

set_option autoImplicit false

namespace ExecUml.Text

/-- Closed ranges of code points. -/
abbrev CharClass := List (Nat × Nat)

namespace CharClass

def has (ranges : CharClass) (c : Char) : Bool :=
  ranges.any fun r => r.1 ≤ c.toNat && c.toNat ≤ r.2

theorem has_iff (ranges : CharClass) (c : Char) :
    ranges.has c = true ↔ ∃ r ∈ ranges, r.1 ≤ c.toNat ∧ c.toNat ≤ r.2 := by
  simp [has]

end CharClass

end ExecUml.Text
