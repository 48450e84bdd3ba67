/-!
# Decimal numbers

A decimal is a sign, a coefficient and a power of ten. Its text is positional for moderate
exponents and scientific for the others.
-/

set_option autoImplicit false

namespace ExecUml

/-- The number `± coefficient * 10 ^ exponent`. -/
structure Decimal where
  negative : Bool
  coefficient : Nat
  exponent : Int
deriving DecidableEq

namespace Decimal

/-- Moves the factors ten of the coefficient into the exponent. -/
def dropZeros (n : Nat) (e : Int) : Nat × Int :=
  if n ≠ 0 ∧ n % 10 = 0 then dropZeros (n / 10) (e + 1) else (n, e)
termination_by n
decreasing_by omega

/-- The number with a coefficient that does not end in zero. -/
def normal (negative : Bool) (coefficient : Nat) (exponent : Int) : Decimal :=
  let (n, e) := dropZeros coefficient exponent
  ⟨negative, n, e⟩

/-- Where positional notation begins and ends: the least exponent of the leading digit for which it
is used, and the first for which it no longer is. -/
structure Layout where
  least : Int
  beyond : Int

/-- Numbers from `0.00001` up to sixteen places before the point are written positionally. -/
def plainLayout : Layout := ⟨-5, 16⟩

/-- Digits with a point after the place of value `10 ^ 0`, where `lead` is the exponent of the first
digit; there is always a digit on either side of the point. -/
def positional (digits : List Char) (lead : Int) : List Char :=
  if lead < 0 then
    '0' :: '.' :: List.replicate (-lead - 1).toNat '0' ++ digits
  else
    let whole := lead.toNat + 1
    let padded := digits ++ List.replicate (whole - digits.length) '0'
    let fraction := padded.drop whole
    padded.take whole ++ '.' :: (if fraction.isEmpty then ['0'] else fraction)

/-- One digit, the others after a point if there are any, and the signed exponent. -/
def scientific (digits : List Char) (lead : Int) : List Char :=
  let mark := if lead < 0 then "e-".toList else "e+".toList
  digits.take 1 ++ (if digits.length ≤ 1 then [] else '.' :: digits.drop 1)
    ++ mark ++ Nat.toDigits 10 lead.natAbs

def text (d : Decimal) : String :=
  let digits := Nat.toDigits 10 d.coefficient
  let lead := if d.coefficient = 0 then 0 else d.exponent + (digits.length - 1 : Nat)
  let body :=
    if plainLayout.least ≤ lead && lead < plainLayout.beyond then positional digits lead
    else scientific digits lead
  String.ofList (if d.negative then '-' :: body else body)

end Decimal

end ExecUml
