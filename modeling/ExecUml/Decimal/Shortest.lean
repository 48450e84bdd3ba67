import ExecUml.Decimal.Basic

/-!
# Shortest decimals

The shortest decimal of a binary number is the one with the fewest digits among those that round to
it, and the nearest of these. The search runs over decimal grids, coarsest first, in exact integer
arithmetic: if a point of a grid rounds to the number, so does one of its two neighbours there.
-/

set_option autoImplicit false

namespace ExecUml.Decimal

/-- A number `mid / unit` with the bounds of the numbers that round to it. -/
structure Rounding where
  low : Nat
  mid : Nat
  high : Nat
  unit : Nat
  /-- Whether the bounds themselves round to the number. -/
  closed : Bool

namespace Rounding

/-- The interval of the binary number `m * 2 ^ q`. Below a power of two the gap is half as wide,
unless the exponent is the least one. -/
def ofBinary (m : Nat) (q : Int) (narrow : Bool) : Rounding :=
  let scale := Nat.pow 2 q.toNat
  { low := (if narrow then 4 * m - 1 else 4 * m - 2) * scale
    mid := 4 * m * scale
    high := (4 * m + 2) * scale
    unit := 4 * Nat.pow 2 (-q).toNat
    closed := m % 2 = 0 }

/-- The same interval measured in units of `10 ^ k`. -/
def onGrid (r : Rounding) (k : Int) : Rounding :=
  let up := Nat.pow 10 (-k).toNat
  let down := Nat.pow 10 k.toNat
  { r with low := r.low * up, mid := r.mid * up, high := r.high * up, unit := r.unit * down }

/-- Whether the grid point `n` rounds to the number. -/
def admits (r : Rounding) (n : Nat) : Bool :=
  if r.closed then r.low ≤ n * r.unit && n * r.unit ≤ r.high
  else r.low < n * r.unit && n * r.unit < r.high

/-- The nearer of the two neighbouring grid points that rounds to the number; of two equally near
ones the even one. -/
def neighbour? (r : Rounding) : Option Nat :=
  let below := r.mid / r.unit
  let above := below + 1
  let gapBelow := r.mid - below * r.unit
  let gapAbove := above * r.unit - r.mid
  let preferBelow := gapBelow < gapAbove || (gapBelow == gapAbove && below % 2 == 0)
  match r.admits below, r.admits above with
  | true, true => some (if preferBelow then below else above)
  | true, false => some below
  | false, true => some above
  | false, false => none

/-- The exponent of the leading decimal digit. -/
def lead (r : Rounding) : Int :=
  let guess : Int := (Nat.toDigits 10 r.mid).length - (Nat.toDigits 10 r.unit).length
  if r.mid * Nat.pow 10 (-guess).toNat < r.unit * Nat.pow 10 guess.toNat then guess - 1 else guess

/-- Coefficient and exponent of the shortest decimal: 17 digits always suffice. -/
def shortest (r : Rounding) : Nat × Int :=
  let found := (List.range 17).findSome? fun (more : Nat) =>
    let k := r.lead - (more : Int)
    (r.onGrid k).neighbour?.map (·, k)
  found.getD (0, 0)

end Rounding

/-- The shortest decimal of a finite binary number, from its bits. -/
def ofBits (bits : Nat) : Decimal :=
  let negative := bits / Nat.pow 2 63 % 2 == 1
  let biased := bits / Nat.pow 2 52 % Nat.pow 2 11
  let fraction := bits % Nat.pow 2 52
  if biased == 0 && fraction == 0 then ⟨negative, 0, 0⟩
  else
    let m := if biased == 0 then fraction else Nat.pow 2 52 + fraction
    let q : Int := (if biased == 0 then 1 else biased : Nat) - 1075
    let (n, e) := (Rounding.ofBinary m q (fraction == 0 && 1 < biased)).shortest
    normal negative n e

def ofFloat (x : Float) : Decimal := ofBits x.toBits.toNat

end ExecUml.Decimal
