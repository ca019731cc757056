/-!
# Binary floating-point numbers

The numbers of the 64-bit binary format, each finite one as a whole number of the smallest steps of
the format, which are `2 ^ -1074` wide. A decimal is rounded to the nearest number of the format,
and to the one with an even last digit when two are equally near.

## Contents

* `Decimal` — a coefficient times a power of ten.
* `Binary64` — the numbers of the format.
* `Binary64.gap` — the distance between neighbours around a number.
* `Binary64.ofDecimal` — rounding.
-/

namespace Desugar

/-- The number `coefficient * 10 ^ exponent` with a sign. -/
structure Decimal where
  negative : Bool
  coefficient : Nat
  exponent : Int
  deriving DecidableEq

/-- A number of the 64-bit binary format. -/
inductive Binary64
  | nan
  | infinite (negative : Bool)
  /-- The number of `units` steps of `2 ^ -1074`. Zero has a sign too. -/
  | finite (negative : Bool) (units : Nat)
  deriving DecidableEq

namespace Binary64

/-- How many steps make up one. -/
def unitsPerOne : Nat := Nat.pow 2 1074

/-- The number of steps from which on a number is infinite. -/
def limit : Nat := Nat.pow 2 2098

/-- The distance, in steps, between neighbours of the format around a number of steps: numbers with
more than 53 binary digits have zeros after the first 53. -/
def gap (units : Nat) : Nat := Nat.pow 2 (units.log2 - 52)

/-- The quotient rounded to the nearest whole number, a tie to the even one. -/
def roundDiv (n d : Nat) : Nat :=
  let q := n / d
  let twice := 2 * (n % d)
  if d < twice || (twice == d && q % 2 == 1) then q + 1 else q

/-- The fraction `n / d` of the step, rounded to a number of the format. -/
def roundUnits (n d : Nat) : Nat :=
  let g := gap (n / d)
  roundDiv n (d * g) * g

/-- The number of decimal digits of a number; zero has one. -/
def digitCount (n : Nat) : Nat := (Nat.toDigits 10 n).length

/-- The nearest number of the format. Decimals far outside its range need no arithmetic to be told
apart from it. -/
def ofDecimal (d : Decimal) : Binary64 :=
  let magnitude : Int := digitCount d.coefficient + d.exponent
  if d.coefficient = 0 || magnitude < -400 then .finite d.negative 0
  else if 400 < magnitude then .infinite d.negative
  else
    let units :=
      if 0 ≤ d.exponent then
        roundUnits (d.coefficient * Nat.pow 10 d.exponent.toNat * unitsPerOne) 1
      else roundUnits (d.coefficient * unitsPerOne) (Nat.pow 10 (-d.exponent).toNat)
    if units < limit then .finite d.negative units else .infinite d.negative

end Binary64

end Desugar
