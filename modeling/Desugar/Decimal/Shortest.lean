import Desugar.Decimal.Binary64

/-!
# Shortest decimals

A number of the binary format is written with the fewest decimal digits that are rounded back to it,
and among those the nearest to it; of two that are equally near, the greater. The digits are written
positionally, without an exponent.

## Contents

* `Binary64.readsBack` — whether a decimal lies where it is rounded to a number.
* `Binary64.shortest` — the fewest digits.
* `Binary64.render` — the text of a number; `Binary64.renderPointed` always has a decimal point.
-/

namespace Desugar.Binary64

/-- Whether the fraction `n / d` of the step lies in the interval that is rounded to `units`. Its
ends lie half-way to the neighbours; they belong to it when the last binary digit of the number is
even. Below a power of two the neighbours are twice as close. -/
def readsBack (units n d : Nat) : Bool :=
  let g := gap units
  let below := if units = Nat.pow 2 units.log2 ∧ 1 < g then g else 2 * g
  let low := (4 * units - below) * d
  let high := (4 * units + 2 * g) * d
  if (units / g) % 2 = 0 then decide (low ≤ 4 * n) && decide (4 * n ≤ high)
  else decide (low < 4 * n) && decide (4 * n < high)

/-- The power of ten above a number of steps: the least `k`, from `start` downwards, for which the
number is less than `10 ^ k`, looked for in `fuel` steps. -/
def decimalPoint (units : Nat) : Nat → Int → Int
  | 0, k => k
  | fuel + 1, k =>
    let lower := k - 1
    let isLess :=
      if 0 ≤ lower then decide (units < Nat.pow 10 lower.toNat * unitsPerOne)
      else decide (units * Nat.pow 10 (-lower).toNat < unitsPerOne)
    if isLess then decimalPoint units fuel lower else k

/-- The number of steps as a fraction of the grid of width `10 ^ place`: numerator and
denominator. -/
def onGrid (units : Nat) (place : Int) : Nat × Nat :=
  if 0 ≤ place then (units, unitsPerOne * Nat.pow 10 place.toNat)
  else (units * Nat.pow 10 (-place).toNat, unitsPerOne)

/-- The grid point `m * 10 ^ place` as a fraction of the step. -/
def offGrid (m : Nat) (place : Int) : Nat × Nat :=
  if 0 ≤ place then (m * Nat.pow 10 place.toNat * unitsPerOne, 1)
  else (m * unitsPerOne, Nat.pow 10 (-place).toNat)

/-- The point of a grid next to a number that is rounded to it: of the two neighbours the nearer one
if both are, the upper one if they are equally near. -/
def gridPoint (units : Nat) (place : Int) : Option Nat :=
  let (n, d) := onGrid units place
  let m := n / d
  let isHit := fun m => let (a, b) := offGrid m place; readsBack units a b
  let (first, second) := if d ≤ 2 * (n % d) then (m + 1, m) else (m, m + 1)
  if isHit first then some first else if isHit second then some second else none

/-- The shortest decimal, tried with `count` digits and then with one more, at most `fuel` times. -/
def shortestFrom (units : Nat) (point : Int) : Nat → Nat → Nat × Int
  | 0, count => ((gridPoint units (point - count)).getD 0, point - count)
  | fuel + 1, count =>
    match gridPoint units (point - count) with
    | some m => (m, point - count)
    | none => shortestFrom units point fuel (count + 1)

/-- The shortest decimal of a positive number of steps, as a coefficient and a power of ten.
Seventeen digits always suffice. -/
def shortest (units : Nat) : Nat × Int :=
  shortestFrom units (decimalPoint units 700 310) 16 1

/-- A coefficient times a power of ten, written positionally. -/
def positional (m : Nat) (place : Int) : List Char :=
  let digits := Nat.toDigits 10 m
  if 0 ≤ place then digits ++ List.replicate place.toNat '0'
  else
    let after := (-place).toNat
    let padded := List.replicate (after + 1 - digits.length) '0' ++ digits
    let whole := padded.length - after
    padded.take whole ++ ['.'] ++ padded.drop whole

/-- The digits without zeros at the end of the coefficient. -/
def stripZeros : Nat → Nat × Int → Nat × Int
  | 0, r => r
  | fuel + 1, (m, place) =>
    if m % 10 = 0 ∧ m ≠ 0 then stripZeros fuel (m / 10, place + 1) else (m, place)

/-- The text of a number. A whole number has no decimal point. -/
def render : Binary64 → String
  | .nan => "NaN"
  | .infinite negative => if negative then "-inf" else "inf"
  | .finite negative units =>
    let digits :=
      if units = 0 then ['0']
      else
        let (m, place) := stripZeros 20 (shortest units)
        positional m place
    String.ofList ((if negative then ['-'] else []) ++ digits)

/-- The text of a number, with a decimal point also in a whole number. -/
def renderPointed (x : Binary64) : String :=
  match x with
  | .finite .. => if x.render.toList.contains '.' then x.render else x.render ++ ".0"
  | _ => x.render

end Desugar.Binary64
