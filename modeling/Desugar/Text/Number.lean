import Desugar.Decimal.Binary64

/-!
# Numbers in texts

Whole numbers in base ten, with or without a sign, and floating-point numbers with an optional point
and exponent. A text is a number only as a whole.

## Contents

* `digits?`, `unsigned?`, `signed?` — whole numbers.
* `float?` — floating-point numbers.
-/

namespace Desugar.Text

/-- The number that decimal digits write, if there are any and nothing else. -/
def digits? (cs : List Char) : Option Nat :=
  if cs.isEmpty || !cs.all Char.isDigit then none
  else some (cs.foldl (fun n c => n * 10 + (c.toNat - '0'.toNat)) 0)

/-- Digits, perhaps after a plus. -/
def unsigned? : List Char → Option Nat
  | '+' :: cs => digits? cs
  | cs => digits? cs

/-- Digits, perhaps after a sign. -/
def signed? : List Char → Option Int
  | '-' :: cs => (digits? cs).map fun n => -n
  | cs => (unsigned? cs).map fun n => n

/-- An exponent after its mark; nothing is an exponent of zero. -/
def exponent? : List Char → Option Int
  | [] => some 0
  | c :: cs => if c = 'e' || c = 'E' then signed? cs else none

/-- A number without its sign: digits, perhaps a point and more digits, at least one digit in all,
and perhaps an exponent. -/
def magnitude? (negative : Bool) (cs : List Char) : Option Binary64 :=
  let whole := cs.takeWhile Char.isDigit
  let rest := cs.dropWhile Char.isDigit
  let (fraction, rest) :=
    match rest with
    | '.' :: after => (after.takeWhile Char.isDigit, after.dropWhile Char.isDigit)
    | _ => ([], rest)
  match digits? (whole ++ fraction), exponent? rest with
  | some n, some e => some (Binary64.ofDecimal ⟨negative, n, e - fraction.length⟩)
  | _, _ => none

/-- A floating-point number, infinity or not-a-number; their names are read in any case. -/
def float? (cs : List Char) : Option Binary64 :=
  let (negative, rest) :=
    match cs with
    | '-' :: rest => (true, rest)
    | '+' :: rest => (false, rest)
    | _ => (false, cs)
  let word := String.ofList (rest.map Char.toLower)
  if word == "inf" || word == "infinity" then some (.infinite negative)
  else if word == "nan" then some .nan
  else magnitude? negative rest

end Desugar.Text
