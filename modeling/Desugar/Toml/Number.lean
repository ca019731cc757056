import Desugar.Toml.Text
import Desugar.Toml.Value

/-!
# Numbers of a document

Whole numbers in four bases, which have to fit into 64 bits with a sign, and floating-point numbers,
which are rounded to the binary format.

## Contents

* `Scan.integer` — whole numbers.
* `Scan.float` — numbers with a fraction or an exponent, infinity and not-a-number.
-/

namespace Desugar.Toml.Scan

/-- An optional sign; the result tells whether it is a minus. -/
def sign : Scan Bool := do
  match ← maybe (char fun c => c == '+' || c == '-') with
  | some c => return c == '-'
  | none => return false

/-- The digits of a whole number in base ten. Only the number zero starts with a zero. -/
def wholeDigits : Scan (List Char) :=
  (do
    match ← peek with
    | some '0' => failure
    | _ => digitRun Char.isDigit) <|>
  (do
    exactly '0'
    return ['0'])

/-! ## Whole numbers -/

/-- The least and the greatest whole number, each as a bound that belongs to the range. -/
def integerBounds : Int × Int := (-Int.pow 2 63, Int.pow 2 63 - 1)

/-- A whole number within its bounds. -/
def bounded (i : Int) : Scan Int :=
  if integerBounds.1 ≤ i ∧ i ≤ integerBounds.2 then pure i else failure

/-- Digits of a base after their mark. -/
def based (mark : Char) (base : Nat) (isDigit : Char → Bool) : Scan Int := do
  literally ['0', mark]
  let digits ← digitRun isDigit
  bounded (number base digits)

/-- A whole number. The mark of a base decides what is read after it. -/
def integer : Scan Int := fun cs =>
  match cs with
  | '0' :: 'x' :: _ => based 'x' 16 isHexDigit cs
  | '0' :: 'o' :: _ => based 'o' 8 (fun c => decide ('0' ≤ c) && decide (c ≤ '7')) cs
  | '0' :: 'b' :: _ => based 'b' 2 (fun c => c == '0' || c == '1') cs
  | _ =>
    (do
      let negative ← sign
      let digits ← wholeDigits
      let n : Int := number 10 digits
      bounded (if negative then -n else n)) cs

/-! ## Floating-point numbers -/

/-- The exponent of a number. -/
def exponent : Scan Int := do
  discard (char fun c => c == 'e' || c == 'E')
  let negative ← sign
  let digits ← digitRun Char.isDigit
  let n : Int := number 10 digits
  return if negative then -n else n

/-- The digits after a decimal point. -/
def fraction : Scan (List Char) := do
  exactly '.'
  digitRun Char.isDigit

/-- What follows the whole digits of a number that is not whole: an exponent, or a fraction with or
without one. -/
def fractionAndExponent : Scan (List Char × Int) :=
  (do
    let e ← exponent
    return ([], e)) <|>
  (do
    let digits ← fraction
    let e ← maybe exponent
    return (digits, e.getD 0))

/-- A number with a fraction or an exponent. One that is too large to be finite is refused; one that
is too small only loses its sign to nothing. -/
def decimal : Scan Binary64 := do
  let negative ← sign
  let whole ← wholeDigits
  let (digits, e) ← fractionAndExponent
  let x := Binary64.ofDecimal ⟨negative, number 10 (whole ++ digits), e - digits.length⟩
  if x = .infinite false then failure else return x

/-- Infinity or not-a-number, with an optional sign. -/
def special : Scan Binary64 := do
  let negative ← sign
  (literally ['i', 'n', 'f'] *> pure (.infinite negative)) <|>
    (literally ['n', 'a', 'n'] *> pure .nan)

/-- A floating-point number. -/
def float : Scan Binary64 := decimal <|> special

end Desugar.Toml.Scan
