import Desugar.Toml.Text

/-!
# Dates and times of a document

A date, a time of day, or a date with a time of day and perhaps an offset from universal time. Only
dates and times that exist are read, and the result is the text as written.
-/

namespace Desugar.Toml.Scan

/-- A number of exactly `n` digits within bounds, with its digits. -/
def field (n low high : Nat) : Scan (List Char × Nat) := do
  let digits ← takeExactly Char.isDigit n
  let value := number 10 digits
  if low ≤ value ∧ value ≤ high then return (digits, value) else failure

/-- Whether a year has a day more. -/
def isLeapYear (year : Nat) : Bool :=
  year % 4 == 0 && (year % 100 != 0 || year % 400 == 0)

/-- The number of days of a month. -/
def daysOfMonth (year month : Nat) : Nat :=
  if month = 2 then (if isLeapYear year then 29 else 28)
  else if month = 4 ∨ month = 6 ∨ month = 9 ∨ month = 11 then 30
  else 31

/-- A date: year, month and day. -/
def date : Scan (List Char) := do
  let (y, year) ← field 4 0 9999
  exactly '-'
  let (m, month) ← field 2 1 12
  exactly '-'
  let (d, _) ← field 2 1 (daysOfMonth year month)
  return y ++ ['-'] ++ m ++ ['-'] ++ d

/-- A time of day: hour, minute, second, and perhaps a fraction of a second. A minute may have a
leap second. -/
def time : Scan (List Char) := do
  let (h, _) ← field 2 0 23
  exactly ':'
  let (m, _) ← field 2 0 59
  exactly ':'
  let (s, _) ← field 2 0 60
  let f ← maybe (exactly '.' *> takeSome Char.isDigit)
  return h ++ [':'] ++ m ++ [':'] ++ s ++ (f.map ('.' :: ·)).getD []

/-- An offset from universal time. -/
def offset : Scan (List Char) :=
  (do
    let c ← char fun c => c == 'Z' || c == 'z'
    return [c]) <|>
  (do
    let c ← char fun c => c == '+' || c == '-'
    let (h, _) ← field 2 0 23
    exactly ':'
    let (m, _) ← field 2 0 59
    return [c] ++ h ++ [':'] ++ m)

/-- The time of day after a date. -/
def timeAfterDate : Scan (List Char) := do
  let c ← char fun c => c == 'T' || c == 't' || c == ' '
  let t ← time
  let o ← maybe offset
  return [c] ++ t ++ o.getD []

/-- A date, a time of day or both. -/
def dateTime : Scan String :=
  (do
    let d ← date
    let t ← maybe timeAfterDate
    return String.ofList (d ++ t.getD [])) <|>
  (do
    let t ← time
    return String.ofList t)

end Desugar.Toml.Scan
