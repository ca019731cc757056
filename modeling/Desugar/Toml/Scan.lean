/-!
# Scanners

A scanner reads something from the front of a text and leaves the rest, or fails. Scanners are
chained as a monad, and `<|>` tries a second one where the first one failed.

## Contents

* `Scan` and the scanners of single characters and of runs of them.
* `Scan.many`, `Scan.separated`, `Scan.digitRun` — repetition.
* blanks, line ends and comments.
-/

namespace Desugar.Toml

/-- A scanner with a result of type `α`. -/
abbrev Scan (α : Type) := StateT (List Char) Option α

namespace Scan

/-! ## Characters -/

/-- The next character, left in place. -/
def peek : Scan (Option Char) := fun cs => some (cs.head?, cs)

/-- One character of a class. -/
def char (p : Char → Bool) : Scan Char
  | c :: cs => if p c then some (c, cs) else none
  | [] => none

/-- A given character. -/
def exactly (c : Char) : Scan Unit := fun cs =>
  match cs with
  | d :: rest => if d = c then some ((), rest) else none
  | [] => none

/-- A given text. -/
def literally : List Char → Scan Unit
  | [] => pure ()
  | c :: cs => do exactly c; literally cs

/-- The longest run of characters of a class, possibly empty. -/
def takeWhile (p : Char → Bool) : Scan (List Char) := fun cs =>
  some (cs.takeWhile p, cs.dropWhile p)

/-- The longest run of characters of a class, not empty. -/
def takeSome (p : Char → Bool) : Scan (List Char) := do
  let c ← char p
  let cs ← takeWhile p
  return c :: cs

/-- Exactly `n` characters of a class. -/
def takeExactly (p : Char → Bool) : Nat → Scan (List Char)
  | 0 => pure []
  | n + 1 => do
    let c ← char p
    let cs ← takeExactly p n
    return c :: cs

/-- The end of the text. -/
def atEnd : Scan Unit := fun cs => if cs.isEmpty then some ((), []) else none

/-- What a scanner reads, or nothing if it fails. -/
def maybe {α : Type} (p : Scan α) : Scan (Option α) := fun cs =>
  match p cs with
  | some (a, rest) => some (some a, rest)
  | none => some (none, cs)

/-! ## Repetition -/

/-- Everything that a scanner reads from the front of a text one after the other, up to where it
fails, or reads nothing and so would go on forever. -/
def repeated {α : Type} (p : Scan α) (cs : List Char) : List α × List Char :=
  match p cs with
  | none => ([], cs)
  | some (a, rest) =>
    if rest.length < cs.length then
      let more := repeated p rest
      (a :: more.1, more.2)
    else ([a], rest)
termination_by cs.length

/-- As often as possible, possibly never. -/
def many {α : Type} (p : Scan α) : Scan (List α) := fun cs => some (repeated p cs)

/-- Once or more often, with a separator between every two. -/
def separated {α : Type} (p : Scan α) (separator : Scan Unit) : Scan (List α) := do
  let first ← p
  let more ← many (separator *> p)
  return first :: more

/-- A run of digits of a class, in which single underscores may stand between two digits; the
underscores are left out of the result. -/
def digitRun (isDigit : Char → Bool) : Scan (List Char) := do
  let first ← char isDigit
  let more ← many ((exactly '_' *> char isDigit) <|> char isDigit)
  return first :: more

/-! ## Blanks, line ends and comments -/

/-- Whether a character is a space or a tabulator. -/
def isSpace (c : Char) : Bool := c == ' ' || c == '\t'

/-- Whether a character may stand in a comment: everything but controls other than the tabulator. -/
def isCommentChar (c : Char) : Bool :=
  c == '\t' || (decide (' ' ≤ c) && c != '\x7f')

/-- Spaces and tabulators. -/
def spaces : Scan Unit := do discard (takeWhile isSpace)

/-- A line feed, with or without a carriage return before it. -/
def newline : Scan Unit := exactly '\n' <|> (exactly '\r' *> exactly '\n')

/-- A comment up to the end of its line. -/
def comment : Scan Unit := do
  exactly '#'
  discard (takeWhile isCommentChar)

/-- The end of a line or of the whole text. -/
def lineEnd : Scan Unit := newline <|> atEnd

/-- What may stand on a line after a complete statement. -/
def trailing : Scan Unit := do
  spaces
  discard (maybe comment)
  lineEnd

/-- Spaces, line ends and comments. -/
def filler : Scan Unit := do
  discard (many ((do discard (takeSome isSpace)) <|> newline <|> comment))

end Scan

end Desugar.Toml
