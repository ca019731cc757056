import Desugar.Toml.Scan

/-!
# Texts and keys of a document

The four kinds of quoted texts, and keys, which are bare words or quoted texts on one line.

## Contents

* `Scan.basicText`, `Scan.literalText` — on one line, with and without escapes.
* `Scan.longBasicText`, `Scan.longLiteralText` — over several lines.
* `Scan.text` — any of them.
* `Scan.key`, `Scan.dottedKey` — keys and paths of keys.
-/

namespace Desugar.Toml.Scan

/-- Whether a character may stand unescaped in a text: everything but controls other than the
tabulator. -/
def isTextChar (c : Char) : Bool := isCommentChar c

/-! ## Escapes -/

/-- Whether a character is a hexadecimal digit. -/
def isHexDigit (c : Char) : Bool :=
  c.isDigit || (decide ('a' ≤ c) && decide (c ≤ 'f')) || (decide ('A' ≤ c) && decide (c ≤ 'F'))

/-- The value of a hexadecimal digit. -/
def hexValue (c : Char) : Nat :=
  if c.isDigit then c.toNat - '0'.toNat
  else if 'a' ≤ c then c.toNat - 'a'.toNat + 10
  else c.toNat - 'A'.toNat + 10

/-- The number that digits of a base write. -/
def number (base : Nat) (digits : List Char) : Nat :=
  digits.foldl (fun n c => n * base + hexValue c) 0

/-- The character of a code point that is written in `n` hexadecimal digits. -/
def codePoint (n : Nat) : Scan Char := do
  let digits ← takeExactly isHexDigit n
  let code := number 16 digits
  if code.isValidChar then return Char.ofNat code else failure

/-- What stands after the backslash of an escape. -/
def escaped : Scan Char := do
  match ← char fun _ => true with
  | 'b' => return '\x08'
  | 'f' => return '\x0c'
  | 'n' => return '\n'
  | 'r' => return '\r'
  | 't' => return '\t'
  | '"' => return '"'
  | '\\' => return '\\'
  | 'u' => codePoint 4
  | 'U' => codePoint 8
  | _ => failure

/-- An escaped character. -/
def escapedPiece : Scan (List Char) := do
  exactly '\\'
  let c ← escaped
  return [c]

/-! ## Texts on one line -/

/-- Whether a character may stand for itself in a text with escapes. -/
def isBasicChar (c : Char) : Bool := isTextChar c && c != '"' && c != '\\'

/-- Whether a character may stand in a text without escapes. -/
def isLiteralChar (c : Char) : Bool := isTextChar c && c != '\x27'

/-- A text in double quotes. -/
def basicText : Scan (List Char) := do
  exactly '"'
  let pieces ← many (takeSome isBasicChar <|> escapedPiece)
  exactly '"'
  return pieces.flatten

/-- A text in single quotes, in which nothing is escaped. -/
def literalText : Scan (List Char) := do
  exactly '\x27'
  let cs ← takeWhile isLiteralChar
  exactly '\x27'
  return cs

/-! ## Texts over several lines -/

/-- A line end in a text is a line feed, however it is written. -/
def textNewline : Scan (List Char) := do
  newline
  return ['\n']

/-- A backslash at the end of a line swallows the line end and all blanks and line ends after it. -/
def joinedLines : Scan (List Char) := do
  exactly '\\'
  spaces
  newline
  discard (many ((do discard (char isSpace)) <|> newline))
  return []

/-- One or two quotes inside a text that three quotes close. -/
def innerQuotes (quote : Char) : Scan (List Char) := do
  let quotes ← takeSome fun c => c == quote
  if quotes.length ≤ 2 then return quotes else failure

/-- The quotes at the end of such a text: the three that close it, after up to two that belong to
it. -/
def closingQuotes (quote : Char) : Scan (List Char) := do
  let quotes ← takeSome fun c => c == quote
  if 3 ≤ quotes.length ∧ quotes.length ≤ 5 then return quotes.drop 3 else failure

/-- A text between three quotes at each end, made of pieces. A line end right after the opening
quotes does not belong to it. -/
def longText (quote : Char) (piece : Scan (List Char)) : Scan (List Char) := do
  literally [quote, quote, quote]
  discard (maybe newline)
  let pieces ← many (innerQuotes quote <|> piece)
  let last ← closingQuotes quote
  return pieces.flatten ++ last

/-- A text over several lines in which backslashes escape. -/
def longBasicText : Scan (List Char) :=
  longText '"' <|
    takeSome isBasicChar <|> joinedLines <|> escapedPiece <|> textNewline

/-- A text over several lines in which nothing is escaped. -/
def longLiteralText : Scan (List Char) :=
  longText '\x27' <| takeSome isLiteralChar <|> textNewline

/-- Any quoted text. -/
def text : Scan String := do
  let cs ← longBasicText <|> basicText <|> longLiteralText <|> literalText
  return String.ofList cs

/-! ## Keys -/

/-- Whether a character may stand in a bare key. -/
def isBareKeyChar (c : Char) : Bool := c.isAlphanum || c == '_' || c == '-'

/-- A single key. -/
def key : Scan String := do
  let cs ← basicText <|> literalText <|> takeSome isBareKeyChar
  return String.ofList cs

/-- How many keys a path may have. -/
def maxPathLength : Nat := 79

/-- A path of keys with points between them; its last key stands apart. -/
def dottedKey : Scan (List String × String) := do
  let keys ← separated (spaces *> key <* spaces) (exactly '.')
  if keys.length ≤ maxPathLength then
    match keys.getLast? with
    | some last => return (keys.dropLast, last)
    | none => failure
  else failure

end Desugar.Toml.Scan
