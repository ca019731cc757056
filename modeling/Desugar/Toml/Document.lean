import Desugar.Toml.DateTime
import Desugar.Toml.Number
import Desugar.Toml.Table

/-!
# Documents

A document is a text of lines. Each line defines a value under a key or is the header of a table to
which the lines after it belong. `parse?` reads the lines and builds the table that they define.

## Contents

* `Scan.value` — values, in which arrays and tables nest to a limited depth.
* `Statement`, `Scan.document` — the lines of a document.
* `Construction` — the table that statements define.
* `parse?` — the entries of a document.
-/

namespace Desugar.Toml

/-! ## Values -/

namespace Scan

/-- How deep arrays and tables nest in a value. -/
def maxDepth : Nat := 79

/-- An array of values, over several lines, with an optional comma at the end. -/
def array (value : Scan Value) : Scan Value := do
  exactly '['
  let items ← maybe (separated (filler *> value <* filler) (exactly ',') <* maybe (exactly ','))
  filler
  exactly ']'
  return .array (items.getD [])

/-- A key with its value. -/
def keyValue (value : Scan Value) : Scan ((List String × String) × Value) := do
  let path ← dottedKey
  exactly '='
  spaces
  let v ← value
  return (path, v)

/-- A table on one line. -/
def inlineTable (value : Scan Value) : Scan Value := do
  exactly '\x7b'
  let pairs ← maybe (separated (keyValue value <* spaces) (exactly ','))
  spaces
  exactly '\x7d'
  match Table.explicit.defineAll (pairs.getD []) with
  | some t => return t.toValue
  | none => failure

/-- A value that holds no other. -/
def scalar : Scan Value :=
  (Value.string <$> text) <|>
    (literally ['t', 'r', 'u', 'e'] *> pure (.boolean true)) <|>
    (literally ['f', 'a', 'l', 's', 'e'] *> pure (.boolean false)) <|>
    (Value.dateTime <$> dateTime) <|> (Value.float <$> float) <|> (Value.integer <$> integer)

/-- A value in which arrays and tables nest at most `depth` deep. -/
def value : Nat → Scan Value
  | 0 => scalar
  | depth + 1 => fun cs =>
    let inner := value depth
    (array inner <|> inlineTable inner <|> scalar) cs

end Scan

/-! ## Lines -/

/-- What a line of a document says. -/
inductive Statement
  | define (path : List String) (key : String) (v : Value)
  /-- The header of a table. -/
  | table (path : List String) (key : String)
  /-- The header of one more table of a list. -/
  | element (path : List String) (key : String)
  /-- A comment or an empty line. -/
  | nothing

namespace Scan

/-- The header of one more table of a list. -/
def elementHeader : Scan Statement := do
  literally ['[', '[']
  let (path, key) ← dottedKey
  literally [']', ']']
  trailing
  return .element path key

/-- The header of a table. -/
def tableHeader : Scan Statement := do
  exactly '['
  let (path, key) ← dottedKey
  exactly ']'
  trailing
  return .table path key

/-- The definition of a value. -/
def definition : Scan Statement := do
  let ((path, key), v) ← keyValue (value maxDepth)
  trailing
  return .define path key v

/-- One line. -/
def statement : Scan Statement :=
  ((comment *> lineEnd) *> pure .nothing) <|> (newline *> pure .nothing) <|>
    elementHeader <|> tableHeader <|> definition

/-- The mark that some editors put in front of a text. -/
def byteOrderMark : Char := '\ufeff'

/-- A whole document. -/
def document : Scan (List Statement) := do
  discard (maybe (exactly byteOrderMark))
  spaces
  let statements ← many (statement <* spaces)
  atEnd
  return statements

end Scan

/-! ## Building the table -/

/-- The table of a document so far. The lines after a header belong to the `current` table, which
takes its place in the `root` when the next header comes. -/
structure Construction where
  root : Table
  current : Table
  /-- Where the current table goes, if a header started it. -/
  place : Option (List String × String)
  /-- Whether the current table is one of a list. -/
  isElement : Bool

namespace Construction

/-- Before the first line. -/
def start : Construction := ⟨.explicit, .explicit, none, false⟩

/-- Put the current table into its place. -/
def finish (c : Construction) : Option Table :=
  match c.place with
  | none => some c.current
  | some (path, key) =>
    c.root.update false (fun parent =>
      if c.isElement then
        match parent.get? key with
        | some (.tables ts) => some (parent.set key (.tables (ts ++ [c.current])))
        | _ => none
      else some (parent.set key (.table c.current))) path

/-- What a header starts with: the entries that a table got on the way to others. A table that is
there in any other way cannot be defined again. -/
def adopt (parent : Table) (key : String) : Option Table :=
  match parent.get? key with
  | none => some .explicit
  | some (.table t) =>
    if t.isImplicit && !t.isDotted then some { t with isImplicit := false } else none
  | some _ => none

/-- The table that a path leads to, if there is one. -/
def lookup (root : Table) (path : List String) : Option Table :=
  match path with
  | [] => some root
  | key :: path =>
    match root.get? key with
    | some (.table t) => lookup t path
    | some (.tables ts) => ts.getLast?.bind fun t => lookup t path
    | some (.value _) => none
    | none => some (.implicit false)

/-- One more statement. -/
def add (c : Construction) : Statement → Option Construction
  | .nothing => some c
  | .define path key v => do
    let current ← c.current.define path key v
    return { c with current := current }
  | .table path key => do
    let root ← c.finish
    let parent ← lookup root path
    let current ← adopt parent key
    let root ← root.update false (fun parent => some (parent.erase key)) path
    return ⟨root, current, some (path, key), false⟩
  | .element path key => do
    let root ← c.finish
    let root ← root.update false (fun parent =>
      match parent.get? key with
      | none => some (parent.set key (.tables []))
      | some (.tables _) => some parent
      | some _ => none) path
    return ⟨root, .explicit, some (path, key), true⟩

/-- All statements one after the other. -/
def addAll (c : Construction) : List Statement → Option Construction
  | [] => some c
  | s :: rest => do
    let c ← c.add s
    c.addAll rest

end Construction

/-! ## Whole documents -/

/-- The entries of a document, if the text is one. -/
def parse? (text : String) : Option Entries := do
  let (statements, _) ← Scan.document text.toList
  let construction ← Construction.start.addAll statements
  let root ← construction.finish
  return Table.toEntries root.entries

end Desugar.Toml
