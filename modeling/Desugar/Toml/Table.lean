import Desugar.Toml.Value

/-!
# Tables under construction

A document defines its tables piece by piece. While that goes on, a table remembers how it came to
be, because that decides what may still be added to it: a table that only came up on the way to
another one can be defined later, one that dotted keys made can be extended by dotted keys alone,
and a value that stands in the text can never be extended.

## Contents

* `Table`, `Item` — tables under construction and what they hold.
* `Table.update` — change a table that a path leads to.
* `Table.define` — add a value under a path of keys.
* `Table.toValue` — the finished table.
-/

namespace Desugar.Toml

mutual

/-- What a table under construction holds under a key. -/
inductive Item
  /-- A value as it stands in the text. -/
  | value (v : Value)
  | table (t : Table)
  /-- Tables that headers add to one by one. -/
  | tables (ts : List Table)

/-- A table under construction. It is `implicit` when it only came up on the way to something, and
`dotted` when a dotted key made it. -/
structure Table where
  isImplicit : Bool
  isDotted : Bool
  entries : List (String × Item)

end

namespace Table

/-- The table of a header, or of the document itself. -/
def explicit : Table := ⟨false, false, []⟩

/-- A table that came up on the way, through a dotted key or through a header. -/
def implicit (dotted : Bool) : Table := ⟨true, dotted, []⟩

/-- What a table holds under a key. -/
def get? (t : Table) (key : String) : Option Item := t.entries.lookup key

/-- Entries with another item under a key: in its place if the key is there, else at the end. -/
def setEntry (key : String) (item : Item) : List (String × Item) → List (String × Item)
  | [] => [(key, item)]
  | (k, i) :: rest => if k = key then (key, item) :: rest else (k, i) :: setEntry key item rest

/-- The table with another item under a key. -/
def set (t : Table) (key : String) (item : Item) : Table :=
  { t with entries := setEntry key item t.entries }

/-- The table without a key. -/
def erase (t : Table) (key : String) : Table :=
  { t with entries := t.entries.filter fun e => e.1 != key }

/-- Change the table that a path leads to. Tables that are missing on the way are made, and the last
one stands for the tables of a list. A value cannot be entered, and a dotted path enters a table
only if that is not defined already. -/
def update (dotted : Bool) (change : Table → Option Table) : List String → Table → Option Table
  | [], t => change t
  | key :: path, t =>
    match t.get? key with
    | none => do
      let child ← update dotted change path (implicit dotted)
      return t.set key (.table child)
    | some (.value _) => none
    | some (.tables ts) =>
      match ts.getLast? with
      | none => none
      | some last => do
        let child ← update dotted change path last
        return t.set key (.tables (ts.dropLast ++ [child]))
    | some (.table child) =>
      if dotted && !child.isImplicit then none
      else do
        let child ← update dotted change path child
        return t.set key (.table child)

/-- Add a value under a path of keys, the last of which must be new. A dotted path must end in a
table that dotted keys made, and a single key must not. -/
def define (t : Table) (path : List String) (key : String) (v : Value) : Option Table :=
  update true (fun inner =>
    if inner.isDotted == path.isEmpty then none
    else if (inner.get? key).isSome then none
    else some (inner.set key (.value v))) path t

/-- Add values one after the other. -/
def defineAll (t : Table) : List ((List String × String) × Value) → Option Table
  | [] => some t
  | ((path, key), v) :: rest => do
    let t ← t.define path key v
    t.defineAll rest

end Table

/-! ## Finished tables -/

mutual

/-- The finished value of an item. -/
def Item.toValue : Item → Value
  | .value v => v
  | .table t => t.toValue
  | .tables ts => .array (Table.toValues ts)

/-- The finished value of a table. -/
def Table.toValue : Table → Value
  | ⟨_, _, entries⟩ => .table (Table.toEntries entries)

/-- The finished values of tables. -/
def Table.toValues : List Table → List Value
  | [] => []
  | t :: ts => t.toValue :: Table.toValues ts

/-- The finished entries of a table. -/
def Table.toEntries : List (String × Item) → Entries
  | [] => []
  | (key, item) :: rest => (key, item.toValue) :: Table.toEntries rest

end

end Desugar.Toml
