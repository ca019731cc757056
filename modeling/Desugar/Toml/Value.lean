import Desugar.Decimal.Binary64

/-!
# Values of a document

What a document holds: scalars, arrays and tables. A table keeps its entries in the order in which
they were defined, and no key twice. Equality of values is decidable; the test `same` walks two of
them at once.

## Contents

* `Value`, `Entries` — the values and the entries of a table.
* `Value.same`, `Value.same_iff` — the test for equality and what it decides.
-/

namespace Desugar.Toml

/-- A value of a document. -/
inductive Value
  | string (s : String)
  | integer (i : Int)
  | float (x : Binary64)
  | boolean (b : Bool)
  /-- A date, a time or both, as written. -/
  | dateTime (text : String)
  | array (items : List Value)
  | table (entries : List (String × Value))

/-- The entries of a table in order. -/
abbrev Entries := List (String × Value)

/-! ## Equality -/

mutual

/-- Whether two values are the same. -/
def Value.same : Value → Value → Bool
  | .string s, .string s' => decide (s = s')
  | .integer i, .integer i' => decide (i = i')
  | .float x, .float x' => decide (x = x')
  | .boolean b, .boolean b' => decide (b = b')
  | .dateTime t, .dateTime t' => decide (t = t')
  | .array items, .array items' => Value.sameItems items items'
  | .table es, .table es' => Value.sameEntries es es'
  | _, _ => false

/-- Whether two arrays have the same items. -/
def Value.sameItems : List Value → List Value → Bool
  | [], [] => true
  | v :: vs, v' :: vs' => v.same v' && Value.sameItems vs vs'
  | _, _ => false

/-- Whether two tables have the same entries in the same order. -/
def Value.sameEntries : List (String × Value) → List (String × Value) → Bool
  | [], [] => true
  | (k, v) :: es, (k', v') :: es' => decide (k = k') && (v.same v' && Value.sameEntries es es')
  | _, _ => false

end

mutual

/-- The test decides equality. -/
theorem Value.same_iff : ∀ v w : Value, v.same w = true ↔ v = w
  | .string s, w => by cases w <;> simp [Value.same]
  | .integer i, w => by cases w <;> simp [Value.same]
  | .float x, w => by cases w <;> simp [Value.same]
  | .boolean b, w => by cases w <;> simp [Value.same]
  | .dateTime t, w => by cases w <;> simp [Value.same]
  | .array items, w => by cases w <;> simp [Value.same, Value.sameItems_iff items]
  | .table es, w => by cases w <;> simp [Value.same, Value.sameEntries_iff es]

theorem Value.sameItems_iff : ∀ vs ws : List Value, Value.sameItems vs ws = true ↔ vs = ws
  | [], ws => by cases ws <;> simp [Value.sameItems]
  | v :: vs, ws => by
    cases ws <;> simp [Value.sameItems, Value.same_iff v, Value.sameItems_iff vs]

theorem Value.sameEntries_iff : ∀ es fs : List (String × Value),
    Value.sameEntries es fs = true ↔ es = fs
  | [], fs => by cases fs <;> simp [Value.sameEntries]
  | (k, v) :: es, fs => by
    cases fs <;>
      simp [Value.sameEntries, Value.same_iff v, Value.sameEntries_iff es, Prod.ext_iff, and_assoc]

end

instance : DecidableEq Value := fun v w => decidable_of_iff _ (Value.same_iff v w)

end Desugar.Toml
