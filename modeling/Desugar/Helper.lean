import Desugar.Syntax.Shape

/-!
# Helpers

A helper is a member that every specification inherits, such as `Mock`. It is used in one of two
ways: called directly, as in `Mock(List)`, or called to initialise a declaration, as in
`List list = Mock()`. The call is made on `this` or `super`, written or not.

## Contents

* `Helper` — a name and the numbers of arguments that it takes.
* `Helper.isCalledBy`, `Helper.isDeclaredBy`, `Helper.isUsedBy` — the two uses, and either of them.
* `Registry` — the helpers that are looked for, and the first one that an expression uses.
-/

namespace Desugar

/-- A helper and how many arguments it takes. -/
structure Helper where
  name : String
  minArgs : Nat
  maxArgs : Nat
  deriving DecidableEq

namespace Helper

/-- Whether the helper takes `n` arguments. -/
def takes (h : Helper) (n : Nat) : Bool := decide (h.minArgs ≤ n) && decide (n ≤ h.maxArgs)

/-- Whether a call can be one of a helper at all: it is made on `this` or `super`. -/
def isReachedThrough : Callee → Bool
  | .receiver e => e.isThis || e.isSuper
  | .owner _ => false

/-- Whether the expression calls the helper with a number of arguments that it takes. -/
def isCalledBy (h : Helper) : Expr → Bool
  | .call c => isReachedThrough c.callee && (c.method == some h.name && h.takes c.args.items.length)
  | _ => false

/-- Whether the binary expression declares something and initialises it by a call to the helper. -/
def isDeclaredBy (h : Helper) (b : Binary) : Bool := b.isDeclaration && h.isCalledBy b.rhs

/-- Whether the expression uses the helper. A binary expression is asked for a declaration, any
other for a call. -/
def isUsedBy (h : Helper) : Expr → Bool
  | .binary b => h.isDeclaredBy b
  | e => h.isCalledBy e

theorem takes_iff {h : Helper} {n : Nat} : h.takes n = true ↔ h.minArgs ≤ n ∧ n ≤ h.maxArgs := by
  simp [takes]

/-- The mock factories: each takes a type and a name or options, or leaves them out. -/
def standard : List Helper := [⟨"Mock", 0, 2⟩, ⟨"Stub", 0, 2⟩, ⟨"Spy", 0, 2⟩]

end Helper

/-- The helpers that are looked for, in the order of their registration. -/
structure Registry where
  helpers : List Helper
  deriving DecidableEq

namespace Registry

/-- The registry of the mock factories. -/
def standard : Registry := ⟨Helper.standard⟩

/-- Whether no helper is registered. -/
def isEmpty (r : Registry) : Bool := r.helpers.isEmpty

/-- The first registered helper that the expression uses. -/
def find? (r : Registry) (e : Expr) : Option Helper := r.helpers.find? fun h => h.isUsedBy e

/-- What is found is registered. -/
theorem mem_of_find? {r : Registry} {e : Expr} {h : Helper} (found : r.find? e = some h) :
    h ∈ r.helpers :=
  List.mem_of_find?_eq_some found

/-- What is found is used. -/
theorem isUsedBy_of_find? {r : Registry} {e : Expr} {h : Helper} (found : r.find? e = some h) :
    h.isUsedBy e = true := by
  have := List.find?_some found
  simpa using this

/-- Nothing is found exactly when nothing registered is used. -/
theorem find?_eq_none_iff {r : Registry} {e : Expr} :
    r.find? e = none ↔ ∀ h ∈ r.helpers, h.isUsedBy e = false := by
  simp [find?]

end Registry

end Desugar
