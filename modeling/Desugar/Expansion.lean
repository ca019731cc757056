import Desugar.Inference

/-!
# Expansion

A use of a helper is expanded so that its call spells out everything: `List list = Mock()` becomes
`List list = Mock(List, "list")`. The arguments are replaced by the type, the name as a literal, and
whatever extra arguments are asked for. Nothing else of the tree changes, and a failed expansion has
no tree.

## Contents

* `Call.expandAs` — replace the arguments of a call.
* `Expr.expandAs` — the same on the call inside an expression, with a given name and type.
* `Binary.expand`, `Expr.expandCall`, `Expr.expand` — with the name and type that are inferred.
-/

namespace Desugar

/-- The arguments of an expanded call. -/
def expandedArguments (name : String) (type : Expr) (extra : List Expr) : List Expr :=
  type :: Build.string name :: extra

/-- Replace the arguments of a call by the type, the name and the extra arguments, in the
representation they have. The shared empty list is refused. -/
def Call.expandAs (c : Call) (name : String) (type : Expr) (extra : List Expr) : Outcome Call :=
  match c.args.withItems? (expandedArguments name type extra) with
  | some args => ⟨.ok { c with args := args }, [.expanded c.method name args.items.length]⟩
  | none => ⟨.error .sharedArguments, [.sharedListRefused c.method c.span]⟩

namespace Expr

/-- The call that an expression has to be. -/
def requireCall : Expr → Outcome Call
  | .call c => .ok c
  | _ => .fail .expansionNeedsCall

/-- Expand the call that an expression has to be. -/
def expandOwnCall (e : Expr) (name : String) (type : Expr) (extra : List Expr) : Outcome Expr := do
  let c ← e.requireCall
  let c ← c.expandAs name type extra
  return .call c

/-- Expand the call of a use, with a given name and type: the value of a declaration, or the
expression itself. -/
def expandAs (e : Expr) (name : String) (type : Expr) (extra : List Expr) : Outcome Expr :=
  match e with
  | .binary b =>
    if b.isDeclaration then do
      let rhs ← b.rhs.expandOwnCall name type extra
      return .binary { b with rhs := rhs }
    else .fail .expansionNeedsCall
  | e => e.expandOwnCall name type extra

end Expr

/-- Expand `lhs = helper(…)` with the name and the type that the declaration and the call give. -/
def Binary.expand (b : Binary) (extra : List Expr) : Outcome Binary :=
  if b.isDeclaration then do
    let inferred ← b.infer
    let rhs ← b.rhs.expandOwnCall inferred.name inferred.type extra
    return { b with rhs := rhs }
  else .fail .expansionNeedsDeclaration

namespace Expr

/-- Expand a call on its own, whose first argument has to be the type. -/
def expandCall (e : Expr) (extra : List Expr) : Outcome Expr := do
  let inferred ← e.inferCall
  e.expandAs inferred.name inferred.type extra

/-- Expand a use of a helper, be it a declaration or a call on its own. -/
def expand (e : Expr) (extra : List Expr) : Outcome Expr :=
  match e with
  | .binary b => (b.expand extra).map .binary
  | e => e.expandCall extra

end Expr

end Desugar
