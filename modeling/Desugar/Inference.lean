import Desugar.Helper
import Desugar.Outcome

/-!
# Inference

The name and the type with which a helper is called. An argument always wins as the type. Without
one, a declaration can give its declared type, and a call on its own can give nothing.

## Contents

* `Expr.inferType` — the first argument of a call, or a type to fall back to.
* `Binary.declaredName`, `Binary.declaredType?` — what a declaration says about its left side.
* `Binary.infer`, `Expr.inferCall`, `Expr.infer` — name and type of a use.
-/

namespace Desugar

/-- The name and the type that a use of a helper is expanded with. -/
structure Inferred where
  name : String
  type : Expr

/-- Whether the call leaves its type to be found elsewhere. -/
def Expr.needsFallback (e : Expr) : Bool := e.arguments?.any List.isEmpty

/-- The type of a call: its first argument, else the fallback. -/
def Expr.inferType (e : Expr) (fallback : Option Expr) : Outcome Expr :=
  match e.arguments? with
  | none => .fail .inferenceNeedsCall
  | some (first :: _) => .ok first
  | some [] =>
    match fallback with
    | some type => .ok type
    | none => ⟨.error (.typeNotInferred e.span), [.typeNotInferred e.span]⟩

namespace Binary

/-- The name given to a declaration whose left side is not a variable. -/
def unknownName : String := "(unknown)"

/-- The name of the declared variable. -/
def declaredName (b : Binary) : String :=
  match b.lhs with
  | .var v => v.name
  | _ => unknownName

/-- A reference to the declared type of the variable, at the place where the type is written. -/
def declaredType? (b : Binary) : Option Expr :=
  match b.lhs with
  | .var v => v.declaredType.map TypeRef.asExpr
  | _ => none

/-- Name and type of `lhs = helper(…)`. -/
def infer (b : Binary) : Outcome Inferred :=
  (b.rhs.inferType b.declaredType?).map fun type => ⟨b.declaredName, type⟩

end Binary

namespace Expr

/-- The name given to a call outside any declaration. -/
def unnamed : String := "(unnamed)"

/-- Name and type of a call on its own. -/
def inferCall (e : Expr) : Outcome Inferred :=
  (e.inferType none).map fun type => ⟨unnamed, type⟩

/-- Name and type of a binary expression or of a call on its own. -/
def infer : Expr → Outcome Inferred
  | .binary b => b.infer
  | e => e.inferCall

end Expr

end Desugar
