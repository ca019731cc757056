import Desugar.Syntax.Build

/-!
# Shapes

Questions about the outermost shape of an expression or a statement. Each has an answer for every
node: one of an unexpected kind is simply not of the shape.

## Contents

* `Expr.isThis`, `Expr.isSuper`, `Expr.isCall`, `Expr.arguments?` — variables and calls.
* `Expr.target?` — what a call or a property is applied to.
* `Placeholder` — the member of the specification type that stands for any value.
* `Stmt.isInteraction`, `Stmt.hasExplicitMessage?` — statements with a meaning of their own.
-/

namespace Desugar

/-! ## Variables and calls -/

namespace Expr

/-- Whether the expression is the variable `this`. -/
def isThis : Expr → Bool
  | .var v => v.name == Variable.thisName
  | _ => false

/-- Whether the expression is the variable `super`. -/
def isSuper : Expr → Bool
  | .var v => v.name == Variable.superName
  | _ => false

/-- The call that the expression is. -/
def call? : Expr → Option Call
  | .call c => some c
  | _ => none

/-- The binary expression that the expression is. -/
def binary? : Expr → Option Binary
  | .binary b => some b
  | _ => none

/-- Whether the expression is a call. -/
def isCall (e : Expr) : Bool := e.call?.isSome

/-- The arguments of a call in order; other expressions have none to speak of. -/
def arguments? (e : Expr) : Option (List Expr) := e.call?.map fun c => c.args.items

/-- How many arguments a call has. -/
def argumentCount? (e : Expr) : Option Nat := e.arguments?.map List.length

end Expr

/-- A type used as a value, at the position where the type is written. -/
def TypeRef.asExpr (t : TypeRef) : Expr := .classRef t t.span

/-! ## Targets -/

/-- What a call or a property is applied to. -/
inductive Target
  /-- An expression of the tree. -/
  | written (e : Expr)
  /-- The type that owns a static method. -/
  | owner (t : TypeRef)

namespace Target

/-- The target as an expression; for an owner it is made up. -/
def expr : Target → Expr
  | .written e => e
  | .owner t => t.asExpr

/-- Whether the expression of the target is made up. -/
def isSynthesized : Target → Bool
  | .written _ => false
  | .owner _ => true

end Target

/-- What the expression is applied to, if it is a call or a property. -/
def Expr.target? : Expr → Option Target
  | .call c =>
    match c.callee with
    | .receiver e => some (.written e)
    | .owner t => some (.owner t)
  | .property e _ _ => some (.written e)
  | _ => none

/-! ## The placeholder -/

/-- The name of the member that stands for any value, and the type it is a member of. -/
structure Placeholder where
  specificationType : String
  symbol : String
  deriving DecidableEq

namespace Placeholder

/-- The placeholder of the specification type itself. -/
def standard : Placeholder := ⟨"speck.lang.Specification", "_"⟩

/-- Whether the expression is the placeholder: the property of that name, taken from a reference to
that type. The type is compared by its name as written. -/
def isReferredBy (p : Placeholder) : Expr → Bool
  | .property (.classRef t _) name _ => t.name == p.specificationType && name == p.symbol
  | _ => false

end Placeholder

/-! ## Statements -/

namespace Operator

/-- Whether an operator states an interaction: `n * call`, `call >> result`, `call >>> results`. -/
def isInteraction : Operator → Bool
  | .multiply => true
  | .rightShift => true
  | .unsignedRightShift => true
  | _ => false

end Operator

namespace Stmt

/-- The expression of an expression statement. -/
def expression? : Stmt → Option Expr
  | .expr e _ => some e
  | _ => none

/-- The binary expression of an expression statement. -/
def binary? (s : Stmt) : Option Binary := s.expression?.bind Expr.binary?

/-- Whether the statement states an interaction. Its outermost operator alone decides. -/
def isInteraction (s : Stmt) : Bool := s.binary?.any fun b => b.op.isInteraction

/-- Whether an assertion brings a message of its own; other statements are not asked. A message that
is missing or is the literal `null` does not count, any other does. -/
def hasExplicitMessage? : Stmt → Option Bool
  | .assertion _ none _ => some false
  | .assertion _ (some (.literal .null _)) _ => some false
  | .assertion _ (some _) _ => some true
  | _ => none

end Stmt

end Desugar
