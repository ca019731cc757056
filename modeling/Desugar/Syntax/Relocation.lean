import Desugar.Syntax.Basic

/-!
# Trees at other positions

Relocation applies a function to every span of a tree, at any depth and in the types that the tree
names. Everything else stays.

## Contents

* `Expr.relocate` and its companions on the other nodes.
* `Expr.relocateList_eq_map` and its like — the companions on lists are maps.
-/

namespace Desugar

/-- The type at another position. -/
def TypeRef.relocate (f : Span → Span) (t : TypeRef) : TypeRef := ⟨t.name, f t.span⟩

/-- The variable at another position, with its declared type. -/
def Variable.relocate (f : Span → Span) (v : Variable) : Variable :=
  ⟨v.name, v.declaredType.map (TypeRef.relocate f), f v.span⟩

mutual

/-- The expression at other positions. -/
def Expr.relocate (f : Span → Span) : Expr → Expr
  | .var v => .var (v.relocate f)
  | .property target name span => .property (target.relocate f) name (f span)
  | .classRef type span => .classRef (type.relocate f) (f span)
  | .literal value span => .literal value (f span)
  | .call c => .call (c.relocate f)
  | .binary b => .binary (b.relocate f)
  | .closure c => .closure (c.relocate f)

/-- The expressions of a list at other positions. -/
def Expr.relocateList (f : Span → Span) : List Expr → List Expr
  | [] => []
  | e :: es => e.relocate f :: Expr.relocateList f es

/-- An expression that may be absent, at other positions. -/
def Expr.relocateOption (f : Span → Span) : Option Expr → Option Expr
  | none => none
  | some e => some (e.relocate f)

/-- What a call is made on, at other positions. -/
def Callee.relocate (f : Span → Span) : Callee → Callee
  | .receiver e => .receiver (e.relocate f)
  | .owner t => .owner (t.relocate f)

/-- The arguments at other positions. -/
def Arguments.relocate (f : Span → Span) : Arguments → Arguments
  | .list es => .list (Expr.relocateList f es)
  | .tuple es => .tuple (Expr.relocateList f es)
  | .sharedEmpty => .sharedEmpty

/-- The call at other positions. -/
def Call.relocate (f : Span → Span) : Call → Call
  | ⟨callee, method, args, span⟩ => ⟨callee.relocate f, method, args.relocate f, f span⟩

/-- The binary expression at other positions. -/
def Binary.relocate (f : Span → Span) : Binary → Binary
  | ⟨lhs, op, rhs, declaration, span⟩ => ⟨lhs.relocate f, op, rhs.relocate f, declaration, f span⟩

/-- The closure at other positions. -/
def Closure.relocate (f : Span → Span) : Closure → Closure
  | ⟨body, span⟩ => ⟨Block.relocateOption f body, f span⟩

/-- The block at other positions. -/
def Block.relocate (f : Span → Span) : Block → Block
  | ⟨statements, span⟩ => ⟨Stmt.relocateList f statements, f span⟩

/-- A block that may be absent, at other positions. -/
def Block.relocateOption (f : Span → Span) : Option Block → Option Block
  | none => none
  | some b => some (b.relocate f)

/-- The statement at other positions. -/
def Stmt.relocate (f : Span → Span) : Stmt → Stmt
  | .expr e span => .expr (e.relocate f) (f span)
  | .block b => .block (b.relocate f)
  | .assertion condition message span =>
    .assertion (condition.relocate f) (Expr.relocateOption f message) (f span)

/-- The statements of a list at other positions. -/
def Stmt.relocateList (f : Span → Span) : List Stmt → List Stmt
  | [] => []
  | s :: ss => s.relocate f :: Stmt.relocateList f ss

end

theorem Expr.relocateList_eq_map (f : Span → Span) (es : List Expr) :
    Expr.relocateList f es = es.map (Expr.relocate f) := by
  induction es with
  | nil => simp [Expr.relocateList]
  | cons e es ih => simp [Expr.relocateList, ih]

theorem Expr.relocateOption_eq_map (f : Span → Span) (e : Option Expr) :
    Expr.relocateOption f e = e.map (Expr.relocate f) := by
  cases e <;> simp [Expr.relocateOption]

theorem Block.relocateOption_eq_map (f : Span → Span) (b : Option Block) :
    Block.relocateOption f b = b.map (Block.relocate f) := by
  cases b <;> simp [Block.relocateOption]

theorem Stmt.relocateList_eq_map (f : Span → Span) (ss : List Stmt) :
    Stmt.relocateList f ss = ss.map (Stmt.relocate f) := by
  induction ss with
  | nil => simp [Stmt.relocateList]
  | cons s ss ih => simp [Stmt.relocateList, ih]

/-- Relocation keeps the arguments, each relocated. -/
theorem Arguments.items_relocate (f : Span → Span) (a : Arguments) :
    (a.relocate f).items = a.items.map (Expr.relocate f) := by
  cases a <;> simp [Arguments.relocate, Expr.relocateList_eq_map]

end Desugar
