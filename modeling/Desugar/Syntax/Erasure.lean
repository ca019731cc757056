import Desugar.Syntax.Basic

/-!
# Trees without argument representations

Erasure gives every call of a tree, at any depth, a plain list of the same arguments. What depends
on the arguments alone, and not on what holds them, is the same before and after.

## Contents

* `Expr.erase` and its companions on the other nodes.
* `Expr.eraseList_eq_map` and its like — the companions on lists are maps.
-/

namespace Desugar

mutual

/-- The expression with plain argument lists. -/
def Expr.erase : Expr → Expr
  | .var v => .var v
  | .property target name span => .property target.erase name span
  | .classRef type span => .classRef type span
  | .literal value span => .literal value span
  | .call c => .call c.erase
  | .binary b => .binary b.erase
  | .closure c => .closure c.erase

/-- The expressions of a list with plain argument lists. -/
def Expr.eraseList : List Expr → List Expr
  | [] => []
  | e :: es => e.erase :: Expr.eraseList es

/-- An expression that may be absent, with plain argument lists. -/
def Expr.eraseOption : Option Expr → Option Expr
  | none => none
  | some e => some e.erase

/-- What a call is made on, with plain argument lists. -/
def Callee.erase : Callee → Callee
  | .receiver e => .receiver e.erase
  | .owner t => .owner t

/-- The arguments as a plain list. -/
def Arguments.erase : Arguments → Arguments
  | .list es => .list (Expr.eraseList es)
  | .tuple es => .list (Expr.eraseList es)
  | .sharedEmpty => .list []

/-- The call with plain argument lists. -/
def Call.erase : Call → Call
  | ⟨callee, method, args, span⟩ => ⟨callee.erase, method, args.erase, span⟩

/-- The binary expression with plain argument lists. -/
def Binary.erase : Binary → Binary
  | ⟨lhs, op, rhs, declaration, span⟩ => ⟨lhs.erase, op, rhs.erase, declaration, span⟩

/-- The closure with plain argument lists. -/
def Closure.erase : Closure → Closure
  | ⟨body, span⟩ => ⟨Block.eraseOption body, span⟩

/-- The block with plain argument lists. -/
def Block.erase : Block → Block
  | ⟨statements, span⟩ => ⟨Stmt.eraseList statements, span⟩

/-- A block that may be absent, with plain argument lists. -/
def Block.eraseOption : Option Block → Option Block
  | none => none
  | some b => some b.erase

/-- The statement with plain argument lists. -/
def Stmt.erase : Stmt → Stmt
  | .expr e span => .expr e.erase span
  | .block b => .block b.erase
  | .assertion condition message span =>
    .assertion condition.erase (Expr.eraseOption message) span

/-- The statements of a list with plain argument lists. -/
def Stmt.eraseList : List Stmt → List Stmt
  | [] => []
  | s :: ss => s.erase :: Stmt.eraseList ss

end

theorem Expr.eraseList_eq_map (es : List Expr) : Expr.eraseList es = es.map Expr.erase := by
  induction es with
  | nil => simp [Expr.eraseList]
  | cons e es ih => simp [Expr.eraseList, ih]

theorem Expr.eraseOption_eq_map (e : Option Expr) : Expr.eraseOption e = e.map Expr.erase := by
  cases e <;> simp [Expr.eraseOption]

theorem Block.eraseOption_eq_map (b : Option Block) : Block.eraseOption b = b.map Block.erase := by
  cases b <;> simp [Block.eraseOption]

theorem Stmt.eraseList_eq_map (ss : List Stmt) : Stmt.eraseList ss = ss.map Stmt.erase := by
  induction ss with
  | nil => simp [Stmt.eraseList]
  | cons s ss ih => simp [Stmt.eraseList, ih]

/-- Erasure keeps the arguments, each erased. -/
theorem Arguments.items_erase (a : Arguments) : a.erase.items = a.items.map Expr.erase := by
  cases a <;> simp [Arguments.erase, Expr.eraseList_eq_map]

end Desugar
