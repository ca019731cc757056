import Desugar.Syntax.Basic

/-!
# Equality of trees

Two trees are equal when they have the same nodes with the same names, spans and representation of
arguments at every depth. The test `same` walks both trees at once; `same_iff` says that it decides
equality, which makes equality of every kind of node decidable.
-/

namespace Desugar

/-! ## The test -/

mutual

/-- Whether two expressions are the same tree. -/
def Expr.same : Expr → Expr → Bool
  | .var v, .var w => decide (v = w)
  | .property t n s, .property t' n' s' => t.same t' && decide (n = n' ∧ s = s')
  | .classRef t s, .classRef t' s' => decide (t = t' ∧ s = s')
  | .literal v s, .literal v' s' => decide (v = v' ∧ s = s')
  | .call c, .call c' => c.same c'
  | .binary b, .binary b' => b.same b'
  | .closure c, .closure c' => c.same c'
  | _, _ => false

/-- Whether two lists hold the same expressions. -/
def Expr.sameList : List Expr → List Expr → Bool
  | [], [] => true
  | e :: es, e' :: es' => e.same e' && Expr.sameList es es'
  | _, _ => false

/-- Whether two expressions that may be absent are the same. -/
def Expr.sameOption : Option Expr → Option Expr → Bool
  | none, none => true
  | some e, some e' => e.same e'
  | _, _ => false

/-- Whether two calls are made on the same thing. -/
def Callee.same : Callee → Callee → Bool
  | .receiver e, .receiver e' => e.same e'
  | .owner t, .owner t' => decide (t = t')
  | _, _ => false

/-- Whether two calls have the same arguments in the same representation. -/
def Arguments.same : Arguments → Arguments → Bool
  | .list es, .list es' => Expr.sameList es es'
  | .tuple es, .tuple es' => Expr.sameList es es'
  | .sharedEmpty, .sharedEmpty => true
  | _, _ => false

/-- Whether two calls are the same tree. -/
def Call.same : Call → Call → Bool
  | ⟨k, m, a, s⟩, ⟨k', m', a', s'⟩ => k.same k' && (a.same a' && decide (m = m' ∧ s = s'))

/-- Whether two binary expressions are the same tree. -/
def Binary.same : Binary → Binary → Bool
  | ⟨l, o, r, d, s⟩, ⟨l', o', r', d', s'⟩ =>
    l.same l' && (r.same r' && decide (o = o' ∧ d = d' ∧ s = s'))

/-- Whether two closures are the same tree. -/
def Closure.same : Closure → Closure → Bool
  | ⟨b, s⟩, ⟨b', s'⟩ => Block.sameOption b b' && decide (s = s')

/-- Whether two blocks are the same tree. -/
def Block.same : Block → Block → Bool
  | ⟨ss, s⟩, ⟨ss', s'⟩ => Stmt.sameList ss ss' && decide (s = s')

/-- Whether two blocks that may be absent are the same. -/
def Block.sameOption : Option Block → Option Block → Bool
  | none, none => true
  | some b, some b' => b.same b'
  | _, _ => false

/-- Whether two statements are the same tree. -/
def Stmt.same : Stmt → Stmt → Bool
  | .expr e s, .expr e' s' => e.same e' && decide (s = s')
  | .block b, .block b' => b.same b'
  | .assertion c m s, .assertion c' m' s' =>
    c.same c' && (Expr.sameOption m m' && decide (s = s'))
  | _, _ => false

/-- Whether two lists hold the same statements. -/
def Stmt.sameList : List Stmt → List Stmt → Bool
  | [], [] => true
  | s :: ss, s' :: ss' => s.same s' && Stmt.sameList ss ss'
  | _, _ => false

end

/-! ## The test decides equality -/

mutual

/-- The test on expressions decides equality. -/
theorem Expr.same_iff : ∀ a b : Expr, a.same b = true ↔ a = b
  | .var v, b => by cases b <;> simp [Expr.same]
  | .property t n s, b => by cases b <;> simp [Expr.same, Expr.same_iff t]
  | .classRef t s, b => by cases b <;> simp [Expr.same]
  | .literal v s, b => by cases b <;> simp [Expr.same]
  | .call c, b => by cases b <;> simp [Expr.same, Call.same_iff c]
  | .binary b', b => by cases b <;> simp [Expr.same, Binary.same_iff b']
  | .closure c, b => by cases b <;> simp [Expr.same, Closure.same_iff c]

theorem Expr.sameList_iff : ∀ as bs : List Expr, Expr.sameList as bs = true ↔ as = bs
  | [], bs => by cases bs <;> simp [Expr.sameList]
  | a :: as, bs => by
    cases bs <;> simp [Expr.sameList, Expr.same_iff a, Expr.sameList_iff as]

theorem Expr.sameOption_iff : ∀ a b : Option Expr, Expr.sameOption a b = true ↔ a = b
  | none, b => by cases b <;> simp [Expr.sameOption]
  | some a, b => by cases b <;> simp [Expr.sameOption, Expr.same_iff a]

theorem Callee.same_iff : ∀ a b : Callee, a.same b = true ↔ a = b
  | .receiver e, b => by cases b <;> simp [Callee.same, Expr.same_iff e]
  | .owner t, b => by cases b <;> simp [Callee.same]

theorem Arguments.same_iff : ∀ a b : Arguments, a.same b = true ↔ a = b
  | .list es, b => by cases b <;> simp [Arguments.same, Expr.sameList_iff es]
  | .tuple es, b => by cases b <;> simp [Arguments.same, Expr.sameList_iff es]
  | .sharedEmpty, b => by cases b <;> simp [Arguments.same]

theorem Call.same_iff : ∀ a b : Call, a.same b = true ↔ a = b
  | ⟨k, m, a, s⟩, b => by
    cases b
    simp [Call.same, Callee.same_iff k, Arguments.same_iff a, and_left_comm]

theorem Binary.same_iff : ∀ a b : Binary, a.same b = true ↔ a = b
  | ⟨l, o, r, d, s⟩, b => by
    cases b
    simp [Binary.same, Expr.same_iff l, Expr.same_iff r, and_left_comm]

theorem Closure.same_iff : ∀ a b : Closure, a.same b = true ↔ a = b
  | ⟨body, s⟩, b => by
    cases b
    simp [Closure.same, Block.sameOption_iff body]

theorem Block.same_iff : ∀ a b : Block, a.same b = true ↔ a = b
  | ⟨ss, s⟩, b => by
    cases b
    simp [Block.same, Stmt.sameList_iff ss]

theorem Block.sameOption_iff : ∀ a b : Option Block, Block.sameOption a b = true ↔ a = b
  | none, b => by cases b <;> simp [Block.sameOption]
  | some a, b => by cases b <;> simp [Block.sameOption, Block.same_iff a]

theorem Stmt.same_iff : ∀ a b : Stmt, a.same b = true ↔ a = b
  | .expr e s, b => by cases b <;> simp [Stmt.same, Expr.same_iff e]
  | .block b', b => by cases b <;> simp [Stmt.same, Block.same_iff b']
  | .assertion c m s, b => by
    cases b <;> simp [Stmt.same, Expr.same_iff c, Expr.sameOption_iff m]

theorem Stmt.sameList_iff : ∀ as bs : List Stmt, Stmt.sameList as bs = true ↔ as = bs
  | [], bs => by cases bs <;> simp [Stmt.sameList]
  | a :: as, bs => by
    cases bs <;> simp [Stmt.sameList, Stmt.same_iff a, Stmt.sameList_iff as]

end

/-! ## Decidable equality -/

instance : DecidableEq Expr := fun a b => decidable_of_iff _ (Expr.same_iff a b)
instance : DecidableEq Arguments := fun a b => decidable_of_iff _ (Arguments.same_iff a b)
instance : DecidableEq Callee := fun a b => decidable_of_iff _ (Callee.same_iff a b)
instance : DecidableEq Call := fun a b => decidable_of_iff _ (Call.same_iff a b)
instance : DecidableEq Binary := fun a b => decidable_of_iff _ (Binary.same_iff a b)
instance : DecidableEq Closure := fun a b => decidable_of_iff _ (Closure.same_iff a b)
instance : DecidableEq Block := fun a b => decidable_of_iff _ (Block.same_iff a b)
instance : DecidableEq Stmt := fun a b => decidable_of_iff _ (Stmt.same_iff a b)

end Desugar
