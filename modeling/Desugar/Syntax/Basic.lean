import Desugar.Span

/-!
# The syntax tree

The tree of expressions and statements that a front end hands over. A node is plain data: a
change of a tree is a function from trees to trees.

## Contents

* `TypeRef`, `Variable`, `Literal`, `Operator`, `DeclarationKind` — the leaves.
* `Expr`, `Stmt` and the nodes between them: `Call`, `Callee`, `Arguments`, `Binary`, `Closure`,
  `Block`. They refer to each other, because the body of a closure is a block of statements.
* the span of a node, and what is read off a node without looking below it.
-/

namespace Desugar

/-! ## Leaves -/

/-- A type as it is named in the source. -/
structure TypeRef where
  name : String
  span : Span
  deriving DecidableEq

/-- A variable, with the type that its declaration gives explicitly. A variable declared without a
type, and every mention of a variable outside its declaration, has none. -/
structure Variable where
  name : String
  declaredType : Option TypeRef
  span : Span
  deriving DecidableEq

/-- The value of a literal. -/
inductive Literal
  | null
  | bool (value : Bool)
  | int (value : Int)
  | string (value : String)
  deriving DecidableEq

/-- The operator of a binary expression. -/
inductive Operator
  | assign
  | plus
  | minus
  | multiply
  | divide
  | remainder
  | leftShift
  | rightShift
  | unsignedRightShift
  | equal
  | notEqual
  | less
  | greater
  | logicalAnd
  | logicalOr
  deriving DecidableEq

/-- The two ways in which a binary expression declares something. -/
inductive DeclarationKind
  /-- The kind of `T x = …` in the body of a method. -/
  | localVariable
  /-- The kind of `field = …`, the initial value of a field. -/
  | fieldInitializer
  deriving DecidableEq

/-! ## Expressions and statements -/

mutual

/-- An expression. -/
inductive Expr
  | var (v : Variable)
  /-- The member `target.name`, not called. -/
  | property (target : Expr) (name : String) (span : Span)
  /-- A type used as a value. -/
  | classRef (type : TypeRef) (span : Span)
  | literal (value : Literal) (span : Span)
  | call (c : Call)
  | binary (b : Binary)
  | closure (c : Closure)

/-- What a call is made on. -/
inductive Callee
  /-- The object of `receiver.method(…)`; a call without a written receiver is made on `this`. -/
  | receiver (target : Expr)
  /-- The type of `Owner.method(…)`. -/
  | owner (type : TypeRef)

/-- The arguments of a call. A list and a tuple hold their expressions in the same way. A call that
was made up without arguments may instead refer to the one empty list that the whole program shares,
and nobody may write to that. -/
inductive Arguments
  | list (items : List Expr)
  | tuple (items : List Expr)
  | sharedEmpty

/-- A call. Its `method` is absent when the name is computed while the program runs. -/
structure Call where
  callee : Callee
  method : Option String
  args : Arguments
  span : Span

/-- An operator with its operands; `declaration` says whether it declares a variable or a field. -/
structure Binary where
  lhs : Expr
  op : Operator
  rhs : Expr
  declaration : Option DeclarationKind
  span : Span

/-- A closure. Its `body` is absent when the front end recorded no block for it. -/
structure Closure where
  body : Option Block
  span : Span

/-- Statements in order. -/
structure Block where
  statements : List Stmt
  span : Span

/-- A statement. -/
inductive Stmt
  | expr (value : Expr) (span : Span)
  | block (b : Block)
  | assertion (condition : Expr) (message : Option Expr) (span : Span)

end

/-! ## Spans of nodes -/

namespace Expr

/-- The span of an expression. -/
def span : Expr → Span
  | .var v => v.span
  | .property _ _ s => s
  | .classRef _ s => s
  | .literal _ s => s
  | .call c => c.span
  | .binary b => b.span
  | .closure c => c.span

/-- The expression with another span; the spans below it stay. -/
def withSpan (s : Span) : Expr → Expr
  | .var v => .var { v with span := s }
  | .property target name _ => .property target name s
  | .classRef type _ => .classRef type s
  | .literal value _ => .literal value s
  | .call c => .call { c with span := s }
  | .binary b => .binary { b with span := s }
  | .closure c => .closure { c with span := s }

@[simp]
theorem span_withSpan (s : Span) (e : Expr) : (e.withSpan s).span = s := by
  cases e <;> rfl

@[simp]
theorem withSpan_span (e : Expr) : e.withSpan e.span = e := by
  cases e with
  | call c => cases c; rfl
  | binary b => cases b; rfl
  | closure c => cases c; rfl
  | _ => rfl

end Expr

namespace Stmt

/-- The span of a statement. -/
def span : Stmt → Span
  | .expr _ s => s
  | .block b => b.span
  | .assertion _ _ s => s

end Stmt

/-! ## Operators -/

namespace Operator

/-- The spelling of an operator. -/
def token : Operator → String
  | .assign => "="
  | .plus => "+"
  | .minus => "-"
  | .multiply => "*"
  | .divide => "/"
  | .remainder => "%"
  | .leftShift => "<<"
  | .rightShift => ">>"
  | .unsignedRightShift => ">>>"
  | .equal => "=="
  | .notEqual => "!="
  | .less => "<"
  | .greater => ">"
  | .logicalAnd => "&&"
  | .logicalOr => "||"

/-- All operators. -/
def all : List Operator :=
  [.assign, .plus, .minus, .multiply, .divide, .remainder, .leftShift, .rightShift,
    .unsignedRightShift, .equal, .notEqual, .less, .greater, .logicalAnd, .logicalOr]

/-- The operator with a given spelling. -/
def ofToken? (text : String) : Option Operator :=
  all.find? (fun op => op.token == text)

theorem mem_all (op : Operator) : op ∈ all := by
  cases op <;> decide

/-- An operator is read back from its spelling. -/
theorem ofToken?_token (op : Operator) : ofToken? op.token = some op := by
  cases op <;> decide

end Operator

/-! ## Arguments -/

namespace Arguments

/-- The arguments in order, whatever holds them. -/
def items : Arguments → List Expr
  | .list es => es
  | .tuple es => es
  | .sharedEmpty => []

/-- Whether the arguments are the shared empty list. -/
def isSharedEmpty : Arguments → Bool
  | .sharedEmpty => true
  | _ => false

/-- The arguments with other items in the same representation. The shared empty list has none to
replace. -/
def withItems? : Arguments → List Expr → Option Arguments
  | .list _, es => some (.list es)
  | .tuple _, es => some (.tuple es)
  | .sharedEmpty, _ => none

@[simp] theorem items_list (es : List Expr) : (list es).items = es := rfl
@[simp] theorem items_tuple (es : List Expr) : (tuple es).items = es := rfl
@[simp] theorem items_sharedEmpty : sharedEmpty.items = [] := rfl

/-- Only the shared empty list refuses new items. -/
theorem withItems?_eq_none_iff {a : Arguments} {es : List Expr} :
    a.withItems? es = none ↔ a.isSharedEmpty = true := by
  cases a <;> simp [withItems?, isSharedEmpty]

/-- What was put in is read back. -/
theorem items_of_withItems? {a b : Arguments} {es : List Expr} (h : a.withItems? es = some b) :
    b.items = es := by
  cases a <;> simp [withItems?] at h <;> subst h <;> rfl

end Arguments

/-! ## Binary expressions and closures -/

namespace Binary

/-- Whether the expression declares something. -/
def isDeclaration (b : Binary) : Bool := b.declaration.isSome

end Binary

namespace Closure

/-- The statements of a closure; one without a block has none. -/
def statements (c : Closure) : List Stmt :=
  match c.body with
  | some block => block.statements
  | none => []

end Closure

end Desugar
