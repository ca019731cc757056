import Desugar.Syntax.Basic

/-!
# Building trees

Constructors for nodes that were not read from a source text. Everything built here has an unknown
span; `Expr.withSpan` gives a position where one matters.
-/

namespace Desugar

/-- A type by its name. -/
def TypeRef.named (name : String) : TypeRef := ⟨name, .unknown⟩

/-- The name of the variable that holds the object a method runs on. -/
def Variable.thisName : String := "this"

/-- The name of the variable through which inherited members are reached. -/
def Variable.superName : String := "super"

namespace Build

/-! ## Expressions -/

/-- A variable without a declared type. -/
def var (name : String) : Expr := .var ⟨name, none, .unknown⟩

/-- A variable with a declared type, the `T x` of `T x = …`. -/
def typedVar (name type : String) : Expr := .var ⟨name, some (.named type), .unknown⟩

def this : Expr := var Variable.thisName

def super : Expr := var Variable.superName

def classRef (type : String) : Expr := .classRef (.named type) .unknown

def property (target : Expr) (name : String) : Expr := .property target name .unknown

def literal (value : Literal) : Expr := .literal value .unknown

def string (value : String) : Expr := literal (.string value)

def int (value : Int) : Expr := literal (.int value)

def null : Expr := literal .null

/-- The call `receiver.method(args)`. -/
def call (receiver : Expr) (method : String) (args : List Expr) : Expr :=
  .call ⟨.receiver receiver, some method, .list args, .unknown⟩

/-- The call `method(args)`, made on `this`. -/
def thisCall (method : String) (args : List Expr) : Expr := call this method args

/-- The call `Owner.method(args)`. -/
def staticCall (owner method : String) (args : List Expr) : Expr :=
  .call ⟨.owner (.named owner), some method, .list args, .unknown⟩

/-- An operation that declares nothing. -/
def binary (lhs : Expr) (op : Operator) (rhs : Expr) : Expr :=
  .binary ⟨lhs, op, rhs, none, .unknown⟩

/-- The equation `lhs = rhs` as a declaration of the given kind. -/
def declaration (kind : DeclarationKind) (lhs rhs : Expr) : Expr :=
  .binary ⟨lhs, .assign, rhs, some kind, .unknown⟩

/-- The declaration `lhs = rhs` of a local variable. -/
def declare (lhs rhs : Expr) : Expr := declaration .localVariable lhs rhs

/-- The initial value `lhs = rhs` of a field. -/
def fieldInit (lhs rhs : Expr) : Expr := declaration .fieldInitializer lhs rhs

/-- A closure with a recorded block. -/
def closure (statements : List Stmt) : Expr := .closure ⟨some ⟨statements, .unknown⟩, .unknown⟩

/-! ## Statements -/

/-- An expression as a statement; the statement takes the span of its expression. -/
def exprStmt (e : Expr) : Stmt := .expr e e.span

def block (statements : List Stmt) : Stmt := .block ⟨statements, .unknown⟩

def assertion (condition : Expr) (message : Option Expr) : Stmt :=
  .assertion condition message .unknown

end Build

end Desugar
