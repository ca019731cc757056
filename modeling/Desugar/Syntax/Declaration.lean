import Desugar.Modifiers
import Desugar.Syntax.Basic

/-!
# Declarations

Classes with their fields and methods, and the annotations on them.

## Contents

* `Annotation`, `Field`, `Method`, `ClassDecl` — the declarations.
* `Node` — any node of a tree; only declarations carry annotations.
* `Node.annotation?` — the first annotation of a type, in the order of the source.
* `Method.isSynthetic`, `Field.visibility` — what the flags say about a member.
-/

namespace Desugar

/-- An annotation, known by the qualified name of its type. -/
structure Annotation where
  typeName : String
  span : Span
  deriving DecidableEq

/-- An annotation without a position. -/
def Annotation.named (typeName : String) : Annotation := ⟨typeName, .unknown⟩

/-- A field of a class. -/
structure Field where
  name : String
  type : Option TypeRef := none
  modifiers : Modifiers := .empty
  annotations : List Annotation := []
  initialValue : Option Expr := none
  span : Span := .unknown

/-- A method of a class. Its body is absent when the method has none, and may be a single statement
that no block encloses. The front end marks a method it made up as `synthetic`; that mark is apart
from the access flag of the same name. -/
structure Method where
  name : String
  modifiers : Modifiers := .empty
  annotations : List Annotation := []
  body : Option Stmt := none
  synthetic : Bool := false
  span : Span := .unknown

/-- A class. -/
structure ClassDecl where
  name : String
  annotations : List Annotation := []
  fields : List Field := []
  methods : List Method := []
  span : Span := .unknown

instance : Modified Field where
  modifiers := Field.modifiers
  withModifiers f m := { f with modifiers := m }

instance : Modified Method where
  modifiers := Method.modifiers
  withModifiers f m := { f with modifiers := m }

/-- The visibility of a field. -/
def Field.visibility (f : Field) : Visibility := .of f.modifiers

/-- Whether a method was made up, by the mark of the front end or by its access flag. -/
def Method.isSynthetic (m : Method) : Bool :=
  m.synthetic || m.modifiers.contains .syntheticFlag

/-! ## Nodes -/

/-- Any node of a tree. -/
inductive Node
  | classDecl (c : ClassDecl)
  | method (m : Method)
  | field (f : Field)
  | stmt (s : Stmt)
  | expr (e : Expr)

namespace Node

/-- The span of a node. -/
def span : Node → Span
  | .classDecl c => c.span
  | .method m => m.span
  | .field f => f.span
  | .stmt s => s.span
  | .expr e => e.span

/-- Whether the span of a node is plausible. -/
def hasPlausibleSpan (n : Node) : Bool := n.span.isPlausible

/-- The annotations on a node in the order of the source, if it is of a kind that can have any. -/
def annotations? : Node → Option (List Annotation)
  | .classDecl c => some c.annotations
  | .method m => some m.annotations
  | .field f => some f.annotations
  | .stmt _ => none
  | .expr _ => none

/-- The first annotation of a type on a node. Types are compared by their whole qualified name. -/
def annotation? (n : Node) (typeName : String) : Option Annotation :=
  n.annotations?.bind (List.find? fun a => a.typeName == typeName)

/-- Whether a node has an annotation of a type. -/
def hasAnnotation (n : Node) (typeName : String) : Bool := (n.annotation? typeName).isSome

end Node

end Desugar
