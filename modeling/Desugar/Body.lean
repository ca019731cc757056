import Desugar.Expansion
import Desugar.Run
import Desugar.Syntax.Declaration

/-!
# Bodies

The statements of methods and closures as lists that can be edited. The body of a method becomes a
block as soon as its statements are asked for; a closure without a recorded block has no list to
edit.

## Contents

* `ListEdit` — one edit of a list of statements, with its answer.
* `Method.bodyBlock`, `Method.withStatements` — the block that the body of a method is, or becomes.
* `Method.Step`, `Closure.Step` — the steps of a run over a method or a closure.
-/

namespace Desugar

/-! ## Edits of a list of statements -/

/-- One edit of a list of statements. -/
inductive ListEdit
  /-- Read the list; nothing changes. -/
  | view
  | push (s : Stmt)
  | insert (index : Nat) (s : Stmt)
  | remove (index : Nat)
  | clear
  /-- Expand the use of a helper that a statement is. -/
  | expand (index : Nat) (extra : List Expr)

namespace ListEdit

/-- What an edit answers. -/
inductive Answer
  | viewed (ss : List Stmt)
  | done
  | removed (s : Stmt)
  | outOfRange
  /-- The statement is not an expression. -/
  | notApplicable
  | failed (e : Error)

/-- An answer with the events of the edit. -/
structure Reply where
  answer : Answer
  events : List Event

/-- An answer without events. -/
def Answer.silent (a : Answer) : Reply := ⟨a, []⟩

/-- Expand the statement at an index. It keeps its span. An expansion makes all its checks before it
writes anything, so a failed one has no expression of its own to give and the list stays as it
was. -/
def expandAt (ss : List Stmt) (index : Nat) (extra : List Expr) : List Stmt × Reply :=
  match ss[index]? with
  | none => (ss, Answer.outOfRange.silent)
  | some (.expr e span) =>
    match (e.expand extra).result with
    | .ok e' => (ss.set index (.expr e' span), ⟨.done, (e.expand extra).events⟩)
    | .error cause => (ss, ⟨.failed cause, (e.expand extra).events⟩)
  | some _ => (ss, Answer.notApplicable.silent)

/-- The list after an edit, with the reply to it. -/
def perform (ss : List Stmt) : ListEdit → List Stmt × Reply
  | .view => (ss, (Answer.viewed ss).silent)
  | .push s => (ss ++ [s], Answer.done.silent)
  | .insert index s =>
    if index ≤ ss.length then (ss.insertIdx index s, Answer.done.silent)
    else (ss, Answer.outOfRange.silent)
  | .remove index =>
    match ss[index]? with
    | some s => (ss.eraseIdx index, (Answer.removed s).silent)
    | none => (ss, Answer.outOfRange.silent)
  | .clear => ([], Answer.done.silent)
  | .expand index extra => expandAt ss index extra

end ListEdit

/-! ## Methods -/

namespace Method

/-- The block of statements of a method. A body that is a single statement gets a block around it,
and a missing body is an empty block; both take the span of the method. -/
def bodyBlock (m : Method) : Block :=
  match m.body with
  | some (.block b) => b
  | some s => ⟨[s], m.span⟩
  | none => ⟨[], m.span⟩

/-- What is reported when the statements of a method are asked for. -/
def bodyEvents (m : Method) : List Event :=
  match m.body with
  | some (.block _) => []
  | some _ => [.bodyWrapped m.name]
  | none => []

/-- The statements of a method. -/
def statements (m : Method) : List Stmt := m.bodyBlock.statements

/-- The method with other statements in its block. -/
def withStatements (m : Method) (ss : List Stmt) : Method :=
  { m with body := some (.block { m.bodyBlock with statements := ss }) }

/-- One step of a run over a method. -/
inductive Step
  | edit (e : ListEdit)
  | setBody (body : Option Stmt)
  | setSpan (span : Span)

/-- What a step answers. -/
inductive Answer
  | edited (a : ListEdit.Answer)
  | assigned

/-- An answer with the events of the step. -/
structure Reply where
  answer : Answer
  events : List Event

/-- The method after a step, with the reply to it. An edit asks for the statements first, so it
leaves a method with a block for its body. -/
def perform (m : Method) : Step → Method × Reply
  | .edit e =>
    let after := e.perform m.statements
    (m.withStatements after.1, ⟨.edited after.2.answer, m.bodyEvents ++ after.2.events⟩)
  | .setBody body => ({ m with body := body }, ⟨.assigned, []⟩)
  | .setSpan span => ({ m with span := span }, ⟨.assigned, []⟩)

@[simp]
theorem statements_withStatements (m : Method) (ss : List Stmt) :
    (m.withStatements ss).statements = ss := rfl

end Method

/-! ## Closures -/

namespace Closure

/-- One step of a run over a closure. A view reads the statements without the right to change them,
which every closure grants. -/
inductive Step
  | view
  | edit (e : ListEdit)

/-- What a step answers. -/
inductive Answer
  | viewed (ss : List Stmt)
  | edited (a : ListEdit.Answer)
  /-- The closure has no recorded block, so there is nothing to edit. -/
  | refused

/-- An answer with the events of the step. -/
structure Reply where
  answer : Answer
  events : List Event

/-- The closure after a step, with the reply to it. -/
def perform (c : Closure) : Step → Closure × Reply
  | .view => (c, ⟨.viewed c.statements, []⟩)
  | .edit e =>
    match c.body with
    | none => (c, ⟨.refused, []⟩)
    | some block =>
      let after := e.perform block.statements
      ({ c with body := some { block with statements := after.1 } },
        ⟨.edited after.2.answer, after.2.events⟩)

end Closure

end Desugar
