import Desugar.Expansion
import Desugar.Run

/-!
# Edits of an expression

One edit is a single thing that can be done to an expression or asked of it: an expansion, an
inference, a look-up, or a change to its call. A run of edits is `run Edit.perform`. An edit that
fails leaves the expression as it was.

## Contents

* `Expr.innerCall?`, `Expr.withInnerCall` — the call that an edit of a call works on.
* `Edit`, `Edit.Answer`, `Edit.Reply` — what can be done, and what comes back.
* `Edit.perform` — the expression after an edit, with its reply.
-/

namespace Desugar

namespace Expr

/-- The call inside an expression: itself, or the right side of a binary expression. -/
def innerCall? : Expr → Option Call
  | .call c => some c
  | .binary b => b.rhs.call?
  | _ => none

/-- The expression with another call in the place of `innerCall?`. -/
def withInnerCall (e : Expr) (c : Call) : Expr :=
  match e with
  | .call _ => .call c
  | .binary b => .binary { b with rhs := .call c }
  | e => e

end Expr

/-- How an expression relates to a helper. -/
structure HelperUse where
  use : Bool
  call : Bool
  /-- The answer for a declaration, asked of binary expressions only. -/
  declaration : Option Bool
  deriving DecidableEq

/-- Ask all questions about an expression and a helper. -/
def Helper.useOf (h : Helper) (e : Expr) : HelperUse :=
  ⟨h.isUsedBy e, h.isCalledBy e, e.binary?.map h.isDeclaredBy⟩

/-- Something that is done to an expression or asked of it. -/
inductive Edit
  | expandAs (name : String) (type : Expr) (extra : List Expr)
  | expand (extra : List Expr)
  | expandCall (extra : List Expr)
  /-- Expand as a declaration; only a binary expression can be. -/
  | expandDeclaration (extra : List Expr)
  /-- Expand the inner call. -/
  | expandInnerCall (name : String) (type : Expr) (extra : List Expr)
  | infer
  | relate (h : Helper)
  | find (r : Registry)
  | setArguments (args : Arguments)
  | setMethod (method : Option String)
  /-- Put one more argument at the end of the inner call's own list. -/
  | pushArgument (arg : Expr)
  | setSpan (span : Span)

namespace Edit

/-- What an edit answers. -/
inductive Answer
  | done
  | failed (e : Error)
  /-- The expression is not of a shape that the edit works on. -/
  | notApplicable
  | inferred (i : Inferred)
  | related (u : HelperUse)
  | found (h : Option Helper)
  /-- The number of arguments after a push. -/
  | count (n : Nat)
  /-- The arguments are the shared empty list, which has no place for another. -/
  | refused

/-- An answer with the events of the edit. -/
structure Reply where
  answer : Answer
  events : List Event

/-- An answer without events. -/
def Answer.silent (a : Answer) : Reply := ⟨a, []⟩

/-- The new expression of an outcome, or the old one if it failed. An outcome that failed carries no
expression: every check of an expansion comes before its first write, so there is nothing half done
that it could carry. -/
def settle (e : Expr) (o : Outcome Expr) : Expr × Reply :=
  match o.result with
  | .ok e' => (e', ⟨.done, o.events⟩)
  | .error cause => (e, ⟨.failed cause, o.events⟩)

/-- Change the inner call, if there is one. -/
def onInnerCall (e : Expr) (change : Call → Expr × Reply) : Expr × Reply :=
  match e.innerCall? with
  | some c => change c
  | none => (e, Answer.notApplicable.silent)

/-- The expression after an edit, with the reply to it. -/
def perform (e : Expr) : Edit → Expr × Reply
  | .expandAs name type extra => settle e (e.expandAs name type extra)
  | .expand extra => settle e (e.expand extra)
  | .expandCall extra => settle e (e.expandCall extra)
  | .expandDeclaration extra =>
    match e with
    | .binary b => settle e ((b.expand extra).map .binary)
    | _ => (e, Answer.notApplicable.silent)
  | .expandInnerCall name type extra =>
    onInnerCall e fun c => settle e ((c.expandAs name type extra).map e.withInnerCall)
  | .infer =>
    match e.infer.result with
    | .ok i => (e, ⟨.inferred i, e.infer.events⟩)
    | .error cause => (e, ⟨.failed cause, e.infer.events⟩)
  | .relate h => (e, (Answer.related (h.useOf e)).silent)
  | .find r => (e, (Answer.found (r.find? e)).silent)
  | .setArguments args =>
    onInnerCall e fun c => (e.withInnerCall { c with args := args }, Answer.done.silent)
  | .setMethod method =>
    onInnerCall e fun c => (e.withInnerCall { c with method := method }, Answer.done.silent)
  | .pushArgument arg =>
    onInnerCall e fun c =>
      match c.args.withItems? (c.args.items ++ [arg]) with
      | some args =>
        (e.withInnerCall { c with args := args }, (Answer.count args.items.length).silent)
      | none => (e, Answer.refused.silent)
  | .setSpan span => (e.withSpan span, Answer.done.silent)

end Edit

end Desugar
