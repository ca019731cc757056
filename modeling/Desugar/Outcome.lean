import Desugar.Event

/-!
# Outcomes

An expansion either fails for a stated cause or gives a result, and in both cases reports events.
`Outcome` holds both parts, and outcomes are chained: the events of a chain are those of its links,
up to the first one that fails.

## Contents

* `Error` — the causes of failure, their texts, and the diagnostic that a user sees.
* `Outcome` — a result with events, as a monad.
-/

namespace Desugar

/-! ## Causes of failure -/

/-- Why an expansion failed. Only the first cause is the user's doing; the others say that the
expansion was asked of an expression that it cannot work on. -/
inductive Error
  /-- The call at `span` does not tell which type to use, and no declaration does. -/
  | typeNotInferred (span : Span)
  /-- A type was to be inferred for something that is not a call. -/
  | inferenceNeedsCall
  /-- A declaration was to be expanded, and the expression declares nothing. -/
  | expansionNeedsDeclaration
  /-- A call was to be expanded, and the expression is none. -/
  | expansionNeedsCall
  /-- The arguments of the call are the shared empty list. -/
  | sharedArguments
  deriving DecidableEq

/-- What is reported to the user. -/
structure Diagnostic where
  code : String
  message : String
  span : Option Span
  deriving DecidableEq

namespace Error

/-- Whether the failure is not the user's doing. -/
def isInternal : Error → Bool
  | .typeNotInferred _ => false
  | _ => true

/-- The cause in words. -/
def reason : Error → String
  | .typeNotInferred _ => "Type cannot be inferred; please specify one explicitly"
  | .inferenceNeedsCall => "type inference requires a builtin member call"
  | .expansionNeedsDeclaration => "builtin member expansion requires a declaration"
  | .expansionNeedsCall => "builtin member expansion requires a call expression"
  | .sharedArguments =>
    "builtin member call uses the shared empty argument list, which must not be mutated"

/-- The whole text of a failure: the user's ones say where, the others that they are internal. -/
def message : Error → String
  | .typeNotInferred span => (Error.typeNotInferred span).reason ++ " (at " ++ span.point ++ ")"
  | e => "internal error: " ++ e.reason

/-- The code under which failures of the user are reported. -/
def code : String := "speck.syntax"

/-- The diagnostic of a failure that is the user's doing. It has a span only if the span is
plausible. -/
def diagnostic? : Error → Option Diagnostic
  | .typeNotInferred span =>
    some ⟨code, (Error.typeNotInferred span).reason, if span.isPlausible then some span else none⟩
  | _ => none

end Error

/-! ## Results with events -/

/-- What came of an expansion, and what it reported on the way. -/
structure Outcome (α : Type) where
  result : Except Error α
  events : List Event

namespace Outcome

variable {α β : Type}

/-- A result without events. -/
def ok (a : α) : Outcome α := ⟨.ok a, []⟩

/-- A failure without events. -/
def fail (e : Error) : Outcome α := ⟨.error e, []⟩

/-- The outcome with events before its own. -/
def after (o : Outcome α) (events : List Event) : Outcome α := ⟨o.result, events ++ o.events⟩

/-- Go on with the result, if there is one. -/
def bind (o : Outcome α) (f : α → Outcome β) : Outcome β :=
  match o.result with
  | .ok a => (f a).after o.events
  | .error e => ⟨.error e, o.events⟩

/-- The outcome with its result changed. -/
def map (f : α → β) (o : Outcome α) : Outcome β := o.bind fun a => ok (f a)

instance : Monad Outcome where
  pure := ok
  bind := bind

@[simp] theorem pure_eq (a : α) : (pure a : Outcome α) = ok a := rfl
@[simp] theorem bind_eq (o : Outcome α) (f : α → Outcome β) : o >>= f = o.bind f := rfl

@[simp] theorem after_nil (o : Outcome α) : o.after [] = o := rfl
@[simp] theorem result_after (o : Outcome α) (es : List Event) :
    (o.after es).result = o.result := rfl
@[simp] theorem events_after (o : Outcome α) (es : List Event) :
    (o.after es).events = es ++ o.events := rfl

@[simp] theorem result_ok (a : α) : (ok a).result = .ok a := rfl
@[simp] theorem events_ok (a : α) : (ok a).events = [] := rfl
@[simp] theorem result_fail (e : Error) : (fail e : Outcome α).result = .error e := rfl
@[simp] theorem events_fail (e : Error) : (fail e : Outcome α).events = [] := rfl

@[simp] theorem ok_bind (a : α) (f : α → Outcome β) : (ok a).bind f = f a := rfl
@[simp] theorem fail_bind (e : Error) (f : α → Outcome β) : (fail e).bind f = fail e := rfl

/-- A chain goes on from a result. -/
@[simp] theorem mk_ok_bind (a : α) (es : List Event) (f : α → Outcome β) :
    (⟨.ok a, es⟩ : Outcome α).bind f = (f a).after es := rfl

/-- A chain ends at a failure. -/
@[simp] theorem mk_error_bind (e : Error) (es : List Event) (f : α → Outcome β) :
    (⟨.error e, es⟩ : Outcome α).bind f = ⟨.error e, es⟩ := rfl

@[simp] theorem ok_map (a : α) (f : α → β) : (ok a).map f = ok (f a) := rfl
@[simp] theorem fail_map (e : Error) (f : α → β) : (fail e).map f = fail e := rfl

end Outcome

end Desugar
