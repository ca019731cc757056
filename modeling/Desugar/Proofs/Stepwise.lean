import Desugar.Proofs.Expansion

/-!
# Expanding in one step and in two

An expansion that infers the name and the type does so by itself: it finds the call, checks that a
binary expression declares something, and fails at the first thing that is wrong. The same can be
asked for in two steps, first for the name and the type, then for an expansion with them, and the
second step finds and checks the call once more. The two ways come to the same wherever a binary
expression is a declaration. Where it is none, inference has no objections, and every expansion has.

## Contents

* `Edit.Reply.after`, `Edit.inferThenExpand` — the two steps, with the events of both.
* `Edit.settle_bind_of_ok`, `Edit.settle_bind_of_error` — a chain of outcomes is settled link by
  link.
* `Edit.expansion_stepwise` — where one step and two steps are the same, and where neither expands.
-/

namespace Desugar

namespace Edit

/-- A reply with events before its own. -/
def Reply.after (r : Reply) (events : List Event) : Reply := ⟨r.answer, events ++ r.events⟩

/-- Infer a name and a type, and if there are any, expand with them. -/
def inferThenExpand (e : Expr) (extra : List Expr) : Expr × Reply :=
  let inference := perform e .infer
  match inference.2.answer with
  | .inferred i =>
    let expansion := perform inference.1 (.expandAs i.name i.type extra)
    (expansion.1, expansion.2.after inference.2.events)
  | _ => inference

/-- An edit that fails for an internal cause, reports nothing and leaves the expression as it
    was. -/
def FailsInternally (e : Expr) (t : Edit) : Prop :=
  ∃ cause : Error, cause.isInternal = true ∧ perform e t = (e, (Answer.failed cause).silent)

/-! ## Chains -/

section
variable {α : Type} {e : Expr} {o : Outcome α} {f : α → Outcome Expr}

/-- A chain whose first link gives something is settled as the second link, after the events of the
    first. -/
theorem settle_bind_of_ok {a : α} (h : o.result = .ok a) :
    settle e (o.bind f) = ((settle e (f a)).1, (settle e (f a)).2.after o.events) := by
  have hbind : o.bind f = (f a).after o.events := by
    simp only [Outcome.bind, h]
  rw [hbind]
  unfold settle
  rw [Outcome.result_after]
  cases (f a).result <;> rfl

/-- A chain whose first link fails comes to nothing. -/
theorem settle_bind_of_error {cause : Error} (h : o.result = .error cause) :
    settle e (o.bind f) = (e, ⟨.failed cause, o.events⟩) := by
  have hbind : o.bind f = ⟨.error cause, o.events⟩ := by
    simp only [Outcome.bind, h]
  rw [hbind]
  rfl

end

/-! ## One step and two -/

variable {e : Expr} {extra : List Expr}

theorem inferThenExpand_of_ok {i : Inferred} (h : e.infer.result = .ok i) :
    inferThenExpand e extra =
      ((settle e (e.expandAs i.name i.type extra)).1,
        (settle e (e.expandAs i.name i.type extra)).2.after e.infer.events) := by
  have hinfer : perform e .infer = (e, ⟨.inferred i, e.infer.events⟩) := by
    simp only [perform, h]
  simp only [inferThenExpand, hinfer]
  rfl

theorem inferThenExpand_of_error {cause : Error} (h : e.infer.result = .error cause) :
    inferThenExpand e extra = (e, ⟨.failed cause, e.infer.events⟩) := by
  have hinfer : perform e .infer = (e, ⟨.failed cause, e.infer.events⟩) := by
    simp only [perform, h]
  simp only [inferThenExpand, hinfer]

/-- Where an expansion is what is inferred and then expanded, it does not matter who infers. -/
theorem perform_expand_of_declared (h : ∀ b, e.binary? = some b → b.isDeclaration = true) :
    perform e (.expand extra) = inferThenExpand e extra := by
  show settle e (e.expand extra) = _
  rw [Expr.expand_of_declared h]
  cases hinfer : e.infer.result with
  | ok i => rw [settle_bind_of_ok hinfer, inferThenExpand_of_ok hinfer]
  | error cause => rw [settle_bind_of_error hinfer, inferThenExpand_of_error hinfer]

/-- **One step or two.** An expansion of a declaration, or of anything but a binary expression, has
    the same answer, the same expression and the same events as an inference followed by an
    expansion with what was inferred. A binary expression that declares nothing is expanded in no
    way: not by itself, not as a call on its own, and not with any name and type, be they inferred
    from it or not. -/
theorem expansion_stepwise (e : Expr) (extra : List Expr) :
    ((∀ b, e.binary? = some b → b.isDeclaration = true) →
      perform e (.expand extra) = inferThenExpand e extra) ∧
    (∀ b, e.binary? = some b → b.isDeclaration = false →
      FailsInternally e (.expand extra) ∧ FailsInternally e (.expandCall extra) ∧
        ∀ name type, FailsInternally e (.expandAs name type extra)) := by
  refine ⟨perform_expand_of_declared, fun b hb hdecl => ?_⟩
  obtain rfl : e = .binary b := by
    cases e with
    | binary _ => exact congrArg Expr.binary (Option.some.inj hb)
    | _ => exact absurd hb (by simp [Expr.binary?])
  -- each of the three looks for the declaration in a place of its own, so the causes differ
  refine ⟨⟨.expansionNeedsDeclaration, rfl, ?_⟩, ⟨.inferenceNeedsCall, rfl, ?_⟩,
    fun name type => ⟨.expansionNeedsCall, rfl, ?_⟩⟩
  · show settle _ ((Expr.binary b).expand extra) = _
    rw [Expr.expand_of_undeclared hdecl]
    rfl
  · show settle _ ((Expr.binary b).expandCall extra) = _
    rw [Expr.expandCall_eq]
    rfl
  · have hcall : (Expr.binary b).usedCall? = none := by
      rw [Expr.usedCall?, hdecl]
      rfl
    show settle _ ((Expr.binary b).expandAs name type extra) = _
    rw [Expr.expandAs_of_no_call hcall]
    rfl

/-- `List list = Mock()` as a declaration is expanded in two steps as in one. As an assignment it
    says the same name and type, and is not expanded with them. -/
theorem expansion_stepwise_of_assignment :
    perform (Build.declare (Build.typedVar "list" "List") (Build.thisCall "Mock" [])) (.expand []) =
        inferThenExpand
          (Build.declare (Build.typedVar "list" "List") (Build.thisCall "Mock" [])) [] ∧
      (Build.binary (Build.typedVar "list" "List") .assign (Build.thisCall "Mock" [])).infer =
        .ok ⟨"list", Build.classRef "List"⟩ ∧
      FailsInternally
        (Build.binary (Build.typedVar "list" "List") .assign (Build.thisCall "Mock" []))
        (.expandAs "list" (Build.classRef "List") []) := by
  refine ⟨(expansion_stepwise _ []).1 ?_, rfl, ((expansion_stepwise _ []).2 _ rfl rfl).2.2 _ _⟩
  intro b hb
  obtain rfl := Option.some.inj hb
  rfl

end Edit

end Desugar
