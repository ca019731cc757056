import Desugar.Proofs.Rewriting
import Desugar.Syntax.Relocation

/-!
# Maps of trees

A map of trees goes through a tree node by node and changes nothing but positions and what holds the
arguments of calls. Every question about an expression has the same answer before and after such a
map, and every expansion of the image is the image of an expansion, as long as the map does not give
a call on the shared empty list arguments of its own. Each function has one lemma here, which holds
of all maps at once.

## Contents

* `Error.relocate`, `Event.relocate`, `Outcome.relocate`, `Edit.Reply.relocate` — what comes of an
  expansion, at other positions.
* `TreeMap` — a map of trees, with the equations that make it one.
* `TreeMap.useOf_expr`, `TreeMap.find?_expr`, `TreeMap.target?_expr` and so on — questions.
* `TreeMap.infer_expr`, `TreeMap.expandAs_expr`, `TreeMap.expand_expr` — inference and expansion.
* `TreeMap.perform_expr` — every expansion of an expression, as an edit of it.
-/

namespace Desugar

/-! ## Outcomes at other positions -/

/-- The cause of failure at another position; an internal one has none. -/
def Error.relocate (f : Span → Span) : Error → Error
  | .typeNotInferred span => .typeNotInferred (f span)
  | cause => cause

/-- The event at another position, if it has one. -/
def Event.relocate (f : Span → Span) : Event → Event
  | .sharedListRefused method span => .sharedListRefused method (f span)
  | .typeNotInferred span => .typeNotInferred (f span)
  | v => v

/-- The same name with another type. -/
def Inferred.map (g : Expr → Expr) (i : Inferred) : Inferred := ⟨i.name, g i.type⟩

/-- The outcome with its result changed by `g` and all the positions it mentions by `f`. -/
def Outcome.relocate {α β : Type} (f : Span → Span) (g : α → β) (o : Outcome α) : Outcome β where
  result :=
    match o.result with
    | .ok a => .ok (g a)
    | .error cause => .error (cause.relocate f)
  events := o.events.map (Event.relocate f)

section
variable {α β γ δ : Type} {f : Span → Span}

/-- A chain is relocated link by link. -/
theorem Outcome.relocate_bind {o : Outcome α} {next : α → Outcome γ} {next' : β → Outcome δ}
    {g : α → β} {h : γ → δ} (hnext : ∀ a, (next a).relocate f h = next' (g a)) :
    (o.bind next).relocate f h = (o.relocate f g).bind next' := by
  obtain ⟨result, events⟩ := o
  cases result with
  | error cause => rfl
  | ok a =>
      show ((next a).after events).relocate f h =
        (next' (g a)).after (events.map (Event.relocate f))
      rw [← hnext a]
      simp [Outcome.relocate, Outcome.after]

theorem Outcome.relocate_map {o : Outcome α} {k : α → γ} {k' : β → δ} {g : α → β} {h : γ → δ}
    (hk : ∀ a, h (k a) = k' (g a)) : (o.map k).relocate f h = (o.relocate f g).map k' :=
  relocate_bind fun a => congrArg Outcome.ok (hk a)

end

namespace Edit

/-- The answer with its expressions changed by `g` and the positions it mentions by `f`. -/
def Answer.relocate (f : Span → Span) (g : Expr → Expr) : Answer → Answer
  | .failed cause => .failed (cause.relocate f)
  | .inferred i => .inferred (i.map g)
  | a => a

/-- The reply with its expressions changed by `g` and the positions it mentions by `f`. -/
def Reply.relocate (f : Span → Span) (g : Expr → Expr) (r : Reply) : Reply :=
  ⟨r.answer.relocate f g, r.events.map (Event.relocate f)⟩

/-- The edit with the expressions that it brings changed by `g`. -/
def mapGiven (g : Expr → Expr) : Edit → Edit
  | .expandAs name type extra => .expandAs name (g type) (extra.map g)
  | .expand extra => .expand (extra.map g)
  | .expandCall extra => .expandCall (extra.map g)
  | .expandDeclaration extra => .expandDeclaration (extra.map g)
  | .expandInnerCall name type extra => .expandInnerCall name (g type) (extra.map g)
  | .setArguments args => .setArguments (args.refill (args.items.map g))
  | .pushArgument arg => .pushArgument (g arg)
  | t => t

/-- The call whose arguments an expansion of `e` replaces, if it finds one. -/
def target? (e : Expr) : Edit → Option Call
  | .expandAs .. => e.usedCall?
  | .expand _ => e.usedCall?
  | .expandCall _ => e.call?
  | .expandDeclaration _ => if e.binary?.isSome then e.usedCall? else none
  | .expandInnerCall .. => e.innerCall?
  | _ => none

end Edit

/-! ## Maps -/

/-- A map of trees. Names, operators, literals and the order of everything stay; a span becomes its
    image, and the arguments of a call the images of its arguments. -/
structure TreeMap where
  span : Span → Span
  expr : Expr → Expr
  callee : Callee → Callee
  args : Arguments → Arguments
  closure : Closure → Closure
  block : Block → Block
  stmt : Stmt → Stmt
  /-- What has no position gets none. -/
  span_unknown : span .unknown = .unknown
  expr_var : ∀ v, expr (.var v) = .var (v.relocate span)
  expr_property : ∀ target name s,
    expr (.property target name s) = .property (expr target) name (span s)
  expr_classRef : ∀ type s, expr (.classRef type s) = .classRef (type.relocate span) (span s)
  expr_literal : ∀ value s, expr (.literal value s) = .literal value (span s)
  expr_call : ∀ c : Call,
    expr (.call c) = .call ⟨callee c.callee, c.method, args c.args, span c.span⟩
  expr_binary : ∀ b : Binary,
    expr (.binary b) = .binary ⟨expr b.lhs, b.op, expr b.rhs, b.declaration, span b.span⟩
  expr_closure : ∀ c, expr (.closure c) = .closure (closure c)
  callee_receiver : ∀ e, callee (.receiver e) = .receiver (expr e)
  callee_owner : ∀ t, callee (.owner t) = .owner (t.relocate span)
  items_args : ∀ a, (args a).items = a.items.map expr
  /-- What holds the arguments afterwards depends on what held them before, not on them. -/
  args_refill : ∀ a es, a.isSharedEmpty = false → args (a.refill es) = (args a).refill (es.map expr)
  stmt_expr : ∀ e s, stmt (.expr e s) = .expr (expr e) (span s)
  stmt_block : ∀ b, stmt (.block b) = .block (block b)
  stmt_assertion : ∀ condition message s,
    stmt (.assertion condition message s) = .assertion (expr condition) (message.map expr) (span s)

namespace TreeMap

attribute [simp] span_unknown expr_var expr_property expr_classRef expr_literal expr_call
  expr_binary expr_closure callee_receiver callee_owner items_args stmt_expr stmt_block
  stmt_assertion

variable (T : TreeMap)

/-- The image of a call. -/
def call (c : Call) : Call := ⟨T.callee c.callee, c.method, T.args c.args, T.span c.span⟩

/-- The image of a binary expression. -/
def binary (b : Binary) : Binary :=
  ⟨T.expr b.lhs, b.op, T.expr b.rhs, b.declaration, T.span b.span⟩

/-! ## Questions -/

variable (e : Expr) (b : Binary) (s : Stmt)

theorem call?_expr : (T.expr e).call? = e.call?.map T.call := by
  cases e <;> simp [Expr.call?, call]

theorem binary?_expr : (T.expr e).binary? = e.binary?.map T.binary := by
  cases e <;> simp [Expr.binary?, binary]

theorem isThis_expr : (T.expr e).isThis = e.isThis := by
  cases e <;> simp [Expr.isThis, Variable.relocate]

theorem isSuper_expr : (T.expr e).isSuper = e.isSuper := by
  cases e <;> simp [Expr.isSuper, Variable.relocate]

theorem arguments?_expr : (T.expr e).arguments? = e.arguments?.map (List.map T.expr) := by
  rw [Expr.arguments?, Expr.arguments?, call?_expr, Option.map_map, Option.map_map]
  congr 1
  funext c
  exact T.items_args c.args

theorem argumentCount?_expr : (T.expr e).argumentCount? = e.argumentCount? := by
  rw [Expr.argumentCount?, Expr.argumentCount?, arguments?_expr, Option.map_map]
  congr 1
  funext es
  exact List.length_map _

theorem isReachedThrough_callee (c : Callee) :
    Helper.isReachedThrough (T.callee c) = Helper.isReachedThrough c := by
  cases c with
  | receiver e => simp [Helper.isReachedThrough, isThis_expr, isSuper_expr]
  | owner t => simp [Helper.isReachedThrough]

theorem isCalledBy_expr (h : Helper) : h.isCalledBy (T.expr e) = h.isCalledBy e := by
  cases e <;> simp [Helper.isCalledBy, isReachedThrough_callee]

theorem isDeclaredBy_binary (h : Helper) : h.isDeclaredBy (T.binary b) = h.isDeclaredBy b := by
  simp [Helper.isDeclaredBy, binary, Binary.isDeclaration, isCalledBy_expr]

theorem isUsedBy_expr (h : Helper) : h.isUsedBy (T.expr e) = h.isUsedBy e := by
  cases e with
  | binary b =>
      rw [expr_binary]
      exact T.isDeclaredBy_binary b h
  | call c => simpa [Helper.isUsedBy] using T.isCalledBy_expr (.call c) h
  | _ => simp [Helper.isUsedBy, Helper.isCalledBy]

theorem useOf_expr (h : Helper) : h.useOf (T.expr e) = h.useOf e := by
  have hdeclared : h.isDeclaredBy ∘ T.binary = h.isDeclaredBy :=
    funext fun b => T.isDeclaredBy_binary b h
  rw [Helper.useOf, Helper.useOf, isUsedBy_expr, isCalledBy_expr, binary?_expr, Option.map_map,
    hdeclared]

theorem find?_expr (r : Registry) : r.find? (T.expr e) = r.find? e := by
  simp only [Registry.find?, isUsedBy_expr]

theorem isReferredBy_expr (p : Placeholder) : p.isReferredBy (T.expr e) = p.isReferredBy e := by
  cases e with
  | property target name s => cases target <;> simp [Placeholder.isReferredBy, TypeRef.relocate]
  | _ => simp [Placeholder.isReferredBy]

theorem target?_expr : (T.expr e).target?.map (fun t => (t.expr, t.isSynthesized)) =
    e.target?.map fun t => (T.expr t.expr, t.isSynthesized) := by
  cases e with
  | call c =>
      simp only [expr_call, Expr.target?]
      cases c.callee <;> simp [Target.expr, Target.isSynthesized, TypeRef.asExpr, TypeRef.relocate]
  | _ => simp [Expr.target?, Target.expr, Target.isSynthesized]

theorem isInteraction_stmt : (T.stmt s).isInteraction = s.isInteraction := by
  cases s with
  | expr e s => cases e <;> simp [Stmt.isInteraction, Stmt.binary?, Stmt.expression?, Expr.binary?]
  | _ => simp [Stmt.isInteraction, Stmt.binary?, Stmt.expression?]

theorem hasExplicitMessage?_stmt : (T.stmt s).hasExplicitMessage? = s.hasExplicitMessage? := by
  cases s with
  | assertion condition message s =>
      cases message with
      | none => simp [Stmt.hasExplicitMessage?]
      | some e =>
          cases e with
          | literal value s => cases value <;> simp [Stmt.hasExplicitMessage?]
          | _ => simp [Stmt.hasExplicitMessage?]
  | _ => simp [Stmt.hasExplicitMessage?]

/-! ## What a use says -/

theorem declaredName_binary : (T.binary b).declaredName = b.declaredName := by
  unfold Binary.declaredName binary
  cases b.lhs <;> simp [Variable.relocate]

theorem declaredType?_binary : (T.binary b).declaredType? = b.declaredType?.map T.expr := by
  unfold Binary.declaredType? binary
  cases b.lhs with
  | var v =>
      simp only [expr_var, Variable.relocate, Option.map_map]
      congr 1
      funext t
      simp [TypeRef.asExpr, TypeRef.relocate]
  | _ => simp

theorem innerCall?_expr : (T.expr e).innerCall? = e.innerCall?.map T.call := by
  cases e with
  | binary b => simpa [Expr.innerCall?] using T.call?_expr b.rhs
  | call c => simp [Expr.innerCall?, call]
  | _ => simp [Expr.innerCall?]

theorem usedCall?_expr : (T.expr e).usedCall? = e.usedCall?.map T.call := by
  cases e with
  | binary b =>
      rw [expr_binary]
      show (if b.isDeclaration then (T.expr b.rhs).call? else none) =
        (if b.isDeclaration then b.rhs.call? else none).map T.call
      rw [call?_expr, apply_ite (Option.map T.call)]
      rfl
  | call c => simp [Expr.usedCall?, call]
  | _ => simp [Expr.usedCall?]

theorem usedName_expr : (T.expr e).usedName = e.usedName := by
  cases e with
  | binary b =>
      rw [expr_binary, ← Expr.declaredName_eq_usedName, ← Expr.declaredName_eq_usedName]
      exact T.declaredName_binary b
  | _ => simp [Expr.usedName]

theorem statedType?_expr :
    ((T.expr e).statedType?.map fun t => Expr.classRef t t.span) =
      (e.statedType?.map fun t => Expr.classRef t t.span).map T.expr := by
  cases e with
  | binary b =>
      rw [expr_binary, ← Expr.declaredType?_eq_statedType?, ← Expr.declaredType?_eq_statedType?]
      exact T.declaredType?_binary b
  | _ => simp [Expr.statedType?]

theorem usedType?_expr (c : Call) :
    (T.expr e).usedType? (T.call c) = (e.usedType? c).map T.expr := by
  rw [Expr.usedType?, Expr.usedType?, statedType?_expr, Option.map_or]
  show (T.args c.args).items.head?.or _ = _
  rw [items_args, List.head?_map]

theorem withInnerCall_expr (c : Call) :
    T.expr (e.withInnerCall c) = (T.expr e).withInnerCall (T.call c) := by
  cases e <;> simp [Expr.withInnerCall, call]

/-! ## Inference -/

/-- **What is inferred from the image is the image of what is inferred.** -/
theorem infer_expr : (T.expr e).infer = e.infer.relocate T.span (Inferred.map T.expr) := by
  cases hc : e.innerCall? with
  | none =>
      have hc' : (T.expr e).innerCall? = none := by rw [innerCall?_expr, hc]; rfl
      rw [Expr.infer_of_no_call hc, Expr.infer_of_no_call hc']
      rfl
  | some c =>
      have hc' : (T.expr e).innerCall? = some (T.call c) := by rw [innerCall?_expr, hc]; rfl
      rw [Expr.infer_of_innerCall? hc, Expr.infer_of_innerCall? hc', usedType?_expr, usedName_expr]
      cases e.usedType? c <;> rfl

theorem infer_binary : (T.binary b).infer = b.infer.relocate T.span (Inferred.map T.expr) := by
  have hinfer := T.infer_expr (.binary b)
  rw [expr_binary] at hinfer
  exact hinfer

theorem inferCall_expr :
    (T.expr e).inferCall = e.inferCall.relocate T.span (Inferred.map T.expr) := by
  rw [Expr.inferCall_eq, Expr.inferCall_eq, binary?_expr, Option.isSome_map]
  split
  · rfl
  · exact T.infer_expr e

/-! ## Expansion

The map must not give a call on the shared empty list arguments of its own: such a call is refused,
and its image would not be. -/

variable {T e}

theorem map_expandedArguments (name : String) (type : Expr) (extra : List Expr) :
    (expandedArguments name type extra).map T.expr =
      expandedArguments name (T.expr type) (extra.map T.expr) := by
  simp [expandedArguments, Build.string, Build.literal]

/-- The expansion of a call that is refused or not like its image. -/
theorem expandAs_call {c : Call} (h : (T.args c.args).isSharedEmpty = c.args.isSharedEmpty)
    (name : String) (type : Expr) (extra : List Expr) :
    (T.call c).expandAs name (T.expr type) (extra.map T.expr) =
      (c.expandAs name type extra).relocate T.span T.call := by
  -- the call and its image are both refused, or both get the new arguments
  cases hs : c.args.isSharedEmpty with
  | true =>
      rw [Call.expandAs_of_shared hs, Call.expandAs_of_shared (h.trans hs)]
      rfl
  | false =>
      rw [Call.expandAs_of_not_shared hs, Call.expandAs_of_not_shared (h.trans hs)]
      have hcall : T.call (c.refill (expandedArguments name type extra)) =
          (T.call c).refill (expandedArguments name (T.expr type) (extra.map T.expr)) := by
        rw [← map_expandedArguments]
        show Call.mk _ _ (T.args (c.args.refill _)) _ = Call.mk _ _ ((T.args c.args).refill _) _
        rw [T.args_refill _ _ hs]
        rfl
      rw [List.length_map, ← hcall]
      rfl

theorem expandAs_expr
    (h : ∀ c, e.usedCall? = some c → (T.args c.args).isSharedEmpty = c.args.isSharedEmpty)
    (name : String) (type : Expr) (extra : List Expr) :
    (T.expr e).expandAs name (T.expr type) (extra.map T.expr) =
      (e.expandAs name type extra).relocate T.span T.expr := by
  cases hc : e.usedCall? with
  | none =>
      have hc' : (T.expr e).usedCall? = none := by rw [usedCall?_expr, hc]; rfl
      rw [Expr.expandAs_of_no_call hc, Expr.expandAs_of_no_call hc']
      rfl
  | some c =>
      have hc' : (T.expr e).usedCall? = some (T.call c) := by rw [usedCall?_expr, hc]; rfl
      rw [Expr.expandAs_of_usedCall? hc, Expr.expandAs_of_usedCall? hc', expandAs_call (h c hc)]
      exact (Outcome.relocate_map (T.withInnerCall_expr e)).symm

/-- **The expansion of the image is the image of the expansion.** -/
theorem expand_expr
    (h : ∀ c, e.usedCall? = some c → (T.args c.args).isSharedEmpty = c.args.isSharedEmpty)
    (extra : List Expr) :
    (T.expr e).expand (extra.map T.expr) = (e.expand extra).relocate T.span T.expr := by
  by_cases hdeclared : ∀ b, e.binary? = some b → b.isDeclaration = true
  · have hdeclared' : ∀ b, (T.expr e).binary? = some b → b.isDeclaration = true := by
      intro b' hb'
      rw [binary?_expr] at hb'
      obtain ⟨b, hb, rfl⟩ := Option.map_eq_some_iff.mp hb'
      exact hdeclared b hb
    rw [Expr.expand_of_declared hdeclared, Expr.expand_of_declared hdeclared', infer_expr]
    exact (Outcome.relocate_bind fun i => (expandAs_expr h i.name i.type extra).symm).symm
  · -- what declares nothing is refused before anything else is looked at
    cases e with
    | binary b =>
        have hundeclared : b.isDeclaration = false := by
          simpa [Expr.binary?] using hdeclared
        rw [expr_binary, Expr.expand_of_undeclared hundeclared]
        exact Expr.expand_of_undeclared (b := T.binary b) hundeclared _
    | _ => exact absurd hdeclared (by simp [Expr.binary?])

theorem expandCall_expr
    (h : ∀ c, e.call? = some c → (T.args c.args).isSharedEmpty = c.args.isSharedEmpty)
    (extra : List Expr) :
    (T.expr e).expandCall (extra.map T.expr) = (e.expandCall extra).relocate T.span T.expr := by
  rw [Expr.expandCall_eq, Expr.expandCall_eq, binary?_expr, Option.isSome_map]
  split
  · rfl
  · rename_i hnot
    refine expand_expr (fun c hc => h c ?_) extra
    -- without a binary expression at the top, the call in use is the expression itself
    cases e with
    | binary b => exact absurd rfl hnot
    | _ => exact hc

/-- An outcome takes effect on the image as it does on the expression. -/
theorem settle_expr (o : Outcome Expr) : Edit.settle (T.expr e) (o.relocate T.span T.expr) =
    (T.expr (Edit.settle e o).1, (Edit.settle e o).2.relocate T.span T.expr) := by
  obtain ⟨result, events⟩ := o
  cases result <;> rfl

/-- **The image of an edit.** Every expansion of the image of an expression gives the image of the
    expression that it gives there, and replies alike. -/
theorem perform_expr {t : Edit} (ht : t.isExpansion = true)
    (h : ∀ c, t.target? e = some c → (T.args c.args).isSharedEmpty = c.args.isSharedEmpty) :
    Edit.perform (T.expr e) (t.mapGiven T.expr) =
      (T.expr (Edit.perform e t).1, (Edit.perform e t).2.relocate T.span T.expr) := by
  cases t with
  | expandAs name type extra =>
      show Edit.settle _ ((T.expr e).expandAs name (T.expr type) (extra.map T.expr)) = _
      rw [expandAs_expr h, settle_expr]
      rfl
  | expand extra =>
      show Edit.settle _ ((T.expr e).expand (extra.map T.expr)) = _
      rw [expand_expr h, settle_expr]
      rfl
  | expandCall extra =>
      show Edit.settle _ ((T.expr e).expandCall (extra.map T.expr)) = _
      rw [expandCall_expr h, settle_expr]
      rfl
  | expandDeclaration extra =>
      cases e with
      | binary b =>
          have hperform : ∀ (b : Binary) (x : List Expr),
              Edit.perform (.binary b) (.expandDeclaration x) =
                Edit.settle (.binary b) ((Expr.binary b).expand x) := fun _ _ => rfl
          show Edit.perform _ (.expandDeclaration (extra.map T.expr)) = _
          have hexpand := expand_expr (T := T) (e := .binary b) h extra
          rw [hperform, expr_binary, hperform, ← expr_binary, hexpand, settle_expr]
      | _ => simp [Edit.perform, Edit.mapGiven, Edit.Reply.relocate, Edit.Answer.relocate,
          Edit.Answer.silent]
  | expandInnerCall name type extra =>
      have hcall := T.innerCall?_expr e
      cases hc : e.innerCall? with
      | none =>
          rw [hc] at hcall
          simp [Edit.perform, Edit.mapGiven, Edit.onInnerCall, hc, hcall, Edit.Reply.relocate,
            Edit.Answer.relocate, Edit.Answer.silent]
      | some c =>
          rw [hc] at hcall
          simp only [Edit.perform, Edit.mapGiven, Edit.onInnerCall, hc, hcall, Option.map_some]
          rw [expandAs_call (h c hc), ← Outcome.relocate_map (T.withInnerCall_expr e), settle_expr]
  | _ => exact absurd ht (by simp [Edit.isExpansion])

end TreeMap

end Desugar
