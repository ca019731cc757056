import Desugar.Proofs.TreeMap
import Desugar.Syntax.Erasure

/-!
# The representation of arguments is not seen

A call may hold its arguments in a list or in a tuple, or refer to the shared empty list. Erasure
gives every call of a tree a list. This module says that nothing but the refusal to write to the
shared empty list tells a tree from its erasure: all questions have the same answers, and expansions
commute with erasure unless the call that they work on is on the shared empty list.

## Contents

* `TreeMap.erasure` — erasure is a map of trees.
* `ErasureUnseen`, `erasure_unseen` — the whole account.
-/

namespace Desugar

/-! ## Erasure as a map of trees -/

theorem Variable.relocate_id (v : Variable) : v.relocate id = v := by
  obtain ⟨name, type, span⟩ := v
  cases type <;> rfl

/-- Erasure, which leaves all positions as they are. -/
def TreeMap.erasure : TreeMap where
  span := id
  expr := Expr.erase
  callee := Callee.erase
  args := Arguments.erase
  closure := Closure.erase
  block := Block.erase
  stmt := Stmt.erase
  span_unknown := rfl
  expr_var v := by simp [Expr.erase, Variable.relocate_id]
  expr_property target name s := by simp [Expr.erase]
  expr_classRef type s := by simp [Expr.erase, TypeRef.relocate]
  expr_literal value s := by simp [Expr.erase]
  expr_call c := by cases c; simp [Expr.erase, Call.erase]
  expr_binary b := by cases b; simp [Expr.erase, Binary.erase]
  expr_closure c := by simp [Expr.erase]
  callee_receiver e := by simp [Callee.erase]
  callee_owner t := by simp [Callee.erase, TypeRef.relocate]
  items_args := Arguments.items_erase
  args_refill a es h := by
    cases a with
    -- refused in the tree, but not in the erasure: the one place where the two part
    | sharedEmpty => exact absurd h (by simp [Arguments.isSharedEmpty])
    | _ => simp [Arguments.erase, Arguments.refill, Expr.eraseList_eq_map]
  stmt_expr e s := by simp [Stmt.erase]
  stmt_block b := by simp [Stmt.erase]
  stmt_assertion condition message s := by simp [Stmt.erase, Expr.eraseOption_eq_map]

/-- A call with arguments of its own still has them. -/
theorem Arguments.isSharedEmpty_erase (a : Arguments) : a.erase.isSharedEmpty = false := by
  cases a <;> simp [erase, isSharedEmpty]

/-! ## Positions that do not change -/

theorem Error.relocate_id (cause : Error) : cause.relocate id = cause := by
  cases cause <;> rfl

theorem Event.relocate_id : Event.relocate id = id := by
  funext v
  cases v <;> rfl

theorem Outcome.relocate_id {α β : Type} (g : α → β) (o : Outcome α) :
    o.relocate id g = o.map g := by
  obtain ⟨result, events⟩ := o
  cases result with
  | ok a => simp [Outcome.relocate, Outcome.map, Outcome.after, Event.relocate_id]
  | error cause => simp [Outcome.relocate, Outcome.map, Event.relocate_id, Error.relocate_id]

theorem Edit.settle_relocate_id (g : Expr → Expr) (e : Expr) (o : Outcome Expr) :
    (settle e o).2.relocate id g = (settle e o).2 := by
  obtain ⟨result, events⟩ := o
  cases result <;>
    simp [settle, Reply.relocate, Answer.relocate, Event.relocate_id, Error.relocate_id]

/-- The reply to an expansion names no expression, so without other positions it stays. -/
theorem Edit.relocate_id_of_isExpansion {t : Edit} (ht : t.isExpansion = true) (g : Expr → Expr)
    (e : Expr) : (Edit.perform e t).2.relocate id g = (Edit.perform e t).2 := by
  cases t with
  | expandAs name type extra => exact settle_relocate_id g e _
  | expand extra => exact settle_relocate_id g e _
  | expandCall extra => exact settle_relocate_id g e _
  | expandDeclaration extra =>
      cases e with
      | binary b => exact settle_relocate_id g _ _
      | _ => rfl
  | expandInnerCall name type extra =>
      show (onInnerCall e _).2.relocate id g = (onInnerCall e _).2
      unfold onInnerCall
      cases e.innerCall? with
      | none => rfl
      | some c => exact settle_relocate_id g e _
  | _ => exact absurd ht (by simp [isExpansion])

/-! ## The whole account -/

/-- **What an expression and its erasure have in common.** -/
structure ErasureUnseen (e : Expr) : Prop where
  /-- The arguments are the same, each erased. -/
  arguments : e.erase.arguments? = e.arguments?.map (List.map Expr.erase)
  argumentCount : e.erase.argumentCount? = e.argumentCount?
  /-- The three questions about a helper, asked of the expression. -/
  use : ∀ h : Helper, h.useOf e.erase = h.useOf e
  find : ∀ r : Registry, r.find? e.erase = r.find? e
  declaredName : e.erase.binary?.map Binary.declaredName = e.binary?.map Binary.declaredName
  placeholder : ∀ p : Placeholder, p.isReferredBy e.erase = p.isReferredBy e
  isThis : e.erase.isThis = e.isThis
  isSuper : e.erase.isSuper = e.isSuper
  /-- Name and type of a declaration: the same name with the erased type, or the same failure. -/
  inferDeclaration : e.erase.binary?.map Binary.infer =
    e.binary?.map fun b => b.infer.map (Inferred.map Expr.erase)
  /-- Name and type of a call on its own. -/
  inferCall : e.erase.inferCall = e.inferCall.map (Inferred.map Expr.erase)
  /-- An expansion that does not work on the shared empty list, with whatever it brings erased: the
      erasure of the same tree, and the same reply. -/
  expansion : ∀ t : Edit, t.isExpansion = true →
    (∀ c, t.target? e = some c → c.args ≠ .sharedEmpty) →
      Edit.perform e.erase (t.mapGiven Expr.erase) =
        ((Edit.perform e t).1.erase, (Edit.perform e t).2)

/-- **The representation of arguments is seen through the refusal of the shared empty list
    only.** -/
theorem erasure_unseen :
    (∀ e : Expr, ErasureUnseen e) ∧ ∀ s : Stmt, s.erase.isInteraction = s.isInteraction := by
  refine ⟨fun e => ?_, TreeMap.erasure.isInteraction_stmt⟩
  have hbinary : e.erase.binary? = e.binary?.map TreeMap.erasure.binary :=
    TreeMap.erasure.binary?_expr e
  constructor
  case arguments => exact TreeMap.erasure.arguments?_expr e
  case argumentCount => exact TreeMap.erasure.argumentCount?_expr e
  case use => exact TreeMap.erasure.useOf_expr e
  case find => exact TreeMap.erasure.find?_expr e
  case declaredName =>
    rw [hbinary, Option.map_map]
    exact congrArg (e.binary?.map ·) (funext TreeMap.erasure.declaredName_binary)
  case placeholder => exact TreeMap.erasure.isReferredBy_expr e
  case isThis => exact TreeMap.erasure.isThis_expr e
  case isSuper => exact TreeMap.erasure.isSuper_expr e
  case inferDeclaration =>
    rw [hbinary, Option.map_map]
    refine congrArg (e.binary?.map ·) (funext fun b => ?_)
    exact (TreeMap.erasure.infer_binary b).trans (Outcome.relocate_id _ _)
  case inferCall => exact (TreeMap.erasure.inferCall_expr e).trans (Outcome.relocate_id _ _)
  case expansion =>
    intro t ht htarget
    -- neither the call nor its image is on the shared empty list
    have hshared : ∀ c, t.target? e = some c →
        (TreeMap.erasure.args c.args).isSharedEmpty = c.args.isSharedEmpty := by
      intro c hc
      have hown : c.args.isSharedEmpty = false :=
        Bool.eq_false_iff.mpr fun hs => htarget c hc (Arguments.eq_sharedEmpty_iff.mpr hs)
      rw [hown]
      exact Arguments.isSharedEmpty_erase c.args
    have hperform := TreeMap.perform_expr (T := TreeMap.erasure) ht hshared
    exact hperform.trans (Prod.ext rfl (Edit.relocate_id_of_isExpansion ht _ e))

/-- `List list = Mock(f())` with the argument in a tuple and `f()` on the shared empty list: the
    declaration is expanded, since its own call is not on that list. -/
theorem erasure_unseen_tuple :
    Edit.perform
        (Expr.erase (Build.declare (Build.typedVar "list" "List")
          (.call ⟨.receiver Build.this, some "Mock",
            .tuple [.call ⟨.receiver Build.this, some "f", .sharedEmpty, .zero⟩], .zero⟩)))
        (.expand [Expr.erase (.call ⟨.receiver Build.super, some "g", .tuple [], .zero⟩)]) =
      (Build.declare (Build.typedVar "list" "List")
        (.call ⟨.receiver Build.this, some "Mock",
          .list [.call ⟨.receiver Build.this, some "f", .list [], .zero⟩, Build.string "list",
            .call ⟨.receiver Build.super, some "g", .list [], .zero⟩], .zero⟩),
        ⟨.done, [.expanded (some "Mock") "list" 3]⟩) :=
  (erasure_unseen.1 _).expansion
    (.expand [.call ⟨.receiver Build.super, some "g", .tuple [], .zero⟩]) rfl
    (by intro c hc; obtain rfl := Option.some.inj hc; simp)

end Desugar
