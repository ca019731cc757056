import Desugar.Proofs.TreeMap

/-!
# Positions do not matter

Relocation applies a function to every span of a tree. Whatever the function is, as long as it keeps
the span of what has no position, no question about an expression or a statement has another answer
afterwards, and every expansion gives the relocated tree or fails for the same cause at the
relocated position. What an expansion makes up takes its span from a type or has none, and a failure
takes that of the call; in each case the span goes the way of the others.

## Contents

* `TreeMap.relocation` — relocation is a map of trees.
* `RelocationUnseen`, `relocation_unseen` — the whole account.
-/

namespace Desugar

/-- Relocation by a function that keeps the unknown position. -/
def TreeMap.relocation (f : Span → Span) (hf : f .unknown = .unknown) : TreeMap where
  span := f
  expr := Expr.relocate f
  callee := Callee.relocate f
  args := Arguments.relocate f
  closure := Closure.relocate f
  block := Block.relocate f
  stmt := Stmt.relocate f
  span_unknown := hf
  expr_var v := by simp [Expr.relocate]
  expr_property target name s := by simp [Expr.relocate]
  expr_classRef type s := by simp [Expr.relocate]
  expr_literal value s := by simp [Expr.relocate]
  expr_call c := by cases c; simp [Expr.relocate, Call.relocate]
  expr_binary b := by cases b; simp [Expr.relocate, Binary.relocate]
  expr_closure c := by simp [Expr.relocate]
  callee_receiver e := by simp [Callee.relocate]
  callee_owner t := by simp [Callee.relocate]
  items_args := Arguments.items_relocate f
  args_refill a es _ := by
    cases a <;> simp [Arguments.relocate, Arguments.refill, Expr.relocateList_eq_map]
  stmt_expr e s := by simp [Stmt.relocate]
  stmt_block b := by simp [Stmt.relocate]
  stmt_assertion condition message s := by simp [Stmt.relocate, Expr.relocateOption_eq_map]

/-- The shared empty list has no position, and no other arguments become it. -/
theorem Arguments.isSharedEmpty_relocate (f : Span → Span) (a : Arguments) :
    (a.relocate f).isSharedEmpty = a.isSharedEmpty := by
  cases a <;> simp [relocate, isSharedEmpty]

/-- **What an expression has in common with the one at other positions.** -/
structure RelocationUnseen (f : Span → Span) (e : Expr) : Prop where
  /-- The three questions about a helper, asked of the expression. -/
  use : ∀ h : Helper, h.useOf (e.relocate f) = h.useOf e
  find : ∀ r : Registry, r.find? (e.relocate f) = r.find? e
  placeholder : ∀ p : Placeholder, p.isReferredBy (e.relocate f) = p.isReferredBy e
  isThis : (e.relocate f).isThis = e.isThis
  isSuper : (e.relocate f).isSuper = e.isSuper
  /-- What a call or a property is applied to, and whether it is made up. -/
  target : (e.relocate f).target?.map (fun t => (t.expr, t.isSynthesized)) =
    e.target?.map fun t => (t.expr.relocate f, t.isSynthesized)
  declaredType : (e.relocate f).binary?.map Binary.declaredType? =
    e.binary?.map fun b => b.declaredType?.map (Expr.relocate f)
  /-- Name and type of a declaration; a failure is that of the relocated call. -/
  inferDeclaration : (e.relocate f).binary?.map Binary.infer =
    e.binary?.map fun b => b.infer.relocate f (Inferred.map (Expr.relocate f))
  /-- Name and type of a call on its own. -/
  inferCall : (e.relocate f).inferCall = e.inferCall.relocate f (Inferred.map (Expr.relocate f))
  /-- An expansion, with whatever it brings relocated: the relocated tree, and the reply with its
      positions moved. -/
  expansion : ∀ t : Edit, t.isExpansion = true →
    Edit.perform (e.relocate f) (t.mapGiven (Expr.relocate f)) =
      ((Edit.perform e t).1.relocate f, (Edit.perform e t).2.relocate f (Expr.relocate f))

/-- **Positions influence nothing but positions.** -/
theorem relocation_unseen (f : Span → Span) (hf : f .unknown = .unknown) :
    (∀ e : Expr, RelocationUnseen f e) ∧
    (∀ s : Stmt, (s.relocate f).isInteraction = s.isInteraction) ∧
    ∀ s : Stmt, (s.relocate f).hasExplicitMessage? = s.hasExplicitMessage? := by
  refine ⟨fun e => ?_, (TreeMap.relocation f hf).isInteraction_stmt,
    (TreeMap.relocation f hf).hasExplicitMessage?_stmt⟩
  have hbinary : (e.relocate f).binary? = e.binary?.map (TreeMap.relocation f hf).binary :=
    (TreeMap.relocation f hf).binary?_expr e
  constructor
  case use => exact (TreeMap.relocation f hf).useOf_expr e
  case find => exact (TreeMap.relocation f hf).find?_expr e
  case placeholder => exact (TreeMap.relocation f hf).isReferredBy_expr e
  case isThis => exact (TreeMap.relocation f hf).isThis_expr e
  case isSuper => exact (TreeMap.relocation f hf).isSuper_expr e
  case target => exact (TreeMap.relocation f hf).target?_expr e
  case declaredType =>
    rw [hbinary, Option.map_map]
    exact congrArg (e.binary?.map ·) (funext (TreeMap.relocation f hf).declaredType?_binary)
  case inferDeclaration =>
    rw [hbinary, Option.map_map]
    exact congrArg (e.binary?.map ·) (funext (TreeMap.relocation f hf).infer_binary)
  case inferCall => exact (TreeMap.relocation f hf).inferCall_expr e
  case expansion =>
    intro t ht
    exact TreeMap.perform_expr (T := TreeMap.relocation f hf) ht
      fun c _ => Arguments.isSharedEmpty_relocate f c.args

/-- What was never given a position gets the one of line 4. In `List list = Mock()` the written type
    takes the new position of the declared one, while the written name stays without any; the call
    `Mock()` fails at its new position. -/
theorem relocation_unseen_of_zero :
    (fun s : Span => if s = .zero then ⟨4, 1, 4, 7⟩ else s) .unknown = .unknown ∧
    Edit.perform
        (Expr.relocate (fun s => if s = .zero then ⟨4, 1, 4, 7⟩ else s)
          (Build.declare (.var ⟨"list", some ⟨"List", .zero⟩, .zero⟩) (Build.thisCall "Mock" [])))
        (.expand []) =
      (Build.declare (.var ⟨"list", some ⟨"List", ⟨4, 1, 4, 7⟩⟩, ⟨4, 1, 4, 7⟩⟩)
        (Build.thisCall "Mock"
          [.classRef ⟨"List", ⟨4, 1, 4, 7⟩⟩ ⟨4, 1, 4, 7⟩, Build.string "list"]),
        ⟨.done, [.expanded (some "Mock") "list" 2]⟩) ∧
    Edit.perform
        (Expr.relocate (fun s => if s = .zero then ⟨4, 1, 4, 7⟩ else s)
          ((Build.thisCall "Mock" []).withSpan .zero)) (.expand []) =
      ((Build.thisCall "Mock" []).withSpan ⟨4, 1, 4, 7⟩,
        ⟨.failed (.typeNotInferred ⟨4, 1, 4, 7⟩), [.typeNotInferred ⟨4, 1, 4, 7⟩]⟩) :=
  ⟨rfl, ((relocation_unseen _ rfl).1 _).expansion (.expand []) rfl,
    ((relocation_unseen _ rfl).1 _).expansion (.expand []) rfl⟩

end Desugar
