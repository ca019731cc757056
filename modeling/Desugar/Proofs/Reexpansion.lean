import Desugar.Pass
import Desugar.Proofs.Expansion

/-!
# Expanding again

An expansion destroys the arguments that it looks at: a declared type becomes a first argument, and
the number of arguments changes. It still does not lose what it was made from. The expanded
expression says the same name and the same type as before, so that expanding it once more gives what
expanding the original would have given.

## Contents

* `Expr.exists_type_of_expand_ok` — what a successful expansion was made from.
* `Expr.infer_expanded`, `Expr.expand_expanded` — inference and expansion do not tell an expression
  from its expansion.
* `Registry.expandUse` — expand what uses a registered helper, leave everything else.
* `expansion_absorbs` — a chain of expansions is its last one, and `Registry.expandUse` is done
  after one round.
-/

namespace Desugar

namespace Expr

variable {e e' : Expr} {c : Call} {x : List Expr}

/-- An expansion succeeds only on a call with a type and with arguments of its own. -/
theorem exists_type_of_expand_ok (h : (e.expand x).result = .ok e') :
    ∃ c type, e.usedCall? = some c ∧ e.usedType? c = some type ∧ c.args.isSharedEmpty = false ∧
      e' = e.withArguments (expandedArguments e.usedName type x) := by
  cases hc : e.usedCall? with
  | none =>
      obtain ⟨cause, -, hfail⟩ := expand_of_no_call hc x
      rw [hfail] at h
      exact absurd h (by simp)
  | some c =>
      cases ht : e.usedType? c with
      | none =>
          rw [expand_of_no_type hc ht] at h
          exact absurd h (by simp)
      | some type =>
          cases hs : c.args.isSharedEmpty with
          | true =>
              rw [expand_of_shared hc ht hs] at h
              exact absurd h (by simp)
          | false =>
              rw [expand_of_not_shared hc ht hs] at h
              exact ⟨c, type, rfl, ht, hs, (Except.ok.inj h).symm⟩

/-- Whether an expansion succeeds does not depend on the extra arguments. -/
theorem expand_ok_of_expand_ok (h : (e.expand x).result = .ok e') (y : List Expr) :
    ∃ e'', (e.expand y).result = .ok e'' := by
  obtain ⟨c, type, hc, ht, hs, -⟩ := exists_type_of_expand_ok h
  exact ⟨_, by rw [expand_of_not_shared hc ht hs]⟩

/-! ## What an expansion keeps -/

theorem usedCall?_withArguments (h : e.usedCall? = some c) (es : List Expr) :
    (e.withArguments es).usedCall? = some (c.refill es) := by
  rw [withArguments_of_innerCall? (innerCall?_of_usedCall? h), usedCall?_withInnerCall h]

theorem usedName_withArguments (e : Expr) (es : List Expr) :
    (e.withArguments es).usedName = e.usedName := by
  unfold withArguments
  cases e.innerCall? with
  | none => rfl
  | some c => exact usedName_withInnerCall

/-- The type of an expansion stands first in what it writes, so it is found there again. -/
theorem usedType?_refill (hs : c.args.isSharedEmpty = false) (name : String) (type : Expr)
    (extra : List Expr) :
    e.usedType? (c.refill (expandedArguments name type extra)) = some type := by
  have hitems : (c.refill (expandedArguments name type extra)).args.items =
      type :: Build.string name :: extra := by
    rw [Call.args_refill, Arguments.items_refill hs]
    rfl
  exact usedType?_of_items hitems

/-- **Inference does not tell an expression from its expansion.** -/
theorem infer_expanded (h : (e.expand x).result = .ok e') :
    ∃ i, e.infer = .ok i ∧ e'.infer = .ok i := by
  obtain ⟨c, type, hc, ht, hs, rfl⟩ := exists_type_of_expand_ok h
  have hinner := innerCall?_of_usedCall? hc
  have hinner' := innerCall?_of_usedCall? (usedCall?_withArguments hc
    (expandedArguments e.usedName type x))
  refine ⟨⟨e.usedName, type⟩, infer_of_type hinner ht, ?_⟩
  rw [infer_of_type hinner' (usedType?_refill hs e.usedName type x), usedName_withArguments]

/-- **Expansion does not tell an expression from its expansion**: the second one overwrites all that
    the first one wrote. -/
theorem expand_expanded (h : (e.expand x).result = .ok e') (y : List Expr) :
    e'.expand y = e.expand y := by
  obtain ⟨c, type, hc, ht, hs, rfl⟩ := exists_type_of_expand_ok h
  have hc' := usedCall?_withArguments hc (expandedArguments e.usedName type x)
  have hs' : (c.refill (expandedArguments e.usedName type x)).args.isSharedEmpty = false := by
    simpa using hs
  rw [expand_of_not_shared hc' (usedType?_refill hs e.usedName type x) hs',
    expand_of_not_shared hc ht hs, usedName_withArguments, withArguments_withArguments]
  rfl

/-! ## Chains of expansions -/

theorem perform_expand_of_ok (h : (e.expand x).result = .ok e') :
    (Edit.perform e (.expand x)).1 = e' ∧ (Edit.perform e (.expand x)).2.answer = .done := by
  show (Edit.settle e (e.expand x)).1 = e' ∧ (Edit.settle e (e.expand x)).2.answer = .done
  unfold Edit.settle
  rw [h]
  exact ⟨rfl, rfl⟩

theorem perform_expand_of_error {cause : Error} (h : (e.expand x).result = .error cause) :
    (Edit.perform e (.expand x)).1 = e := by
  show (Edit.settle e (e.expand x)).1 = e
  unfold Edit.settle
  rw [h]

/-- After one success every further expansion succeeds, and the last one decides. By induction over
    the chain, with the expansion so far as a new start. -/
theorem run_expand (h : (e.expand x).result = .ok e') (xs : List (List Expr)) :
    (∀ p ∈ run Edit.perform e' (xs.map .expand), p.1.answer = .done) ∧
      (e.expand ((x :: xs).getLast (List.cons_ne_nil x xs))).result =
        .ok (runFinal Edit.perform e' (xs.map .expand)) := by
  induction xs generalizing x e' with
  | nil => exact ⟨by simp, h⟩
  | cons y ys ih =>
      obtain ⟨e'', hy⟩ := expand_ok_of_expand_ok h y
      have hnext : (e'.expand y).result = .ok e'' := by rw [expand_expanded h, hy]
      obtain ⟨hstate, hdone⟩ := perform_expand_of_ok hnext
      obtain ⟨hrest, hlast⟩ := ih hy
      constructor
      · intro p hp
        rw [List.map_cons, run_cons, hstate] at hp
        rcases List.mem_cons.mp hp with rfl | hp
        · exact hdone
        · exact hrest p hp
      · rw [List.map_cons, runFinal_cons, hstate]
        exact hlast

end Expr

/-! ## One round over an expression -/

/-- Expand an expression if it uses a registered helper; one that does not, or whose expansion
    fails, stays as it is. -/
def Registry.expandUse (r : Registry) (extra : List Expr) (e : Expr) : Expr :=
  match r.find? e with
  | some _ => (Edit.perform e (.expand extra)).1
  | none => e

/-- A second round changes nothing, whether or not the helper is still found. -/
theorem Registry.expandUse_expandUse (r : Registry) (extra : List Expr) (e : Expr) :
    r.expandUse extra (r.expandUse extra e) = r.expandUse extra e := by
  -- one more expansion with the same extra arguments changes neither an expansion nor a failure
  have hperform : (Edit.perform (Edit.perform e (.expand extra)).1 (.expand extra)).1 =
      (Edit.perform e (.expand extra)).1 := by
    cases h : (e.expand extra).result with
    | error cause => rw [Expr.perform_expand_of_error h, Expr.perform_expand_of_error h]
    | ok e' =>
        have hagain : (e'.expand extra).result = .ok e' := by rw [Expr.expand_expanded h, h]
        rw [(Expr.perform_expand_of_ok h).1, (Expr.perform_expand_of_ok hagain).1]
  unfold expandUse
  cases hfirst : r.find? e with
  | none => simp only [hfirst]
  | some helper =>
      simp only
      -- the expanded call has other arguments, so its helper may not take them any more
      cases r.find? (Edit.perform e (.expand extra)).1 with
      | none => rfl
      | some _ => exact hperform

/-- The pass visits an expression by such a round without extra arguments. -/
theorem SugarSettings.node_visit (names : SugarSettings) (place : String) (e : Expr) :
    (names.visit place e).node = names.registry.expandUse [] e := by
  unfold visit Registry.expandUse
  cases names.registry.find? e with
  | none => rfl
  | some helper =>
      cases h : (e.expand []).result with
      | ok e' => exact (Expr.perform_expand_of_ok h).1.symm
      | error cause => exact (Expr.perform_expand_of_error h).symm

/-- **A chain of expansions is its last one.** Once an expansion has succeeded, inference finds the
    same name and type as before it, every further expansion succeeds, and the result is that of the
    last one alone. Hence a round over an expression, with any registry, is done after one time. -/
theorem expansion_absorbs :
    (∀ (e e₁ : Expr) (x₁ : List Expr) (xs : List (List Expr)), (e.expand x₁).result = .ok e₁ →
      (∃ i, e.infer.result = .ok i ∧ e₁.infer.result = .ok i) ∧
      (∀ p ∈ run Edit.perform e₁ (xs.map .expand), p.1.answer = .done) ∧
      (e.expand ((x₁ :: xs).getLast (List.cons_ne_nil x₁ xs))).result =
        .ok (runFinal Edit.perform e₁ (xs.map .expand))) ∧
    (∀ (r : Registry) (extra : List Expr) (e : Expr),
      r.expandUse extra (r.expandUse extra e) = r.expandUse extra e) := by
  refine ⟨fun e e₁ x₁ xs h => ⟨?_, Expr.run_expand h xs⟩, Registry.expandUse_expandUse⟩
  obtain ⟨i, hbefore, hafter⟩ := Expr.infer_expanded h
  exact ⟨i, by rw [hbefore]; rfl, by rw [hafter]; rfl⟩

/-- `List list = Mock()` expanded with `1` and then with `null` is the declaration expanded with
    `null`. -/
theorem expansion_absorbs_of_declaration :
    ((Build.declare (Build.typedVar "list" "List") (Build.thisCall "Mock" [])).expand
        [Build.null]).result =
      .ok (runFinal Edit.perform (Build.declare (Build.typedVar "list" "List")
        (Build.thisCall "Mock" [Build.classRef "List", Build.string "list", Build.int 1]))
        [.expand [Build.null]]) :=
  (expansion_absorbs.1 _ _ [Build.int 1] [[Build.null]] rfl).2.2

end Desugar
