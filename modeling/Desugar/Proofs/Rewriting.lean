import Desugar.Proofs.Expansion

/-!
# Runs of rewrites

The edits that rewrite an expression are the expansions, with a given or an inferred name and type,
and the pushes of one more argument. They reach the inner call on different paths and fail at
different stages, yet a run of them in any order has a simple result: nothing but the arguments of
the inner call changes, and these are what the last expansion that succeeded wrote, with the pushes
after it.

## Contents

* `Edit.isRewrite`, `Edit.Expands`, `Edit.Leaves` — the edits, and what a run of them writes.
* `Edit.perform_expansion`, `Edit.perform_push` — everything that one rewrite can do.
* `Edit.leaves_runFinal` — the arguments after a run, by induction over it.
* `Edit.rewriteRun` — the whole account of a run.
-/

namespace Desugar

/-! ## Kinds of arguments -/

/-- The three representations of arguments. -/
inductive Arguments.Kind
  | list
  | tuple
  | sharedEmpty
  deriving DecidableEq

/-- The representation that arguments have. -/
def Arguments.kind : Arguments → Arguments.Kind
  | .list _ => .list
  | .tuple _ => .tuple
  | .sharedEmpty => .sharedEmpty

/-- The representation of the arguments of the inner call. -/
def Expr.argumentKind? (e : Expr) : Option Arguments.Kind := e.innerCall?.map fun c => c.args.kind

theorem Expr.argumentKind?_withArguments (e : Expr) (es : List Expr) :
    (e.withArguments es).argumentKind? = e.argumentKind? := by
  unfold argumentKind?
  rw [innerCall?_withArguments]
  cases e.innerCall? with
  | none => rfl
  | some c =>
      show some (c.args.refill es).kind = some c.args.kind
      cases c.args <;> rfl

namespace Edit

/-! ## Rewrites and what they write -/

/-- Whether an edit is an expansion. -/
def isExpansion : Edit → Bool
  | .expandAs .. => true
  | .expand .. => true
  | .expandCall .. => true
  | .expandDeclaration .. => true
  | .expandInnerCall .. => true
  | _ => false

/-- The argument that an edit pushes. -/
def pushed? : Edit → Option Expr
  | .pushArgument arg => some arg
  | _ => none

/-- Whether an edit rewrites arguments: it is an expansion or a push. -/
def isRewrite (t : Edit) : Bool := t.isExpansion || t.pushed?.isSome

/-- The arguments that a run pushes, in order. -/
def pushed (ts : List Edit) : List Expr := ts.filterMap pushed?

/-- Whether an answer reports a rewrite that was carried out. -/
def Answer.isSuccess : Answer → Bool
  | .done => true
  | .count _ => true
  | _ => false

/-- The name, the type and the extra arguments of an expansion of `e`: the edit brings the name and
    the type with it, or they are inferred from `e`. -/
inductive Expands (e : Expr) : Edit → String → Expr → List Expr → Prop
  | given {name type extra} : Expands e (.expandAs name type extra) name type extra
  | givenInner {name type extra} : Expands e (.expandInnerCall name type extra) name type extra
  | inferred {name type extra} :
      e.infer.result = .ok ⟨name, type⟩ → Expands e (.expand extra) name type extra
  | inferredCall {name type extra} :
      e.infer.result = .ok ⟨name, type⟩ → Expands e (.expandCall extra) name type extra
  | inferredDeclaration {name type extra} :
      e.infer.result = .ok ⟨name, type⟩ → Expands e (.expandDeclaration extra) name type extra

/-- No expansion of a run that starts at `e` succeeds. -/
def NoneExpands (e : Expr) (ts : List Edit) : Prop :=
  ∀ p ∈ ts.zip (run perform e ts), p.1.isExpansion = true → p.2.1.answer.isSuccess = false

/-- What a run that starts at `e` makes of the arguments `items`: those that its last successful
    expansion wrote, or `items` if none succeeded, followed by the pushes made since. -/
inductive Leaves (e : Expr) (items : List Expr) : List Edit → List Expr → Prop
  | untouched {ts} : NoneExpands e ts → Leaves e items ts (items ++ pushed ts)
  | lastExpansion {us t vs name type extra} :
      Expands (runFinal perform e us) t name type extra →
      (perform (runFinal perform e us) t).2.answer.isSuccess = true →
      NoneExpands (perform (runFinal perform e us) t).1 vs →
      Leaves e items (us ++ t :: vs)
        (type :: .literal (.string name) .unknown :: extra ++ pushed vs)

/-! ## One step -/

/-- A step on `e` that comes to nothing: it does not succeed, and the expression stays as it was. -/
def Idle (e : Expr) (r : Expr × Reply) : Prop := r.2.answer.isSuccess = false ∧ r.1 = e

/-- A step on `e` that writes: it succeeds, and `items` are the arguments afterwards. Only an inner
    call with arguments of its own can be written to. -/
def Writes (e : Expr) (r : Expr × Reply) (items : List Expr) : Prop :=
  r.2.answer.isSuccess = true ∧ r.1 = e.withArguments items ∧
    ∃ c, e.innerCall? = some c ∧ c.args.isSharedEmpty = false

variable {e : Expr} {c : Call} {t : Edit} {ts : List Edit} {items : List Expr}

theorem idle_settle {o : Outcome Expr} {cause : Error} (h : o.result = .error cause) :
    Idle e (settle e o) := by
  unfold settle
  rw [h]
  exact ⟨rfl, rfl⟩

/-- The expansion of the inner call comes to nothing or writes; the shared empty list decides. -/
theorem settle_expandAs (h : e.innerCall? = some c) (name : String) (type : Expr)
    (extra : List Expr) :
    Idle e (settle e ((c.expandAs name type extra).map e.withInnerCall)) ∨
      Writes e (settle e ((c.expandAs name type extra).map e.withInnerCall))
        (type :: .literal (.string name) .unknown :: extra) := by
  cases hs : c.args.isSharedEmpty with
  | true =>
      rw [Call.expandAs_of_shared hs]
      exact Or.inl ⟨rfl, rfl⟩
  | false =>
      rw [Call.expandAs_of_not_shared hs]
      exact Or.inr ⟨rfl, (Expr.withArguments_of_innerCall? h).symm, c, h, hs⟩

theorem settle_expand (e : Expr) (extra : List Expr) :
    Idle e (settle e (e.expand extra)) ∨
      ∃ name type, e.infer.result = .ok ⟨name, type⟩ ∧
        Writes e (settle e (e.expand extra))
          (type :: .literal (.string name) .unknown :: extra) := by
  cases hc : e.usedCall? with
  | none =>
      obtain ⟨cause, -, hfail⟩ := Expr.expand_of_no_call hc extra
      rw [hfail]
      exact Or.inl (idle_settle rfl)
  | some c =>
      have hinner : e.innerCall? = some c := Expr.innerCall?_of_usedCall? hc
      cases ht : e.usedType? c with
      | none =>
          rw [Expr.expand_of_no_type hc ht]
          exact Or.inl (idle_settle rfl)
      | some type =>
          have hinfer : e.infer.result = .ok ⟨e.usedName, type⟩ := by
            rw [Expr.infer_of_type hinner ht]; rfl
          rw [Expr.expand_of_type hc ht]
          exact (settle_expandAs hinner e.usedName type extra).imp id
            fun hw => ⟨e.usedName, type, hinfer, hw⟩

/-- **Everything that an expansion can do to an expression.** It comes to nothing, or it writes the
    type, the name and the extra arguments that are its own. -/
theorem perform_expansion (h : t.isExpansion = true) :
    Idle e (perform e t) ∨
      ∃ name type extra, Expands e t name type extra ∧
        Writes e (perform e t) (type :: .literal (.string name) .unknown :: extra) := by
  cases t with
  | expandAs name type extra =>
      show Idle e (settle e (e.expandAs name type extra)) ∨ ∃ name' type' extra', _ ∧
        Writes e (settle e (e.expandAs name type extra)) _
      cases hc : e.usedCall? with
      | none =>
          rw [Expr.expandAs_of_no_call hc]
          exact Or.inl (idle_settle rfl)
      | some c =>
          rw [Expr.expandAs_of_usedCall? hc]
          exact (settle_expandAs (Expr.innerCall?_of_usedCall? hc) name type extra).imp id
            fun hw => ⟨name, type, extra, .given, hw⟩
  | expand extra =>
      refine (settle_expand e extra).imp id ?_
      rintro ⟨name, type, hinfer, hw⟩
      exact ⟨name, type, extra, .inferred hinfer, hw⟩
  | expandCall extra =>
      cases e with
      | binary b =>
          -- a binary expression is no call, so the inference fails and nothing is expanded
          exact Or.inl ⟨rfl, rfl⟩
      | _ =>
          refine (settle_expand _ extra).imp id ?_
          rintro ⟨name, type, hinfer, hw⟩
          exact ⟨name, type, extra, .inferredCall hinfer, hw⟩
  | expandDeclaration extra =>
      cases e with
      | binary b =>
          refine (settle_expand (.binary b) extra).imp id ?_
          rintro ⟨name, type, hinfer, hw⟩
          exact ⟨name, type, extra, .inferredDeclaration hinfer, hw⟩
      | _ => exact Or.inl ⟨rfl, rfl⟩
  | expandInnerCall name type extra =>
      show Idle e (onInnerCall e _) ∨ ∃ name' type' extra', _ ∧ Writes e (onInnerCall e _) _
      unfold onInnerCall
      cases hc : e.innerCall? with
      | none => exact Or.inl ⟨rfl, rfl⟩
      | some c =>
          exact (settle_expandAs hc name type extra).imp id
            fun hw => ⟨name, type, extra, .givenInner, hw⟩
  | _ => exact absurd h (by simp [isExpansion])

/-- A push always finds its place at the end of arguments that are the call's own. -/
theorem perform_push (hc : e.innerCall? = some c) (hs : c.args.isSharedEmpty = false) (arg : Expr) :
    Writes e (perform e (.pushArgument arg)) (c.args.items ++ [arg]) := by
  have hperform : perform e (.pushArgument arg) =
      (e.withInnerCall (c.refill (c.args.items ++ [arg])),
        (Answer.count (c.args.refill (c.args.items ++ [arg])).items.length).silent) := by
    show onInnerCall e _ = _
    unfold onInnerCall
    rw [hc]
    simp only [Arguments.withItems?_of_not_shared hs]
    rfl
  rw [hperform]
  exact ⟨rfl, (Expr.withArguments_of_innerCall? hc).symm, c, hc, hs⟩

theorem perform_push_idle (h : ∀ c, e.innerCall? = some c → c.args.isSharedEmpty = true)
    (arg : Expr) : Idle e (perform e (.pushArgument arg)) := by
  show Idle e (onInnerCall e _)
  unfold onInnerCall
  cases hc : e.innerCall? with
  | none => exact ⟨rfl, rfl⟩
  | some c =>
      simp only [Arguments.withItems?_eq_none_iff.mpr (h c hc)]
      exact ⟨rfl, rfl⟩

/-- A rewrite is an expansion or a push. -/
theorem isRewrite_cases (h : t.isRewrite = true) :
    t.isExpansion = true ∨ ∃ arg, t = .pushArgument arg := by
  cases t with
  | pushArgument arg => exact Or.inr ⟨arg, rfl⟩
  | _ => exact Or.inl (by simpa [isRewrite, pushed?] using h)

/-- A rewrite comes to nothing, or it writes. -/
theorem perform_rewrite (h : t.isRewrite = true) :
    Idle e (perform e t) ∨ ∃ items, Writes e (perform e t) items := by
  rcases isRewrite_cases h with hexp | ⟨arg, rfl⟩
  · refine (perform_expansion hexp).imp id ?_
    rintro ⟨name, type, extra, -, hw⟩
    exact ⟨_, hw⟩
  · by_cases hown : ∃ c, e.innerCall? = some c ∧ c.args.isSharedEmpty = false
    · obtain ⟨c, hc, hs⟩ := hown
      exact Or.inr ⟨_, perform_push hc hs arg⟩
    · refine Or.inl (perform_push_idle (fun c hc => ?_) arg)
      have hshared : c.args.isSharedEmpty ≠ false := fun hs => hown ⟨c, hc, hs⟩
      simpa using hshared

/-- Where there are no arguments of the call's own, a rewrite comes to nothing. -/
theorem perform_rewrite_idle (h : t.isRewrite = true)
    (hnone : ∀ c, e.innerCall? = some c → c.args.isSharedEmpty = true) : Idle e (perform e t) := by
  rcases perform_rewrite (e := e) h with hidle | ⟨items, -, -, c, hc, hs⟩
  · exact hidle
  · rw [hnone c hc] at hs
    exact absurd hs (by simp)

/-- A rewrite that does not succeed leaves the expression as it was. -/
theorem perform_of_not_success (h : t.isRewrite = true)
    (hfail : (perform e t).2.answer.isSuccess = false) : (perform e t).1 = e := by
  rcases perform_rewrite (e := e) h with hidle | ⟨items, hsuccess, -⟩
  · exact hidle.2
  · rw [hsuccess] at hfail
    exact absurd hfail (by simp)

/-- A rewrite keeps the representation of the arguments. -/
theorem argumentKind?_perform (h : t.isRewrite = true) :
    (perform e t).1.argumentKind? = e.argumentKind? := by
  rcases perform_rewrite (e := e) h with hidle | ⟨items, -, hafter, -⟩
  · rw [hidle.2]
  · rw [hafter, Expr.argumentKind?_withArguments]

/-! ## A whole run -/

theorem noneExpands_cons (h : t.isExpansion = true → (perform e t).2.answer.isSuccess = false)
    (hts : NoneExpands (perform e t).1 ts) : NoneExpands e (t :: ts) := by
  intro p hp
  rw [run_cons, List.zip_cons_cons] at hp
  rcases List.mem_cons.mp hp with rfl | hp
  · exact h
  · exact hts p hp

theorem pushed_cons_of_isExpansion (h : t.isExpansion = true) : pushed (t :: ts) = pushed ts := by
  cases t with
  | pushArgument arg => exact absurd h (by simp [isExpansion])
  | _ => rfl

/-- The last expansion of a longer run is the last one of its tail, if the tail has one. -/
theorem Leaves.cons {before after : List Expr} (h : Leaves (perform e t).1 before ts after)
    (hnone : NoneExpands (perform e t).1 ts → Leaves e items (t :: ts) (before ++ pushed ts)) :
    Leaves e items (t :: ts) after := by
  cases h with
  | untouched hn => exact hnone hn
  | @lastExpansion us u vs name type extra hexp hsuccess hn =>
      show Leaves e items ((t :: us) ++ u :: vs) _
      exact .lastExpansion hexp hsuccess hn

/-- **The arguments after a run of rewrites.** By induction over the run: the first step leaves the
    inner call where it was, and the rest of the run starts from what the step wrote. -/
theorem leaves_runFinal (h : ∀ t ∈ ts, t.isRewrite = true) (hc : e.innerCall? = some c)
    (hs : c.args.isSharedEmpty = false) :
    ∃ items, Leaves e c.args.items ts items ∧ runFinal perform e ts = e.withArguments items := by
  induction ts generalizing e c with
  | nil =>
      have hn : NoneExpands e [] := by intro p hp; exact absurd hp (by simp)
      refine ⟨c.args.items, ?_, (Expr.withArguments_items hc).symm⟩
      simpa [pushed] using Leaves.untouched hn
  | cons t ts ih =>
      have hrest : ∀ u ∈ ts, u.isRewrite = true := fun u hu => h u (List.mem_cons_of_mem t hu)
      -- the rest of the run, when the step has written `before`
      have hwritten : ∀ before, (perform e t).1 = e.withArguments before →
          ∃ after, Leaves (perform e t).1 before ts after ∧
            runFinal perform e (t :: ts) = e.withArguments after := by
        intro before hbefore
        have hc' : (perform e t).1.innerCall? = some (c.refill before) := by
          rw [hbefore, Expr.innerCall?_withArguments, hc]; rfl
        have hs' : (c.refill before).args.isSharedEmpty = false := by simpa using hs
        obtain ⟨after, hleaves, hfinal⟩ := ih hrest hc' hs'
        rw [Call.args_refill, Arguments.items_refill hs] at hleaves
        refine ⟨after, hleaves, ?_⟩
        rw [runFinal_cons, hfinal, hbefore, Expr.withArguments_withArguments]
      rcases isRewrite_cases (h t (by simp)) with hexp | ⟨arg, rfl⟩
      · rcases perform_expansion (e := e) hexp with
          ⟨hfail, hsame⟩ | ⟨name, type, extra, hw, hwrites⟩
        · -- a step that came to nothing wrote back what was there
          obtain ⟨after, hleaves, hfinal⟩ :=
            hwritten c.args.items (hsame.trans (Expr.withArguments_items hc).symm)
          refine ⟨after, hleaves.cons fun hn => ?_, hfinal⟩
          rw [← pushed_cons_of_isExpansion hexp]
          exact .untouched (noneExpands_cons (fun _ => hfail) hn)
        · -- if nothing expands after it, this step is the last expansion
          obtain ⟨after, hleaves, hfinal⟩ := hwritten _ hwrites.2.1
          refine ⟨after, hleaves.cons fun hn => ?_, hfinal⟩
          show Leaves e c.args.items ([] ++ t :: ts) _
          exact .lastExpansion hw hwrites.1 hn
      · obtain ⟨after, hleaves, hfinal⟩ := hwritten _ (perform_push hc hs arg).2.1
        refine ⟨after, hleaves.cons fun hn => ?_, hfinal⟩
        rw [List.append_assoc]
        exact .untouched (noneExpands_cons (fun hexp => absurd hexp (by simp [isExpansion])) hn)

/-- **What a run of rewrites does to an expression**, in whatever order its steps come. -/
structure RewriteRun (e : Expr) (ts : List Edit) : Prop where
  /-- A step that fails or is refused leaves the whole expression as it was. -/
  atomic : ∀ us t vs, ts = us ++ t :: vs →
    (perform (runFinal perform e us) t).2.answer.isSuccess = false →
      (perform (runFinal perform e us) t).1 = runFinal perform e us
  /-- The representation of the arguments is the same after every step. -/
  kind : ∀ p ∈ run perform e ts, p.2.argumentKind? = e.argumentKind?
  /-- Without a call, or on the shared empty list, no step succeeds and nothing changes. -/
  refused : (∀ c, e.innerCall? = some c → c.args = .sharedEmpty) →
    (∀ p ∈ run perform e ts, p.1.answer.isSuccess = false) ∧ runFinal perform e ts = e
  /-- Otherwise the arguments of the inner call are what the run leaves, and nothing else
      changes. -/
  written : ∀ c, e.innerCall? = some c → c.args ≠ .sharedEmpty →
    ∃ items, Leaves e c.args.items ts items ∧ runFinal perform e ts = e.withArguments items

/-- **Every run of rewrites is accounted for**: each step is all or nothing, the shared empty list
    is never written to, and only the arguments of the inner call change. -/
theorem rewriteRun (e : Expr) (ts : List Edit) (h : ∀ t ∈ ts, t.isRewrite = true) :
    RewriteRun e ts where
  atomic := by
    intro us t vs hsplit hfail
    exact perform_of_not_success (h t (by simp [hsplit])) hfail
  kind := by
    refine forall_mem_run perform (P := fun s => s.argumentKind? = e.argumentKind?) ?_ rfl h
    intro s t ht hkind
    exact ⟨(argumentKind?_perform ht).trans hkind, (argumentKind?_perform ht).trans hkind⟩
  refused := by
    intro hshared
    have hidle : ∀ t : Edit, t.isRewrite = true → Idle e (perform e t) := fun t ht =>
      perform_rewrite_idle ht fun c hc => Arguments.eq_sharedEmpty_iff.mp (hshared c hc)
    constructor
    · refine forall_mem_run perform (P := fun s => s = e) ?_ rfl h
      rintro s t ht rfl
      exact ⟨(hidle t ht).2, (hidle t ht).1⟩
    · refine runFinal_induction perform (P := fun s => s = e) ?_ rfl h
      rintro s t ht rfl
      exact (hidle t ht).2
  written := by
    intro c hc hne
    have hs : c.args.isSharedEmpty = false :=
      Bool.eq_false_iff.mpr fun hs => hne (Arguments.eq_sharedEmpty_iff.mpr hs)
    exact leaves_runFinal h hc hs

/-- `List list = Mock()` with an empty tuple: a type is pushed and the declaration expanded with it,
    the expansion as a call fails, and the last push goes behind what the expansion wrote. -/
theorem rewriteRun_of_tuple :
    (∀ t ∈ [Edit.pushArgument (Build.classRef "Set"), .expand [], .expandCall [],
        .pushArgument (Build.int 1)], t.isRewrite = true) ∧
      RewriteRun (Build.declare (Build.typedVar "list" "List")
          (.call ⟨.receiver Build.this, some "Mock", .tuple [], .zero⟩))
        [.pushArgument (Build.classRef "Set"), .expand [], .expandCall [],
          .pushArgument (Build.int 1)] ∧
      runFinal perform (Build.declare (Build.typedVar "list" "List")
          (.call ⟨.receiver Build.this, some "Mock", .tuple [], .zero⟩))
        [.pushArgument (Build.classRef "Set"), .expand [], .expandCall [],
          .pushArgument (Build.int 1)] =
        Build.declare (Build.typedVar "list" "List")
          (.call ⟨.receiver Build.this, some "Mock",
            .tuple [Build.classRef "Set", Build.string "list", Build.int 1], .zero⟩) :=
  ⟨by simp [isRewrite, isExpansion, pushed?],
    rewriteRun _ _ (by simp [isRewrite, isExpansion, pushed?]), rfl⟩

end Edit

end Desugar
