import Desugar.Proofs.Rewriting

/-!
# What expansions report

Events come from two places while an expression is expanded: from the inference, when it finds no
type, and from the rewrite of the call, whether it is carried out or refused. Some failures are
reported and some are not. This module says for every step of a run of expansions which events go
with its answer, and so what the whole run reports.

## Contents

* `Event.Record` — an event as it is handed on: level, target, message and fields.
* `Edit.Reports` — the answers of an expansion, each with its records.
* `Edit.accounted_perform` — every step answers and reports that way.
* `Edit.Logs`, `Edit.log` — the records of a run, step by step, and the events of a run.
* `Edit.loggedRun` — the whole account of what a run reports.
-/

namespace Desugar

/-! ## Events as they are handed on -/

/-- Everything that can be seen of an event. -/
structure Event.Record where
  level : Level
  target : String
  message : String
  fields : List (String × FieldValue)

/-- What can be seen of an event. -/
def Event.record (ev : Event) : Event.Record := ⟨ev.level, ev.target, ev.message, ev.fields⟩

/-- Whether a record tells of an expansion that was carried out. -/
def Event.Record.tellsExpansion (r : Event.Record) : Bool :=
  r.message == "expanded builtin member call"

namespace Edit

/-! ## One step -/

/-- Whether an answer rejects the shape of the expression: it declares nothing, or there is no call
    to work on. -/
def Answer.rejectsShape : Answer → Bool
  | .failed .inferenceNeedsCall => true
  | .failed .expansionNeedsDeclaration => true
  | .failed .expansionNeedsCall => true
  | .notApplicable => true
  | _ => false

/-- The answers that an expansion of `e` can give, each with the records that go with it. -/
inductive Reports (e : Expr) (t : Edit) : Answer → List Event.Record → Prop
  /-- The call was expanded: its method, the name that was used and the number of arguments. -/
  | expanded {c name type extra} : e.innerCall? = some c → Expands e t name type extra →
      Reports e t .done
        [⟨.debug, "speck.sugar", "expanded builtin member call",
          [("method", .shown (Text.quoteOption c.method)), ("name", .string name),
            ("args", .number (2 + extra.length))]⟩]
  /-- No type was found: the span of the call, as in the failure. -/
  | untyped {c} : e.innerCall? = some c →
      Reports e t (.failed (.typeNotInferred c.span))
        [⟨.debug, "speck.sugar", "builtin member call has no type argument and no declared type",
          [("span", .shown c.span.region)]⟩]
  /-- The arguments are the shared empty list: the method and the span of the call. -/
  | refused {c} : e.innerCall? = some c → c.args = .sharedEmpty →
      Reports e t (.failed .sharedArguments)
        [⟨.error, "speck.sugar", "refusing to rewrite the shared empty argument list",
          [("method", .shown (Text.quoteOption c.method)), ("span", .shown c.span.region)]⟩]
  /-- The expression is not of the right shape, and nothing is reported. -/
  | misshapen {a} : a.rejectsShape = true → Reports e t a []

/-- A reply whose answer and events go together. -/
def Reply.Accounted (e : Expr) (t : Edit) (r : Reply) : Prop :=
  Reports e t r.answer (r.events.map Event.record)

variable {e : Expr} {c : Call} {t : Edit} {ts : List Edit}

/-- The expansion of the inner call is reported as done or as refused. -/
theorem accounted_expandAs {name : String} {type : Expr} {extra : List Expr}
    (hc : e.innerCall? = some c) (hexp : Expands e t name type extra) :
    (settle e ((c.expandAs name type extra).map e.withInnerCall)).2.Accounted e t := by
  cases hs : c.args.isSharedEmpty with
  | true =>
      rw [Call.expandAs_of_shared hs]
      exact .refused hc (Arguments.eq_sharedEmpty_iff.mpr hs)
  | false =>
      have hreports := Reports.expanded hc hexp
      rw [Nat.add_comm 2 extra.length] at hreports
      rw [Call.expandAs_of_not_shared hs]
      exact hreports

/-- A failure without events that rejects the shape. -/
theorem accounted_fail {cause : Error} (h : (Answer.failed cause).rejectsShape = true) :
    (settle e (.fail cause)).2.Accounted e t :=
  .misshapen h

/-- Where there is no call to work on, the declaration check or the inference rejects the shape. -/
theorem expand_rejectsShape (h : e.usedCall? = none) (extra : List Expr) :
    ∃ cause, (Answer.failed cause).rejectsShape = true ∧ e.expand extra = .fail cause := by
  cases e with
  | call _ => exact absurd h (by simp [Expr.usedCall?])
  | binary b =>
      cases hb : b.isDeclaration with
      | true =>
          have hinner : (Expr.binary b).innerCall? = none := by
            rwa [Expr.usedCall?, if_pos hb] at h
          have hdeclared : ∀ b', (Expr.binary b).binary? = some b' → b'.isDeclaration = true := by
            intro b' hb'
            obtain rfl : b = b' := Option.some.inj hb'
            exact hb
          refine ⟨.inferenceNeedsCall, rfl, ?_⟩
          rw [Expr.expand_of_declared hdeclared, Expr.infer_of_no_call hinner]
          rfl
      | false => exact ⟨.expansionNeedsDeclaration, rfl, Expr.expand_of_undeclared hb extra⟩
  | _ => exact ⟨.inferenceNeedsCall, rfl, rfl⟩

/-- An expansion with what is inferred reports at most once: a type that is not found is reported by
    the inference, and then nothing is rewritten. -/
theorem accounted_expand (e : Expr) {extra : List Expr}
    (hexp : ∀ name type, e.infer.result = .ok ⟨name, type⟩ → Expands e t name type extra) :
    (settle e (e.expand extra)).2.Accounted e t := by
  cases hc : e.usedCall? with
  | none =>
      obtain ⟨cause, hshape, hfail⟩ := expand_rejectsShape hc extra
      rw [hfail]
      exact accounted_fail hshape
  | some c =>
      have hinner : e.innerCall? = some c := Expr.innerCall?_of_usedCall? hc
      cases ht : e.usedType? c with
      | none =>
          rw [Expr.expand_of_no_type hc ht]
          exact .untyped hinner
      | some type =>
          have hinfer : e.infer.result = .ok ⟨e.usedName, type⟩ := by
            rw [Expr.infer_of_type hinner ht]; rfl
          rw [Expr.expand_of_type hc ht]
          exact accounted_expandAs hinner (hexp e.usedName type hinfer)

/-- **Every expansion is accounted for**: whichever way it reaches the call, its events are those
    that go with its answer. -/
theorem accounted_perform (h : t.isExpansion = true) : (perform e t).2.Accounted e t := by
  cases t with
  | expandAs name type extra =>
      show (settle e (e.expandAs name type extra)).2.Accounted e _
      cases hc : e.usedCall? with
      | none =>
          rw [Expr.expandAs_of_no_call hc]
          exact accounted_fail rfl
      | some c =>
          rw [Expr.expandAs_of_usedCall? hc]
          exact accounted_expandAs (Expr.innerCall?_of_usedCall? hc) .given
  | expand extra => exact accounted_expand e fun name type hinfer => .inferred hinfer
  | expandCall extra =>
      cases e with
      | binary b =>
          -- a binary expression is no call, and the inference says so without an event
          exact .misshapen rfl
      | _ => exact accounted_expand _ fun name type hinfer => .inferredCall hinfer
  | expandDeclaration extra =>
      cases e with
      | binary b =>
          exact accounted_expand (.binary b) fun name type hinfer => .inferredDeclaration hinfer
      | _ => exact .misshapen rfl
  | expandInnerCall name type extra =>
      show (onInnerCall e _).2.Accounted e _
      unfold onInnerCall
      cases hc : e.innerCall? with
      | none => exact .misshapen rfl
      | some c => exact accounted_expandAs hc .givenInner
  | _ => exact absurd h (by simp [isExpansion])

namespace Reports

variable {a : Answer} {records : List Event.Record}

theorem target_eq (h : Reports e t a records) : ∀ r ∈ records, r.target = "speck.sugar" := by
  cases h <;> simp

/-- The one record of an expansion goes with success, and success with it. -/
theorem countP_tellsExpansion (h : Reports e t a records) :
    records.countP Event.Record.tellsExpansion = if a.isSuccess then 1 else 0 := by
  cases h with
  | expanded hc hexp => simp [Event.Record.tellsExpansion, Answer.isSuccess]
  | untyped hc => simp [Event.Record.tellsExpansion, Answer.isSuccess]
  | refused hc hs => simp [Event.Record.tellsExpansion, Answer.isSuccess]
  | misshapen hshape =>
      have hfail : a.isSuccess = false := by
        cases a with
        | done => exact absurd hshape (by simp [Answer.rejectsShape])
        | count n => exact absurd hshape (by simp [Answer.rejectsShape])
        | _ => rfl
      rw [hfail]
      rfl

/-- Only the refusal is an error, and it is no success. -/
theorem not_success_of_error (h : Reports e t a records) {r : Event.Record} (hr : r ∈ records)
    (herror : r.level = .error) : a.isSuccess = false := by
  cases h with
  | expanded hc hexp =>
      rw [List.mem_singleton.mp hr] at herror
      exact absurd herror (by simp)
  | untyped hc => rfl
  | refused hc hs => rfl
  | misshapen hshape => exact absurd hr (by simp)

end Reports

/-! ## A whole run -/

/-- The events of a run, in the order of its steps. -/
def log (e : Expr) (ts : List Edit) : List Event := (run perform e ts).flatMap fun p => p.1.events

theorem log_cons (e : Expr) (t : Edit) (ts : List Edit) :
    log e (t :: ts) = (perform e t).2.events ++ log (perform e t).1 ts := rfl

/-- The records of a run that starts at `e`: those of its first step, then those of the run that is
    left. -/
inductive Logs : Expr → List Edit → List Event.Record → Prop
  | nil {e : Expr} : Logs e [] []
  | cons {e : Expr} {t : Edit} {ts : List Edit} {now later : List Event.Record} :
      Reports e t (perform e t).2.answer now → Logs (perform e t).1 ts later →
        Logs e (t :: ts) (now ++ later)

/-- **The events of a run are those of its steps, in their order.** -/
theorem logs_log (h : ∀ t ∈ ts, t.isExpansion = true) :
    Logs e ts ((log e ts).map Event.record) := by
  induction ts generalizing e with
  | nil => exact .nil
  | cons t ts ih =>
      have hrest : ∀ u ∈ ts, u.isExpansion = true := fun u hu => h u (List.mem_cons_of_mem t hu)
      rw [log_cons, List.map_append]
      exact .cons (accounted_perform (h t (by simp))) (ih hrest)

namespace Logs

variable {records : List Event.Record}

theorem target_eq (h : Logs e ts records) : ∀ r ∈ records, r.target = "speck.sugar" := by
  induction h with
  | nil => simp
  | cons hnow hlater ih =>
      intro r hr
      rcases List.mem_append.mp hr with hr | hr
      · exact hnow.target_eq r hr
      · exact ih r hr

/-- There are as many records of expansions as steps that succeed. -/
theorem countP_tellsExpansion (h : Logs e ts records) :
    records.countP Event.Record.tellsExpansion =
      (run perform e ts).countP fun p => p.1.answer.isSuccess := by
  induction h with
  | nil => rfl
  | cons hnow hlater ih =>
      rw [List.countP_append, hnow.countP_tellsExpansion, ih, run_cons, List.countP_cons,
        Nat.add_comm]

end Logs

/-- **What a run of expansions reports**, whichever expansions it mixes and however they end. -/
structure LoggedRun (e : Expr) (ts : List Edit) : Prop where
  /-- The events are those that go with the answers of the steps, in their order. -/
  logs : Logs e ts ((log e ts).map Event.record)
  /-- They all have one target. -/
  target : ∀ ev ∈ log e ts, ev.target = "speck.sugar"
  /-- As many of them tell of an expansion as steps succeed. -/
  expansions : (log e ts).countP (fun ev => ev.record.tellsExpansion) =
    (run perform e ts).countP fun p => p.1.answer.isSuccess
  /-- A step with an error among its events leaves the expression as it was. -/
  errors : ∀ us t vs, ts = us ++ t :: vs →
    (∃ ev ∈ (perform (runFinal perform e us) t).2.events, ev.level = .error) →
      (perform (runFinal perform e us) t).1 = runFinal perform e us

/-- **Every event of a run of expansions is accounted for.** A step that succeeds reports the
    expansion, one without a type the failed inference, one on the shared empty list an error; a
    step on an expression of another shape reports nothing. -/
theorem loggedRun (e : Expr) (ts : List Edit) (h : ∀ t ∈ ts, t.isExpansion = true) :
    LoggedRun e ts where
  logs := logs_log h
  target := by
    intro ev hev
    exact (logs_log h).target_eq ev.record (List.mem_map_of_mem hev)
  expansions := by
    rw [← (logs_log h).countP_tellsExpansion, List.countP_map]
    rfl
  errors := by
    intro us t vs hsplit herror
    obtain ⟨ev, hev, hlevel⟩ := herror
    have hexp : t.isExpansion = true := h t (by simp [hsplit])
    have hrewrite : t.isRewrite = true := by simp [isRewrite, hexp]
    have hfail := (accounted_perform hexp).not_success_of_error (List.mem_map_of_mem hev) hlevel
    exact perform_of_not_success hrewrite hfail

/-- `List list = Mock()` with an empty tuple: the expansion of the declaration is reported, the one
    as a call is not, and the one of the inner call is reported with the name that it brings. -/
theorem loggedRun_of_tuple :
    (∀ t ∈ [Edit.expand [Build.int 1], .expandCall [], .expandInnerCall "it" Build.null []],
        t.isExpansion = true) ∧
      LoggedRun (Build.declare (Build.typedVar "list" "List")
          (.call ⟨.receiver Build.this, some "Mock", .tuple [], .zero⟩))
        [.expand [Build.int 1], .expandCall [], .expandInnerCall "it" Build.null []] ∧
      log (Build.declare (Build.typedVar "list" "List")
          (.call ⟨.receiver Build.this, some "Mock", .tuple [], .zero⟩))
        [.expand [Build.int 1], .expandCall [], .expandInnerCall "it" Build.null []] =
        [.expanded (some "Mock") "list" 3, .expanded (some "Mock") "it" 2] :=
  ⟨by simp [isExpansion], loggedRun _ _ (by simp [isExpansion]), rfl⟩

end Edit

end Desugar
