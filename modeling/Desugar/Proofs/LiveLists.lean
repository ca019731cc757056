import Desugar.Proofs.LiveBody

/-!
# Live lists of methods and closures

The statements of a method are taken out of its body, made a block and put back at every step; those
of a closure are changed where they stand. This module compares the two over whole runs of edits.
Wherever there is a block to begin with, each is a machine that holds a plain list of statements in
some place and lets the edits through to it, so both mirror the runs of the plain list and thereby
each other. Without a block they part: a method gets one with the first edit, a closure never does.

## Contents

* `Method.withBlock`, `Closure.withBlock` — the places that hold a list.
* `Method.perform_withBlock`, `Closure.perform_withBlock` — one edit in such a place.
* `Method.run_of_block`, `Closure.run_of_block` — a run there, as a run of the plain list.
* `Closure.run_of_no_block`, `Method.run_of_no_body` — where there is no block.
* `LiveListsAgree`, `liveLists_alike` — the comparison.
-/

namespace Desugar

/-! ## Places that hold a list -/

namespace Method

/-- The method with a block of the given span and statements for its body. -/
def withBlock (m : Method) (span : Span) (ss : List Stmt) : Method :=
  { m with body := some (.block ⟨ss, span⟩) }

/-- The answer to the edit that a step was. -/
def Answer.edited? : Answer → Option ListEdit.Answer
  | .edited a => some a
  | .assigned => none

/-- The reply to an edit of the list, as a method gives it. -/
def Reply.ofEdit (r : ListEdit.Reply) : Reply := ⟨.edited r.answer, r.events⟩

theorem eq_withBlock {m : Method} {span : Span} {ss : List Stmt}
    (h : m.body = some (.block ⟨ss, span⟩)) : m = m.withBlock span ss := by
  cases m
  cases h
  rfl

/-- **An edit of a method with a block is an edit of the list in it.** Nothing is wrapped, so
    nothing but the edit itself is reported. -/
theorem perform_withBlock (m : Method) (span : Span) (ss : List Stmt) (e : ListEdit) :
    (m.withBlock span ss).perform (.edit e) =
      (m.withBlock span (ListEdit.perform ss e).1, .ofEdit (ListEdit.perform ss e).2) := rfl

/-- The first edit of a method without a body finds an empty block there. -/
theorem perform_edit_of_no_body {m : Method} (h : m.body = none) (e : ListEdit) :
    m.perform (.edit e) = (m.withBlock m.span []).perform (.edit e) := by
  cases m
  cases h
  rfl

end Method

namespace Closure

/-- The closure with a block of the given span and statements. -/
def withBlock (c : Closure) (span : Span) (ss : List Stmt) : Closure :=
  { c with body := some ⟨ss, span⟩ }

/-- The answer to the edit that a step was, if it was let through. -/
def Answer.edited? : Answer → Option ListEdit.Answer
  | .edited a => some a
  | .viewed _ => none
  | .refused => none

/-- The reply to an edit of the list, as a closure gives it. -/
def Reply.ofEdit (r : ListEdit.Reply) : Reply := ⟨.edited r.answer, r.events⟩

theorem eq_withBlock {c : Closure} {span : Span} {ss : List Stmt} (h : c.body = some ⟨ss, span⟩) :
    c = c.withBlock span ss := by
  cases c
  cases h
  rfl

/-- **An edit of a closure with a block is an edit of the list in it.** -/
theorem perform_withBlock (c : Closure) (span : Span) (ss : List Stmt) (e : ListEdit) :
    (c.withBlock span ss).perform (.edit e) =
      (c.withBlock span (ListEdit.perform ss e).1, .ofEdit (ListEdit.perform ss e).2) := rfl

/-- The reply of a closure without a block: there is nothing to see and nothing to edit. -/
def withoutBlock : Step → Reply
  | .view => ⟨.viewed [], []⟩
  | .edit _ => ⟨.refused, []⟩

theorem statements_of_no_block {c : Closure} (h : c.body = none) : c.statements = [] := by
  unfold statements
  rw [h]

theorem perform_of_no_block {c : Closure} (h : c.body = none) (t : Step) :
    c.perform t = (c, withoutBlock t) := by
  cases t with
  | view =>
      show (c, Reply.mk (.viewed c.statements) []) = _
      rw [statements_of_no_block h]
      rfl
  | edit e =>
      simp only [perform, h]
      rfl

end Closure

/-! ## Runs -/

section
variable {m : Method} {c : Closure} {span : Span} {ss : List Stmt} (es : List ListEdit)

/-- **A run of edits of a method with a block is a run of the plain list**, held in that block. -/
theorem Method.run_of_block (h : m.body = some (.block ⟨ss, span⟩)) :
    run Method.perform m (es.map .edit) =
      (run ListEdit.perform ss es).map fun p => (.ofEdit p.1, m.withBlock span p.2) := by
  have hmirror := run_mirrored ListEdit.perform (perform_withBlock m span) ss es
  rwa [← eq_withBlock h] at hmirror

theorem Method.runFinal_of_block (h : m.body = some (.block ⟨ss, span⟩)) :
    runFinal Method.perform m (es.map .edit) =
      m.withBlock span (runFinal ListEdit.perform ss es) := by
  have hmirror := runFinal_mirrored ListEdit.perform (perform_withBlock m span) ss es
  rwa [← eq_withBlock h] at hmirror

/-- **A run of edits of a closure with a block is a run of the plain list**, held in that block. -/
theorem Closure.run_of_block (h : c.body = some ⟨ss, span⟩) :
    run Closure.perform c (es.map .edit) =
      (run ListEdit.perform ss es).map fun p => (.ofEdit p.1, c.withBlock span p.2) := by
  have hmirror := run_mirrored ListEdit.perform (perform_withBlock c span) ss es
  rwa [← eq_withBlock h] at hmirror

theorem Closure.runFinal_of_block (h : c.body = some ⟨ss, span⟩) :
    runFinal Closure.perform c (es.map .edit) =
      c.withBlock span (runFinal ListEdit.perform ss es) := by
  have hmirror := runFinal_mirrored ListEdit.perform (perform_withBlock c span) ss es
  rwa [← eq_withBlock h] at hmirror

/-- A closure without a block stays as it is, whatever is tried. -/
theorem Closure.run_of_no_block (h : c.body = none) (ts : List Closure.Step) :
    run Closure.perform c ts = ts.map fun t => (Closure.withoutBlock t, c) :=
  run_of_idle Closure.perform (perform_of_no_block h) ts

theorem Closure.runFinal_of_no_block (h : c.body = none) (ts : List Closure.Step) :
    runFinal Closure.perform c ts = c := by
  refine runFinal_of_idle Closure.perform (fun t => ?_) ts
  rw [perform_of_no_block h t]

/-- A method without a body is edited as if it had an empty block, which the first edit gives it. -/
theorem Method.run_of_no_body (h : m.body = none) :
    run Method.perform m (es.map .edit) =
      (run ListEdit.perform [] es).map fun p => (.ofEdit p.1, m.withBlock m.span p.2) := by
  have hblock : (m.withBlock m.span []).body = some (.block ⟨[], m.span⟩) := rfl
  cases es with
  | nil => rfl
  | cons e es =>
      -- the two runs differ in the state they start from, and the first edit makes up for that
      have hfirst := perform_edit_of_no_body h e
      have hrun := run_of_block (e :: es) hblock
      rw [List.map_cons, run_cons] at hrun ⊢
      rw [hfirst]
      exact hrun

end

/-! ## The comparison -/

/-- **What the same edits do to the same statements**, in a block of a method and in a block of a
    closure. -/
structure LiveListsAgree (m : Method) (c : Closure) (ss : List Stmt) (es : List ListEdit) :
    Prop where
  /-- Step by step, both give the same answer, report the same events and hold the same list. -/
  steps : (run Method.perform m (es.map .edit)).map
      (fun p => (p.1.answer.edited?, p.1.events, p.2.statements)) =
    (run Closure.perform c (es.map .edit)).map
      fun p => (p.1.answer.edited?, p.1.events, p.2.statements)
  /-- They are those of the plain list, so no edit is refused for want of a block. -/
  plain : (run Closure.perform c (es.map .edit)).map
      (fun p => (p.1.answer.edited?, p.1.events, p.2.statements)) =
    (run ListEdit.perform ss es).map fun p => (some p.1.answer, p.1.events, p.2)
  /-- At the end both hold the same list. -/
  final : (runFinal Method.perform m (es.map .edit)).statements =
    (runFinal Closure.perform c (es.map .edit)).statements
  /-- At every point of the run a look at the closure shows its list and leaves it alone. -/
  read : ∀ p ∈ run Closure.perform c (es.map .edit),
    Closure.perform p.2 .view = (p.2, ⟨.viewed p.2.statements, []⟩)
  /-- The method never differs from what it was but in the statements of its block. -/
  methodFrame : ∀ p ∈ run Method.perform m (es.map .edit),
    p.2 = { m with body := some (.block { m.bodyBlock with statements := p.2.statements }) }
  /-- Nor does the closure: its span and that of its block are the same at every point. -/
  closureFrame : ∀ p ∈ run Closure.perform c (es.map .edit), p.2.span = c.span ∧
    p.2.body = c.body.map fun b => { b with statements := p.2.statements }

/-- Two blocks with the same statements, wherever they are, take the same edits alike. -/
theorem liveListsAgree_of_blocks {m : Method} {c : Closure} {ss : List Stmt} {span span' : Span}
    (hm : m.body = some (.block ⟨ss, span⟩)) (hc : c.body = some ⟨ss, span'⟩)
    (es : List ListEdit) : LiveListsAgree m c ss es where
  steps := by
    rw [Method.run_of_block es hm, Closure.run_of_block es hc, List.map_map, List.map_map]
    rfl
  plain := by
    rw [Closure.run_of_block es hc, List.map_map]
    rfl
  final := by
    rw [Method.runFinal_of_block es hm, Closure.runFinal_of_block es hc]
    rfl
  read := by
    intro p _
    rfl
  methodFrame := by
    intro p hp
    rw [Method.run_of_block es hm] at hp
    obtain ⟨q, -, rfl⟩ := List.mem_map.mp hp
    rw [Method.bodyBlock_eq, hm]
    rfl
  closureFrame := by
    intro p hp
    rw [Closure.run_of_block es hc] at hp
    obtain ⟨q, -, rfl⟩ := List.mem_map.mp hp
    refine ⟨rfl, ?_⟩
    rw [hc]
    rfl

/-- **The live lists of methods and closures behave alike** where there is a block. A closure
    without one refuses every edit, shows no statements and is never given a block, while the first
    edit of a method without a body gives it one. -/
theorem liveLists_alike (es : List ListEdit) :
    (∀ (m : Method) (c : Closure) (ss : List Stmt) (span span' : Span),
      m.body = some (.block ⟨ss, span⟩) → c.body = some ⟨ss, span'⟩ → LiveListsAgree m c ss es) ∧
    (∀ (c : Closure) (ts : List Closure.Step), c.body = none →
      run Closure.perform c ts = ts.map (fun t => (Closure.withoutBlock t, c)) ∧
        runFinal Closure.perform c ts = c ∧ c.statements = []) ∧
    (∀ m : Method, m.body = none →
      run Method.perform m (es.map .edit) =
        (run ListEdit.perform [] es).map fun p => (.ofEdit p.1, m.withBlock m.span p.2)) := by
  refine ⟨?_, ?_, ?_⟩
  · intro m c ss span span' hm hc
    exact liveListsAgree_of_blocks hm hc es
  · intro c ts hc
    exact ⟨Closure.run_of_no_block hc ts, Closure.runFinal_of_no_block hc ts,
      Closure.statements_of_no_block hc⟩
  · intro m hm
    exact Method.run_of_no_body es hm

/-- The declaration `List list = Mock()` in a method and in a closure: the expansion goes through, a
    removal beyond the end and the expansion of an assertion do not. -/
theorem liveLists_alike_of_declaration :
    LiveListsAgree
        { name := "feature",
          body := some (.block ⟨[Build.exprStmt (Build.declare (Build.typedVar "list" "List")
            (Build.thisCall "Mock" []))], ⟨3, 1, 5, 2⟩⟩) }
        ⟨some ⟨[Build.exprStmt (Build.declare (Build.typedVar "list" "List")
          (Build.thisCall "Mock" []))], .zero⟩, .unknown⟩
        [Build.exprStmt (Build.declare (Build.typedVar "list" "List") (Build.thisCall "Mock" []))]
        [.expand 0 [], .remove 1, .insert 0 (Build.assertion Build.null none), .expand 0 []] ∧
      (runFinal Closure.perform
        ⟨some ⟨[Build.exprStmt (Build.declare (Build.typedVar "list" "List")
          (Build.thisCall "Mock" []))], .zero⟩, .unknown⟩
        [.edit (.expand 0 []), .edit (.remove 1),
          .edit (.insert 0 (Build.assertion Build.null none)), .edit (.expand 0 [])]).statements =
        [Build.assertion Build.null none,
          Build.exprStmt (Build.declare (Build.typedVar "list" "List")
            (Build.thisCall "Mock" [Build.classRef "List", Build.string "list"]))] :=
  ⟨(liveLists_alike _).1 _ _ _ _ _ rfl rfl, rfl⟩

end Desugar
