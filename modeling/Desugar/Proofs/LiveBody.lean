import Desugar.Proofs.Reexpansion

/-!
# Live bodies

The statements of a method are edited through a list that is asked for anew at every step, and to
ask for it is to take the body out, make it a block and put it back. A run of edits does not show
any of this: it is a run of plain list operations on the statements that the body stood for at the
start, and all that it leaves behind is one block, whose span the first edit settles.

## Contents

* `ListEdit.onList`, `ListEdit.Refused` — what an edit makes of a plain list, and the edits that
  come to nothing.
* `bodyList`, `bodySpan` — the list and the span that a body stands for.
* `Method.body_perform_edit`, `Method.trace_perform_edit` — one edit.
* `Method.body_runFinal`, `Method.statements_runFinal` — a run, by induction over it.
* `Method.liveBodyRun` — the whole account of a run.
-/

namespace Desugar

/-! ## Edits of a plain list -/

/-- The statement with its use of a helper expanded. A statement that is no expression, and one
    whose expansion fails, stays as it is. -/
def Stmt.expanded (extra : List Expr) : Stmt → Stmt
  | .expr e span => .expr (Edit.perform e (.expand extra)).1 span
  | s => s

/-- What an expansion reports is never as verbose as the wrapping of a body. -/
theorem Expr.level_ne_trace_of_mem_expand {e : Expr} {extra : List Expr} {v : Event}
    (h : v ∈ (e.expand extra).events) : v.level ≠ .trace := by
  cases hc : e.usedCall? with
  | none =>
      obtain ⟨cause, -, hfail⟩ := expand_of_no_call hc extra
      rw [hfail] at h
      exact absurd h (by simp)
  | some c =>
      cases ht : e.usedType? c with
      | none =>
          rw [expand_of_no_type hc ht] at h
          obtain rfl := List.mem_singleton.mp h
          simp [Event.level]
      | some type =>
          cases hs : c.args.isSharedEmpty with
          | true =>
              rw [expand_of_shared hc ht hs] at h
              obtain rfl := List.mem_singleton.mp h
              simp [Event.level]
          | false =>
              rw [expand_of_not_shared hc ht hs] at h
              obtain rfl := List.mem_singleton.mp h
              simp [Event.level]

namespace ListEdit

/-- What an edit makes of a plain list. These are the total operations on lists, which do nothing at
    an index that is out of range. -/
def onList (ss : List Stmt) : ListEdit → List Stmt
  | .view => ss
  | .push s => ss ++ [s]
  | .insert index s => ss.insertIdx index s
  | .remove index => ss.eraseIdx index
  | .clear => []
  | .expand index extra => ss.modify index (Stmt.expanded extra)

/-- Whether an answer says that an edit came to nothing. -/
def Answer.isFailure : Answer → Bool
  | .outOfRange => true
  | .notApplicable => true
  | .failed _ => true
  | _ => false

/-- The edits of the list `ss` that come to nothing, each with its answer. -/
inductive Refused (ss : List Stmt) : ListEdit → Answer → Prop
  | insertBeyond {index s} : ss.length < index → Refused ss (.insert index s) .outOfRange
  | removeBeyond {index} : ss.length ≤ index → Refused ss (.remove index) .outOfRange
  | expandBeyond {index extra} : ss.length ≤ index → Refused ss (.expand index extra) .outOfRange
  | notExpression {index extra s} :
      ss[index]? = some s → s.expression? = none → Refused ss (.expand index extra) .notApplicable
  | expansionFails {index extra s e cause} :
      ss[index]? = some s → s.expression? = some e → (e.expand extra).result = .error cause →
      Refused ss (.expand index extra) (.failed cause)

variable {ss : List Stmt} {edit : ListEdit} {answer : Answer} {s : Stmt} {index : Nat}

theorem modify_expanded_of_getElem? (h : ss[index]? = some s) (extra : List Expr) :
    ss.modify index (Stmt.expanded extra) = ss.set index (s.expanded extra) := by
  have : Inhabited Stmt := ⟨s⟩
  rw [List.modify_eq_set, h]
  rfl

/-- Where nothing is expanded, the statement is put back into its own place. -/
theorem modify_expanded_of_same {extra : List Expr} (h : ss[index]? = some s)
    (hsame : s.expanded extra = s) : ss.modify index (Stmt.expanded extra) = ss := by
  rw [modify_expanded_of_getElem? h, hsame]
  obtain ⟨hlt, rfl⟩ := List.getElem?_eq_some_iff.mp h
  exact List.set_getElem_self hlt

theorem expanded_of_not_expression {extra : List Expr} (h : s.expression? = none) :
    s.expanded extra = s := by
  cases s with
  | expr e span => exact absurd h (by simp [Stmt.expression?])
  | _ => rfl

theorem expanded_of_error {extra : List Expr} {e : Expr} {cause : Error}
    (he : s.expression? = some e) (hfail : (e.expand extra).result = .error cause) :
    s.expanded extra = s := by
  cases s with
  | expr e' span =>
      obtain rfl : e' = e := Option.some.inj he
      rw [Stmt.expanded, Expr.perform_expand_of_error hfail]
  | _ => exact absurd he (by simp [Stmt.expression?])

/-- The expansion of the statement at an index, in the words of lists. -/
theorem fst_expandAt (ss : List Stmt) (index : Nat) (extra : List Expr) :
    (expandAt ss index extra).1 = ss.modify index (Stmt.expanded extra) := by
  unfold expandAt
  -- the list stays in all cases but one, and there the modification puts back what it finds
  cases hs : ss[index]? with
  | none => exact (List.modify_eq_self (List.getElem?_eq_none_iff.mp hs)).symm
  | some s =>
      cases s with
      | expr e span =>
          cases hexpand : (e.expand extra).result with
          | ok e' =>
              rw [modify_expanded_of_getElem? hs, Stmt.expanded,
                (Expr.perform_expand_of_ok hexpand).1]
              simp only [hexpand]
          | error cause =>
              rw [modify_expanded_of_same hs (expanded_of_error rfl hexpand)]
              simp only [hexpand]
      | block b => exact (modify_expanded_of_same hs rfl).symm
      | assertion condition message span => exact (modify_expanded_of_same hs rfl).symm

/-- **An edit is the plain operation on lists**, at every index. -/
theorem fst_perform (ss : List Stmt) (edit : ListEdit) : (perform ss edit).1 = onList ss edit := by
  cases edit with
  | insert index s =>
      show (if index ≤ ss.length then _ else _ : List Stmt × Reply).1 = ss.insertIdx index s
      by_cases hindex : index ≤ ss.length
      · rw [if_pos hindex]
      · rw [if_neg hindex, List.insertIdx_of_length_lt (Nat.lt_of_not_le hindex)]
  | remove index =>
      cases hs : ss[index]? with
      | some s => simp only [perform, onList, hs]
      | none =>
          simp only [perform, onList, hs]
          exact (List.eraseIdx_of_length_le (List.getElem?_eq_none_iff.mp hs)).symm
  | expand index extra => exact fst_expandAt ss index extra
  | _ => rfl

/-- An edit that comes to nothing leaves the list as it was. -/
theorem onList_of_refused (h : Refused ss edit answer) : onList ss edit = ss := by
  cases h with
  | insertBeyond hindex => exact List.insertIdx_of_length_lt hindex
  | removeBeyond hindex => exact List.eraseIdx_of_length_le hindex
  | expandBeyond hindex => exact List.modify_eq_self hindex
  | notExpression hs hnone => exact modify_expanded_of_same hs (expanded_of_not_expression hnone)
  | expansionFails hs he hfail => exact modify_expanded_of_same hs (expanded_of_error he hfail)

theorem answer_of_refused (h : Refused ss edit answer) : (perform ss edit).2.answer = answer := by
  cases h with
  | @insertBeyond index s hindex =>
      show (if index ≤ ss.length then _ else _ : List Stmt × Reply).2.answer = _
      rw [if_neg (Nat.not_le_of_lt hindex)]
      rfl
  | @removeBeyond index hindex =>
      simp only [perform, List.getElem?_eq_none_iff.mpr hindex, Answer.silent]
  | @expandBeyond index extra hindex =>
      show (expandAt ss index extra).2.answer = _
      unfold expandAt
      rw [List.getElem?_eq_none_iff.mpr hindex]
      rfl
  | @notExpression index extra s hs hnone =>
      show (expandAt ss index extra).2.answer = _
      unfold expandAt
      rw [hs]
      cases s with
      | expr e span => exact absurd hnone (by simp [Stmt.expression?])
      | _ => rfl
  | @expansionFails index extra s e cause hs he hfail =>
      show (expandAt ss index extra).2.answer = _
      unfold expandAt
      rw [hs]
      cases s with
      | expr e' span =>
          obtain rfl : e' = e := Option.some.inj he
          simp only [hfail]
      | _ => exact absurd he (by simp [Stmt.expression?])

/-- Every edit that does not succeed is one of those that come to nothing. -/
theorem refused_of_isFailure (h : (perform ss edit).2.answer.isFailure = true) :
    Refused ss edit (perform ss edit).2.answer := by
  -- each case of an edit is a refusal, with the answer that comes with it, or answers otherwise
  cases edit with
  | insert index s =>
      by_cases hindex : index ≤ ss.length
      · have hanswer : (perform ss (.insert index s)).2.answer = .done := by
          simp [perform, hindex, Answer.silent]
        rw [hanswer] at h
        exact absurd h (by simp [Answer.isFailure])
      · have hbeyond := Refused.insertBeyond (s := s) (Nat.lt_of_not_le hindex)
        rwa [answer_of_refused hbeyond]
  | remove index =>
      cases hs : ss[index]? with
      | none =>
          have hbeyond := Refused.removeBeyond (List.getElem?_eq_none_iff.mp hs)
          rwa [answer_of_refused hbeyond]
      | some s =>
          have hanswer : (perform ss (.remove index)).2.answer = .removed s := by
            simp [perform, hs, Answer.silent]
          rw [hanswer] at h
          exact absurd h (by simp [Answer.isFailure])
  | expand index extra =>
      cases hs : ss[index]? with
      | none =>
          have hbeyond : Refused ss (.expand index extra) .outOfRange :=
            .expandBeyond (List.getElem?_eq_none_iff.mp hs)
          rwa [answer_of_refused hbeyond]
      | some s =>
          cases he : s.expression? with
          | none =>
              have hnone : Refused ss (.expand index extra) .notApplicable := .notExpression hs he
              rwa [answer_of_refused hnone]
          | some e =>
              cases hexpand : (e.expand extra).result with
              | error cause =>
                  have hfails := Refused.expansionFails hs he hexpand
                  rwa [answer_of_refused hfails]
              | ok e' =>
                  have hanswer : (perform ss (.expand index extra)).2.answer = .done := by
                    cases s with
                    | expr f span =>
                        obtain rfl : f = e := Option.some.inj he
                        simp [perform, expandAt, hs, hexpand]
                    | _ => exact absurd he (by simp [Stmt.expression?])
                  rw [hanswer] at h
                  exact absurd h (by simp [Answer.isFailure])
  | _ => exact absurd h (by simp [perform, Answer.silent, Answer.isFailure])

/-- No edit of a list is reported as a wrapping: an expansion reports on its call only. -/
theorem level_ne_trace_of_mem_events {v : Event} (h : v ∈ (perform ss edit).2.events) :
    v.level ≠ .trace := by
  cases edit with
  | insert index s =>
      simp only [perform] at h
      split at h <;> exact absurd h (by simp [Answer.silent])
  | remove index =>
      simp only [perform] at h
      split at h <;> exact absurd h (by simp [Answer.silent])
  | expand index extra =>
      simp only [perform, expandAt] at h
      split at h
      · exact absurd h (by simp [Answer.silent])
      · split at h <;> exact Expr.level_ne_trace_of_mem_expand h
      · exact absurd h (by simp [Answer.silent])
  | _ => exact absurd h (by simp [perform, Answer.silent])

end ListEdit

/-! ## The body at the start -/

/-- The statements that a body stands for: none, a single one, or those of a block. -/
def bodyList : Option Stmt → List Stmt
  | none => []
  | some (.block b) => b.statements
  | some s => [s]

/-- The span of the block that a body is, or gets in a method with the given span. -/
def bodySpan (span : Span) : Option Stmt → Span
  | some (.block b) => b.span
  | _ => span

/-- Whether a body is a single statement without a block around it. -/
def isSingleStatement : Option Stmt → Bool
  | none => false
  | some (.block _) => false
  | some _ => true

namespace Method

/-- The edit of the list that a step is. -/
def Step.edit? : Step → Option ListEdit
  | .edit e => some e
  | _ => none

/-- The span that a step assigns. -/
def Step.span? : Step → Option Span
  | .setSpan span => some span
  | _ => none

/-- Whether a step leaves the body to the edits of its list. -/
def Step.isLive : Step → Bool
  | .setBody _ => false
  | _ => true

/-- The edits of the list in a run. -/
def edits (ts : List Step) : List ListEdit := ts.filterMap Step.edit?

variable {m : Method} {t : Step} {ts us vs : List Step} {ss : List Stmt} {span : Span}

theorem bodyBlock_eq (m : Method) : m.bodyBlock = ⟨bodyList m.body, bodySpan m.span m.body⟩ := by
  unfold bodyBlock
  cases m.body with
  | none => rfl
  | some s =>
      cases s with
      | block b => cases b; rfl
      | _ => rfl

theorem statements_eq (m : Method) : m.statements = bodyList m.body := by
  rw [statements, bodyBlock_eq]

theorem bodyEvents_eq (m : Method) :
    m.bodyEvents = if isSingleStatement m.body then [.bodyWrapped m.name] else [] := by
  unfold bodyEvents
  cases m.body with
  | none => rfl
  | some s => cases s <;> rfl

/-! ## One step -/

theorem statements_perform_edit (m : Method) (e : ListEdit) :
    (perform m (.edit e)).1.statements = ListEdit.onList m.statements e := by
  show (e.perform m.statements).1 = _
  rw [ListEdit.fst_perform]

/-- **What an edit makes of a body**: a block of what the plain operation gives, whatever the body
    was before. -/
theorem body_perform_edit (m : Method) (e : ListEdit) :
    (perform m (.edit e)).1.body =
      some (.block ⟨ListEdit.onList (bodyList m.body) e, bodySpan m.span m.body⟩) := by
  show some (Stmt.block ⟨(e.perform m.statements).1, m.bodyBlock.span⟩) = _
  rw [ListEdit.fst_perform, statements_eq, bodyBlock_eq]

/-- The events of an edit that are as verbose as the wrapping of a body: none but that one. -/
theorem trace_perform_edit (m : Method) (e : ListEdit) :
    (perform m (.edit e)).2.events.filter (fun v => v.level = .trace) =
      if isSingleStatement m.body then [.bodyWrapped m.name] else [] := by
  show (m.bodyEvents ++ (e.perform m.statements).2.events).filter _ = _
  have hedit : (e.perform m.statements).2.events.filter (fun v => v.level = .trace) = [] := by
    rw [List.filter_eq_nil_iff]
    intro v hv
    simpa using ListEdit.level_ne_trace_of_mem_events hv
  rw [List.filter_append, hedit, List.append_nil, bodyEvents_eq]
  split <;> rfl

/-! ## A whole run -/

theorem edits_append (us vs : List Step) : edits (us ++ vs) = edits us ++ edits vs :=
  List.filterMap_append

/-- Next to the edits, a run has nothing but assignments of a span. -/
theorem isLive_cases (h : t.isLive = true) : (∃ e, t = .edit e) ∨ ∃ span, t = .setSpan span := by
  cases t with
  | edit e => exact Or.inl ⟨e, rfl⟩
  | setSpan span => exact Or.inr ⟨span, rfl⟩
  | setBody body => exact absurd h (by simp [Step.isLive])

/-- The statements after a run are those of the plain list. -/
theorem statements_runFinal (h : ∀ t ∈ ts, t.isLive = true) :
    (runFinal perform m ts).statements = (edits ts).foldl ListEdit.onList (bodyList m.body) := by
  -- over the list of a method, not its body: a step may make the body a block
  rw [← statements_eq]
  induction ts generalizing m with
  | nil => rfl
  | cons t ts ih =>
      obtain ⟨ht, hrest⟩ := List.forall_mem_cons.mp h
      rw [runFinal_cons, ih hrest]
      rcases isLive_cases ht with ⟨e, rfl⟩ | ⟨span, rfl⟩
      · rw [statements_perform_edit]
        rfl
      · have hsame : (perform m (.setSpan span)).1.statements = m.statements := by
          rw [statements_eq, statements_eq]
          rfl
        rw [hsame]
        rfl

theorem body_runFinal_of_no_edit (h : ∀ t ∈ ts, t.isLive = true) (hnone : edits ts = []) :
    (runFinal perform m ts).body = m.body := by
  induction ts generalizing m with
  | nil => rfl
  | cons t ts ih =>
      obtain ⟨ht, hrest⟩ := List.forall_mem_cons.mp h
      rw [runFinal_cons]
      rcases isLive_cases ht with ⟨e, rfl⟩ | ⟨span, rfl⟩
      · exact absurd hnone (by simp [edits, Step.edit?])
      · exact ih hrest hnone

/-- A block stays a block with its span, and its statements go the way of the plain list. By
    induction over the run: an edit asks for the block that is there, so it has none to make. -/
theorem body_runFinal_of_block (h : ∀ t ∈ ts, t.isLive = true)
    (hblock : m.body = some (.block ⟨ss, span⟩)) :
    (runFinal perform m ts).body =
      some (.block ⟨(edits ts).foldl ListEdit.onList ss, span⟩) := by
  induction ts generalizing m ss with
  | nil => exact hblock
  | cons t ts ih =>
      obtain ⟨ht, hrest⟩ := List.forall_mem_cons.mp h
      rw [runFinal_cons]
      rcases isLive_cases ht with ⟨e, rfl⟩ | ⟨other, rfl⟩
      · have hnext : (perform m (.edit e)).1.body =
            some (.block ⟨ListEdit.onList ss e, span⟩) := by
          rw [body_perform_edit, hblock]
          rfl
        exact ih hrest hnext
      · exact ih hrest hblock

/-- **The body after a run with an edit.** Up to the first edit nothing happens to the body, the
    first edit makes it a block with the span that the method has by then, and the later steps find
    that block. -/
theorem body_runFinal {e : ListEdit} (h : ∀ t ∈ us ++ .edit e :: vs, t.isLive = true)
    (hfirst : edits us = []) :
    (runFinal perform m (us ++ .edit e :: vs)).body =
      some (.block ⟨(edits (us ++ .edit e :: vs)).foldl ListEdit.onList (bodyList m.body),
        bodySpan (runFinal perform m us).span m.body⟩) := by
  obtain ⟨hus, hrest⟩ := List.forall_mem_append.mp h
  obtain ⟨-, hvs⟩ := List.forall_mem_cons.mp hrest
  -- the steps before the first edit move the method and nothing else
  have hfirstEdit := body_perform_edit (runFinal perform m us) e
  rw [body_runFinal_of_no_edit hus hfirst] at hfirstEdit
  rw [runFinal_append, runFinal_cons, body_runFinal_of_block hvs hfirstEdit, edits_append, hfirst]
  rfl

/-- A single statement stays without a block until the first edit, and no longer. -/
theorem isSingleStatement_runFinal (h : ∀ t ∈ ts, t.isLive = true) :
    isSingleStatement (runFinal perform m ts).body =
      ((edits ts).isEmpty && isSingleStatement m.body) := by
  induction ts generalizing m with
  | nil => rfl
  | cons t ts ih =>
      obtain ⟨ht, hrest⟩ := List.forall_mem_cons.mp h
      rw [runFinal_cons]
      rcases isLive_cases ht with ⟨e, rfl⟩ | ⟨span, rfl⟩
      · -- the edit leaves a block, and the rest of the run keeps it
        rw [body_runFinal_of_block hrest (body_perform_edit m e)]
        rfl
      · exact ih hrest

/-- The name, the modifiers, the annotations and the mark of the front end are never touched. -/
theorem frame_runFinal (m : Method) (ts : List Step) :
    (runFinal perform m ts).name = m.name ∧ (runFinal perform m ts).modifiers = m.modifiers ∧
      (runFinal perform m ts).annotations = m.annotations ∧
      (runFinal perform m ts).synthetic = m.synthetic := by
  refine runFinal_induction perform (Q := fun _ => True)
    (P := fun s => s.name = m.name ∧ s.modifiers = m.modifiers ∧ s.annotations = m.annotations ∧
      s.synthetic = m.synthetic) ?_ ⟨rfl, rfl, rfl, rfl⟩ (fun _ _ => trivial)
  intro s t _ hs
  cases t <;> exact hs

/-- The span of the method is the one that was assigned last. -/
theorem span_runFinal (m : Method) (ts : List Step) :
    (runFinal perform m ts).span = (ts.filterMap Step.span?).getLastD m.span := by
  induction ts generalizing m with
  | nil => rfl
  | cons t ts ih =>
      rw [runFinal_cons, ih]
      cases t with
      | setSpan span => exact List.getLastD_cons.symm
      | _ => rfl

/-- **What a run of edits does to a method**, with assignments of its span in between. The plain
    list of a run starts with the statements that the body stands for and takes the same edits. -/
structure LiveBodyRun (m : Method) (ts : List Step) : Prop where
  /-- The statements are those of the plain list, at any point of a run. -/
  statements : (runFinal perform m ts).statements =
    (edits ts).foldl ListEdit.onList (bodyList m.body)
  /-- From the first edit on the body is one block: the plain list, with the span of the block that
      there was, or else the span that the method had at that moment. -/
  block : ∀ us e vs, ts = us ++ .edit e :: vs → edits us = [] →
    (runFinal perform m ts).body =
      some (.block ⟨(edits ts).foldl ListEdit.onList (bodyList m.body),
        bodySpan (runFinal perform m us).span m.body⟩)
  /-- Without an edit the body is not touched. -/
  untouched : edits ts = [] → (runFinal perform m ts).body = m.body
  /-- An edit out of range, of a statement that is no expression, or with an expansion that fails
      says so and leaves the list as it was. -/
  refused : ∀ us e vs answer, ts = us ++ .edit e :: vs →
    ListEdit.Refused (runFinal perform m us).statements e answer →
      (perform (runFinal perform m us) (.edit e)).2.answer = .edited answer ∧
        (perform (runFinal perform m us) (.edit e)).1.statements =
          (runFinal perform m us).statements
  /-- No other edit fails. -/
  failed : ∀ us e vs answer, ts = us ++ .edit e :: vs →
    (perform (runFinal perform m us) (.edit e)).2.answer = .edited answer →
      answer.isFailure = true → ListEdit.Refused (runFinal perform m us).statements e answer
  /-- An expansion changes no statement but the one at its index. -/
  elsewhere : ∀ us i extra vs, ts = us ++ .edit (.expand i extra) :: vs →
    (perform (runFinal perform m us) (.edit (.expand i extra))).1.statements.length =
        (runFinal perform m us).statements.length ∧
      ∀ j, j ≠ i →
        (perform (runFinal perform m us) (.edit (.expand i extra))).1.statements[j]? =
          (runFinal perform m us).statements[j]?
  /-- The name, the modifiers, the annotations and the mark of the front end stay. -/
  frame : (runFinal perform m ts).name = m.name ∧
    (runFinal perform m ts).modifiers = m.modifiers ∧
    (runFinal perform m ts).annotations = m.annotations ∧
    (runFinal perform m ts).synthetic = m.synthetic
  /-- The span of the method is the one assigned last. -/
  span : (runFinal perform m ts).span = (ts.filterMap Step.span?).getLastD m.span
  /-- The wrapping of a single statement is reported by the first edit, and nothing else is
      reported at the level of that event: not by another step, nor for another body. -/
  wrapping : ∀ us t vs, ts = us ++ t :: vs →
    (perform (runFinal perform m us) t).2.events.filter (fun v => v.level = .trace) =
      if t.edit?.isSome && (edits us).isEmpty && isSingleStatement m.body then
        [.bodyWrapped m.name]
      else []

/-- **Every run of edits is one on a plain list**, which a single block holds. -/
theorem liveBodyRun (m : Method) (ts : List Step) (h : ∀ t ∈ ts, t.isLive = true) :
    LiveBodyRun m ts where
  statements := statements_runFinal h
  block := by
    rintro us e vs rfl hfirst
    exact body_runFinal h hfirst
  untouched := body_runFinal_of_no_edit h
  refused := by
    intro us e vs answer _ hrefused
    constructor
    · exact congrArg Answer.edited (ListEdit.answer_of_refused hrefused)
    · rw [statements_perform_edit, ListEdit.onList_of_refused hrefused]
  failed := by
    intro us e vs answer _ hanswer hfailure
    obtain rfl : (e.perform (runFinal perform m us).statements).2.answer = answer :=
      Answer.edited.inj hanswer
    exact ListEdit.refused_of_isFailure hfailure
  elsewhere := by
    intro us i extra vs _
    rw [statements_perform_edit]
    exact ⟨List.length_modify _ _ _, fun j hj => List.getElem?_modify_ne _ _ (Ne.symm hj)⟩
  frame := frame_runFinal m ts
  span := span_runFinal m ts
  wrapping := by
    rintro us t vs rfl
    obtain ⟨hus, hrest⟩ := List.forall_mem_append.mp h
    obtain ⟨ht, -⟩ := List.forall_mem_cons.mp hrest
    rcases isLive_cases ht with ⟨e, rfl⟩ | ⟨span, rfl⟩
    · rw [trace_perform_edit, isSingleStatement_runFinal hus, (frame_runFinal m us).1]
      rfl
    · rfl

/-- The body `List list = Mock()` without a block: the method moves, the declaration is expanded and
    so gets a block where the method is by then, a removal beyond the end and an expansion of an
    assertion come to nothing, and the method moves on without its block. -/
theorem liveBodyRun_of_single :
    (∀ t ∈ [Step.setSpan ⟨3, 1, 5, 2⟩, .edit (.expand 0 [Build.int 1]),
        .edit (.push (Build.assertion Build.null none)), .edit (.remove 2), .edit (.expand 1 []),
        .setSpan .zero], t.isLive = true) ∧
      LiveBodyRun
        { name := "feature",
          body := some (Build.exprStmt (Build.declare (Build.typedVar "list" "List")
            (Build.thisCall "Mock" []))) }
        [.setSpan ⟨3, 1, 5, 2⟩, .edit (.expand 0 [Build.int 1]),
          .edit (.push (Build.assertion Build.null none)), .edit (.remove 2), .edit (.expand 1 []),
          .setSpan .zero] ∧
      (runFinal perform
        { name := "feature",
          body := some (Build.exprStmt (Build.declare (Build.typedVar "list" "List")
            (Build.thisCall "Mock" []))) }
        [.setSpan ⟨3, 1, 5, 2⟩, .edit (.expand 0 [Build.int 1]),
          .edit (.push (Build.assertion Build.null none)), .edit (.remove 2), .edit (.expand 1 []),
          .setSpan .zero]).body =
        some (.block ⟨[Build.exprStmt (Build.declare (Build.typedVar "list" "List")
            (Build.thisCall "Mock" [Build.classRef "List", Build.string "list", Build.int 1])),
          Build.assertion Build.null none], ⟨3, 1, 5, 2⟩⟩) :=
  ⟨by simp [Step.isLive], liveBodyRun _ _ (by simp [Step.isLive]), rfl⟩

end Method

end Desugar
