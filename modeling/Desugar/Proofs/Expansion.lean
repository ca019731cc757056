import Desugar.Edit

/-!
# What an expansion does

An expansion replaces the arguments of one call and nothing else. This module says for every
expression which call that is, with which name and which type it is expanded, and when there is no
expansion. The functions that expand are unfolded here only; later modules go by these lemmas.

## Contents

* `Arguments.refill`, `Expr.withArguments` — other arguments in the same place.
* `Expr.usedCall?`, `Expr.usedName`, `Expr.statedType?`, `Expr.usedType?` — what a use of a helper
  says, read off the tree.
* `Expr.infer_of_type`, `Expr.expandAs_of_usedCall?`, `Expr.expand_of_usedCall?` — the functions in
  these terms, one lemma for each.
* `Expr.expand_outcome` — every outcome of an expansion.
-/

namespace Desugar

/-! ## Other arguments in the same place -/

namespace Arguments

/-- The arguments with other items, in the representation they have. The shared empty list has no
    place for any. -/
def refill : Arguments → List Expr → Arguments
  | .list _, es => .list es
  | .tuple _, es => .tuple es
  | .sharedEmpty, _ => .sharedEmpty

variable {a : Arguments} {es es' : List Expr}

theorem withItems?_of_not_shared (h : a.isSharedEmpty = false) :
    a.withItems? es = some (a.refill es) := by
  cases a with
  | list _ => rfl
  | tuple _ => rfl
  | sharedEmpty => exact absurd h (by simp [isSharedEmpty])

theorem items_refill (h : a.isSharedEmpty = false) : (a.refill es).items = es :=
  items_of_withItems? (withItems?_of_not_shared h)

@[simp]
theorem isSharedEmpty_refill : (a.refill es).isSharedEmpty = a.isSharedEmpty := by
  cases a <;> rfl

@[simp]
theorem refill_refill : (a.refill es).refill es' = a.refill es' := by
  cases a <;> rfl

@[simp]
theorem refill_items : a.refill a.items = a := by
  cases a <;> rfl

theorem eq_sharedEmpty_iff : a = .sharedEmpty ↔ a.isSharedEmpty = true := by
  cases a <;> simp [isSharedEmpty]

/-- Arguments that there are do not stand in the shared empty list. -/
theorem not_shared_of_items {first : Expr} {rest : List Expr} (h : a.items = first :: rest) :
    a.isSharedEmpty = false := by
  cases a with
  | list _ => rfl
  | tuple _ => rfl
  | sharedEmpty => exact absurd h (by simp)

end Arguments

/-- The call with other arguments. -/
def Call.refill (c : Call) (es : List Expr) : Call := { c with args := c.args.refill es }

@[simp]
theorem Call.args_refill (c : Call) (es : List Expr) : (c.refill es).args = c.args.refill es := rfl

@[simp]
theorem Call.refill_refill (c : Call) (es es' : List Expr) :
    (c.refill es).refill es' = c.refill es' := by
  simp [Call.refill]

@[simp]
theorem Call.refill_items (c : Call) : c.refill c.args.items = c := by
  cases c
  simp [Call.refill]

namespace Expr

variable {e : Expr} {c d : Call} {es es' : List Expr}

theorem eq_call_of_call? (h : e.call? = some c) : e = .call c := by
  cases e with
  | call _ => exact congrArg Expr.call (Option.some.inj h)
  | _ => exact absurd h (by simp [call?])

/-! ### The inner call is a place

What is put there is read back, putting twice is putting the last, and putting back what was there
changes nothing. -/

theorem innerCall?_withInnerCall (h : e.innerCall? = some c) :
    (e.withInnerCall d).innerCall? = some d := by
  cases e with
  | call _ => rfl
  | binary _ => rfl
  | _ => exact absurd h (by simp [innerCall?])

theorem withInnerCall_withInnerCall : (e.withInnerCall c).withInnerCall d = e.withInnerCall d := by
  cases e <;> rfl

theorem withInnerCall_innerCall? (h : e.innerCall? = some c) : e.withInnerCall c = e := by
  cases e with
  | call _ => exact congrArg Expr.call (Option.some.inj h).symm
  | binary b =>
      have hrhs : b.rhs = .call c := eq_call_of_call? h
      show Expr.binary { b with rhs := .call c } = Expr.binary b
      -- a record of the mutual syntax is its own update only once it is taken apart
      rw [← hrhs]
      cases b
      rfl
  | _ => rfl

/-- The expression with other arguments in its inner call, and everything else as it was. -/
def withArguments (e : Expr) (es : List Expr) : Expr :=
  match e.innerCall? with
  | some c => e.withInnerCall (c.refill es)
  | none => e

theorem withArguments_of_innerCall? (h : e.innerCall? = some c) :
    e.withArguments es = e.withInnerCall (c.refill es) := by
  simp only [withArguments, h]

theorem innerCall?_withArguments :
    (e.withArguments es).innerCall? = e.innerCall?.map fun c => c.refill es := by
  cases h : e.innerCall? with
  | none => simp only [withArguments, h, Option.map_none]
  | some c => rw [withArguments_of_innerCall? h, innerCall?_withInnerCall h]; rfl

@[simp]
theorem withArguments_withArguments :
    (e.withArguments es).withArguments es' = e.withArguments es' := by
  cases h : e.innerCall? with
  | none => simp only [withArguments, h]
  | some c =>
      have hnew : (e.withArguments es).innerCall? = some (c.refill es) := by
        rw [innerCall?_withArguments, h]; rfl
      rw [withArguments_of_innerCall? hnew, withArguments_of_innerCall? h,
        withArguments_of_innerCall? h, withInnerCall_withInnerCall, Call.refill_refill]

theorem withArguments_items (h : e.innerCall? = some c) : e.withArguments c.args.items = e := by
  rw [withArguments_of_innerCall? h, Call.refill_items, withInnerCall_innerCall? h]

/-! ## What a use says -/

/-- The call that an expansion works on: the expression itself, or the value of a declaration. -/
def usedCall? : Expr → Option Call
  | .call c => some c
  | .binary b => if b.isDeclaration then b.rhs.call? else none
  | _ => none

/-- The name that a use is expanded with. Only a variable on the left side gives it one. -/
def usedName : Expr → String
  | .binary b =>
    match b.lhs with
    | .var v => v.name
    | _ => "(unknown)"
  | _ => "(unnamed)"

/-- The type that stands before the variable on the left side. -/
def statedType? : Expr → Option TypeRef
  | .binary b =>
    match b.lhs with
    | .var v => v.declaredType
    | _ => none
  | _ => none

/-- The type that a use is expanded with: the first argument of its call, else the stated type at
    the place where it is written. -/
def usedType? (e : Expr) (c : Call) : Option Expr :=
  c.args.items.head?.or (e.statedType?.map fun t => .classRef t t.span)

theorem isDeclaration_of_usedCall? {b : Binary} (h : (Expr.binary b).usedCall? = some c) :
    b.isDeclaration = true := by
  by_cases hb : b.isDeclaration = true
  · exact hb
  · rw [usedCall?, if_neg hb] at h; exact absurd h (by simp)

theorem innerCall?_of_usedCall? (h : e.usedCall? = some c) : e.innerCall? = some c := by
  cases e with
  | call _ => exact h
  | binary b => rwa [usedCall?, if_pos (isDeclaration_of_usedCall? h)] at h
  | _ => exact absurd h (by simp [usedCall?])

/-- The left side does not change with the arguments, so neither does what it says. -/
theorem usedName_withInnerCall : (e.withInnerCall c).usedName = e.usedName := by
  cases e <;> rfl

theorem usedCall?_withInnerCall (h : e.usedCall? = some c) :
    (e.withInnerCall d).usedCall? = some d := by
  cases e with
  | call _ => rfl
  | binary b =>
      show (if b.isDeclaration then some d else none) = some d
      rw [if_pos (isDeclaration_of_usedCall? h)]
  | _ => exact absurd h (by simp [usedCall?])

/-! ## Inference -/

theorem inferType_call (c : Call) (fallback : Option Expr) :
    (Expr.call c).inferType fallback =
      match c.args.items.head?.or fallback with
      | some type => .ok type
      | none => ⟨.error (.typeNotInferred c.span), [.typeNotInferred c.span]⟩ := by
  have hargs : (Expr.call c).arguments? = some c.args.items := rfl
  unfold inferType
  rw [hargs]
  cases c.args.items with
  | nil => cases fallback <;> rfl
  | cons first rest => rfl

theorem inferType_of_no_call (h : e.call? = none) (fallback : Option Expr) :
    e.inferType fallback = .fail .inferenceNeedsCall := by
  unfold inferType arguments?
  rw [h]
  rfl

theorem declaredName_eq_usedName (b : Binary) : b.declaredName = (Expr.binary b).usedName := by
  obtain ⟨lhs, op, rhs, declaration, span⟩ := b
  cases lhs <;> rfl

theorem declaredType?_eq_statedType? (b : Binary) :
    b.declaredType? = (Expr.binary b).statedType?.map fun t => .classRef t t.span := by
  obtain ⟨lhs, op, rhs, declaration, span⟩ := b
  cases lhs <;> rfl

/-- The name and the type of an expression with an inner call, in one equation. -/
theorem infer_of_innerCall? (h : e.innerCall? = some c) :
    e.infer =
      match e.usedType? c with
      | some type => .ok ⟨e.usedName, type⟩
      | none => ⟨.error (.typeNotInferred c.span), [.typeNotInferred c.span]⟩ := by
  cases e with
  | call d =>
      obtain rfl : d = c := Option.some.inj h
      -- a bare call has no left side, so there is no type to fall back to
      show ((Expr.call d).inferType none).map (fun type => (⟨unnamed, type⟩ : Inferred)) = _
      rw [inferType_call]
      simp only [usedType?, statedType?, Option.map_none]
      cases d.args.items.head?.or none <;> rfl
  | binary b =>
      have hrhs : b.rhs = .call c := eq_call_of_call? h
      show (b.rhs.inferType b.declaredType?).map
        (fun type => (⟨b.declaredName, type⟩ : Inferred)) = _
      rw [hrhs, inferType_call, declaredType?_eq_statedType?, declaredName_eq_usedName, usedType?]
      cases c.args.items.head?.or _ <;> rfl
  | _ => exact absurd h (by simp [innerCall?])

theorem infer_of_type {type : Expr} (h : e.innerCall? = some c) (ht : e.usedType? c = some type) :
    e.infer = .ok ⟨e.usedName, type⟩ := by
  rw [infer_of_innerCall? h, ht]

theorem infer_of_no_type (h : e.innerCall? = some c) (ht : e.usedType? c = none) :
    e.infer = ⟨.error (.typeNotInferred c.span), [.typeNotInferred c.span]⟩ := by
  rw [infer_of_innerCall? h, ht]

theorem infer_of_no_call (h : e.innerCall? = none) : e.infer = .fail .inferenceNeedsCall := by
  cases e with
  | call _ => exact absurd h (by simp [innerCall?])
  | binary b =>
      show (b.rhs.inferType b.declaredType?).map _ = _
      rw [inferType_of_no_call h]
      rfl
  | _ => rfl

end Expr

/-! ## Expansion -/

theorem Outcome.map_map {α β γ : Type} (o : Outcome α) (f : α → β) (g : β → γ) :
    (o.map f).map g = o.map fun a => g (f a) := by
  obtain ⟨result, events⟩ := o
  cases result with
  | error cause => rfl
  | ok a => simp [Outcome.map, Outcome.after]

theorem Outcome.map_bind {α β γ : Type} (o : Outcome α) (f : α → Outcome β) (g : β → γ) :
    (o.bind f).map g = o.bind fun a => (f a).map g := by
  obtain ⟨result, events⟩ := o
  cases result with
  | error cause => rfl
  | ok a =>
      cases hf : f a with
      | mk result' events' => cases result' <;> simp [Outcome.map, Outcome.after, hf]

namespace Call

variable {c : Call}

/-- A call with arguments of its own is expanded in place. -/
theorem expandAs_of_not_shared (h : c.args.isSharedEmpty = false) (name : String) (type : Expr)
    (extra : List Expr) :
    c.expandAs name type extra =
      ⟨.ok (c.refill (expandedArguments name type extra)),
        [.expanded c.method name (extra.length + 2)]⟩ := by
  unfold expandAs
  rw [Arguments.withItems?_of_not_shared h]
  simp only [Arguments.items_refill h, expandedArguments, List.length_cons]
  rfl

/-- A call on the shared empty list is refused. -/
theorem expandAs_of_shared (h : c.args.isSharedEmpty = true) (name : String) (type : Expr)
    (extra : List Expr) :
    c.expandAs name type extra =
      ⟨.error .sharedArguments, [.sharedListRefused c.method c.span]⟩ := by
  unfold expandAs
  rw [Arguments.withItems?_eq_none_iff.mpr h]

end Call

namespace Expr

variable {e : Expr} {c : Call}

/-- An expansion with a given name and type is one of the used call, put back into its place. -/
theorem expandAs_of_usedCall? (h : e.usedCall? = some c) (name : String) (type : Expr)
    (extra : List Expr) :
    e.expandAs name type extra = (c.expandAs name type extra).map e.withInnerCall := by
  cases e with
  | call d =>
      obtain rfl : d = c := Option.some.inj h
      rfl
  | binary b =>
      have hrhs : b.rhs = .call c := eq_call_of_call? (innerCall?_of_usedCall? h)
      show (if b.isDeclaration then
          (b.rhs.expandOwnCall name type extra).map (fun rhs => Expr.binary { b with rhs := rhs })
        else .fail .expansionNeedsCall) = _
      rw [if_pos (isDeclaration_of_usedCall? h), hrhs]
      exact Outcome.map_map (c.expandAs name type extra) Expr.call _
  | _ => exact absurd h (by simp [usedCall?])

theorem expandAs_of_no_call (h : e.usedCall? = none) (name : String) (type : Expr)
    (extra : List Expr) : e.expandAs name type extra = .fail .expansionNeedsCall := by
  cases e with
  | call _ => exact absurd h (by simp [usedCall?])
  | binary b =>
      show (if b.isDeclaration then
          (b.rhs.expandOwnCall name type extra).map (fun rhs => Expr.binary { b with rhs := rhs })
        else .fail .expansionNeedsCall) = _
      by_cases hb : b.isDeclaration = true
      · -- here the right side is what is no call
        rw [usedCall?, if_pos hb] at h
        rw [if_pos hb]
        cases hrhs : b.rhs with
        | call _ => rw [hrhs] at h; exact absurd h (by simp [call?])
        | _ => rfl
      · rw [if_neg hb]
  | _ => rfl

/-- An expansion first infers and then expands the used call, put back into its place. -/
theorem expand_of_usedCall? (h : e.usedCall? = some c) (extra : List Expr) :
    e.expand extra =
      e.infer.bind fun i => (c.expandAs i.name i.type extra).map e.withInnerCall := by
  cases e with
  | call d =>
      obtain rfl : d = c := Option.some.inj h
      rfl
  | binary b =>
      have hrhs : b.rhs = .call c := eq_call_of_call? (innerCall?_of_usedCall? h)
      show (if b.isDeclaration then
          b.infer.bind fun i =>
            (b.rhs.expandOwnCall i.name i.type extra).map (fun rhs => { b with rhs := rhs })
        else .fail .expansionNeedsDeclaration).map Expr.binary = _
      rw [if_pos (isDeclaration_of_usedCall? h), Outcome.map_bind, hrhs]
      -- the inference is the same on both sides; what is left is where its result is put
      refine congrArg _ (funext fun i => ?_)
      show (((c.expandAs i.name i.type extra).map Expr.call).map _).map Expr.binary = _
      rw [Outcome.map_map, Outcome.map_map]
      rfl
  | _ => exact absurd h (by simp [usedCall?])

/-- Where there is no call to work on, the expansion fails at once and reports nothing. -/
theorem expand_of_no_call (h : e.usedCall? = none) (extra : List Expr) :
    ∃ cause : Error, cause.isInternal = true ∧ e.expand extra = .fail cause := by
  cases e with
  | call _ => exact absurd h (by simp [usedCall?])
  | binary b =>
      by_cases hb : b.isDeclaration = true
      · -- a declaration of something else passes the check and fails in the inference
        have hrhs : (Expr.binary b).innerCall? = none := by rwa [usedCall?, if_pos hb] at h
        have hinfer : b.infer = .fail .inferenceNeedsCall := infer_of_no_call hrhs
        refine ⟨.inferenceNeedsCall, rfl, ?_⟩
        show (b.expand extra).map Expr.binary = _
        unfold Binary.expand
        rw [if_pos hb, hinfer]
        rfl
      · refine ⟨.expansionNeedsDeclaration, rfl, ?_⟩
        show (b.expand extra).map Expr.binary = _
        unfold Binary.expand
        rw [if_neg hb]
        rfl
  | _ => exact ⟨.inferenceNeedsCall, rfl, rfl⟩

/-- A binary expression that declares nothing is not expanded, whatever its right side is. -/
theorem expand_of_undeclared {b : Binary} (h : b.isDeclaration = false) (extra : List Expr) :
    (Expr.binary b).expand extra = .fail .expansionNeedsDeclaration := by
  show (b.expand extra).map Expr.binary = _
  unfold Binary.expand
  rw [h]
  rfl

/-- Any other expression is expanded with what is inferred from it. -/
theorem expand_of_declared (h : ∀ b, e.binary? = some b → b.isDeclaration = true)
    (extra : List Expr) :
    e.expand extra = e.infer.bind fun i => e.expandAs i.name i.type extra := by
  cases e with
  | binary b =>
      have hb : b.isDeclaration = true := h b rfl
      show (if b.isDeclaration then
          b.infer.bind fun i =>
            (b.rhs.expandOwnCall i.name i.type extra).map (fun rhs => { b with rhs := rhs })
        else .fail .expansionNeedsDeclaration).map Expr.binary = _
      rw [if_pos hb, Outcome.map_bind]
      refine congrArg _ (funext fun i => ?_)
      show _ = if b.isDeclaration then
          (b.rhs.expandOwnCall i.name i.type extra).map
            (fun rhs => Expr.binary { b with rhs := rhs })
        else .fail .expansionNeedsCall
      rw [if_pos hb, Outcome.map_map]
  | _ => rfl

/-- As a call on its own, a binary expression says nothing, and any other says what it says. -/
theorem inferCall_eq (e : Expr) :
    e.inferCall = if e.binary?.isSome then .fail .inferenceNeedsCall else e.infer := by
  cases e <;> rfl

theorem expandCall_eq (e : Expr) (extra : List Expr) :
    e.expandCall extra =
      if e.binary?.isSome then .fail .inferenceNeedsCall else e.expand extra := by
  cases e <;> rfl

/-- Without a type the expansion fails at the span of the used call. -/
theorem expand_of_no_type (h : e.usedCall? = some c) (ht : e.usedType? c = none)
    (extra : List Expr) :
    e.expand extra = ⟨.error (.typeNotInferred c.span), [.typeNotInferred c.span]⟩ := by
  rw [expand_of_usedCall? h, infer_of_no_type (innerCall?_of_usedCall? h) ht]
  rfl

/-- With a type, the used call is expanded with it and with the name of the use. -/
theorem expand_of_type {type : Expr} (h : e.usedCall? = some c) (ht : e.usedType? c = some type)
    (extra : List Expr) :
    e.expand extra = (c.expandAs e.usedName type extra).map e.withInnerCall := by
  rw [expand_of_usedCall? h, infer_of_type (innerCall?_of_usedCall? h) ht]
  rfl

/-- A use with a type and with arguments of its own is expanded. -/
theorem expand_of_not_shared {type : Expr} (h : e.usedCall? = some c)
    (ht : e.usedType? c = some type) (hs : c.args.isSharedEmpty = false) (extra : List Expr) :
    e.expand extra =
      ⟨.ok (e.withArguments (expandedArguments e.usedName type extra)),
        [.expanded c.method e.usedName (extra.length + 2)]⟩ := by
  rw [expand_of_type h ht, Call.expandAs_of_not_shared hs,
    withArguments_of_innerCall? (innerCall?_of_usedCall? h)]
  rfl

/-- A use with a type and the shared empty list is refused. -/
theorem expand_of_shared {type : Expr} (h : e.usedCall? = some c)
    (ht : e.usedType? c = some type) (hs : c.args.isSharedEmpty = true) (extra : List Expr) :
    e.expand extra = ⟨.error .sharedArguments, [.sharedListRefused c.method c.span]⟩ := by
  rw [expand_of_type h ht, Call.expandAs_of_shared hs]
  rfl

/-! ## Every outcome -/

/-- An argument wins over any stated type. -/
theorem usedType?_of_items {first : Expr} {rest : List Expr} (h : c.args.items = first :: rest) :
    e.usedType? c = some first := by
  rw [usedType?, h]
  rfl

theorem usedType?_of_stated {t : TypeRef} (h : c.args.items = []) (ht : e.statedType? = some t) :
    e.usedType? c = some (.classRef t t.span) := by
  rw [usedType?, h, ht]
  rfl

theorem usedType?_of_nothing (h : c.args.items = []) (ht : e.statedType? = none) :
    e.usedType? c = none := by
  rw [usedType?, h, ht]
  rfl

/-- **Every outcome of an expansion.** Without a call to work on it fails for an internal cause. A
    first argument is the type, whatever type is stated. Without arguments the stated type is,
    unless the arguments are the shared empty list, which is an internal cause. With neither, the
    failure is the user's and lies at the call, be its arguments shared or not. The arguments of an
    expanded call are the type, the name of the use as a literal, and the extra ones; nothing else
    of the expression changes, and nothing at all when the expansion fails. -/
theorem expand_outcome (e : Expr) (extra : List Expr) :
    (e.usedCall? = none →
      ∃ cause, (e.expand extra).result = .error cause ∧ cause.isInternal = true) ∧
    (∀ c, e.usedCall? = some c →
      (∀ first rest, c.args.items = first :: rest →
        (e.expand extra).result =
          .ok (e.withArguments (first :: .literal (.string e.usedName) .unknown :: extra))) ∧
      (∀ t, c.args.items = [] → e.statedType? = some t →
        (c.args ≠ .sharedEmpty →
          (e.expand extra).result = .ok (e.withArguments
            (.classRef t t.span :: .literal (.string e.usedName) .unknown :: extra))) ∧
        (c.args = .sharedEmpty →
          ∃ cause, (e.expand extra).result = .error cause ∧ cause.isInternal = true)) ∧
      (c.args.items = [] → e.statedType? = none →
        (e.expand extra).result = .error (.typeNotInferred c.span))) ∧
    (∀ cause, (e.expand extra).result = .error cause →
      (Edit.perform e (.expand extra)).1 = e) := by
  refine ⟨fun h => ?_, fun c h => ⟨fun first rest hitems => ?_, fun t hitems hstated => ⟨?_, ?_⟩,
    fun hitems hstated => ?_⟩, fun cause hfail => ?_⟩
  · obtain ⟨cause, hinternal, hexpand⟩ := expand_of_no_call h extra
    exact ⟨cause, by rw [hexpand]; rfl, hinternal⟩
  · -- arguments that there are cannot be the shared empty list, so nothing is refused
    have hs : c.args.isSharedEmpty = false := Arguments.not_shared_of_items hitems
    rw [expand_of_not_shared h (usedType?_of_items hitems) hs]
    rfl
  · intro hne
    have hs : c.args.isSharedEmpty = false :=
      Bool.eq_false_iff.mpr fun hs => hne (Arguments.eq_sharedEmpty_iff.mpr hs)
    rw [expand_of_not_shared h (usedType?_of_stated hitems hstated) hs]
    rfl
  · intro heq
    rw [expand_of_shared h (usedType?_of_stated hitems hstated)
      (Arguments.eq_sharedEmpty_iff.mp heq)]
    exact ⟨.sharedArguments, rfl, rfl⟩
  · rw [expand_of_no_type h (usedType?_of_nothing hitems hstated)]
  · show (Edit.settle e (e.expand extra)).1 = e
    rw [Edit.settle, hfail]

/-- `List list = Mock()` with an empty tuple becomes `List list = Mock(List, "list", 1)`, and the
    tuple stays one. -/
theorem expand_outcome_of_tuple :
    ((Build.declare (Build.typedVar "list" "List")
        (.call ⟨.receiver Build.this, some "Mock", .tuple [], .zero⟩)).expand
          [Build.int 1]).result =
      .ok (Build.declare (Build.typedVar "list" "List")
        (.call ⟨.receiver Build.this, some "Mock",
          .tuple [Build.classRef "List", Build.string "list", Build.int 1], .zero⟩)) :=
  (((expand_outcome _ [Build.int 1]).2.1 _ rfl).2.1 _ rfl rfl).1 (by simp)

end Expr

end Desugar
