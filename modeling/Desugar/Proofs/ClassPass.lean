import Desugar.Proofs.Reexpansion

/-!
# What a pass does to a class

A pass visits the initial values of the fields of a class and the expression statements of its
methods, each once and in order. What it makes of the class is what `Registry.expandUse` makes of
each of these expressions in its place; nothing else changes, except that every method gets a block
for its body. Hence a class without uses of helpers is kept, and a second pass changes nothing.

## Contents

* `ClassDecl.expressions`, `ClassDecl.mapExpressions` — the expressions that a pass visits, and the
  class with other expressions in their places.
* `SugarSettings.visit_eq`, `Registry.expandUse_cases` — what a visit does, how little it writes.
* `SugarSettings.node_pass` — the class after a pass.
* `SugarSettings.found_pass` — what the pass says it found.
* `SugarSettings.pass_pass` — a second pass.
* `SugarSettings.pass_of_no_uses` — a pass with nothing to expand.
-/

namespace Desugar

/-! ## The expressions of a class -/

/-- The statement with another expression in its place, if it is one. -/
def Stmt.mapExpression (f : Expr → Expr) : Stmt → Stmt
  | .expr e span => .expr (f e) span
  | s => s

/-- The field with another initial value, if it has one. -/
def Field.mapExpression (f : Expr → Expr) (d : Field) : Field :=
  { d with initialValue := d.initialValue.map f }

/-- The method with other expressions in its block. -/
def Method.mapExpressions (f : Expr → Expr) (m : Method) : Method :=
  m.withStatements (m.statements.map (Stmt.mapExpression f))

/-- Whether the body of a method is a block. -/
def Method.HasBlock (m : Method) : Prop := ∃ b, m.body = some (.block b)

namespace ClassDecl

/-- The expressions of a class that a pass visits, in order. -/
def expressions (c : ClassDecl) : List Expr :=
  c.fields.flatMap (fun d => d.initialValue.toList) ++
    c.methods.flatMap fun m => m.statements.flatMap fun s => s.expression?.toList

/-- The class with other expressions in these places. -/
def mapExpressions (f : Expr → Expr) (c : ClassDecl) : ClassDecl :=
  { c with
    fields := c.fields.map (Field.mapExpression f)
    methods := c.methods.map (Method.mapExpressions f) }

/-- The class with a block for the body of every method. -/
def withBlocks (c : ClassDecl) : ClassDecl :=
  { c with methods := c.methods.map fun m => m.withStatements m.statements }

/-- All expressions of a class have a property if those of its fields and of its methods have it. -/
theorem forall_mem_expressions {c : ClassDecl} {P : Expr → Prop} :
    (∀ e ∈ c.expressions, P e) ↔
      (∀ d ∈ c.fields, ∀ e ∈ d.initialValue, P e) ∧
        ∀ m ∈ c.methods, ∀ s ∈ m.statements, ∀ e ∈ s.expression?, P e := by
  simp only [expressions, List.mem_append, List.mem_flatMap, Option.mem_toList]
  constructor
  · intro h
    exact ⟨fun d hd e he => h e (.inl ⟨d, hd, he⟩),
      fun m hm s hs e he => h e (.inr ⟨m, hm, s, hs, he⟩)⟩
  · rintro ⟨hfields, hmethods⟩ e (⟨d, hd, he⟩ | ⟨m, hm, s, hs, he⟩)
    · exact hfields d hd e he
    · exact hmethods m hm s hs e he

end ClassDecl

/-! ### Maps one after the other -/

section
variable {f g : Expr → Expr}

theorem Stmt.mapExpression_mapExpression (s : Stmt) :
    (s.mapExpression f).mapExpression g = s.mapExpression (g ∘ f) := by
  cases s <;> rfl

@[simp]
theorem Method.statements_mapExpressions (m : Method) :
    (m.mapExpressions f).statements = m.statements.map (Stmt.mapExpression f) := rfl

@[simp]
theorem Method.name_mapExpressions (m : Method) : (m.mapExpressions f).name = m.name := rfl

theorem Method.mapExpressions_mapExpressions (m : Method) :
    (m.mapExpressions f).mapExpressions g = m.mapExpressions (g ∘ f) := by
  have hstatements : (m.mapExpressions f).statements.map (Stmt.mapExpression g) =
      m.statements.map (Stmt.mapExpression (g ∘ f)) := by
    rw [statements_mapExpressions, List.map_map]
    exact List.map_congr_left fun s _ => s.mapExpression_mapExpression
  exact congrArg m.withStatements hstatements

theorem ClassDecl.mapExpressions_mapExpressions (c : ClassDecl) :
    (c.mapExpressions f).mapExpressions g = c.mapExpressions (g ∘ f) := by
  have hfields : (c.fields.map (Field.mapExpression f)).map (Field.mapExpression g) =
      c.fields.map (Field.mapExpression (g ∘ f)) := by
    rw [List.map_map]
    refine List.map_congr_left fun d _ => ?_
    cases d
    simp [Field.mapExpression]
  have hmethods : (c.methods.map (Method.mapExpressions f)).map (Method.mapExpressions g) =
      c.methods.map (Method.mapExpressions (g ∘ f)) := by
    rw [List.map_map]
    exact List.map_congr_left fun m _ => m.mapExpressions_mapExpressions
  unfold mapExpressions
  rw [hfields, hmethods]

/-! ### Maps that change nothing -/

theorem Stmt.mapExpression_eq_self {s : Stmt} (h : ∀ e ∈ s.expression?, f e = e) :
    s.mapExpression f = s := by
  cases s with
  | expr e span => exact congrArg (Stmt.expr · span) (h e rfl)
  | _ => rfl

theorem Field.mapExpression_eq_self {d : Field} (h : ∀ e ∈ d.initialValue, f e = e) :
    d.mapExpression f = d := by
  cases d with
  | mk name type modifiers annotations initialValue span =>
      cases initialValue with
      | none => rfl
      | some e => rw [mapExpression, Option.map_some, h e rfl]

theorem Method.mapExpressions_eq_withStatements {m : Method}
    (h : ∀ s ∈ m.statements, ∀ e ∈ s.expression?, f e = e) :
    m.mapExpressions f = m.withStatements m.statements := by
  unfold mapExpressions
  rw [List.map_congr_left fun s hs => Stmt.mapExpression_eq_self (h s hs), List.map_id']

theorem ClassDecl.mapExpressions_eq_withBlocks {c : ClassDecl} (h : ∀ e ∈ c.expressions, f e = e) :
    c.mapExpressions f = c.withBlocks := by
  obtain ⟨hfields, hmethods⟩ := forall_mem_expressions.mp h
  have hfields : c.fields.map (Field.mapExpression f) = c.fields := by
    rw [List.map_congr_left fun d hd => Field.mapExpression_eq_self (hfields d hd), List.map_id']
  have hmethods : c.methods.map (Method.mapExpressions f) =
      c.methods.map fun m => m.withStatements m.statements :=
    List.map_congr_left fun m hm => Method.mapExpressions_eq_withStatements (hmethods m hm)
  unfold mapExpressions withBlocks
  rw [hfields, hmethods]

end

/-! ### Bodies that are blocks -/

theorem Method.withStatements_statements {m : Method} (h : m.HasBlock) :
    m.withStatements m.statements = m := by
  obtain ⟨b, hb⟩ := h
  cases m with
  | mk name modifiers annotations body synthetic span =>
      obtain rfl : body = some (.block b) := hb
      cases b
      rfl

theorem Method.bodyEvents_of_hasBlock {m : Method} (h : m.HasBlock) : m.bodyEvents = [] := by
  obtain ⟨b, hb⟩ := h
  unfold bodyEvents
  rw [hb]

theorem ClassDecl.withBlocks_of_hasBlock {c : ClassDecl} (h : ∀ m ∈ c.methods, m.HasBlock) :
    c.withBlocks = c := by
  unfold withBlocks
  rw [List.map_congr_left fun m hm => Method.withStatements_statements (h m hm), List.map_id']

/-! ## A pass is such a map -/

/-- What does not depend on the position of an element can be said of the list without positions. -/
theorem map_mapIdx_of_forall {α β γ : Type} {f : Nat → α → β} {φ : β → γ} {ψ : α → γ}
    (h : ∀ i a, φ (f i a) = ψ a) (as : List α) : (as.mapIdx f).map φ = as.map ψ := by
  refine List.ext_getElem (by simp) fun i hi hi' => ?_
  rw [List.getElem_map, List.getElem_mapIdx, List.getElem_map, h]

/-- The helpers that were found, expression by expression. -/
def Passed.found {α : Type} (p : Passed α) : List (Option Helper) := p.visits.map Visit.found

theorem Passed.found_gather {α : Type} (ps : List (Passed α)) :
    (gather ps).found = ps.flatMap found := List.map_flatMap

/-- A round over an expression writes the arguments of its inner call, or nothing. -/
theorem Registry.expandUse_cases (r : Registry) (extra : List Expr) (e : Expr) :
    r.expandUse extra e = e ∨ ∃ es, r.expandUse extra e = e.withArguments es := by
  unfold expandUse
  cases r.find? e with
  | none => exact .inl rfl
  | some helper =>
      cases h : (e.expand extra).result with
      | error cause => exact .inl (Expr.perform_expand_of_error h)
      | ok e' =>
          obtain ⟨c, type, -, -, -, he'⟩ := Expr.exists_type_of_expand_ok h
          exact .inr ⟨_, (Expr.perform_expand_of_ok h).1.trans he'⟩

theorem Expr.map_op_withArguments (e : Expr) (es : List Expr) :
    (e.withArguments es).binary?.map Binary.op = e.binary?.map Binary.op := by
  unfold withArguments
  cases e.innerCall? with
  | none => rfl
  | some c => cases e <;> rfl

namespace SugarSettings

variable (names : SugarSettings) (c : ClassDecl)

/-- **What a visit does**: one round over the expression, with what was found noted beside it. -/
theorem visit_eq (place : String) (e : Expr) :
    names.visit place e =
      { node := names.registry.expandUse [] e
        visits :=
          [{ place := place
             found := names.registry.find? e
             result := (names.registry.find? e).map fun _ => (e.expand []).result.map fun _ => ()
             isPlaceholder := names.placeholderRef.isReferredBy (names.registry.expandUse [] e) }]
        interactions := []
        events := if (names.registry.find? e).isSome then (e.expand []).events else [] } := by
  unfold visit Registry.expandUse
  cases names.registry.find? e with
  | none => rfl
  | some helper =>
      cases h : (e.expand []).result with
      | ok e' => simp only [(Expr.perform_expand_of_ok h).1]; rfl
      | error cause => simp only [Expr.perform_expand_of_error h]; rfl

theorem node_passField (d : Field) :
    (names.passField d).node = d.mapExpression (names.registry.expandUse []) := by
  cases d with
  | mk name type modifiers annotations initialValue span =>
      cases initialValue with
      | none => rfl
      | some e =>
          show Field.mk name type modifiers annotations (some (names.visit name e).node) span = _
          rw [node_visit]
          rfl

theorem node_passStmt (place : String) (s : Stmt) :
    (names.passStmt place s).node = s.mapExpression (names.registry.expandUse []) := by
  cases s with
  | expr e span => exact congrArg (Stmt.expr · span) (names.node_visit place e)
  | _ => rfl

theorem node_passMethod (m : Method) :
    (names.passMethod m).node = m.mapExpressions (names.registry.expandUse []) := by
  refine congrArg m.withStatements ?_
  exact map_mapIdx_of_forall (fun i s => names.node_passStmt _ s) m.statements

/-- **The class after a pass** is the class with every expression that was visited expanded in its
    place, if it uses a helper and can be. -/
theorem node_pass : (names.pass c).node = c.mapExpressions (names.registry.expandUse []) := by
  have hfields : (c.fields.map names.passField).map Passed.node =
      c.fields.map (Field.mapExpression (names.registry.expandUse [])) := by
    rw [List.map_map]
    exact List.map_congr_left fun d _ => names.node_passField d
  have hmethods : (c.methods.map names.passMethod).map Passed.node =
      c.methods.map (Method.mapExpressions (names.registry.expandUse [])) := by
    rw [List.map_map]
    exact List.map_congr_left fun m _ => names.node_passMethod m
  unfold pass Passed.gather ClassDecl.mapExpressions
  rw [hfields, hmethods]

/-! ### What a pass says it found -/

theorem found_visit (place : String) (e : Expr) :
    (names.visit place e).found = [names.registry.find? e] := by
  rw [visit_eq]
  rfl

theorem found_passField (d : Field) :
    (names.passField d).found = d.initialValue.toList.map names.registry.find? := by
  unfold passField
  cases d.initialValue with
  | none => rfl
  | some e => exact names.found_visit d.name e

theorem found_passStmt (place : String) (s : Stmt) :
    (names.passStmt place s).found = s.expression?.toList.map names.registry.find? := by
  cases s with
  | expr e span => exact names.found_visit place e
  | _ => rfl

theorem found_passMethod (m : Method) :
    (names.passMethod m).found =
      (m.statements.flatMap fun s => s.expression?.toList).map names.registry.find? := by
  have hfound := map_mapIdx_of_forall
    (fun i s => names.found_passStmt (stmtPlace m.name i) s) m.statements
  show (Passed.gather (m.statements.mapIdx _)).found = _
  rw [Passed.found_gather, List.map_flatMap, List.flatMap_def, List.flatMap_def, hfound]

/-- **Every expression is visited once, in order**, and what is found at it is the helper it
    uses. -/
theorem found_pass : (names.pass c).found = c.expressions.map names.registry.find? := by
  have hpass : (names.pass c).found =
      (Passed.gather (c.fields.map names.passField)).found ++
        (Passed.gather (c.methods.map names.passMethod)).found := List.map_append
  rw [hpass, Passed.found_gather, Passed.found_gather, List.flatMap_map, List.flatMap_map]
  unfold ClassDecl.expressions
  simp only [found_passField, found_passMethod, List.map_append, List.map_flatMap]

/-! ### Interactions -/

/-- An expansion keeps the operator of an expression, so it keeps what the statement states. -/
theorem isInteraction_mapExpression (s : Stmt) :
    (s.mapExpression (names.registry.expandUse [])).isInteraction = s.isInteraction := by
  cases s with
  | expr e span =>
      have hop : (names.registry.expandUse [] e).binary?.map Binary.op =
          e.binary?.map Binary.op := by
        rcases names.registry.expandUse_cases [] e with hsame | ⟨es, hwritten⟩
        · rw [hsame]
        · rw [hwritten, Expr.map_op_withArguments]
      have hany := congrArg (Option.any Operator.isInteraction) hop
      rw [Option.any_map, Option.any_map] at hany
      exact hany
  | _ => rfl

theorem interactions_passField (d : Field) : (names.passField d).interactions = [] := by
  unfold passField
  cases d.initialValue with
  | none => rfl
  | some e =>
      show (names.visit d.name e).interactions = []
      rw [visit_eq]

theorem interactions_passStmt (place : String) (s : Stmt) :
    (names.passStmt place s).interactions = if s.isInteraction then [place] else [] := by
  cases s with
  | expr e span =>
      show _ ++ (names.visit place e).interactions = _
      rw [visit_eq, List.append_nil]
  | _ => rfl

theorem interactions_passMethod (m : Method) :
    (names.passMethod m).interactions =
      (m.statements.mapIdx fun i s =>
        if s.isInteraction then [stmtPlace m.name i] else []).flatten := by
  show List.flatMap Passed.interactions (m.statements.mapIdx _) = _
  rw [List.flatMap_def]
  refine congrArg List.flatten (List.ext_getElem (by simp) fun i hi hi' => ?_)
  rw [List.getElem_map, List.getElem_mapIdx, List.getElem_mapIdx, interactions_passStmt]

/-- The statements of a method state the same interactions at the same places after a pass. -/
theorem interactions_passMethod_node (m : Method) :
    (names.passMethod (names.passMethod m).node).interactions =
      (names.passMethod m).interactions := by
  rw [interactions_passMethod, interactions_passMethod, node_passMethod]
  refine congrArg List.flatten (List.ext_getElem (by simp) fun i hi hi' => ?_)
  simp only [Method.statements_mapExpressions, Method.name_mapExpressions, List.getElem_mapIdx,
    List.getElem_map, isInteraction_mapExpression]

theorem interactions_pass :
    (names.pass c).interactions =
      c.methods.flatMap fun m => (names.passMethod m).interactions := by
  show (c.fields.map names.passField).flatMap Passed.interactions ++
    (c.methods.map names.passMethod).flatMap Passed.interactions = _
  rw [List.flatMap_map, List.flatMap_map, List.flatMap_eq_nil_iff.mpr, List.nil_append]
  exact fun d _ => names.interactions_passField d

/-! ## A second pass -/

/-- **A second pass changes nothing**: it leaves the class as the first one left it, in which every
    method has a block for its body, and comes by the same interactions. -/
theorem pass_pass :
    (names.pass (names.pass c).node).node = (names.pass c).node ∧
      (∀ m ∈ (names.pass c).node.methods, m.HasBlock) ∧
      (names.pass (names.pass c).node).interactions = (names.pass c).interactions := by
  refine ⟨?_, ?_, ?_⟩
  · -- a round over an expression is done after one time, so two of these maps are one
    have hround : names.registry.expandUse [] ∘ names.registry.expandUse [] =
        names.registry.expandUse [] := funext (names.registry.expandUse_expandUse [])
    rw [node_pass, node_pass, ClassDecl.mapExpressions_mapExpressions, hround]
  · rw [node_pass]
    intro m hm
    obtain ⟨original, -, rfl⟩ := List.mem_map.mp hm
    exact ⟨_, rfl⟩
  · -- fields state no interactions, and the methods keep their names and their operators
    have hmethods : (names.pass c).node.methods =
        c.methods.map fun m => (names.passMethod m).node := List.map_map
    rw [interactions_pass, interactions_pass, hmethods, List.flatMap_map]
    simp only [interactions_passMethod_node]

/-! ## Nothing to expand -/

section
variable {names c}

theorem expandUse_of_not_found {e : Expr} (h : names.registry.find? e = none) :
    names.registry.expandUse [] e = e := by
  unfold Registry.expandUse
  rw [h]

theorem events_visit_of_not_found {e : Expr} (h : names.registry.find? e = none) (place : String) :
    (names.visit place e).events = [] := by
  rw [visit_eq, h]
  rfl

theorem events_passField {d : Field}
    (h : ∀ e ∈ d.initialValue, names.registry.find? e = none) :
    (names.passField d).events = [] := by
  unfold passField
  cases hvalue : d.initialValue with
  | none => rfl
  | some e => exact events_visit_of_not_found (h e hvalue) d.name

theorem events_passStmt {s : Stmt} (h : ∀ e ∈ s.expression?, names.registry.find? e = none)
    (place : String) : (names.passStmt place s).events = [] := by
  cases s with
  | expr e span => exact events_visit_of_not_found (h e rfl) place
  | _ => rfl

theorem events_passMethod {m : Method}
    (h : ∀ s ∈ m.statements, ∀ e ∈ s.expression?, names.registry.find? e = none) :
    (names.passMethod m).events = m.bodyEvents := by
  have hevents : List.flatMap Passed.events
      (m.statements.mapIdx fun i s => names.passStmt (stmtPlace m.name i) s) = [] := by
    rw [List.flatMap_eq_nil_iff]
    intro p hp
    obtain ⟨i, hi, rfl⟩ := List.mem_mapIdx.mp hp
    exact events_passStmt (h _ (List.getElem_mem hi)) _
  -- what is left is the wrapping of a single statement
  show m.bodyEvents ++ List.flatMap Passed.events (m.statements.mapIdx _) = _
  rw [hevents, List.append_nil]

theorem events_pass (h : ∀ e ∈ c.expressions, names.registry.find? e = none) :
    (names.pass c).events = c.methods.flatMap Method.bodyEvents := by
  obtain ⟨hfields, hmethods⟩ := ClassDecl.forall_mem_expressions.mp h
  show (c.fields.map names.passField).flatMap Passed.events ++
    (c.methods.map names.passMethod).flatMap Passed.events = _
  rw [List.flatMap_map, List.flatMap_map, List.flatMap_eq_nil_iff.mpr fun d hd =>
    events_passField (hfields d hd), List.nil_append, List.flatMap_def, List.flatMap_def]
  exact congrArg List.flatten (List.map_congr_left fun m hm => events_passMethod (hmethods m hm))

/-- **A class without uses is kept**, but for the blocks that its methods get for their bodies, and
    nothing is reported but those. If the bodies are blocks already, the class is the same. -/
theorem pass_of_no_uses (h : ∀ e ∈ c.expressions, names.registry.find? e = none) :
    (names.pass c).node = c.withBlocks ∧
      (names.pass c).events = c.methods.flatMap Method.bodyEvents ∧
      ((∀ m ∈ c.methods, m.HasBlock) → (names.pass c).node = c ∧ (names.pass c).events = []) := by
  have hnode : (names.pass c).node = c.withBlocks := by
    rw [node_pass]
    exact ClassDecl.mapExpressions_eq_withBlocks fun e he => expandUse_of_not_found (h e he)
  refine ⟨hnode, events_pass h, fun hblocks => ⟨?_, ?_⟩⟩
  · rw [hnode, ClassDecl.withBlocks_of_hasBlock hblocks]
  · rw [events_pass h, List.flatMap_eq_nil_iff]
    exact fun m hm => Method.bodyEvents_of_hasBlock (hblocks m hm)

end

end SugarSettings

end Desugar
