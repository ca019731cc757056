import Desugar.Proofs.LiveBody
import Desugar.Proofs.Registry
import Desugar.Proofs.Rewriting
import Mathlib.Logic.Relation

/-!
# Built trees

The syntax allows a declaration by any operator, and calls on the shared empty list. Trees that come
from `Build` have neither, at any depth, and no rewrite brings them in: an expansion writes back
what stood in the tree or was given to it, an edit of a list moves statements that are there or are
brought along. In such a tree no statement is both an interaction and a use of a helper, and a use
of a helper is never the cause of an internal failure.

## Contents

* `Node.children`, `Node.Contains` — the nodes of a tree, at any depth.
* `Node.Built` — the trees that come from `Build`.
* `Node.Replaces`, `Node.Rewrites` — one rewrite, anywhere in a tree.
* `Node.Regular` — the invariant; `Node.Built.regular` and `Node.Rewrites.regular` establish and
  keep it.
* `Node.uses_of_built` — what holds of every node after any run of rewrites.
-/

namespace Desugar

/-- New items are the only ones there are afterwards; the shared empty list has none. -/
theorem Arguments.mem_of_mem_refill {a : Arguments} {es : List Expr} {e : Expr}
    (h : e ∈ (a.refill es).items) : e ∈ es := by
  cases a with
  | list _ => exact h
  | tuple _ => exact h
  | sharedEmpty => exact absurd h (by simp [refill])

/-! ## The nodes of a tree -/

/-- The nodes right below what a call is made on. -/
def Callee.children : Callee → List Node
  | .receiver e => [.expr e]
  | .owner _ => []

namespace Node

/-- The nodes right below a node, in the order of the source. -/
def children : Node → List Node
  | .classDecl c => c.fields.map .field ++ c.methods.map .method
  | .method m => m.body.toList.map .stmt
  | .field f => f.initialValue.toList.map .expr
  | .stmt (.expr e _) => [.expr e]
  | .stmt (.block b) => b.statements.map .stmt
  | .stmt (.assertion condition message _) => .expr condition :: message.toList.map .expr
  | .expr (.property target _ _) => [.expr target]
  | .expr (.call c) => c.callee.children ++ c.args.items.map .expr
  | .expr (.binary b) => [.expr b.lhs, .expr b.rhs]
  | .expr (.closure c) => c.statements.map .stmt
  | .expr _ => []

/-- Whether a node stands in the tree of another one, at any depth. -/
def Contains : Node → Node → Prop := Relation.ReflTransGen fun n k => k ∈ n.children

/-! ## Trees that are built -/

/-- The trees that come from `Build`, with any spans given to their expressions afterwards. The
    constructors of `Build` that are not named here are cases of those that are. A declaration is
    built when the trees in it are. -/
inductive Built : Node → Prop
  | var {name} : Built (.expr (Build.var name))
  | typedVar {name type} : Built (.expr (Build.typedVar name type))
  | classRef {type} : Built (.expr (Build.classRef type))
  | property {target name} : Built (.expr target) → Built (.expr (Build.property target name))
  | literal {value} : Built (.expr (Build.literal value))
  | call {receiver method args} : Built (.expr receiver) → (∀ a ∈ args, Built (.expr a)) →
      Built (.expr (Build.call receiver method args))
  | staticCall {owner method args} : (∀ a ∈ args, Built (.expr a)) →
      Built (.expr (Build.staticCall owner method args))
  | binary {lhs op rhs} : Built (.expr lhs) → Built (.expr rhs) →
      Built (.expr (Build.binary lhs op rhs))
  | declaration {kind lhs rhs} : Built (.expr lhs) → Built (.expr rhs) →
      Built (.expr (Build.declaration kind lhs rhs))
  | closure {statements} : (∀ s ∈ statements, Built (.stmt s)) →
      Built (.expr (Build.closure statements))
  | withSpan {e span} : Built (.expr e) → Built (.expr (e.withSpan span))
  | exprStmt {e} : Built (.expr e) → Built (.stmt (Build.exprStmt e))
  | block {statements} : (∀ s ∈ statements, Built (.stmt s)) →
      Built (.stmt (Build.block statements))
  | assertion {condition message} : Built (.expr condition) →
      (∀ e ∈ message, Built (.expr e)) → Built (.stmt (Build.assertion condition message))
  | method {m} : (∀ s ∈ m.body, Built (.stmt s)) → Built (.method m)
  | field {f} : (∀ e ∈ f.initialValue, Built (.expr e)) → Built (.field f)
  | classDecl {c} : (∀ f ∈ c.fields, Built (.field f)) → (∀ m ∈ c.methods, Built (.method m)) →
      Built (.classDecl c)

/-! ## Rewrites anywhere in a tree -/

/-- The last node is the one before it with the second node in a place of the first. -/
inductive Replaces : Node → Node → Node → Node → Prop
  | target {e e' name span} :
      Replaces (.expr e) (.expr e') (.expr (.property e name span)) (.expr (.property e' name span))
  | receiver {c e e'} : c.callee = .receiver e →
      Replaces (.expr e) (.expr e') (.expr (.call c))
        (.expr (.call { c with callee := .receiver e' }))
  | argument {c i e e'} : c.args.items[i]? = some e →
      Replaces (.expr e) (.expr e') (.expr (.call c))
        (.expr (.call (c.refill (c.args.items.set i e'))))
  | lhs {b e'} :
      Replaces (.expr b.lhs) (.expr e') (.expr (.binary b)) (.expr (.binary { b with lhs := e' }))
  | rhs {b e'} :
      Replaces (.expr b.rhs) (.expr e') (.expr (.binary b)) (.expr (.binary { b with rhs := e' }))
  | closureStmt {c b i s s'} : c.body = some b → b.statements[i]? = some s →
      Replaces (.stmt s) (.stmt s') (.expr (.closure c))
        (.expr (.closure { c with body := some { b with statements := b.statements.set i s' } }))
  | exprStmt {e e' span} :
      Replaces (.expr e) (.expr e') (.stmt (.expr e span)) (.stmt (.expr e' span))
  | blockStmt {b i s s'} : b.statements[i]? = some s →
      Replaces (.stmt s) (.stmt s') (.stmt (.block b))
        (.stmt (.block { b with statements := b.statements.set i s' }))
  | condition {e e' message span} :
      Replaces (.expr e) (.expr e') (.stmt (.assertion e message span))
        (.stmt (.assertion e' message span))
  | message {condition e e' span} :
      Replaces (.expr e) (.expr e') (.stmt (.assertion condition (some e) span))
        (.stmt (.assertion condition (some e') span))
  | body {m s s'} : m.body = some s →
      Replaces (.stmt s) (.stmt s') (.method m) (.method { m with body := some s' })
  | initialValue {f e e'} : f.initialValue = some e →
      Replaces (.expr e) (.expr e') (.field f) (.field { f with initialValue := some e' })
  | field {c i f f'} : c.fields[i]? = some f →
      Replaces (.field f) (.field f') (.classDecl c)
        (.classDecl { c with fields := c.fields.set i f' })
  | method {c i m m'} : c.methods[i]? = some m →
      Replaces (.method m) (.method m') (.classDecl c)
        (.classDecl { c with methods := c.methods.set i m' })

end Node

/-- The expressions that an edit of an expression brings with it. -/
def Edit.given : Edit → List Expr
  | .expandAs _ type extra => type :: extra
  | .expand extra => extra
  | .expandCall extra => extra
  | .expandDeclaration extra => extra
  | .expandInnerCall _ type extra => type :: extra
  | .setArguments args => args.items
  | .pushArgument arg => [arg]
  | _ => []

/-- The nodes that an edit of a list brings with it. -/
def ListEdit.given : ListEdit → List Node
  | .push s => [.stmt s]
  | .insert _ s => [.stmt s]
  | .expand _ extra => extra.map .expr
  | _ => []

namespace Node

/-- One rewrite: an expansion of an expression of the tree, or an edit of one of its lists of
    statements. What it brings with it is built. -/
inductive Rewrites : Node → Node → Prop
  | expansion {e t} : t.isExpansion = true → (∀ x ∈ t.given, Built (.expr x)) →
      Rewrites (.expr e) (.expr (Edit.perform e t).1)
  | closureEdit {c} {edit : ListEdit} : (∀ x ∈ edit.given, Built x) →
      Rewrites (.expr (.closure c)) (.expr (.closure (Closure.perform c (.edit edit)).1))
  | blockEdit {b} {edit : ListEdit} : (∀ x ∈ edit.given, Built x) →
      Rewrites (.stmt (.block b))
        (.stmt (.block { b with statements := (edit.perform b.statements).1 }))
  | methodEdit {m} {edit : ListEdit} : (∀ x ∈ edit.given, Built x) →
      Rewrites (.method m) (.method (Method.perform m (.edit edit)).1)
  | inside {k k' n n'} : Replaces k k' n n' → Rewrites k k' → Rewrites n n'

/-! ## The invariant -/

/-- Whether a node is regular in itself: a call has arguments of its own, and a declaration is an
    assignment. -/
def isRegular : Node → Bool
  | .expr (.call c) => !c.args.isSharedEmpty
  | .expr (.binary b) => !b.isDeclaration || b.op == .assign
  | _ => true

/-- All nodes of a tree are regular. -/
def Regular (n : Node) : Prop := ∀ k, n.Contains k → k.isRegular = true

variable {n n' k k' : Node} {e : Expr} {c : Call} {es : List Expr}

theorem Regular.of_contains (h : n.Regular) (hk : n.Contains k) : k.Regular :=
  fun x hx => h x (Relation.ReflTransGen.trans hk hx)

theorem regular_iff : n.Regular ↔ n.isRegular = true ∧ ∀ k ∈ n.children, k.Regular := by
  constructor
  · intro h
    exact ⟨h n .refl, fun k hk => h.of_contains (.single hk)⟩
  · rintro ⟨hn, hchildren⟩ k hk
    rcases Relation.ReflTransGen.cases_head hk with rfl | ⟨x, hx, hxk⟩
    · exact hn
    · exact hchildren x hx k hxk

/-! ### Replacing a child -/

theorem mem_map_set {α : Type} {f : α → Node} {as : List α} {a : α} {i : Nat} {x : Node}
    (h : x ∈ (as.set i a).map f) : x = f a ∨ x ∈ as.map f := by
  obtain ⟨y, hy, rfl⟩ := List.mem_map.mp h
  rcases List.mem_or_eq_of_mem_set hy with hy | rfl
  · exact Or.inr (List.mem_map_of_mem hy)
  · exact Or.inl rfl

theorem mem_map_of_getElem? {α : Type} {f : α → Node} {as : List α} {a : α} {i : Nat}
    (h : as[i]? = some a) : f a ∈ as.map f :=
  List.mem_map_of_mem (List.mem_of_getElem? h)

/-- What is replaced is a child. -/
theorem Replaces.mem (h : Replaces k k' n n') : k ∈ n.children := by
  cases h with
  | target => exact List.mem_singleton.mpr rfl
  | receiver hc => simp [children, hc, Callee.children]
  | argument hi => exact List.mem_append_right _ (mem_map_of_getElem? hi)
  | lhs => simp [children]
  | rhs => simp [children]
  | closureStmt hb hi =>
      simp only [children, Closure.statements, hb]
      exact mem_map_of_getElem? hi
  | exprStmt => exact List.mem_singleton.mpr rfl
  | blockStmt hi => exact mem_map_of_getElem? hi
  | condition => simp [children]
  | message => simp [children]
  | body hb => simp [children, hb]
  | initialValue hv => simp [children, hv]
  | field hi => exact List.mem_append_left _ (mem_map_of_getElem? hi)
  | method hi => exact List.mem_append_right _ (mem_map_of_getElem? hi)

/-- The children afterwards are the new one and others that were there before. -/
theorem Replaces.mem_children (h : Replaces k k' n n') {x : Node} (hx : x ∈ n'.children) :
    x = k' ∨ x ∈ n.children := by
  cases h with
  | target => exact Or.inl (List.mem_singleton.mp hx)
  | receiver hc =>
      rcases List.mem_append.mp hx with hx | hx
      · exact Or.inl (List.mem_singleton.mp hx)
      · exact Or.inr (List.mem_append_right _ hx)
  | argument hi =>
      rcases List.mem_append.mp hx with hx | hx
      · exact Or.inr (List.mem_append_left _ hx)
      · obtain ⟨y, hy, rfl⟩ := List.mem_map.mp hx
        have hset := List.mem_map_of_mem (f := Node.expr) (Arguments.mem_of_mem_refill hy)
        exact (mem_map_set hset).imp id (List.mem_append_right _)
  | lhs => exact (List.mem_cons.mp hx).imp id (List.mem_cons_of_mem _)
  | rhs =>
      rcases List.mem_cons.mp hx with rfl | hx
      · exact Or.inr (List.mem_cons_self ..)
      · exact Or.inl (List.mem_singleton.mp hx)
  | closureStmt hb hi =>
      simp only [children, Closure.statements, hb] at hx ⊢
      exact mem_map_set hx
  | exprStmt => exact Or.inl (List.mem_singleton.mp hx)
  | blockStmt hi => exact mem_map_set hx
  | condition => exact (List.mem_cons.mp hx).imp id (List.mem_cons_of_mem _)
  | message =>
      rcases List.mem_cons.mp hx with rfl | hx
      · exact Or.inr (List.mem_cons_self ..)
      · exact Or.inl (List.mem_singleton.mp hx)
  | body hb => exact Or.inl (List.mem_singleton.mp hx)
  | initialValue hv => exact Or.inl (List.mem_singleton.mp hx)
  | field hi =>
      rcases List.mem_append.mp hx with hx | hx
      · exact (mem_map_set hx).imp id (List.mem_append_left _)
      · exact Or.inr (List.mem_append_right _ hx)
  | method hi =>
      rcases List.mem_append.mp hx with hx | hx
      · exact Or.inr (List.mem_append_left _ hx)
      · exact (mem_map_set hx).imp id (List.mem_append_right _)

theorem Replaces.isRegular (h : Replaces k k' n n') (hn : n.isRegular = true) :
    n'.isRegular = true := by
  cases h with
  | argument => simpa [Node.isRegular] using hn
  | _ => exact hn

theorem Replaces.regular (h : Replaces k k' n n') (hn : n.Regular) (hk : k'.Regular) :
    n'.Regular := by
  obtain ⟨hself, hchildren⟩ := regular_iff.mp hn
  refine regular_iff.mpr ⟨h.isRegular hself, fun x hx => ?_⟩
  rcases h.mem_children hx with rfl | hx
  · exact hk
  · exact hchildren x hx

/-! ### Trees that are built are regular -/

/-- A position does not matter. -/
theorem regular_withSpan (span : Span) (h : (expr e).Regular) :
    (expr (e.withSpan span)).Regular := by
  rw [regular_iff] at h ⊢
  cases e <;> exact h

/-- **A tree that is built is regular.** By induction over how it was built: every constructor makes
    a regular node, and the nodes right below it are regular by then. -/
theorem Built.regular (h : n.Built) : n.Regular := by
  induction h with
  | withSpan _ ih => exact regular_withSpan _ ih
  | var => exact regular_iff.mpr ⟨rfl, by simp [children, Build.var]⟩
  | typedVar => exact regular_iff.mpr ⟨rfl, by simp [children, Build.typedVar]⟩
  | classRef => exact regular_iff.mpr ⟨rfl, by simp [children, Build.classRef]⟩
  | literal => exact regular_iff.mpr ⟨rfl, by simp [children, Build.literal]⟩
  | property _ ih =>
      exact regular_iff.mpr ⟨rfl, by simpa [children, Build.property] using ih⟩
  | call _ _ hreceiver hargs =>
      refine regular_iff.mpr ⟨rfl, ?_⟩
      simpa [children, Build.call, Callee.children] using ⟨hreceiver, hargs⟩
  | staticCall _ hargs =>
      refine regular_iff.mpr ⟨rfl, ?_⟩
      simpa [children, Build.staticCall, Callee.children] using hargs
  | binary _ _ hlhs hrhs =>
      refine regular_iff.mpr ⟨rfl, ?_⟩
      simpa [children, Build.binary] using ⟨hlhs, hrhs⟩
  | declaration _ _ hlhs hrhs =>
      refine regular_iff.mpr ⟨rfl, ?_⟩
      simpa [children, Build.declaration] using ⟨hlhs, hrhs⟩
  | closure _ ih =>
      refine regular_iff.mpr ⟨rfl, ?_⟩
      simpa [children, Build.closure, Closure.statements] using ih
  | exprStmt _ ih => exact regular_iff.mpr ⟨rfl, by simpa [children, Build.exprStmt] using ih⟩
  | block _ ih => exact regular_iff.mpr ⟨rfl, by simpa [children, Build.block] using ih⟩
  | assertion _ _ hcondition hmessage =>
      refine regular_iff.mpr ⟨rfl, ?_⟩
      simpa [children, Build.assertion] using ⟨hcondition, hmessage⟩
  | method _ ih => exact regular_iff.mpr ⟨rfl, by simpa [children] using ih⟩
  | field _ ih => exact regular_iff.mpr ⟨rfl, by simpa [children] using ih⟩
  | classDecl _ _ hfields hmethods =>
      refine regular_iff.mpr ⟨rfl, ?_⟩
      intro k hk
      rcases List.mem_append.mp hk with hk | hk
      · obtain ⟨f, hf, rfl⟩ := List.mem_map.mp hk
        exact hfields f hf
      · obtain ⟨m, hm, rfl⟩ := List.mem_map.mp hk
        exact hmethods m hm

/-! ### Rewrites keep a tree regular -/

theorem contains_innerCall (h : e.innerCall? = some c) : (expr e).Contains (.expr (.call c)) := by
  cases e with
  | call d =>
      obtain rfl : d = c := Option.some.inj h
      exact .refl
  | binary b =>
      have hrhs : b.rhs = .call c := Expr.eq_call_of_call? h
      exact .single (by simp [children, hrhs])
  | _ => exact absurd h (by simp [Expr.innerCall?])

theorem not_shared_of_regular (h : (expr e).Regular) (hc : e.innerCall? = some c) :
    c.args.isSharedEmpty = false := by
  simpa [isRegular] using h _ (contains_innerCall hc)

/-- Other arguments that are regular keep a regular expression so. -/
theorem regular_withArguments (h : (expr e).Regular) (hes : ∀ x ∈ es, (expr x).Regular) :
    (expr (e.withArguments es)).Regular := by
  cases hc : e.innerCall? with
  | none => rwa [show e.withArguments es = e by simp only [Expr.withArguments, hc]]
  | some c =>
      have hcall : (expr (.call c)).Regular := h.of_contains (contains_innerCall hc)
      -- what the call is made on was regular before, the arguments are by assumption
      have hrefill : (expr (.call (c.refill es))).Regular := by
        obtain ⟨hself, hchildren⟩ := regular_iff.mp hcall
        refine regular_iff.mpr ⟨by simpa [isRegular] using hself, fun x hx => ?_⟩
        rcases List.mem_append.mp hx with hx | hx
        · exact hchildren x (List.mem_append_left _ hx)
        · obtain ⟨y, hy, rfl⟩ := List.mem_map.mp hx
          exact hes y (Arguments.mem_of_mem_refill hy)
      rw [Expr.withArguments_of_innerCall? hc]
      cases e with
      | call _ => exact hrefill
      | binary b => exact Replaces.rhs.regular h hrefill
      | _ => exact absurd hc (by simp [Expr.innerCall?])

/-- The type that is inferred stood in the tree, or names a type and has nothing below it. -/
theorem regular_of_infer {name : String} {type : Expr} (h : (expr e).Regular)
    (hinfer : e.infer.result = .ok ⟨name, type⟩) : (expr type).Regular := by
  cases hc : e.innerCall? with
  | none =>
      rw [Expr.infer_of_no_call hc] at hinfer
      exact absurd hinfer (by simp)
  | some c =>
      cases ht : e.usedType? c with
      | none =>
          rw [Expr.infer_of_no_type hc ht] at hinfer
          exact absurd hinfer (by simp)
      | some type' =>
          rw [Expr.infer_of_type hc ht] at hinfer
          obtain rfl : type' = type := congrArg Inferred.type (Except.ok.inj hinfer)
          -- an argument that is copied as the type may hold a whole tree, a stated type holds none
          cases hitems : c.args.items with
          | cons first rest =>
              obtain rfl : first = type' :=
                Option.some.inj ((Expr.usedType?_of_items hitems).symm.trans ht)
              have harg : (expr (.call c)).Contains (.expr first) :=
                .single (List.mem_append_right _ (by simp [hitems]))
              exact (h.of_contains (contains_innerCall hc)).of_contains harg
          | nil =>
              cases hstated : e.statedType? with
              | none => exact absurd ht (by simp [Expr.usedType?_of_nothing hitems hstated])
              | some t =>
                  obtain rfl : Expr.classRef t t.span = type' :=
                    Option.some.inj ((Expr.usedType?_of_stated hitems hstated).symm.trans ht)
                  exact regular_iff.mpr ⟨rfl, by simp [children]⟩

/-- An expansion keeps an expression regular, if what it brings with it is. -/
theorem regular_perform_expansion {t : Edit} (h : (expr e).Regular) (ht : t.isExpansion = true)
    (hgiven : ∀ x ∈ t.given, (expr x).Regular) : (expr (Edit.perform e t).1).Regular := by
  rcases Edit.perform_expansion (e := e) ht with
    ⟨-, hsame⟩ | ⟨name, type, extra, hexpands, -, hwrites, -⟩
  · rwa [hsame]
  · have hname : (expr (.literal (.string name) .unknown)).Regular :=
      regular_iff.mpr ⟨rfl, by simp [children]⟩
    -- the type is one of the given expressions, or it is inferred from the tree
    have hwritten : (expr type).Regular ∧ ∀ x ∈ extra, (expr x).Regular := by
      cases hexpands with
      | given => exact List.forall_mem_cons.mp hgiven
      | givenInner => exact List.forall_mem_cons.mp hgiven
      | inferred hinfer => exact ⟨regular_of_infer h hinfer, hgiven⟩
      | inferredCall hinfer => exact ⟨regular_of_infer h hinfer, hgiven⟩
      | inferredDeclaration hinfer => exact ⟨regular_of_infer h hinfer, hgiven⟩
    rw [hwrites]
    refine regular_withArguments h ?_
    exact List.forall_mem_cons.mpr ⟨hwritten.1, List.forall_mem_cons.mpr ⟨hname, hwritten.2⟩⟩

theorem regular_expanded {s : Stmt} {extra : List Expr} (h : (stmt s).Regular)
    (hextra : ∀ x ∈ extra, (expr x).Regular) : (stmt (s.expanded extra)).Regular := by
  cases s with
  | expr e span =>
      have he : (expr e).Regular := h.of_contains (.single (List.mem_singleton.mpr rfl))
      have he' := regular_perform_expansion (t := .expand extra) he rfl hextra
      exact Replaces.exprStmt.regular h he'
  | _ => exact h

/-- An edit keeps a list of regular statements so, if what it brings with it is regular. -/
theorem regular_onList {ss : List Stmt} {edit : ListEdit} (h : ∀ s ∈ ss, (stmt s).Regular)
    (hgiven : ∀ x ∈ edit.given, x.Regular) : ∀ s ∈ edit.onList ss, (stmt s).Regular := by
  intro s hs
  cases edit with
  | view => exact h s hs
  | push s' =>
      rcases List.mem_append.mp hs with hs | hs
      · exact h s hs
      · obtain rfl := List.mem_singleton.mp hs
        exact hgiven _ (List.mem_singleton.mpr rfl)
  | insert index s' =>
      by_cases hindex : index ≤ ss.length
      · rcases (List.mem_insertIdx hindex).mp hs with rfl | hs
        · exact hgiven _ (List.mem_singleton.mpr rfl)
        · exact h s hs
      · have hsame := List.insertIdx_of_length_lt (x := s') (Nat.lt_of_not_le hindex)
        exact h s (hsame ▸ hs)
  | remove index => exact h s (List.mem_of_mem_eraseIdx hs)
  | clear => exact absurd hs List.not_mem_nil
  | expand index extra =>
      have hextra : ∀ x ∈ extra, (expr x).Regular := fun x hx => hgiven _ (List.mem_map_of_mem hx)
      obtain ⟨j, hj⟩ := List.mem_iff_getElem?.mp hs
      -- the statement is one of the list, expanded if it stands at the index
      change (ss.modify index (Stmt.expanded extra))[j]? = some s at hj
      rw [List.getElem?_modify] at hj
      obtain ⟨s', hs', rfl⟩ := Option.map_eq_some_iff.mp hj
      have hreg : (stmt s').Regular := h s' (List.mem_of_getElem? hs')
      by_cases hij : index = j
      · simpa only [if_pos hij] using regular_expanded hreg hextra
      · simpa only [if_neg hij] using hreg

theorem regular_block {b : Block} :
    (stmt (.block b)).Regular ↔ ∀ s ∈ b.statements, (stmt s).Regular := by
  rw [regular_iff]
  simp [isRegular, children]

theorem regular_closure {c : Closure} :
    (expr (.closure c)).Regular ↔ ∀ s ∈ c.statements, (stmt s).Regular := by
  rw [regular_iff]
  simp [isRegular, children]

theorem regular_method {m : Method} :
    (method m).Regular ↔ ∀ s, m.body = some s → (stmt s).Regular := by
  rw [regular_iff]
  simp [isRegular, children]

theorem regular_bodyList {m : Method} (h : (method m).Regular) :
    ∀ s ∈ bodyList m.body, (stmt s).Regular := by
  intro s hs
  cases hbody : m.body with
  | none => exact absurd hs (by simp [hbody, bodyList])
  | some body =>
      have hreg : (stmt body).Regular := regular_method.mp h body hbody
      rw [hbody] at hs
      cases body with
      | block b => exact regular_block.mp hreg s hs
      | _ =>
          obtain rfl := List.mem_singleton.mp hs
          exact hreg

/-- **A rewrite keeps a tree regular**, wherever in the tree it is made. By induction over the way
    down to the place of the rewrite. -/
theorem Rewrites.regular (h : Rewrites n n') (hn : n.Regular) : n'.Regular := by
  induction h with
  | expansion ht hgiven =>
      exact regular_perform_expansion hn ht fun x hx => (hgiven x hx).regular
  | @closureEdit c edit hgiven =>
      have hstatements := regular_closure.mp hn
      -- without a recorded block there is no list to edit
      cases hbody : c.body with
      | none => simpa [Closure.perform, hbody] using hn
      | some b =>
          rw [Closure.statements, hbody] at hstatements
          simp only [Closure.perform, hbody, ListEdit.fst_perform]
          exact regular_closure.mpr
            (regular_onList hstatements fun x hx => (hgiven x hx).regular)
  | @blockEdit b edit hgiven =>
      rw [ListEdit.fst_perform]
      exact regular_block.mpr
        (regular_onList (regular_block.mp hn) fun x hx => (hgiven x hx).regular)
  | @methodEdit m edit hgiven =>
      refine regular_method.mpr fun s hs => ?_
      -- the body is a new block, with the statements that it stood for
      rw [Method.body_perform_edit] at hs
      obtain rfl := Option.some.inj hs
      exact regular_block.mpr
        (regular_onList (regular_bodyList hn) fun x hx => (hgiven x hx).regular)
  | inside hrep _ ih => exact hrep.regular hn (ih (hn.of_contains (.single hrep.mem)))

/-! ## Uses of helpers in a regular tree -/

/-- A regular use of a helper is no interaction: it is a call, or it assigns. -/
theorem not_isInteraction_of_isUsedBy {helper : Helper} {span : Span} (h : (expr e).Regular)
    (hused : helper.isUsedBy e = true) : (Stmt.expr e span).isInteraction = false := by
  cases e with
  | binary b =>
      have hdeclares : b.isDeclaration = true := by
        obtain ⟨c, hc, -⟩ := Helper.isUsedBy_iff.mp hused
        exact Expr.isDeclaration_of_usedCall? hc
      have hassign : b.op = .assign := by
        simpa [isRegular, hdeclares] using h _ .refl
      show b.op.isInteraction = false
      rw [hassign]
      rfl
  | _ => rfl

/-- The expansion of a regular use of a helper succeeds, or the user left out the type. -/
theorem expand_of_isUsedBy {helper : Helper} (h : (expr e).Regular)
    (hused : helper.isUsedBy e = true) (extra : List Expr) :
    (∃ e', (e.expand extra).result = .ok e') ∨
      ∃ span, (e.expand extra).result = .error (.typeNotInferred span) := by
  obtain ⟨c, hc, -⟩ := Helper.isUsedBy_iff.mp hused
  have hs : c.args.isSharedEmpty = false :=
    not_shared_of_regular h (Expr.innerCall?_of_usedCall? hc)
  cases ht : e.usedType? c with
  | none => exact Or.inr ⟨c.span, by rw [Expr.expand_of_no_type hc ht]⟩
  | some type => exact Or.inl ⟨_, by rw [Expr.expand_of_not_shared hc ht hs]⟩

/-- **Uses of helpers in a tree that was built and rewritten.** After any run of expansions and
    edits, anywhere in a tree that was built and with built additions, no expression statement of
    the tree is both an interaction and a use of a helper, and the expansion of a use of a helper
    succeeds or fails for a cause that is the user's. -/
theorem uses_of_built (hbuilt : n.Built) (hrun : Relation.ReflTransGen Rewrites n n') :
    (∀ e span, n'.Contains (.stmt (.expr e span)) →
      ¬ ((Stmt.expr e span).isInteraction = true ∧ ∃ h : Helper, h.isUsedBy e = true)) ∧
    (∀ e, n'.Contains (.expr e) → ∀ h : Helper, h.isUsedBy e = true → ∀ extra,
      (∃ e', (e.expand extra).result = .ok e') ∨
        ∃ span, (e.expand extra).result = .error (.typeNotInferred span)) := by
  have hregular : n'.Regular := by
    induction hrun with
    | refl => exact hbuilt.regular
    | tail _ hstep ih => exact hstep.regular ih
  constructor
  · rintro e span hcontains ⟨hinteraction, h, hused⟩
    have he : (expr e).Regular :=
      (hregular.of_contains hcontains).of_contains (.single (List.mem_singleton.mpr rfl))
    rw [not_isInteraction_of_isUsedBy he hused] at hinteraction
    exact absurd hinteraction (by simp)
  · intro e hcontains h hused extra
    exact expand_of_isUsedBy (hregular.of_contains hcontains) hused extra

/-- The closure `{ List list = Mock() }`: the declaration inside it is expanded, and `2 * f()` is
    put behind it. That is an interaction, so it is no use of any helper. -/
theorem uses_of_built_closure :
    Built (.expr (Build.closure [Build.exprStmt (Build.declare (Build.typedVar "list" "List")
        (Build.thisCall "Mock" []))])) ∧
      Relation.ReflTransGen Rewrites
        (.expr (Build.closure [Build.exprStmt (Build.declare (Build.typedVar "list" "List")
          (Build.thisCall "Mock" []))]))
        (.expr (Build.closure [Build.exprStmt (Build.declare (Build.typedVar "list" "List")
            (Build.thisCall "Mock" [Build.classRef "List", Build.string "list"])),
          Build.exprStmt (Build.binary (Build.int 2) .multiply (Build.thisCall "f" []))])) ∧
      ¬ ∃ h : Helper,
        h.isUsedBy (Build.binary (Build.int 2) .multiply (Build.thisCall "f" [])) = true := by
  have hbuilt : Built (.expr (Build.closure [Build.exprStmt (Build.declare
      (Build.typedVar "list" "List") (Build.thisCall "Mock" []))])) := by
    refine .closure (List.forall_mem_singleton.mpr (.exprStmt (.declaration .typedVar ?_)))
    exact .call .var (by simp)
  have hadded : Built (.stmt (Build.exprStmt
      (Build.binary (Build.int 2) .multiply (Build.thisCall "f" [])))) :=
    .exprStmt (.binary .literal (.call .var (by simp)))
  have hstmt : Rewrites
      (.stmt (Build.exprStmt (Build.declare (Build.typedVar "list" "List")
        (Build.thisCall "Mock" []))))
      (.stmt (Build.exprStmt (Build.declare (Build.typedVar "list" "List")
        (Build.thisCall "Mock" [Build.classRef "List", Build.string "list"])))) := by
    refine .inside .exprStmt ?_
    exact .expansion (t := .expand []) rfl (by simp [Edit.given])
  have hexpand : Rewrites
      (.expr (Build.closure [Build.exprStmt (Build.declare (Build.typedVar "list" "List")
        (Build.thisCall "Mock" []))]))
      (.expr (Build.closure [Build.exprStmt (Build.declare (Build.typedVar "list" "List")
        (Build.thisCall "Mock" [Build.classRef "List", Build.string "list"]))])) :=
    .inside (.closureStmt (i := 0) (b := ⟨[_], .unknown⟩) rfl rfl) hstmt
  have hpush : Rewrites
      (.expr (Build.closure [Build.exprStmt (Build.declare (Build.typedVar "list" "List")
        (Build.thisCall "Mock" [Build.classRef "List", Build.string "list"]))]))
      (.expr (Build.closure [Build.exprStmt (Build.declare (Build.typedVar "list" "List")
          (Build.thisCall "Mock" [Build.classRef "List", Build.string "list"])),
        Build.exprStmt (Build.binary (Build.int 2) .multiply (Build.thisCall "f" []))])) :=
    @Rewrites.closureEdit _ (.push (Build.exprStmt
      (Build.binary (Build.int 2) .multiply (Build.thisCall "f" []))))
      (List.forall_mem_singleton.mpr hadded)
  have hrun := Relation.ReflTransGen.tail (.single hexpand) hpush
  refine ⟨hbuilt, hrun, fun hused => ?_⟩
  refine (uses_of_built hbuilt hrun).1 _ .unknown (.single ?_) ⟨rfl, hused⟩
  exact List.mem_cons_of_mem _ (List.mem_singleton.mpr rfl)

end Node

end Desugar
