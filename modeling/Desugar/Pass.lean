import Desugar.Body
import Desugar.Config.Loading

/-!
# The pass over a class

All uses of helpers in a class are expanded: in the initial values of its fields, and in the
statements of its methods that are expressions. The pass also notes the interactions it comes by.

## Contents

* `Visit`, `Passed` — what was found and done, place by place.
* `SugarSettings.visit` — one expression.
* `SugarSettings.passField`, `SugarSettings.passStmt`, `SugarSettings.passMethod` — the parts of a
  class.
* `SugarSettings.pass` — a whole class, `passConfigured` — with the settings of a text.
-/

namespace Desugar

/-- What was found at a place, and what came of it. -/
structure Visit where
  place : String
  found : Option Helper
  /-- What came of the expansion, if a helper was found. -/
  result : Option (Except Error Unit)
  /-- Whether the expression, as the visit left it, is the placeholder. -/
  isPlaceholder : Bool

/-- What a pass gives: the part of the class that it worked on, and what it noted. -/
structure Passed (α : Type) where
  node : α
  visits : List Visit
  interactions : List String
  events : List Event

/-- Several parts one after the other. -/
def Passed.gather {α : Type} (ps : List (Passed α)) : Passed (List α) :=
  ⟨ps.map Passed.node, ps.flatMap Passed.visits, ps.flatMap Passed.interactions,
    ps.flatMap Passed.events⟩

namespace SugarSettings

/-- Expand an expression if it uses a helper. -/
def visit (names : SugarSettings) (place : String) (e : Expr) : Passed Expr :=
  match names.registry.find? e with
  | none => ⟨e, [⟨place, none, none, names.placeholderRef.isReferredBy e⟩], [], []⟩
  | some h =>
    match (e.expand []).result with
    | .ok e' =>
      ⟨e', [⟨place, some h, some (.ok ()), names.placeholderRef.isReferredBy e'⟩], [],
        (e.expand []).events⟩
    | .error cause =>
      ⟨e, [⟨place, some h, some (.error cause), names.placeholderRef.isReferredBy e⟩], [],
        (e.expand []).events⟩

/-- The pass over a field: its initial value, under the name of the field. -/
def passField (names : SugarSettings) (f : Field) : Passed Field :=
  match f.initialValue with
  | none => ⟨f, [], [], []⟩
  | some e =>
    let p := names.visit f.name e
    ⟨{ f with initialValue := some p.node }, p.visits, p.interactions, p.events⟩

/-- The pass over a statement. -/
def passStmt (names : SugarSettings) (place : String) (s : Stmt) : Passed Stmt :=
  let interactions := if s.isInteraction then [place] else []
  match s with
  | .expr e span =>
    let p := names.visit place e
    ⟨.expr p.node span, p.visits, interactions ++ p.interactions, p.events⟩
  | s => ⟨s, [], interactions, []⟩

/-- The place of a statement of a method. -/
def stmtPlace (method : String) (i : Nat) : String := method ++ "[" ++ toString i ++ "]"

/-- The pass over a method: its statements in order. The method gets a block for its body. -/
def passMethod (names : SugarSettings) (m : Method) : Passed Method :=
  let p := Passed.gather (m.statements.mapIdx fun i s => names.passStmt (stmtPlace m.name i) s)
  ⟨m.withStatements p.node, p.visits, p.interactions, m.bodyEvents ++ p.events⟩

/-- The pass over a class: its fields in order, then its methods. -/
def pass (names : SugarSettings) (c : ClassDecl) : Passed ClassDecl :=
  let fields := Passed.gather (c.fields.map names.passField)
  let methods := Passed.gather (c.methods.map names.passMethod)
  ⟨{ c with fields := fields.node, methods := methods.node }, fields.visits ++ methods.visits,
    fields.interactions ++ methods.interactions, fields.events ++ methods.events⟩

end SugarSettings

/-- The pass over a class with the settings of a text. -/
def passConfigured (text : String) (c : ClassDecl) : Except LoadError (Passed ClassDecl) :=
  match Settings.load text with
  | .ok settings => .ok (settings.sugar.pass c)
  | .error e => .error e

end Desugar
