import Desugar.Decimal.Shortest
import Desugar.Event

/-!
# Directives

A directive says how verbose the events of some part of a program may be: those of a target, inside
a span, with a field. Directives have an order, the more specific ones first, and two directives
that differ in their verbosity alone are the same place in it.

## Contents

* `Verbosity` — how much is let through.
* `FieldPattern`, `FieldMatch` — a field that has to be there, perhaps with a value.
* `Directive` with its order (`Directive.specificity`) and its text (`Directive.render`).
* `StaticDirective` — what of a directive can be decided without looking at spans and values.
-/

namespace Desugar

/-- The order of optional things: nothing comes before something. -/
def compareOption {α : Type} (cmp : α → α → Ordering) : Option α → Option α → Ordering
  | none, none => .eq
  | none, some _ => .lt
  | some _, none => .gt
  | some a, some b => cmp a b

/-! ## Verbosity -/

/-- How much is let through: nothing, or everything up to a level. -/
inductive Verbosity
  | off
  | upTo (l : Level)
  deriving DecidableEq

namespace Verbosity

/-- The place in the order from silent to most verbose. -/
def rank : Verbosity → Nat
  | .off => 0
  | .upTo l => l.rank

/-- The word for a verbosity. -/
def word : Verbosity → String
  | .off => "off"
  | .upTo .error => "error"
  | .upTo .warn => "warn"
  | .upTo .info => "info"
  | .upTo .debug => "debug"
  | .upTo .trace => "trace"

/-- All verbosities in order. -/
def all : List Verbosity :=
  [.off, .upTo .error, .upTo .warn, .upTo .info, .upTo .debug, .upTo .trace]

/-- Whether events of a level are let through. -/
def lets (v : Verbosity) (l : Level) : Bool := decide (l.rank ≤ v.rank)

end Verbosity

/-! ## Fields -/

/-- A value that a field has to have. -/
inductive FieldPattern
  | bool (b : Bool)
  /-- A number that is not a not-a-number. -/
  | float (x : Binary64)
  | nan
  | unsigned (n : Nat)
  | signed (i : Int)
  | pattern (s : String)
  deriving DecidableEq

namespace FieldPattern

/-- The place of a kind of pattern in the order of kinds. -/
def kind : FieldPattern → Nat
  | .bool _ => 0
  | .float _ => 1
  | .nan => 2
  | .unsigned _ => 3
  | .signed _ => 4
  | .pattern _ => 5

/-- A number of the binary format as a number of steps; infinity lies beyond all others. -/
def steps : Binary64 → Int
  | .finite negative units => if negative then -units else units
  | .infinite negative => if negative then -Binary64.limit else Binary64.limit
  | .nan => 0

/-- The order of patterns: by kind, and by value within a kind. The two zeros are equal. -/
def compare : FieldPattern → FieldPattern → Ordering
  | .bool a, .bool b => Ord.compare a b
  | .float x, .float y => Ord.compare (steps x) (steps y)
  | .unsigned m, .unsigned n => Ord.compare m n
  | .signed i, .signed j => Ord.compare i j
  | .pattern s, .pattern t => Ord.compare s t
  | p, q => Ord.compare p.kind q.kind

/-- The text of a pattern. -/
def render : FieldPattern → String
  | .bool true => "true"
  | .bool false => "false"
  | .float x => x.render
  | .nan => "NaN"
  | .unsigned n => toString n
  | .signed i => toString i
  | .pattern s => s

end FieldPattern

/-- A field that an event has to have, perhaps with a value. -/
structure FieldMatch where
  name : String
  value : Option FieldPattern
  deriving DecidableEq

namespace FieldMatch

/-- The order of fields: one without a value first, then by name, then by value. -/
def compare (a b : FieldMatch) : Ordering :=
  (Ord.compare a.value.isSome b.value.isSome).then <|
    (Ord.compare a.name b.name).then <|
      compareOption FieldPattern.compare a.value b.value

/-- The text of a field. -/
def render (m : FieldMatch) : String :=
  match m.value with
  | some p => m.name ++ "=" ++ p.render
  | none => m.name

end FieldMatch

/-! ## Directives -/

/-- How verbose the events of a target, inside a span and with a field may be. -/
structure Directive where
  target : Option String
  span : Option String
  field : Option FieldMatch
  level : Verbosity
  deriving DecidableEq

/-- What of a directive can be decided without looking at spans and values. -/
structure StaticDirective where
  target : Option String
  field : Option String
  level : Verbosity
  deriving DecidableEq

/-- The order of targets by their length in bytes, a missing one first. -/
def compareTargetLength (a b : Option String) : Ordering :=
  compareOption (fun s t => Ord.compare s.utf8ByteSize t.utf8ByteSize) a b

/-- The order of optional texts, a missing one first. -/
def compareText (a b : Option String) : Ordering := compareOption Ord.compare a b

/-- The target, the part in brackets and the verbosity of a directive as one text. -/
def renderDirective (target : Option String) (bracketed : Option String) (level : Verbosity) :
    String :=
  let place := target.getD "" ++ (bracketed.map fun s => "[" ++ s ++ "]").getD ""
  if target.isSome || bracketed.isSome then place ++ "=" ++ level.word else level.word

namespace Directive

/-- A directive for everything. -/
def everything (level : Verbosity) : Directive := ⟨none, none, none, level⟩

/-- Whether the spans around an event, or its values, decide about a directive. -/
def isDynamic (d : Directive) : Bool := d.span.isSome || d.field.isSome

/-- The static part of a directive, if it asks for neither a span nor a value. -/
def static? (d : Directive) : Option StaticDirective :=
  if d.span.isSome || d.field.any (fun m => m.value.isSome) then none
  else some ⟨d.target, d.field.map FieldMatch.name, d.level⟩

/-- The order of directives from the least specific one to the most specific one: by the length of
the target, by having a span, by having a field, and then by what these are. -/
def specificity (a b : Directive) : Ordering :=
  (compareTargetLength a.target b.target).then <|
    (Ord.compare a.span.isSome b.span.isSome).then <|
      (Ord.compare a.field.isSome b.field.isSome).then <|
        (compareText a.target b.target).then <|
          (compareText a.span b.span).then <|
            compareOption FieldMatch.compare a.field b.field

/-- The text of a directive. -/
def render (d : Directive) : String :=
  let bracketed :=
    if d.isDynamic then
      some (d.span.getD "" ++ (d.field.map fun m => "\x7b" ++ m.render ++ "\x7d").getD "")
    else none
  renderDirective d.target bracketed d.level

end Directive

namespace StaticDirective

/-- The order from the least specific directive to the most specific one. -/
def specificity (a b : StaticDirective) : Ordering :=
  (compareTargetLength a.target b.target).then <|
    (Ord.compare a.field.isSome b.field.isSome).then <|
      (compareText a.target b.target).then (compareText a.field b.field)

/-- Whether a directive is about an event: its target is the start of the event's target, and the
event has its field. -/
def concerns (d : StaticDirective) (e : Event) : Bool :=
  d.target.all (fun t => t.toList.isPrefixOf e.target.toList) &&
    d.field.all (fun name => name == "message" || e.fields.any fun f => f.1 == name)

/-- The text of a directive. -/
def render (d : StaticDirective) : String :=
  renderDirective d.target (d.field.map fun name => "\x7b" ++ name ++ "\x7d") d.level

end StaticDirective

end Desugar
