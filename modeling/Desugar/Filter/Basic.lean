import Desugar.Filter.Reading

/-!
# Filters

A filter is made of directives and decides which events get through. It keeps the directives in
order, the most specific one first, and of two directives for the same place the later one.

## Contents

* `insertSpecific` — put a directive into its place.
* `Filter.ofDirectives`, `Filter.parse?` — filters from directives and from texts.
* `Filter.lets` — whether an event gets through.
* `Filter.render` — the text of a filter.
-/

namespace Desugar

/-- Put an element into a list that is sorted from the greatest element down. An equal element gives
way to it. -/
def insertSpecific {α : Type} (cmp : α → α → Ordering) (a : α) : List α → List α
  | [] => [a]
  | b :: bs =>
    match cmp a b with
    | .gt => a :: b :: bs
    | .eq => a :: bs
    | .lt => b :: insertSpecific cmp a bs

/-- Directives in order: the ones that an event alone decides, and the ones that also look at spans
and values. -/
structure Filter where
  statics : List StaticDirective
  dynamics : List Directive
  deriving DecidableEq

namespace Filter

/-- The filter of a list of directives. A directive that asks for a field without a value, and for
no span, is of both kinds. -/
def ofDirectives (ds : List Directive) : Filter :=
  let plain := ds.filter fun d => !d.isDynamic
  let dynamic := ds.filter Directive.isDynamic
  { statics := ((plain ++ dynamic).filterMap Directive.static?).foldl
      (fun acc d => insertSpecific StaticDirective.specificity d acc) []
    dynamics := dynamic.foldl (fun acc d => insertSpecific Directive.specificity d acc) [] }

/-- The filter of a text of directives. -/
def parse? (text : String) : Option Filter := (Directive.parseAll? text).map ofDirectives

/-- Whether an event gets through: the most specific static directive that concerns it decides, and
without one it does not. There are no spans, so the dynamic directives decide nothing. -/
def lets (f : Filter) (e : Event) : Bool :=
  match f.statics.find? fun d => d.concerns e with
  | some d => d.level.lets e.level
  | none => false

/-- The text of a filter: its static directives, then its dynamic ones. -/
def render (f : Filter) : String :=
  String.intercalate "," (f.statics.map StaticDirective.render ++ f.dynamics.map Directive.render)

end Filter

end Desugar
