/-!
# Source spans

A span is a region of the source text, from a first line and column to a last line and column, all
counted from one. Front ends that do not know a position write `-1` (or leave `0`), so the numbers
are signed and a span is trusted only when it `isPlausible`.

## Contents

* `Span` — the four numbers, and the two spans that stand for "no position" (`unknown`, `zero`).
* `Span.isPlausible` — whether the numbers can be a region at all.
* `Span.point`, `Span.region` — the short and the long text of a span.
-/

namespace Desugar

/-- A region of the source text. -/
structure Span where
  startLine : Int
  startColumn : Int
  endLine : Int
  endColumn : Int
  deriving DecidableEq

namespace Span

/-- The span of a node whose position is not known. -/
def unknown : Span := ⟨-1, -1, -1, -1⟩

/-- The span of a node whose position was never set. -/
def zero : Span := ⟨0, 0, 0, 0⟩

/-- Whether the span can be a region of a text: it starts at a line and a column, does not end on an
earlier line, and its last column lies after its first one. Nothing is said about a text in which
the region would have to lie. -/
def isPlausible (s : Span) : Bool :=
  decide (0 < s.startLine) && decide (s.startLine ≤ s.endLine) &&
    (decide (0 < s.startColumn) && decide (s.startColumn < s.endColumn))

/-- The text of the place where the span starts, `line:column`. -/
def point (s : Span) : String := s!"{s.startLine}:{s.startColumn}"

/-- The text of the whole span. -/
def region (s : Span) : String :=
  s!"SourceSpan({s.startLine}:{s.startColumn}..{s.endLine}:{s.endColumn})"

theorem isPlausible_iff {s : Span} :
    s.isPlausible = true ↔
      0 < s.startLine ∧ s.startLine ≤ s.endLine ∧
        0 < s.startColumn ∧ s.startColumn < s.endColumn := by
  simp [isPlausible, and_assoc]

/-- An unknown position is never plausible. -/
theorem isPlausible_unknown : unknown.isPlausible = false := by decide

/-- A position that was never set is never plausible. -/
theorem isPlausible_zero : zero.isPlausible = false := by decide

end Span

end Desugar
