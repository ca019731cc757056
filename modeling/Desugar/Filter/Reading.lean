import Desugar.Filter.Directive
import Desugar.Text.Blank
import Desugar.Text.Bytes
import Desugar.Text.Number
import Desugar.Text.Split
import Desugar.Text.WordRanges

/-!
# Reading directives

A text of directives is cut at its commas, and every piece that is not empty has to be a directive:
`level`, `target`, `target=level`, `[span]=level`, `target[span{field=value}]=level` and so on.

A piece is scanned without the blanks around it, but what the scan delimits is cut out of the piece
as it stands, at the same byte positions. So blanks before a directive shift its parts, and blanks
after it belong to its last part. A piece that would be cut inside a character is a bad one. Any
text will do as the pattern of a field; whether it is one that can be matched is not looked into.

## Contents

* `readPieces?` — a text of pieces with commas between them.
* `Verbosity.ofText?` — a level as a number or a word.
* `FieldMatch.ofText` — a field, with a value of the first kind that fits.
* `Directive.Scan` — the state of a scan, `Directive.parse?` — one piece.
* `Directive.parseAll?` — a whole text.
-/

namespace Desugar

/-! ## Pieces -/

/-- Read a text piece by piece, whatever a piece has to be: the text is cut at its commas, and of
the pieces that are not empty one bad one makes the whole text bad. -/
def readPieces? {δ : Type} (read? : List Char → Option δ) (text : String) : Option (List δ) :=
  ((Text.split ',' text.toList).filter fun piece => !piece.isEmpty).mapM read?

/-! ## Levels and fields -/

/-- A verbosity by its number or, in any case, by its word. -/
def Verbosity.ofText? (cs : List Char) : Option Verbosity :=
  match (Text.unsigned? cs).bind fun n => Verbosity.all[n]? with
  | some v => some v
  | none => Verbosity.all.find? fun v => v.word == String.ofList (cs.map Char.toLower)

/-- A pattern of the first kind that fits: a truth value, a whole number of 64 bits without and then
with a sign, a floating-point number, any text. -/
def FieldPattern.ofText (cs : List Char) : FieldPattern :=
  let s := String.ofList cs
  if s == "true" then .bool true
  else if s == "false" then .bool false
  else
    match (Text.unsigned? cs).filter (fun n => decide (n < Nat.pow 2 64)) with
    | some n => .unsigned n
    | none =>
      match (Text.signed? cs).filter
          (fun i => decide (-Int.pow 2 63 ≤ i) && decide (i < Int.pow 2 63)) with
      | some i => .signed i
      | none =>
        match Text.float? cs with
        | some .nan => .nan
        | some x => .float x
        | none => .pattern s

/-- A field: its name, and a value after an equals sign. A second equals sign ends the value. -/
def FieldMatch.ofText (cs : List Char) : FieldMatch :=
  match Text.split '=' cs with
  | [] => ⟨"", none⟩
  | [name] => ⟨String.ofList name, none⟩
  | name :: value :: _ => ⟨String.ofList name, some (.ofText value)⟩

/-! ## Directives -/

namespace Directive

/-- Where a scan is. The numbers are the byte positions where a part started. -/
inductive Phase
  | start
  | levelOrTarget (start : Nat)
  | span (start : Nat)
  | field (start : Nat)
  /-- Behind the brace that closes a field. -/
  | afterField
  /-- Behind the bracket that closes a span. -/
  | afterSpan
  | level (start : Nat)

/-- A scan: where it is, and what it found. -/
structure Scan where
  phase : Phase
  target : Option String
  span : Option String
  field : Option FieldMatch

namespace Scan

/-- Before the first character. -/
def initial : Scan := ⟨.start, none, none, none⟩

/-- Whether a target or a level can start with a character. -/
def canStart (c : Char) : Bool :=
  c == '-' || c == ':' || c == '_' || Text.alphanumeric.holds c

/-- One character, at byte position `i`, of the scan of a piece. -/
def step (piece : List Char) (s : Scan) (i : Nat) (c : Char) : Option Scan :=
  match s.phase with
  | .start =>
    if c = '[' then some { s with phase := .span (i + 1) }
    else if canStart c then some { s with phase := .levelOrTarget i }
    else none
  | .levelOrTarget start =>
    if c = '=' then do
      let t ← Text.slice? piece start i
      return { s with phase := .level (i + 1), target := some (String.ofList t) }
    else if c = '[' then do
      let t ← Text.slice? piece start i
      return { s with phase := .span (i + 1), target := some (String.ofList t) }
    else some s
  | .span start =>
    if c = ']' then do
      let t ← Text.slice? piece start i
      return { s with phase := .afterSpan, span := some (String.ofList t) }
    else if c = '\x7b' then do
      let t ← Text.slice? piece start i
      return { s with
        phase := .field (i + 1)
        span := if t.isEmpty then none else some (String.ofList t) }
    else some s
  | .field start =>
    if c = '\x7d' then do
      let t ← Text.slice? piece start i
      if t.isEmpty then none
      else some { s with phase := .afterField, field := some (.ofText t) }
    else some s
  | .afterField => if c = ']' then some { s with phase := .afterSpan } else none
  | .afterSpan => if c = '=' then some { s with phase := .level (i + 1) } else none
  | .level _ => some s

/-- The scan of the characters from byte position `i` on. -/
def steps (piece : List Char) (s : Scan) (i : Nat) : List Char → Option Scan
  | [] => some s
  | c :: cs => do
    let s ← step piece s i c
    steps piece s (i + c.utf8Size) cs

/-- The directive at the end of a scan. -/
def finish (piece : List Char) (s : Scan) : Option Directive :=
  let rest := fun start => Text.slice? piece start (Text.byteSize piece)
  match s.phase with
  | .levelOrTarget start => do
    let t ← rest start
    match Verbosity.ofText? t with
    | some v => return ⟨s.target, s.span, s.field, v⟩
    | none => return ⟨some (String.ofList t), s.span, s.field, .upTo .trace⟩
  | .level start => do
    let t ← rest start
    if t.isEmpty then return ⟨s.target, s.span, s.field, .upTo .trace⟩
    else
      let v ← Verbosity.ofText? t
      return ⟨s.target, s.span, s.field, v⟩
  | .afterSpan => some ⟨s.target, s.span, s.field, .upTo .trace⟩
  | _ => none

end Scan

/-- One piece of a text of directives. -/
def parse? (piece : List Char) : Option Directive := do
  let s ← Scan.steps piece .initial 0 (Text.trim piece)
  s.finish piece

/-- A whole text of directives. -/
def parseAll? (text : String) : Option (List Directive) := readPieces? parse? text

end Directive

end Desugar
