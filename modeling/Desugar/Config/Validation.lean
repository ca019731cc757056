import Desugar.Config.Level
import Desugar.Text.Identifier

/-!
# Validation

What is wrong with settings that have the right shape, and what is suspicious about them. All
problems are found in one go.

## Contents

* `Problem`, `Warning`, `Findings` — what is found.
* `specificationTypeProblems`, `placeholderProblems`, `helperProblems` — what is wrong.
* `helperWarnings`, `levelWarnings` — what is suspicious.
* `Settings.validate` — everything together.
-/

namespace Desugar

/-! ## Findings -/

/-- Something that is wrong, with the place where it is configured. -/
inductive Problem
  | invalidValue (place message : String)
  /-- A helper takes at least more arguments than it takes at most. -/
  | argumentRange (place : String) (minArgs maxArgs : Nat)
  deriving DecidableEq

/-- Something that is suspicious. -/
inductive Warning
  /-- No helper is configured, so nothing is ever expanded. -/
  | noHelpers
  /-- A helper has the name of an earlier one, which wins. -/
  | duplicateHelper (place name : String)
  /-- A level cannot be read as directives. -/
  | invalidLevel (value normalized : String)
  deriving DecidableEq

/-- Everything that validation finds. -/
structure Findings where
  warnings : List Warning
  problems : List Problem
  deriving DecidableEq

/-! ## Names -/

/-- Whether a text is identifiers with points between them. -/
def isQualifiedName (s : String) : Bool := (Text.splitText '.' s).all Text.isIdentifier

/-- What is wrong with the specification type. It is compared as it is written, so blanks around it
are not forgiven. -/
def specificationTypeProblems (s : String) : List Problem :=
  if Text.isAllBlank s.toList then
    [.invalidValue "sugar.specification_type" "must not be empty"]
  else if isQualifiedName s then []
  else [.invalidValue "sugar.specification_type" "must be a qualified type name"]

/-- What is wrong with the placeholder. -/
def placeholderProblems (s : String) : List Problem :=
  if Text.isIdentifier s then [] else [.invalidValue "sugar.placeholder" "must be an identifier"]

/-! ## Helpers -/

/-- The place where the helper at a position is configured. -/
def helperPlace (i : Nat) : String := "sugar.builtins[" ++ toString i ++ "]"

/-- What is wrong with the helper at a position. -/
def helperProblemsAt (i : Nat) (h : Helper) : List Problem :=
  (if Text.isIdentifier h.name then []
    else [.invalidValue (helperPlace i ++ ".name") "must be an identifier"]) ++
  (if h.maxArgs < h.minArgs then [.argumentRange (helperPlace i) h.minArgs h.maxArgs] else [])

/-- What is wrong with the helpers, in their order. -/
def helperProblems (hs : List Helper) : List Problem :=
  (hs.mapIdx helperProblemsAt).flatten

/-- The warnings about helpers from position `i` on, when the names in `seen` came before. A name
that is not an identifier is never seen. -/
def duplicateWarnings (seen : List String) (i : Nat) : List Helper → List Warning
  | [] => []
  | h :: hs =>
    if Text.isIdentifier h.name then
      if h.name ∈ seen then
        .duplicateHelper (helperPlace i ++ ".name") h.name :: duplicateWarnings seen (i + 1) hs
      else duplicateWarnings (h.name :: seen) (i + 1) hs
    else duplicateWarnings seen (i + 1) hs

/-- What is suspicious about the helpers. -/
def helperWarnings (hs : List Helper) : List Warning :=
  if hs.isEmpty then [.noHelpers] else duplicateWarnings [] 0 hs

/-! ## Logging -/

/-- What is suspicious about the level. -/
def levelWarnings (level : String) : List Warning :=
  if Text.isAllBlank level.toList then []
  else if (Filter.parse? (normalizeLevel level)).isSome then []
  else [.invalidLevel level (normalizeLevel level)]

/-! ## Everything -/

/-- Everything that is wrong with settings or suspicious about them. -/
def Settings.validate (s : Settings) : Findings where
  warnings := helperWarnings s.sugar.helpers ++ levelWarnings s.logging.level
  problems := specificationTypeProblems s.sugar.specificationType ++
    placeholderProblems s.sugar.placeholder ++ helperProblems s.sugar.helpers

end Desugar
