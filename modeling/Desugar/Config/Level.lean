import Desugar.Config.Settings
import Desugar.Filter.Basic

/-!
# The configured level

The configured level is one of a few words or a text of directives. It is normalised before it is
used, and an environment variable may add directives to it.

## Contents

* `normalizeLevel` — the words in one spelling, any other text without the blanks around it.
* `LoggingSettings.ownFilter` — the filter of the settings alone.
* `LoggingSettings.filter` — the filter with the directives of the environment.
-/

namespace Desugar

/-- The words for levels, in lower case, with the spelling that directives use. -/
def levelWords : List (String × String) :=
  [("trace", "trace"), ("debug", "debug"), ("info", "info"), ("warn", "warn"), ("warning", "warn"),
    ("error", "error")]

/-- A level without the blanks around it: a word is spelled as in directives, whatever its case, any
other text stays as it is, and a blank level is the default one. -/
def normalizeLevel (level : String) : String :=
  let trimmed := Text.trim level.toList
  if trimmed.isEmpty then LoggingSettings.defaultLevel
  else
    match levelWords.lookup (String.ofList (trimmed.map Char.toLower)) with
    | some word => word
    | none => String.ofList trimmed

namespace LoggingSettings

/-- The filter that is used for a level that cannot be read. -/
def fallbackFilter : Filter := .ofDirectives [.everything (.upTo .info)]

/-- The filter of the configured level alone. -/
def ownFilter (s : LoggingSettings) : Filter :=
  (Filter.parse? (normalizeLevel s.level)).getD fallbackFilter

/-- The directives of the environment, without the blanks around them; blank ones do not count. -/
def environmentDirectives (environment : Option String) : Option String :=
  (environment.map Text.trimText).filter fun s => !s.isEmpty

/-- The filter with the directives of the environment after the configured ones. If that cannot be
read, the directives of the environment are used alone, and if those cannot be read, they are
ignored. -/
def filter (s : LoggingSettings) (environment : Option String) : Filter :=
  match environmentDirectives environment with
  | none => s.ownFilter
  | some directives =>
    match Filter.parse? (normalizeLevel s.level ++ "," ++ directives) with
    | some f => f
    | none => (Filter.parse? directives).getD s.ownFilter

end LoggingSettings

end Desugar
