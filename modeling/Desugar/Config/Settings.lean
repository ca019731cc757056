import Desugar.Helper

/-!
# Settings

What can be configured: the names that expansion looks for, and logging. Every setting has a
default.
-/

namespace Desugar

/-- The names that expansion looks for. -/
structure SugarSettings where
  /-- The qualified name of the type that specifications extend. -/
  specificationType : String
  /-- The member of that type that stands for any value. -/
  placeholder : String
  /-- The helpers whose uses are expanded. -/
  helpers : List Helper
  deriving DecidableEq

/-- How events are logged. -/
structure LoggingSettings where
  /-- A level, or a whole text of directives. -/
  level : String
  /-- Whether events are written as records. -/
  json : Bool
  /-- Whether events are written at all. -/
  stderr : Bool
  deriving DecidableEq

/-- All settings. -/
structure Settings where
  sugar : SugarSettings
  logging : LoggingSettings
  deriving DecidableEq

namespace SugarSettings

/-- The defaults: the standard placeholder and the mock factories. -/
def standard : SugarSettings :=
  ⟨Placeholder.standard.specificationType, Placeholder.standard.symbol, Helper.standard⟩

/-- The placeholder to look for. -/
def placeholderRef (s : SugarSettings) : Placeholder := ⟨s.specificationType, s.placeholder⟩

/-- The helpers to look for, in the order in which they are configured. -/
def registry (s : SugarSettings) : Registry := ⟨s.helpers⟩

end SugarSettings

namespace LoggingSettings

/-- The level that is used when none is configured. -/
def defaultLevel : String := "info"

/-- The defaults. -/
def standard : LoggingSettings := ⟨defaultLevel, false, true⟩

end LoggingSettings

namespace Settings

/-- The defaults. -/
def standard : Settings := ⟨.standard, .standard⟩

end Settings

end Desugar
