import Desugar.Config.Settings
import Desugar.Decimal.Shortest
import Desugar.Text.Quoted
import Desugar.Toml.Value

/-!
# The shape of a configuration

A configuration is a document with tables for the groups of settings. Its entries are read in the
order of the document, and the first one of a wrong shape ends the reading. Entries with other keys
are passed over.

A group of settings may also be written as an array, which gives its settings by position, and where
a table is expected a date counts as a table with a single entry.

## Contents

* `ShapeError` — what can be wrong with the shape, and its text.
* `Slot`, `slots?` — the entries of a group of settings, however it is written.
* `Helper.ofValue`, `SugarSettings.ofValue`, `LoggingSettings.ofValue` — the groups.
* `Settings.ofEntries` — the settings of a document.
-/

namespace Desugar

open Toml (Value Entries)

/-! ## What can be wrong -/

/-- What was expected of a value. -/
inductive Expected
  | string
  | boolean
  | count
  | sequence
  | sugar
  | logging
  | helper
  deriving DecidableEq

/-- What is wrong with the shape of a document. -/
inductive ShapeError
  | wrongType (found : Value) (expected : Expected)
  /-- A number of arguments is negative. -/
  | negativeCount (i : Int)
  /-- A helper has no name. -/
  | missingName
  /-- A helper that is written as an array has no name. -/
  | missingElements

/-- The words for what was expected. -/
def Expected.words : Expected → String
  | .string => "a string"
  | .boolean => "a boolean"
  | .count => "usize"
  | .sequence => "a sequence"
  | .sugar => "struct SugarConfig"
  | .logging => "struct LoggingConfig"
  | .helper => "struct BuiltinMemberConfig"

/-- A value in words. Tables and dates are not spelled out. -/
def Toml.Value.words : Value → String
  | .string s => "string " ++ Text.quote s
  | .integer i => "integer `" ++ toString i ++ "`"
  | .float x => "floating point `" ++ x.renderPointed ++ "`"
  | .boolean true => "boolean `true`"
  | .boolean false => "boolean `false`"
  | .dateTime _ => "map"
  | .array _ => "sequence"
  | .table _ => "map"

/-- The text of an error. -/
def ShapeError.message : ShapeError → String
  | .wrongType found expected => "invalid type: " ++ found.words ++ ", expected " ++ expected.words
  | .negativeCount i => "invalid value: integer `" ++ toString i ++ "`, expected usize"
  | .missingName => "missing field `name`"
  | .missingElements => "invalid length 0, expected struct BuiltinMemberConfig with 3 elements"

/-- A value that was read, or what is wrong with its shape. -/
abbrev Reading (α : Type) := Except ShapeError α

/-! ## Scalars -/

def readString : Value → Reading String
  | .string s => .ok s
  | v => .error (.wrongType v .string)

def readBool : Value → Reading Bool
  | .boolean b => .ok b
  | v => .error (.wrongType v .boolean)

/-- A number of arguments. -/
def readCount : Value → Reading Nat
  | .integer i => if 0 ≤ i then .ok i.toNat else .error (.negativeCount i)
  | v => .error (.wrongType v .count)

/-! ## Groups of settings -/

/-- A step into a document. -/
inductive PathStep
  | key (k : String)
  | index (i : Nat)
  deriving DecidableEq

/-- One entry of a group of settings: how it is reached, the setting it gives, and the value. -/
structure Slot where
  step : PathStep
  name : String
  value : Value

/-- The key of the single entry of a date that stands where a table is expected. -/
def dateTimeKey : String := "$__toml_private_datetime"

/-- The entries of a table. -/
def tableSlots (es : Entries) : List Slot := es.map fun e => ⟨.key e.1, e.1, e.2⟩

/-- The elements of an array, each under the name that its position has. Elements beyond the last
name are left out. -/
def arraySlots (names : List String) (items : List Value) : List Slot :=
  (names.zip items).mapIdx fun i e => ⟨.index i, e.1, e.2⟩

/-- The entries of a group of settings with the given names. -/
def slots? (names : List String) : Value → Option (List Slot)
  | .table es => some (tableSlots es)
  | .array items => some (arraySlots names items)
  | .dateTime text => some [⟨.key dateTimeKey, dateTimeKey, .string text⟩]
  | _ => none

/-- Read the entries of a group in order and put each into the group. -/
def readSlots {α φ : Type} (read : String → Value → Reading (Option φ)) (put : α → φ → α) (a : α)
    (slots : List Slot) : Reading α := do
  let fields ← slots.mapM fun s => read s.name s.value
  return (fields.filterMap id).foldl put a

/-! ### Helpers -/

/-- A setting of a helper. -/
inductive HelperField
  | name (s : String)
  | minArgs (n : Nat)
  | maxArgs (n : Nat)

/-- A helper whose name may still be missing. -/
structure HelperDraft where
  name : Option String
  minArgs : Nat
  maxArgs : Nat

namespace HelperDraft

/-- Before any setting was read. -/
def blank : HelperDraft := ⟨none, 0, 2⟩

/-- The names of the settings by position. -/
def names : List String := ["name", "min_args", "max_args"]

/-- The setting that an entry gives. -/
def read (name : String) (v : Value) : Reading (Option HelperField) :=
  if name = "name" then (readString v).map fun s => some (.name s)
  else if name = "min_args" then (readCount v).map fun n => some (.minArgs n)
  else if name = "max_args" then (readCount v).map fun n => some (.maxArgs n)
  else .ok none

/-- The draft with one more setting. -/
def put (d : HelperDraft) : HelperField → HelperDraft
  | .name s => { d with name := some s }
  | .minArgs n => { d with minArgs := n }
  | .maxArgs n => { d with maxArgs := n }

/-- What is wrong with a helper that has no name. -/
def nameless : Value → ShapeError
  | .array _ => .missingElements
  | _ => .missingName

/-- The helper of a draft that was read from `v`. -/
def finish (v : Value) (d : HelperDraft) : Reading Helper :=
  match d.name with
  | some name => .ok ⟨name, d.minArgs, d.maxArgs⟩
  | none => .error (nameless v)

end HelperDraft

/-- A helper. -/
def Helper.ofValue (v : Value) : Reading Helper :=
  match slots? HelperDraft.names v with
  | none => .error (.wrongType v .helper)
  | some slots => do
    let d ← readSlots HelperDraft.read HelperDraft.put .blank slots
    d.finish v

/-- A list of helpers. -/
def readHelpers : Value → Reading (List Helper)
  | .array items => items.mapM Helper.ofValue
  | v => .error (.wrongType v .sequence)

/-! ### The names that are looked for -/

/-- One of the names that expansion looks for. -/
inductive SugarField
  | specificationType (s : String)
  | placeholder (s : String)
  | helpers (hs : List Helper)

namespace SugarSettings

/-- The names of the settings by position. -/
def names : List String := ["specification_type", "placeholder", "builtins"]

/-- The setting that an entry gives. -/
def read (name : String) (v : Value) : Reading (Option SugarField) :=
  if name = "specification_type" then (readString v).map fun s => some (.specificationType s)
  else if name = "placeholder" then (readString v).map fun s => some (.placeholder s)
  else if name = "builtins" then (readHelpers v).map fun hs => some (.helpers hs)
  else .ok none

/-- The settings with one of them replaced. -/
def put (s : SugarSettings) : SugarField → SugarSettings
  | .specificationType t => { s with specificationType := t }
  | .placeholder p => { s with placeholder := p }
  | .helpers hs => { s with helpers := hs }

/-- The settings that a value gives; those it leaves out have their defaults. -/
def ofValue (v : Value) : Reading SugarSettings :=
  match slots? names v with
  | none => .error (.wrongType v .sugar)
  | some slots => readSlots read put .standard slots

end SugarSettings

/-! ### Logging -/

/-- A setting of logging. -/
inductive LoggingField
  | level (s : String)
  | json (b : Bool)
  | stderr (b : Bool)

namespace LoggingSettings

/-- The names of the settings by position. -/
def names : List String := ["level", "json", "stderr"]

/-- The setting that an entry gives. -/
def read (name : String) (v : Value) : Reading (Option LoggingField) :=
  if name = "level" then (readString v).map fun s => some (.level s)
  else if name = "json" then (readBool v).map fun b => some (.json b)
  else if name = "stderr" then (readBool v).map fun b => some (.stderr b)
  else .ok none

/-- The settings with one of them replaced. -/
def put (s : LoggingSettings) : LoggingField → LoggingSettings
  | .level t => { s with level := t }
  | .json b => { s with json := b }
  | .stderr b => { s with stderr := b }

/-- The settings that a value gives; those it leaves out have their defaults. -/
def ofValue (v : Value) : Reading LoggingSettings :=
  match slots? names v with
  | none => .error (.wrongType v .logging)
  | some slots => readSlots read put .standard slots

end LoggingSettings

/-! ## Documents -/

/-- A group of settings. -/
inductive SettingsField
  | sugar (s : SugarSettings)
  | logging (s : LoggingSettings)

namespace Settings

/-- The names of the groups in a document. -/
def names : List String := ["sugar", "logging"]

/-- The group that an entry of the document gives. -/
def read (name : String) (v : Value) : Reading (Option SettingsField) :=
  if name = "sugar" then (SugarSettings.ofValue v).map fun s => some (.sugar s)
  else if name = "logging" then (LoggingSettings.ofValue v).map fun s => some (.logging s)
  else .ok none

/-- The settings with a group replaced. -/
def put (s : Settings) : SettingsField → Settings
  | .sugar g => { s with sugar := g }
  | .logging g => { s with logging := g }

/-- The settings that a document gives; those it leaves out have their defaults. -/
def ofEntries (es : Entries) : Reading Settings := readSlots read put .standard (tableSlots es)

end Settings

end Desugar
