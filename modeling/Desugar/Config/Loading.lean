import Desugar.Config.UnknownKeys
import Desugar.Config.Validation
import Desugar.Toml.Document

/-!
# Loading settings

Settings are loaded from a text or from a file. The plain load gives the settings alone; the checked
load also tells which keys are unknown and what validation finds, and reports the unknown keys.

## Contents

* `LoadError` — why nothing could be loaded.
* `Diagnostics`, `Loaded` — what a checked load gives.
* `Settings.load`, `Settings.loadChecked` — from a text.
* `File` — what is found at a path, and the text it holds.
-/

namespace Desugar

open Toml (Entries)

/-! ## Causes of failure -/

/-- Why a file could not be read. -/
inductive FileError
  | missing
  | directory
  /-- Its bytes are not a text. -/
  | notText
  deriving DecidableEq

/-- Why nothing could be loaded. -/
inductive LoadError
  | unreadable (path : String) (cause : FileError)
  /-- The text is not a document. -/
  | notADocument
  /-- The document is not of the right shape. -/
  | wrongShape (e : ShapeError)

/-- The cause in words. -/
def FileError.message : FileError → String
  | .missing => "No such file or directory (os error 2)"
  | .directory => "Is a directory (os error 21)"
  | .notText => "stream did not contain valid UTF-8"

/-- The text of a failure. -/
def LoadError.message : LoadError → String
  | .unreadable path cause => "failed to read config file " ++ path ++ ": " ++ cause.message
  | .notADocument => "failed to parse toml config"
  | .wrongShape e => "failed to parse toml config: " ++ e.message

/-! ## Loading from a text -/

/-- Everything that a checked load notices. -/
structure Diagnostics where
  unknownKeys : List String
  findings : Findings
  deriving DecidableEq

namespace Diagnostics

/-- Whether nothing is wrong. Unknown keys and warnings are not wrong. -/
def isOk (d : Diagnostics) : Bool := d.findings.problems.isEmpty

/-- Whether nothing was noticed at all. -/
def isEmpty (d : Diagnostics) : Bool :=
  d.unknownKeys.isEmpty && d.findings.warnings.isEmpty && d.findings.problems.isEmpty

/-- What is reported: every unknown key. -/
def events (d : Diagnostics) : List Event := d.unknownKeys.map .unknownKey

end Diagnostics

/-- Settings with what was noticed about them. -/
structure Loaded where
  settings : Settings
  diagnostics : Diagnostics
  deriving DecidableEq

/-- The settings of a document, read with notes, and what is noticed about them. -/
def Loaded.ofEntries (es : Entries) : Reading Loaded := do
  let (settings, noted) ← (Settings.noteEntries es).run []
  return ⟨settings, ascending (noted.map Path.render), settings.validate⟩

/-- Read a document from a text, and then something from the document. -/
def loadWith {α : Type} (read : Entries → Reading α) (text : String) : Except LoadError α :=
  match Toml.parse? text with
  | none => .error .notADocument
  | some es =>
    match read es with
    | .ok a => .ok a
    | .error e => .error (.wrongShape e)

namespace Settings

/-- The settings of a text. -/
def load (text : String) : Except LoadError Settings := loadWith ofEntries text

/-- The settings of a text, with what was noticed about them. -/
def loadChecked (text : String) : Except LoadError Loaded := loadWith Loaded.ofEntries text

end Settings

/-- What a checked load reports: every unknown key, and nothing if it failed. -/
def loadEvents : Except LoadError Loaded → List Event
  | .ok loaded => loaded.diagnostics.events
  | .error _ => []

/-! ## Loading from a file -/

/-- What is found at a path. -/
inductive File
  | content (bytes : ByteArray)
  | directory
  | missing

/-- The text of a file. -/
def File.text (file : File) (path : String) : Except LoadError String :=
  match file with
  | .content bytes =>
    match String.fromUTF8? bytes with
    | some text => .ok text
    | none => .error (.unreadable path .notText)
  | .directory => .error (.unreadable path .directory)
  | .missing => .error (.unreadable path .missing)

namespace Settings

/-- The settings of a file. -/
def loadFile (file : File) (path : String) : Except LoadError Settings := do
  let text ← file.text path
  load text

/-- The settings of a file, with what was noticed about them. -/
def loadFileChecked (file : File) (path : String) : Except LoadError Loaded := do
  let text ← file.text path
  loadChecked text

end Settings

end Desugar
