import Desugar.Span
import Desugar.Text.Quoted

/-!
# Events

What the library reports while it works. An event is a value like any other: a function that reports
something returns its events beside its result, in the order in which they happened.

## Contents

* `Level` — how serious an event is.
* `Event` — everything that is reported, with its level, its target, its message and its fields.
* `Event.line` — an event as a line of text.
-/

namespace Desugar

/-- How serious an event is. -/
inductive Level
  | error
  | warn
  | info
  | debug
  | trace
  deriving DecidableEq

namespace Level

/-- The place of a level in the order from the most serious one to the most verbose one. -/
def rank : Level → Nat
  | .error => 1
  | .warn => 2
  | .info => 3
  | .debug => 4
  | .trace => 5

/-- The word for a level. -/
def word : Level → String
  | .error => "ERROR"
  | .warn => "WARN"
  | .info => "INFO"
  | .debug => "DEBUG"
  | .trace => "TRACE"

end Level

/-- Something that is reported. -/
inductive Event
  /-- The arguments of a call to `method` were replaced; now there are `argumentCount` of them. -/
  | expanded (method : Option String) (name : String) (argumentCount : Nat)
  /-- A call at `span` was left alone because its argument list is the shared one. -/
  | sharedListRefused (method : Option String) (span : Span)
  /-- A call at `span` has neither a type argument nor a declared type. -/
  | typeNotInferred (span : Span)
  /-- The body of a method was a single statement and got a block around it. -/
  | bodyWrapped (method : String)
  /-- A configuration holds a key that means nothing. -/
  | unknownKey (key : String)
  /-- Logging started with a configured level. -/
  | loggingStarted (level : String) (json : Bool)
  deriving DecidableEq

/-- The value of a field of an event. -/
inductive FieldValue
  /-- A value that is shown as it is. -/
  | shown (text : String)
  /-- A text, which a line of text shows in quotes. -/
  | string (value : String)
  | number (value : Nat)
  | bool (value : Bool)
  deriving DecidableEq

/-- The value of a field in a line of text. -/
def FieldValue.render : FieldValue → String
  | .shown text => text
  | .string value => Text.quote value
  | .number value => toString value
  | .bool true => "true"
  | .bool false => "false"

namespace Event

/-- The level of an event. -/
def level : Event → Level
  | .expanded .. => .debug
  | .sharedListRefused .. => .error
  | .typeNotInferred .. => .debug
  | .bodyWrapped .. => .trace
  | .unknownKey .. => .warn
  | .loggingStarted .. => .debug

/-- The part of the library that an event comes from. -/
def target : Event → String
  | .expanded .. => "speck.sugar"
  | .sharedListRefused .. => "speck.sugar"
  | .typeNotInferred .. => "speck.sugar"
  | .bodyWrapped .. => "speck.sugar"
  | .unknownKey .. => "speck.config"
  | .loggingStarted .. => "speck.config"

/-- What an event says. -/
def message : Event → String
  | .expanded .. => "expanded builtin member call"
  | .sharedListRefused .. => "refusing to rewrite the shared empty argument list"
  | .typeNotInferred .. => "builtin member call has no type argument and no declared type"
  | .bodyWrapped .. => "wrapping single-statement body in a block"
  | .unknownKey .. => "ignoring unknown config key"
  | .loggingStarted .. => "tracing initialized"

/-- The fields of an event apart from its message, in order. -/
def fields : Event → List (String × FieldValue)
  | .expanded method name n =>
    [("method", .shown (Text.quoteOption method)), ("name", .string name), ("args", .number n)]
  | .sharedListRefused method span =>
    [("method", .shown (Text.quoteOption method)), ("span", .shown span.region)]
  | .typeNotInferred span => [("span", .shown span.region)]
  | .bodyWrapped method => [("method", .shown method)]
  | .unknownKey key => [("key", .shown key)]
  | .loggingStarted level json => [("level", .shown level), ("json", .bool json)]

/-- The word for a level, with blanks before it so that all levels are five characters wide. -/
def paddedLevel (l : Level) : String :=
  String.ofList (List.replicate (5 - l.word.length) ' ') ++ l.word

/-- An event as a line of text: level, target, message, then the fields. -/
def line (e : Event) : String :=
  paddedLevel e.level ++ " " ++ e.target ++ ": " ++ e.message ++
    String.join (e.fields.map fun f => " " ++ f.1 ++ "=" ++ f.2.render)

end Event

end Desugar
