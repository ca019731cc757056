import Desugar.Body
import Desugar.Config.Loading

/-!
# Logging

A session starts without a log, and the first start of logging decides for good which events are
written and in which form. What happens afterwards reports events, and the log shows those that its
filter lets through.

## Contents

* `Log` — how events are written, `Log.lines` — the lines of events.
* `Session` — a session with its log and what it wrote.
* `Session.start` — start logging.
* `Task`, `Session.perform` — what a session does.
-/

namespace Desugar

/-- How events are written. -/
structure Log where
  filter : Filter
  json : Bool
  stderr : Bool
  deriving DecidableEq

/-- A line of a log. -/
inductive LogLine
  | plain (text : String)
  | entry (e : Event)
  deriving DecidableEq

namespace Log

/-- The log of settings and of the directives of the environment. -/
def ofSettings (s : LoggingSettings) (environment : Option String) : Log :=
  ⟨s.filter environment, s.json, s.stderr⟩

/-- An event as a line. -/
def line (l : Log) (e : Event) : LogLine := if l.json then .entry e else .plain e.line

/-- The lines of events: those that the filter lets through, if anything is written at all. -/
def lines (l : Log) (events : List Event) : List LogLine :=
  if l.stderr then (events.filter l.filter.lets).map l.line else []

end Log

/-- A session: its environment, the log it has, if logging was started, and what it wrote. -/
structure Session where
  environment : Option String
  log : Option Log
  written : List LogLine

namespace Session

/-- A session that has not done anything. -/
def fresh (environment : Option String) : Session := ⟨environment, none, []⟩

/-- Events happen; without a log nobody sees them. -/
def report (p : Session) (events : List Event) : Session :=
  match p.log with
  | some l => { p with written := p.written ++ l.lines events }
  | none => p

/-- Start logging. Only the first start has an effect, and only it says so. -/
def start (p : Session) (s : LoggingSettings) : Session × Bool :=
  match p.log with
  | some _ => (p, false)
  | none =>
    ({ p with log := some (.ofSettings s p.environment) }.report [.loggingStarted s.level s.json],
      true)

end Session

/-! ## What a session does -/

/-- Something that a session does. -/
inductive Task
  | load (text : String)
  | normalize (m : Method)
  | expand (e : Expr)

/-- What comes of a task. -/
inductive TaskAnswer
  | loaded (r : Except LoadError Loaded)
  /-- The number of statements of a method. -/
  | counted (n : Nat)
  | expanded (r : Except Error Expr)

namespace Task

/-- What comes of a task. -/
def answer : Task → TaskAnswer
  | .load text => .loaded (Settings.loadChecked text)
  | .normalize m => .counted m.statements.length
  | .expand e => .expanded (e.expand []).result

/-- What a task reports. -/
def events : Task → List Event
  | .load text => loadEvents (Settings.loadChecked text)
  | .normalize m => m.bodyEvents
  | .expand e => (e.expand []).events

end Task

/-- Do a task. -/
def Session.perform (p : Session) (t : Task) : Session × TaskAnswer := (p.report t.events, t.answer)

end Desugar
