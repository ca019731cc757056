import Desugar.Logging
import Desugar.Proofs.Reporting

/-!
# The first start decides

Logging can be started again and again, and each start brings settings of its own. Only the first
one of a session has an effect: it decides, together with the environment, what is written from then
on. The later ones say that they did nothing, and nothing that is written shows them.

Where the environment has no directives, the level of the first start decides alone. For a word the
log is then known event by event: it holds those that are at least as serious as the word says.

## Contents

* `Operation`, `Session.operate` — everything that a session can do, with what it reports.
* `Session.run_start_fresh`, `Session.runFinal_start_fresh` — a run of starts.
* `Session.written_operate` — what a run of operations writes.
* `Filter.parse?_word`, `LoggingSettings.lets_filter_of_word` — the filter of a word.
* `LoggedSession`, `Session.firstStart_decides` — the whole account of a session.
-/

namespace Desugar

/-! ## What a session can do -/

/-- Anything that a session can do with the library. -/
inductive Operation
  /-- A checked load of a text, a normalisation, or an expansion without further arguments. -/
  | task (t : Task)
  /-- A plain load, which reports nothing. -/
  | load (text : String)
  | loadFile (file : File) (path : String)
  | loadFileChecked (file : File) (path : String)
  /-- A step over a method: the statements of its body are asked for, and perhaps edited. -/
  | body (m : Method) (t : Method.Step)
  /-- An edit of an expression; every kind of expansion is one. -/
  | edit (e : Expr) (t : Edit)

/-- What an operation reports. -/
def Operation.events : Operation → List Event
  | .task t => t.events
  | .load _ => []
  | .loadFile _ _ => []
  | .loadFileChecked file path => loadEvents (Settings.loadFileChecked file path)
  | .body m t => (m.perform t).2.events
  | .edit e t => (Edit.perform e t).2.events

/-- The session after an operation. A task is performed; of the other operations nothing but their
    events concerns a session. -/
def Session.operate (p : Session) : Operation → Session
  | .task t => (p.perform t).1
  | o => p.report o.events

/-! ## Lines of a log -/

namespace Log

theorem lines_nil (l : Log) : l.lines [] = [] := by
  unfold lines
  split <;> rfl

/-- Events are written one after the other, so it does not matter how they are grouped. -/
theorem lines_append (l : Log) (before after : List Event) :
    l.lines (before ++ after) = l.lines before ++ l.lines after := by
  unfold lines
  by_cases hstderr : l.stderr = true
  · rw [if_pos hstderr, if_pos hstderr, if_pos hstderr, List.filter_append, List.map_append]
  · rw [if_neg hstderr, if_neg hstderr, if_neg hstderr, List.append_nil]

theorem lines_of_silent {l : Log} (h : l.stderr = false) (events : List Event) :
    l.lines events = [] := by
  unfold lines
  rw [if_neg (by simp [h])]

theorem lines_of_written {l : Log} (h : l.stderr = true) (events : List Event) :
    l.lines events = (events.filter l.filter.lets).map l.line := by
  unfold lines
  rw [if_pos h]

end Log

namespace Session

variable {p : Session} {l : Log}

/-! ## Starts -/

/-- A session that has a log keeps it, whatever settings a start brings. -/
theorem start_of_log (h : p.log = some l) (s : LoggingSettings) : p.start s = (p, false) := by
  unfold start
  rw [h]

theorem log_start_fresh (environment : Option String) (s : LoggingSettings) :
    ((fresh environment).start s).1.log = some (.ofSettings s environment) := rfl

theorem written_start_fresh (environment : Option String) (s : LoggingSettings) :
    ((fresh environment).start s).1.written =
      (Log.ofSettings s environment).lines [.loggingStarted s.level s.json] := rfl

/-- **Of a run of starts, only the first one says that it had an effect.** -/
theorem run_start_fresh (environment : Option String) (first : LoggingSettings)
    (later : List LoggingSettings) :
    (run start (fresh environment) (first :: later)).map Prod.fst =
      true :: later.map fun _ => false := by
  have hidle : ∀ s, ((fresh environment).start first).1.start s =
      (((fresh environment).start first).1, false) := by
    intro s
    exact start_of_log (log_start_fresh environment first) s
  rw [run_cons, run_of_idle start hidle, List.map_cons, List.map_map]
  rfl

/-- **A run of starts leaves what its first start left.** -/
theorem runFinal_start_fresh (environment : Option String) (first : LoggingSettings)
    (later : List LoggingSettings) :
    runFinal start (fresh environment) (first :: later) = ((fresh environment).start first).1 := by
  have hidle : ∀ s, (((fresh environment).start first).1.start s).1 =
      ((fresh environment).start first).1 := by
    intro s
    rw [start_of_log (log_start_fresh environment first) s]
  rw [runFinal_cons]
  exact runFinal_of_idle start hidle later

/-! ## Operations -/

theorem report_of_log (h : p.log = some l) (events : List Event) :
    p.report events = { p with written := p.written ++ l.lines events } := by
  unfold report
  rw [h]

/-- One operation adds the lines of its events, and the log stays. -/
theorem operate_of_log (h : p.log = some l) (o : Operation) :
    p.operate o = { p with written := p.written ++ l.lines o.events } := by
  have hreport : p.operate o = p.report o.events := by
    cases o <;> rfl
  rw [hreport, report_of_log h]

/-- **What a run of operations writes**: the lines of all their events, in order. By induction over
    the operations: the log that decides on the lines is the same for each of them. -/
theorem written_operate (h : p.log = some l) (ops : List Operation) :
    (ops.foldl operate p).written = p.written ++ l.lines (ops.flatMap Operation.events) := by
  induction ops generalizing p with
  | nil => rw [List.foldl_nil, List.flatMap_nil, Log.lines_nil, List.append_nil]
  | cons o ops ih =>
      have hstep := operate_of_log h o
      have hlog : (p.operate o).log = some l := by
        rw [hstep]
        exact h
      rw [List.foldl_cons, ih hlog, hstep, List.flatMap_cons, Log.lines_append, List.append_assoc]

end Session

/-! ## The filter of a word -/

/-- The word for a verbosity is a directive for everything. -/
theorem Filter.parse?_word (v : Verbosity) :
    Filter.parse? v.word = some (.ofDirectives [.everything v]) := by
  cases v with
  | off => decide
  | upTo l => cases l <;> decide

/-- A single directive for everything decides on each event by its level. -/
theorem Filter.lets_everything (v : Verbosity) (ev : Event) :
    (Filter.ofDirectives [.everything v]).lets ev = v.lets ev.level := rfl

namespace LoggingSettings

variable {s : LoggingSettings} {environment : Option String} {level : Level}

/-- A blank environment is as good as none. -/
theorem environmentDirectives_of_blank
    (h : environment.all (fun text => Text.isAllBlank text.toList) = true) :
    environmentDirectives environment = none := by
  cases environment with
  | none => rfl
  | some text =>
      have htrim : Text.trim text.toList = [] := Text.trim_eq_nil_iff.mpr h
      have hblank : Text.trimText text = "" := by
        unfold Text.trimText
        rw [htrim]
      show Option.filter _ (some (Text.trimText text)) = none
      rw [hblank, Option.filter_some_neg (by simp)]

/-- **What the filter of a word lets through**: every event that is at least as serious, from
    whatever part of the library. -/
theorem lets_filter_of_word
    (henvironment : environment.all (fun text => Text.isAllBlank text.toList) = true)
    (hlevel : normalizeLevel s.level = (Verbosity.upTo level).word) (ev : Event) :
    (s.filter environment).lets ev = decide (ev.level.rank ≤ level.rank) := by
  have hown : s.ownFilter = .ofDirectives [.everything (.upTo level)] := by
    unfold ownFilter
    rw [hlevel, Filter.parse?_word, Option.getD_some]
  have hfilter : s.filter environment = .ofDirectives [.everything (.upTo level)] := by
    unfold filter
    rw [environmentDirectives_of_blank henvironment]
    exact hown
  rw [hfilter, Filter.lets_everything]
  rfl

end LoggingSettings

/-! ## The whole session -/

namespace Session

/-- A session that starts logging with each of the settings in turn and then does other things. -/
def after (environment : Option String) (starts : List LoggingSettings) (ops : List Operation) :
    Session :=
  ops.foldl operate (runFinal start (fresh environment) starts)

/-- What happens in a session from its first start on, written or not. -/
def emitted (first : LoggingSettings) (ops : List Operation) : List Event :=
  .loggingStarted first.level first.json :: ops.flatMap Operation.events

/-- What is written, in terms of the first start. -/
theorem written_after (environment : Option String) (first : LoggingSettings)
    (later : List LoggingSettings) (ops : List Operation) :
    (after environment (first :: later) ops).written =
      (Log.ofSettings first environment).lines (emitted first ops) := by
  unfold after
  rw [runFinal_start_fresh, written_operate (log_start_fresh environment first),
    written_start_fresh, ← Log.lines_append]
  rfl

end Session

/-- **What a session is like** whose logging is started with `first` and then with the settings
    `later`, before anything else is done. -/
structure LoggedSession (environment : Option String) (first : LoggingSettings)
    (later : List LoggingSettings) (ops : List Operation) : Prop where
  /-- The first start has an effect, and no later one. -/
  starts : (run Session.start (.fresh environment) (first :: later)).map Prod.fst =
    true :: later.map fun _ => false
  /-- The log of the first settings decides on all events. -/
  written : (Session.after environment (first :: later) ops).written =
    (Log.ofSettings first environment).lines (Session.emitted first ops)
  /-- Other settings for the later starts change nothing that is written. -/
  unaffected : ∀ later', (Session.after environment (first :: later') ops).written =
    (Session.after environment (first :: later) ops).written
  /-- A log that is not written shows nothing. -/
  silent : first.stderr = false → (Session.after environment (first :: later) ops).written = []
  /-- The first event is the start itself. -/
  announced : (Session.emitted first ops).head?.map Event.record =
    some ⟨.debug, "speck.config", "tracing initialized",
      [("level", .shown first.level), ("json", .bool first.json)]⟩
  /-- Without directives in the environment, a word for a level lets through the events that are at
      least as serious: each of them gives one line, in the order in which they happened. -/
  severity : ∀ level : Level,
    environment.all (fun text => Text.isAllBlank text.toList) = true →
    normalizeLevel first.level = (Verbosity.upTo level).word → first.stderr = true →
      (Session.after environment (first :: later) ops).written =
        ((Session.emitted first ops).filter fun ev => decide (ev.level.rank ≤ level.rank)).map
          fun ev => if first.json then .entry ev else .plain ev.line

/-- **The first start decides what is written**, for good and alone. -/
theorem Session.firstStart_decides (environment : Option String) (first : LoggingSettings)
    (later : List LoggingSettings) (ops : List Operation) :
    LoggedSession environment first later ops where
  starts := run_start_fresh environment first later
  written := written_after environment first later ops
  unaffected := by
    intro later'
    rw [written_after, written_after]
  silent := by
    intro hsilent
    rw [written_after]
    exact Log.lines_of_silent hsilent _
  announced := rfl
  severity := by
    intro level henvironment hlevel hstderr
    have hlets : (Log.ofSettings first environment).filter.lets =
        fun ev => decide (ev.level.rank ≤ level.rank) := by
      funext ev
      exact LoggingSettings.lets_filter_of_word henvironment hlevel ev
    rw [written_after, Log.lines_of_written hstderr, hlets]
    rfl

/-- The word `Debug` with blanks around it, in a blank environment: the wrapping of a body is too
    verbose to be written, an expansion is not, and the second start, which would have written
    nothing, comes too late. -/
theorem Session.firstStart_decides_of_word :
    normalizeLevel " Debug " = (Verbosity.upTo .debug).word ∧
      (Session.after (some " ") [⟨" Debug ", false, true⟩, ⟨"off", true, false⟩]
        [.body { name := "feature", body := some (Build.exprStmt Build.null) } (.edit .view),
          .edit (Build.declare (Build.typedVar "list" "List") (Build.thisCall "Mock" []))
            (.expand [])]).written =
        [.plain "DEBUG speck.config: tracing initialized level= Debug  json=false",
          .plain ("DEBUG speck.sugar: expanded builtin member call method=Some(\"Mock\") " ++
            "name=\"list\" args=2")] := by
  have hlevel : normalizeLevel " Debug " = (Verbosity.upTo .debug).word := by decide
  refine ⟨hlevel, ?_⟩
  rw [(firstStart_decides (some " ") ⟨" Debug ", false, true⟩ _ _).severity .debug (by decide)
    hlevel rfl]
  decide +kernel

end Desugar
