/-!
# Runs

A run feeds a list of steps to a state. Each step gives the next state and an answer; the run
records every answer together with the state that the step left behind.
-/

namespace Desugar

/-- The answers of a run, each with the state after its step. -/
def run {σ τ β : Type} (perform : σ → τ → σ × β) : σ → List τ → List (β × σ)
  | _, [] => []
  | s, t :: ts => ((perform s t).2, (perform s t).1) :: run perform (perform s t).1 ts

/-- The state at the end of a run. -/
def runFinal {σ τ β : Type} (perform : σ → τ → σ × β) (s : σ) (ts : List τ) : σ :=
  ts.foldl (fun s t => (perform s t).1) s

section
variable {σ τ β : Type} (perform : σ → τ → σ × β)

@[simp]
theorem run_nil (s : σ) : run perform s [] = [] := rfl

theorem run_cons (s : σ) (t : τ) (ts : List τ) :
    run perform s (t :: ts) =
      ((perform s t).2, (perform s t).1) :: run perform (perform s t).1 ts := rfl

/-- A run answers every step. -/
@[simp]
theorem length_run (s : σ) (ts : List τ) : (run perform s ts).length = ts.length := by
  induction ts generalizing s with
  | nil => rfl
  | cons t ts ih => simp [run_cons, ih]

/-- A run splits wherever its steps are split. -/
theorem run_append (s : σ) (ts us : List τ) :
    run perform s (ts ++ us) = run perform s ts ++ run perform (runFinal perform s ts) us := by
  induction ts generalizing s with
  | nil => rfl
  | cons t ts ih => simp [run_cons, runFinal, ih]

@[simp]
theorem runFinal_nil (s : σ) : runFinal perform s [] = s := rfl

@[simp]
theorem runFinal_cons (s : σ) (t : τ) (ts : List τ) :
    runFinal perform s (t :: ts) = runFinal perform (perform s t).1 ts := rfl

theorem runFinal_append (s : σ) (ts us : List τ) :
    runFinal perform s (ts ++ us) = runFinal perform (runFinal perform s ts) us := by
  simp [runFinal]

/-- What every step of a kind keeps, a run of such steps keeps. -/
theorem runFinal_induction {P : σ → Prop} {Q : τ → Prop}
    (step : ∀ s t, Q t → P s → P (perform s t).1) {s : σ} (start : P s) {ts : List τ}
    (kind : ∀ t ∈ ts, Q t) : P (runFinal perform s ts) := by
  induction ts generalizing s with
  | nil => exact start
  | cons t ts ih =>
      have hrest : ∀ u ∈ ts, Q u := fun u hu => kind u (List.mem_cons_of_mem t hu)
      exact ih (step s t (kind t (by simp)) start) hrest

/-- What every step of a kind keeps and answers holds all along a run of such steps. -/
theorem forall_mem_run {P : σ → Prop} {Q : τ → Prop} {R : β × σ → Prop}
    (step : ∀ s t, Q t → P s → P (perform s t).1 ∧ R ((perform s t).2, (perform s t).1)) {s : σ}
    (start : P s) {ts : List τ} (kind : ∀ t ∈ ts, Q t) : ∀ p ∈ run perform s ts, R p := by
  induction ts generalizing s with
  | nil => intro p hp; exact absurd hp (by simp)
  | cons t ts ih =>
      have hstep := step s t (kind t (by simp)) start
      have hrest : ∀ u ∈ ts, Q u := fun u hu => kind u (List.mem_cons_of_mem t hu)
      intro p hp
      rcases List.mem_cons.mp hp with rfl | hp
      · exact hstep.2
      · exact ih hstep.1 hrest p hp

/-! ## Runs that go nowhere, and runs that mirror another -/

/-- Where no step changes the state, a run stays there and each step gives its own answer. -/
theorem run_of_idle {s : σ} {answer : τ → β} (idle : ∀ t, perform s t = (s, answer t))
    (ts : List τ) : run perform s ts = ts.map fun t => (answer t, s) := by
  induction ts with
  | nil => rfl
  | cons t ts ih => rw [run_cons, idle t, ih, List.map_cons]

theorem runFinal_of_idle {s : σ} (idle : ∀ t, (perform s t).1 = s) (ts : List τ) :
    runFinal perform s ts = s := by
  induction ts with
  | nil => rfl
  | cons t ts ih => rw [runFinal_cons, idle t, ih]

variable {σ' τ' β' : Type} {perform' : σ' → τ' → σ' × β'} {place : σ → σ'} {step : τ → τ'}
  {reply : β → β'}

/-- A machine whose steps are those of another one, seen through a place that holds the state of the
other, mirrors all its runs. -/
theorem run_mirrored
    (mirror : ∀ s t, perform' (place s) (step t) = (place (perform s t).1, reply (perform s t).2))
    (s : σ) (ts : List τ) :
    run perform' (place s) (ts.map step) =
      (run perform s ts).map fun p => (reply p.1, place p.2) := by
  induction ts generalizing s with
  | nil => rfl
  | cons t ts ih => rw [List.map_cons, run_cons, run_cons, mirror s t, ih, List.map_cons]

theorem runFinal_mirrored
    (mirror : ∀ s t, perform' (place s) (step t) = (place (perform s t).1, reply (perform s t).2))
    (s : σ) (ts : List τ) :
    runFinal perform' (place s) (ts.map step) = place (runFinal perform s ts) := by
  induction ts generalizing s with
  | nil => rfl
  | cons t ts ih => rw [List.map_cons, runFinal_cons, runFinal_cons, mirror s t, ih]

end

end Desugar
