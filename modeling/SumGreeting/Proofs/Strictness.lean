import SumGreeting.Proofs.Trace

/-!
# Strict and lenient runs

A strict run rejects some settings and is otherwise the lenient run: it makes the same report, adds
the same bytes to the sink and records the same events, also where the delivery fails.  A strict
run that rejects its settings stops on the way that the lenient run takes.

## Main results

* `Settings.run_strict_eq_lenient` : a strict run that is not turned down is the lenient run.
* `Settings.events_strict_prefix_lenient` : a strict run records a beginning of what the lenient
  run does.
* `Settings.strict_run_restricts` : the two runs compared by the result of the strict one.
-/

namespace SumGreeting.Settings

/-- The settings of the run that rejects what is not acceptable. -/
def strictly (settings : Settings) : Settings := { settings with strict := true }

/-- The settings of the run that accepts everything. -/
def leniently (settings : Settings) : Settings := { settings with strict := false }

theorem rejection?_leniently (settings : Settings) : settings.leniently.rejection? = none :=
  if_pos rfl

/-- Strictness makes no difference to what can be recorded. -/
theorem trace_strictly (settings : Settings) :
    settings.strictly.trace = settings.leniently.trace := rfl

/-- A strict run that is not turned down is the lenient run. -/
theorem run_strict_eq_lenient {settings : Settings} (h : settings.strictly.rejection? = none)
    (sink : Sink) : settings.strictly.run sink = settings.leniently.run sink := by
  rw [run_eq_of_rejection?_eq_none h, run_eq_of_rejection?_eq_none settings.rejection?_leniently]
  rfl

/-- The lenient run gets at least to its delivery. -/
theorem three_le_stage_lenient (settings : Settings) (sink : Sink) :
    3 ≤ Run.stage (settings.leniently.run sink).result := by
  rw [run_eq_of_rejection?_eq_none settings.rejection?_leniently, Report.deliver]
  rcases sink.deliver _ with ⟨_ | _, after⟩
  · exact Nat.le_refl 3
  · exact Nat.le_succ 3

/-- A strict run that fails records a beginning of what the lenient run records. -/
theorem events_strict_prefix_lenient {settings : Settings} {sink : Sink} {failure : Failure}
    (h : (settings.strictly.run sink).result = .error failure) :
    (settings.strictly.run sink).events <+: (settings.leniently.run sink).events := by
  have hstage : Run.stage (.error failure) ≤ Run.stage (settings.leniently.run sink).result :=
    Nat.le_trans (Run.stage_error_le failure) (settings.three_le_stage_lenient sink)
  rw [events_run, events_run, trace_strictly, h]
  exact List.take_prefix_take_left hstage

/-- **A strict run only restricts.** If it rejects the settings, it has not touched the sink, and
its log is a beginning of the log of the lenient run from the same sink.  Otherwise the two runs
have the same result, leave the same sink and give the same log, whatever the filter. -/
theorem strict_run_restricts (settings : Settings) (sink : Sink) (filter : Filter) :
    let strict := { settings with strict := true }.run sink
    let lenient := { settings with strict := false }.run sink
    match strict.result with
    | .error (.overflow _ _) | .error (.nameTooLong _ _) | .error (.controlCharacters _) =>
      strict.sink = sink ∧ ∃ rest, filter.log lenient.events = filter.log strict.events ++ rest
    | .ok _ | .error (.output _) =>
      strict.result = lenient.result ∧ strict.sink = lenient.sink ∧
        filter.log strict.events = filter.log lenient.events := by
  intro strict lenient
  cases h : settings.strictly.rejection? with
  | none =>
    have hrun : strict = lenient := run_strict_eq_lenient h sink
    have hstage : 3 ≤ Run.stage strict.result := hrun ▸ settings.three_le_stage_lenient sink
    have hsame : strict.result = lenient.result ∧ strict.sink = lenient.sink ∧
        filter.log strict.events = filter.log lenient.events := by
      rw [hrun]
      exact ⟨rfl, rfl, rfl⟩
    cases hresult : strict.result with
    | ok report =>
      rw [hresult] at hsame
      exact hsame
    | error failure =>
      rw [hresult] at hsame hstage
      cases failure with
      | output fault => exact hsame
      | overflow | nameTooLong | controlCharacters => simp [Run.stage] at hstage
  | some failure =>
    obtain ⟨hresult, hsink⟩ : strict.result = .error failure ∧ strict.sink = sink :=
      run_of_rejection?_eq_some h sink
    have hstopped : strict.sink = sink ∧
        ∃ rest, filter.log lenient.events = filter.log strict.events ++ rest :=
      ⟨hsink, filter.exists_log_eq_append (events_strict_prefix_lenient hresult)⟩
    rw [hresult]
    cases failure with
    | overflow | nameTooLong | controlCharacters => exact hstopped
    | output fault => exact absurd h (settings.strictly.rejection?_ne_output fault)

end SumGreeting.Settings
