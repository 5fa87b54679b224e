import Mathlib.Tactic.SplitIfs
import SumGreeting.Proofs.Filter.MaxThreshold
import SumGreeting.Proofs.Rejection

/-!
# The trace of a run

A run can record four events, always in the same order, and it stops recording where it fails.  So
its events are a beginning of one list that depends on the settings alone, and how the run ends
tells how long this beginning is.

## Main definitions

* `Settings.trace` : all that a run can record.
* `Run.stage` : how many events a run records that ends in a given way.

## Main results

* `Settings.events_run` : the events of a run are the beginning of its trace up to its stage.
* `Filter.log_append`, `Filter.exists_log_eq_append` : the log of more events continues the log.
* `Filter.log_run_eq_empty` : no run is logged below the threshold for information.
-/

namespace SumGreeting

/-! ### Events -/

/-- All that a run with the settings can record, in order. -/
def Settings.trace (settings : Settings) : List Event :=
  [.runStarted settings, .sumComputed settings.report.sum,
    .greetingBuilt settings.report.greeting, .runFinished]

theorem Settings.mem_trace_iff {settings : Settings} {event : Event} :
    event ∈ settings.trace ↔ event = .runStarted settings ∨
      event = .sumComputed settings.report.sum ∨
      event = .greetingBuilt settings.report.greeting ∨ event = .runFinished := by
  simp only [trace, List.mem_cons, List.not_mem_nil, or_false]

/-- How many events a run records that ends with the result: a sum out of range stops it after the
first one, an unacceptable name after the second one, and a failed delivery before the last one. -/
def Run.stage : Except Failure Report → Nat
  | .error (.overflow _ _) => 1
  | .error (.nameTooLong _ _) | .error (.controlCharacters _) => 2
  | .error (.output _) => 3
  | .ok _ => 4

/-- A run that fails does not record the last event. -/
theorem Run.stage_error_le (failure : Failure) : Run.stage (.error failure) ≤ 3 := by
  cases failure <;> simp [stage]

/-- The name is the reason to turn settings down whose sum is in range. -/
theorem Settings.stage_of_rejection?_eq_some {settings : Settings} {failure : Failure}
    (hfits : ¬ (settings.strict = true ∧ settings.Overflows))
    (h : settings.rejection? = some failure) : Run.stage (.error failure) = 2 := by
  rw [rejection?] at h
  split_ifs at h with hlenient hover
  · exact absurd ⟨by simpa using hlenient, hover⟩ hfits
  · cases h
    rfl
  · cases h
    rfl

/-- **The events of a run** are the beginning of its trace that its result tells. -/
theorem Settings.events_run (settings : Settings) (sink : Sink) :
    (settings.run sink).events =
      settings.trace.take (Run.stage (settings.run sink).result) := by
  by_cases hover : settings.strict = true ∧ settings.Overflows
  · rw [run, sum_eq, if_pos hover]
    rfl
  · cases h : settings.rejection? with
    | some failure =>
      rw [run, sum_eq, if_neg hover, checkName_eq hover, h]
      dsimp only
      rw [stage_of_rejection?_eq_some hover h]
      rfl
    | none =>
      rw [run_eq_of_rejection?_eq_none h, Report.deliver]
      rcases sink.deliver (settings.report.pieces settings.format) with ⟨_ | _, after⟩ <;> rfl

/-- No event of a run is more important than information. -/
theorem Settings.three_le_rank_of_mem_events {settings : Settings} {sink : Sink} {event : Event}
    (h : event ∈ (settings.run sink).events) : 3 ≤ event.severity.rank := by
  rw [events_run] at h
  rcases mem_trace_iff.1 (List.mem_of_mem_take h) with rfl | rfl | rfl | rfl
  · exact Nat.le_refl 3
  · exact Nat.le_succ 3
  · exact Nat.le_succ 3
  · exact Nat.le_refl 3

/-! ### Lines of the log -/

namespace Filter

variable (filter : Filter)

theorem log_append (events rest : List Event) :
    filter.log (events ++ rest) = filter.log events ++ filter.log rest := by
  rw [log, List.filter_append, List.map_append, String.join_append]
  rfl

/-- The log of the beginning of a list of events is a beginning of the log. -/
theorem exists_log_eq_append {events events' : List Event} (h : events <+: events') :
    ∃ rest, filter.log events' = filter.log events ++ rest := by
  obtain ⟨rest, rfl⟩ := h
  exact ⟨filter.log rest, filter.log_append events rest⟩

/-- Events that the filter does not let through leave no line. -/
theorem log_eq_empty {events : List Event} (h : ∀ event ∈ events, filter.enables event = false) :
    filter.log events = "" := by
  have hnone : events.filter filter.enables = [] :=
    List.filter_eq_nil_iff.2 fun event hevent => by simp [h event hevent]
  rw [log, hnone]
  rfl

/-- A filter with one threshold lets through what the threshold allows. -/
theorem enables_ofThreshold (threshold : Threshold) (event : Event) :
    (ofThreshold threshold).enables event = threshold.allows event.severity := rfl

/-- Below the threshold for information a run leaves no line. -/
theorem log_run_eq_empty {filter : Filter} (h : filter.maxThreshold.rank < 3) (settings : Settings)
    (sink : Sink) : filter.log (settings.run sink).events = "" := by
  refine log_eq_empty _ fun event hevent => ?_
  have hrank := Settings.three_le_rank_of_mem_events hevent
  cases hlogged : filter.enables event with
  | false => rfl
  | true =>
    have hbound := rank_le_of_permits hlogged
    omega

end Filter

end SumGreeting
