import SumGreeting.Proofs.Filter.Answers
import SumGreeting.Proofs.Precedence
import SumGreeting.Proofs.Trace

/-!
# The records of a run in the log

The log of a run tells how far the run got and what it computed on its way.  It has the records of
the events that the run reached and that the filter lets through, in the order of the run, and
nothing else.  The values in them are the ones of the settings and of the report; the last record
vouches for the delivery of the whole report.

## Main definitions

* `LogRecord` : a record of the log, with what a filter asks about it.
* `Settings.records` : the records that a run can leave, word for word.
* `Report.IsDelivered` : a report was written as a whole and flushed without an error.

## Main results

* `Settings.map_logRecord_trace` : the records belong to the events of a run.
* `Settings.log_run` : the log has the records of the events that are reached and let through.
* `Settings.isDelivered_of_result_eq_ok` : a run that succeeds delivers its report.
* `Settings.log_run_faithful` : the log in full, and what its last record vouches for.
-/

namespace SumGreeting

/-! ### Records -/

/-- A record of the log, with what a filter asks about it. -/
structure LogRecord where
  /-- How important the event is. -/
  severity : Severity
  /-- The names of the fields of the event. -/
  names : List String
  /-- The text of the record. -/
  line : String
  deriving DecidableEq

/-- The record of an event. -/
def Event.logRecord (event : Event) : LogRecord :=
  ⟨event.severity, event.fieldNames, event.line⟩

/-- The record of a run that has delivered its report. -/
def LogRecord.finished : LogRecord := ⟨.info, ["message"], " INFO run finished\n"⟩

/-- The records that a run with the settings can leave for its report, in order and word for
word. -/
def Settings.records (settings : Settings) (report : Report) : List LogRecord :=
  [⟨.info, ["message", "a", "b", "name"],
      " INFO starting run a=" ++ settings.first.toInt.repr ++ " b=" ++ settings.second.toInt.repr ++
        " name=" ++ settings.name ++ "\n"⟩,
    ⟨.debug, ["message", "sum"], "DEBUG computed sum sum=" ++ report.sum.toInt.repr ++ "\n"⟩,
    ⟨.debug, ["message", "greeting"],
      "DEBUG built greeting greeting=" ++ report.greeting ++ "\n"⟩,
    .finished]

/-- The whole report was written, and then flushed without an error. -/
structure Report.IsDelivered (report : Report) (format : Format) (before after : Sink) :
    Prop where
  /-- All bytes of the rendering were taken. -/
  held : after.held = before.held ++ Utf8.encode (report.render format)
  /-- There was one flush call. -/
  flushes : after.flushes = before.flushes + 1
  /-- The flush call did not fail. -/
  flushed : before.device.flushFails = false

namespace Settings

variable {settings : Settings} {sink : Sink}

/-- The records are the ones of the events that a run can record. -/
theorem map_logRecord_trace (settings : Settings) :
    settings.trace.map Event.logRecord = settings.records settings.report := by
  simp only [trace, records, LogRecord.finished, Event.logRecord, Event.runStarted,
    Event.sumComputed, Event.greetingBuilt, Event.runFinished, Event.fieldNames, Event.line,
    Event.fieldText, Severity.label, List.map_cons, List.map_nil, List.cons.injEq,
    LogRecord.mk.injEq, true_and, and_true]
  refine ⟨?_, ?_, ?_, ?_⟩ <;> exact String.toList_inj.1 (by simp)

theorem target_of_mem_trace {event : Event} (h : event ∈ settings.trace) :
    event.target = "hello_sum::cli::run" := by
  rcases mem_trace_iff.1 h with rfl | rfl | rfl | rfl <;> rfl

/-- The log of a run has the records of the events that it reached and that the filter lets
through. -/
theorem log_run (settings : Settings) (sink : Sink) (filter : Filter) :
    filter.log (settings.run sink).events =
      String.join ((((settings.records settings.report).take
        (Run.stage (settings.run sink).result)).filter fun record =>
          filter.permits record.severity "hello_sum::cli::run" record.names).map
            LogRecord.line) := by
  have henables : ∀ event ∈ settings.trace.take (Run.stage (settings.run sink).result),
      filter.enables event =
        filter.permits event.severity "hello_sum::cli::run" event.fieldNames := by
    intro event hevent
    rw [Filter.enables, target_of_mem_trace (List.mem_of_mem_take hevent)]
  rw [Filter.log, events_run, ← map_logRecord_trace, ← List.map_take, List.filter_map, List.map_map,
    List.filter_congr henables]
  rfl

/-! ### How far a run gets -/

/-- A run that is turned down does not get to its delivery. -/
theorem stage_le_two_of_rejection?_eq_some {failure : Failure}
    (h : settings.rejection? = some failure) : Run.stage (.error failure) ≤ 2 := by
  by_cases hover : settings.strict = true ∧ settings.Overflows
  · obtain rfl := Option.some.inj ((rejection?_of_overflows hover).symm.trans h)
    exact Nat.le_succ 1
  · exact Nat.le_of_eq (stage_of_rejection?_eq_some hover h)

/-- A run that knows its sum has a sum in range, unless it may wrap around. -/
theorem not_overflows_of_two_le_stage (h : 2 ≤ Run.stage (settings.run sink).result) :
    ¬ (settings.strict = true ∧ settings.Overflows) := by
  intro hover
  rw [(run_of_rejection?_eq_some (rejection?_of_overflows hover) sink).1] at h
  exact absurd h (Nat.not_succ_le_self 1)

/-- A run that gets to its delivery was not turned down. -/
theorem rejection?_eq_none_of_three_le_stage (h : 3 ≤ Run.stage (settings.run sink).result) :
    settings.rejection? = none := by
  cases hrejection : settings.rejection? with
  | none => rfl
  | some failure =>
    rw [(run_of_rejection?_eq_some hrejection sink).1] at h
    exact absurd (Nat.le_trans h (stage_le_two_of_rejection?_eq_some hrejection)) (by decide)

/-- A run that gets to its delivery writes as much of its report as the sink takes. -/
theorem held_run_of_three_le_stage (h : 3 ≤ Run.stage (settings.run sink).result) :
    (settings.run sink).sink.held =
      sink.held ++ sink.fitting (Utf8.encode (settings.report.render settings.format)) := by
  rw [sink_run, rejection?_eq_none_of_three_le_stage h]
  exact Report.held_deliver _ _ _

/-- **A run that succeeds delivers its report.** -/
theorem isDelivered_of_result_eq_ok {report : Report}
    (h : (settings.run sink).result = .ok report) :
    report = settings.report ∧
      settings.report.IsDelivered settings.format sink (settings.run sink).sink := by
  have hstage : 3 ≤ Run.stage (settings.run sink).result := by
    rw [h]
    exact Nat.le_succ 3
  have hrejection := rejection?_eq_none_of_three_le_stage hstage
  have hresult := result_run_of_not_rejected (rejection?_eq_none_iff.1 hrejection) sink
  rw [h] at hresult
  split_ifs at hresult with hroom hflush
  have hfits := (Sink.fitting_eq_self_iff_hasRoomFor
    (settings.report.encode_render_ne_nil settings.format)).2 hroom
  refine ⟨Except.ok.inj hresult, ?_, ?_, by simpa using hflush⟩
  · rw [held_run_of_three_le_stage hstage, hfits]
  · rw [sink_run, hrejection]
    dsimp only
    rw [Report.snd_deliver, Sink.flushes_deliver, Report.flatMap_encode_pieces, if_pos hfits]

/-! ### The last record -/

/-- Only a run that succeeds gets to the last record. -/
theorem exists_result_eq_ok_of_finished_mem {result : Except Failure Report}
    (h : LogRecord.finished ∈ (settings.records settings.report).take (Run.stage result)) :
    ∃ report, result = .ok report := by
  cases result with
  | ok report => exact ⟨report, rfl⟩
  | error failure =>
    have hmem : LogRecord.finished ∈ (settings.records settings.report).take 3 :=
      (List.take_prefix_take_left (Run.stage_error_le failure)).mem h
    simp [records, LogRecord.finished] at hmem

/-- The last record is different from all others. -/
theorem count_finished_records (settings : Settings) (report : Report) :
    (settings.records report).count .finished = 1 := by
  simp [records, LogRecord.finished]

/-- **The log of a run is a faithful trace of it.** A text and a verbosity lead to a filter if the
reader answers.  Whatever this filter, the log is made of the records of exactly those events that
the run reached and that the filter lets through, in the order of the run; how far the run got is
told by its result.  They show the operands, the name, the sum and the greeting of the report, and
the report is the one that the run writes.  The last record is there at most once, and only if the
whole report was written and flushed without an error. -/
theorem log_run_faithful (settings : Settings) (sink : Sink) {reader : Directive.Reader}
    {text : Option String} (h : Filter.Answers reader text) (verbosity : Nat) :
    ∃ filter rejection, Filter.choose reader text verbosity = .ok (filter, rejection) ∧
      let run := settings.run sink
      let report := settings.report
      let logged := ((settings.records report).take (Run.stage run.result)).filter fun record =>
        filter.permits record.severity "hello_sum::cli::run" record.names
      filter.log run.events = String.join (logged.map LogRecord.line) ∧
        report.greeting = "Hello, " ++ settings.name ++ "!" ∧
        (2 ≤ Run.stage run.result → report.sum.toInt = settings.total) ∧
        (3 ≤ Run.stage run.result → run.sink.held =
          sink.held ++ sink.fitting (Utf8.encode (report.render settings.format))) ∧
        (.finished ∈ logged → run.result = .ok report ∧
          report.IsDelivered settings.format sink run.sink) ∧
        logged.count .finished ≤ 1 := by
  obtain ⟨filter, rejection, hchoose⟩ := Filter.exists_choose_eq_ok h verbosity
  refine ⟨filter, rejection, hchoose, ?_⟩
  intro run report logged
  have hsublist : logged.Sublist (settings.records report) :=
    List.filter_sublist.trans (List.take_sublist _ _)
  refine ⟨settings.log_run sink filter, greet_eq settings.name, fun hstage => ?_,
    held_run_of_three_le_stage, fun hmem => ?_, ?_⟩
  · exact toInt_sum_report_eq_total (not_overflows_of_two_le_stage hstage)
  · obtain ⟨report', hresult⟩ :=
      exists_result_eq_ok_of_finished_mem (List.mem_of_mem_filter hmem)
    obtain ⟨rfl, hdelivered⟩ := isDelivered_of_result_eq_ok hresult
    exact ⟨hresult, hdelivered⟩
  · exact (hsublist.count_le _).trans (Nat.le_of_eq (settings.count_finished_records report))

/-- A run whose name is turned down leaves two records under a filter for debugging. -/
theorem log_run_faithful_bad_name :
    let sink : Sink := { device := { fault := .deviceFull } }
    ∃ filter rejection,
      Filter.choose Directive.Language.lenient.read (some "debug") 0 = .ok (filter, rejection) ∧
        filter.log (Settings.run { name := "\t", strict := true } sink).events =
          " INFO starting run a=5 b=3 name=\t\nDEBUG computed sum sum=8\n" := by
  intro sink
  have hanswers : Filter.Answers Directive.Language.lenient.read (some "debug") :=
    Filter.answers_of_heads _ (by decide)
  obtain ⟨filter, rejection, hchoose, hlog, -⟩ :=
    log_run_faithful { name := "\t", strict := true } sink hanswers 0
  refine ⟨filter, rejection, hchoose, ?_⟩
  have hread : Filter.choose Directive.Language.lenient.read (some "debug") 0 =
      .ok (.ofThreshold .debug, none) := by decide
  rw [hread] at hchoose
  cases hchoose
  have hresult : (Settings.run { name := "\t", strict := true } sink).result =
      .error (.controlCharacters "\t") :=
    (run_of_rejection?_eq_some (by decide) sink).1
  rw [hlog, hresult]
  decide

end Settings

end SumGreeting
