import SumGreeting.CommandLine.Invocation
import SumGreeting.Diagnostics
import SumGreeting.Run

/-!
# The program

The program reads its arguments and makes the run that they ask for.  Help, the version and usage
errors take the place of a run.  The report goes to the standard output; the error stream gets, in
this order, the warning about an unusable filter, the notice of a strict run, the log, and the
message of a failure.  Where the filter cannot be read for a crash, the program ends before the run.

## Main definitions

* `Stdout` : where the standard output goes.
* `Outcome` : exit code, standard output and error stream.
* `Program.outcome` : the outcome of the program.
* `Program.diagnosticsOf` : the error stream of a process that installs several filters before a
  run.
-/

namespace SumGreeting

/-- Where the standard output goes. -/
inductive Stdout where
  /-- Everything is taken. -/
  | captured
  /-- Every write fails. -/
  | failing (fault : FatalFault)
  deriving DecidableEq

/-- The standard output as a sink.  A captured one never fails, so its fault does not matter. -/
def Stdout.sink : Stdout → Sink
  | captured => { device := { fault := .readerGone } }
  | failing fault => { device := { limit := some 0, fault } }

/-- The bytes that reach the standard output when a text is written and a failure is ignored. -/
def Stdout.show (stdout : Stdout) (text : String) : List UInt8 :=
  (stdout.sink.deliver [text]).2.held

/-- What is known of a program that has ended. -/
structure Outcome where
  /-- The exit code. -/
  code : Nat
  /-- The bytes on the standard output. -/
  stdout : List UInt8
  /-- The text on the error stream. -/
  stderr : String
  deriving DecidableEq

namespace Program

/-- The notice of a strict run. -/
def strictNotice : String := "strict mode: validating input"

/-- The line for a failure. -/
def errorLine (failure : Failure) : String :=
  "error: " ++ CommandLine.programName ++ " run failed: " ++ failure.chain ++ "\n"

/-- The text of the filter in the environment; a value that encodes no text counts as missing. -/
def filterText (log : Option OsText) : Option String :=
  log.bind OsText.toString?

/-- The outcome where the arguments start no run.  On the error stream, white space suspends a
control sequence. -/
def stopOutcome (stop : CommandLine.Stop) (stdout : Stdout) : Outcome :=
  match stop with
  | .usage error => ⟨stop.exitCode, [], error.message .suspends⟩
  | .help | .version => ⟨stop.exitCode, stdout.show stop.text, ""⟩

/-- The notice of a strict run, where the settings ask for one. -/
def announce (settings : Settings) (diagnostics : Diagnostics) : Diagnostics :=
  if settings.strict then diagnostics.notify strictNotice else diagnostics

variable (reader : Directive.Reader)

/-- The outcome of the run that the arguments ask for. -/
def runOutcome (invocation : CommandLine.Invocation) (log : Option OsText) (stdout : Stdout) :
    Outcome :=
  let settings := invocation.settings
  let installed := Diagnostics.install reader { quiet := settings.quiet } (filterText log)
    invocation.verbosity
  match installed with
  | .error crash => ⟨Crash.exitCode, [], crash.report⟩
  | .ok prepared =>
    let run := settings.run stdout.sink
    let diagnostics := (announce settings prepared).recordAll run.events
    match run.result with
    | .ok _ => ⟨0, run.sink.held, diagnostics.written⟩
    | .error failure => ⟨1, run.sink.held, (diagnostics.write (errorLine failure)).written⟩

/-- The outcome of the program for its arguments, the value of the environment variable with the
filter, and the standard output. -/
def outcome (arguments : List OsText) (log : Option OsText) (stdout : Stdout) : Outcome :=
  match CommandLine.parse arguments with
  | .error stop => stopOutcome stop stdout
  | .ok invocation => runOutcome reader invocation log stdout

/-- The diagnostics of a process that makes an installation for each of the verbosities and then a
run, the failure of which is not reported. -/
def diagnosticsOf (verbosities : List Nat) (log : Option OsText) (quiet : Bool)
    (settings : Settings) (sink : Sink) : Except Crash Diagnostics :=
  match Diagnostics.installAll reader { quiet } (filterText log) verbosities with
  | .error crash => .error crash
  | .ok prepared => .ok (prepared.recordAll (settings.run sink).events)

end Program

end SumGreeting
