import SumGreeting.Greeting
import SumGreeting.Log.Event
import SumGreeting.Name
import SumGreeting.Output.Sink
import SumGreeting.Settings
import SumGreeting.Sum

/-!
# Runs

A run adds the operands, greets the name and delivers the report to a sink.  A strict run rejects a
sum out of range and then an unacceptable name, before anything is written.  On its way a run
records events for the log; which of them are shown is not its concern.

## Main definitions

* `Settings.sum`, `Settings.checkName` : the sum of a run, and what it demands of the name.
* `Report.deliver` : delivers a report to a sink.
* `Run` : the result of a run, the sink after it, and the events on its way.
* `Settings.run` : the run with the given settings and sink.
-/

namespace SumGreeting

/-! ### The parts of a run -/

namespace Settings

/-- The sum of the operands: the exact one in a strict run, the wrapping one otherwise. -/
def sum (settings : Settings) : Except Failure Int32 :=
  if settings.strict then checkedSum settings.first settings.second
  else .ok (wrappingSum settings.first settings.second)

/-- A strict run accepts only names that `Name.validate` accepts, any other run accepts all. -/
def checkName (settings : Settings) : Except Failure Unit :=
  if settings.strict then Name.validate settings.name else .ok ()

end Settings

/-- Delivers the report to the sink, piece by piece. -/
def Report.deliver (report : Report) (format : Format) (sink : Sink) :
    Except Failure Unit × Sink :=
  match sink.deliver (report.pieces format) with
  | (.ok (), after) => (.ok (), after)
  | (.error fault, after) => (.error (.output fault), after)

/-! ### The events of a run -/

namespace Event

/-- The target of the events of a run. -/
def runTarget : String := "hello_sum::cli::run"

/-- A run with the settings begins. -/
def runStarted (settings : Settings) : Event where
  severity := .info
  target := runTarget
  message := "starting run"
  fields := [("a", settings.first.toInt.repr), ("b", settings.second.toInt.repr),
    ("name", settings.name)]

/-- The sum is known. -/
def sumComputed (sum : Int32) : Event where
  severity := .debug
  target := runTarget
  message := "computed sum"
  fields := [("sum", sum.toInt.repr)]

/-- The greeting is known. -/
def greetingBuilt (greeting : String) : Event where
  severity := .debug
  target := runTarget
  message := "built greeting"
  fields := [("greeting", greeting)]

/-- The report was delivered. -/
def runFinished : Event where
  severity := .info
  target := runTarget
  message := "run finished"

end Event

/-! ### Runs -/

/-- What is known after a run. -/
structure Run where
  /-- The report that was delivered, or why the run failed. -/
  result : Except Failure Report
  /-- The sink after the run. -/
  sink : Sink
  /-- The events on the way, in order. -/
  events : List Event

/-- The run with the settings, delivering to the sink.  It ends with the first failure. -/
def Settings.run (settings : Settings) (sink : Sink) : Run :=
  let started := Event.runStarted settings
  match settings.sum with
  | .error failure => ⟨.error failure, sink, [started]⟩
  | .ok sum =>
    let computed := Event.sumComputed sum
    match settings.checkName with
    | .error failure => ⟨.error failure, sink, [started, computed]⟩
    | .ok () =>
      let report : Report := ⟨sum, greet settings.name⟩
      let built := Event.greetingBuilt report.greeting
      match report.deliver settings.format sink with
      | (.error failure, after) => ⟨.error failure, after, [started, computed, built]⟩
      | (.ok (), after) => ⟨.ok report, after, [started, computed, built, .runFinished]⟩

end SumGreeting
