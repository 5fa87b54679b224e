import SumGreeting.Diagnostics
import SumGreeting.Run

/-!
# Sessions

In one session any number of operations share a quiet switch and a sink.  Each gives an answer.
Only one operation changes the switch, and it matters only to the text of notices.  An operation
that chooses a filter and crashes at it leaves the switch and the sink as they are.

## Main definitions

* `Operation` : what can be asked for in a session.
* `Answer` : what an operation answers.
* `Session` : the quiet switch and the sink.
* `Session.step`, `Session.run` : one operation, and several in order.
-/

namespace SumGreeting

/-- What can be asked for in a session. -/
inductive Operation where
  /-- Turns the quiet switch on or off. -/
  | setQuiet (quiet : Bool)
  /-- Asks for the quiet switch. -/
  | isQuiet
  /-- Writes a notice. -/
  | notify (text : String)
  /-- Chooses a filter. -/
  | chooseFilter (text : Option String) (verbosity : Nat)
  /-- Makes a run whose log is not shown. -/
  | run (settings : Settings)
  /-- Chooses a filter, and makes a run whose log is shown through it. -/
  | runLogged (settings : Settings) (text : Option String) (verbosity : Nat)
  /-- Delivers a report. -/
  | deliver (report : Report) (format : Format)
  /-- Adds two operands, wrapping around. -/
  | addWrapping (a b : Int32)
  /-- Adds two operands exactly. -/
  | addExact (a b : Int32)
  /-- Greets a name. -/
  | greet (greeter : Greeter) (name : String)
  /-- Examines a name. -/
  | validateName (name : String)
  deriving DecidableEq

/-- What an operation answers.  Notices stand apart from everything else. -/
inductive Answer where
  /-- The quiet switch. -/
  | quiet (quiet : Bool)
  /-- The text of a notice. -/
  | notice (text : String)
  /-- The chosen filter, and the text of the warning about a rejected one. -/
  | filter (filter : Filter) (warning : String)
  /-- The result of a run, the bytes that it added to the sink, and the number of flush calls. -/
  | run (result : Except Failure Report) (added : List UInt8) (flushes : Nat)
  /-- The same, with the log and the text of the warning about a rejected filter. -/
  | runLogged (result : Except Failure Report) (added : List UInt8) (flushes : Nat)
      (log warning : String)
  /-- The result of a delivery, the bytes that it added, and the number of flush calls. -/
  | delivery (result : Except Failure Unit) (added : List UInt8) (flushes : Nat)
  /-- A sum. -/
  | sum (sum : Int32)
  /-- An exact sum, or why there is none. -/
  | exactSum (result : Except Failure Int32)
  /-- A greeting. -/
  | greeting (text : String)
  /-- Whether a name is acceptable. -/
  | verdict (result : Except Failure Unit)
  /-- The operation crashed. -/
  | crashed (crash : Crash)

/-- What the operations of a session share. -/
structure Session where
  /-- Whether notices are suppressed. -/
  quiet : Bool := false
  /-- Where reports are delivered. -/
  sink : Sink
  deriving DecidableEq

namespace Session

/-- The bytes that the sink after an operation holds in addition. -/
def added (session : Session) (after : Sink) : List UInt8 :=
  after.held.drop session.sink.held.length

/-- One operation. -/
def step (reader : Directive.Reader) (session : Session) : Operation → Answer × Session
  | .setQuiet quiet => (.quiet quiet, { session with quiet })
  | .isQuiet => (.quiet session.quiet, session)
  | .notify text => (.notice (noticeText session.quiet text), session)
  | .chooseFilter text verbosity =>
    match Filter.choose reader text verbosity with
    | .error crash => (.crashed crash, session)
    | .ok (filter, rejection) =>
      (.filter filter (Filter.rejectionText session.quiet rejection), session)
  | .run settings =>
    let run := settings.run session.sink
    (.run run.result (session.added run.sink) run.sink.flushes, { session with sink := run.sink })
  | .runLogged settings text verbosity =>
    match Filter.choose reader text verbosity with
    | .error crash => (.crashed crash, session)
    | .ok (filter, rejection) =>
      let run := settings.run session.sink
      (.runLogged run.result (session.added run.sink) run.sink.flushes (filter.log run.events)
          (Filter.rejectionText session.quiet rejection),
        { session with sink := run.sink })
  | .deliver report format =>
    let (result, after) := report.deliver format session.sink
    (.delivery result (session.added after) after.flushes, { session with sink := after })
  | .addWrapping a b => (.sum (wrappingSum a b), session)
  | .addExact a b => (.exactSum (checkedSum a b), session)
  | .greet greeter name => (.greeting (greeter.greet name), session)
  | .validateName name => (.verdict (Name.validate name), session)

/-- The operations in order, with their answers. -/
def run (reader : Directive.Reader) (session : Session) :
    List Operation → List Answer × Session
  | [] => ([], session)
  | operation :: rest =>
    let (answer, next) := session.step reader operation
    let (answers, last) := run reader next rest
    (answer :: answers, last)

end Session

end SumGreeting
