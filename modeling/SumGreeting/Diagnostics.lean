import SumGreeting.Log.Filter

/-!
# Diagnostics

A process writes diagnostics to its error stream: notices, lines of the log, and the message of the
error it ends with.  The quiet switch suppresses the notices and nothing else.  The log is shown
through the first filter that was installed; a later installation leaves the filter as it is and
records an event instead.  An installation whose filter cannot be read for a crash is not completed.

## Main definitions

* `Diagnostics` : the quiet switch, the installed filter, and what was written.
* `Diagnostics.notify` : writes a notice.
* `Diagnostics.recordAll` : shows events through the installed filter.
* `Diagnostics.install`, `Diagnostics.installAll` : choose a filter and install it if there is none,
  once and for each of several verbosities.
-/

namespace SumGreeting

/-- The lines of a notice: nothing when quiet. -/
def noticeText (quiet : Bool) (text : String) : String :=
  if quiet then "" else text ++ "\n"

/-- The lines that warn of a rejected filter, if one was rejected: nothing when quiet. -/
def Filter.rejectionText (quiet : Bool) : Option Filter.Rejection → String
  | none => ""
  | some rejection => noticeText quiet rejection.warning

/-- The error stream of a process and what decides about it. -/
structure Diagnostics where
  /-- Whether notices are suppressed. -/
  quiet : Bool := false
  /-- The filter of the log, once one was installed. -/
  filter : Option Filter := none
  /-- What was written to the error stream. -/
  written : String := ""
  deriving DecidableEq

namespace Diagnostics

/-- Writes text to the error stream. -/
def write (diagnostics : Diagnostics) (text : String) : Diagnostics :=
  { diagnostics with written := diagnostics.written ++ text }

/-- Writes a notice, unless notices are suppressed. -/
def notify (diagnostics : Diagnostics) (text : String) : Diagnostics :=
  diagnostics.write (noticeText diagnostics.quiet text)

/-- The lines of the log for the events: none without a filter. -/
def logText (diagnostics : Diagnostics) (events : List Event) : String :=
  match diagnostics.filter with
  | none => ""
  | some filter => filter.log events

/-- Writes the lines of the log for the events. -/
def recordAll (diagnostics : Diagnostics) (events : List Event) : Diagnostics :=
  diagnostics.write (diagnostics.logText events)

/-- The event of an installation that comes too late. -/
def alreadyInstalled : Event where
  severity := .debug
  target := "hello_sum::logging"
  message := "tracing subscriber already installed: a global default trace dispatcher has " ++
    "already been set"

/-- Chooses the filter for the text and the verbosity, with a warning if the text is rejected.  The
filter is installed if there is none yet; otherwise the event of a late installation is
recorded. -/
def install (reader : Directive.Reader) (diagnostics : Diagnostics) (text : Option String)
    (verbosity : Nat) : Except Crash Diagnostics :=
  match Filter.choose reader text verbosity with
  | .error crash => .error crash
  | .ok (filter, rejection) =>
    let warned := diagnostics.write (Filter.rejectionText diagnostics.quiet rejection)
    match diagnostics.filter with
    | none => .ok { warned with filter := some filter }
    | some _ => .ok (warned.recordAll [alreadyInstalled])

/-- An installation for each of the verbosities, in order. -/
def installAll (reader : Directive.Reader) (diagnostics : Diagnostics) (text : Option String) :
    List Nat → Except Crash Diagnostics
  | [] => .ok diagnostics
  | verbosity :: rest =>
    match diagnostics.install reader text verbosity with
    | .error crash => .error crash
    | .ok next => installAll reader next text rest

end Diagnostics

end SumGreeting
