import SumGreeting.Program

/-!
# The command

The command hands its arguments and its environment to `Program.outcome`, writes what that says,
and ends with its exit code.  It can be made with any reader of directives.
-/

namespace SumGreeting.Program

/-- The fault behind a failed write to the standard output. -/
def faultOf : IO.Error → FatalFault
  | .resourceVanished 32 _ => .readerGone
  | .resourceExhausted _ 28 _ => .deviceFull
  | error => { kind := .other, message := toString error }

variable (reader : Directive.Reader)

/-- Writes the standard output of a captured run; if that fails, the outcome is the one of a
standard output that fails in this way. -/
def perform (arguments : List OsText) (log : Option OsText) : IO Outcome := do
  let planned := outcome reader arguments log .captured
  try
    let stdout ← IO.getStdout
    stdout.write planned.stdout.toByteArray
    stdout.flush
    return planned
  catch error =>
    return outcome reader arguments log (.failing (faultOf error))

/-- Runs the program with its arguments. -/
def main (arguments : List String) : IO UInt32 := do
  let log ← IO.getEnv Filter.variableName
  let outcome ← perform reader (arguments.map OsText.ofString) (log.map OsText.ofString)
  (← IO.getStderr).putStr outcome.stderr
  return outcome.code.toUInt32

end SumGreeting.Program
