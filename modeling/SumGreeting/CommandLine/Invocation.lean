import SumGreeting.CommandLine.Progress
import SumGreeting.Settings

/-!
# Invocations

A usable command line asks for a run with certain settings and for a certain verbosity.  What it
does not mention has the default.

## Main definitions

* `Invocation` : what a usable command line asks for.
* `Choices.settings` : the settings with the chosen parts in place of the defaults.
* `parse` : the invocation that the arguments ask for, or why there is none.
-/

namespace SumGreeting.CommandLine

/-- What a usable command line asks for. -/
structure Invocation where
  /-- The settings of the run. -/
  settings : Settings
  /-- How often more output was asked for. -/
  verbosity : Nat
  deriving DecidableEq

/-- The settings with the chosen parts in place of the defaults. -/
def Choices.settings (choices : Choices) : Settings where
  first := choices.first.getD Settings.standard.first
  second := choices.second.getD Settings.standard.second
  name := choices.name.getD Settings.standard.name
  format := if choices.json then .json else .text
  quiet := choices.quiet
  strict := choices.strict

/-- The invocation at the end of the arguments: the last value is examined now. -/
def Progress.finish (progress : Progress) : Except Stop Invocation :=
  match progress.resolve with
  | .error stop => .error stop
  | .ok last => .ok ⟨last.choices.settings, last.choices.verbosity⟩

/-- The invocation that the arguments ask for, or why there is none. -/
def parse (arguments : List OsText) : Except Stop Invocation :=
  match Progress.run {} arguments with
  | .error stop => .error stop
  | .ok progress => progress.finish

end SumGreeting.CommandLine
