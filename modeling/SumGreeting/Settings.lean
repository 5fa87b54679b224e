import SumGreeting.Report
import SumGreeting.Text.Quoted

/-!
# Settings of a run

What a run adds, whom it greets, how it reports, and how strict it is.

## Main definitions

* `Settings` : the settings, with their defaults.
* `Settings.describe` : the settings as one line of text.
-/

namespace SumGreeting

/-- The settings of a run. -/
structure Settings where
  /-- The first operand. -/
  first : Int32 := 5
  /-- The second operand. -/
  second : Int32 := 3
  /-- The name to greet. -/
  name : String := "World"
  /-- How the report is rendered. -/
  format : Format := .text
  /-- Whether notices on the error stream are suppressed. -/
  quiet : Bool := false
  /-- Whether a sum out of range and an unacceptable name are rejected. -/
  strict : Bool := false
  deriving DecidableEq

namespace Settings

/-- The settings of a run for which nothing was chosen. -/
def standard : Settings := {}

instance : Inhabited Settings := ⟨standard⟩

/-- The word for a switch that is on or off. -/
def switchWord : Bool → String
  | true => "true"
  | false => "false"

/-- The settings as one line of text, with all of their parts. -/
def describe (settings : Settings) : String :=
  "Config \x7b a: " ++ settings.first.toInt.repr ++ ", b: " ++ settings.second.toInt.repr ++
    ", name: " ++ Quoted.quote settings.name ++ ", format: " ++ settings.format.name ++
    ", quiet: " ++ switchWord settings.quiet ++ ", strict: " ++ switchWord settings.strict ++
    " \x7d"

end Settings

end SumGreeting
