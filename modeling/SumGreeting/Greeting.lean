import SumGreeting.Text.Quoted

/-!
# Greetings

A greeter puts a salutation in front of a name and a suffix behind it.

## Main definitions

* `Greeter` : the salutation and the suffix.
* `Greeter.greet`, `greet` : the greeting of a name, by a greeter and by the default one.
* `Greeter.describe` : a greeter as one line of text.
-/

namespace SumGreeting

/-- The salutation in front of a name and the suffix behind it. -/
structure Greeter where
  /-- What stands in front of the name. -/
  salutation : String
  /-- What stands behind the name. -/
  suffix : String
  deriving DecidableEq

namespace Greeter

/-- The salutation of the default greeter. -/
def defaultSalutation : String := "Hello, "

/-- The suffix of the default greeter. -/
def defaultSuffix : String := "!"

/-- The greeter that says `Hello, ` and ends with an exclamation mark. -/
def standard : Greeter := ⟨defaultSalutation, defaultSuffix⟩

instance : Inhabited Greeter := ⟨standard⟩

/-- The greeting of a name. -/
def greet (greeter : Greeter) (name : String) : String :=
  greeter.salutation ++ name ++ greeter.suffix

/-- The greeter as one line of text, both of its parts quoted. -/
def describe (greeter : Greeter) : String :=
  "Greeter \x7b salutation: " ++ Quoted.quote greeter.salutation ++
    ", suffix: " ++ Quoted.quote greeter.suffix ++ " \x7d"

end Greeter

/-- The greeting of a name by the default greeter. -/
def greet (name : String) : String :=
  Greeter.standard.greet name

theorem greet_eq (name : String) : greet name = "Hello, " ++ name ++ "!" := rfl

end SumGreeting
