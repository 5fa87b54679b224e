import SumGreeting.Log.Level

/-!
# Events of the log

An event has a severity, a target that says which part of the program it comes from, a message and
fields.  A line of the log shows all but the target.

## Main definitions

* `Event` : an event.
* `Event.fieldNames` : the names that a filter can ask for.
* `Event.line` : the line of the log for an event.
-/

namespace SumGreeting

/-- An event of the log. -/
structure Event where
  /-- How important the event is. -/
  severity : Severity
  /-- The part of the program that the event comes from. -/
  target : String
  /-- What happened. -/
  message : String
  /-- The names and values of the fields, in the order in which they are shown. -/
  fields : List (String × String) := []
  deriving DecidableEq

namespace Event

/-- The names of the fields of an event, of which its message is one. -/
def fieldNames (event : Event) : List String :=
  "message" :: event.fields.map Prod.fst

/-- The form of one field in a line of the log. -/
def fieldText (field : String × String) : String :=
  " " ++ field.1 ++ "=" ++ field.2

/-- The line of the log for an event: severity, message and fields. -/
def line (event : Event) : String :=
  event.severity.label ++ " " ++ event.message ++
    String.join (event.fields.map fieldText) ++ "\n"

end Event

end SumGreeting
