import SumGreeting.Log.Directive.Text
import SumGreeting.Text.Quoted

/-!
# Filters of the log

A filter is a list of directives.  It is written as the texts of its directives with commas between
them, and has to be right in all of them.  A text that denotes no filter is replaced by the
threshold for the verbosity, and a warning says so.  A reader of directives that crashes at one of
them leaves neither a filter nor a warning.

## Main definitions

* `Filter` : the directives, in the order in which they are written.
* `Filter.enables` : whether a filter lets an event through.
* `Filter.maxThreshold` : the highest threshold that its directives can lead to.
* `Filter.ofText` : the filter that a text denotes.
* `Filter.choose` : the filter for a text and a verbosity, with the rejection of the text.
* `Filter.Rejection.warning` : the line that warns of a rejected text.
-/

namespace SumGreeting

/-- A filter of the log. -/
structure Filter where
  /-- The directives, in the order in which they are written. -/
  directives : List Directive
  deriving DecidableEq, Inhabited

namespace Filter

/-- The filter with one threshold for all events. -/
def ofThreshold (threshold : Threshold) : Filter :=
  ⟨[{ threshold }]⟩

/-! ### What a filter lets through -/

/-- Whether the filter lets events of the severity with the target and the fields through: the
directive that decides on them has to allow the severity. -/
def permits (filter : Filter) (severity : Severity) (target : String) (names : List String) :
    Bool :=
  match Directive.decisive filter.directives target names with
  | none => false
  | some directive => directive.threshold.allows severity

/-- Whether the filter lets the event through. -/
def enables (filter : Filter) (event : Event) : Bool :=
  filter.permits event.severity event.target event.fieldNames

/-- The highest threshold that a directive can lead to, also one that decides on no event. -/
def maxThreshold (filter : Filter) : Threshold :=
  (filter.directives.map Directive.ceiling).foldl Threshold.max .off

/-- The lines of the log for the events that the filter lets through. -/
def log (filter : Filter) (events : List Event) : String :=
  String.join ((events.filter filter.enables).map Event.line)

/-! ### The text of a filter -/

/-- The parts of a text between its commas. -/
def commaParts : List Char → List (List Char)
  | [] => [[]]
  | c :: rest =>
    if c = ',' then [] :: commaParts rest
    else match commaParts rest with
      | [] => [[c]]
      | part :: parts => (c :: part) :: parts

/-- The texts of the directives of a filter: the parts between commas that are not empty. -/
def directiveTexts (text : String) : List (List Char) :=
  (commaParts text.toList).filter fun part => !part.isEmpty

/-- The directives that are read off the texts, or why none is read off the first such text. -/
def readAll (reader : Directive.Reader) :
    List (List Char) → Except Directive.Refusal (List Directive)
  | [] => .ok []
  | text :: texts =>
    match reader text with
    | .error refusal => .error refusal
    | .ok directive =>
      match readAll reader texts with
      | .error refusal => .error refusal
      | .ok directives => .ok (directive :: directives)

/-- The filter that is read off a text, or why none is. -/
def ofText (reader : Directive.Reader) (text : String) : Except Directive.Refusal Filter :=
  match readAll reader (directiveTexts text) with
  | .error refusal => .error refusal
  | .ok directives => .ok ⟨directives⟩

/-! ### The filter for a text and a verbosity -/

/-- The name of the environment variable that holds the text of the filter. -/
def variableName : String := "HELLO_SUM_LOG"

/-- A text that denotes no filter. -/
structure Rejection where
  /-- The rejected text. -/
  text : String
  /-- What is wrong with it. -/
  fault : Directive.Fault
  /-- The threshold that is used instead. -/
  fallback : Threshold
  deriving DecidableEq

/-- The line that warns of a rejected text. -/
def Rejection.warning (rejection : Rejection) : String :=
  "warning: ignoring invalid " ++ variableName ++ "=" ++ Quoted.quote rejection.text ++ " (" ++
    rejection.fault.message ++ "), using level '" ++ rejection.fallback.word ++ "'"

/-- The filter for a text, if there is one, and a verbosity.  The verbosity counts only where there
is no text or the text denotes no filter; the latter is a rejection. -/
def choose (reader : Directive.Reader) (text : Option String) (verbosity : Nat) :
    Except Crash (Filter × Option Rejection) :=
  let fallback := Threshold.ofVerbosity verbosity
  match text with
  | none => .ok (ofThreshold fallback, none)
  | some text =>
    match ofText reader text with
    | .ok filter => .ok (filter, none)
    | .error (.fault fault) => .ok (ofThreshold fallback, some ⟨text, fault, fallback⟩)
    | .error (.crash crash) => .error crash

end Filter

end SumGreeting
