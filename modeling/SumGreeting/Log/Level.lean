/-!
# Levels of the log

An event of the log has a severity.  A threshold allows the events up to one severity, or none.  A
threshold is written as a word in any case or as a number from 0 to 5.

## Main definitions

* `Severity`, `Threshold` : the two scales, with a common `rank`.
* `Threshold.allows` : whether a threshold lets an event through.
* `Threshold.ofText?` : the threshold that a text denotes.
* `Threshold.ofVerbosity` : the threshold for a count of requests for more output.
-/

namespace SumGreeting

/-- How important an event of the log is. -/
inductive Severity where
  | error
  | warn
  | info
  | debug
  | trace
  deriving DecidableEq

/-- Up to which severity events are logged. -/
inductive Threshold where
  | off
  | error
  | warn
  | info
  | debug
  | trace
  deriving DecidableEq, Inhabited

namespace Severity

/-- The place of a severity on the scale; an important event has a low rank. -/
def rank : Severity → Nat
  | error => 1
  | warn => 2
  | info => 3
  | debug => 4
  | trace => 5

/-- The severity at the beginning of a line of the log, five characters wide. -/
def label : Severity → String
  | error => "ERROR"
  | warn => " WARN"
  | info => " INFO"
  | debug => "DEBUG"
  | trace => "TRACE"

end Severity

namespace Threshold

/-- The rank of the least important events that the threshold allows, 0 where it allows none. -/
def rank : Threshold → Nat
  | off => 0
  | error => 1
  | warn => 2
  | info => 3
  | debug => 4
  | trace => 5

/-- The word for a threshold. -/
def word : Threshold → String
  | off => "off"
  | error => "error"
  | warn => "warn"
  | info => "info"
  | debug => "debug"
  | trace => "trace"

/-- Whether the threshold lets events of the severity through. -/
def allows (threshold : Threshold) (severity : Severity) : Bool :=
  severity.rank ≤ threshold.rank

/-- The threshold that allows whatever one of the two allows. -/
def max (s t : Threshold) : Threshold :=
  if s.rank ≤ t.rank then t else s

theorem rank_max (s t : Threshold) : (s.max t).rank = Nat.max s.rank t.rank := by
  cases s <;> cases t <;> rfl

/-- The threshold for the number of times that more output was asked for. -/
def ofVerbosity : Nat → Threshold
  | 0 => warn
  | 1 => info
  | 2 => debug
  | _ => trace

theorem rank_ofVerbosity (n : Nat) : (ofVerbosity n).rank = min (n + 2) 5 := by
  match n with
  | 0 => rfl
  | 1 => rfl
  | 2 => rfl
  | n + 3 => simp only [ofVerbosity, rank]; omega

/-! ### Reading a threshold -/

/-- The threshold of the given rank. -/
def ofRank? : Nat → Option Threshold
  | 0 => some off
  | 1 => some error
  | 2 => some warn
  | 3 => some info
  | 4 => some debug
  | 5 => some trace
  | _ => none

/-- The threshold that a decimal number denotes; a plus sign may stand in front of it. -/
def ofNumeral? (text : List Char) : Option Threshold :=
  let digits := match text with
    | '+' :: rest => rest
    | _ => text
  if !digits.isEmpty && digits.all Char.isDigit then ofRank? (Nat.ofDigitChars 10 digits 0)
  else none

/-- The threshold that a word denotes, in capital or small letters or both. -/
def ofWord? (text : List Char) : Option Threshold :=
  [off, error, warn, info, debug, trace].find? fun threshold =>
    text.map Char.toLower = threshold.word.toList

/-- The threshold that a text denotes, as a number or as a word. -/
def ofText? (text : List Char) : Option Threshold :=
  (ofNumeral? text).or (ofWord? text)

theorem ofRank?_rank (threshold : Threshold) : ofRank? threshold.rank = some threshold := by
  cases threshold <;> rfl

end Threshold

end SumGreeting
