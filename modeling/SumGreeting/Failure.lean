import SumGreeting.Output.Fault
import SumGreeting.Text.Quoted

/-!
# Failures

What can go wrong between the operands and the written report: the sum does not fit, the name is
not acceptable, or the report cannot be written.

## Main definitions

* `Failure` : the causes of a failure, with what a message about them needs.
* `Failure.message` : the message for the user.
* `Failure.cause?` : the message of the fault behind a failure, where there is one.
* `Failure.describe` : a failure as one line of text, with all of its parts.
-/

namespace SumGreeting

/-- Why no report was written, or not all of it. -/
inductive Failure where
  /-- The sum of the two operands is no 32-bit integer. -/
  | overflow (a b : Int32)
  /-- The name has more characters than the limit allows. -/
  | nameTooLong (length limit : Nat)
  /-- The name has a control character. -/
  | controlCharacters (name : String)
  /-- The report could not be written or flushed. -/
  | output (fault : IoFault)
  deriving DecidableEq

namespace Failure

/-- The message for the user. -/
def message : Failure → String
  | overflow a b =>
    a.toInt.repr ++ " + " ++ b.toInt.repr ++ " overflows a 32-bit integer"
  | nameTooLong length limit =>
    "name is " ++ length.repr ++ " characters long, at most " ++ limit.repr ++ " allowed"
  | controlCharacters name => "name contains control characters: " ++ Quoted.quote name
  | output fault => "failed to write output: " ++ fault.message

/-- The message of the fault that caused the failure, if a fault did. -/
def cause? : Failure → Option String
  | output fault => some fault.message
  | _ => none

/-- The messages of the failure and of its cause, joined by a colon. -/
def chain (failure : Failure) : String :=
  match failure.cause? with
  | none => failure.message
  | some cause => failure.message ++ ": " ++ cause

/-- The failure as one line of text, with each of its parts. -/
def describe : Failure → String
  | overflow a b =>
    "Overflow \x7b a: " ++ a.toInt.repr ++ ", b: " ++ b.toInt.repr ++ " \x7d"
  | nameTooLong length limit =>
    "NameTooLong \x7b len: " ++ length.repr ++ ", max: " ++ limit.repr ++ " \x7d"
  | controlCharacters name => "InvalidName(" ++ Quoted.quote name ++ ")"
  | output fault =>
    "Output(Custom \x7b kind: " ++ fault.kind.name ++ ", error: " ++
      Quoted.quote fault.message ++ " \x7d)"

end Failure

end SumGreeting
