/-!
# The text of an operand

An operand is written in decimal digits, with an optional sign in front.  The digits are read from
left to right within the range of 64-bit integers, and the first thing that is wrong is reported:
a character that is no digit, or a value that leaves that range.  A value that stays in it still
has to be a 32-bit integer.

## Main definitions

* `Operand.Fault` : what can be wrong with the text of an operand.
* `Operand.read` : the operand that a text denotes.
-/

namespace SumGreeting.CommandLine.Operand

/-- What is wrong with a text that denotes no operand. -/
inductive Fault where
  /-- There is no text. -/
  | empty
  /-- A character that is no digit, or a sign without digits. -/
  | invalidDigit
  /-- The value is beyond the 64-bit integers. -/
  | tooLarge
  /-- The value is below the 64-bit integers. -/
  | tooSmall
  /-- The value is no 32-bit integer. -/
  | outOfRange (value : Int)
  deriving DecidableEq

/-- The message about a text that denotes no operand. -/
def Fault.message : Fault → String
  | empty => "cannot parse integer from empty string"
  | invalidDigit => "invalid digit found in string"
  | tooLarge => "number too large to fit in target type"
  | tooSmall => "number too small to fit in target type"
  | outOfRange value => value.repr ++ " is not in -2147483648..=2147483647"

/-- Continues the number `value` by the digits.  A value above the limit is the given fault. -/
def readDigits (limit : Nat) (beyond : Fault) : Nat → List Char → Except Fault Nat
  | value, [] => .ok value
  | value, c :: rest =>
    if c.isDigit then
      let next := 10 * value + (c.toNat - '0'.toNat)
      if limit < next then .error beyond else readDigits limit beyond next rest
    else .error .invalidDigit

/-- The number of at least one digit. -/
def readMagnitude (limit : Nat) (beyond : Fault) (digits : List Char) : Except Fault Nat :=
  if digits.isEmpty then .error .invalidDigit else readDigits limit beyond 0 digits

/-- The greatest 64-bit integer. -/
def greatest : Nat := 9223372036854775807

/-- The 64-bit integer that the characters denote.  The least one is one step further from zero
than the greatest one. -/
def readInteger : List Char → Except Fault Int
  | [] => .error .empty
  | '-' :: digits => (readMagnitude (greatest + 1) .tooSmall digits).map fun n : Nat => -(n : Int)
  | '+' :: digits => (readMagnitude greatest .tooLarge digits).map fun n : Nat => (n : Int)
  | digits => (readMagnitude greatest .tooLarge digits).map fun n : Nat => (n : Int)

/-- The operand that a text denotes, or what is wrong with the text. -/
def read (text : String) : Except Fault Int32 :=
  match readInteger text.toList with
  | .error fault => .error fault
  | .ok value =>
    if -2147483648 ≤ value ∧ value ≤ 2147483647 then .ok (Int32.ofInt value)
    else .error (.outOfRange value)

end SumGreeting.CommandLine.Operand
