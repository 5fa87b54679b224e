import SumGreeting.Log.Directive
import SumGreeting.Text.OneLine

/-!
# The text of a field

A directive asks for a field by its name, or by its name and its value with an equals sign between
them; a second equals sign ends the value.  A value is written as a truth value, as a number, or
as a pattern.  Patterns are a language of their own, and nothing is assumed about it but that it
says in one line what is wrong with a text that is no pattern.

## Main definitions

* `Patterns` : a language of patterns.
* `isNumber` : the texts of numbers, infinity and the number that is none among them.
* `Directive.Field.ofText` : the field that a text asks for.
-/

namespace SumGreeting

/-- A language of patterns: what is wrong with a text that is no pattern. -/
abbrev Patterns := String → Option OneLine

/-! ### Numbers -/

/-- The text without a sign in front. -/
def withoutSign (text : List Char) : List Char :=
  match text with
  | '+' :: rest | '-' :: rest => rest
  | _ => text

/-- Whether the text is an exponent of ten, or empty. -/
def isExponent (text : List Char) : Bool :=
  match text with
  | [] => true
  | c :: rest =>
    let digits := withoutSign rest
    (c = 'e' || c = 'E') && !digits.isEmpty && digits.all Char.isDigit

/-- Whether the text is a decimal number: digits, perhaps with a point at their beginning or end or
between them, and perhaps an exponent. -/
def isDecimal (text : List Char) : Bool :=
  let whole := text.takeWhile Char.isDigit
  match text.dropWhile Char.isDigit with
  | '.' :: rest =>
    let fraction := rest.takeWhile Char.isDigit
    !(whole.isEmpty && fraction.isEmpty) && isExponent (rest.dropWhile Char.isDigit)
  | rest => !whole.isEmpty && isExponent rest

/-- Whether the text is a number with or without a sign.  The words for infinity and for no number
are written in any case. -/
def isNumber (text : List Char) : Bool :=
  let size := withoutSign text
  isDecimal size || ["inf", "infinity", "nan"].contains (String.ofList (size.map Char.toLower))

/-! ### Fields -/

namespace Directive.Field

/-- What is wrong with a text for the value of a field, if anything is. -/
def valueFault? (patterns : Patterns) (value : List Char) : Option OneLine :=
  let text := String.ofList value
  if text = "true" || text = "false" || isNumber value then none else patterns text

/-- The field that a text asks for, or what is wrong with its value. -/
def ofText (patterns : Patterns) (text : List Char) : Except OneLine Field :=
  let name := String.ofList (text.takeWhile (· ≠ '='))
  match text.dropWhile (· ≠ '=') with
  | [] => .ok { name }
  | _ :: rest =>
    let value := rest.takeWhile (· ≠ '=')
    match valueFault? patterns value with
    | some fault => .error fault
    | none => .ok { name, value := String.ofList value }

end Directive.Field

/-- A plus sign alone is a number's sign only; in front of digits it is no pattern, and need not
be. -/
example : isNumber "+1.5e-3".toList = true ∧ isNumber "-nan".toList = true ∧
    isNumber "+".toList = false ∧ isNumber ".".toList = false := by decide

end SumGreeting
