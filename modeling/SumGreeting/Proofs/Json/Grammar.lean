import Mathlib.Algebra.Field.Rat
import SumGreeting.Proofs.CommandLine.Numeral

/-!
# The grammar of JSON

A text in JSON denotes a value: a literal, a number, a string, an array or an object.  This module
states the standard grammar together with what each of its phrases denotes, without regard to how a
text is written or read by a program.  Each relation stands between the characters before a phrase
and what is left of them after it.

Escaped surrogates denote a character only in pairs, so that a string with a surrogate on its own
denotes nothing.

## Main definitions

* `Json.Value` : what a text denotes.
* `Json.Numeral` : the parts of a number, with its text and its value.
* `Json.Character`, `Json.Characters` : the characters in a string literal.
* `Json.Reads` : values, elements of arrays and members of objects.
* `Json.Denotes` : a whole text denotes a value.
-/

namespace SumGreeting.Json

open CommandLine (IsDigits)

/-- What a text in JSON denotes.  The members of an object are in the order of the text. -/
inductive Value where
  | null
  | boolean (value : Bool)
  | number (value : ℚ)
  | string (text : String)
  | array (elements : List Value)
  | object (members : List (String × Value))

/-! ### Numbers -/

/-- The characters that can stand in front of the digits of an exponent. -/
def signs : List Char := ['+', '-']

/-- The characters with which an exponent begins. -/
def exponentMarks : List Char := ['e', 'E']

/-- The integer with a sign, which can be absent, in front of its digits. -/
def signed (sign : Option Char) (digits : List Char) : Int :=
  if sign = some '-' then -(Nat.ofDigitChars 10 digits 0 : Int) else Nat.ofDigitChars 10 digits 0

/-- The text of a part that can be absent. -/
def optional {α : Type} (text : α → List Char) : Option α → List Char
  | none => []
  | some part => text part

/-- The exponent of a number. -/
structure Exponent where
  /-- The character with which it begins. -/
  mark : Char
  /-- The sign, if there is one. -/
  sign : Option Char
  /-- The digits. -/
  digits : List Char
  mark_mem : mark ∈ exponentMarks
  sign_mem : ∀ c ∈ sign, c ∈ signs
  isDigits : IsDigits digits

/-- The text of an exponent. -/
def Exponent.text (exponent : Exponent) : List Char :=
  exponent.mark :: (optional ([·]) exponent.sign ++ exponent.digits)

/-- The parts of a number. -/
structure Numeral where
  /-- The sign, if there is one. -/
  sign : Option Char
  /-- The digits in front of the point. -/
  whole : List Char
  /-- The digits after the point, if there is one. -/
  fraction : Option (List Char)
  /-- The exponent, if there is one. -/
  exponent : Option Exponent
  sign_eq : ∀ c ∈ sign, c = '-'
  isDigits_whole : IsDigits whole
  whole_eq_zero : whole.head? = some '0' → whole = ['0']
  isDigits_fraction : ∀ digits ∈ fraction, IsDigits digits

namespace Numeral

/-- The text of a number. -/
def text (numeral : Numeral) : List Char :=
  optional ([·]) numeral.sign ++ (numeral.whole ++
    (optional ('.' :: ·) numeral.fraction ++ optional Exponent.text numeral.exponent))

/-- The value of a number: all digits as those of an integer, scaled by a power of ten. -/
def value (numeral : Numeral) : ℚ :=
  let fraction := numeral.fraction.getD []
  let scale := numeral.exponent.elim 0 fun exponent => signed exponent.sign exponent.digits
  signed numeral.sign (numeral.whole ++ fraction) * 10 ^ (scale - fraction.length)

end Numeral

/-! ### Strings -/

/-- The characters that stand after a backslash, with what they denote. -/
def marks : List (Char × Char) :=
  [('"', '"'), ('\\', '\\'), ('/', '/'), ('b', '\x08'), ('f', '\x0c'), ('n', '\n'), ('r', '\r'),
    ('t', '\t')]

/-- The value of a hexadecimal digit in lower or upper case. -/
def hexDigit? (c : Char) : Option Nat :=
  if c.isDigit then some (c.toNat - '0'.toNat)
  else if 'a' ≤ c ∧ c ≤ 'f' then some (c.toNat - 'a'.toNat + 10)
  else if 'A' ≤ c ∧ c ≤ 'F' then some (c.toNat - 'A'.toNat + 10)
  else none

/-- The number given by four hexadecimal digits, and what is left after them. -/
def codeUnit? : List Char → Option (Nat × List Char)
  | a :: b :: c :: d :: rest => do
    let a ← hexDigit? a
    let b ← hexDigit? b
    let c ← hexDigit? c
    let d ← hexDigit? d
    some (((a * 16 + b) * 16 + c) * 16 + d, rest)
  | _ => none

/-- One character in a string literal. -/
inductive Character : Char → List Char → List Char → Prop
  /-- A character that stands for itself. -/
  | plain {c : Char} (rest : List Char) (hcontrol : 0x20 ≤ c.toNat) (hquote : c ≠ '"')
      (hbackslash : c ≠ '\\') : Character c (c :: rest) rest
  /-- A character with a mark after the backslash. -/
  | mark {mark c : Char} (rest : List Char) (h : (mark, c) ∈ marks) :
      Character c ('\\' :: mark :: rest) rest
  /-- A character in four hexadecimal digits. -/
  | unit {c : Char} {before after : List Char} (h : codeUnit? before = some (c.toNat, after)) :
      Character c ('\\' :: 'u' :: before) after
  /-- A character in two times four hexadecimal digits, a high surrogate and a low one. -/
  | pair {c : Char} {high low : Nat} {before middle after : List Char}
      (hbefore : codeUnit? before = some (high, '\\' :: 'u' :: middle))
      (hmiddle : codeUnit? middle = some (low, after))
      (hhigh : 0xD800 ≤ high ∧ high < 0xDC00) (hlow : 0xDC00 ≤ low ∧ low < 0xE000)
      (hc : c.toNat = 0x10000 + (high - 0xD800) * 0x400 + (low - 0xDC00)) :
      Character c ('\\' :: 'u' :: before) after

/-- The characters in a string literal, and the double quote after them. -/
inductive Characters : List Char → List Char → List Char → Prop
  | nil (rest : List Char) : Characters [] ('"' :: rest) rest
  | cons {c : Char} {cs before middle after : List Char} (head : Character c before middle)
      (tail : Characters cs middle after) : Characters (c :: cs) before after

/-! ### Values -/

/-- The characters that can stand around a value and around a separator. -/
def whiteSpace : List Char := [' ', '\t', '\n', '\r']

/-- Any number of characters of white space. -/
inductive Space : List Char → List Char → Prop
  | nil (rest : List Char) : Space rest rest
  | cons {c : Char} {before after : List Char} (head : c ∈ whiteSpace)
      (tail : Space before after) : Space (c :: before) after

/-- What a phrase denotes. -/
inductive Phrase where
  /-- A value. -/
  | value (value : Value)
  /-- One or more elements, with the bracket that closes the array. -/
  | elements (values : List Value)
  /-- A name with its value. -/
  | member (member : String × Value)
  /-- One or more members, with the brace that closes the object. -/
  | members (members : List (String × Value))

/-- A phrase stands at the beginning of the characters. -/
inductive Reads : Phrase → List Char → List Char → Prop
  | null (rest : List Char) : Reads (.value .null) ('n' :: 'u' :: 'l' :: 'l' :: rest) rest
  | true (rest : List Char) :
      Reads (.value (.boolean true)) ('t' :: 'r' :: 'u' :: 'e' :: rest) rest
  | false (rest : List Char) :
      Reads (.value (.boolean false)) ('f' :: 'a' :: 'l' :: 's' :: 'e' :: rest) rest
  | number {numeral : Numeral} {before after : List Char} (h : before = numeral.text ++ after) :
      Reads (.value (.number numeral.value)) before after
  | string {cs before after : List Char} (h : Characters cs before after) :
      Reads (.value (.string (String.ofList cs))) ('"' :: before) after
  | emptyArray {before after : List Char} (h : Space before (']' :: after)) :
      Reads (.value (.array [])) ('[' :: before) after
  | array {values : List Value} {before after : List Char}
      (h : Reads (.elements values) before after) :
      Reads (.value (.array values)) ('[' :: before) after
  | emptyObject {before after : List Char} (h : Space before ('\x7d' :: after)) :
      Reads (.value (.object [])) ('\x7b' :: before) after
  | object {members : List (String × Value)} {before after : List Char}
      (h : Reads (.members members) before after) :
      Reads (.value (.object members)) ('\x7b' :: before) after
  | lastElement {value : Value} {before start stop after : List Char}
      (hstart : Space before start) (hvalue : Reads (.value value) start stop)
      (hstop : Space stop (']' :: after)) : Reads (.elements [value]) before after
  | element {value : Value} {values : List Value} {before start stop next after : List Char}
      (hstart : Space before start) (hvalue : Reads (.value value) start stop)
      (hstop : Space stop (',' :: next)) (hvalues : Reads (.elements values) next after) :
      Reads (.elements (value :: values)) before after
  | nameAndValue {name : List Char} {value : Value} {before colon between start after : List Char}
      (hname : Characters name before colon) (hcolon : Space colon (':' :: between))
      (hstart : Space between start) (hvalue : Reads (.value value) start after) :
      Reads (.member (String.ofList name, value)) ('"' :: before) after
  | lastMember {member : String × Value} {before start stop after : List Char}
      (hstart : Space before start) (hmember : Reads (.member member) start stop)
      (hstop : Space stop ('\x7d' :: after)) : Reads (.members [member]) before after
  | member {member : String × Value} {members : List (String × Value)}
      {before start stop next after : List Char}
      (hstart : Space before start) (hmember : Reads (.member member) start stop)
      (hstop : Space stop (',' :: next)) (hmembers : Reads (.members members) next after) :
      Reads (.members (member :: members)) before after

/-- A whole text denotes a value. -/
def Denotes (text : String) (value : Value) : Prop :=
  ∃ start stop, Space text.toList start ∧ Reads (.value value) start stop ∧ Space stop []

end SumGreeting.Json
