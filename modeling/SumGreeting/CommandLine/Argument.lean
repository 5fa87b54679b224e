import SumGreeting.OsText

/-!
# Forms of an argument

By its first bytes an argument is the separator `--`, a long option with or without a value after
an equals sign, a cluster of letters after one dash, or a plain text.

## Main definitions

* `Argument` : the forms.
* `Argument.ofText` : the form of an argument.
* `looksNumeric` : whether the letters of a cluster read as a negative number.
-/

namespace SumGreeting.CommandLine

/-- The forms of an argument. -/
inductive Argument where
  /-- The separator `--`. -/
  | separator
  /-- Two dashes, a name, and possibly a value after an equals sign. -/
  | long (name : OsText) (value : Option OsText)
  /-- One dash and at least one byte that is not a dash. -/
  | cluster (letters : List UInt8)
  /-- Anything else: the empty text, a single dash, and what does not begin with a dash. -/
  | plain
  deriving DecidableEq

/-- The byte of a dash. -/
def dash : UInt8 := 0x2d

/-- The byte of an equals sign. -/
def equalsSign : UInt8 := 0x3d

/-- A long option: the name ends at the first equals sign. -/
def Argument.ofLong (bytes : List UInt8) : Argument :=
  let name : OsText := ⟨bytes.takeWhile (· ≠ equalsSign)⟩
  match bytes.dropWhile (· ≠ equalsSign) with
  | [] => .long name none
  | _ :: value => .long name (some ⟨value⟩)

/-- The form of an argument. -/
def Argument.ofText (argument : OsText) : Argument :=
  match argument.bytes with
  | [] => .plain
  | first :: rest =>
    if first = dash then
      match rest with
      | [] => .plain
      | second :: letters =>
        if second = dash then
          if letters.isEmpty then .separator else ofLong letters
        else .cluster (second :: letters)
    else .plain

/-- Whether the byte is a decimal digit. -/
def isDigitByte (byte : UInt8) : Bool :=
  0x30 ≤ byte && byte ≤ 0x39

/-- Whether the bytes are an exponent with at least one digit, or nothing. -/
def isExponent : List UInt8 → Bool
  | [] => true
  | letter :: digits =>
    (letter == 0x65 || letter == 0x45) && !digits.isEmpty && digits.all isDigitByte

/-- What is left after a point and the digits behind it, if a point stands first. -/
def dropFraction : List UInt8 → List UInt8
  | [] => []
  | byte :: rest => if byte = 0x2e then rest.dropWhile isDigitByte else byte :: rest

/-- Whether the bytes are digits, possibly followed by a fraction and an exponent.  After a dash
such bytes can be the value of an option that takes a number. -/
def looksNumeric (bytes : List UInt8) : Bool :=
  (bytes.head?.any isDigitByte) && isExponent (dropFraction (bytes.dropWhile isDigitByte))

end SumGreeting.CommandLine
