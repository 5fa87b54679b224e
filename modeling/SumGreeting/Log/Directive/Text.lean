import SumGreeting.Log.Directive.Field
import SumGreeting.Text.Cut
import SumGreeting.Unicode.Alphanumeric
import SumGreeting.Unicode.WhiteSpace

/-!
# The text of a directive

A directive is written as a threshold, as a target, or as a target followed by an equals sign and a
threshold.  In front of the equals sign a span and a field can stand in brackets, the field between
braces.  An empty threshold is the one that allows everything.

The text is walked without the white space around it, but what is taken out of it is taken from the
text with the white space, at the same byte offsets: white space in front of a directive moves
every cut to the left, and what reaches to the end of the text includes the white space there.  A
cut that is moved into a character ends the whole process.

## Main definitions

* `Directive.Fault` : what can be wrong with the text of a directive.
* `Crash` : the end of a process in the middle of a call.
* `Directive.Reader` : a reader of directives, which gives a directive, finds a fault or crashes.
* `Directive.Reading` : what was read so far, and which part of a directive is being read.
* `Directive.Language.read` : the reader for the texts described here.
-/

namespace SumGreeting

/-- The end of a process in the middle of a call that gives no answer. -/
structure Crash where
  /-- The report that is left on the error stream. -/
  report : String
  deriving DecidableEq

/-- The exit code of a process that crashes. -/
def Crash.exitCode : Nat := 101

namespace Directive

/-- What is wrong with a text that denotes no directive. -/
inductive Fault where
  /-- The text does not have the form of a directive. -/
  | malformed
  /-- What stands after the equals sign is no threshold. -/
  | badThreshold
  /-- What is asked about a field cannot be asked. -/
  | badField (reason : OneLine)
  deriving DecidableEq

/-- The message about a text that denotes no directive. -/
def Fault.message : Fault → String
  | malformed => "invalid filter directive"
  | badThreshold =>
    "error parsing level filter: expected one of \"off\", \"error\", \"warn\", \"info\", " ++
      "\"debug\", \"trace\", or a number 0-5"
  | badField reason => "invalid field filter: " ++ reason.text

/-- Why no directive is read off a text. -/
inductive Refusal where
  /-- The text denotes no directive. -/
  | fault (fault : Fault)
  /-- The reading of the text ends the process. -/
  | crash (crash : Crash)
  deriving DecidableEq

/-- A reader of directives.  What a program does with the text of a filter is defined for any
reader. -/
abbrev Reader := List Char → Except Refusal Directive

/-- What directives take from elsewhere. -/
structure Language where
  /-- The patterns for the values of fields. -/
  patterns : Patterns
  /-- What a process reports that ends at a cut of a text between two byte offsets. -/
  cutReport : String → Nat → Nat → String

/-- The directives with patterns that take every text.  What is written without a pattern is read
alike in all languages, unless it is cut inside of a character. -/
def Language.lenient : Language where
  patterns _ := none
  cutReport _ _ _ := ""

/-! ### The parts of a directive -/

/-- Which part of a directive is being read; most parts remember the offset of their beginning. -/
inductive Part where
  /-- Nothing was read. -/
  | start
  /-- A threshold or a target. -/
  | thresholdOrTarget (first : Nat)
  /-- The name of a span, inside the brackets. -/
  | span (first : Nat)
  /-- A field, inside the braces. -/
  | field (first : Nat)
  /-- What stands between the braces and the closing bracket. -/
  | afterField
  /-- What stands behind the closing bracket. -/
  | afterSpan
  /-- The threshold after the equals sign. -/
  | threshold (first : Nat)
  deriving DecidableEq

/-- The part that is being read, and what the parts before it gave. -/
structure Reading where
  /-- The part that is being read. -/
  part : Part := .start
  /-- The directive read so far. -/
  directive : Directive := {}
  deriving DecidableEq

/-- Whether a target or a threshold can begin with the character. -/
def isInitial (c : Char) : Bool :=
  isAlphanumeric c || c = '-' || c = ':' || c = '_'

namespace Language

variable (language : Language)

/-- The part of the text between two byte offsets.  An offset inside of a character ends the
process. -/
def slice (text : List Char) (first last : Nat) : Except Refusal (List Char) :=
  match cut? first last text with
  | some part => .ok part
  | none => .error (.crash ⟨language.cutReport (String.ofList text) first last⟩)

/-- Reads one character that stands at the byte offset; `text` is what names are cut from. -/
def step (text : List Char) (reading : Reading) (offset : Nat) (c : Char) :
    Except Refusal Reading :=
  let read := reading.directive
  match reading.part with
  | .start =>
    if c = '[' then .ok ⟨.span (offset + 1), read⟩
    else if isInitial c then .ok ⟨.thresholdOrTarget offset, read⟩
    else .error (.fault .malformed)
  | .thresholdOrTarget first =>
    if c = '=' ∨ c = '[' then do
      let target ← language.slice text first offset
      let next := if c = '=' then Part.threshold (offset + 1) else .span (offset + 1)
      return ⟨next, { read with target := String.ofList target }⟩
    else .ok reading
  | .span first =>
    if c = ']' then do
      let span ← language.slice text first offset
      return ⟨.afterSpan, { read with span := String.ofList span }⟩
    else if c = '\x7b' then do
      let span ← language.slice text first offset
      let named := if span.isEmpty then read else { read with span := String.ofList span }
      return ⟨.field (offset + 1), named⟩
    else .ok reading
  | .field first =>
    if c = '\x7d' then do
      let field ← language.slice text first offset
      if field.isEmpty then .error (.fault .malformed)
      else match Field.ofText language.patterns field with
        | .ok field => return ⟨.afterField, { read with field }⟩
        | .error reason => .error (.fault (.badField reason))
    else .ok reading
  | .afterField =>
    if c = ']' then .ok ⟨.afterSpan, read⟩ else .error (.fault .malformed)
  | .afterSpan =>
    if c = '=' then .ok ⟨.threshold (offset + 1), read⟩ else .error (.fault .malformed)
  | .threshold _ => .ok reading

/-- The directive at the end of the text. -/
def finish (text : List Char) (reading : Reading) : Except Refusal Directive :=
  match reading.part with
  | .thresholdOrTarget first => do
    let rest ← language.slice text first (byteSize text)
    if rest.isEmpty then return reading.directive
    else match Threshold.ofText? rest with
      | some threshold => return { reading.directive with threshold }
      | none => return { reading.directive with target := String.ofList rest }
  | .threshold first => do
    let rest ← language.slice text first (byteSize text)
    if rest.isEmpty then return reading.directive
    else match Threshold.ofText? rest with
      | some threshold => return { reading.directive with threshold }
      | none => .error (.fault .badThreshold)
  | .afterSpan => .ok reading.directive
  | .start | .span _ | .field _ | .afterField => .error (.fault .malformed)

/-- Reads the remaining characters, the first of which stands at the byte offset. -/
def run (text : List Char) (reading : Reading) : Nat → List Char → Except Refusal Directive
  | _, [] => language.finish text reading
  | offset, c :: rest => do
    let next ← language.step text reading offset c
    run text next (offset + c.utf8Size) rest

/-- The directive that a text denotes, or why none is read off it. -/
def read : Reader := fun text =>
  language.run text {} 0 (trim text)

end Language

end Directive

end SumGreeting
