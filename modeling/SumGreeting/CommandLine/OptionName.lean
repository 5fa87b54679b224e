/-!
# Options of the command line

The command line has nine options.  Three of them take a value and six are flags.  Each has a long
name, and most have a letter too.

## Main definitions

* `ValueOption`, `Flag`, `OptionName` : the options of the two sorts, and all of them.
* `OptionName.long`, `OptionName.letter?` : the names of an option.
* `OptionName.display` : the form of an option in messages.
* `OptionName.ofLong?`, `OptionName.ofLetter?` : the option with a name or a letter.
-/

namespace SumGreeting.CommandLine

/-- The options that take a value. -/
inductive ValueOption where
  /-- The first operand. -/
  | first
  /-- The second operand. -/
  | second
  /-- The name to greet. -/
  | name
  deriving DecidableEq

/-- Whether the value of an option is a number. -/
def ValueOption.isNumeric : ValueOption → Bool
  | first | second => true
  | name => false

/-- The options that take no value. -/
inductive Flag where
  /-- The report is a JSON object. -/
  | json
  /-- There are no notices on the error stream. -/
  | quiet
  /-- Sums out of range and unacceptable names are rejected. -/
  | strict
  /-- There is one more step of verbosity. -/
  | verbose
  /-- The help text is asked for. -/
  | help
  /-- The version is asked for. -/
  | version
  deriving DecidableEq

/-- The options of the command line. -/
inductive OptionName where
  | value (option : ValueOption)
  | flag (option : Flag)
  deriving DecidableEq

namespace OptionName

/-- All options, in the order of the help text. -/
def all : List OptionName :=
  [value .first, value .second, value .name, flag .json, flag .quiet, flag .strict, flag .verbose,
    flag .help, flag .version]

/-- The long name of an option, without the dashes. -/
def long : OptionName → String
  | value .first => "first"
  | value .second => "second"
  | value .name => "name"
  | flag .json => "json"
  | flag .quiet => "quiet"
  | flag .strict => "strict"
  | flag .verbose => "verbose"
  | flag .help => "help"
  | flag .version => "version"

/-- The letter of an option, if it has one. -/
def letter? : OptionName → Option Char
  | value .first => some 'a'
  | value .second => some 'b'
  | value .name => some 'n'
  | flag .json => none
  | flag .quiet => some 'q'
  | flag .strict => none
  | flag .verbose => some 'v'
  | flag .help => some 'h'
  | flag .version => some 'V'

/-- The form of an option in messages: a value is named, and dots say that it can be repeated. -/
def display : OptionName → String
  | value .first => "--first <FIRST>"
  | value .second => "--second <SECOND>"
  | value .name => "--name <NAME>"
  | flag .verbose => "--verbose..."
  | option => "--" ++ option.long

/-- The option with the long name. -/
def ofLong? (text : String) : Option OptionName :=
  all.find? fun option => option.long = text

/-- The option with the letter, given as a byte. -/
def ofLetter? (byte : UInt8) : Option OptionName :=
  all.find? fun option => option.letter?.map (fun c => c.toNat.toUInt8) = some byte

theorem ofLong?_long (option : OptionName) : ofLong? option.long = some option := by
  cases option with
  | value option => cases option <;> decide
  | flag option => cases option <;> decide

theorem long_of_ofLong? {text : String} {option : OptionName} (h : ofLong? text = some option) :
    option.long = text := by
  simpa using List.find?_some h

end OptionName

end SumGreeting.CommandLine
