import SumGreeting.CommandLine.Operand
import SumGreeting.CommandLine.OptionName
import SumGreeting.Text.ControlSequence

/-!
# Usage errors

Arguments can be unusable in seven ways.  The message says which, adds a usage line where one
helps, and ends with a hint at the help text.  It quotes what the user wrote, without the control
sequences in it.

## Main definitions

* `UsageError` : what can be wrong with the arguments.
* `UsageError.reason`, `UsageError.message` : what is wrong, and the whole message about it.
-/

namespace SumGreeting.CommandLine

/-- The name of the program. -/
def programName : String := "hello-sum"

/-- What is wrong with the arguments. -/
inductive UsageError where
  /-- The value of an option denotes no operand. -/
  | badValue (option : ValueOption) (value : String) (fault : Operand.Fault)
  /-- An option has no value and needs one. -/
  | missingValue (option : ValueOption)
  /-- An option that is allowed once was used again. -/
  | repeated (option : OptionName)
  /-- A value encodes no text. -/
  | notText
  /-- An option that takes no value was given one; `alone` if no other option came before. -/
  | unexpectedValue (option : Flag) (value : String) (alone : Bool)
  /-- No option has the long name.  The options `present` were used before. -/
  | unknownName (name : String) (suggestion : Option OptionName) (present : List OptionName)
  /-- The argument is no option, or has a letter that no option has. -/
  | unknownArgument (argument : String)
  deriving DecidableEq

/-! ### Messages -/

namespace UsageError

open ControlSequence

/-- The usage line, set off by an empty line. -/
def usageLine (rest : String) : String :=
  "\n\nUsage: " ++ programName ++ " " ++ rest

/-- The usage line that names no option. -/
def generalUsage : String := usageLine "[OPTIONS]"

/-- The options that can be combined with one another, as alternatives. -/
def alternatives : String :=
  "<" ++ "|".intercalate
    ([.value .first, .value .second, .value .name, .flag .json, .flag .quiet, .flag .strict,
      .flag .verbose].map OptionName.display) ++ ">"

/-- The usage line about a flag that was given a value.  Those for help and the version are no
alternatives and are named besides them. -/
def flagUsage (option : Flag) (alone : Bool) : String :=
  let shown := (OptionName.flag option).display
  if alone then usageLine shown
  else match option with
    | .help | .version => usageLine (shown ++ " " ++ alternatives)
    | .json | .quiet | .strict | .verbose => usageLine alternatives

/-- The usage line that names the options used before and the suggested one. -/
def presentUsage (present : List OptionName) (suggestion : Option OptionName) : String :=
  let named := match suggestion with
    | none => present
    | some option => if option ∈ present then present else present ++ [option]
  if named.isEmpty then generalUsage
  else usageLine (" ".intercalate (named.map OptionName.display))

/-- What is wrong, with the usage line where one helps.  Only what is quoted from the arguments can
hold control sequences, and white space there does to them what `interruption` says. -/
def reason (interruption : Interruption) : UsageError → String
  | badValue option value fault =>
    "invalid value '" ++ strip interruption value ++ "' for '" ++
      (OptionName.value option).display ++ "': " ++ fault.message
  | missingValue option =>
    "a value is required for '" ++ (OptionName.value option).display ++ "' but none was supplied"
  | repeated option =>
    "the argument '" ++ option.display ++ "' cannot be used multiple times" ++ generalUsage
  | notText => "invalid UTF-8 was detected in one or more arguments" ++ generalUsage
  | unexpectedValue option value alone =>
    "unexpected value '" ++ strip interruption value ++ "' for '" ++
      (OptionName.flag option).display ++ "' found; no more were expected" ++
      flagUsage option alone
  | unknownName name suggestion present =>
    let tip := match suggestion with
      | none => ""
      | some option => "\n\n  tip: a similar argument exists: '--" ++ option.long ++ "'"
    "unexpected argument '" ++ strip interruption ("--" ++ name) ++ "' found" ++ tip ++
      presentUsage present suggestion
  | unknownArgument argument =>
    "unexpected argument '" ++ strip interruption argument ++ "' found" ++ generalUsage

/-- The whole message about unusable arguments. -/
def message (error : UsageError) (interruption : Interruption) : String :=
  "error: " ++ error.reason interruption ++ "\n\nFor more information, try '--help'.\n"

end UsageError

end SumGreeting.CommandLine
