import SumGreeting.CommandLine.Invocation
import SumGreeting.Proofs.CommandLine.Numeral

/-!
# The grammar of the command line

A usable command line is a sequence of groups of one or two arguments, after which the separator
`--` may stand.  Each group asks for some settings.  This module states the grammar over texts and
what it means, without regard to how the arguments are read.

## Main definitions

* `Setting` : one thing that a command line can ask for.
* `Means` : the value of an option, as a text, asks for a setting.
* `FlagWord`, `Demand` : the parts of a cluster, and the arguments whose value comes next.
* `Group`, `Groups` : the groups of arguments with what they ask for, and sequences of groups.
* `AtMostOnce` : no option but the one for more output is used twice.
* `Invocation.ofSettings` : the invocation that some settings ask for.
-/

namespace SumGreeting.CommandLine

/-! ### Settings -/

/-- One thing that a command line can ask for. -/
inductive Setting where
  | first (operand : Int32)
  | second (operand : Int32)
  | name (text : String)
  | json
  | quiet
  | strict
  | verbose
  deriving DecidableEq

namespace Setting

/-- The option that asks for a setting. -/
def option : Setting → OptionName
  | first _ => .value .first
  | second _ => .value .second
  | name _ => .value .name
  | json => .flag .json
  | quiet => .flag .quiet
  | strict => .flag .strict
  | verbose => .flag .verbose

/-- The first operand, if the setting is one. -/
def first? : Setting → Option Int32
  | first operand => some operand
  | _ => none

/-- The second operand, if the setting is one. -/
def second? : Setting → Option Int32
  | second operand => some operand
  | _ => none

/-- The name, if the setting is one. -/
def name? : Setting → Option String
  | name text => some text
  | _ => none

end Setting

/-- The value of an option, as a text, asks for a setting: an operand is a numeral for a 32-bit
integer, and a name can be any text. -/
inductive Means : ValueOption → String → Setting → Prop
  | first {text : String} {operand : Int32} (h : IsNumeral text.toList operand.toInt) :
      Means .first text (.first operand)
  | second {text : String} {operand : Int32} (h : IsNumeral text.toList operand.toInt) :
      Means .second text (.second operand)
  | name (text : String) : Means .name text (.name text)

/-! ### Groups -/

/-- The value of an option can be an argument of its own.  A name that begins with a dash cannot,
unless it is a single dash. -/
def Separable (option : ValueOption) (text : String) : Prop :=
  option = .name → text = "-" ∨ text.toList.head? ≠ some '-'

/-- A word of letters of flags, with what they ask for: `q` or `v`, since the other flags have no
letter or ask for no setting. -/
inductive FlagWord : List Char → List Setting → Prop
  | nil : FlagWord [] []
  | cons {flag : Flag} {letter : Char} {setting : Setting} {word : List Char}
      {settings : List Setting} (hletter : (OptionName.flag flag).letter? = some letter)
      (hflag : setting.option = .flag flag) (h : FlagWord word settings) :
      FlagWord (letter :: word) (setting :: settings)

/-- A text less one equals sign in front of it. -/
def lessEqualsSign (text : String) : String :=
  match text.toList with
  | '=' :: rest => String.ofList rest
  | _ => text

/-- The arguments that leave the value of an option to the next argument, with what they ask for
themselves. -/
inductive Demand : String → List Setting → ValueOption → Prop
  /-- The long name of an option. -/
  | long (option : ValueOption) : Demand ("--" ++ (OptionName.value option).long) [] option
  /-- A cluster that ends with the letter of an option. -/
  | cluster {word : List Char} {settings : List Setting} {option : ValueOption} {letter : Char}
      (hword : FlagWord word settings) (hletter : (OptionName.value option).letter? = some letter) :
      Demand ("-" ++ (String.ofList word ++ String.singleton letter)) settings option

/-- The groups of arguments, with what they ask for.  In a cluster, the letters of flags come
before the letter of an option that takes a value.  No setting is asked for by the flags for help
and the version, so these are part of no group. -/
inductive Group : List String → List Setting → Prop
  /-- The long name of a flag: `--json`, `--quiet`, `--strict` or `--verbose`. -/
  | longFlag {flag : Flag} {setting : Setting} (h : setting.option = .flag flag) :
      Group ["--" ++ (OptionName.flag flag).long] [setting]
  /-- The long name of an option and its value, with an equals sign between them. -/
  | longAttached {option : ValueOption} {text : String} {setting : Setting}
      (h : Means option text setting) :
      Group ["--" ++ (OptionName.value option).long ++ "=" ++ text] [setting]
  /-- A cluster of flags. -/
  | cluster {word : List Char} {settings : List Setting} (hword : FlagWord word settings)
      (hne : word ≠ []) : Group ["-" ++ String.ofList word] settings
  /-- A cluster that ends with the letter of an option and its value. -/
  | clusterAttached {word : List Char} {settings : List Setting} {option : ValueOption}
      {letter : Char} {rest : String} {setting : Setting} (hword : FlagWord word settings)
      (hletter : (OptionName.value option).letter? = some letter) (hrest : rest ≠ "")
      (h : Means option (lessEqualsSign rest) setting) :
      Group ["-" ++ (String.ofList word ++ (String.singleton letter ++ rest))]
        (settings ++ [setting])
  /-- An argument that ends with an option, and the value of the option as the next argument. -/
  | separate {word text : String} {settings : List Setting} {option : ValueOption}
      {setting : Setting} (hdemand : Demand word settings option) (h : Means option text setting)
      (hseparable : Separable option text) : Group [word, text] (settings ++ [setting])

/-- A sequence of groups, with what they ask for. -/
inductive Groups : List String → List Setting → Prop
  | nil : Groups [] []
  | cons {words rest : List String} {settings more : List Setting} (h : Group words settings)
      (hrest : Groups rest more) : Groups (words ++ rest) (settings ++ more)

/-! ### The invocation -/

/-- No option but the one for more output is used twice. -/
def AtMostOnce (settings : List Setting) : Prop :=
  ∀ option, option ≠ .flag .verbose → (settings.map Setting.option).count option ≤ 1

/-- What the settings choose. -/
def Choices.ofSettings (settings : List Setting) : Choices where
  first := settings.findSome? Setting.first?
  second := settings.findSome? Setting.second?
  name := settings.findSome? Setting.name?
  json := decide (.json ∈ settings)
  quiet := decide (.quiet ∈ settings)
  strict := decide (.strict ∈ settings)
  verbosity := min 255 (settings.count .verbose)

/-- The invocation that the settings ask for, with the defaults for what they do not mention.  The
requests for more output are counted up to 255. -/
def Invocation.ofSettings (settings : List Setting) : Invocation where
  settings := {
    first := (settings.findSome? Setting.first?).getD 5
    second := (settings.findSome? Setting.second?).getD 3
    name := (settings.findSome? Setting.name?).getD "World"
    format := if .json ∈ settings then .json else .text
    quiet := decide (.quiet ∈ settings)
    strict := decide (.strict ∈ settings) }
  verbosity := min 255 (settings.count .verbose)

end SumGreeting.CommandLine
