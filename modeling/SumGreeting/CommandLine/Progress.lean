import SumGreeting.CommandLine.Argument
import SumGreeting.CommandLine.Similarity
import SumGreeting.CommandLine.Stop

/-!
# Progress through the arguments

The arguments are read one after the other.  An option that takes a value may find it in the same
argument or in the next one; a value from the next argument is examined only when the argument
after it is an option, or at the end.  The first thing that is wrong ends the reading, and so does
a request for help or the version.

## Main definitions

* `Choices` : what the options examined so far ask for.
* `Pending` : an option whose value is still to be examined.
* `Progress` : the state between two arguments.
* `Progress.step`, `Progress.run` : one argument, and several in order.

## Main results

* `Progress.run_append` : reading goes on after some arguments where it stands.
-/

namespace SumGreeting.CommandLine

/-! ### What was read -/

/-- What the options ask for; a missing value leaves the default in force. -/
structure Choices where
  /-- The first operand. -/
  first : Option Int32 := none
  /-- The second operand. -/
  second : Option Int32 := none
  /-- The name to greet. -/
  name : Option String := none
  /-- Whether the report is a JSON object. -/
  json : Bool := false
  /-- Whether notices are suppressed. -/
  quiet : Bool := false
  /-- Whether the run is strict. -/
  strict : Bool := false
  /-- How often more output was asked for, counted up to 255. -/
  verbosity : Nat := 0
  deriving DecidableEq

/-- The choices with the value of an option, or what is wrong with the value. -/
def Choices.assign (choices : Choices) (option : ValueOption) (text : String) :
    Except Operand.Fault Choices :=
  match option with
  | .first => (Operand.read text).map fun operand => { choices with first := some operand }
  | .second => (Operand.read text).map fun operand => { choices with second := some operand }
  | .name => .ok { choices with name := some text }

/-- The choices with one more step of verbosity; the count stops at 255. -/
def Choices.louder (choices : Choices) : Choices :=
  { choices with verbosity := min 255 (choices.verbosity + 1) }

/-- An option whose value is still to be examined. -/
inductive Pending where
  /-- There is no such option. -/
  | nothing
  /-- The value has not been found yet. -/
  | awaiting (option : ValueOption)
  /-- The value is known but was not examined. -/
  | holding (option : ValueOption) (value : OsText)
  deriving DecidableEq

/-- The state between two arguments. -/
structure Progress where
  /-- What the options examined so far ask for. -/
  choices : Choices := {}
  /-- The options examined so far, in order; a repeated one counts at its last place. -/
  present : List OptionName := []
  /-- The option whose value is still to be examined. -/
  pending : Pending := .nothing
  /-- Whether the separator was read, after which no argument is an option. -/
  separated : Bool := false
  deriving DecidableEq

namespace Progress

/-! ### Examining options -/

/-- Examines an option with its value: it is the first use of the option, and the value is a text
that suits the option. -/
def assign (progress : Progress) (option : ValueOption) (value : OsText) :
    Except Stop Progress :=
  if .value option ∈ progress.present then .error (.usage (.repeated (.value option)))
  else match value.toString? with
    | none => .error (.usage .notText)
    | some text =>
      match progress.choices.assign option text with
      | .error fault => .error (.usage (.badValue option text fault))
      | .ok choices =>
        .ok { progress with choices, present := progress.present ++ [.value option] }

/-- Examines the option whose value is still to be examined, if there is one. -/
def resolve (progress : Progress) : Except Stop Progress :=
  match progress.pending with
  | .nothing => .ok progress
  | .awaiting option => .error (.usage (.missingValue option))
  | .holding option value => { progress with pending := .nothing }.assign option value

/-- Notes that a flag was used, which may happen once. -/
def mark (progress : Progress) (option : Flag) (choices : Choices) : Except Stop Progress :=
  if .flag option ∈ progress.present then .error (.usage (.repeated (.flag option)))
  else .ok { progress with choices, present := progress.present ++ [.flag option] }

/-- Examines a flag; nothing is left to be examined before it. -/
def raise (progress : Progress) (option : Flag) : Except Stop Progress :=
  match option with
  | .json => progress.mark option { progress.choices with json := true }
  | .quiet => progress.mark option { progress.choices with quiet := true }
  | .strict => progress.mark option { progress.choices with strict := true }
  | .verbose =>
    .ok { progress with
      choices := progress.choices.louder
      present := progress.present.erase (.flag option) ++ [.flag option] }
  | .help => .error .help
  | .version => .error .version

/-- The options present once the pending one was examined, whatever becomes of its value: a first
use is added, and a second use takes the first one away. -/
def presentAfterPending (progress : Progress) : List OptionName :=
  match progress.pending with
  | .holding option _ =>
    if .value option ∈ progress.present then progress.present.erase (.value option)
    else progress.present ++ [.value option]
  | .nothing | .awaiting _ => progress.present

/-! ### One argument -/

/-- A flag, after what was still to be examined. -/
def flag (progress : Progress) (option : Flag) : Except Stop Progress :=
  match progress.resolve with
  | .error stop => .error stop
  | .ok progress => progress.raise option

/-- An option with a value in the same argument, after what was still to be examined. -/
def attached (progress : Progress) (option : ValueOption) (value : OsText) :
    Except Stop Progress :=
  match progress.resolve with
  | .error stop => .error stop
  | .ok progress => progress.assign option value

/-- An option that takes its value from the next argument, after what was still to be examined. -/
def await (progress : Progress) (option : ValueOption) : Except Stop Progress :=
  match progress.resolve with
  | .error stop => .error stop
  | .ok progress => .ok { progress with pending := .awaiting option }

/-- A long option. -/
def long (progress : Progress) (name : OsText) (value : Option OsText) : Except Stop Progress :=
  match name.toString?.bind OptionName.ofLong? with
  | none =>
    let shown := name.display
    .error (.usage
      (.unknownName shown (Similarity.suggestion? shown) progress.presentAfterPending))
  | some (.value option) =>
    match value with
    | some value => progress.attached option value
    | none => progress.await option
  | some (.flag option) =>
    match value with
    | some value =>
      .error (.usage (.unexpectedValue option value.display progress.present.isEmpty))
    | none => progress.flag option

/-- The value in a cluster behind the letter of its option: an equals sign in front is dropped. -/
def clusterValue : List UInt8 → OsText
  | [] => ⟨[]⟩
  | byte :: rest => if byte = equalsSign then ⟨rest⟩ else ⟨byte :: rest⟩

/-- How an unknown letter is shown: by its character, or by all the rest where the bytes encode
none. -/
def unknownLetter (bytes : List UInt8) : String :=
  match Utf8.firstChar? bytes with
  | some c => "-" ++ String.singleton c
  | none => "-" ++ Utf8.lossy bytes

/-- A cluster of letters: flags up to the first option that takes a value, to which the rest
belongs. -/
def cluster (progress : Progress) : List UInt8 → Except Stop Progress
  | [] => .ok progress
  | letter :: rest =>
    match OptionName.ofLetter? letter with
    | none => .error (.usage (.unknownArgument (unknownLetter (letter :: rest))))
    | some (.value option) =>
      if rest.isEmpty then progress.await option
      else progress.attached option (clusterValue rest)
    | some (.flag option) =>
      match progress.flag option with
      | .error stop => .error stop
      | .ok next => next.cluster rest

/-- Whether the next argument is the value of an option that takes a number. -/
def awaitsNumber (progress : Progress) : Bool :=
  match progress.pending with
  | .awaiting option => option.isNumeric
  | _ => false

/-- An argument that is no option: the value that is awaited, or else an error. -/
def plain (progress : Progress) (argument : OsText) : Except Stop Progress :=
  match progress.pending with
  | .awaiting option => .ok { progress with pending := .holding option argument }
  | _ => .error (.usage (.unknownArgument argument.display))

/-- One argument. -/
def step (progress : Progress) (argument : OsText) : Except Stop Progress :=
  if progress.separated then .error (.usage (.unknownArgument argument.display))
  else match Argument.ofText argument with
    | .separator => .ok { progress with separated := true }
    | .long name value => progress.long name value
    | .cluster letters =>
      if progress.awaitsNumber && looksNumeric letters then progress.plain argument
      else progress.cluster letters
    | .plain => progress.plain argument

/-! ### Several arguments -/

/-- The arguments in order, up to the first one that ends the reading. -/
def run (progress : Progress) : List OsText → Except Stop Progress
  | [] => .ok progress
  | argument :: rest =>
    match progress.step argument with
    | .error stop => .error stop
    | .ok next => next.run rest

theorem run_append (progress : Progress) (arguments rest : List OsText) :
    progress.run (arguments ++ rest) =
      match progress.run arguments with
      | .error stop => .error stop
      | .ok next => next.run rest := by
  induction arguments generalizing progress with
  | nil => rfl
  | cons argument arguments ih =>
    rw [List.cons_append, run, run]
    cases progress.step argument with
    | error stop => rfl
    | ok next => exact ih next

end Progress

end SumGreeting.CommandLine
