/-!
# Control sequences in a shown text

A terminal obeys the control characters of a text, and the sequences that begin with the escape
character: they set colours, move the cursor, or carry a string for the device.  A text that comes
from outside is therefore shown without its control characters and without such sequences, so that
it cannot change how the text around it looks.  The tabulator, the line feed, the form feed and the
carriage return are kept, and so are the control characters from U+0080 on.

A sequence that is not finished hides the rest of the text.  White space is kept in the middle of
most sequences as well; what it does to the sequence is the one thing that is left open.

## Main definitions

* `ControlSequence.Sequence` : how far a sequence has been read.
* `ControlSequence.Interruption` : what white space does to the sequence it stands in.
* `ControlSequence.strip` : the text that is shown.

## Main results

* `ControlSequence.isShown_of_mem_visible` : only characters that may be shown are shown.
-/

namespace SumGreeting.ControlSequence

/-! ### Classes of characters -/

/-- The escape character, with which every sequence begins. -/
def escapeCharacter : Char := '\x1b'

/-- Whether the character breaks off a sequence: the controls "cancel" and "substitute" do. -/
def isCancel (c : Char) : Bool :=
  c = '\x18' || c = '\x1a'

/-- Whether the character is one of the control characters that are white space: the tabulator,
the line feed, the form feed and the carriage return. -/
def isSpacing (c : Char) : Bool :=
  c = '\t' || c = '\n' || c = '\x0c' || c = '\r'

/-- Whether the character is shown outside of a sequence. -/
def isShown (c : Char) : Bool :=
  isSpacing c || (0x20 ≤ c.toNat && c.toNat ≠ 0x7f)

/-- Whether the character is an intermediate one, which stands before the last of a sequence. -/
def isIntermediate (c : Char) : Bool :=
  ' ' ≤ c && c ≤ '/'

/-- Whether the character can be part of the parameters of a sequence. -/
def isParameter (c : Char) : Bool :=
  '0' ≤ c && c ≤ '?'

/-- Whether the character marks a private use of the parameters. -/
def isPrivateMark (c : Char) : Bool :=
  '<' ≤ c && c ≤ '?'

/-- Whether the character is the last one of a sequence that has parameters. -/
def isFinal (c : Char) : Bool :=
  '@' ≤ c && c ≤ '~'

/-- Whether the character terminates a string for the device: the terminator is the byte `9c`, and
it counts wherever it stands, also among the bytes of a longer character. -/
def isTerminator (c : Char) : Bool :=
  (String.utf8EncodeChar c).contains 0x9c

/-! ### Reading a sequence -/

/-- How far a sequence has been read. -/
inductive Sequence where
  /-- The escape character. -/
  | escape
  /-- The escape character and intermediate characters. -/
  | intermediate
  /-- The introducer `[` of a control sequence in the narrow sense, and what follows it. -/
  | control
  /-- The introducer `P` of a device control string. -/
  | device
  /-- The parameters of a device control string. -/
  | deviceParameters
  /-- The intermediate characters of a device control string. -/
  | deviceIntermediates
  /-- The introducer `]` of an operating system command, and what follows it. -/
  | command
  /-- The inside of a string for the device. -/
  | string
  deriving DecidableEq

/-- What is open after the character behind the escape character. -/
def Sequence.afterEscape (c : Char) : Option Sequence :=
  if isIntermediate c then some .intermediate
  else if c = '[' then some .control
  else if c = ']' then some .command
  else if c = 'P' then some .device
  else if c = 'X' || c = '^' || c = '_' then some .string
  else if isParameter c || isFinal c then none
  else some .escape

/-- What is open after the character `c` in a sequence, or `none` where it ends the sequence. -/
def Sequence.next (sequence : Sequence) (c : Char) : Option Sequence :=
  if isCancel c then none
  else if c = escapeCharacter then some .escape
  else match sequence with
    | .escape => afterEscape c
    | .intermediate => if isParameter c || isFinal c then none else some .intermediate
    | .control => if isFinal c then none else some .control
    | .device =>
      if isIntermediate c then some .deviceIntermediates
      else if isParameter c then some .deviceParameters
      else if isFinal c then some .string
      else some .device
    | .deviceParameters =>
      if isIntermediate c then some .deviceIntermediates
      else if isPrivateMark c || isFinal c then some .string
      else some .deviceParameters
    | .deviceIntermediates =>
      if isParameter c || isFinal c then some .string else some .deviceIntermediates
    | .command => if c = '\x07' then none else some .command
    | .string => if isTerminator c then none else some .string

/-- Whether white space in the middle of the sequence is shown.  What belongs to a string or a
command is hidden as a whole. -/
def Sequence.keepsSpacing : Sequence → Bool
  | escape | intermediate | control => true
  | device | deviceParameters | deviceIntermediates | command | string => false

/-! ### The text that is shown -/

/-- What white space does to the sequence in the middle of which it is shown. -/
inductive Interruption where
  /-- It ends the sequence. -/
  | ends
  /-- It suspends the sequence.  The next character that is hidden is read as part of it, unless a
  character beyond ASCII has been shown in between. -/
  | suspends
  deriving DecidableEq

/-- The place of a character. -/
inductive State where
  /-- In the text itself.  White space may have suspended a sequence. -/
  | text (suspended : Option Sequence)
  /-- In a sequence. -/
  | inside (sequence : Sequence)
  deriving DecidableEq

namespace State

/-- The state where the sequence, if any, is being read. -/
def ofSequence : Option Sequence → State
  | none => .text none
  | some sequence => .inside sequence

/-- Whether the character is shown. -/
def shows : State → Char → Bool
  | .text _, c => isShown c
  | .inside sequence, c => sequence.keepsSpacing && isSpacing c

/-- The state behind a character that is shown. -/
def afterShown (interruption : Interruption) : State → Char → State
  | .text suspended, c => .text (if c.toNat < 0x80 then suspended else none)
  | .inside sequence, _ =>
    match interruption with
    | .ends => .text none
    | .suspends => .text (some sequence)

/-- The state behind a character that is hidden. -/
def afterHidden : State → Char → State
  | .text suspended, c =>
    if isCancel c then .text none
    else if c = escapeCharacter then .inside .escape
    else ofSequence suspended
  | .inside sequence, c => ofSequence (sequence.next c)

end State

/-- The characters that are shown of a text that goes on in the given state. -/
def visible (interruption : Interruption) : State → List Char → List Char
  | _, [] => []
  | state, c :: rest =>
    if state.shows c then c :: visible interruption (state.afterShown interruption c) rest
    else visible interruption (state.afterHidden c) rest

/-- The text that is shown of a text. -/
def strip (interruption : Interruption) (text : String) : String :=
  String.ofList (visible interruption (.text none) text.toList)

@[simp]
theorem toList_strip (interruption : Interruption) (text : String) :
    (strip interruption text).toList = visible interruption (.text none) text.toList :=
  String.toList_ofList

/-! ### What is shown and what is not -/

theorem isShown_of_shows {state : State} {c : Char} (h : state.shows c = true) :
    isShown c = true := by
  cases state with
  | text suspended => exact h
  | inside sequence =>
    simp only [State.shows, Bool.and_eq_true] at h
    simp [isShown, h.2]

/-- Only characters that may be shown are shown. -/
theorem isShown_of_mem_visible {interruption : Interruption} {state : State} {text : List Char}
    {c : Char} (h : c ∈ visible interruption state text) : isShown c = true := by
  induction text generalizing state with
  | nil => simp [visible] at h
  | cons d rest ih =>
    rw [visible] at h
    split at h
    · rename_i hd
      rcases List.mem_cons.1 h with rfl | h
      · exact isShown_of_shows hd
      · exact ih h
    · exact ih h

end SumGreeting.ControlSequence
