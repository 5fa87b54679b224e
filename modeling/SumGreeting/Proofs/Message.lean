import SumGreeting.Proofs.ErrorStream.Contents
import SumGreeting.Proofs.Fields

/-!
# What the message of a failure tells

The message of a failure tells its cause: how it begins tells the kind, and the values can be read
off the rest.  Only the kind of a fault of the sink is not shown.  A message about settings that are
turned down is on one line, whatever the name that it quotes, and so is the record of such a failure
at the end of the error stream.

## Main definitions

* `Failure.Kind`, `Failure.Kind.ofMessage` : the kinds of failures, and the kind that a message
  tells.
* `Failure.SameCause` : failures with the same values.
* `EndsLine` : a text after which a new line begins.

## Main results

* `Failure.Kind.ofMessage_message` : the beginning of a message tells the kind.
* `Failure.message_eq_message_iff` : the message tells the cause.
* `Failure.isOneLine_message` : the messages that are on one line.
* `Program.exists_stderr_eq_of_result_eq_error` : where the record of a failure stands.
* `Failure.message_tells_cause` : all of this in one statement.
-/

namespace SumGreeting

namespace Failure

/-! ### The kind of a failure -/

/-- The kinds of failures. -/
inductive Kind where
  | overflow
  | nameTooLong
  | controlCharacters
  | output
  deriving DecidableEq

/-- The kind of a failure. -/
def kind : Failure → Kind
  | overflow _ _ => .overflow
  | nameTooLong _ _ => .nameTooLong
  | controlCharacters _ => .controlCharacters
  | output _ => .output

/-- The kind of failure that a message tells by its first characters. -/
def Kind.ofMessage (message : String) : Kind :=
  match message.toList with
  | 'f' :: _ => output
  | 'n' :: 'a' :: 'm' :: 'e' :: ' ' :: 'i' :: _ => nameTooLong
  | 'n' :: _ => controlCharacters
  | _ => overflow

/-- A text that begins with a number is the message about a sum: the others begin with a letter. -/
theorem Kind.ofMessage_repr_append (n : Int) (rest : String) :
    ofMessage (n.repr ++ rest) = overflow := by
  obtain ⟨c, tail, hchars⟩ := List.exists_cons_of_ne_nil (toList_repr_ne_nil n)
  have hother : c = '-' ∨ c.isDigit = true :=
    eq_dash_or_isDigit_of_mem_repr (hchars ▸ List.mem_cons_self)
  have hf : c ≠ 'f' := by
    rintro rfl
    exact absurd hother (by decide)
  have hn : c ≠ 'n' := by
    rintro rfl
    exact absurd hother (by decide)
  rw [ofMessage, String.toList_append, hchars, List.cons_append]
  split
  · rename_i heq
    exact absurd (List.cons.inj heq).1 hf
  · rename_i heq
    exact absurd (List.cons.inj heq).1 hn
  · rename_i heq
    exact absurd (List.cons.inj heq).1 hn
  · rfl

/-- The beginning of a message tells the kind of the failure. -/
theorem Kind.ofMessage_message (failure : Failure) : ofMessage failure.message = failure.kind := by
  cases failure with
  | overflow a b =>
    unfold message
    dsimp only
    rw [String.append_assoc, String.append_assoc, Kind.ofMessage_repr_append]
    rfl
  | nameTooLong length limit =>
    unfold message
    simp [ofMessage, kind]
  | controlCharacters name =>
    unfold message
    simp [ofMessage, kind]
  | output fault =>
    unfold message
    simp [ofMessage, kind]

/-! ### The values of a failure -/

theorem eq_of_message_overflow_eq {a b a' b' : Int32}
    (h : (overflow a b).message = (overflow a' b').message) : a = a' ∧ b = b' := by
  unfold message at h
  simp only [String.append_assoc] at h
  obtain ⟨hfirst, hrest⟩ := delimits_repr (by decide) h
  have hsecond := intRepr_injective ((String.append_left_inj _).1 hrest)
  exact ⟨Int32.toInt_inj.1 hfirst, Int32.toInt_inj.1 hsecond⟩

theorem eq_of_message_nameTooLong_eq {length limit length' limit' : Nat}
    (h : (nameTooLong length limit).message = (nameTooLong length' limit').message) :
    length = length' ∧ limit = limit' := by
  unfold message at h
  simp only [String.append_assoc, String.append_right_inj] at h
  obtain ⟨hlength, hrest⟩ := delimits_natRepr (by decide) h
  exact ⟨hlength, natRepr_injective ((String.append_left_inj _).1 hrest)⟩

theorem eq_of_message_controlCharacters_eq {name name' : String}
    (h : (controlCharacters name).message = (controlCharacters name').message) : name = name' := by
  unfold message at h
  exact (delimits_quote "").injective ((String.append_right_inj _).1 h)

theorem eq_of_message_output_eq {fault fault' : IoFault}
    (h : (output fault).message = (output fault').message) : fault.message = fault'.message := by
  unfold message at h
  exact (String.append_right_inj _).1 h

/-! ### The cause -/

/-- The two failures have the same cause, with the same values.  Of a fault only the message
counts. -/
inductive SameCause : Failure → Failure → Prop
  | overflow (a b : Int32) : SameCause (overflow a b) (overflow a b)
  | nameTooLong (length limit : Nat) :
    SameCause (nameTooLong length limit) (nameTooLong length limit)
  | controlCharacters (name : String) : SameCause (controlCharacters name) (controlCharacters name)
  | output (message : String) (kind kind' : IoFault.Kind) :
    SameCause (output ⟨kind, message⟩) (output ⟨kind', message⟩)

/-- The message of a failure tells its cause. -/
theorem message_eq_message_iff {failure other : Failure} :
    failure.message = other.message ↔ failure.SameCause other := by
  constructor
  · intro h
    have hkind : failure.kind = other.kind := by
      rw [← Kind.ofMessage_message, ← Kind.ofMessage_message, h]
    -- Failures of different kinds are out of the question.
    cases failure with
    | overflow a b =>
      cases other with
      | overflow =>
        obtain ⟨rfl, rfl⟩ := eq_of_message_overflow_eq h
        exact .overflow a b
      | nameTooLong | controlCharacters | output => cases hkind
    | nameTooLong length limit =>
      cases other with
      | nameTooLong =>
        obtain ⟨rfl, rfl⟩ := eq_of_message_nameTooLong_eq h
        exact .nameTooLong length limit
      | overflow | controlCharacters | output => cases hkind
    | controlCharacters name =>
      cases other with
      | controlCharacters =>
        obtain rfl := eq_of_message_controlCharacters_eq h
        exact .controlCharacters name
      | overflow | nameTooLong | output => cases hkind
    | output fault =>
      cases other with
      | output fault' =>
        obtain ⟨faultKind, text⟩ := fault
        obtain ⟨faultKind', text'⟩ := fault'
        obtain rfl : text = text' := eq_of_message_output_eq h
        exact .output text faultKind faultKind'
      | overflow | nameTooLong | controlCharacters => cases hkind
  · intro h
    cases h <;> rfl

/-! ### The record of a failure -/

/-- The message about settings that are turned down is on one line, whatever the name in it. -/
theorem isOneLine_message {failure : Failure} (h : ∀ fault, failure ≠ .output fault) :
    IsOneLine failure.message := by
  cases failure with
  | overflow a b =>
    unfold message
    simp only [isOneLine_append_iff, isOneLine_repr, true_and]
    decide
  | nameTooLong length limit =>
    unfold message
    simp only [isOneLine_append_iff, isOneLine_natRepr, and_true]
    decide
  | controlCharacters name =>
    unfold message
    simp only [isOneLine_append_iff, isOneLine_quote, and_true]
    decide
  | output fault => exact absurd rfl (h fault)

end Failure

/-- A new line begins after the text: the text is empty or ends with a line break. -/
def EndsLine (text : String) : Prop :=
  text = "" ∨ ∃ before, text = before ++ "\n"

theorem EndsLine.append {text rest : String} (h : EndsLine text) (hrest : EndsLine rest) :
    EndsLine (text ++ rest) := by
  rcases hrest with rfl | ⟨before, rfl⟩
  · rwa [String.append_empty]
  · exact Or.inr ⟨text ++ before, String.append_assoc.symm⟩

theorem endsLine_join {texts : List String} (h : ∀ text ∈ texts, EndsLine text) :
    EndsLine (String.join texts) := by
  induction texts with
  | nil => exact Or.inl rfl
  | cons text texts ih =>
    obtain ⟨htext, htexts⟩ := List.forall_mem_cons.1 h
    rw [String.join_cons]
    exact htext.append (ih htexts)

theorem Filter.endsLine_log (filter : Filter) (events : List Event) :
    EndsLine (filter.log events) := by
  refine endsLine_join fun line hline => ?_
  obtain ⟨event, -, rfl⟩ := List.mem_map.1 hline
  exact Or.inr ⟨_, rfl⟩

namespace Program

open CommandLine (parse Invocation)

/-- The line that records a failure, without the line break. -/
def failureText (failure : Failure) : String :=
  "error: hello-sum run failed: " ++ failure.message

/-- The record of a failure that is not a fault of the sink is its message, on one line. -/
theorem errorLine_eq_failureText {failure : Failure} (h : ∀ fault, failure ≠ .output fault) :
    errorLine failure = failureText failure ++ "\n" := by
  rw [errorLine_eq]
  unfold failureRecord
  cases failure with
  | output fault => exact absurd rfl (h fault)
  | overflow | nameTooLong | controlCharacters => exact congrArg (· ++ "\n") String.append_empty

theorem isOneLine_failureText {failure : Failure} (h : ∀ fault, failure ≠ .output fault) :
    IsOneLine (failureText failure) := by
  unfold failureText
  rw [isOneLine_append_iff]
  exact ⟨by decide, Failure.isOneLine_message h⟩

/-- The record of a failure begins a line of the error stream and ends it. -/
theorem exists_stderr_eq_of_result_eq_error {reader : Directive.Reader} {invocation : Invocation}
    {log : Option OsText} {stdout : Stdout} {failure : Failure}
    (h : (invocation.settings.run stdout.sink).result = .error failure)
    (hanswers : Filter.Answers reader (filterText log)) :
    ∃ earlier, EndsLine earlier ∧
      (runOutcome reader invocation log stdout).stderr = earlier ++ errorLine failure := by
  obtain ⟨filter, rejection, hchoose⟩ :=
    Filter.exists_choose_eq_ok hanswers invocation.verbosity
  have hwarning : EndsLine (Filter.rejectionText invocation.settings.quiet rejection) :=
    (warns_rejectionText hchoose).eq_empty_or_isOneLine.imp_right
      fun ⟨line, hline, _⟩ => ⟨line, hline⟩
  have hnotice : EndsLine (strictLine invocation.settings) := by
    rw [strictLine_eq]
    split_ifs
    · exact Or.inr ⟨"strict mode: validating input", rfl⟩
    · exact Or.inl rfl
  have hlog := filter.endsLine_log (invocation.settings.run stdout.sink).events
  refine ⟨_, (hwarning.append hnotice).append hlog, ?_⟩
  rw [stderr_runOutcome hchoose, failureLine, h]

end Program

namespace Failure

open CommandLine (parse Invocation)
open Program (outcome)

/-- **The message of a failure tells its cause.** Two failures have the same message exactly if they
have the same cause with the same values, up to the kind of a fault of the sink.  A message about
settings that are turned down has no control character, whatever the name in it, and so the program
ends its error stream with one line for such a failure, which begins a new line, as long as the
reader of the filter answers. -/
theorem message_tells_cause (reader : Directive.Reader) :
    (∀ failure other : Failure, failure.message = other.message ↔ failure.SameCause other) ∧
      ∀ failure : Failure, (∀ fault, failure ≠ .output fault) →
        IsOneLine failure.message ∧
          ∀ (arguments : List OsText) (log : Option OsText) (stdout : Stdout)
            (invocation : Invocation), Filter.Answers reader (Program.filterText log) →
              parse arguments = .ok invocation →
              (invocation.settings.run stdout.sink).result = .error failure →
                ∃ earlier line,
                  (outcome reader arguments log stdout).stderr = earlier ++ line ++ "\n" ∧
                  EndsLine earlier ∧ IsOneLine line ∧
                  line = "error: hello-sum run failed: " ++ failure.message := by
  refine ⟨fun _ _ => message_eq_message_iff, fun failure hcause => ⟨isOneLine_message hcause, ?_⟩⟩
  intro arguments log stdout invocation hanswers hparse hresult
  obtain ⟨earlier, hearlier, hstderr⟩ :=
    Program.exists_stderr_eq_of_result_eq_error hresult hanswers
  refine ⟨earlier, Program.failureText failure, ?_, hearlier,
    Program.isOneLine_failureText hcause, rfl⟩
  rw [Program.outcome_of_parse_eq_ok hparse, hstderr, Program.errorLine_eq_failureText hcause,
    String.append_assoc]

/-- A name that looks like the record of another failure. -/
theorem message_tells_cause_imitation :
    (output ⟨.brokenPipe, "closed"⟩).message = (output ⟨.other, "closed"⟩).message ∧
      IsOneLine (controlCharacters "\nerror: none").message ∧
      ∃ earlier, EndsLine earlier ∧
        (outcome Directive.Language.lenient.read
          [.ofString "--strict", .ofString "--name", .ofString "\nerror: none"] none
          .captured).stderr = earlier ++
            "error: hello-sum run failed: name contains control characters: \"\\nerror: none\"" ++
            "\n" := by
  let settings : Settings := { name := "\nerror: none", strict := true }
  have hparse : parse [.ofString "--strict", .ofString "--name", .ofString "\nerror: none"] =
      .ok ⟨settings, 0⟩ := by
    decide
  have hcontrol : settings.HasControlCharacter :=
    (Settings.any_isControl_iff settings).1 (by decide)
  have hrejection : settings.rejection? = some (.controlCharacters "\nerror: none") := by
    rw [Settings.rejection?, if_neg (by decide), if_neg (by decide), if_neg (by decide),
      if_pos hcontrol]
  have hresult : (settings.run Stdout.captured.sink).result =
      .error (.controlCharacters "\nerror: none") :=
    (Settings.run_of_rejection?_eq_some hrejection _).1
  obtain ⟨hcauses, hrecords⟩ := message_tells_cause Directive.Language.lenient.read
  obtain ⟨hline, hrecord⟩ := hrecords (controlCharacters "\nerror: none") (by simp)
  obtain ⟨earlier, line, hstderr, hearlier, -, rfl⟩ :=
    hrecord _ none .captured _ (Filter.answers_none _) hparse hresult
  refine ⟨(hcauses _ _).2 (.output "closed" .brokenPipe .other), hline, earlier,
    hearlier, ?_⟩
  rw [hstderr]
  have hmessage : (controlCharacters "\nerror: none").message =
      "name contains control characters: \"\\nerror: none\"" := by
    decide
  rw [hmessage]
  rfl

end Failure

end SumGreeting
