import SumGreeting.Proofs.ErrorStream
import SumGreeting.Proofs.Lines
import SumGreeting.Proofs.Outcome
import SumGreeting.Proofs.Trace

/-!
# What the parts of the error stream say

Each of the four parts of the error stream has its own switch.  The warning about the filter needs
a text that denotes no filter, and a run that is not quiet; the notice needs a strict run that is
not quiet; the log depends on the filter, and the record of a failure on nothing but the failure.

## Main definitions

* `Program.warningRecord`, `Program.failureRecord` : the warning about a filter and the record of a
  failure, word for word.
* `Program.Warns` : what is written about the filter in the environment.
* `Program.warningText` : what is written about the text of a filter.

## Main results

* `Program.warns_rejectionText`, `Program.Warns.eq_empty_or_isOneLine` : the warning is written
  where it is due, and is one line.
* `Program.rejectionText_of_choose` : the warning is what is written about the text.
* `Program.strictLine_eq` : the notice is written where it is due.
* `Program.failureLine_cases` : the record of a failure goes with an exit code other than zero.
* `Program.stderr_outcome` : the four parts in order, and when all of them are empty.
-/

namespace SumGreeting.Program

open CommandLine (parse Invocation)

/-! ### The warning -/

/-- The warning about a text that denotes no filter, word for word. -/
def warningRecord (text : String) (fault : Directive.Fault) (verbosity : Nat) : String :=
  "warning: ignoring invalid HELLO_SUM_LOG=" ++ Quoted.quote text ++ " (" ++ fault.message ++
    "), using level '" ++ (Threshold.ofVerbosity verbosity).word ++ "'\n"

/-- What is written about the filter in the environment. -/
inductive Warns (reader : Directive.Reader) (invocation : Invocation) :
    Option OsText → String → Prop
  /-- A warning, if the value is a text that denotes no filter and the run is not quiet. -/
  | rejected {text : String} {fault : Directive.Fault}
      (hquiet : invocation.settings.quiet = false)
      (hfault : Filter.ofText reader text = .error (.fault fault)) :
      Warns reader invocation (some (.ofString text))
        (warningRecord text fault invocation.verbosity)
  /-- Nothing in all other cases. -/
  | silent {log : Option OsText}
      (h : ∀ text fault, log = some (.ofString text) →
        Filter.ofText reader text = .error (.fault fault) → invocation.settings.quiet = true) :
      Warns reader invocation log ""

theorem warningRecord_eq (text : String) (fault : Directive.Fault) (verbosity : Nat) :
    warningRecord text fault verbosity =
      Filter.Rejection.warning ⟨text, fault, .ofVerbosity verbosity⟩ ++ "\n" := by
  have hstart : "warning: ignoring invalid " ++ Filter.variableName ++ "=" =
      "warning: ignoring invalid HELLO_SUM_LOG=" := rfl
  have hend : "'\n" = "'" ++ "\n" := rfl
  unfold warningRecord Filter.Rejection.warning
  rw [hstart, hend, ← String.append_assoc]

section

variable {reader : Directive.Reader} {invocation : Invocation} {log : Option OsText}

/-- The warning is one line, whatever the text in it. -/
theorem Warns.eq_empty_or_isOneLine {warning : String}
    (h : Warns reader invocation log warning) :
    warning = "" ∨ ∃ line, warning = line ++ "\n" ∧ IsOneLine line := by
  cases h with
  | rejected => exact Or.inr ⟨_, warningRecord_eq _ _ _, Filter.Rejection.isOneLine_warning _⟩
  | silent => exact Or.inl rfl

/-- The line about a text that is turned down. -/
theorem rejectionText_some (quiet : Bool) (text : String) (fault : Directive.Fault)
    (verbosity : Nat) :
    Filter.rejectionText quiet (some ⟨text, fault, .ofVerbosity verbosity⟩) =
      if quiet then "" else warningRecord text fault verbosity := by
  rw [warningRecord_eq]
  rfl

/-- The warning is written where it is due. -/
theorem warns_rejectionText {filter : Filter} {rejection : Option Filter.Rejection}
    (h : Filter.choose reader (filterText log) invocation.verbosity = .ok (filter, rejection)) :
    Warns reader invocation log
      (Filter.rejectionText invocation.settings.quiet rejection) := by
  by_cases hlog : ∃ text, log = some (.ofString text)
  · obtain ⟨text, rfl⟩ := hlog
    rw [filterText_ofString] at h
    rcases Filter.cases_of_choose h with ⟨hfilter, rfl⟩ | ⟨fault, hfault, -, rfl⟩
    · refine .silent fun text' fault htext hfault => ?_
      cases OsText.ofString_injective (Option.some.inj htext)
      rw [hfilter] at hfault
      cases hfault
    · rw [rejectionText_some]
      cases hquiet : invocation.settings.quiet with
      | true => exact .silent fun _ _ _ _ => hquiet
      | false => exact .rejected hquiet hfault
  · have hnone : filterText log = none := by
      cases log with
      | none => rfl
      | some value => exact filterText_of_notText fun text hvalue => hlog ⟨text, by rw [hvalue]⟩
    rw [hnone, Filter.choose_none] at h
    cases h
    exact .silent fun text _ htext _ => absurd ⟨text, htext⟩ hlog

end

/-- What is written about the text of a filter, if there is one: a warning, if the text denotes no
filter and notices are not suppressed. -/
def warningText (reader : Directive.Reader) (quiet : Bool) (text : Option String)
    (verbosity : Nat) : String :=
  if quiet then ""
  else match text with
    | none => ""
    | some text =>
      match Filter.firstRefusal? reader text with
      | some (.fault fault) => warningRecord text fault verbosity
      | _ => ""

/-- The warning is what is written about the text. -/
theorem rejectionText_of_choose {reader : Directive.Reader} {text : Option String}
    {verbosity : Nat} {filter : Filter} {rejection : Option Filter.Rejection}
    (h : Filter.choose reader text verbosity = .ok (filter, rejection)) (quiet : Bool) :
    Filter.rejectionText quiet rejection = warningText reader quiet text verbosity := by
  unfold warningText
  cases text with
  | none =>
    cases h
    exact (ite_self "").symm
  | some text =>
    rcases Filter.cases_of_choose h with ⟨hfilter, rfl⟩ | ⟨fault, hfault, -, rfl⟩
    · simp only [Filter.accepts_iff_firstRefusal?_eq_none.1 ⟨filter, hfilter⟩, ite_self]
      rfl
    · simp only [Filter.ofText_eq_error_iff.1 hfault, rejectionText_some]

/-- The quiet switch suppresses what is written, and does not change it otherwise. -/
theorem warningText_eq (reader : Directive.Reader) (quiet : Bool) (text : Option String)
    (verbosity : Nat) :
    warningText reader quiet text verbosity =
      if quiet then "" else warningText reader false text verbosity := by
  cases quiet <;> rfl

/-- Nothing is written about a text at which the reader crashes. -/
theorem warningText_of_crash {reader : Directive.Reader} {text : Option String} {verbosity : Nat}
    {crash : Crash} (h : Filter.choose reader text verbosity = .error crash) (quiet : Bool) :
    warningText reader quiet text verbosity = "" := by
  obtain ⟨text, rfl, hcrash⟩ := Filter.ofText_of_choose_eq_error h
  simp only [warningText, Filter.ofText_eq_error_iff.1 hcrash, ite_self]

/-! ### The notice -/

/-- The notice is written where it is due. -/
theorem strictLine_eq (settings : Settings) :
    strictLine settings = if settings.strict = true ∧ settings.quiet = false then
      "strict mode: validating input\n" else "" := by
  rw [strictLine, noticeText]
  cases settings.strict <;> cases settings.quiet <;> rfl

/-! ### The record of a failure -/

/-- The record of a failure, word for word.  The message of a fault of the sink stands in it
twice. -/
def failureRecord (failure : Failure) : String :=
  let cause := match failure with
    | .output fault => ": " ++ fault.message
    | .overflow _ _ | .nameTooLong _ _ | .controlCharacters _ => ""
  "error: hello-sum run failed: " ++ failure.message ++ cause ++ "\n"

theorem errorLine_eq (failure : Failure) : errorLine failure = failureRecord failure := by
  have hstart : "error: " ++ CommandLine.programName ++ " run failed: " =
      "error: hello-sum run failed: " := rfl
  unfold failureRecord
  rw [errorLine, hstart, Failure.chain]
  cases failure with
  | output fault => simp only [Failure.cause?, String.append_assoc]
  | overflow | nameTooLong | controlCharacters => simp only [Failure.cause?, String.append_empty]

variable {reader : Directive.Reader} {invocation : Invocation} {log : Option OsText}
  {filter : Filter} {rejection : Option Filter.Rejection}

/-- What is written about the end of a run, and the exit code that goes with it. -/
theorem failureLine_cases
    (h : Filter.choose reader (filterText log) invocation.verbosity = .ok (filter, rejection))
    (stdout : Stdout) :
    ((∃ report, (invocation.settings.run stdout.sink).result = .ok report) ∧
        failureLine stdout invocation.settings = "" ∧
        (runOutcome reader invocation log stdout).code = 0) ∨
      ∃ failure, (invocation.settings.run stdout.sink).result = .error failure ∧
        failureLine stdout invocation.settings = failureRecord failure ∧
        (runOutcome reader invocation log stdout).code = 1 := by
  rw [failureLine, code_runOutcome h]
  cases (invocation.settings.run stdout.sink).result with
  | ok report => exact Or.inl ⟨⟨report, rfl⟩, rfl, rfl⟩
  | error failure => exact Or.inr ⟨failure, rfl, errorLine_eq failure, rfl⟩

/-- Without a filter in the environment, a request for more output and a notice, a run that
succeeds writes nothing. -/
theorem stderr_runOutcome_eq_empty {stdout : Stdout} (hverbosity : invocation.verbosity = 0)
    (hnotice : invocation.settings.quiet = true ∨ invocation.settings.strict = false)
    (hcode : (runOutcome reader invocation none stdout).code = 0) :
    (runOutcome reader invocation none stdout).stderr = "" := by
  have hstrict : strictLine invocation.settings = "" := by
    rw [strictLine_eq, if_neg]
    rintro ⟨hstrict, hquiet⟩
    rcases hnotice with h | h
    · rw [hquiet] at h
      cases h
    · rw [hstrict] at h
      cases h
  have hchoose : Filter.choose reader (filterText none) invocation.verbosity =
      .ok (.ofThreshold .warn, none) := by
    rw [hverbosity]
    rfl
  have hlog : (Filter.ofThreshold .warn).log (invocation.settings.run stdout.sink).events = "" :=
    Filter.log_run_eq_empty (by decide) _ _
  have hfailure : failureLine stdout invocation.settings = "" := by
    rcases failureLine_cases hchoose stdout with ⟨-, h, -⟩ | ⟨-, -, -, h⟩
    · exact h
    · rw [hcode] at h
      cases h
  rw [stderr_runOutcome hchoose, hstrict, hlog, hfailure]
  rfl

end SumGreeting.Program
