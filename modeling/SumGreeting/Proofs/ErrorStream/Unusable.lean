import SumGreeting.Proofs.ErrorStream.Contents

/-!
# Values of the environment that cannot be used

A value of the environment is no filter if it encodes no text, or if a part of its text denotes no
directive.  In either case the program goes on with the filter for the verbosity.  In the second
case it says so in the first line of the error stream.  In the first case it does not: such a value
is ignored without a word, as if there were none.

## Main definitions

* `Program.Unusable` : the values that are no filter.
* `Program.BeginsWithWarning` : an error stream whose first line is a warning.

## Main results

* `Program.not_beginsWithWarning` : nothing but the warning about the filter looks like one.
* `Program.unusable_ofString_iff` : a text that cannot be used has a first part that is wrong.
* `Program.runOutcome_of_fault`, `Program.runOutcome_of_notText` : a value that cannot be used
  leaves the outcome as it is without a value, up to the warning.
* `Program.beginsWithWarning_iff_badText` : which values are warned about.
* `Program.undecodable_value_ignored_silently` : a value that is not.
-/

namespace SumGreeting.Program

open CommandLine (parse Invocation)

/-- A value of the environment that cannot be used as a filter. -/
inductive Unusable (reader : Directive.Reader) : OsText → Prop
  /-- It encodes no text. -/
  | notText {value : OsText} (h : ∀ text, value ≠ .ofString text) : Unusable reader value
  /-- A part of its text between commas, not empty, denotes no directive. -/
  | badPart {text : String} {part : List Char} {fault : Directive.Fault}
      (hpart : part ∈ text.toList.splitOn ',') (hne : part ≠ [])
      (hread : reader part = .error (.fault fault)) : Unusable reader (.ofString text)

/-- The error stream begins with a line that is a warning. -/
def BeginsWithWarning (stderr : String) : Prop :=
  ∃ line rest, stderr = "warning: " ++ line ++ "\n" ++ rest ∧ IsOneLine line

/-! ### What does not begin with a warning

No other part of the error stream begins with the first letter of the warning, so that it is told
by that letter whether a warning is there. -/

theorem head?_append_ne {c : Char} {s t : String} (hs : s.toList.head? ≠ some c)
    (ht : t.toList.head? ≠ some c) : (s ++ t).toList.head? ≠ some c := by
  rw [String.toList_append, List.head?_append]
  cases h : s.toList.head? with
  | none => exact ht
  | some first =>
    rw [h] at hs
    exact hs

theorem head?_join_ne {c : Char} {texts : List String}
    (h : ∀ text ∈ texts, text.toList.head? ≠ some c) :
    (String.join texts).toList.head? ≠ some c := by
  induction texts with
  | nil => simp
  | cons text rest ih =>
    obtain ⟨htext, hrest⟩ := List.forall_mem_cons.1 h
    rw [String.join_cons]
    exact head?_append_ne htext (ih hrest)

/-- A line of the log begins with a severity. -/
theorem head?_line_ne (event : Event) : event.line.toList.head? ≠ some 'w' := by
  rw [Event.line]
  cases event.severity <;> simp [Severity.label]

theorem head?_log_ne (filter : Filter) (events : List Event) :
    (filter.log events).toList.head? ≠ some 'w' := by
  refine head?_join_ne fun line hline => ?_
  obtain ⟨event, -, rfl⟩ := List.mem_map.1 hline
  exact head?_line_ne event

theorem head?_strictLine_ne (settings : Settings) :
    (strictLine settings).toList.head? ≠ some 'w' := by
  rw [strictLine_eq]
  split_ifs <;> simp

theorem head?_failureLine_ne (stdout : Stdout) (settings : Settings) :
    (failureLine stdout settings).toList.head? ≠ some 'w' := by
  unfold failureLine
  cases (settings.run stdout.sink).result with
  | ok report => simp
  | error failure => simp [errorLine]

theorem BeginsWithWarning.head?_eq {stderr : String} (h : BeginsWithWarning stderr) :
    stderr.toList.head? = some 'w' := by
  obtain ⟨line, rest, rfl, -⟩ := h
  simp

variable {reader : Directive.Reader} {invocation : Invocation} {stdout : Stdout}

/-- The notice, the log and the record of a failure do not look like the warning. -/
theorem not_beginsWithWarning {log : Option OsText} {filter : Filter}
    {rejection : Option Filter.Rejection}
    (h : Filter.choose reader (filterText log) invocation.verbosity = .ok (filter, rejection))
    (hsilent : Filter.rejectionText invocation.settings.quiet rejection = "") :
    ¬ BeginsWithWarning (runOutcome reader invocation log stdout).stderr := by
  intro hwarning
  have hhead := hwarning.head?_eq
  rw [stderr_runOutcome h, hsilent, String.empty_append] at hhead
  exact head?_append_ne (head?_append_ne (head?_strictLine_ne _) (head?_log_ne _ _))
    (head?_failureLine_ne _ _) hhead

/-- The text of a warning after its first word. -/
theorem exists_warning_eq (rejection : Filter.Rejection) :
    ∃ line, rejection.warning = "warning: " ++ line := by
  have hstart : "warning: ignoring invalid " = "warning: " ++ "ignoring invalid " := by
    decide
  refine ⟨"ignoring invalid " ++ Filter.variableName ++ "=" ++ Quoted.quote rejection.text ++
    " (" ++ rejection.fault.message ++ "), using level '" ++ rejection.fallback.word ++ "'", ?_⟩
  unfold Filter.Rejection.warning
  rw [hstart]
  simp only [String.append_assoc]

/-- The warning is a line of its own. -/
theorem beginsWithWarning_warningRecord (text : String) (fault : Directive.Fault)
    (verbosity : Nat) (rest : String) :
    BeginsWithWarning (warningRecord text fault verbosity ++ rest) := by
  obtain ⟨line, hline⟩ := exists_warning_eq ⟨text, fault, .ofVerbosity verbosity⟩
  have hone := Filter.Rejection.isOneLine_warning ⟨text, fault, .ofVerbosity verbosity⟩
  rw [hline, isOneLine_append_iff] at hone
  exact ⟨line, rest, by rw [warningRecord_eq, hline], hone.2⟩

/-! ### What a value that cannot be used does -/

/-- Without a value the filter is the one for the verbosity. -/
theorem stderr_runOutcome_none (reader : Directive.Reader) (invocation : Invocation)
    (stdout : Stdout) :
    (runOutcome reader invocation none stdout).stderr =
      strictLine invocation.settings ++
        (Filter.ofThreshold (.ofVerbosity invocation.verbosity)).log
          (invocation.settings.run stdout.sink).events ++
        failureLine stdout invocation.settings := by
  rw [stderr_runOutcome (Filter.choose_none reader invocation.verbosity)]
  exact congrArg (· ++ _ ++ _) (String.empty_append)

/-- A value that encodes no text makes no difference at all. -/
theorem runOutcome_of_notText {value : OsText} (h : ∀ text, value ≠ .ofString text)
    (reader : Directive.Reader) (invocation : Invocation) (stdout : Stdout) :
    runOutcome reader invocation (some value) stdout =
      runOutcome reader invocation none stdout := by
  have hnone : filterText (some value) = filterText none := filterText_of_notText h
  rw [runOutcome, hnone]
  rfl

/-- A text that denotes no filter makes no difference but the warning. -/
theorem runOutcome_of_fault (hquiet : invocation.settings.quiet = false) {text : String}
    {fault : Directive.Fault} (h : Filter.ofText reader text = .error (.fault fault))
    (stdout : Stdout) :
    runOutcome reader invocation (some (.ofString text)) stdout =
      { runOutcome reader invocation none stdout with
        stderr := warningRecord text fault invocation.verbosity ++
          (runOutcome reader invocation none stdout).stderr } := by
  have hgiven := Filter.choose_of_fault h invocation.verbosity
  rw [← filterText_ofString text] at hgiven
  rw [runOutcome_of_choose hgiven, runOutcome_of_choose (Filter.choose_none reader _),
    rejectionText_some, hquiet, if_neg Bool.false_ne_true]
  have hnothing : Filter.rejectionText false none = "" := rfl
  simp only [hnothing, String.empty_append, String.append_assoc]

/-- Where the reader answers, a text cannot be used exactly if there is a first part of it that is
wrong. -/
theorem unusable_ofString_iff {text : String} (hanswers : Filter.Answers reader (some text)) :
    Unusable reader (.ofString text) ↔
      ∃ fault, Filter.firstRefusal? reader text = some (.fault fault) := by
  constructor
  · intro h
    generalize hvalue : OsText.ofString text = value at h
    cases h with
    | notText h => exact absurd hvalue.symm (h text)
    | badPart hpart hne hread =>
      cases OsText.ofString_injective hvalue
      cases hfirst : Filter.firstRefusal? reader text with
      | none =>
        have haccepts := Filter.accepts_iff_firstRefusal?_eq_none.2 hfirst
        obtain ⟨directive, hdirective⟩ :=
          Filter.accepts_iff.1 haccepts _ (Filter.mem_parts_iff.2 ⟨hpart, hne⟩)
        cases hread.symm.trans hdirective
      | some refusal => cases refusal with
        | fault fault => exact ⟨fault, rfl⟩
        | crash crash =>
          exact absurd (Filter.ofText_eq_error_iff.2 hfirst) (hanswers text rfl crash)
  · rintro ⟨fault, hfault⟩
    obtain ⟨before, part, after, hparts, -, hread⟩ :=
      Filter.exists_first_of_ofText_eq_error (Filter.ofText_eq_error_iff.2 hfault)
    have hpart : part ∈ Filter.parts text := by
      rw [hparts]
      exact List.mem_append_right before List.mem_cons_self
    obtain ⟨hpart, hne⟩ := Filter.mem_parts_iff.1 hpart
    exact .badPart hpart hne hread

/-- A value that encodes no text is not warned about, and neither is one that can be used. -/
theorem not_beginsWithWarning_of_usable {value : OsText}
    (hanswers : Filter.Answers reader (filterText (some value)))
    (h : ¬ (Unusable reader value ∧ ∃ text, value = .ofString text)) :
    ¬ BeginsWithWarning (runOutcome reader invocation (some value) stdout).stderr := by
  by_cases htext : ∃ text, value = .ofString text
  · obtain ⟨text, rfl⟩ := htext
    obtain ⟨filter, rejection, hchoose⟩ :=
      Filter.exists_choose_eq_ok hanswers invocation.verbosity
    have htext := hchoose
    rw [filterText_ofString] at htext hanswers
    rcases Filter.cases_of_choose htext with ⟨-, rfl⟩ | ⟨fault, hfault, -, -⟩
    · exact not_beginsWithWarning hchoose rfl
    · have hunusable := (unusable_ofString_iff hanswers).2
        ⟨fault, Filter.ofText_eq_error_iff.1 hfault⟩
      exact absurd ⟨hunusable, text, rfl⟩ h
  · rw [runOutcome_of_notText fun text hvalue => htext ⟨text, hvalue⟩]
    exact not_beginsWithWarning (Filter.choose_none reader invocation.verbosity) rfl

/-- **Which values of the environment are warned about.** In a run that is not quiet, and with a
reader that answers, the error stream begins with a warning exactly if the value is a text and
cannot be used as a filter.  Such a value leaves the outcome as it is without a value, with the
filter for the verbosity, up to the warning in front.  A value that encodes no text leaves the
outcome as it is without a value, and so without a warning. -/
theorem beginsWithWarning_iff_badText {arguments : List OsText} {invocation : Invocation}
    (h : parse arguments = .ok invocation) (hquiet : invocation.settings.quiet = false)
    (value : OsText) (hanswers : Filter.Answers reader (filterText (some value)))
    (stdout : Stdout) :
    let settings := invocation.settings
    let given := outcome reader arguments (some value) stdout
    let missing := outcome reader arguments none stdout
    (BeginsWithWarning given.stderr ↔
        Unusable reader value ∧ ∃ text, value = .ofString text) ∧
      (Unusable reader value → ∀ text, value = .ofString text →
        ∃ fault, Filter.firstRefusal? reader text = some (.fault fault) ∧
          given = { missing with
            stderr := warningRecord text fault invocation.verbosity ++ missing.stderr }) ∧
      ((∀ text, value ≠ .ofString text) → given = missing) ∧
      missing.stderr = strictLine settings ++
        (Filter.ofThreshold (.ofVerbosity invocation.verbosity)).log
          (settings.run stdout.sink).events ++ failureLine stdout settings := by
  intro settings given missing
  have hgiven : given = runOutcome reader invocation (some value) stdout :=
    outcome_of_parse_eq_ok h reader (some value) stdout
  have hmissing : missing = runOutcome reader invocation none stdout :=
    outcome_of_parse_eq_ok h reader none stdout
  rw [hgiven, hmissing]
  have hwarned : ∀ text, value = .ofString text → Unusable reader value →
      ∃ fault, Filter.firstRefusal? reader text = some (.fault fault) ∧
        runOutcome reader invocation (some value) stdout =
          { runOutcome reader invocation none stdout with
            stderr := warningRecord text fault invocation.verbosity ++
              (runOutcome reader invocation none stdout).stderr } := by
    rintro text rfl hunusable
    rw [filterText_ofString] at hanswers
    obtain ⟨fault, hfault⟩ := (unusable_ofString_iff hanswers).1 hunusable
    exact ⟨fault, hfault, runOutcome_of_fault hquiet (Filter.ofText_eq_error_iff.2 hfault) stdout⟩
  refine ⟨⟨fun hbegins => ?_, ?_⟩, fun hunusable text htext => hwarned text htext hunusable,
    fun hnotText => runOutcome_of_notText hnotText reader invocation stdout,
    stderr_runOutcome_none reader invocation stdout⟩
  · by_contra hother
    exact not_beginsWithWarning_of_usable hanswers hother hbegins
  · rintro ⟨hunusable, text, htext⟩
    obtain ⟨fault, -, houtcome⟩ := hwarned text htext hunusable
    rw [houtcome]
    exact beginsWithWarning_warningRecord text fault _ _

/-- A text that denotes no filter, in a run that asks for more output. -/
theorem beginsWithWarning_iff_badText_verbose :
    let reader := Directive.Language.lenient.read
    parse [.ofString "-v"] = .ok ⟨{}, 1⟩ ∧ Unusable reader (.ofString "debug,x=y") ∧
      BeginsWithWarning
        (outcome reader [.ofString "-v"] (some (.ofString "debug,x=y")) .captured).stderr := by
  intro reader
  have hparse : parse [.ofString "-v"] = .ok ⟨{}, 1⟩ := by decide
  have hanswers : Filter.Answers reader (filterText (some (.ofString "debug,x=y"))) := by
    rw [filterText_ofString]
    exact Filter.answers_of_heads _ (by decide)
  have hpart : "x=y".toList ∈ "debug,x=y".toList.splitOn ',' := by decide
  have hread : reader "x=y".toList = .error (.fault .badThreshold) := by decide
  have hunusable : Unusable reader (.ofString "debug,x=y") := .badPart hpart (by decide) hread
  exact ⟨hparse, hunusable,
    (beginsWithWarning_iff_badText hparse rfl _ hanswers .captured).1.2 ⟨hunusable, _, rfl⟩⟩

/-- **Not every value that cannot be used is warned about.** A value of one byte that encodes no
text is ignored by every reader, and the error stream stays empty. -/
theorem undecodable_value_ignored_silently :
    ∃ invocation, parse [] = .ok invocation ∧ invocation.settings.quiet = false ∧
      ∀ reader, Unusable reader ⟨[0xff]⟩ ∧
        (outcome reader [] (some ⟨[0xff]⟩) .captured).stderr = "" ∧
        ¬ BeginsWithWarning (outcome reader [] (some ⟨[0xff]⟩) .captured).stderr := by
  have hparse : parse [] = .ok ⟨{}, 0⟩ := by decide
  have hnotText : ∀ text, (⟨[0xff]⟩ : OsText) ≠ .ofString text := by
    intro text htext
    have hnone : (⟨[0xff]⟩ : OsText).toString? = none := by decide
    rw [htext, OsText.toString?_ofString] at hnone
    cases hnone
  refine ⟨⟨{}, 0⟩, hparse, rfl, fun reader => ?_⟩
  have houtcome : outcome reader [] (some ⟨[0xff]⟩) .captured =
      runOutcome reader ⟨{}, 0⟩ none .captured := by
    rw [outcome_of_parse_eq_ok hparse]
    exact runOutcome_of_notText hnotText _ _ _
  have hsilent : (runOutcome reader ⟨{}, 0⟩ none .captured).stderr = "" :=
    stderr_runOutcome_eq_empty rfl (Or.inr rfl)
      (code_runOutcome_captured (Filter.answers_none reader) (by decide))
  refine ⟨.notText hnotText, ?_, fun hbegins => ?_⟩
  · rw [houtcome, hsilent]
  · rw [houtcome] at hbegins
    exact not_beginsWithWarning (Filter.choose_none reader 0) rfl hbegins

end SumGreeting.Program
