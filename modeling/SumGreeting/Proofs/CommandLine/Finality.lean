import SumGreeting.Proofs.Outcome
import SumGreeting.Proofs.CommandLine.Acceptance

/-!
# What stops the reading for good

A request for help or the version ends the reading, and so does a usage error: no argument behind it
is looked at.  A value that was taken from an argument of its own is different, since it is examined
late.  As long as nothing comes behind it, its fault is the last thing to be found; with more
arguments some other fault may be found instead.  But one is found in any case, and help or the
version is not shown any more, because every option examines the value that is held before anything
else.

Only an option whose value is missing can be mended, namely by the argument that comes next.

## Main definitions

* `Progress.Doomed` : a value is held that will be turned down.

## Main results

* `Progress.exists_usage_of_step` : what an argument can lead to where the pending option cannot be
  examined.
* `Progress.Doomed.step`, `Progress.Doomed.run` : a value that will be turned down stays so.
* `stop_is_final` : what further arguments can do to the answer of the program.
-/

namespace SumGreeting.CommandLine

namespace Progress

variable {progress : Progress} {argument : OsText} {cause stop : Stop}

/-! ### Arguments behind an option that cannot be examined -/

theorem exists_usage_of_long (hresolve : progress.resolve = .error cause) {name : OsText}
    {value? : Option OsText} (h : progress.long name value? = .error stop) :
    ∃ error, stop = .usage error := by
  obtain ⟨error, rfl⟩ := exists_usage_of_resolve hresolve
  unfold long at h
  cases hoption : name.toString?.bind OptionName.ofLong? with
  | none =>
    rw [hoption] at h
    cases h
    exact ⟨_, rfl⟩
  | some option =>
    rw [hoption] at h
    cases option with
    | value option => cases value? with
      | some value =>
        cases (attached_eq_error hresolve option value).symm.trans h
        exact ⟨error, rfl⟩
      | none =>
        cases (await_eq_error hresolve option).symm.trans h
        exact ⟨error, rfl⟩
    | flag flag => cases value? with
      | some value =>
        cases h
        exact ⟨_, rfl⟩
      | none =>
        cases (flag_eq_error hresolve flag).symm.trans h
        exact ⟨error, rfl⟩

theorem exists_usage_of_cluster (hresolve : progress.resolve = .error cause)
    {letters : List UInt8} (h : progress.cluster letters = .error stop) :
    ∃ error, stop = .usage error := by
  obtain ⟨error, rfl⟩ := exists_usage_of_resolve hresolve
  cases letters with
  | nil => cases h
  | cons letter rest =>
    -- The first letter decides: its option examines the pending one, so no other letter is read.
    rw [cluster] at h
    cases hoption : OptionName.ofLetter? letter with
    | none =>
      rw [hoption] at h
      cases h
      exact ⟨_, rfl⟩
    | some option =>
      rw [hoption] at h
      cases option with
      | value option =>
        dsimp only at h
        split_ifs at h
        · cases (await_eq_error hresolve option).symm.trans h
          exact ⟨error, rfl⟩
        · cases (attached_eq_error hresolve option _).symm.trans h
          exact ⟨error, rfl⟩
      | flag flag =>
        dsimp only at h
        rw [flag_eq_error hresolve] at h
        cases h
        exact ⟨error, rfl⟩

theorem exists_usage_of_plain (h : progress.plain argument = .error stop) :
    ∃ error, stop = .usage error := by
  unfold plain at h
  split at h
  · cases h
  · cases h
    exact ⟨_, rfl⟩

/-- Where the pending option cannot be examined, an argument that ends the reading is a usage error:
help and the version are not shown before everything in front of them was examined. -/
theorem exists_usage_of_step (hresolve : progress.resolve = .error cause)
    (h : progress.step argument = .error stop) : ∃ error, stop = .usage error := by
  unfold step at h
  split_ifs at h
  · cases h
    exact ⟨_, rfl⟩
  · cases hform : Argument.ofText argument with
    | separator =>
      rw [hform] at h
      cases h
    | long name value? =>
      rw [hform] at h
      exact exists_usage_of_long hresolve h
    | cluster letters =>
      rw [hform] at h
      dsimp only at h
      split_ifs at h
      · exact exists_usage_of_plain h
      · exact exists_usage_of_cluster hresolve h
    | plain =>
      rw [hform] at h
      exact exists_usage_of_plain h

/-! ### Values that will be turned down -/

/-- A value is held that will be turned down when it is examined. -/
def Doomed (progress : Progress) : Prop :=
  (∀ option, progress.pending ≠ .awaiting option) ∧ ∃ stop, progress.resolve = .error stop

namespace Doomed

/-- No argument rescues a value that will be turned down: all but the separator are usage errors. -/
theorem step (h : progress.Doomed) (argument : OsText) :
    (∃ error, progress.step argument = .error (.usage error)) ∨
      ∃ next, progress.step argument = .ok next ∧ next.Doomed := by
  obtain ⟨hpending, cause, hresolve⟩ := h
  cases hstep : progress.step argument with
  | error stop =>
    obtain ⟨error, rfl⟩ := exists_usage_of_step hresolve hstep
    exact Or.inl ⟨error, rfl⟩
  | ok next =>
    rcases step_of_resolve_eq_error hresolve hstep with rfl | ⟨hplain, -⟩
    · refine Or.inr ⟨_, rfl, hpending, cause, ?_⟩
      rw [resolve_separated, hresolve]
      rfl
    · exact absurd hplain (plain_ne_ok hpending)

/-- Neither do several arguments. -/
theorem run (h : progress.Doomed) (arguments : List OsText) :
    (∃ error, progress.run arguments = .error (.usage error)) ∨
      ∃ last, progress.run arguments = .ok last ∧ last.Doomed := by
  induction arguments generalizing progress with
  | nil => exact Or.inr ⟨progress, rfl, h⟩
  | cons argument rest ih =>
    rcases h.step argument with ⟨error, hstep⟩ | ⟨next, hstep, hnext⟩
    · refine Or.inl ⟨error, ?_⟩
      rw [Progress.run, hstep]
    · rw [Progress.run, hstep]
      exact ih hnext

/-- At the end of the arguments the value is turned down. -/
theorem finish (h : progress.Doomed) : ∃ error, progress.finish = .error (.usage error) := by
  obtain ⟨-, stop, hresolve⟩ := h
  obtain ⟨error, rfl⟩ := exists_usage_of_resolve hresolve
  refine ⟨error, ?_⟩
  rw [Progress.finish, hresolve]

end Doomed

/-- Arguments that only the end shows to be unusable either want a value or hold one that is turned
down. -/
theorem doomed_of_finish (h : progress.finish = .error stop)
    (hvalue : ∀ option, stop ≠ .usage (.missingValue option)) : progress.Doomed := by
  have hresolve : progress.resolve = .error stop := by
    unfold finish at h
    split at h
    · rename_i hresolve
      cases h
      exact hresolve
    · cases h
  refine ⟨fun option hpending => ?_, stop, hresolve⟩
  rw [resolve, hpending] at hresolve
  cases hresolve
  exact hvalue option rfl

end Progress

/-! ### Further arguments -/

variable {arguments : List OsText} {stop : Stop}

/-- What ended the reading ends it also with further arguments. -/
theorem parse_append_of_run_eq_error (h : Progress.run {} arguments = .error stop)
    (more : List OsText) : parse (arguments ++ more) = .error stop := by
  rw [parse, Progress.run_append, h]

/-- What would be turned down at the end is turned down, or something behind it is. -/
theorem exists_parse_append_of_doomed {progress : Progress}
    (hrun : Progress.run {} arguments = .ok progress) (h : progress.Doomed)
    (more : List OsText) : ∃ error, parse (arguments ++ more) = .error (.usage error) := by
  rw [parse, Progress.run_append, hrun]
  dsimp only
  rcases h.run more with ⟨error, hmore⟩ | ⟨last, hmore, hlast⟩
  · refine ⟨error, ?_⟩
    rw [hmore]
  · rw [hmore]
    exact hlast.finish

/-- Further arguments do not mend unusable ones, unless a value is missing at the end; and they do
not change anything where the reading has ended. -/
theorem parse_append_of_parse_eq_error (h : parse arguments = .error stop)
    (hvalue : ∀ option, stop ≠ .usage (.missingValue option)) (more : List OsText) :
    parse (arguments ++ more) = .error stop ∨ (∃ error, stop = .usage error) ∧
      ∃ error, parse (arguments ++ more) = .error (.usage error) := by
  cases hrun : Progress.run {} arguments with
  | error cause =>
    rw [parse, hrun] at h
    cases h
    exact Or.inl (parse_append_of_run_eq_error hrun more)
  | ok progress =>
    rw [parse, hrun] at h
    exact Or.inr ⟨Progress.exists_usage_of_finish h,
      exists_parse_append_of_doomed hrun (Progress.doomed_of_finish h hvalue) more⟩

/-- **Stops are final.** A request for help or the version is answered in the same way whatever
arguments follow.  Arguments that are unusable for another reason than a value that is missing stay
unusable with any arguments behind them: they start no run and show neither help nor the version,
and the program does nothing but write a usage error and end with the exit code 2. -/
theorem stop_is_final (h : parse arguments = .error stop)
    (hvalue : ∀ option, stop ≠ .usage (.missingValue option)) (more : List OsText) :
    match stop with
    | .help | .version =>
      parse (arguments ++ more) = .error stop ∧ stop.exitCode = 0 ∧
        ∀ reader log log' stdout, Program.outcome reader (arguments ++ more) log stdout =
          Program.outcome reader arguments log' stdout
    | .usage _ =>
      ∃ error, parse (arguments ++ more) = .error (.usage error) ∧
        (Stop.usage error).exitCode = 2 ∧
        ∀ reader log stdout, Program.outcome reader (arguments ++ more) log stdout =
          ⟨2, [], error.message .suspends⟩ := by
  have hmore := parse_append_of_parse_eq_error h hvalue more
  have hrequest (hno : ∀ error, stop ≠ .usage error) :
      parse (arguments ++ more) = .error stop ∧
        ∀ reader log log' stdout, Program.outcome reader (arguments ++ more) log stdout =
          Program.outcome reader arguments log' stdout := by
    have hsame := hmore.resolve_right fun ⟨⟨error, herror⟩, _⟩ => hno error herror
    refine ⟨hsame, fun reader log log' stdout => ?_⟩
    rw [Program.outcome, Program.outcome, hsame, h]
  cases stop with
  | help =>
    obtain ⟨hsame, houtcome⟩ := hrequest fun _ => Stop.noConfusion
    exact ⟨hsame, rfl, houtcome⟩
  | version =>
    obtain ⟨hsame, houtcome⟩ := hrequest fun _ => Stop.noConfusion
    exact ⟨hsame, rfl, houtcome⟩
  | usage error =>
    obtain ⟨error', herror'⟩ : ∃ error, parse (arguments ++ more) = .error (.usage error) := by
      rcases hmore with hsame | ⟨-, hother⟩
      · exact ⟨error, hsame⟩
      · exact hother
    refine ⟨error', herror', rfl, fun reader log stdout => ?_⟩
    rw [Program.outcome, herror']
    rfl

/-- A value that is no number, with a request for help behind it. -/
theorem stop_is_final_bad_operand :
    parse [.ofString "-a", .ofString "five"] =
        .error (.usage (.badValue .first "five" .invalidDigit)) ∧
      (∀ option, Stop.usage (.badValue .first "five" .invalidDigit) ≠
        .usage (.missingValue option)) ∧
      ∃ error, parse ([.ofString "-a", .ofString "five"] ++ [.ofString "--help"]) =
        .error (.usage error) := by
  have hparse : parse [.ofString "-a", .ofString "five"] =
      .error (.usage (.badValue .first "five" .invalidDigit)) := by decide
  have hvalue : ∀ option, Stop.usage (.badValue .first "five" .invalidDigit) ≠
      .usage (.missingValue option) := by
    intro option h
    cases h
  obtain ⟨error, herror, -⟩ := stop_is_final hparse hvalue [.ofString "--help"]
  exact ⟨hparse, hvalue, error, herror⟩

end SumGreeting.CommandLine
