import Mathlib.Tactic.SplitIfs
import SumGreeting.Proofs.CommandLine.Reading

/-!
# Verbosity and what it leaves alone

Requests for more output count, and change nothing else about the reading of the command line: from
two states that differ at most in the count, and in whether more output was asked for at all, any
arguments lead to two such states, or to stops for the same cause.  Only the text of a usage error
can differ, since it may mention the options that were used.

## Main definitions

* `Progress.Alike` : states that differ at most in the verbosity.
* `Stop.Alike` : stops that differ at most in the usage error.
* `ResultsAlike` : results that are alike, be they stops or not.

## Main results

* `Progress.Alike.step`, `Progress.Alike.run` : one argument, and several in order.
* `parse_replicate_verbose` : requests for more output in front of the arguments.
-/

namespace SumGreeting.CommandLine

/-! ### Results that are alike -/

/-- Stops that differ at most in the usage error. -/
inductive Stop.Alike : Stop → Stop → Prop
  | usage (error error' : UsageError) : Alike (.usage error) (.usage error')
  | same (stop : Stop) : Alike stop stop

/-- Results that are alike: both are stops for the same cause, or both are related. -/
inductive ResultsAlike {α : Type} (Related : α → α → Prop) (x y : Except Stop α) : Prop
  | stop {s t : Stop} (hx : x = .error s) (hy : y = .error t) (h : s.Alike t)
  | ok {a b : α} (hx : x = .ok a) (hy : y = .ok b) (h : Related a b)

/-- Choices that differ at most in the verbosity. -/
def Choices.Alike (choices choices' : Choices) : Prop :=
  ∃ verbosity, choices' = { choices with verbosity }

/-- Invocations that differ at most in the verbosity. -/
def Invocation.Alike (invocation invocation' : Invocation) : Prop :=
  invocation'.settings = invocation.settings

namespace Progress

/-- States that differ at most in the verbosity and in whether more output was asked for. -/
structure Alike (p q : Progress) : Prop where
  choices : p.choices.Alike q.choices
  present : ∀ option, option ≠ .flag .verbose → (option ∈ p.present ↔ option ∈ q.present)
  pending : q.pending = p.pending
  separated : q.separated = p.separated

variable {p q : Progress}

namespace Alike

/-- The use of an option is noted in both states. -/
theorem note (h : p.Alike q) (option : OptionName) {choices choices' : Choices}
    (hchoices : choices.Alike choices') :
    Alike { p with choices, present := p.present ++ [option] }
      { q with choices := choices', present := q.present ++ [option] } where
  choices := hchoices
  present other hother := by
    rw [List.mem_append, List.mem_append, h.present other hother]
  pending := h.pending
  separated := h.separated

theorem assign (h : p.Alike q) (option : ValueOption) (value : OsText) :
    ResultsAlike Alike (p.assign option value) (q.assign option value) := by
  have hpresent := h.present (.value option) OptionName.noConfusion
  obtain ⟨verbosity, hchoices⟩ := h.choices
  unfold Progress.assign
  by_cases hmem : .value option ∈ p.present
  · rw [if_pos hmem, if_pos (hpresent.1 hmem)]
    exact .stop rfl rfl (.same _)
  · rw [if_neg hmem, if_neg (mt hpresent.2 hmem)]
    cases value.toString? with
    | none => exact .stop rfl rfl (.same _)
    | some text =>
      have hassign : q.choices.assign option text =
          (p.choices.assign option text).map fun choices => { choices with verbosity } := by
        rw [hchoices]
        cases option with
        | first => cases hread : Operand.read text <;> simp [Choices.assign, hread, Except.map]
        | second => cases hread : Operand.read text <;> simp [Choices.assign, hread, Except.map]
        | name => rfl
      dsimp only
      rw [hassign]
      cases p.choices.assign option text with
      | error fault => exact .stop rfl rfl (.same _)
      | ok choices => exact .ok rfl rfl (h.note (.value option) ⟨verbosity, rfl⟩)

theorem resolve (h : p.Alike q) : ResultsAlike Alike p.resolve q.resolve := by
  unfold Progress.resolve
  rw [h.pending]
  cases p.pending with
  | nothing => exact .ok rfl rfl h
  | awaiting option => exact .stop rfl rfl (.same _)
  | holding option value =>
    have hnothing : Alike { p with pending := .nothing } { q with pending := .nothing } :=
      ⟨h.choices, h.present, rfl, h.separated⟩
    exact hnothing.assign option value

theorem mark (h : p.Alike q) {option : Flag} (hoption : option ≠ .verbose)
    {choices choices' : Choices} (hchoices : choices.Alike choices') :
    ResultsAlike Alike (p.mark option choices) (q.mark option choices') := by
  have hpresent := h.present (.flag option) (mt OptionName.flag.inj hoption)
  unfold Progress.mark
  by_cases hmem : .flag option ∈ p.present
  · rw [if_pos hmem, if_pos (hpresent.1 hmem)]
    exact .stop rfl rfl (.same _)
  · rw [if_neg hmem, if_neg (mt hpresent.2 hmem)]
    exact .ok rfl rfl (h.note (.flag option) hchoices)

theorem raise (h : p.Alike q) (option : Flag) :
    ResultsAlike Alike (p.raise option) (q.raise option) := by
  obtain ⟨verbosity, hchoices⟩ := h.choices
  cases option with
  | json => exact h.mark Flag.noConfusion ⟨verbosity, by rw [hchoices]⟩
  | quiet => exact h.mark Flag.noConfusion ⟨verbosity, by rw [hchoices]⟩
  | strict => exact h.mark Flag.noConfusion ⟨verbosity, by rw [hchoices]⟩
  | verbose =>
    refine .ok rfl rfl ⟨⟨min 255 (verbosity + 1), ?_⟩, fun option hoption => ?_, h.pending,
      h.separated⟩
    · rw [hchoices]
      rfl
    -- A repeated option moves to the end of the list, which no other option notices.
    · rw [List.mem_append, List.mem_append, List.mem_erase_of_ne hoption,
        List.mem_erase_of_ne hoption, h.present option hoption]
  | help => exact .stop rfl rfl (.same _)
  | version => exact .stop rfl rfl (.same _)

/-! ### One argument -/

theorem flag (h : p.Alike q) (option : Flag) :
    ResultsAlike Alike (p.flag option) (q.flag option) := by
  rcases h.resolve with ⟨hp, hq, hstop⟩ | ⟨hp, hq, hnext⟩
  · rw [Progress.flag, Progress.flag, hp, hq]
    exact .stop rfl rfl hstop
  · rw [Progress.flag, Progress.flag, hp, hq]
    exact hnext.raise option

theorem attached (h : p.Alike q) (option : ValueOption) (value : OsText) :
    ResultsAlike Alike (p.attached option value) (q.attached option value) := by
  rcases h.resolve with ⟨hp, hq, hstop⟩ | ⟨hp, hq, hnext⟩
  · rw [Progress.attached, Progress.attached, hp, hq]
    exact .stop rfl rfl hstop
  · rw [Progress.attached, Progress.attached, hp, hq]
    exact hnext.assign option value

theorem await (h : p.Alike q) (option : ValueOption) :
    ResultsAlike Alike (p.await option) (q.await option) := by
  rcases h.resolve with ⟨hp, hq, hstop⟩ | ⟨hp, hq, hnext⟩
  · rw [Progress.await, Progress.await, hp, hq]
    exact .stop rfl rfl hstop
  · rw [Progress.await, Progress.await, hp, hq]
    exact .ok rfl rfl ⟨hnext.choices, hnext.present, rfl, hnext.separated⟩

theorem long (h : p.Alike q) (name : OsText) (value? : Option OsText) :
    ResultsAlike Alike (p.long name value?) (q.long name value?) := by
  unfold Progress.long
  cases name.toString?.bind OptionName.ofLong? with
  | none => exact .stop rfl rfl (.usage _ _)
  | some option => cases option with
    | value option => cases value? with
      | some value => exact h.attached option value
      | none => exact h.await option
    | flag option => cases value? with
      | some value => exact .stop rfl rfl (.usage _ _)
      | none => exact h.flag option

theorem cluster (h : p.Alike q) (letters : List UInt8) :
    ResultsAlike Alike (p.cluster letters) (q.cluster letters) := by
  induction letters generalizing p q with
  | nil => exact .ok rfl rfl h
  | cons letter rest ih =>
    unfold Progress.cluster
    cases OptionName.ofLetter? letter with
    | none => exact .stop rfl rfl (.same _)
    | some option => cases option with
      | value option =>
        dsimp only
        split_ifs
        · exact h.await option
        · exact h.attached option (clusterValue rest)
      | flag option =>
        dsimp only
        rcases h.flag option with ⟨hp, hq, hstop⟩ | ⟨hp, hq, hnext⟩
        · rw [hp, hq]
          exact .stop rfl rfl hstop
        · rw [hp, hq]
          exact ih hnext

theorem plain (h : p.Alike q) (argument : OsText) :
    ResultsAlike Alike (p.plain argument) (q.plain argument) := by
  unfold Progress.plain
  rw [h.pending]
  cases p.pending with
  | awaiting option => exact .ok rfl rfl ⟨h.choices, h.present, rfl, h.separated⟩
  | nothing => exact .stop rfl rfl (.same _)
  | holding option value => exact .stop rfl rfl (.same _)

/-- One argument leads to results that are alike. -/
theorem step (h : p.Alike q) (argument : OsText) :
    ResultsAlike Alike (p.step argument) (q.step argument) := by
  have hnumber : q.awaitsNumber = p.awaitsNumber := by
    rw [awaitsNumber, h.pending, awaitsNumber]
  unfold Progress.step
  rw [h.separated, hnumber]
  split_ifs
  · exact .stop rfl rfl (.same _)
  · cases Argument.ofText argument with
    | separator => exact .ok rfl rfl ⟨h.choices, h.present, h.pending, rfl⟩
    | long name value? => exact h.long name value?
    | cluster letters =>
      dsimp only
      split_ifs
      · exact h.plain argument
      · exact h.cluster letters
    | plain => exact h.plain argument

/-! ### Several arguments -/

/-- Several arguments lead to results that are alike. -/
theorem run (h : p.Alike q) (arguments : List OsText) :
    ResultsAlike Alike (p.run arguments) (q.run arguments) := by
  induction arguments generalizing p q with
  | nil => exact .ok rfl rfl h
  | cons argument rest ih =>
    rcases h.step argument with ⟨hp, hq, hstop⟩ | ⟨hp, hq, hnext⟩
    · rw [Progress.run, Progress.run, hp, hq]
      exact .stop rfl rfl hstop
    · rw [Progress.run, Progress.run, hp, hq]
      exact ih hnext

/-- At the end of the arguments there are invocations that are alike. -/
theorem finish (h : p.Alike q) : ResultsAlike Invocation.Alike p.finish q.finish := by
  rcases h.resolve with ⟨hp, hq, hstop⟩ | ⟨hp, hq, hlast⟩
  · rw [Progress.finish, Progress.finish, hp, hq]
    exact .stop rfl rfl hstop
  · obtain ⟨verbosity, hchoices⟩ := hlast.choices
    rw [Progress.finish, Progress.finish, hp, hq]
    refine .ok rfl rfl ?_
    rw [Invocation.Alike, hchoices]
    rfl

end Alike

/-! ### Requests for more output -/

theorem Alike.louder (h : p.Alike q) :
    ∃ next, q.raise .verbose = .ok next ∧ p.Alike next := by
  obtain ⟨verbosity, hchoices⟩ := h.choices
  refine ⟨_, rfl, ⟨min 255 (verbosity + 1), ?_⟩, fun option hoption => ?_, h.pending, h.separated⟩
  · rw [hchoices]
    rfl
  · rw [List.mem_append, List.mem_erase_of_ne hoption, List.mem_singleton, or_iff_left hoption,
      h.present option hoption]

end Progress

end SumGreeting.CommandLine
