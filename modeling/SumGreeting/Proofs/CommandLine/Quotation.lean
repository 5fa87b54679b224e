import SumGreeting.Program
import SumGreeting.Proofs.Lines

/-!
# What a message about the arguments shows

A message about unusable arguments quotes them.  No control sequence gets into the message in this
way: whatever the arguments are, the only ASCII control characters in it are white space, and the
escape character is none of these.

## Main definitions

* `ControlSequence.AllShown` : a text in which every character is shown.

## Main results

* `UsageError.allShown_message` : the message about a usage error is such a text.
* `Program.allShown_stderr_of_parse` : so is the error stream where no run is started.
-/

namespace SumGreeting

namespace ControlSequence

/-! ### Texts in which every character is shown -/

/-- Every character of the text is shown outside of a control sequence. -/
def AllShown (text : String) : Prop :=
  ∀ c ∈ text.toList, isShown c = true

instance (text : String) : Decidable (AllShown text) :=
  List.decidableBAll _ _

theorem allShown_append_iff {s t : String} : AllShown (s ++ t) ↔ AllShown s ∧ AllShown t := by
  rw [AllShown, String.toList_append]
  exact List.forall_mem_append

theorem allShown_strip (interruption : Interruption) (text : String) :
    AllShown (strip interruption text) := by
  intro c hc
  rw [toList_strip] at hc
  exact isShown_of_mem_visible hc

/-- A text without control characters is shown as a whole. -/
theorem allShown_of_isOneLine {text : String} (h : IsOneLine text) : AllShown text := by
  intro c hc
  have hcontrol := h c hc
  simp only [isControl, Bool.or_eq_false_iff, Bool.and_eq_false_iff,
    decide_eq_false_iff_not] at hcontrol
  simp only [isShown, Bool.or_eq_true, Bool.and_eq_true, decide_eq_true_eq]
  exact Or.inr ⟨by omega, by omega⟩

theorem allShown_intercalate {mark : String} (hmark : AllShown mark) {texts : List String}
    (h : ∀ text ∈ texts, AllShown text) : AllShown (mark.intercalate texts) := by
  induction texts with
  | nil => simp [AllShown]
  | cons text rest ih =>
    obtain ⟨htext, hrest⟩ := List.forall_mem_cons.1 h
    cases rest with
    | nil => rwa [String.intercalate_singleton]
    | cons next rest =>
      rw [String.intercalate_cons_cons]
      exact allShown_append_iff.2 ⟨allShown_append_iff.2 ⟨htext, hmark⟩, ih hrest⟩

end ControlSequence

namespace CommandLine

open ControlSequence

/-! ### The parts of a message -/

theorem OptionName.allShown_display (option : OptionName) : AllShown option.display := by
  cases option with
  | value option => cases option <;> decide
  | flag option => cases option <;> decide

theorem OptionName.allShown_long (option : OptionName) : AllShown option.long := by
  cases option with
  | value option => cases option <;> decide
  | flag option => cases option <;> decide

theorem OptionName.allShown_intercalate_display {mark : String} (hmark : AllShown mark)
    (named : List OptionName) : AllShown (mark.intercalate (named.map display)) := by
  refine allShown_intercalate hmark fun text htext => ?_
  obtain ⟨option, _, rfl⟩ := List.mem_map.1 htext
  exact option.allShown_display

theorem Operand.Fault.allShown_message (fault : Operand.Fault) : AllShown fault.message := by
  cases fault with
  | empty | invalidDigit | tooLarge | tooSmall => decide
  | outOfRange value =>
    have hvalue : AllShown value.repr := allShown_of_isOneLine (isOneLine_repr value)
    exact allShown_append_iff.2 ⟨hvalue, by decide⟩

namespace UsageError

theorem allShown_usageLine {rest : String} (h : AllShown rest) : AllShown (usageLine rest) := by
  unfold usageLine
  simp only [allShown_append_iff]
  exact ⟨⟨⟨by decide, by decide⟩, by decide⟩, h⟩

theorem allShown_generalUsage : AllShown generalUsage :=
  allShown_usageLine (by decide)

theorem allShown_alternatives : AllShown alternatives := by
  unfold alternatives
  simp only [allShown_append_iff]
  exact ⟨⟨by decide, OptionName.allShown_intercalate_display (by decide) _⟩,
    by decide⟩

theorem allShown_flagUsage (option : Flag) (alone : Bool) : AllShown (flagUsage option alone) := by
  have hshown := OptionName.allShown_display (.flag option)
  unfold flagUsage
  split
  · exact allShown_usageLine hshown
  · have hboth : AllShown ((OptionName.flag option).display ++ " " ++ alternatives) := by
      simp only [allShown_append_iff]
      exact ⟨⟨hshown, by decide⟩, allShown_alternatives⟩
    cases option with
    | help | version => exact allShown_usageLine hboth
    | json | quiet | strict | verbose => exact allShown_usageLine allShown_alternatives

theorem allShown_presentUsage (present : List OptionName) (suggestion : Option OptionName) :
    AllShown (presentUsage present suggestion) := by
  have husage (named : List OptionName) :
      AllShown (if named.isEmpty then generalUsage
        else usageLine (" ".intercalate (named.map OptionName.display))) := by
    split
    · exact allShown_generalUsage
    · exact allShown_usageLine (OptionName.allShown_intercalate_display (by decide) named)
  exact husage _

/-- The fixed words of a message are shown, and so is what is quoted in between. -/
theorem allShown_reason (error : UsageError) (interruption : Interruption) :
    AllShown (error.reason interruption) := by
  cases error with
  | unknownName name suggestion present =>
    unfold reason
    simp only [allShown_append_iff, allShown_strip, allShown_presentUsage, and_true]
    cases suggestion with
    | none => decide
    | some option =>
      simp only [allShown_append_iff, option.allShown_long, and_true]
      decide
  | badValue | missingValue | repeated | notText | unexpectedValue | unknownArgument =>
    unfold reason
    simp only [allShown_append_iff, allShown_strip, OptionName.allShown_display,
      Operand.Fault.allShown_message, allShown_flagUsage, allShown_generalUsage, and_true]
    decide

/-- Whatever the arguments are, every character of a message about them is shown. -/
theorem allShown_message (error : UsageError) (interruption : Interruption) :
    AllShown (error.message interruption) := by
  unfold message
  simp only [allShown_append_iff, error.allShown_reason, and_true]
  decide

end UsageError

end CommandLine

namespace Program

open ControlSequence

/-- Where the arguments start no run, every character on the error stream is shown. -/
theorem allShown_stderr_of_parse {arguments : List OsText} {stop : CommandLine.Stop}
    (h : CommandLine.parse arguments = .error stop) (reader : Directive.Reader)
    (log : Option OsText) (stdout : Stdout) :
    AllShown (outcome reader arguments log stdout).stderr := by
  rw [outcome, h]
  cases stop with
  | usage error => exact error.allShown_message .suspends
  | help | version =>
    have hempty : AllShown "" := by decide
    exact hempty

end Program

end SumGreeting
