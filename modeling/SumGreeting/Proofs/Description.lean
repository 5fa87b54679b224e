import SumGreeting.Greeting
import SumGreeting.Proofs.Fields
import SumGreeting.Settings

/-!
# Descriptions identify what they describe

Settings and greeters are described on one line that shows all of their parts.  A name, a salutation
or a suffix may look like the rest of such a line, with quotes and commas and the words in front of
other parts, and yet different settings and different greeters have different descriptions: what is
quoted ends with its own closing quote, and each of the other parts ends before a mark that it does
not contain.

## Main results

* `Settings.describe_append_inj`, `Greeter.describe_append_inj` : what is described is read off any
  text that begins with the description.
* `Settings.isOneLine_describe`, `Greeter.isOneLine_describe` : descriptions are on one line.
* `descriptions_identify` : both of this for settings and greeters.
-/

namespace SumGreeting

/-! ### Settings -/

theorem Format.name_injective : Function.Injective name := by
  intro format other h
  cases format <;> cases other <;> simp [name] at h ⊢

/-- A word that does not begin with a letter delimits the names of formats. -/
theorem Format.delimits_name {word : String}
    (hword : word.toList.head?.any (fun c => !c.isAlpha) = true) : Delimits word name := by
  refine delimits_of_all Char.isAlpha hword name_injective fun format => ?_
  cases format <;> decide

namespace Settings

theorem switchWord_injective : Function.Injective switchWord := by
  intro on other h
  cases on <;> cases other <;> simp [switchWord] at h ⊢

/-- So it does for the words of switches. -/
theorem delimits_switchWord {word : String}
    (hword : word.toList.head?.any (fun c => !c.isAlpha) = true) : Delimits word switchWord := by
  refine delimits_of_all Char.isAlpha hword switchWord_injective fun on => ?_
  cases on <;> decide

/-- Settings are read off any text that begins with their description. -/
theorem describe_append_inj {settings other : Settings} {rest rest' : String}
    (h : settings.describe ++ rest = other.describe ++ rest') :
    settings = other ∧ rest = rest' := by
  unfold describe at h
  simp only [String.append_assoc, String.append_right_inj] at h
  obtain ⟨hfirst, h⟩ := delimits_repr (by decide) h
  obtain ⟨hsecond, h⟩ := delimits_repr (by decide) h
  obtain ⟨hname, h⟩ := delimits_quote _ h
  obtain ⟨hformat, h⟩ := Format.delimits_name (by decide) h
  obtain ⟨hquiet, h⟩ := delimits_switchWord (by decide) h
  obtain ⟨hstrict, hrest⟩ := delimits_switchWord (by decide) h
  obtain ⟨first, second, name, format, quiet, strict⟩ := settings
  obtain ⟨first', second', name', format', quiet', strict'⟩ := other
  cases Int32.toInt_inj.1 hfirst
  cases Int32.toInt_inj.1 hsecond
  cases hname
  cases hformat
  cases hquiet
  cases hstrict
  exact ⟨rfl, hrest⟩

theorem isOneLine_describe (settings : Settings) : IsOneLine settings.describe := by
  have hformat : IsOneLine settings.format.name := by
    cases settings.format <;> decide
  have hswitch (on : Bool) : IsOneLine (switchWord on) := by
    cases on <;> decide
  unfold describe
  simp only [isOneLine_append_iff, isOneLine_repr, isOneLine_quote, hformat, hswitch, and_true]
  decide

end Settings

/-! ### Greeters -/

namespace Greeter

/-- A greeter is read off any text that begins with its description. -/
theorem describe_append_inj {greeter other : Greeter} {rest rest' : String}
    (h : greeter.describe ++ rest = other.describe ++ rest') : greeter = other ∧ rest = rest' := by
  unfold describe at h
  simp only [String.append_assoc, String.append_right_inj] at h
  obtain ⟨hsalutation, h⟩ := delimits_quote _ h
  obtain ⟨hsuffix, hrest⟩ := delimits_quote _ h
  obtain ⟨salutation, suffix⟩ := greeter
  obtain ⟨salutation', suffix'⟩ := other
  cases hsalutation
  cases hsuffix
  exact ⟨rfl, hrest⟩

theorem isOneLine_describe (greeter : Greeter) : IsOneLine greeter.describe := by
  unfold describe
  simp only [isOneLine_append_iff, isOneLine_quote, and_true]
  decide

end Greeter

/-- **Descriptions identify what they describe.** Different settings have different descriptions,
and so have different greeters, whatever stands in a name, a salutation or a suffix.  Each
description is on one line. -/
theorem descriptions_identify :
    Function.Injective Settings.describe ∧ Function.Injective Greeter.describe ∧
      (∀ settings : Settings, IsOneLine settings.describe) ∧
      ∀ greeter : Greeter, IsOneLine greeter.describe := by
  refine ⟨fun settings other h => ?_, fun greeter other h => ?_, Settings.isOneLine_describe,
    Greeter.isOneLine_describe⟩
  · exact (Settings.describe_append_inj (congrArg (· ++ "") h)).1
  · exact (Greeter.describe_append_inj (congrArg (· ++ "") h)).1

/-- A salutation that looks like the beginning of a suffix. -/
example : (Greeter.mk "Hi\", suffix: \"" "").describe =
    "Greeter \x7b salutation: \"Hi\\\", suffix: \\\"\", suffix: \"\" \x7d" := by
  decide

end SumGreeting
