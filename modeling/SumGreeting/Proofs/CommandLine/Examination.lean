import Mathlib.Tactic.SplitIfs
import SumGreeting.Proofs.CommandLine.Grammar

/-!
# Examining one option

An option is examined successfully exactly if it asks for a setting, and if its option was not used
before or can be repeated.  The state of the reading then changes by this setting.

## Main definitions

* `Choices.add` : what is chosen after a further setting.
* `Progress.Admits` : a setting is allowed after what was read.
* `Progress.record` : the state after a further setting.

## Main results

* `Choices.ofSettings_concat` : settings choose what they choose one after the other.
* `Progress.assign_eq_ok_iff` : examining an option with its value.
* `Progress.raise_eq_ok_iff` : examining a flag.
-/

namespace SumGreeting.CommandLine

/-! ### Settings one after the other -/

theorem AtMostOnce.nil : AtMostOnce [] := by
  intro option _
  simp

/-- A further setting is allowed if its option was not used before or can be repeated. -/
theorem atMostOnce_concat_iff {settings : List Setting} {setting : Setting} :
    AtMostOnce (settings ++ [setting]) ↔
      AtMostOnce settings ∧
        (setting.option = .flag .verbose ∨ setting.option ∉ settings.map Setting.option) := by
  rw [AtMostOnce]
  simp only [List.map_append, List.map_singleton, List.count_append, List.count_singleton]
  constructor
  · intro h
    refine ⟨fun option hoption => ?_, ?_⟩
    · have hcount := h option hoption
      omega
    · by_cases hverbose : setting.option = .flag .verbose
      · exact Or.inl hverbose
      · have hcount := h setting.option hverbose
        rw [beq_self_eq_true, if_pos rfl] at hcount
        exact Or.inr (List.count_eq_zero.1 (by omega))
  · rintro ⟨h, hsetting⟩ option hoption
    have hcount := h option hoption
    split_ifs with heq
    · have heq : setting.option = option := by simpa using heq
      subst heq
      have hzero := List.count_eq_zero.2 (hsetting.resolve_left hoption)
      omega
    · omega

theorem AtMostOnce.of_append {settings more : List Setting} (h : AtMostOnce (settings ++ more)) :
    AtMostOnce settings := by
  intro option hoption
  have hcount := h option hoption
  rw [List.map_append, List.count_append] at hcount
  omega

/-- What is chosen after a further setting. -/
def Choices.add (choices : Choices) : Setting → Choices
  | .first operand => { choices with first := some operand }
  | .second operand => { choices with second := some operand }
  | .name text => { choices with name := some text }
  | .json => { choices with json := true }
  | .quiet => { choices with quiet := true }
  | .strict => { choices with strict := true }
  | .verbose => choices.louder

/-- Where an option was not used before, no setting gives its value. -/
theorem findSome?_eq_none_of_notMem {α : Type} {settings : List Setting}
    {get? : Setting → Option α} {option : OptionName}
    (hget : ∀ setting, setting.option ≠ option → get? setting = none)
    (h : option ∉ settings.map Setting.option) : settings.findSome? get? = none := by
  rw [List.findSome?_eq_none_iff]
  intro setting hsetting
  refine hget setting fun heq => h ?_
  rw [← heq]
  exact List.mem_map_of_mem hsetting

namespace Setting

theorem first?_eq_none (setting : Setting) (h : setting.option ≠ .value .first) :
    setting.first? = none := by
  cases setting with
  | first => exact absurd rfl h
  | _ => rfl

theorem second?_eq_none (setting : Setting) (h : setting.option ≠ .value .second) :
    setting.second? = none := by
  cases setting with
  | second => exact absurd rfl h
  | _ => rfl

theorem name?_eq_none (setting : Setting) (h : setting.option ≠ .value .name) :
    setting.name? = none := by
  cases setting with
  | name => exact absurd rfl h
  | _ => rfl

end Setting

/-- Settings choose what they choose one after the other, as long as no option is used twice. -/
theorem Choices.ofSettings_concat {settings : List Setting} {setting : Setting}
    (h : setting.option = .flag .verbose ∨ setting.option ∉ settings.map Setting.option) :
    Choices.ofSettings (settings ++ [setting]) = (Choices.ofSettings settings).add setting := by
  have hfresh (hne : setting.option ≠ .flag .verbose) :
      setting.option ∉ settings.map Setting.option := h.resolve_left hne
  cases setting with
  | first operand =>
    have hnone :=
      findSome?_eq_none_of_notMem Setting.first?_eq_none (hfresh OptionName.noConfusion)
    simp [ofSettings, add, hnone, Setting.first?, Setting.second?, Setting.name?]
  | second operand =>
    have hnone :=
      findSome?_eq_none_of_notMem Setting.second?_eq_none (hfresh OptionName.noConfusion)
    simp [ofSettings, add, hnone, Setting.first?, Setting.second?, Setting.name?]
  | name text =>
    have hnone :=
      findSome?_eq_none_of_notMem Setting.name?_eq_none (hfresh OptionName.noConfusion)
    simp [ofSettings, add, hnone, Setting.first?, Setting.second?, Setting.name?]
  | json => simp [ofSettings, add, Setting.first?, Setting.second?, Setting.name?]
  | quiet => simp [ofSettings, add, Setting.first?, Setting.second?, Setting.name?]
  | strict => simp [ofSettings, add, Setting.first?, Setting.second?, Setting.name?]
  | verbose =>
    have hcount : min 255 (settings.count .verbose + 1) =
        min 255 (min 255 (settings.count .verbose) + 1) := by omega
    simp [ofSettings, add, louder, hcount, Setting.first?, Setting.second?, Setting.name?]

/-- The value of an option is accepted exactly if it asks for a setting. -/
theorem Choices.assign_eq_ok_iff {choices next : Choices} {option : ValueOption} {text : String} :
    choices.assign option text = .ok next ↔
      ∃ setting, Means option text setting ∧ next = choices.add setting := by
  have hread (set : Int32 → Choices) :
      (Operand.read text).map set = .ok next ↔
        ∃ operand, IsNumeral text.toList operand.toInt ∧ next = set operand := by
    constructor
    · intro h
      cases htext : Operand.read text with
      | error fault =>
        rw [htext] at h
        cases h
      | ok operand =>
        rw [htext] at h
        cases h
        exact ⟨operand, Operand.read_eq_ok_iff.1 htext, rfl⟩
    · rintro ⟨operand, hnumeral, rfl⟩
      rw [Operand.read_eq_ok_iff.2 hnumeral]
      rfl
  cases option with
  | first =>
    refine (hread fun operand => choices.add (.first operand)).trans ⟨?_, ?_⟩
    · rintro ⟨operand, hnumeral, rfl⟩
      exact ⟨_, .first hnumeral, rfl⟩
    · rintro ⟨_, hmeans, rfl⟩
      cases hmeans with
      | first hnumeral => exact ⟨_, hnumeral, rfl⟩
  | second =>
    refine (hread fun operand => choices.add (.second operand)).trans ⟨?_, ?_⟩
    · rintro ⟨operand, hnumeral, rfl⟩
      exact ⟨_, .second hnumeral, rfl⟩
    · rintro ⟨_, hmeans, rfl⟩
      cases hmeans with
      | second hnumeral => exact ⟨_, hnumeral, rfl⟩
  | name =>
    constructor
    · intro h
      cases h
      exact ⟨_, .name text, rfl⟩
    · rintro ⟨_, ⟨⟩, rfl⟩
      rfl

theorem Means.option_eq {option : ValueOption} {text : String} {setting : Setting}
    (h : Means option text setting) : setting.option = .value option := by
  cases h <;> rfl

namespace Progress

variable {progress next : Progress} {settings : List Setting} {setting : Setting}

/-! ### One setting -/

/-- A setting is admitted if its option was not used before or can be repeated. -/
def Admits (progress : Progress) (setting : Setting) : Prop :=
  setting.option = .flag .verbose ∨ setting.option ∉ progress.present

/-- The state after a further setting. -/
def record (progress : Progress) (setting : Setting) : Progress :=
  { progress with
    choices := progress.choices.add setting
    present := progress.present.erase setting.option ++ [setting.option] }

/-- An option with its value is examined exactly if the value asks for a setting that is
admitted. -/
theorem assign_eq_ok_iff {option : ValueOption} {value : OsText} :
    progress.assign option value = .ok next ↔
      ∃ text setting, value = .ofString text ∧ Means option text setting ∧
        progress.Admits setting ∧ next = progress.record setting := by
  constructor
  · intro h
    unfold assign at h
    split_ifs at h with hpresent
    split at h
    · cases h
    · rename_i text htext
      split at h
      · cases h
      · rename_i choices hchoices
        cases h
        obtain ⟨setting, hmeans, rfl⟩ := Choices.assign_eq_ok_iff.1 hchoices
        refine ⟨text, setting, OsText.toString?_eq_some_iff.1 htext, hmeans, Or.inr ?_, ?_⟩
        · rwa [hmeans.option_eq]
        · rw [record, hmeans.option_eq, List.erase_of_not_mem hpresent]
  · rintro ⟨text, setting, rfl, hmeans, hadmits, rfl⟩
    have hpresent : .value option ∉ progress.present := by
      rw [← hmeans.option_eq]
      exact hadmits.resolve_left (by rw [hmeans.option_eq]; exact OptionName.noConfusion)
    have hchoices : progress.choices.assign option text = .ok (progress.choices.add setting) :=
      Choices.assign_eq_ok_iff.2 ⟨setting, hmeans, rfl⟩
    rw [assign, if_neg hpresent, OsText.toString?_ofString]
    dsimp only
    rw [hchoices, record, hmeans.option_eq, List.erase_of_not_mem hpresent]

/-- A flag that can be used once is noted exactly if it was not used before. -/
theorem mark_eq_ok_iff {flag : Flag} {setting : Setting} (hflag : setting.option = .flag flag)
    (honce : flag ≠ .verbose) :
    progress.mark flag (progress.choices.add setting) = .ok next ↔
      progress.Admits setting ∧ next = progress.record setting := by
  have hadmits : progress.Admits setting ↔ .flag flag ∉ progress.present := by
    rw [Admits, hflag, OptionName.flag.injEq]
    exact or_iff_right honce
  rw [mark, hadmits]
  by_cases hpresent : .flag flag ∈ progress.present
  · rw [if_pos hpresent]
    constructor
    · intro h
      cases h
    · rintro ⟨hfresh, -⟩
      exact absurd hpresent hfresh
  · rw [if_neg hpresent, record, hflag, List.erase_of_not_mem hpresent, Except.ok.injEq, eq_comm]
    exact ⟨fun h => ⟨hpresent, h⟩, And.right⟩

/-- A flag is examined exactly if it asks for a setting that is admitted. -/
theorem raise_eq_ok_iff {flag : Flag} :
    progress.raise flag = .ok next ↔
      ∃ setting, setting.option = .flag flag ∧ progress.Admits setting ∧
        next = progress.record setting := by
  constructor
  · intro h
    cases flag with
    | json => exact ⟨.json, rfl, (mark_eq_ok_iff rfl Flag.noConfusion).1 h⟩
    | quiet => exact ⟨.quiet, rfl, (mark_eq_ok_iff rfl Flag.noConfusion).1 h⟩
    | strict => exact ⟨.strict, rfl, (mark_eq_ok_iff rfl Flag.noConfusion).1 h⟩
    | verbose => exact ⟨.verbose, rfl, Or.inl rfl, (Except.ok.inj h).symm⟩
    | help => cases h
    | version => cases h
  · rintro ⟨setting, hflag, h⟩
    cases setting with
    | json => cases hflag; exact (mark_eq_ok_iff rfl Flag.noConfusion).2 h
    | quiet => cases hflag; exact (mark_eq_ok_iff rfl Flag.noConfusion).2 h
    | strict => cases hflag; exact (mark_eq_ok_iff rfl Flag.noConfusion).2 h
    | verbose => cases hflag; exact congrArg _ h.2.symm
    | first => cases hflag
    | second => cases hflag
    | name => cases hflag

end Progress

end SumGreeting.CommandLine
