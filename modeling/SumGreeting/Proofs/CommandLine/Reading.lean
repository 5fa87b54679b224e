import Mathlib.Tactic.SplitIfs
import SumGreeting.Proofs.CommandLine.Examination
import SumGreeting.Proofs.CommandLine.Form

/-!
# Reading groups of arguments

Between two groups the state of the reading is determined by the settings so far, except that the
value of the last option may not have been examined.  Groups in which no option is used twice are
read from there on, and at the end the settings ask for an invocation.

## Main definitions

* `Progress.Examined` : the state after some settings when no value is left to be examined.
* `Progress.HasRead` : the state after some settings, the last one possibly not examined.

## Main results

* `Progress.Examined.record` : a setting that is admitted leads from one such state to another.
* `Progress.HasRead.run_group`, `Progress.HasRead.run_groups` : groups are read.
* `Progress.HasRead.finish_eq` : the invocation at the end of the arguments.
-/

namespace SumGreeting.CommandLine

namespace Progress

variable {progress next examined : Progress} {settings : List Setting} {setting : Setting}

/-! ### The state between two groups -/

/-- The state of the reading after the settings, when no value is left to be examined. -/
structure Examined (progress : Progress) (settings : List Setting) : Prop where
  pending : progress.pending = .nothing
  separated : progress.separated = false
  choices : progress.choices = .ofSettings settings
  present : ∀ option, option ∈ progress.present ↔ option ∈ settings.map Setting.option
  once : AtMostOnce settings

/-- The state of the reading after the settings.  The value of the last option may not have been
examined yet. -/
def HasRead (progress : Progress) (settings : List Setting) : Prop :=
  ∃ examined, progress.resolve = .ok examined ∧ examined.Examined settings

namespace Examined

theorem start : Examined {} [] where
  pending := rfl
  separated := rfl
  choices := rfl
  present option := by simp
  once := .nil

theorem resolve_eq (h : progress.Examined settings) : progress.resolve = .ok progress := by
  rw [resolve, h.pending]

theorem hasRead (h : progress.Examined settings) : progress.HasRead settings :=
  ⟨progress, h.resolve_eq, h⟩

theorem admits_iff (h : progress.Examined settings) :
    progress.Admits setting ↔ AtMostOnce (settings ++ [setting]) := by
  rw [Admits, h.present, atMostOnce_concat_iff]
  exact ⟨fun hsetting => ⟨h.once, hsetting⟩, And.right⟩

theorem record (h : progress.Examined settings) (hadmits : progress.Admits setting) :
    (progress.record setting).Examined (settings ++ [setting]) := by
  have honce := h.admits_iff.1 hadmits
  refine ⟨h.pending, h.separated, ?_, fun option => ?_, honce⟩
  · rw [Choices.ofSettings_concat (atMostOnce_concat_iff.1 honce).2, ← h.choices, Progress.record]
  · rw [Progress.record, List.map_append, List.mem_append, List.mem_append, ← h.present,
      List.map_singleton, List.mem_singleton]
    by_cases hoption : option = setting.option
    · exact ⟨fun _ => Or.inr hoption, fun _ => Or.inr hoption⟩
    · rw [List.mem_erase_of_ne hoption]

theorem raise (h : progress.Examined settings) {flag : Flag} (hflag : setting.option = .flag flag)
    (honce : AtMostOnce (settings ++ [setting])) :
    ∃ next, progress.raise flag = .ok next ∧ next.Examined (settings ++ [setting]) :=
  have hadmits := h.admits_iff.2 honce
  ⟨_, raise_eq_ok_iff.2 ⟨setting, hflag, hadmits, rfl⟩, h.record hadmits⟩

theorem assign (h : progress.Examined settings) {option : ValueOption} {text : String}
    (hmeans : Means option text setting) (honce : AtMostOnce (settings ++ [setting])) :
    ∃ next, progress.assign option (.ofString text) = .ok next ∧
      next.Examined (settings ++ [setting]) :=
  have hadmits := h.admits_iff.2 honce
  ⟨_, assign_eq_ok_iff.2 ⟨text, setting, rfl, hmeans, hadmits, rfl⟩, h.record hadmits⟩

/-- With a value that is still to be examined, the state is examined as it was before. -/
theorem resolve_holding (h : progress.Examined settings) (option : ValueOption) (value : OsText) :
    resolve { progress with pending := .holding option value } = progress.assign option value := by
  have hsame : { progress with pending := .nothing } = progress := by
    rw [← h.pending]
  rw [resolve]
  exact congrArg (·.assign option value) hsame

end Examined

/-! ### Arguments that are texts -/

section Arguments

variable (hseparated : progress.separated = false)

include hseparated

theorem step_separator :
    progress.step (.ofString "--") = .ok { progress with separated := true } := by
  rw [step, hseparated, Argument.ofText_separator]
  rfl

theorem step_long_flag (flag : Flag) :
    progress.step (.ofString ("--" ++ (OptionName.flag flag).long)) = progress.flag flag := by
  rw [step, hseparated, Argument.ofText_long]
  simp [long, OptionName.ofLong?_long]

theorem step_long_await (option : ValueOption) :
    progress.step (.ofString ("--" ++ (OptionName.value option).long)) = progress.await option := by
  rw [step, hseparated, Argument.ofText_long]
  simp [long, OptionName.ofLong?_long]

theorem step_long_attached (option : ValueOption) (text : String) :
    progress.step (.ofString ("--" ++ (OptionName.value option).long ++ "=" ++ text)) =
      progress.attached option (.ofString text) := by
  rw [step, hseparated, Argument.ofText_long_value]
  simp [long, OptionName.ofLong?_long]

theorem step_cluster {text : String} (hnumber : progress.awaitsNumber = false) (hne : text ≠ "")
    (hdash : text.toList.head? ≠ some '-') :
    progress.step (.ofString ("-" ++ text)) = progress.cluster (Utf8.encode text) := by
  rw [step, hseparated, Argument.ofText_cluster hne hdash, hnumber]
  rfl

/-- A text that can be the value of an option as an argument of its own is taken for it. -/
theorem step_awaiting {option : ValueOption} {text : String} (hmeans : Means option text setting)
    (hseparable : Separable option text) :
    step { progress with pending := .awaiting option } (.ofString text) =
      .ok { progress with pending := .holding option (.ofString text) } := by
  have hnumber {value : Int} (hnumeric : option.isNumeric = true)
      (hnumeral : IsNumeral text.toList value) :
      step { progress with pending := .awaiting option } (.ofString text) =
        .ok { progress with pending := .holding option (.ofString text) } := by
    rcases Argument.ofText_of_isNumeral hnumeral with hplain | ⟨letters, hcluster, hlooks⟩
    · rw [step, hplain]
      simp [hseparated, plain]
    · rw [step, hcluster]
      simp [hseparated, plain, awaitsNumber, hnumeric, hlooks]
  cases hmeans with
  | first hnumeral => exact hnumber rfl hnumeral
  | second hnumeral => exact hnumber rfl hnumeral
  | name =>
    rw [step, Argument.ofText_ofString_eq_plain_iff.2 (hseparable rfl)]
    simp [hseparated, plain]

end Arguments

theorem awaitsNumber_eq_false (hpending : ∀ option, progress.pending ≠ .awaiting option) :
    progress.awaitsNumber = false := by
  rw [awaitsNumber]
  split
  · rename_i option hoption
    exact absurd hoption (hpending option)
  · rfl

theorem cluster_flag {flag : Flag} {letter : Char}
    (h : (OptionName.flag flag).letter? = some letter) (bytes : List UInt8) :
    progress.cluster (String.utf8EncodeChar letter ++ bytes) =
      match progress.flag flag with
      | .error stop => .error stop
      | .ok next => next.cluster bytes := by
  obtain ⟨hbyte, -, hoption⟩ := OptionName.utf8EncodeChar_of_letter? h
  rw [hbyte, List.singleton_append]
  cases hflag : progress.flag flag with
  | error stop =>
    rw [cluster, hoption]
    dsimp only
    rw [hflag]
  | ok next =>
    rw [cluster, hoption]
    dsimp only
    rw [hflag]

theorem clusterValue_encode (text : String) :
    clusterValue (Utf8.encode text) = .ofString (lessEqualsSign text) := by
  have hequals : (Utf8.encode text).head? = some equalsSign ↔ text.toList.head? = some '=' :=
    Utf8.head?_encode_eq_some_iff utf8EncodeChar_equalsSign
  rw [lessEqualsSign]
  split
  · rename_i rest hrest
    rw [Utf8.encode, hrest, List.flatMap_cons, utf8EncodeChar_equalsSign, OsText.ofString,
      Utf8.encode, String.toList_ofList]
    rfl
  · rename_i hother
    have hhead : (Utf8.encode text).head? ≠ some equalsSign := by
      rw [ne_eq, hequals, List.head?_eq_some_iff]
      rintro ⟨rest, hrest⟩
      exact hother rest hrest
    rw [OsText.ofString]
    cases hbytes : Utf8.encode text with
    | nil => rfl
    | cons byte rest =>
      rw [hbytes, List.head?_cons, ne_eq, Option.some.injEq] at hhead
      rw [clusterValue, if_neg hhead]

/-- The bytes behind the letter of an option whose value is a text are a text too. -/
theorem exists_of_clusterValue {bytes : List UInt8} {text : String}
    (h : clusterValue bytes = .ofString text) :
    ∃ rest, bytes = Utf8.encode rest ∧ lessEqualsSign rest = text := by
  cases bytes with
  | nil =>
    have htext : text = "" := encode_eq_nil_iff.1 (congrArg OsText.bytes h).symm
    exact ⟨"", Utf8.encode_empty.symm, htext.symm⟩
  | cons byte bytes =>
    by_cases hbyte : byte = equalsSign
    · rw [clusterValue, if_pos hbyte] at h
      have hbytes : bytes = Utf8.encode text := congrArg OsText.bytes h
      refine ⟨"=" ++ text, ?_, by simp [lessEqualsSign]⟩
      rw [Utf8.encode_append, encode_equalsSign, hbyte, hbytes, List.singleton_append]
    · rw [clusterValue, if_neg hbyte] at h
      have hbytes : byte :: bytes = Utf8.encode text := congrArg OsText.bytes h
      refine ⟨text, hbytes, OsText.ofString_injective ?_⟩
      rw [← clusterValue_encode, ← hbytes, clusterValue, if_neg hbyte, h]

theorem cluster_value {option : ValueOption} {letter : Char}
    (h : (OptionName.value option).letter? = some letter) (rest : String) :
    progress.cluster (Utf8.encode (String.singleton letter ++ rest)) =
      if rest = "" then progress.await option
      else progress.attached option (.ofString (lessEqualsSign rest)) := by
  obtain ⟨hbyte, -, hoption⟩ := OptionName.utf8EncodeChar_of_letter? h
  have hletter : Utf8.encode (String.singleton letter) = [letter.toNat.toUInt8] := by
    rw [Utf8.encode, String.toList_singleton, List.flatMap_singleton, hbyte]
  rw [Utf8.encode_append, hletter, List.singleton_append, cluster, hoption, ← clusterValue_encode]
  simp only [List.isEmpty_iff, encode_eq_nil_iff]

/-! ### Reading a group -/

namespace HasRead

theorem separated_eq (h : progress.HasRead settings) : progress.separated = false := by
  obtain ⟨examined, hresolve, hexamined⟩ := h
  rw [← hexamined.separated]
  unfold resolve at hresolve
  split at hresolve
  · cases hresolve
    rfl
  · cases hresolve
  · obtain ⟨_, _, -, -, -, rfl⟩ := assign_eq_ok_iff.1 hresolve
    rfl

theorem once (h : progress.HasRead settings) : AtMostOnce settings := by
  obtain ⟨_, -, hexamined⟩ := h
  exact hexamined.once

theorem pending_ne (h : progress.HasRead settings) (option : ValueOption) :
    progress.pending ≠ .awaiting option := by
  obtain ⟨examined, hresolve, -⟩ := h
  intro hpending
  rw [resolve, hpending] at hresolve
  cases hresolve

theorem awaitsNumber_eq (h : progress.HasRead settings) : progress.awaitsNumber = false :=
  awaitsNumber_eq_false h.pending_ne

theorem flag (h : progress.HasRead settings) {flag : Flag} (hflag : setting.option = .flag flag)
    (honce : AtMostOnce (settings ++ [setting])) :
    ∃ next, progress.flag flag = .ok next ∧ next.HasRead (settings ++ [setting]) := by
  obtain ⟨examined, hresolve, hexamined⟩ := h
  obtain ⟨next, hraise, hnext⟩ := hexamined.raise hflag honce
  refine ⟨next, ?_, hnext.hasRead⟩
  rw [Progress.flag, hresolve]
  exact hraise

theorem attached (h : progress.HasRead settings) {option : ValueOption} {text : String}
    (hmeans : Means option text setting) (honce : AtMostOnce (settings ++ [setting])) :
    ∃ next, progress.attached option (.ofString text) = .ok next ∧
      next.HasRead (settings ++ [setting]) := by
  obtain ⟨examined, hresolve, hexamined⟩ := h
  obtain ⟨next, hassign, hnext⟩ := hexamined.assign hmeans honce
  refine ⟨next, ?_, hnext.hasRead⟩
  rw [Progress.attached, hresolve]
  exact hassign

/-- An option and the value in the next argument are read, although the value is not examined. -/
theorem separate (h : progress.HasRead settings) {option : ValueOption} {text : String}
    (hmeans : Means option text setting) (hseparable : Separable option text)
    (honce : AtMostOnce (settings ++ [setting])) :
    ∃ awaiting next, progress.await option = .ok awaiting ∧
      awaiting.step (.ofString text) = .ok next ∧ next.HasRead (settings ++ [setting]) := by
  obtain ⟨examined, hresolve, hexamined⟩ := h
  obtain ⟨last, hassign, hlast⟩ := hexamined.assign hmeans honce
  refine ⟨_, _, ?_, step_awaiting hexamined.separated hmeans hseparable, last, ?_, hlast⟩
  · rw [await, hresolve]
  · rw [hexamined.resolve_holding, hassign]

/-- The flags of a cluster are read, and the rest of it is what goes on. -/
theorem cluster_flagWord (h : progress.HasRead settings) {word : List Char} {more : List Setting}
    (hword : FlagWord word more) (honce : AtMostOnce (settings ++ more)) :
    ∃ next : Progress, next.HasRead (settings ++ more) ∧
      ∀ bytes, progress.cluster (word.flatMap String.utf8EncodeChar ++ bytes) =
        next.cluster bytes := by
  induction hword generalizing progress settings with
  | nil => exact ⟨progress, by rwa [List.append_nil], fun bytes => rfl⟩
  | @cons flag letter setting word more hletter hflag hword ih =>
    rw [List.append_cons] at honce ⊢
    obtain ⟨next, hnext, hread⟩ := h.flag hflag honce.of_append
    obtain ⟨last, hlast, hrest⟩ := ih hread honce
    refine ⟨last, hlast, fun bytes => ?_⟩
    rw [List.flatMap_cons, List.append_assoc, cluster_flag hletter, hnext]
    exact hrest bytes

/-- A cluster of flags and a rest, which a letter begins, is read by the flags and the rest. -/
theorem step_flagWord (h : progress.HasRead settings) {word : List Char} {more : List Setting}
    (hword : FlagWord word more) (honce : AtMostOnce (settings ++ more)) {rest : String}
    (hne : String.ofList word ++ rest ≠ "") (hdash : rest.toList.head? ≠ some '-') :
    ∃ next : Progress, next.HasRead (settings ++ more) ∧
      progress.step (.ofString ("-" ++ (String.ofList word ++ rest))) =
        next.cluster (Utf8.encode rest) := by
  obtain ⟨next, hread, hcluster⟩ := h.cluster_flagWord hword honce
  refine ⟨next, hread, ?_⟩
  rw [step_cluster h.separated_eq h.awaitsNumber_eq hne, Utf8.encode_append, encode_ofList,
    hcluster]
  cases hword with
  | nil => simpa using hdash
  | cons hletter => simpa using OptionName.ne_dash_of_letter? hletter

/-- An argument that leaves the value of its option to the next one is read up to the option. -/
theorem step_demand (h : progress.HasRead settings) {word : String} {more : List Setting}
    {option : ValueOption} (hdemand : Demand word more option)
    (honce : AtMostOnce (settings ++ more)) :
    ∃ next : Progress, next.HasRead (settings ++ more) ∧
      progress.step (.ofString word) = next.await option := by
  cases hdemand with
  | long option =>
    refine ⟨progress, ?_, step_long_await h.separated_eq option⟩
    rwa [List.append_nil]
  | @cluster word more _ letter hword hletter =>
    have hdash : (String.singleton letter).toList.head? ≠ some '-' := by
      simpa using OptionName.ne_dash_of_letter? hletter
    obtain ⟨next, hread, hstep⟩ := h.step_flagWord hword honce (by simp) hdash
    refine ⟨next, hread, ?_⟩
    rw [hstep, ← String.append_empty (s := String.singleton letter), cluster_value hletter,
      if_pos rfl]

/-- A group is read. -/
theorem run_group (h : progress.HasRead settings) {words : List String} {more : List Setting}
    (hgroup : Group words more) (honce : AtMostOnce (settings ++ more)) :
    ∃ next, progress.run (words.map OsText.ofString) = .ok next ∧
      next.HasRead (settings ++ more) := by
  cases hgroup with
  | longFlag hflag =>
    obtain ⟨next, hnext, hread⟩ := h.flag hflag honce
    refine ⟨next, ?_, hread⟩
    rw [List.map_singleton, run, step_long_flag h.separated_eq, hnext]
    rfl
  | longAttached hmeans =>
    obtain ⟨next, hnext, hread⟩ := h.attached hmeans honce
    refine ⟨next, ?_, hread⟩
    rw [List.map_singleton, run, step_long_attached h.separated_eq, hnext]
    rfl
  | @cluster word _ hword hne =>
    have hword' : String.ofList word ++ "" ≠ "" := by simpa using hne
    obtain ⟨next, hread, hstep⟩ := h.step_flagWord hword honce hword' (by simp)
    refine ⟨next, ?_, hread⟩
    rw [String.append_empty] at hstep
    rw [List.map_singleton, run, hstep, Utf8.encode_empty]
    rfl
  | @clusterAttached word _ option letter rest setting hword hletter hrest hmeans =>
    have hdash : (String.singleton letter ++ rest).toList.head? ≠ some '-' := by
      simpa using OptionName.ne_dash_of_letter? hletter
    rw [← List.append_assoc] at honce ⊢
    obtain ⟨middle, hread, hstep⟩ := h.step_flagWord hword honce.of_append (by simp) hdash
    obtain ⟨next, hnext, hread⟩ := hread.attached hmeans honce
    refine ⟨next, ?_, hread⟩
    rw [List.map_singleton, run, hstep, cluster_value hletter, if_neg hrest, hnext]
    rfl
  | separate hdemand hmeans hseparable =>
    rw [← List.append_assoc] at honce ⊢
    obtain ⟨middle, hread, hstep⟩ := h.step_demand hdemand honce.of_append
    obtain ⟨awaiting, next, hawait, hnext, hread⟩ := hread.separate hmeans hseparable honce
    refine ⟨next, ?_, hread⟩
    rw [List.map_cons, List.map_singleton, run, hstep, hawait]
    dsimp only
    rw [run, hnext]
    rfl

/-- A sequence of groups is read. -/
theorem run_groups (h : progress.HasRead settings) {words : List String} {more : List Setting}
    (hgroups : Groups words more) (honce : AtMostOnce (settings ++ more)) :
    ∃ next, progress.run (words.map OsText.ofString) = .ok next ∧
      next.HasRead (settings ++ more) := by
  -- What a group leaves is `HasRead` and not `Examined`: its last value may still be held.
  induction hgroups generalizing progress settings with
  | nil => exact ⟨progress, rfl, by rwa [List.append_nil]⟩
  | @cons words rest more last hgroup hgroups ih =>
    rw [← List.append_assoc] at honce ⊢
    obtain ⟨next, hnext, hread⟩ := h.run_group hgroup honce.of_append
    obtain ⟨final, hfinal, hlast⟩ := ih hread honce
    refine ⟨final, ?_, hlast⟩
    rw [List.map_append, run_append, hnext]
    exact hfinal

/-- At the end of the arguments the settings ask for an invocation. -/
theorem finish_eq (h : progress.HasRead settings) :
    progress.finish = .ok (Invocation.ofSettings settings) := by
  obtain ⟨examined, hresolve, hexamined⟩ := h
  rw [finish, hresolve]
  dsimp only
  rw [hexamined.choices]
  simp [Choices.ofSettings, Choices.settings, Invocation.ofSettings, Settings.standard]

end HasRead

end Progress

end SumGreeting.CommandLine
