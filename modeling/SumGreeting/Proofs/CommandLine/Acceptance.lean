import Mathlib.Tactic.SplitIfs
import SumGreeting.Proofs.CommandLine.Reading

/-!
# Command lines that are accepted

The reading of a command line succeeds exactly if the arguments are groups of the grammar in which
no option is used twice, and it gives the invocation that they ask for.

The converse of reading groups needs one observation: a value that was taken from an argument of its
own is examined before anything else is, at the latest at the end.  So if the arguments are
accepted, the value asks for a setting, and the state between the groups is as before.

## Main definitions

* `Progress.Accepts` : the reading of the arguments goes on to the end and gives the invocation.

## Main results

* `Progress.exists_resolve_of_accepts` : a value still to be examined asks for a setting.
* `Progress.HasRead.exists_group` : arguments that are accepted begin with a group.
* `parse_eq_ok_of_groups`, `exists_groups_of_parse_eq_ok` : the two directions.
* `parse_eq_ok_iff_groups` : the command lines that are usable, and what they ask for.
-/

namespace SumGreeting.CommandLine

theorem Group.ne_nil {words : List String} {settings : List Setting} (h : Group words settings) :
    words ≠ [] := by
  cases h <;> exact List.cons_ne_nil _ _

namespace Progress

variable {progress next examined : Progress} {settings : List Setting} {setting : Setting}

/-! ### Arguments that are accepted -/

/-- The reading of the arguments goes on to the end and gives the invocation. -/
def Accepts (progress : Progress) (arguments : List OsText) (invocation : Invocation) : Prop :=
  ∃ last, progress.run arguments = .ok last ∧ last.finish = .ok invocation

variable {arguments rest : List OsText} {argument : OsText} {invocation : Invocation}

theorem accepts_nil_iff : progress.Accepts [] invocation ↔ progress.finish = .ok invocation := by
  constructor
  · rintro ⟨last, hlast, hfinish⟩
    cases hlast
    exact hfinish
  · intro hfinish
    exact ⟨progress, rfl, hfinish⟩

theorem accepts_cons_iff :
    progress.Accepts (argument :: rest) invocation ↔
      ∃ next, progress.step argument = .ok next ∧ next.Accepts rest invocation := by
  rw [Accepts, run]
  cases progress.step argument with
  | error stop =>
    constructor
    · rintro ⟨_, ⟨⟩, -⟩
    · rintro ⟨_, ⟨⟩, -⟩
  | ok next =>
    constructor
    · intro h
      exact ⟨next, rfl, h⟩
    · rintro ⟨_, ⟨⟩, h⟩
      exact h

/-- Behind the separator a value is examined as in front of it. -/
theorem resolve_separated (progress : Progress) :
    resolve { progress with separated := true } =
      progress.resolve.map fun last => { last with separated := true } := by
  obtain ⟨choices, present, pending, separated⟩ := progress
  cases pending with
  | nothing => rfl
  | awaiting option => rfl
  | holding option value =>
    simp only [resolve, assign]
    split_ifs
    · rfl
    · cases value.toString? with
      | none => rfl
      | some text =>
        dsimp only
        cases choices.assign option text <;> rfl

/-- Nothing is accepted behind the separator. -/
theorem accepts_separated_iff :
    Accepts { progress with separated := true } arguments invocation ↔
      arguments = [] ∧ progress.finish = .ok invocation := by
  have hfinish : finish { progress with separated := true } = progress.finish := by
    rw [finish, finish, resolve_separated]
    cases progress.resolve <;> rfl
  cases arguments with
  | nil => rw [accepts_nil_iff, hfinish, and_iff_right rfl]
  | cons argument rest =>
    rw [accepts_cons_iff]
    simp [step]

/-! ### Steps that succeed -/

theorem attached_eq_error {stop : Stop} (h : progress.resolve = .error stop) (option : ValueOption)
    (value : OsText) : progress.attached option value = .error stop := by
  rw [attached, h]

theorem await_eq_error {stop : Stop} (h : progress.resolve = .error stop) (option : ValueOption) :
    progress.await option = .error stop := by
  rw [await, h]

theorem flag_eq_error {stop : Stop} (h : progress.resolve = .error stop) (option : Flag) :
    progress.flag option = .error stop := by
  rw [flag, h]

/-- A long option is read only if its name is the one of an option with or without a value. -/
theorem exists_of_long {name : OsText} {value? : Option OsText}
    (h : progress.long name value? = .ok next) :
    ∃ option : OptionName, name = .ofString option.long ∧
      match option, value? with
      | .value option, some value => progress.attached option value = .ok next
      | .value option, none => progress.await option = .ok next
      | .flag flag, none => progress.flag flag = .ok next
      | .flag _, some _ => False := by
  unfold long at h
  cases hoption : name.toString?.bind OptionName.ofLong? with
  | none =>
    rw [hoption] at h
    cases h
  | some option =>
    rw [hoption] at h
    obtain ⟨text, htext, hlong⟩ := Option.bind_eq_some_iff.1 hoption
    refine ⟨option, ?_, ?_⟩
    · rw [OptionName.long_of_ofLong? hlong]
      exact OsText.toString?_eq_some_iff.1 htext
    · cases option with
      | value option => cases value? <;> exact h
      | flag flag => cases value? with
        | none => exact h
        | some value => cases h

/-! ### Values that are still to be examined -/

/-- Where the pending option cannot be examined, nothing is read but the separator or a value. -/
theorem step_of_resolve_eq_error {stop : Stop} (hresolve : progress.resolve = .error stop)
    (hstep : progress.step argument = .ok next) :
    next = { progress with separated := true } ∨ progress.plain argument = .ok next ∧
      (Argument.ofText argument = .plain ∨ progress.awaitsNumber = true) := by
  -- Every option examines the pending one first, so it cannot be read here.
  have hbytes := Argument.bytes_of_ofText argument
  unfold step at hstep
  split_ifs at hstep
  cases hform : Argument.ofText argument with
  | separator =>
    rw [hform] at hstep
    exact Or.inl (Except.ok.inj hstep).symm
  | long name value? =>
    rw [hform] at hstep
    obtain ⟨option, -, hlong⟩ := exists_of_long hstep
    split at hlong
    · cases (attached_eq_error hresolve _ _).symm.trans hlong
    · cases (await_eq_error hresolve _).symm.trans hlong
    · cases (flag_eq_error hresolve _).symm.trans hlong
    · exact hlong.elim
  | cluster letters =>
    rw [hform] at hstep hbytes
    dsimp only at hstep
    split_ifs at hstep with hnumber
    · exact Or.inr ⟨hstep, Or.inr (Bool.and_eq_true_iff.1 hnumber).1⟩
    · obtain ⟨letter, letters, rfl⟩ := List.exists_cons_of_ne_nil hbytes.2
      rw [cluster] at hstep
      split at hstep
      · cases hstep
      · split_ifs at hstep
        · cases (await_eq_error hresolve _).symm.trans hstep
        · cases (attached_eq_error hresolve _ _).symm.trans hstep
      · rw [flag_eq_error hresolve] at hstep
        cases hstep
  | plain =>
    rw [hform] at hstep
    exact Or.inr ⟨hstep, Or.inl rfl⟩

/-- If the pending option cannot be examined, the next argument is the value that is awaited. -/
theorem exists_of_accepts_of_resolve_eq_error {stop : Stop}
    (hresolve : progress.resolve = .error stop) (haccepts : progress.Accepts arguments invocation) :
    ∃ value rest next, arguments = value :: rest ∧ progress.plain value = .ok next ∧
      (Argument.ofText value = .plain ∨ progress.awaitsNumber = true) ∧
        next.Accepts rest invocation := by
  have hfinish : progress.finish ≠ .ok invocation := by
    rw [finish, hresolve]
    intro h
    cases h
  cases arguments with
  | nil => exact absurd (accepts_nil_iff.1 haccepts) hfinish
  | cons value rest =>
    obtain ⟨next, hstep, hnext⟩ := accepts_cons_iff.1 haccepts
    rcases step_of_resolve_eq_error hresolve hstep with rfl | ⟨hplain, hform⟩
    · exact absurd (accepts_separated_iff.1 hnext).2 hfinish
    · exact ⟨value, rest, next, rfl, hplain, hform, hnext⟩

theorem plain_ne_ok (hpending : ∀ option, progress.pending ≠ .awaiting option) :
    progress.plain argument ≠ .ok next := by
  rw [plain]
  split
  · rename_i option hoption
    exact absurd hoption (hpending option)
  · intro h
    cases h

/-- A value that is still to be examined is acceptable if the arguments behind it are accepted. -/
theorem exists_resolve_of_accepts (hpending : ∀ option, progress.pending ≠ .awaiting option)
    (haccepts : progress.Accepts arguments invocation) :
    ∃ examined, progress.resolve = .ok examined := by
  cases hresolve : progress.resolve with
  | ok examined => exact ⟨examined, rfl⟩
  | error stop =>
    obtain ⟨_, _, _, -, hplain, -⟩ := exists_of_accepts_of_resolve_eq_error hresolve haccepts
    exact absurd hplain (plain_ne_ok hpending)

/-- The argument behind an option that awaits a value asks for a setting. -/
theorem Examined.exists_of_awaiting (h : examined.Examined settings) {option : ValueOption}
    (haccepts : Accepts { examined with pending := .awaiting option } arguments invocation) :
    ∃ text rest setting next, arguments = .ofString text :: rest ∧ Means option text setting ∧
      Separable option text ∧ HasRead next (settings ++ [setting]) ∧
        next.Accepts rest invocation := by
  obtain ⟨value, rest, next, rfl, hplain, hform, hnext⟩ :=
    exists_of_accepts_of_resolve_eq_error rfl haccepts
  cases hplain
  -- The value is only held so far.  That the rest is accepted tells that it will be examined.
  obtain ⟨last, hresolve⟩ := exists_resolve_of_accepts (fun _ => Pending.noConfusion) hnext
  have hassign := (h.resolve_holding option value).symm.trans hresolve
  obtain ⟨text, setting, rfl, hmeans, hadmits, rfl⟩ := assign_eq_ok_iff.1 hassign
  refine ⟨text, rest, setting, _, rfl, hmeans, ?_, ⟨_, hresolve, h.record hadmits⟩, hnext⟩
  rintro rfl
  rcases hform with hplain | hnumber
  · exact Argument.ofText_ofString_eq_plain_iff.1 hplain
  · cases hnumber

/-! ### The group at the beginning -/

/-- Progress by one argument other than the separator: the argument is a group, or it leaves the
value of its option to the next argument. -/
inductive Advance (settings : List Setting) (argument : OsText) (next : Progress) : Prop
  | group {word : String} {more : List Setting} (hword : argument = .ofString word)
      (hgroup : Group [word] more) (hread : next.HasRead (settings ++ more))
  | demand {word : String} {more : List Setting} {option : ValueOption} {examined : Progress}
      (hword : argument = .ofString word) (hdemand : Demand word more option)
      (hexamined : examined.Examined (settings ++ more))
      (hnext : next = { examined with pending := .awaiting option })

namespace HasRead

theorem exists_of_flag (h : progress.HasRead settings) {flag : Flag}
    (hnext : progress.flag flag = .ok next) :
    ∃ setting, setting.option = .flag flag ∧ next.HasRead (settings ++ [setting]) := by
  obtain ⟨examined, hresolve, hexamined⟩ := h
  rw [Progress.flag, hresolve] at hnext
  obtain ⟨setting, hflag, hadmits, rfl⟩ := raise_eq_ok_iff.1 hnext
  exact ⟨setting, hflag, (hexamined.record hadmits).hasRead⟩

theorem exists_of_attached (h : progress.HasRead settings) {option : ValueOption} {value : OsText}
    (hnext : progress.attached option value = .ok next) :
    ∃ text setting, value = .ofString text ∧ Means option text setting ∧
      next.HasRead (settings ++ [setting]) := by
  obtain ⟨examined, hresolve, hexamined⟩ := h
  rw [Progress.attached, hresolve] at hnext
  obtain ⟨text, setting, htext, hmeans, hadmits, rfl⟩ := assign_eq_ok_iff.1 hnext
  exact ⟨text, setting, htext, hmeans, (hexamined.record hadmits).hasRead⟩

theorem exists_of_await (h : progress.HasRead settings) {option : ValueOption}
    (hnext : progress.await option = .ok next) :
    ∃ examined : Progress, examined.Examined settings ∧
      next = { examined with pending := .awaiting option } := by
  obtain ⟨examined, hresolve, hexamined⟩ := h
  rw [Progress.await, hresolve] at hnext
  exact ⟨examined, hexamined, (Except.ok.inj hnext).symm⟩

theorem advance_of_long (h : progress.HasRead settings) {name : OsText} {value? : Option OsText}
    (hbytes : argument.bytes = dash :: dash :: (name.bytes ++ Argument.valueBytes value?))
    (hnext : progress.long name value? = .ok next) : Advance settings argument next := by
  obtain ⟨option, rfl, hlong⟩ := exists_of_long hnext
  cases option with
  | value option => cases value? with
    | some value =>
      obtain ⟨text, setting, rfl, hmeans, hread⟩ := h.exists_of_attached hlong
      refine .group (OsText.eq_ofString_iff.2 ?_) (.longAttached hmeans) hread
      rw [hbytes, String.append_assoc, String.append_assoc, encode_dashes_append,
        Utf8.encode_append, Utf8.encode_append, encode_equalsSign]
      rfl
    | none =>
      obtain ⟨examined, hexamined, hnext⟩ := h.exists_of_await hlong
      refine .demand (OsText.eq_ofString_iff.2 ?_) (.long option) (by rwa [List.append_nil]) hnext
      rw [hbytes, encode_dashes_append, Argument.valueBytes, List.append_nil]
      rfl
  | flag flag => cases value? with
    | some value => exact hlong.elim
    | none =>
      obtain ⟨setting, hflag, hread⟩ := h.exists_of_flag hlong
      refine .group (OsText.eq_ofString_iff.2 ?_) (.longFlag hflag) hread
      rw [hbytes, encode_dashes_append, Argument.valueBytes, List.append_nil]
      rfl

/-- A cluster that is read begins with flags, behind which it ends or has the letter of an option
that takes a value. -/
theorem exists_flagWord (h : progress.HasRead settings) {bytes : List UInt8}
    (hnext : progress.cluster bytes = .ok next) :
    ∃ (word : List Char) (more : List Setting) (middle : Progress) (suffix : List UInt8),
      FlagWord word more ∧ bytes = word.flatMap String.utf8EncodeChar ++ suffix ∧
        middle.HasRead (settings ++ more) ∧ middle.cluster suffix = .ok next ∧
        (suffix = [] ∨ ∃ byte rest option, suffix = byte :: rest ∧
          OptionName.ofLetter? byte = some (.value option)) := by
  -- Each flag is one letter and one setting, after which the state is again one between groups.
  induction bytes generalizing progress settings with
  | nil =>
    refine ⟨[], [], progress, [], .nil, rfl, ?_, hnext, Or.inl rfl⟩
    rwa [List.append_nil]
  | cons byte bytes ih =>
    cases hoption : OptionName.ofLetter? byte with
    | none =>
      rw [cluster, hoption] at hnext
      cases hnext
    | some option => cases option with
      | value option =>
        refine ⟨[], [], progress, byte :: bytes, .nil, rfl, ?_, hnext,
          Or.inr ⟨byte, bytes, option, rfl, hoption⟩⟩
        rwa [List.append_nil]
      | flag flag =>
        obtain ⟨letter, hletter, hbyte⟩ := OptionName.letter?_of_ofLetter? hoption
        rw [← List.singleton_append, ← hbyte, cluster_flag hletter] at hnext
        cases hflag : progress.flag flag with
        | error stop =>
          rw [hflag] at hnext
          cases hnext
        | ok after =>
          rw [hflag] at hnext
          obtain ⟨setting, hsetting, hread⟩ := h.exists_of_flag hflag
          obtain ⟨word, more, middle, suffix, hword, rfl, hmiddle, hrest⟩ := ih hread hnext
          refine ⟨letter :: word, setting :: more, middle, suffix,
            .cons hletter hsetting hword, ?_, ?_, hrest⟩
          · rw [List.flatMap_cons, hbyte, List.append_assoc, List.singleton_append]
          · rwa [List.append_cons]

theorem advance_of_cluster (h : progress.HasRead settings) {letters : List UInt8}
    (hbytes : argument.bytes = dash :: letters) (hne : letters ≠ [])
    (hnext : progress.cluster letters = .ok next) : Advance settings argument next := by
  obtain ⟨word, more, middle, suffix, hword, rfl, hmiddle, hcluster, hsuffix⟩ :=
    h.exists_flagWord hnext
  rcases hsuffix with rfl | ⟨byte, bytes, option, rfl, hoption⟩
  · cases hcluster
    rw [List.append_nil] at hbytes hne
    refine .group (OsText.eq_ofString_iff.2 ?_) (.cluster hword ?_) hmiddle
    · rw [hbytes, encode_dash_append, encode_ofList]
    · rintro rfl
      exact hne rfl
  · obtain ⟨letter, hletter, hbyte⟩ := OptionName.letter?_of_ofLetter? hoption
    have hsingle : Utf8.encode (String.singleton letter) = [byte] := by
      rw [Utf8.encode, String.toList_singleton, List.flatMap_singleton, hbyte]
    rw [cluster, hoption] at hcluster
    dsimp only at hcluster
    split_ifs at hcluster with hempty
    · obtain ⟨examined, hexamined, hnext⟩ := hmiddle.exists_of_await hcluster
      refine .demand (OsText.eq_ofString_iff.2 ?_) (.cluster hword hletter) hexamined hnext
      rw [hbytes, encode_dash_append, Utf8.encode_append, encode_ofList, hsingle,
        List.isEmpty_iff.1 hempty]
    · obtain ⟨text, setting, htext, hmeans, hread⟩ := hmiddle.exists_of_attached hcluster
      obtain ⟨rest, rfl, rfl⟩ := exists_of_clusterValue htext
      rw [List.append_assoc] at hread
      refine .group (OsText.eq_ofString_iff.2 ?_) (.clusterAttached hword hletter ?_ hmeans) hread
      · rw [hbytes, encode_dash_append, Utf8.encode_append, Utf8.encode_append, encode_ofList,
          hsingle, List.singleton_append]
      · rintro rfl
        exact hempty (List.isEmpty_iff.2 Utf8.encode_empty)

/-- An argument that is read is the separator, a group, or leaves a value to the next argument. -/
theorem advance_of_step (h : progress.HasRead settings)
    (hnext : progress.step argument = .ok next) :
    argument = .ofString "--" ∧ next = { progress with separated := true } ∨
      Advance settings argument next := by
  have hbytes := Argument.bytes_of_ofText argument
  rw [step, h.separated_eq, if_neg Bool.false_ne_true] at hnext
  cases hform : Argument.ofText argument with
  | separator =>
    rw [hform] at hnext hbytes
    refine Or.inl ⟨OsText.eq_ofString_iff.2 ?_, (Except.ok.inj hnext).symm⟩
    rw [hbytes, encode_dashes]
  | long name value? =>
    rw [hform] at hnext hbytes
    exact Or.inr (h.advance_of_long hbytes hnext)
  | cluster letters =>
    rw [hform] at hnext hbytes
    dsimp only at hnext
    rw [h.awaitsNumber_eq, Bool.false_and, if_neg Bool.false_ne_true] at hnext
    exact Or.inr (h.advance_of_cluster hbytes.1 hbytes.2 hnext)
  | plain =>
    rw [hform] at hnext
    exact absurd hnext (plain_ne_ok h.pending_ne)

/-- Arguments that are accepted are none, the separator alone, or begin with a group. -/
theorem exists_group (h : progress.HasRead settings)
    (haccepts : progress.Accepts arguments invocation) :
    arguments = [] ∨ arguments = [.ofString "--"] ∨
      ∃ words more rest next, arguments = words.map OsText.ofString ++ rest ∧
        Group words more ∧ HasRead next (settings ++ more) ∧ next.Accepts rest invocation := by
  cases arguments with
  | nil => exact Or.inl rfl
  | cons argument rest =>
    right
    obtain ⟨next, hstep, hnext⟩ := accepts_cons_iff.1 haccepts
    rcases h.advance_of_step hstep with ⟨rfl, rfl⟩ | hadvance
    · rw [(accepts_separated_iff.1 hnext).1]
      exact Or.inl rfl
    · right
      cases hadvance with
      | @group word more hword hgroup hread =>
        exact ⟨[word], more, rest, next, by rw [hword]; rfl, hgroup, hread, hnext⟩
      | @demand word more option examined hword hdemand hexamined hawaiting =>
        rw [hawaiting] at hnext
        obtain ⟨text, rest, setting, last, rfl, hmeans, hseparable, hread, hlast⟩ :=
          hexamined.exists_of_awaiting hnext
        rw [List.append_assoc] at hread
        exact ⟨[word, text], more ++ [setting], rest, last, by rw [hword]; rfl,
          .separate hdemand hmeans hseparable, hread, hlast⟩

/-- Arguments that are accepted are groups, possibly with the separator behind them. -/
theorem exists_groups (h : progress.HasRead settings)
    (haccepts : progress.Accepts arguments invocation) :
    ∃ words more, Groups words more ∧ AtMostOnce (settings ++ more) ∧
      (arguments = words.map OsText.ofString ∨
        arguments = (words ++ ["--"]).map OsText.ofString) ∧
      invocation = Invocation.ofSettings (settings ++ more) := by
  -- A group takes one argument or two, so the induction is on the number of all that are left.
  induction hlength : arguments.length using Nat.strong_induction_on
    generalizing progress settings arguments with
  | h length ih =>
    rcases h.exists_group haccepts with rfl | rfl |
      ⟨words, more, rest, next, rfl, hgroup, hread, hnext⟩
    · rw [accepts_nil_iff, h.finish_eq, Except.ok.injEq] at haccepts
      exact ⟨[], [], .nil, by simpa using h.once, Or.inl rfl, by simp [haccepts]⟩
    · obtain ⟨next, hstep, hnext⟩ := accepts_cons_iff.1 haccepts
      rw [step_separator h.separated_eq, Except.ok.injEq] at hstep
      rw [← hstep, accepts_separated_iff, h.finish_eq, Except.ok.injEq] at hnext
      exact ⟨[], [], .nil, by simpa using h.once, Or.inr rfl, by simp [hnext.2]⟩
    · have hshorter : rest.length < length := by
        have hpositive := List.length_pos_iff.2 hgroup.ne_nil
        rw [← hlength, List.length_append, List.length_map]
        omega
      obtain ⟨others, last, hgroups, honce, harguments, rfl⟩ :=
        ih rest.length hshorter hread hnext rfl
      rw [List.append_assoc] at honce
      refine ⟨words ++ others, more ++ last, .cons hgroup hgroups, honce, ?_, ?_⟩
      · rcases harguments with rfl | rfl
        · exact Or.inl (List.map_append).symm
        · right
          rw [List.append_assoc]
          exact (List.map_append).symm
      · rw [List.append_assoc]

end HasRead

end Progress

/-! ### The command line -/

/-- **Groups in which no option is used twice are accepted.** -/
theorem parse_eq_ok_of_groups {words : List String} {settings : List Setting}
    (hgroups : Groups words settings) (honce : AtMostOnce settings) :
    parse (words.map OsText.ofString) = .ok (Invocation.ofSettings settings) ∧
      parse ((words ++ ["--"]).map OsText.ofString) = .ok (Invocation.ofSettings settings) := by
  obtain ⟨last, hrun, hread⟩ := Progress.Examined.start.hasRead.run_groups hgroups honce
  refine ⟨?_, ?_⟩
  · rw [parse, hrun]
    exact hread.finish_eq
  · have hseparated : Progress.Accepts { last with separated := true } []
        (Invocation.ofSettings settings) :=
      Progress.accepts_separated_iff.2 ⟨rfl, hread.finish_eq⟩
    rw [parse, List.map_append, Progress.run_append, hrun, List.map_singleton]
    dsimp only
    rw [Progress.run, Progress.step_separator hread.separated_eq]
    exact Progress.accepts_nil_iff.1 hseparated

/-- **A command line that is accepted consists of groups in which no option is used twice.** -/
theorem exists_groups_of_parse_eq_ok {arguments : List OsText} {invocation : Invocation}
    (h : parse arguments = .ok invocation) :
    ∃ words settings, Groups words settings ∧ AtMostOnce settings ∧
      (arguments = words.map OsText.ofString ∨ arguments = (words ++ ["--"]).map OsText.ofString) ∧
      invocation = Invocation.ofSettings settings := by
  have haccepts : Progress.Accepts {} arguments invocation := by
    unfold parse at h
    split at h
    · cases h
    · rename_i last hrun
      exact ⟨last, hrun, h⟩
  exact Progress.Examined.start.hasRead.exists_groups haccepts

/-- **The command line is accepted exactly by its grammar.**  It is accepted if and only if it is a
sequence of groups, possibly with the separator behind them, in which no option but the one for
more output is used twice; and then it asks for the invocation of the settings of the groups. -/
theorem parse_eq_ok_iff_groups {arguments : List OsText} {invocation : Invocation} :
    parse arguments = .ok invocation ↔
      ∃ words settings, Groups words settings ∧ AtMostOnce settings ∧
        (arguments = words.map OsText.ofString ∨
          arguments = (words ++ ["--"]).map OsText.ofString) ∧
        invocation = Invocation.ofSettings settings := by
  constructor
  · exact exists_groups_of_parse_eq_ok
  · rintro ⟨words, settings, hgroups, honce, rfl | rfl, rfl⟩
    · exact (parse_eq_ok_of_groups hgroups honce).1
    · exact (parse_eq_ok_of_groups hgroups honce).2

/-- A cluster that ends with a value, a name that is a single dash, and the separator. -/
example : parse (["-vqa=+07", "--name", "-", "--"].map OsText.ofString) =
    .ok ⟨{ first := 7, name := "-", quiet := true }, 1⟩ := by decide

end SumGreeting.CommandLine
