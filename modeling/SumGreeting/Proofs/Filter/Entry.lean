import SumGreeting.Proofs.Filter.Spelling

/-!
# Entries of a filter

The texts of filters that are in use have entries of three forms: a threshold, a target with a
threshold behind an equals sign, and a target alone.  A threshold is for all events, and a target
alone has the threshold that allows everything.

Such an entry is read as it looks.  Without white space in it every cut is made where it should be,
and without a bracket the reading goes through two of its states only.

## Main definitions

* `Filter.Target`, `Filter.Entry` : targets and entries that are well-formed.
* `Filter.Entry.text` : the text of an entry.
* `Filter.Entry.target`, `Filter.Entry.threshold` : what an entry asks for.
* `Filter.Entry.directive` : the directive for that.

## Main results

* `Directive.Language.read_plain`, `Directive.Language.read_assigned` : a directive without and with
  an equals sign.
* `Filter.Entry.read_chars` : an entry is read as its directive.
-/

namespace SumGreeting

/-! ### Reading without brackets -/

namespace Directive.Language

variable (language : Language) {text chars rest : List Char} {read : Directive}

/-- A threshold is read to the end of the text. -/
theorem run_threshold (first offset : Nat) :
    language.run text ⟨.threshold first, read⟩ offset chars =
      language.finish text ⟨.threshold first, read⟩ := by
  induction chars generalizing offset with
  | nil => rfl
  | cons c chars ih => exact ih (offset + c.utf8Size)

/-- A threshold or target is read up to an equals sign or a bracket. -/
theorem run_thresholdOrTarget (first offset : Nat) (h : ∀ c ∈ chars, c ≠ '=' ∧ c ≠ '[') :
    language.run text ⟨.thresholdOrTarget first, read⟩ offset (chars ++ rest) =
      language.run text ⟨.thresholdOrTarget first, read⟩ (offset + byteSize chars) rest := by
  induction chars generalizing offset with
  | nil => rfl
  | cons c chars ih =>
    obtain ⟨hc, hchars⟩ := List.forall_mem_cons.1 h
    have hstep : language.step text ⟨.thresholdOrTarget first, read⟩ offset c =
        .ok ⟨.thresholdOrTarget first, read⟩ := if_neg (not_or.2 hc)
    rw [List.cons_append, run, hstep]
    exact (ih _ hchars).trans (by rw [byteSize, Nat.add_assoc])

/-- From the beginning a threshold or target is read, if the text can begin with one. -/
theorem run_start {c : Char} (h : isInitial c = true) :
    language.run text {} 0 (c :: rest) =
      language.run text ⟨.thresholdOrTarget 0, {}⟩ 0 (c :: rest) := by
  have hequals : c ≠ '=' := by
    rintro rfl
    exact absurd h (by decide)
  have hbracket : c ≠ '[' := by
    rintro rfl
    exact absurd h (by decide)
  rw [run, run, step, step]
  simp only [if_neg hbracket, if_pos h, if_neg (not_or.2 ⟨hequals, hbracket⟩)]

/-- A text without white space is read as it is. -/
theorem read_eq_run {c : Char} (hfirst : isInitial c = true)
    (hclear : ∀ d ∈ c :: rest, isWhiteSpace d = false) :
    language.read (c :: rest) =
      language.run (c :: rest) ⟨.thresholdOrTarget 0, {}⟩ 0 (c :: rest) := by
  rw [Language.read, trim_eq_self hclear, run_start language hfirst]

theorem slice_append (s t u : List Char) :
    language.slice (s ++ (t ++ u)) (byteSize s) (byteSize s + byteSize t) = .ok t := by
  rw [slice, cut?_append]

/-- What is not empty at the end is a threshold if it is written for one, and else a target. -/
theorem finish_thresholdOrTarget {first : Nat} (hne : rest ≠ [])
    (hslice : language.slice text first (byteSize text) = .ok rest) :
    language.finish text ⟨.thresholdOrTarget first, read⟩ =
      .ok (match Threshold.ofText? rest with
        | some threshold => { read with threshold }
        | none => { read with target := String.ofList rest }) := by
  unfold finish
  dsimp only
  rw [hslice]
  show (if rest.isEmpty then _ else _) = _
  rw [if_neg (by simpa using hne)]
  cases Threshold.ofText? rest <;> rfl

/-- Behind an equals sign there is a threshold. -/
theorem finish_threshold {first : Nat} {threshold : Threshold} (hne : rest ≠ [])
    (hslice : language.slice text first (byteSize text) = .ok rest)
    (hthreshold : Threshold.ofText? rest = some threshold) :
    language.finish text ⟨.threshold first, read⟩ = .ok { read with threshold } := by
  unfold finish
  dsimp only
  rw [hslice]
  show (if rest.isEmpty then _ else _) = _
  rw [if_neg (by simpa using hne), hthreshold]
  rfl

/-- An equals sign ends a target. -/
theorem step_equals {first offset : Nat}
    (hslice : language.slice text first offset = .ok chars) :
    language.step text ⟨.thresholdOrTarget first, read⟩ offset '=' =
      .ok ⟨.threshold (offset + 1), { read with target := String.ofList chars }⟩ := by
  unfold step
  dsimp only
  rw [if_pos (Or.inl rfl), hslice]
  rfl

/-- A directive without an equals sign is a threshold if it is written for one, and else a
target. -/
theorem read_plain (hfirst : ∃ c ∈ text.head?, isInitial c = true)
    (hclear : ∀ c ∈ text, isWhiteSpace c = false ∧ c ≠ '=' ∧ c ≠ '[') :
    language.read text = .ok (match Threshold.ofText? text with
      | some threshold => { threshold }
      | none => { target := String.ofList text }) := by
  obtain ⟨c, hc, hinitial⟩ := hfirst
  obtain ⟨rest, rfl⟩ := List.head?_eq_some_iff.1 hc
  have hrun : language.run (c :: rest) ⟨.thresholdOrTarget 0, {}⟩ 0 (c :: rest ++ []) =
      language.run (c :: rest) ⟨.thresholdOrTarget 0, {}⟩ (0 + byteSize (c :: rest)) [] :=
    run_thresholdOrTarget language 0 0 fun d hd => (hclear d hd).2
  have hslice : language.slice (c :: rest) 0 (byteSize (c :: rest)) = .ok (c :: rest) := by
    have hall := slice_append language [] (c :: rest) []
    rwa [List.append_nil, byteSize, Nat.zero_add] at hall
  rw [List.append_nil] at hrun
  rw [read_eq_run language hinitial fun d hd => (hclear d hd).1, hrun, run]
  exact finish_thresholdOrTarget language (List.cons_ne_nil c rest) hslice

/-- A directive with an equals sign has a target in front of it and a threshold behind it. -/
theorem read_assigned {threshold : Threshold} (hfirst : ∃ c ∈ chars.head?, isInitial c = true)
    (hchars : ∀ c ∈ chars, isWhiteSpace c = false ∧ c ≠ '=' ∧ c ≠ '[')
    (hrest : ∀ c ∈ rest, isWhiteSpace c = false) (hne : rest ≠ [])
    (hthreshold : Threshold.ofText? rest = some threshold) :
    language.read (chars ++ '=' :: rest) =
      .ok { target := String.ofList chars, threshold } := by
  obtain ⟨c, hc, hinitial⟩ := hfirst
  obtain ⟨chars, rfl⟩ := List.head?_eq_some_iff.1 hc
  have hclear : ∀ d ∈ c :: (chars ++ '=' :: rest), isWhiteSpace d = false := by
    rw [← List.cons_append]
    refine List.forall_mem_append.2 ⟨fun d hd => (hchars d hd).1, ?_⟩
    exact List.forall_mem_cons.2 ⟨by decide, hrest⟩
  have htarget : language.slice (c :: chars ++ '=' :: rest) 0 (byteSize (c :: chars)) =
      .ok (c :: chars) := by
    have hcut := slice_append language [] (c :: chars) ('=' :: rest)
    rwa [byteSize, Nat.zero_add] at hcut
  have hbehind : language.slice (c :: chars ++ '=' :: rest) (byteSize (c :: chars) + 1)
      (byteSize (c :: chars ++ '=' :: rest)) = .ok rest := by
    have hcut := slice_append language (c :: chars ++ ['=']) rest []
    have hsize : byteSize (c :: chars ++ ['=']) = byteSize (c :: chars) + 1 := byteSize_append _ _
    rw [List.append_nil, ← byteSize_append, hsize, List.append_assoc] at hcut
    exact hcut
  rw [List.cons_append, read_eq_run language hinitial hclear, ← List.cons_append,
    run_thresholdOrTarget language 0 0 fun d hd => (hchars d hd).2, run, Nat.zero_add,
    step_equals language htarget]
  exact (run_threshold language _ _).trans
    (finish_threshold language hne hbehind hthreshold)

end Directive.Language

/-! ### Entries -/

namespace Filter

open Threshold (Spelling SignedSpelling)

/-- A target as it can be written in an entry. -/
structure Target where
  /-- The characters of the target. -/
  chars : List Char
  /-- There is a first one, and it is a letter or digit of any script, a dash, a colon or an
  underscore. -/
  begins : ∃ c ∈ chars.head?, isAlphanumeric c = true ∨ c = '-' ∨ c = ':' ∨ c = '_'
  /-- None of them is white space, a comma, an equals sign or an opening bracket. -/
  clear : ∀ c ∈ chars, isWhiteSpace c = false ∧ c ≠ ',' ∧ c ≠ '=' ∧ c ≠ '['

/-- An entry in the text of a filter. -/
inductive Entry where
  /-- A threshold for all events. -/
  | general (chars : List Char) (threshold : Threshold) (h : Spelling chars threshold)
  /-- A target and a threshold, with an equals sign between them. -/
  | assigned (target : Target) (chars : List Char) (threshold : Threshold)
      (h : SignedSpelling chars threshold)
  /-- A target alone, which is not written for a threshold. -/
  | unlimited (target : Target) (h : ∀ threshold, ¬ Spelling target.chars threshold)

namespace Entry

/-- The characters of an entry. -/
def chars : Entry → List Char
  | general chars _ _ => chars
  | assigned target chars _ _ => target.chars ++ '=' :: chars
  | unlimited target _ => target.chars

/-- The text of an entry. -/
def text (entry : Entry) : String := String.ofList entry.chars

/-- What the targets of the events begin with that an entry is for. -/
def target : Entry → List Char
  | general _ _ _ => []
  | assigned target _ _ _ => target.chars
  | unlimited target _ => target.chars

/-- The threshold of an entry. -/
def threshold : Entry → Threshold
  | general _ threshold _ => threshold
  | assigned _ _ threshold _ => threshold
  | unlimited _ _ => .trace

/-- The directive of an entry. -/
def directive (entry : Entry) : Directive where
  target := match entry with
    | general _ _ _ => none
    | assigned target _ _ _ => String.ofList target.chars
    | unlimited target _ => String.ofList target.chars
  threshold := entry.threshold

end Entry

theorem Target.exists_isInitial (target : Target) :
    ∃ c ∈ target.chars.head?, Directive.isInitial c = true := by
  obtain ⟨c, hc, hinitial⟩ := target.begins
  refine ⟨c, hc, ?_⟩
  simpa [Directive.isInitial, or_assoc] using hinitial

theorem Target.ne_nil (target : Target) : target.chars ≠ [] := by
  obtain ⟨c, hc, -⟩ := target.begins
  intro hnil
  rw [hnil] at hc
  cases hc

/-- Nothing in a target ends it. -/
theorem Target.clear_of_mem (target : Target) :
    ∀ c ∈ target.chars, isWhiteSpace c = false ∧ c ≠ '=' ∧ c ≠ '[' := fun c hc =>
  (target.clear c hc).imp_right And.right

/-- A target alone is not read as a threshold: it cannot begin with a plus sign. -/
theorem Target.ofText?_eq_none {target : Target}
    (h : ∀ threshold, ¬ Spelling target.chars threshold) :
    Threshold.ofText? target.chars = none := by
  refine Option.eq_none_iff_forall_ne_some.2 fun threshold hthreshold => ?_
  obtain ⟨c, hc, hinitial⟩ := target.exists_isInitial
  generalize hchars : target.chars = chars at h hthreshold hc
  cases Threshold.ofText?_eq_some_iff.1 hthreshold with
  | unsigned hspelling => exact h threshold hspelling
  | plus =>
    cases hc
    exact absurd hinitial (by decide)

namespace Entry

theorem chars_ne_nil (entry : Entry) : entry.chars ≠ [] := by
  cases entry with
  | general chars threshold h => exact h.ne_nil
  | assigned target chars threshold h => simp [Entry.chars]
  | unlimited target h => exact target.ne_nil

/-- There is no comma in an entry. -/
theorem comma_notMem_chars (entry : Entry) : ',' ∉ entry.chars := by
  intro hcomma
  cases entry with
  | general chars threshold h => exact ((SignedSpelling.unsigned h).clear hcomma).2.1 rfl
  | assigned target chars threshold h =>
    rcases List.mem_append.1 hcomma with htarget | hrest
    · exact (target.clear _ htarget).2.1 rfl
    · rcases List.mem_cons.1 hrest with hequals | hthreshold
      · exact absurd hequals (by decide)
      · exact (h.clear hthreshold).2.1 rfl
  | unlimited target h => exact (target.clear _ hcomma).2.1 rfl

/-- **An entry is read as it looks.** -/
theorem read_chars (language : Directive.Language) (entry : Entry) :
    language.read entry.chars = .ok entry.directive := by
  cases entry with
  | general chars threshold h =>
    have hread : Threshold.ofText? chars = some threshold :=
      Threshold.ofText?_eq_some_iff.2 (.unsigned h)
    obtain ⟨c, rest, rfl⟩ := List.exists_cons_of_ne_nil h.ne_nil
    refine (language.read_plain ⟨c, rfl, ?_⟩ fun d hd => ?_).trans ?_
    · exact isInitial_of_isAlphanum (h.isAlphanum List.mem_cons_self)
    · obtain ⟨hwhite, -, hmarks⟩ := (SignedSpelling.unsigned h).clear hd
      exact ⟨hwhite, hmarks⟩
    · rw [Entry.chars, hread]
      rfl
  | assigned target chars threshold h =>
    exact language.read_assigned target.exists_isInitial target.clear_of_mem
      (fun c hc => (h.clear hc).1) h.ne_nil (Threshold.ofText?_eq_some_iff.2 h)
  | unlimited target h =>
    refine (language.read_plain target.exists_isInitial target.clear_of_mem).trans ?_
    rw [Target.ofText?_eq_none h]
    rfl

end Entry

end Filter

end SumGreeting
