import Mathlib.Tactic.SplitIfs
import SumGreeting.Proofs.Filter.Parts

/-!
# Readers that answer

A reader of directives is expected to answer on every text, with directives or with a fault, and it
is only then that a text and a verbosity lead to a filter.  The reader for the texts of directives
cuts names out of them.  It answers wherever these cuts fall between characters, and so on every
part that does not begin with white space; white space in front moves the cuts, and then it depends
on the sizes of the characters.

## Main definitions

* `Filter.Answers` : a reader answers on the text of a filter.
* `Directive.IsAligned` : a text in which the cuts fall between characters.
* `Directive.Gives` : a reading that does not crash and has a property at its end.

## Main results

* `Filter.exists_choose_eq_ok` : a reader that answers leads to a filter.
* `Filter.cases_of_choose`, `Filter.ofText_of_choose_eq_error` : what a text does to the filter.
* `Directive.Language.gives_step`, `Directive.Language.gives_run` : reading one more character, and
  all of them, does not crash where the cuts fall between characters.
* `Filter.answers_of_isAligned` : the reader for the texts of directives answers where its cuts fall
  between characters.
* `Filter.answers_of_heads`, `Filter.answers_of_ascii` : so it does where no part begins with white
  space, and where every character has one byte.
-/

namespace SumGreeting

namespace Filter

variable {reader : Directive.Reader} {text : String} {filter : Filter} {fault : Directive.Fault}
  {crash : Crash}

/-! ### The filter for a text on which a reader answers -/

/-- The reader answers on the text of a filter, if there is one: it reads directives off the text or
finds a fault in it, and does not crash.  This is what the documentation of a reader promises for
every text. -/
def Answers (reader : Directive.Reader) (text : Option String) : Prop :=
  ∀ t ∈ text, ∀ crash, ofText reader t ≠ .error (.crash crash)

theorem answers_none (reader : Directive.Reader) : Answers reader none := by
  intro t ht
  cases ht

theorem choose_none (reader : Directive.Reader) (verbosity : Nat) :
    choose reader none verbosity = .ok (ofThreshold (.ofVerbosity verbosity), none) := rfl

/-- A text that denotes a filter is followed, whatever the verbosity. -/
theorem choose_of_ofText (h : ofText reader text = .ok filter) (verbosity : Nat) :
    choose reader (some text) verbosity = .ok (filter, none) := by
  simp only [choose, h]

/-- A text with a fault leaves the filter as it is without a text. -/
theorem choose_of_fault (h : ofText reader text = .error (.fault fault)) (verbosity : Nat) :
    choose reader (some text) verbosity =
      .ok (ofThreshold (.ofVerbosity verbosity), some ⟨text, fault, .ofVerbosity verbosity⟩) := by
  simp only [choose, h]

/-- A text at which the reader crashes gives no filter. -/
theorem choose_of_crash (h : ofText reader text = .error (.crash crash)) (verbosity : Nat) :
    choose reader (some text) verbosity = .error crash := by
  simp only [choose, h]

/-- A reader that answers leads to a filter. -/
theorem exists_choose_eq_ok {text : Option String} (h : Answers reader text) (verbosity : Nat) :
    ∃ filter rejection, choose reader text verbosity = .ok (filter, rejection) := by
  cases text with
  | none => exact ⟨_, _, choose_none reader verbosity⟩
  | some text =>
    cases htext : ofText reader text with
    | ok filter => exact ⟨_, _, choose_of_ofText htext verbosity⟩
    | error refusal =>
      cases refusal with
      | fault fault => exact ⟨_, _, choose_of_fault htext verbosity⟩
      | crash crash => exact absurd htext (h text rfl crash)

/-- A text that leads to a filter denotes it, or has a fault. -/
theorem cases_of_choose {rejection : Option Rejection} {verbosity : Nat}
    (h : choose reader (some text) verbosity = .ok (filter, rejection)) :
    (ofText reader text = .ok filter ∧ rejection = none) ∨
      ∃ fault, ofText reader text = .error (.fault fault) ∧
        filter = ofThreshold (.ofVerbosity verbosity) ∧
        rejection = some ⟨text, fault, .ofVerbosity verbosity⟩ := by
  cases htext : ofText reader text with
  | ok filter' =>
    cases (choose_of_ofText htext verbosity).symm.trans h
    exact Or.inl ⟨rfl, rfl⟩
  | error refusal => cases refusal with
    | fault fault =>
      cases (choose_of_fault htext verbosity).symm.trans h
      exact Or.inr ⟨fault, rfl, rfl, rfl⟩
    | crash crash => cases (choose_of_crash htext verbosity).symm.trans h

/-- Where there is no filter, there is a text at which the reader crashes. -/
theorem ofText_of_choose_eq_error {text : Option String} {verbosity : Nat}
    (h : choose reader text verbosity = .error crash) :
    ∃ t, text = some t ∧ ofText reader t = .error (.crash crash) := by
  cases text with
  | none => cases h
  | some t =>
    cases htext : ofText reader t with
    | ok filter => cases (choose_of_ofText htext verbosity).symm.trans h
    | error refusal => cases refusal with
      | fault fault => cases (choose_of_fault htext verbosity).symm.trans h
      | crash crash' =>
        cases (choose_of_crash htext verbosity).symm.trans h
        exact ⟨t, rfl, htext⟩

end Filter

/-! ### Cuts that fall between characters -/

namespace Directive

variable {text s : List Char}

/-- Where a beginning of the trimmed text ends, a beginning of the text ends too. -/
def IsAligned (text : List Char) : Prop :=
  ∀ s, s <+: trim text → IsBoundary text (byteSize s)

theorem trim_prefix_trimStart (text : List Char) : trim text <+: trimStart text := by
  rw [trim, trimEnd, ← List.reverse_suffix, List.reverse_reverse]
  exact List.dropWhile_suffix _

/-- Without white space in front, the trimmed text is a beginning of the text. -/
theorem isAligned_of_head (h : ∀ c ∈ text.head?, isWhiteSpace c = false) : IsAligned text := by
  have hstart : trimStart text = text := by
    cases text with
    | nil => rfl
    | cons c rest => rw [trimStart, List.dropWhile_cons_of_neg (Bool.eq_false_iff.1 (h c rfl))]
  intro s hs
  refine ⟨s, ?_, rfl⟩
  have htrim := trim_prefix_trimStart text
  rw [hstart] at htrim
  exact hs.trans htrim

theorem byteSize_eq_length (h : ∀ c ∈ text, c.utf8Size = 1) : byteSize text = text.length := by
  induction text with
  | nil => rfl
  | cons c rest ih =>
    obtain ⟨hc, hrest⟩ := List.forall_mem_cons.1 h
    rw [byteSize, hc, ih hrest, List.length_cons, Nat.add_comm]

/-- Where all characters have one byte, every offset is good. -/
theorem isAligned_of_ascii (h : ∀ c ∈ text, c.utf8Size = 1) : IsAligned text := by
  intro s hs
  have hsub : s.Sublist text :=
    (hs.trans (trim_prefix_trimStart text)).sublist.trans (List.dropWhile_sublist _)
  refine ⟨text.take s.length, List.take_prefix _ _, ?_⟩
  rw [byteSize_eq_length fun c hc => h c (List.mem_of_mem_take hc),
    byteSize_eq_length fun c hc => h c (hsub.subset hc), List.length_take]
  exact Nat.min_eq_left hsub.length_le

/-! ### Readings that do not crash -/

/-- The reading does not crash, and what it gives has the property. -/
def Gives {α : Type} (P : α → Prop) : Except Refusal α → Prop
  | .ok a => P a
  | .error (.fault _) => True
  | .error (.crash _) => False

theorem gives_ok {α : Type} {P : α → Prop} {a : α} (h : P a) : Gives P (.ok a) := h

theorem gives_fault {α : Type} (P : α → Prop) (fault : Fault) : Gives P (.error (.fault fault)) :=
  trivial

theorem Gives.bind {α β : Type} {P : α → Prop} {Q : β → Prop} {result : Except Refusal α}
    {next : α → Except Refusal β} (h : Gives P result) (hnext : ∀ a, P a → Gives Q (next a)) :
    Gives Q (result >>= next) := by
  cases result with
  | ok a => exact hnext a h
  | error refusal => cases refusal with
    | fault fault => trivial
    | crash crash => exact h.elim

/-- The offset that a part remembers. -/
def Part.first? : Part → Option Nat
  | thresholdOrTarget first | span first | field first | threshold first => some first
  | start | afterField | afterSpan => none

/-- What the reading remembers is a good offset of what was read. -/
def Reading.Within (reading : Reading) (s : List Char) : Prop :=
  ∀ first ∈ reading.part.first?, IsBoundary s first

/-- A part that remembers nothing is within everything. -/
theorem Reading.within_of_first?_eq_none {reading : Reading} (h : reading.part.first? = none)
    (s : List Char) : reading.Within s := by
  intro first hfirst
  rw [h] at hfirst
  cases hfirst

/-- A part that remembers the end of what was read. -/
theorem Reading.within_of_first?_eq_some {reading : Reading} {first : Nat}
    (h : reading.part.first? = some first) (hfirst : IsBoundary s first) : reading.Within s := by
  intro first' hfirst'
  rw [h] at hfirst'
  cases hfirst'
  exact hfirst

namespace Language

variable (language : Language)

/-- A cut that begins at an offset of what was read and ends behind what was read is made. -/
theorem gives_slice {first last : Nat} (haligned : IsAligned text) (hs : s <+: trim text)
    (hfirst : IsBoundary s first) (hlast : IsBoundary text last) (h : byteSize s ≤ last) :
    Gives (fun _ => True) (language.slice text first last) := by
  have hle : first ≤ last := Nat.le_trans hfirst.le_byteSize h
  obtain ⟨beginning, hbeginning, rfl⟩ := hfirst
  have hboundary := haligned beginning (hbeginning.trans hs)
  obtain ⟨part, hpart⟩ := exists_cut?_eq_some hboundary hlast hle
  rw [slice, hpart]
  trivial

/-- One more character is read without a crash, and what is remembered then is a good offset of what
was read. -/
theorem gives_step {reading : Reading} {c : Char} (haligned : IsAligned text)
    (hs : s ++ [c] <+: trim text) (h : reading.Within s) :
    Gives (fun next => next.Within (s ++ [c])) (language.step text reading (byteSize s) c) := by
  have hbefore : s <+: trim text := (List.prefix_append s [c]).trans hs
  have hkeep {first : Nat} (hfirst : IsBoundary s first) : IsBoundary (s ++ [c]) first :=
    hfirst.of_prefix (List.prefix_append s [c])
  have hslice {first : Nat} (hfirst : IsBoundary s first) :
      Gives (fun _ => True) (language.slice text first (byteSize s)) :=
    gives_slice language haligned hbefore hfirst (haligned s hbefore) (Nat.le_refl _)
  have hnext {reading : Reading} (hsize : c.utf8Size = 1)
      (hreading : reading.part.first? = some (byteSize s + 1)) : reading.Within (s ++ [c]) := by
    refine Reading.within_of_first?_eq_some hreading ?_
    have hboundary := isBoundary_byteSize (s ++ [c])
    rwa [byteSize_append, byteSize, byteSize, hsize] at hboundary
  obtain ⟨part, read⟩ := reading
  unfold step
  cases part with
  | start =>
    dsimp only
    split_ifs with hbracket hinitial
    · exact gives_ok (hnext (by rw [hbracket]; rfl) rfl)
    · exact gives_ok (Reading.within_of_first?_eq_some rfl (isBoundary_append s [c]))
    · exact gives_fault _ _
  | thresholdOrTarget first =>
    dsimp only
    split_ifs with hend hequals
    · exact (hslice (h first rfl)).bind fun _ _ => gives_ok (hnext (by rw [hequals]; rfl) rfl)
    · have hbracket : c = '[' := hend.resolve_left hequals
      exact (hslice (h first rfl)).bind fun _ _ => gives_ok (hnext (by rw [hbracket]; rfl) rfl)
    · exact gives_ok (Reading.within_of_first?_eq_some rfl (hkeep (h first rfl)))
  | span first =>
    dsimp only
    split_ifs with hbracket hbrace
    · exact (hslice (h first rfl)).bind fun _ _ =>
        gives_ok (Reading.within_of_first?_eq_none rfl _)
    · exact (hslice (h first rfl)).bind fun _ _ => gives_ok (hnext (by rw [hbrace]; rfl) rfl)
    · exact gives_ok (Reading.within_of_first?_eq_some rfl (hkeep (h first rfl)))
  | field first =>
    dsimp only
    split_ifs with hbrace
    · refine (hslice (h first rfl)).bind fun text _ => ?_
      split_ifs
      · exact gives_fault _ _
      · cases Field.ofText language.patterns text with
        | ok field => exact gives_ok (Reading.within_of_first?_eq_none rfl _)
        | error reason => exact gives_fault _ _
    · exact gives_ok (Reading.within_of_first?_eq_some rfl (hkeep (h first rfl)))
  | afterField =>
    dsimp only
    split_ifs
    · exact gives_ok (Reading.within_of_first?_eq_none rfl _)
    · exact gives_fault _ _
  | afterSpan =>
    dsimp only
    split_ifs with hequals
    · exact gives_ok (hnext (by rw [hequals]; rfl) rfl)
    · exact gives_fault _ _
  | threshold first =>
    exact gives_ok (Reading.within_of_first?_eq_some rfl (hkeep (h first rfl)))

/-- The end of the text is read without a crash. -/
theorem gives_finish {reading : Reading} (haligned : IsAligned text)
    (h : reading.Within (trim text)) : Gives (fun _ => True) (language.finish text reading) := by
  have hsize : byteSize (trim text) ≤ byteSize text := (haligned _ (List.prefix_refl _)).le_byteSize
  have hslice {first : Nat} (hfirst : IsBoundary (trim text) first) :
      Gives (fun _ => True) (language.slice text first (byteSize text)) :=
    gives_slice language haligned (List.prefix_refl _) hfirst (isBoundary_byteSize text) hsize
  obtain ⟨part, read⟩ := reading
  unfold finish
  cases part with
  | start | span _ | field _ | afterField => exact gives_fault _ _
  | afterSpan => trivial
  | thresholdOrTarget first =>
    refine (hslice (h first rfl)).bind fun rest _ => ?_
    split_ifs
    · trivial
    · cases Threshold.ofText? rest <;> trivial
  | threshold first =>
    refine (hslice (h first rfl)).bind fun rest _ => ?_
    split_ifs
    · trivial
    · cases Threshold.ofText? rest <;> trivial

theorem gives_run {reading : Reading} {rest : List Char} (haligned : IsAligned text)
    (hs : s ++ rest = trim text) (h : reading.Within s) :
    Gives (fun _ => True) (language.run text reading (byteSize s) rest) := by
  induction rest generalizing s reading with
  | nil =>
    rw [List.append_nil] at hs
    rw [hs] at h
    exact gives_finish language haligned h
  | cons c rest ih =>
    have hread : s ++ [c] ++ rest = trim text := by
      rw [List.append_assoc, List.singleton_append, hs]
    refine (gives_step language haligned ⟨rest, hread⟩ h).bind fun next hnext => ?_
    have hrun := ih hread hnext
    rwa [byteSize_append] at hrun

/-- **A directive whose cuts fall between characters is read without a crash.** -/
theorem gives_read (haligned : IsAligned text) : Gives (fun _ => True) (language.read text) :=
  gives_run language haligned (List.nil_append _) (Reading.within_of_first?_eq_none rfl [])

/-- White space of two bytes in front of a name of one moves the cut behind the name into the white
space. -/
example : language.read "\u00a0a=info".toList =
    .error (.crash ⟨language.cutReport "\u00a0a=info" 0 1⟩) := by
  rfl

end Language

end Directive

/-! ### Texts on which the reader of directives answers -/

namespace Filter

open Directive (Gives IsAligned Language)

variable {reader : Directive.Reader} {text : String} (language : Language)

/-- A reader that answers on each part of a text answers on the text. -/
theorem answers_of_parts (h : ∀ part ∈ parts text, Gives (fun _ => True) (reader part)) :
    Answers reader (some text) := by
  intro text' htext crash hcrash
  obtain rfl : text = text' := Option.some.inj htext
  obtain ⟨before, part, after, hparts, -, hpart⟩ := exists_first_of_ofText_eq_error hcrash
  have hgives := h part (by rw [hparts]; simp)
  rw [hpart] at hgives
  exact hgives

/-- **The reader for the texts of directives answers where its cuts fall between characters.** -/
theorem answers_of_isAligned (h : ∀ part ∈ parts text, IsAligned part) :
    Answers language.read (some text) :=
  answers_of_parts fun part hpart => language.gives_read (h part hpart)

/-- It answers where no part begins with white space. -/
theorem answers_of_heads
    (h : (directiveTexts text).all (fun part => !part.head?.any isWhiteSpace) = true) :
    Answers language.read (some text) := by
  refine answers_of_isAligned language fun part hpart => Directive.isAligned_of_head ?_
  rw [← directiveTexts_eq_parts] at hpart
  have hhead := List.all_eq_true.1 h part hpart
  intro c hc
  rw [hc] at hhead
  simpa using hhead

/-- It answers where every character has one byte. -/
theorem answers_of_ascii (h : ∀ c ∈ text.toList, c.utf8Size = 1) :
    Answers language.read (some text) := by
  refine answers_of_isAligned language fun part hpart => Directive.isAligned_of_ascii fun c hc => ?_
  rw [← directiveTexts_eq_parts] at hpart
  exact h c (mem_of_mem_commaParts (List.mem_filter.1 hpart).1 hc)

end Filter

end SumGreeting
