import SumGreeting.Proofs.ErrorStream.Contents

/-!
# Texts of filters are followed as a whole or not at all

A text is accepted as a filter if each of its parts denotes a directive.  Then the verbosity does
not matter and nothing is written.  A text that has a fault is rejected, and none of its parts has
any effect: the filter is the one that there is without a text.  The warning about this names the
first part that is wrong and quotes the text, so that the text can be read off the warning, and
stays on one line whatever the text.  A text at which the reader crashes is neither accepted nor
rejected, and leads to no filter.

## Main results

* `Program.eq_of_warningRecord_eq` : the text is read off the warning.
* `Filter.accepts_or_rejects` : a text is accepted or rejected where the reader answers.
* `Filter.choose_all_or_nothing` : what a text does to the filter and to the error stream.
-/

namespace SumGreeting

/-- The text is read off the warning. -/
theorem Program.eq_of_warningRecord_eq {text text' : String} {fault fault' : Directive.Fault}
    {verbosity verbosity' : Nat}
    (h : warningRecord text fault verbosity = warningRecord text' fault' verbosity') :
    text = text' := by
  unfold warningRecord at h
  simp only [String.append_assoc, String.append_right_inj] at h
  exact (Quoted.quote_append_inj h).1

namespace Filter

variable {reader : Directive.Reader} {text : String}

/-- A text is accepted or rejected where the reader answers. -/
theorem accepts_or_rejects (h : Answers reader (some text)) :
    Accepts reader text ∨ Rejects reader text := by
  cases htext : ofText reader text with
  | ok filter => exact Or.inl ⟨filter, htext⟩
  | error refusal => cases refusal with
    | fault fault => exact Or.inr ⟨fault, htext⟩
    | crash crash => exact absurd htext (h text rfl crash)

/-- The text is read off what is written about it. -/
theorem eq_of_rejectionText_eq {text' : String} {fault : Directive.Fault} {filter : Filter}
    {rejection : Option Rejection} {verbosity verbosity' : Nat} (h : Rejects reader text')
    (hchoose : choose reader (some text') verbosity' = .ok (filter, rejection))
    (hsame : rejectionText false rejection = Program.warningRecord text fault verbosity) :
    text' = text := by
  obtain ⟨fault', hfault'⟩ := h
  rw [choose_of_fault hfault'] at hchoose
  cases hchoose
  rw [Program.rejectionText_some, if_neg Bool.false_ne_true] at hsame
  exact Program.eq_of_warningRecord_eq hsame

/-- **A text of a filter is followed as a whole or not at all.** It is accepted exactly if each of
its parts between commas, empty ones apart, denotes a directive.  Then the filter is the one that it
denotes, for every verbosity, and nothing is written.  A text that is rejected leads to the filter
that there is without a text, and a warning is written unless notices are suppressed.  The warning
is one line; it names the text, what is wrong with the first bad part, and the threshold that is
used instead; and no other text that is rejected has the same warning.  A text is accepted or
rejected where the reader answers; where the reader crashes there is no filter. -/
theorem choose_all_or_nothing (reader : Directive.Reader) (text : String) (verbosity : Nat)
    (quiet : Bool) :
    (Accepts reader text ↔ ∀ part ∈ parts text, ∃ directive, reader part = .ok directive) ∧
    (Answers reader (some text) → Accepts reader text ∨ Rejects reader text) ∧
    (Accepts reader text → ∃ filter rejection, ofText reader text = .ok filter ∧
      (∀ verbosity', choose reader (some text) verbosity' = .ok (filter, rejection)) ∧
      rejectionText quiet rejection = "") ∧
    (Rejects reader text → ∃ filter rejection,
      choose reader (some text) verbosity = .ok (filter, rejection) ∧
      choose reader none verbosity = .ok (filter, none) ∧
      let written := rejectionText quiet rejection
      (quiet = true → written = "") ∧
      (quiet = false →
        (∃ before part after fault, parts text = before ++ part :: after ∧
          (∀ p ∈ before, ∃ directive, reader p = .ok directive) ∧
          reader part = .error (.fault fault) ∧
          written = "warning: ignoring invalid HELLO_SUM_LOG=" ++ Quoted.quote text ++ " (" ++
            fault.message ++ "), using level '" ++ (Threshold.ofVerbosity verbosity).word ++
            "'\n") ∧
        (∃ line, written = line ++ "\n" ∧ IsOneLine line) ∧
        ∀ text' verbosity' filter' rejection', Rejects reader text' →
          choose reader (some text') verbosity' = .ok (filter', rejection') →
          rejectionText false rejection' = written → text' = text)) ∧
    (∀ crash, ofText reader text = .error (.crash crash) →
      choose reader (some text) verbosity = .error crash) := by
  refine ⟨accepts_iff, accepts_or_rejects, ?_, ?_, fun crash h => choose_of_crash h verbosity⟩
  · rintro ⟨filter, hfilter⟩
    exact ⟨filter, none, hfilter, choose_of_ofText hfilter, rfl⟩
  · rintro ⟨fault, hfault⟩
    obtain ⟨before, part, after, hparts, hbefore, hpart⟩ := exists_first_of_ofText_eq_error hfault
    refine ⟨_, _, choose_of_fault hfault verbosity, choose_none reader verbosity, ?_⟩
    intro written
    have hwritten : written = if quiet then "" else Program.warningRecord text fault verbosity :=
      Program.rejectionText_some quiet text fault verbosity
    refine ⟨fun hquiet => ?_, fun hloud => ?_⟩
    · rw [hwritten, if_pos hquiet]
    · rw [hloud, if_neg Bool.false_ne_true] at hwritten
      refine ⟨⟨before, part, after, fault, hparts, hbefore, hpart, hwritten⟩, ?_, ?_⟩
      · rw [hwritten, Program.warningRecord_eq]
        exact ⟨_, rfl, Rejection.isOneLine_warning _⟩
      · intro text' verbosity' filter' rejection' hrejects hchoose hsame
        exact eq_of_rejectionText_eq hrejects hchoose (hsame.trans hwritten)

end Filter

end SumGreeting
