import SumGreeting.Proofs.Filter.AllOrNothing
import SumGreeting.Session

/-!
# What the highest threshold says about the log

The highest threshold of a filter is told without looking at any event, and nothing beyond it is
logged.  The order of the parts of a text does not matter to it, and a further part cannot lower it,
although either can change what is let through below it.  Where there is no text, the threshold
grows with the verbosity, and so does the log of a run.

## Main results

* `Filter.mem_directives_iff` : the directives of a filter are those of the parts of its text.
* `Filter.rank_maxThreshold_le_of_subset` : more parts do not lower the highest threshold.
* `Filter.enables_of_le_verbosity` : a higher verbosity lets through what a lower one does.
* `Filter.maxThreshold_bounds_log` : the highest threshold and the log of a run.
-/

namespace SumGreeting.Filter

variable {reader : Directive.Reader} {text text' more : String} {filter filter' : Filter}
  {directive : Directive}

/-! ### The highest threshold of a text -/

theorem mem_of_readAll {texts : List (List Char)} {directives : List Directive}
    (h : readAll reader texts = .ok directives) :
    directive ∈ directives ↔ ∃ text ∈ texts, reader text = .ok directive := by
  induction texts generalizing directives with
  | nil =>
    cases h
    simp
  | cons text texts ih =>
    rw [readAll] at h
    cases htext : reader text with
    | error refusal =>
      rw [htext] at h
      cases h
    | ok first =>
      rw [htext] at h
      cases hrest : readAll reader texts with
      | error refusal =>
        rw [hrest] at h
        cases h
      | ok rest =>
        rw [hrest] at h
        cases h
        rw [List.mem_cons, ih hrest, List.exists_mem_cons_iff, htext, Except.ok.injEq, eq_comm]

/-- The directives of a filter are the ones that the parts of its text denote. -/
theorem mem_directives_iff (h : ofText reader text = .ok filter) :
    directive ∈ filter.directives ↔ ∃ part ∈ parts text, reader part = .ok directive := by
  rw [ofText, directiveTexts_eq_parts] at h
  cases hread : readAll reader (parts text) with
  | error refusal =>
    rw [hread] at h
    cases h
  | ok directives =>
    rw [hread] at h
    cases h
    exact mem_of_readAll hread

/-- A text whose parts all stand in an accepted one is accepted, too. -/
theorem accepts_of_subset (hparts : parts text ⊆ parts text') (h : Accepts reader text') :
    Accepts reader text :=
  accepts_iff.2 fun part hpart => accepts_iff.1 h part (hparts hpart)

/-- More parts do not lower the highest threshold. -/
theorem rank_maxThreshold_le_of_subset (h : ofText reader text = .ok filter)
    (h' : ofText reader text' = .ok filter') (hparts : parts text ⊆ parts text') :
    filter.maxThreshold.rank ≤ filter'.maxThreshold.rank := by
  refine rank_maxThreshold_le_iff.2 fun directive hdirective => ?_
  obtain ⟨part, hpart, hread⟩ := (mem_directives_iff h).1 hdirective
  exact rank_le_maxThreshold ((mem_directives_iff h').2 ⟨part, hparts hpart, hread⟩)

/-! ### Other orders and further parts -/

theorem parts_perm (h : (text.toList.splitOn ',').Perm (text'.toList.splitOn ',')) :
    (parts text).Perm (parts text') :=
  h.filter _

theorem parts_append (text more : String) :
    parts (text ++ "," ++ more) = parts text ++ parts more := by
  have hchars : (text ++ "," ++ more).toList = text.toList ++ ',' :: more.toList := by
    simp
  rw [parts, hchars, List.splitOn_append_cons_self, List.filter_append]
  rfl

/-- The order of the parts does not matter to the highest threshold. -/
theorem maxThreshold_of_perm (h : ofText reader text = .ok filter)
    (hperm : (text.toList.splitOn ',').Perm (text'.toList.splitOn ',')) :
    ∃ filter', ofText reader text' = .ok filter' ∧ filter'.maxThreshold = filter.maxThreshold := by
  have hparts := parts_perm hperm
  obtain ⟨filter', h'⟩ := accepts_of_subset hparts.symm.subset ⟨filter, h⟩
  have hle := rank_maxThreshold_le_of_subset h' h hparts.symm.subset
  have hge := rank_maxThreshold_le_of_subset h h' hparts.subset
  exact ⟨filter', h', Threshold.rank_injective (Nat.le_antisymm hle hge)⟩

/-- A further text in the end does not lower the highest threshold. -/
theorem rank_maxThreshold_le_append (h : ofText reader text = .ok filter)
    (hmore : Accepts reader more) :
    ∃ filter', ofText reader (text ++ "," ++ more) = .ok filter' ∧
      filter.maxThreshold.rank ≤ filter'.maxThreshold.rank := by
  have haccepts : Accepts reader (text ++ "," ++ more) := by
    rw [accepts_iff, parts_append]
    exact List.forall_mem_append.2 ⟨accepts_iff.1 ⟨filter, h⟩, accepts_iff.1 hmore⟩
  obtain ⟨filter', h'⟩ := haccepts
  refine ⟨filter', h', rank_maxThreshold_le_of_subset h h' ?_⟩
  rw [parts_append]
  exact List.subset_append_left _ _

/-! ### More verbosity -/

/-- A higher verbosity lets through what a lower one does. -/
theorem enables_of_le_verbosity {verbosity verbosity' : Nat} (h : verbosity ≤ verbosity')
    {event : Event} (henables : (ofThreshold (.ofVerbosity verbosity)).enables event = true) :
    (ofThreshold (.ofVerbosity verbosity')).enables event = true := by
  rw [enables_ofThreshold, Threshold.allows, decide_eq_true_eq, Threshold.rank_ofVerbosity]
    at henables ⊢
  omega

/-- **The highest threshold bounds the log.** For every text and verbosity, accepted or not, what
the filter lets through is within its highest threshold, so that no run is logged where this one is
a warning or less.  For texts that are accepted, the highest threshold does not depend on the order
of the parts, and further parts do not lower it.  Without a text, a run with a higher verbosity logs
all records of the run with a lower one, in the same order, and is the same run in everything
else. -/
theorem maxThreshold_bounds_log (reader : Directive.Reader) :
    (∀ (text : Option String) (verbosity : Nat), Answers reader text →
      ∃ filter rejection, choose reader text verbosity = .ok (filter, rejection) ∧
        (∀ severity target names, filter.permits severity target names = true →
          severity.rank ≤ filter.maxThreshold.rank) ∧
        (filter.maxThreshold.rank ≤ Threshold.warn.rank →
          ∀ (settings : Settings) (sink : Sink), filter.log (settings.run sink).events = "")) ∧
    (∀ (text text' : String) (verbosity : Nat), Accepts reader text →
      (text.toList.splitOn ',').Perm (text'.toList.splitOn ',') →
      ∃ filter filter', choose reader (some text) verbosity = .ok (filter, none) ∧
        choose reader (some text') verbosity = .ok (filter', none) ∧
        Accepts reader text' ∧ filter'.maxThreshold = filter.maxThreshold) ∧
    (∀ (text more : String) (verbosity : Nat), Accepts reader text → Accepts reader more →
      ∃ filter filter', choose reader (some text) verbosity = .ok (filter, none) ∧
        choose reader (some (text ++ "," ++ more)) verbosity = .ok (filter', none) ∧
        Accepts reader (text ++ "," ++ more) ∧
        filter.maxThreshold.rank ≤ filter'.maxThreshold.rank) ∧
    (∀ (session : Session) (settings : Settings) (verbosity verbosity' : Nat),
      verbosity ≤ verbosity' →
      let run := settings.run session.sink
      let records (verbosity : Nat) :=
        (run.events.filter (ofThreshold (.ofVerbosity verbosity)).enables).map Event.line
      ∃ result added flushes next,
        session.step reader (.runLogged settings none verbosity) =
          (.runLogged result added flushes (String.join (records verbosity)) "", next) ∧
        session.step reader (.runLogged settings none verbosity') =
          (.runLogged result added flushes (String.join (records verbosity')) "", next) ∧
        (records verbosity).Sublist (records verbosity')) := by
  refine ⟨fun text verbosity hanswers => ?_, fun text text' verbosity haccepts hperm => ?_,
    fun text more verbosity haccepts hmore => ?_,
    fun session settings verbosity verbosity' hle => ?_⟩
  · obtain ⟨filter, rejection, hchoose⟩ := exists_choose_eq_ok hanswers verbosity
    refine ⟨filter, rejection, hchoose, fun severity target names => rank_le_of_permits,
      fun hwarn => ?_⟩
    exact log_run_eq_empty (Nat.lt_succ_of_le hwarn)
  · obtain ⟨filter, hfilter⟩ := haccepts
    obtain ⟨filter', hfilter', hsame⟩ := maxThreshold_of_perm hfilter hperm
    exact ⟨filter, filter', choose_of_ofText hfilter verbosity, choose_of_ofText hfilter' verbosity,
      ⟨filter', hfilter'⟩, hsame⟩
  · obtain ⟨filter, hfilter⟩ := haccepts
    obtain ⟨filter', hfilter', hrank⟩ := rank_maxThreshold_le_append hfilter hmore
    exact ⟨filter, filter', choose_of_ofText hfilter verbosity, choose_of_ofText hfilter' verbosity,
      ⟨filter', hfilter'⟩, hrank⟩
  · intro run records
    refine ⟨_, _, _, _, rfl, rfl, List.Sublist.map Event.line ?_⟩
    exact List.monotone_filter_right _ fun event => enables_of_le_verbosity hle

/-- A value that is asked for raises the highest threshold, although the directive decides on no
event; the threshold of the other directive is the one that counts. -/
example : (choose Directive.Language.lenient.read (some "error,[\x7bname=World\x7d]=info") 0).map
    (fun chosen => (chosen.1.maxThreshold, chosen.1.permits .warn "hello_sum" [])) =
      .ok (.trace, false) := by decide

end SumGreeting.Filter
