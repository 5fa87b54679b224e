import SumGreeting.Log.Filter

/-!
# The highest threshold of a filter

A filter decides on an event by one of its directives, and what this one allows is within the
highest threshold that any of them can lead to.  The highest threshold also counts directives that
decide on nothing, so it is a bound and no more.

## Main results

* `Directive.rank_threshold_le_ceiling` : what a directive allows is within what it can lead to.
* `Filter.rank_maxThreshold_le_iff` : the highest threshold is the least bound of what the
  directives can lead to.
* `Filter.exists_maxThreshold_eq` : one of the directives can lead to it.
* `Directive.mem_of_decisive` : the directive that decides on an event is one of the filter.
* `Filter.rank_le_of_permits` : what a filter lets through is within its highest threshold.
-/

namespace SumGreeting

/-! ### Thresholds by their rank -/

theorem Threshold.rank_injective {s t : Threshold} (h : s.rank = t.rank) : s = t := by
  have hsame : some s = some t := by rw [← ofRank?_rank s, h, ofRank?_rank t]
  exact Option.some.inj hsame

theorem Threshold.rank_max_le_iff {s t : Threshold} {bound : Nat} :
    (s.max t).rank ≤ bound ↔ s.rank ≤ bound ∧ t.rank ≤ bound := by
  rw [rank_max]
  exact Nat.max_le

namespace Directive

/-! ### What a directive can lead to -/

/-- What a directive allows is within what it can lead to. -/
theorem rank_threshold_le_ceiling (directive : Directive) :
    directive.threshold.rank ≤ directive.ceiling.rank := by
  rw [ceiling]
  split
  · cases directive.threshold <;> decide
  · exact Nat.le_refl _

/-- A directive that asks for no value leads to nothing above its threshold. -/
theorem ceiling_of_not_asksForValue {directive : Directive}
    (h : directive.asksForValue = false) : directive.ceiling = directive.threshold := by
  rw [ceiling, h]
  rfl

/-! ### The directive that decides -/

/-- The better one of two directives is one of the two. -/
theorem eq_or_eq_of_prefer {best : Option Directive} {directive better : Directive}
    (h : prefer best directive = some better) : best = some better ∨ directive = better := by
  cases best with
  | none => exact Or.inr (Option.some.inj h)
  | some d =>
    simp only [prefer] at h
    split at h
    · exact Or.inr (Option.some.inj h)
    · exact Or.inl h

theorem mem_of_foldl_prefer {directives : List Directive} {best : Option Directive}
    {better : Directive} (h : directives.foldl prefer best = some better) :
    best = some better ∨ better ∈ directives := by
  induction directives generalizing best with
  | nil => exact Or.inl h
  | cons directive rest ih =>
    rcases ih h with hprefer | hmem
    · rcases eq_or_eq_of_prefer hprefer with hbest | rfl
      · exact Or.inl hbest
      · exact Or.inr List.mem_cons_self
    · exact Or.inr (List.mem_cons_of_mem _ hmem)

/-- The directive that decides on an event is one of the list, and is for the event. -/
theorem mem_of_decisive {directives : List Directive} {target : String} {names : List String}
    {directive : Directive} (h : decisive directives target names = some directive) :
    directive ∈ directives ∧ directive.covers target names = true := by
  rcases mem_of_foldl_prefer h with hnone | hmem
  · cases hnone
  · exact List.mem_filter.1 hmem

end Directive

/-! ### The highest threshold -/

namespace Filter

variable {filter : Filter} {directive : Directive} {bound : Nat}

theorem rank_foldl_max_le_iff {thresholds : List Threshold} {start : Threshold} :
    (thresholds.foldl Threshold.max start).rank ≤ bound ↔
      start.rank ≤ bound ∧ ∀ threshold ∈ thresholds, threshold.rank ≤ bound := by
  induction thresholds generalizing start with
  | nil => simp
  | cons threshold rest ih =>
    rw [List.foldl_cons, ih, Threshold.rank_max_le_iff, List.forall_mem_cons, and_assoc]

/-- The highest threshold is within a bound exactly if all that the directives can lead to is. -/
theorem rank_maxThreshold_le_iff :
    filter.maxThreshold.rank ≤ bound ↔
      ∀ directive ∈ filter.directives, directive.ceiling.rank ≤ bound := by
  rw [maxThreshold, rank_foldl_max_le_iff, List.forall_mem_map]
  exact and_iff_right (Nat.zero_le bound)

theorem rank_le_maxThreshold (h : directive ∈ filter.directives) :
    directive.ceiling.rank ≤ filter.maxThreshold.rank :=
  rank_maxThreshold_le_iff.1 (Nat.le_refl _) directive h

theorem foldl_max_eq_or_mem (thresholds : List Threshold) (start : Threshold) :
    thresholds.foldl Threshold.max start = start ∨
      thresholds.foldl Threshold.max start ∈ thresholds := by
  induction thresholds generalizing start with
  | nil => exact Or.inl rfl
  | cons threshold rest ih =>
    rw [List.foldl_cons]
    rcases ih (start.max threshold) with hsame | hmem
    · rw [hsame, Threshold.max]
      split
      · exact Or.inr List.mem_cons_self
      · exact Or.inl rfl
    · exact Or.inr (List.mem_cons_of_mem _ hmem)

/-- One of the directives can lead to the highest threshold, unless there is no directive. -/
theorem exists_maxThreshold_eq (filter : Filter) :
    filter.directives = [] ∧ filter.maxThreshold = .off ∨
      ∃ directive ∈ filter.directives, directive.ceiling = filter.maxThreshold := by
  obtain ⟨directives⟩ := filter
  cases directives with
  | nil => exact Or.inl ⟨rfl, rfl⟩
  | cons first rest =>
    refine Or.inr ?_
    rcases foldl_max_eq_or_mem ((first :: rest).map Directive.ceiling) .off with hoff | hmem
    · -- Where nothing can be allowed at all, this holds for the first directive too.
      have hfirst : first.ceiling.rank ≤ (Filter.maxThreshold ⟨first :: rest⟩).rank :=
        rank_le_maxThreshold List.mem_cons_self
      have hmax : Filter.maxThreshold ⟨first :: rest⟩ = .off := hoff
      rw [hmax] at hfirst
      refine ⟨first, List.mem_cons_self, ?_⟩
      rw [hmax]
      exact Threshold.rank_injective (Nat.le_antisymm hfirst (Nat.zero_le _))
    · obtain ⟨directive, hdirective, hceiling⟩ := List.mem_map.1 hmem
      exact ⟨directive, hdirective, hceiling⟩

/-- **The highest threshold is a bound.** A filter lets no event through whose severity is beyond
it. -/
theorem rank_le_of_permits {severity : Severity} {target : String} {names : List String}
    (h : filter.permits severity target names = true) :
    severity.rank ≤ filter.maxThreshold.rank := by
  unfold permits at h
  split at h
  · cases h
  · rename_i directive hdecisive
    have hallows : severity.rank ≤ directive.threshold.rank := of_decide_eq_true h
    calc severity.rank ≤ directive.threshold.rank := hallows
      _ ≤ directive.ceiling.rank := directive.rank_threshold_le_ceiling
      _ ≤ filter.maxThreshold.rank :=
        rank_le_maxThreshold (Directive.mem_of_decisive hdecisive).1

end Filter

end SumGreeting
