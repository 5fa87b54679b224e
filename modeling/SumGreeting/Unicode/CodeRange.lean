/-!
# Code point ranges

A property of characters is given by the ranges of code points that have it, written in ascending
order.  The look-up stops at the first range beyond the code point, so a character near the
beginning of the code space is settled by the first few ranges of any table.

## Main definitions

* `CodeRange.Ascending` : ranges that are in order and do not meet.
* `CodeRange.Table` : a table of such ranges.
* `CodeRange.Table.contains` : whether a code point lies in one of the ranges of a table.

## Main results

* `CodeRange.Table.contains_iff` : the look-up in a table finds the ranges themselves.
-/

namespace SumGreeting.CodeRange

/-- Each range ends before the next one begins, and none is empty. -/
def Ascending : List (Nat × Nat) → Prop
  | [] => True
  | [r] => r.1 ≤ r.2
  | r :: s :: rest => r.1 ≤ r.2 ∧ r.2 < s.1 ∧ Ascending (s :: rest)

/-- Comparing the ends of neighbouring ranges decides whether they are in order. -/
instance decidableAscending : (ranges : List (Nat × Nat)) → Decidable (Ascending ranges)
  | [] => .isTrue trivial
  | [r] => inferInstanceAs (Decidable (r.1 ≤ r.2))
  | r :: s :: rest =>
    have := decidableAscending (s :: rest)
    inferInstanceAs (Decidable (r.1 ≤ r.2 ∧ r.2 < s.1 ∧ Ascending (s :: rest)))

theorem Ascending.tail {r : Nat × Nat} {rest : List (Nat × Nat)}
    (h : Ascending (r :: rest)) : Ascending rest := by
  cases rest with
  | nil => exact trivial
  | cons s rest => exact h.2.2

/-- The ranges after the first one lie above it. -/
theorem Ascending.lt_of_mem {r : Nat × Nat} {rest : List (Nat × Nat)}
    (h : Ascending (r :: rest)) {s : Nat × Nat} (hs : s ∈ rest) : r.1 < s.1 := by
  induction rest generalizing r with
  | nil => simp at hs
  | cons t rest ih =>
    have ⟨hr, hrt, ht⟩ := h
    rcases List.mem_cons.1 hs with rfl | hs
    · exact Nat.lt_of_le_of_lt hr hrt
    · exact Nat.lt_trans (Nat.lt_of_le_of_lt hr hrt) (ih ht hs)

/-- Looks the code point `n` up in ascending ranges. -/
def lookup (n : Nat) : List (Nat × Nat) → Bool
  | [] => false
  | (first, last) :: rest => if n < first then false else n ≤ last || lookup n rest

theorem lookup_iff {n : Nat} {ranges : List (Nat × Nat)} (h : Ascending ranges) :
    lookup n ranges = true ↔ ∃ r ∈ ranges, r.1 ≤ n ∧ n ≤ r.2 := by
  induction ranges with
  | nil => simp [lookup]
  | cons r rest ih =>
    obtain ⟨first, last⟩ := r
    by_cases hn : n < first
    · have hrest : ¬ ∃ s ∈ rest, s.1 ≤ n ∧ n ≤ s.2 := by
        rintro ⟨s, hs, hle, _⟩
        have := h.lt_of_mem hs
        simp only at this
        omega
      simp only [lookup, hn, if_true, Bool.false_eq_true, false_iff]
      rintro ⟨s, hs, hle, hge⟩
      rcases List.mem_cons.1 hs with rfl | hs
      · simp only at hle
        omega
      · exact hrest ⟨s, hs, hle, hge⟩
    · simp only [lookup, hn, if_false, Bool.or_eq_true, decide_eq_true_eq, ih h.tail,
        List.mem_cons, exists_eq_or_imp]
      constructor
      · rintro (hle | hrest)
        · exact .inl ⟨by omega, hle⟩
        · exact .inr hrest
      · rintro (⟨_, hle⟩ | hrest)
        · exact .inl hle
        · exact .inr hrest

/-- A table of ranges of code points. -/
structure Table where
  /-- The ranges. -/
  ranges : List (Nat × Nat)
  /-- They are in order, which the look-up relies on. -/
  ascending : Ascending ranges

namespace Table

/-- Whether the code point lies in one of the ranges of the table. -/
def contains (table : Table) (n : Nat) : Bool :=
  lookup n table.ranges

theorem contains_iff {table : Table} {n : Nat} :
    table.contains n = true ↔ ∃ r ∈ table.ranges, r.1 ≤ n ∧ n ≤ r.2 :=
  lookup_iff table.ascending

end Table

end SumGreeting.CodeRange
