import SumGreeting.Failure

/-!
# Sums of two 32-bit integers

The sum of two 32-bit integers need not fit into 32 bits.  The wrapping sum is the 32-bit integer
congruent to it modulo 2³²; the exact sum exists only where the integers fit.

## Main definitions

* `wrappingSum` : the sum modulo 2³².
* `exactSum?` : the sum itself, if it is a 32-bit integer.
* `checkedSum` : the sum itself, or the failure that it does not fit.

## Main results

* `toInt_wrappingSum` : the wrapping sum is the balanced remainder of the sum.
* `exactSum?_eq_some_iff` : the exact sum has the value of the sum of the integers.
* `exactSum?_eq_none_iff` : it is missing exactly when the sum is out of range.
-/

namespace SumGreeting

/-- The 32-bit integer congruent to the sum modulo 2³². -/
def wrappingSum (a b : Int32) : Int32 := a + b

/-- The sum of the two integers, if it lies between `-2147483648` and `2147483647`. -/
def exactSum? (a b : Int32) : Option Int32 :=
  let sum := a.toInt + b.toInt
  if -2147483648 ≤ sum ∧ sum ≤ 2147483647 then some (Int32.ofInt sum) else none

/-- The sum of the two integers, or the failure that it is out of range. -/
def checkedSum (a b : Int32) : Except Failure Int32 :=
  match exactSum? a b with
  | some sum => .ok sum
  | none => .error (.overflow a b)

theorem toInt_wrappingSum (a b : Int32) :
    (wrappingSum a b).toInt = (a.toInt + b.toInt).bmod 4294967296 :=
  Int32.toInt_add a b

theorem exactSum?_eq_none_iff {a b : Int32} :
    exactSum? a b = none ↔ a.toInt + b.toInt < -2147483648 ∨ 2147483647 < a.toInt + b.toInt := by
  simp only [exactSum?]
  split <;> simp <;> omega

theorem exactSum?_eq_some_iff {a b s : Int32} :
    exactSum? a b = some s ↔ s.toInt = a.toInt + b.toInt := by
  simp only [exactSum?]
  split
  · rename_i h
    have hsum : (Int32.ofInt (a.toInt + b.toInt)).toInt = a.toInt + b.toInt :=
      Int32.toInt_ofInt_of_le h.1 (Int.lt_add_one_of_le h.2)
    rw [Option.some.injEq, ← Int32.toInt_inj, hsum, eq_comm]
  · rename_i h
    have hlow := s.le_toInt
    have hhigh := s.toInt_lt
    simp only [reduceCtorEq, false_iff]
    omega

/-- Where the exact sum exists, the wrapping sum is the same. -/
theorem wrappingSum_eq_of_exactSum? {a b s : Int32} (h : exactSum? a b = some s) :
    wrappingSum a b = s := by
  have hsum := exactSum?_eq_some_iff.1 h
  have hlow := s.le_toInt
  have hhigh := s.toInt_lt
  rw [← Int32.toInt_inj, toInt_wrappingSum, ← hsum]
  exact Int.bmod_eq_of_le (by omega) (by omega)

end SumGreeting
