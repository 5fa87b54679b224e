import Mathlib.Tactic.SplitIfs
import SumGreeting.CommandLine.Operand

/-!
# Numerals

An operand is written as a numeral: decimal digits, any number of them, with an optional sign in
front.  It is read exactly if the integer that it denotes is one of 32 bits, although the reading
gives up on the way as soon as the digits so far are beyond the 64-bit integers.

## Main definitions

* `IsDigits`, `IsNumeral` : decimal digits, and the integer that a numeral denotes.

## Main results

* `Operand.readDigits_eq_ok_iff` : reading digits under a limit.
* `Operand.read_eq_ok_iff` : a text is read as an operand exactly if it is a numeral for it.
-/

namespace SumGreeting.CommandLine

/-- At least one character, and all of them decimal digits. -/
def IsDigits (text : List Char) : Prop :=
  text ≠ [] ∧ ∀ c ∈ text, c.isDigit = true

/-- The text is a numeral for the integer: decimal digits with an optional sign in front. -/
inductive IsNumeral : List Char → Int → Prop
  /-- Digits alone. -/
  | unsigned {digits : List Char} (h : IsDigits digits) :
      IsNumeral digits (Nat.ofDigitChars 10 digits 0)
  /-- A plus sign and digits. -/
  | plus {digits : List Char} (h : IsDigits digits) :
      IsNumeral ('+' :: digits) (Nat.ofDigitChars 10 digits 0)
  /-- A minus sign and digits. -/
  | minus {digits : List Char} (h : IsDigits digits) :
      IsNumeral ('-' :: digits) (-(Nat.ofDigitChars 10 digits 0 : Int))

theorem not_isDigits_cons {c : Char} {rest : List Char} (h : c.isDigit = false) :
    ¬ IsDigits (c :: rest) := by
  intro hdigits
  have hc := hdigits.2 c List.mem_cons_self
  rw [h] at hc
  cases hc

theorem isNumeral_minus_iff {digits : List Char} {value : Int} :
    IsNumeral ('-' :: digits) value ↔
      IsDigits digits ∧ value = -(Nat.ofDigitChars 10 digits 0 : Int) := by
  constructor
  · rintro (h | h | h)
    · exact absurd h (not_isDigits_cons (by decide))
    · exact ⟨h, rfl⟩
  · rintro ⟨h, rfl⟩
    exact .minus h

theorem isNumeral_plus_iff {digits : List Char} {value : Int} :
    IsNumeral ('+' :: digits) value ↔ IsDigits digits ∧ value = Nat.ofDigitChars 10 digits 0 := by
  constructor
  · rintro (h | h | h)
    · exact absurd h (not_isDigits_cons (by decide))
    · exact ⟨h, rfl⟩
  · rintro ⟨h, rfl⟩
    exact .plus h

theorem isNumeral_iff_of_unsigned {text : List Char} {value : Int}
    (hminus : ∀ digits, text ≠ '-' :: digits) (hplus : ∀ digits, text ≠ '+' :: digits) :
    IsNumeral text value ↔ IsDigits text ∧ value = Nat.ofDigitChars 10 text 0 := by
  constructor
  · rintro (h | h | h)
    · exact ⟨h, rfl⟩
    · exact absurd rfl (hplus _)
    · exact absurd rfl (hminus _)
  · rintro ⟨h, rfl⟩
    exact .unsigned h

namespace Operand

/-! ### Digits -/

/-- A number does not get smaller by the digits that continue it. -/
theorem le_ofDigitChars (digits : List Char) (value : Nat) :
    value ≤ Nat.ofDigitChars 10 digits value := by
  induction digits generalizing value with
  | nil => simp
  | cons c rest ih =>
    rw [Nat.ofDigitChars_cons]
    have hrest := ih (10 * value + (c.toNat - '0'.toNat))
    omega

/-- Digits are read exactly if their number does not exceed the limit: the number of the first few
of them is never greater than the one of all. -/
theorem readDigits_eq_ok_iff {limit value n : Nat} {beyond : Fault} {digits : List Char}
    (h : value ≤ limit) :
    readDigits limit beyond value digits = .ok n ↔
      (∀ c ∈ digits, c.isDigit = true) ∧ Nat.ofDigitChars 10 digits value = n ∧ n ≤ limit := by
  induction digits generalizing value with
  | nil =>
    simp only [readDigits, Except.ok.injEq, List.not_mem_nil, false_imp_iff, implies_true,
      Nat.ofDigitChars_nil, true_and]
    omega
  | cons c rest ih =>
    rw [readDigits, List.forall_mem_cons, Nat.ofDigitChars_cons]
    by_cases hc : c.isDigit = true
    · rw [if_pos hc]
      dsimp only
      by_cases hnext : limit < 10 * value + (c.toNat - '0'.toNat)
      · have hle := le_ofDigitChars rest (10 * value + (c.toNat - '0'.toNat))
        rw [if_pos hnext]
        constructor
        · intro hread
          cases hread
        · rintro ⟨-, hvalue, hlimit⟩
          omega
      · rw [if_neg hnext, ih (by omega)]
        exact ⟨fun ⟨hrest, hn⟩ => ⟨⟨hc, hrest⟩, hn⟩, fun ⟨⟨_, hrest⟩, hn⟩ => ⟨hrest, hn⟩⟩
    · rw [if_neg hc]
      constructor
      · intro hread
        cases hread
      · rintro ⟨⟨hdigit, -⟩, -⟩
        exact absurd hdigit hc

theorem readMagnitude_eq_ok_iff {limit n : Nat} {beyond : Fault} {digits : List Char} :
    readMagnitude limit beyond digits = .ok n ↔
      IsDigits digits ∧ Nat.ofDigitChars 10 digits 0 = n ∧ n ≤ limit := by
  rw [readMagnitude, IsDigits]
  cases digits with
  | nil =>
    constructor
    · intro h
      cases h
    · rintro ⟨⟨hne, -⟩, -⟩
      exact absurd rfl hne
  | cons c rest =>
    rw [if_neg (by simp), readDigits_eq_ok_iff (Nat.zero_le limit)]
    exact ⟨fun ⟨hdigits, hn⟩ => ⟨⟨List.cons_ne_nil c rest, hdigits⟩, hn⟩,
      fun ⟨⟨_, hdigits⟩, hn⟩ => ⟨hdigits, hn⟩⟩

/-! ### Integers -/

theorem map_readMagnitude_eq_ok_iff {limit : Nat} {beyond : Fault} {digits : List Char}
    {sign : Nat → Int} {value : Int} :
    (readMagnitude limit beyond digits).map sign = .ok value ↔
      IsDigits digits ∧ sign (Nat.ofDigitChars 10 digits 0) = value ∧
        Nat.ofDigitChars 10 digits 0 ≤ limit := by
  constructor
  · intro h
    cases hread : readMagnitude limit beyond digits with
    | error fault =>
      rw [hread] at h
      cases h
    | ok n =>
      rw [hread] at h
      obtain ⟨hdigits, rfl, hlimit⟩ := readMagnitude_eq_ok_iff.1 hread
      exact ⟨hdigits, Except.ok.inj h, hlimit⟩
  · rintro ⟨hdigits, rfl, hlimit⟩
    rw [readMagnitude_eq_ok_iff.2 ⟨hdigits, rfl, hlimit⟩]
    rfl

/-- Of the numerals, exactly those for the 64-bit integers are read. -/
theorem readInteger_eq_ok_iff {text : List Char} {value : Int} :
    readInteger text = .ok value ↔
      IsNumeral text value ∧ -(greatest + 1 : Int) ≤ value ∧ value ≤ greatest := by
  fun_cases readInteger text with
  | case1 =>
    constructor
    · intro h
      cases h
    · rintro ⟨⟨hne, -⟩, -⟩
      exact absurd rfl hne
  | case2 digits =>
    rw [map_readMagnitude_eq_ok_iff, isNumeral_minus_iff]
    constructor
    · rintro ⟨hdigits, rfl, hlimit⟩
      exact ⟨⟨hdigits, rfl⟩, by omega, by omega⟩
    · rintro ⟨⟨hdigits, rfl⟩, hlow, -⟩
      exact ⟨hdigits, rfl, by omega⟩
  | case3 digits =>
    rw [map_readMagnitude_eq_ok_iff, isNumeral_plus_iff]
    constructor
    · rintro ⟨hdigits, rfl, hlimit⟩
      exact ⟨⟨hdigits, rfl⟩, by omega, by omega⟩
    · rintro ⟨⟨hdigits, rfl⟩, -, hhigh⟩
      exact ⟨hdigits, rfl, by omega⟩
  | case4 _ _ hminus hplus =>
    rw [map_readMagnitude_eq_ok_iff, isNumeral_iff_of_unsigned hminus hplus]
    constructor
    · rintro ⟨hdigits, rfl, hlimit⟩
      exact ⟨⟨hdigits, rfl⟩, by omega, by omega⟩
    · rintro ⟨⟨hdigits, rfl⟩, -, hhigh⟩
      exact ⟨hdigits, rfl, by omega⟩

/-- A text is read as an operand exactly if it is a numeral for it. -/
theorem read_eq_ok_iff {text : String} {operand : Int32} :
    read text = .ok operand ↔ IsNumeral text.toList operand.toInt := by
  have hlow := operand.le_toInt
  have hhigh := operand.toInt_lt
  have hgreatest : greatest = 9223372036854775807 := rfl
  rw [read]
  constructor
  · intro h
    split at h
    · cases h
    · rename_i value hvalue
      split_ifs at h with hrange
      cases h
      rw [Int32.toInt_ofInt_of_le hrange.1 (Int.lt_add_one_of_le hrange.2)]
      exact (readInteger_eq_ok_iff.1 hvalue).1
  · intro h
    rw [readInteger_eq_ok_iff.2 ⟨h, by omega, by omega⟩]
    dsimp only
    rw [if_pos (by omega), Int32.ofInt_toInt]

end Operand

end SumGreeting.CommandLine
