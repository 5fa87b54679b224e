import Mathlib.Tactic.SplitIfs
import SumGreeting.Log.Directive.Text
import SumGreeting.Proofs.CommandLine.Numeral

/-!
# How thresholds are written

A threshold is written as its word, in capital or small letters or both, or as a decimal number from
0 to 5 with any number of zeros in front.  Only such a number can have a plus sign.  All of these
texts are made of letters and digits, the sign apart, so that they can stand where white space,
commas and brackets end something.

## Main definitions

* `Threshold.Spelling`, `Threshold.SignedSpelling` : the texts for a threshold, and the ones that
  may have a plus sign.

## Main results

* `Threshold.ofText?_eq_some_iff` : these are the texts that are read as the threshold.
* `Threshold.SignedSpelling.clear` : they hold nothing that ends an entry or a part of one.
* `isInitial_of_isAlphanum`, `isWhiteSpace_of_isAlphanum` : what letters and digits can be.
-/

namespace SumGreeting

open CommandLine (IsDigits not_isDigits_cons)

/-! ### Letters and digits -/

section Alphanum

variable {c : Char}

theorem toNat_of_isAlphanum (h : c.isAlphanum = true) :
    48 ≤ c.toNat ∧ c.toNat ≤ 57 ∨ 65 ≤ c.toNat ∧ c.toNat ≤ 90 ∨
      97 ≤ c.toNat ∧ c.toNat ≤ 122 := by
  unfold Char.isAlphanum Char.isAlpha Char.isUpper Char.isLower Char.isDigit at h
  simp only [UInt32.le_iff_toNat_le, Bool.or_eq_true, Bool.and_eq_true, decide_eq_true_eq,
    ge_iff_le] at h
  simp only [Char.toNat]
  rcases h with (h | h) | h
  · exact Or.inr (Or.inl h)
  · exact Or.inr (Or.inr h)
  · exact Or.inl h

theorem isDigit_of_isAlpha (h : c.isAlpha = true) : c.isDigit = false := by
  unfold Char.isAlpha Char.isUpper Char.isLower at h
  simp only [UInt32.le_iff_toNat_le, Bool.or_eq_true, Bool.and_eq_true, decide_eq_true_eq,
    ge_iff_le] at h
  have hrange : 65 ≤ c.toNat ∧ c.toNat ≤ 90 ∨ 97 ≤ c.toNat ∧ c.toNat ≤ 122 := h
  have hdigit : ¬ (48 ≤ c.toNat ∧ c.toNat ≤ 57) := by omega
  exact Bool.eq_false_iff.2 fun hc => hdigit (Char.isDigit_iff_toNat.1 hc)

/-- A character that becomes a small letter is a letter. -/
theorem isAlpha_of_isLower_toLower (h : c.toLower.isLower = true) : c.isAlpha = true := by
  unfold Char.isAlpha
  rw [Bool.or_eq_true]
  by_cases hupper : c.isUpper = true
  · exact Or.inl hupper
  · refine Or.inr ?_
    have hsame : c.toLower = c := by
      unfold Char.isUpper at hupper
      simp only [decide_eq_true_eq] at hupper
      exact dif_neg hupper
    rwa [hsame] at h

/-- A directive can begin with a letter or a digit. -/
theorem isInitial_of_isAlphanum (h : c.isAlphanum = true) : Directive.isInitial c = true := by
  have hcontains : isAlphanumeric c = true := by
    refine CodeRange.Table.contains_iff.2 ?_
    rcases toNat_of_isAlphanum h with h | h | h
    · exact ⟨(0x30, 0x39), by decide, h⟩
    · exact ⟨(0x41, 0x5a), by decide, h⟩
    · exact ⟨(0x61, 0x7a), by decide, h⟩
  rw [Directive.isInitial, hcontains]
  rfl

theorem isWhiteSpace_of_isAlphanum (h : c.isAlphanum = true) : isWhiteSpace c = false := by
  have hrange := toNat_of_isAlphanum h
  rw [Bool.eq_false_iff, ne_eq, isWhiteSpace, CodeRange.Table.contains_iff]
  simp only [whiteSpace, List.mem_cons, List.not_mem_nil, or_false, exists_eq_or_imp,
    exists_eq_left]
  omega

/-- A letter or a digit is none of the marks in a filter. -/
theorem ne_mark_of_isAlphanum (h : c.isAlphanum = true) : c ≠ ',' ∧ c ≠ '=' ∧ c ≠ '[' := by
  refine ⟨?_, ?_, ?_⟩ <;>
  · rintro rfl
    exact absurd h (by decide)

end Alphanum

namespace Threshold

/-! ### Texts for a threshold -/

/-- The text is written for the threshold: its word, in capital or small letters or both, or a
decimal number for it, which may begin with zeros. -/
inductive Spelling : List Char → Threshold → Prop
  | word {text : List Char} {threshold : Threshold}
      (h : text.map Char.toLower = threshold.word.toList) : Spelling text threshold
  | number {digits : List Char} {threshold : Threshold} (hdigits : IsDigits digits)
      (hvalue : Nat.ofDigitChars 10 digits 0 = threshold.rank) : Spelling digits threshold

/-- The same, where a number may have a plus sign. -/
inductive SignedSpelling : List Char → Threshold → Prop
  | unsigned {text : List Char} {threshold : Threshold} (h : Spelling text threshold) :
      SignedSpelling text threshold
  | plus {digits : List Char} {threshold : Threshold} (hdigits : IsDigits digits)
      (hvalue : Nat.ofDigitChars 10 digits 0 = threshold.rank) :
      SignedSpelling ('+' :: digits) threshold

variable {text : List Char} {threshold : Threshold}

/-- Whatever its case, a word is made of letters. -/
theorem isAlpha_of_word (h : text.map Char.toLower = threshold.word.toList) :
    text ≠ [] ∧ ∀ c ∈ text, c.isAlpha = true := by
  have hne : threshold.word.toList ≠ [] := by
    cases threshold <;> decide
  have hlower : threshold.word.toList.all Char.isLower = true := by
    cases threshold <;> decide
  refine ⟨fun hnil => hne ?_, fun c hc => ?_⟩
  · rw [← h, hnil]
    rfl
  · have hmem : c.toLower ∈ threshold.word.toList := h ▸ List.mem_map_of_mem hc
    exact isAlpha_of_isLower_toLower (List.all_eq_true.1 hlower _ hmem)

namespace Spelling

theorem ne_nil (h : Spelling text threshold) : text ≠ [] := by
  cases h with
  | word h => exact (isAlpha_of_word h).1
  | number hdigits hvalue => exact hdigits.1

/-- A text for a threshold is made of letters and digits. -/
theorem isAlphanum (h : Spelling text threshold) {c : Char} (hc : c ∈ text) :
    c.isAlphanum = true := by
  rw [Char.isAlphanum, Bool.or_eq_true]
  cases h with
  | word h => exact Or.inl ((isAlpha_of_word h).2 c hc)
  | number hdigits hvalue => exact Or.inr (hdigits.2 c hc)

end Spelling

theorem SignedSpelling.ne_nil (h : SignedSpelling text threshold) : text ≠ [] := by
  cases h with
  | unsigned h => exact h.ne_nil
  | plus => exact List.cons_ne_nil _ _

theorem SignedSpelling.isAlphanum (h : SignedSpelling text threshold) {c : Char} (hc : c ∈ text) :
    c = '+' ∨ c.isAlphanum = true := by
  cases h with
  | unsigned h => exact Or.inr (h.isAlphanum hc)
  | plus hdigits hvalue =>
    rcases List.mem_cons.1 hc with rfl | hc
    · exact Or.inl rfl
    · exact Or.inr ((Spelling.number hdigits hvalue).isAlphanum hc)

/-- Nothing in a text for a threshold ends an entry or a part of one. -/
theorem SignedSpelling.clear (h : SignedSpelling text threshold) {c : Char} (hc : c ∈ text) :
    isWhiteSpace c = false ∧ c ≠ ',' ∧ c ≠ '=' ∧ c ≠ '[' := by
  rcases h.isAlphanum hc with rfl | halphanum
  · decide
  · exact ⟨isWhiteSpace_of_isAlphanum halphanum, ne_mark_of_isAlphanum halphanum⟩

/-! ### Reading them -/

theorem ofRank?_eq_some_iff {n : Nat} : ofRank? n = some threshold ↔ n = threshold.rank := by
  constructor
  · intro h
    unfold ofRank? at h
    split at h <;> cases h <;> rfl
  · rintro rfl
    exact ofRank?_rank threshold

theorem ofNumeral?_eq_some_iff :
    ofNumeral? text = some threshold ↔
      ∃ digits, (text = digits ∨ text = '+' :: digits) ∧ IsDigits digits ∧
        Nat.ofDigitChars 10 digits 0 = threshold.rank := by
  have hdigits (digits : List Char) :
      (!digits.isEmpty && digits.all Char.isDigit) = true ↔ IsDigits digits := by
    simp [IsDigits]
  have hread (digits : List Char) :
      (if !digits.isEmpty && digits.all Char.isDigit then
        ofRank? (Nat.ofDigitChars 10 digits 0) else none) = some threshold ↔
      IsDigits digits ∧ Nat.ofDigitChars 10 digits 0 = threshold.rank := by
    split_ifs with h
    · rw [ofRank?_eq_some_iff, and_iff_right ((hdigits digits).1 h)]
    · rw [hdigits] at h
      exact iff_of_false id fun hread => h hread.1
  unfold ofNumeral?
  split
  · rename_i rest
    rw [hread]
    constructor
    · exact fun h => ⟨rest, Or.inr rfl, h⟩
    · rintro ⟨digits, rfl | hrest, h⟩
      · exact absurd h.1 (not_isDigits_cons (by decide))
      · cases hrest
        exact h
  · rename_i hplus
    rw [hread]
    constructor
    · exact fun h => ⟨text, Or.inl rfl, h⟩
    · rintro ⟨digits, rfl | rfl, h⟩
      · exact h
      · exact absurd rfl (hplus digits)

theorem ofWord?_eq_some_iff :
    ofWord? text = some threshold ↔ text.map Char.toLower = threshold.word.toList := by
  constructor
  · intro h
    simpa using List.find?_some h
  · intro h
    rw [ofWord?]
    simp only [h]
    cases threshold <;> decide

/-- A text is read as a threshold exactly if it is written for it. -/
theorem ofText?_eq_some_iff : ofText? text = some threshold ↔ SignedSpelling text threshold := by
  rw [ofText?, Option.or_eq_some_iff, ofNumeral?_eq_some_iff, ofWord?_eq_some_iff]
  constructor
  · rintro (⟨digits, rfl | rfl, hdigits, hvalue⟩ | ⟨-, hword⟩)
    · exact .unsigned (.number hdigits hvalue)
    · exact .plus hdigits hvalue
    · exact .unsigned (.word hword)
  · rintro ((hword | ⟨hdigits, hvalue⟩) | ⟨hdigits, hvalue⟩)
    · -- A word is no number, as it begins with a letter.
      refine Or.inr ⟨Option.eq_none_iff_forall_ne_some.2 fun other hother => ?_, hword⟩
      obtain ⟨hne, halpha⟩ := isAlpha_of_word hword
      obtain ⟨c, rest, rfl⟩ := List.exists_cons_of_ne_nil hne
      have hc := halpha c List.mem_cons_self
      obtain ⟨digits, rfl | hplus, hdigits, -⟩ := ofNumeral?_eq_some_iff.1 hother
      · exact not_isDigits_cons (isDigit_of_isAlpha hc) hdigits
      · cases hplus
        exact absurd hc (by decide)
    · exact Or.inl ⟨text, Or.inl rfl, hdigits, hvalue⟩
    · exact Or.inl ⟨_, Or.inr rfl, hdigits, hvalue⟩

end Threshold

end SumGreeting
