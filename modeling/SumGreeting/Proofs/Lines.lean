import Mathlib.Tactic.SplitIfs
import SumGreeting.Log.Filter
import SumGreeting.Text.Utf8

/-!
# Lines

Messages put together from fixed words, numbers and quoted texts stay on one line, whatever was
quoted.

The byte of a line break stands for nothing else, so that bytes written line by line can be split
into these lines again.

## Main results

* `isOneLine_quote`, `isOneLine_repr` : every quoted text is one, and every decimal form.
* `Filter.Rejection.isOneLine_warning` : so is the warning about a rejected filter.
* `Utf8.newline_mem_encode_iff` : where the byte of a line break comes from.
* `Utf8.splitOn_flatMap_encode` : lines are recovered from their bytes.
-/

namespace SumGreeting

theorem isOneLine_quote (text : String) : IsOneLine (Quoted.quote text) := by
  intro c hc
  rw [Quoted.toList_quote] at hc
  exact Quoted.isControl_eq_false_of_mem_encode hc

theorem isDigit_of_mem_natRepr {n : Nat} {c : Char} (h : c ∈ n.repr.toList) :
    c.isDigit = true := by
  rw [Nat.repr_eq_ofList_toDigits, String.toList_ofList] at h
  exact Nat.isDigit_of_mem_toDigits (by decide) (by decide) h

/-- The characters of a decimal form are digits, and perhaps a dash. -/
theorem eq_dash_or_isDigit_of_mem_repr {n : Int} {c : Char} (h : c ∈ n.repr.toList) :
    c = '-' ∨ c.isDigit = true := by
  cases n with
  | ofNat m => exact Or.inr (isDigit_of_mem_natRepr h)
  | negSucc m =>
    have hsign : (Int.negSucc m).repr = "-" ++ m.succ.repr := rfl
    rw [hsign, String.toList_append, List.mem_append] at h
    rcases h with hdash | hc
    · exact Or.inl (by simpa using hdash)
    · exact Or.inr (isDigit_of_mem_natRepr hc)

/-- A decimal form has no control character. -/
theorem isOneLine_repr (n : Int) : IsOneLine n.repr := by
  intro c hc
  rcases eq_dash_or_isDigit_of_mem_repr hc with rfl | hdigit
  · decide
  · have hcode := Char.isDigit_iff_toNat.1 hdigit
    simp only [isControl, Bool.or_eq_false_iff, Bool.and_eq_false_iff, decide_eq_false_iff_not]
    have hlow : '0'.toNat = 48 := rfl
    have hhigh : '9'.toNat = 57 := rfl
    omega

theorem isOneLine_natRepr (n : Nat) : IsOneLine n.repr :=
  isOneLine_repr n

namespace Filter

theorem isOneLine_message (fault : Directive.Fault) : IsOneLine fault.message := by
  cases fault with
  | malformed | badThreshold => decide
  | badField reason => exact isOneLine_append_iff.2 ⟨by decide, reason.isOneLine⟩

theorem isOneLine_word (threshold : Threshold) : IsOneLine threshold.word := by
  cases threshold <;> decide

/-- The warning about a rejected filter is one line, whatever the text of the filter. -/
theorem Rejection.isOneLine_warning (rejection : Rejection) : IsOneLine rejection.warning := by
  unfold Rejection.warning
  simp only [isOneLine_append_iff, isOneLine_quote, isOneLine_message, isOneLine_word, and_true]
  decide

end Filter

/-! ### Lines in a sequence of bytes -/

namespace Utf8

theorem newline_mem_utf8EncodeChar_iff {c : Char} :
    0x0a ∈ String.utf8EncodeChar c ↔ c = '\n' := by
  constructor
  · intro h
    -- All bytes of a longer encoding have their highest bit set.
    have hbyte (n : Nat) : (0x0a : UInt8) = UInt8.ofNat n ↔ n % 256 = 10 := by
      rw [eq_comm, UInt8.ofNat_eq_iff_mod_eq_toNat]
      rfl
    rw [String.utf8EncodeChar] at h
    split_ifs at h <;> simp only [List.mem_cons, List.not_mem_nil, or_false, hbyte] at h
    · have hc : c.toNat = '\n'.toNat := by
        show c.val.toNat = 10
        omega
      exact Char.toNat_inj.1 hc
    all_goals omega
  · rintro rfl
    decide

/-- The byte of a line break stands for line breaks only. -/
theorem newline_mem_encode_iff {text : String} : 0x0a ∈ encode text ↔ '\n' ∈ text.toList := by
  simp only [encode, List.mem_flatMap, newline_mem_utf8EncodeChar_iff, exists_eq_right]

theorem encode_newline : encode "\n" = [0x0a] := by
  decide

/-- There is no byte of a line break in a text that stays on one line. -/
theorem newline_notMem_encode {text : String} (h : IsOneLine text) : 0x0a ∉ encode text := by
  intro hmem
  exact absurd (h '\n' (newline_mem_encode_iff.1 hmem)) (by decide)

/-- Lines, each with a line break after it, are recovered from the bytes of all. -/
theorem splitOn_flatMap_encode {lines : List String} (h : ∀ line ∈ lines, '\n' ∉ line.toList) :
    (lines.flatMap fun line => encode (line ++ "\n")).splitOn 0x0a = lines.map encode ++ [[]] := by
  induction lines with
  | nil => exact List.splitOn_nil _
  | cons line lines ih =>
    obtain ⟨hline, hlines⟩ := List.forall_mem_cons.1 h
    rw [List.flatMap_cons, encode_append, encode_newline, List.append_assoc, List.singleton_append,
      List.splitOn_append_cons_self_of_not_mem (mt newline_mem_encode_iff.1 hline), ih hlines,
      List.map_cons, List.cons_append]

end Utf8

end SumGreeting
