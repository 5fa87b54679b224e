import Mathlib.Tactic.SplitIfs
import SumGreeting.Proofs.Lines

/-!
# Values inside a text

A message or a description shows several values in one text, with fixed words between them.  Where
no form of a value contains the first character of the word that comes next, the word delimits the
value: both the value and what comes after the word can be read off the text.  A quoted text ends
with its closing quote and so is delimited by any word.

## Main definitions

* `Delimits` : a word that delimits the forms of values.

## Main results

* `delimits_of_all` : a word delimits forms of characters that it does not begin with.
* `delimits_quote`, `delimits_repr` : the words that delimit quoted texts and decimal forms.
* `Delimits.injective`, `Delimits.comp` : delimited forms are different for different values.
-/

namespace SumGreeting

variable {α β : Type}

/-! ### Words that delimit -/

/-- The word delimits the forms: a text that begins with the form of a value and the word
determines the value, and what comes after the word. -/
def Delimits (word : String) (form : α → String) : Prop :=
  ∀ ⦃a b : α⦄ ⦃rest rest' : String⦄,
    form a ++ (word ++ rest) = form b ++ (word ++ rest') → a = b ∧ rest = rest'

namespace Delimits

variable {word : String} {form : α → String}

theorem injective (h : Delimits word form) : Function.Injective form := by
  intro a b heq
  have happend : form a ++ (word ++ "") = form b ++ (word ++ "") :=
    congrArg (· ++ (word ++ "")) heq
  exact (h happend).1

/-- A word delimits the forms of values that can be read off other values. -/
theorem comp (h : Delimits word form) {f : β → α} (hf : Function.Injective f) :
    Delimits word (form ∘ f) := by
  intro a b rest rest' heq
  obtain ⟨hvalue, hrest⟩ := h heq
  exact ⟨hf hvalue, hrest⟩

end Delimits

/-- What stands before the first occurrence of a mark, and what stands after it. -/
theorem append_cons_inj_of_first {mark : α} {s t r u : List α} [DecidableEq α]
    (hs : mark ∉ s) (ht : mark ∉ t) (h : s ++ mark :: r = t ++ mark :: u) : s = t ∧ r = u := by
  have hsplit := congrArg (List.splitOn mark) h
  rw [List.splitOn_append_cons_self_of_not_mem hs, List.splitOn_append_cons_self_of_not_mem ht,
    List.cons.injEq] at hsplit
  obtain ⟨rfl, -⟩ := hsplit
  exact ⟨rfl, (List.cons.inj (List.append_cancel_left h)).2⟩

/-- A word delimits forms of characters from a class that its first character is not in. -/
theorem delimits_of_all (p : Char → Bool) {word : String} {form : α → String}
    (hword : word.toList.head?.any (fun c => !p c) = true) (hform : Function.Injective form)
    (hp : ∀ a, (form a).toList.all p = true) : Delimits word form := by
  intro a b rest rest' h
  obtain ⟨mark, hhead, hother⟩ := (Option.any_eq_true _ _).1 hword
  obtain ⟨tail, htail⟩ := List.head?_eq_some_iff.1 hhead
  have hmark (a : α) : mark ∉ (form a).toList := fun hmem => by
    simp [List.all_eq_true.1 (hp a) mark hmem] at hother
  have hchars := congrArg String.toList h
  simp only [String.toList_append, htail, List.cons_append] at hchars
  obtain ⟨hvalue, hrest⟩ := append_cons_inj_of_first (hmark a) (hmark b) hchars
  exact ⟨hform (String.toList_inj.1 hvalue), String.toList_inj.1 (List.append_cancel_left hrest)⟩

/-- Any word delimits quoted texts. -/
theorem delimits_quote (word : String) : Delimits word Quoted.quote := by
  intro text text' rest rest' h
  obtain ⟨htext, hrest⟩ := Quoted.quote_append_inj h
  exact ⟨htext, (String.append_right_inj word).1 hrest⟩

/-! ### Decimal forms -/

theorem toList_repr_ne_nil (n : Int) : n.repr.toList ≠ [] := by
  cases n with
  | ofNat m => exact mt String.toList_eq_nil_iff.1 Nat.repr_ne_empty
  | negSucc m => simp [Int.repr]

/-- The digits of a number add up to it again. -/
theorem natRepr_injective : Function.Injective Nat.repr := by
  intro m n h
  rw [Nat.repr_eq_ofList_toDigits, Nat.repr_eq_ofList_toDigits, String.ofList_inj] at h
  rw [← @Nat.ofDigitChars_ten_toDigits m, h, Nat.ofDigitChars_ten_toDigits]

/-- Only the decimal form of a negative number has a dash. -/
theorem intRepr_injective : Function.Injective Int.repr := by
  have hdash (m n : Nat) : (Int.ofNat m).repr ≠ (Int.negSucc n).repr := by
    intro h
    have hmem : '-' ∈ (Int.negSucc n).repr.toList := by
      have hsign : (Int.negSucc n).repr = "-" ++ n.succ.repr := rfl
      simp [hsign]
    rw [← h] at hmem
    exact absurd (isDigit_of_mem_natRepr hmem) (by decide)
  intro m n h
  cases m with
  | ofNat m => cases n with
    | ofNat n => exact congrArg Int.ofNat (natRepr_injective h)
    | negSucc n => exact absurd h (hdash m n)
  | negSucc m => cases n with
    | ofNat n => exact absurd h.symm (hdash n m)
    | negSucc n =>
      have hsize := natRepr_injective ((String.append_right_inj "-").1 h)
      exact congrArg Int.negSucc (Nat.succ.inj hsize)

/-- A word that begins with neither a dash nor a digit delimits decimal forms. -/
theorem delimits_repr {word : String}
    (hword : word.toList.head?.any (fun c => !(c == '-' || c.isDigit)) = true) :
    Delimits word Int.repr := by
  refine delimits_of_all _ hword intRepr_injective fun n => ?_
  refine List.all_eq_true.2 fun c hc => ?_
  simpa only [Bool.or_eq_true, beq_iff_eq] using eq_dash_or_isDigit_of_mem_repr hc

/-- So it does for numbers without a sign. -/
theorem delimits_natRepr {word : String}
    (hword : word.toList.head?.any (fun c => !(c == '-' || c.isDigit)) = true) :
    Delimits word Nat.repr :=
  (delimits_repr hword).comp fun _ _ => Int.ofNat.inj

end SumGreeting
