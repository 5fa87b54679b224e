import SumGreeting.Unicode.Unprintable

/-!
# Texts on one line

A text without control characters stays on the line where it begins.

## Main definitions

* `IsOneLine` : a text without control characters.
* `OneLine` : such a text.

## Main results

* `isOneLine_append_iff` : two such texts in a row make up another one.
-/

namespace SumGreeting

/-- The text has no control character, and so no line break either. -/
def IsOneLine (text : String) : Prop :=
  ∀ c ∈ text.toList, isControl c = false

instance (text : String) : Decidable (IsOneLine text) :=
  List.decidableBAll _ _

theorem isOneLine_append_iff {s t : String} :
    IsOneLine (s ++ t) ↔ IsOneLine s ∧ IsOneLine t := by
  rw [IsOneLine, String.toList_append]
  exact List.forall_mem_append

/-- A text on one line. -/
structure OneLine where
  /-- The text. -/
  text : String
  /-- It has no control character. -/
  isOneLine : IsOneLine text
  deriving DecidableEq

end SumGreeting
