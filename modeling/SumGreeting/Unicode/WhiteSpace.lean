import SumGreeting.Unicode.CodeRange

/-!
# White space

A character is white space when it has the Unicode property `White_Space`.  These are the
characters that may surround a part of a filter text.

## Main definitions

* `isWhiteSpace` : the property, as a test.
* `trim` : a text without the white space at its two ends.

## Main results

* `trim_eq_self` : a text without white space is its own trimmed form.
-/

namespace SumGreeting

/-- The code points with the property `White_Space`. -/
def whiteSpace : CodeRange.Table where
  ranges :=
    [(0x9, 0xd), (0x20, 0x20), (0x85, 0x85), (0xa0, 0xa0), (0x1680, 0x1680), (0x2000, 0x200a),
      (0x2028, 0x2029), (0x202f, 0x202f), (0x205f, 0x205f), (0x3000, 0x3000)]
  ascending := by decide

/-- Whether the character has the Unicode property `White_Space`. -/
def isWhiteSpace (c : Char) : Bool :=
  whiteSpace.contains c.toNat

/-- The text without the white space at its beginning. -/
def trimStart (text : List Char) : List Char :=
  text.dropWhile isWhiteSpace

/-- The text without the white space at its end. -/
def trimEnd (text : List Char) : List Char :=
  (text.reverse.dropWhile isWhiteSpace).reverse

/-- The text without the white space at its two ends. -/
def trim (text : List Char) : List Char :=
  trimEnd (trimStart text)

/-- Dropping from the front changes nothing where no character is to be dropped. -/
private theorem dropWhile_eq_self {text : List Char} (h : ∀ c ∈ text, isWhiteSpace c = false) :
    text.dropWhile isWhiteSpace = text := by
  cases text with
  | nil => rfl
  | cons c rest => simp [h c List.mem_cons_self]

theorem trim_eq_self {text : List Char} (h : ∀ c ∈ text, isWhiteSpace c = false) :
    trim text = text := by
  have hrev : ∀ c ∈ text.reverse, isWhiteSpace c = false :=
    fun c hc => h c (List.mem_reverse.1 hc)
  simp [trim, trimStart, trimEnd, dropWhile_eq_self h, dropWhile_eq_self hrev]

end SumGreeting
