/-!
# Cutting a text at byte offsets

A place in a text can be given by the number of bytes that the characters before it take in UTF-8.
Such an offset is good only where a character begins or the text ends: a cut inside of a character
or behind the end gives nothing.

## Main definitions

* `byteSize` : the number of bytes of a sequence of characters.
* `cutFrom?`, `cutTo?`, `cut?` : the characters behind, before and between byte offsets.
* `IsBoundary` : the good offsets of a text.

## Main results

* `cutFrom?_append`, `cutTo?_append`, `cut?_append` : a cut at the end of a beginning of the text.
* `exists_cut?_eq_some` : a cut between two good offsets.
-/

namespace SumGreeting

/-- The number of bytes that the characters take. -/
def byteSize : List Char → Nat
  | [] => 0
  | c :: rest => c.utf8Size + byteSize rest

/-- The characters of a text from the byte offset on, if it is a good one. -/
def cutFrom? : Nat → List Char → Option (List Char)
  | 0, text => some text
  | _ + 1, [] => none
  | offset + 1, c :: rest =>
    if c.utf8Size ≤ offset + 1 then cutFrom? (offset + 1 - c.utf8Size) rest else none

/-- The characters of a text before the byte offset, if it is a good one. -/
def cutTo? : Nat → List Char → Option (List Char)
  | 0, _ => some []
  | _ + 1, [] => none
  | offset + 1, c :: rest =>
    if c.utf8Size ≤ offset + 1 then (cutTo? (offset + 1 - c.utf8Size) rest).map (c :: ·) else none

/-- The characters of a text between two byte offsets, if both are good and in order. -/
def cut? (first last : Nat) (text : List Char) : Option (List Char) :=
  if first ≤ last then (cutFrom? first text).bind (cutTo? (last - first)) else none

@[simp]
theorem byteSize_append (s t : List Char) : byteSize (s ++ t) = byteSize s + byteSize t := by
  induction s with
  | nil => simp [byteSize]
  | cons c s ih => simp [byteSize, ih, Nat.add_assoc]

theorem eq_nil_of_byteSize_eq_zero {s : List Char} (h : byteSize s = 0) : s = [] := by
  cases s with
  | nil => rfl
  | cons c rest =>
    have hpos := c.utf8Size_pos
    rw [byteSize] at h
    omega

theorem cutFrom?_cons (c : Char) (rest : List Char) (offset : Nat) :
    cutFrom? (c.utf8Size + offset) (c :: rest) = cutFrom? offset rest := by
  have hpos := c.utf8Size_pos
  obtain ⟨n, hn⟩ : ∃ n, c.utf8Size + offset = n + 1 := ⟨c.utf8Size + offset - 1, by omega⟩
  rw [hn, cutFrom?, ← hn, if_pos (Nat.le_add_right _ _), Nat.add_sub_cancel_left]

theorem cutTo?_cons (c : Char) (rest : List Char) (offset : Nat) :
    cutTo? (c.utf8Size + offset) (c :: rest) = (cutTo? offset rest).map (c :: ·) := by
  have hpos := c.utf8Size_pos
  obtain ⟨n, hn⟩ : ∃ n, c.utf8Size + offset = n + 1 := ⟨c.utf8Size + offset - 1, by omega⟩
  rw [hn, cutTo?, ← hn, if_pos (Nat.le_add_right _ _), Nat.add_sub_cancel_left]

/-- What stands behind the beginning `s` of a text. -/
@[simp]
theorem cutFrom?_append (s t : List Char) : cutFrom? (byteSize s) (s ++ t) = some t := by
  induction s with
  | nil => cases t <;> rfl
  | cons c s ih => rw [byteSize, List.cons_append, cutFrom?_cons, ih]

/-- The beginning `s` of a text. -/
@[simp]
theorem cutTo?_append (s t : List Char) : cutTo? (byteSize s) (s ++ t) = some s := by
  induction s with
  | nil => cases t <;> rfl
  | cons c s ih => rw [byteSize, List.cons_append, cutTo?_cons, ih, Option.map_some]

/-- What stands between the beginning `s` of a text and what comes after `s ++ t`. -/
theorem cut?_append (s t u : List Char) :
    cut? (byteSize s) (byteSize s + byteSize t) (s ++ (t ++ u)) = some t := by
  rw [cut?, if_pos (Nat.le_add_right _ _), Nat.add_sub_cancel_left, cutFrom?_append,
    Option.bind_some, cutTo?_append]

/-- The offset is the size of a beginning of the text. -/
def IsBoundary (text : List Char) (offset : Nat) : Prop :=
  ∃ s, s <+: text ∧ byteSize s = offset

theorem isBoundary_append (s t : List Char) : IsBoundary (s ++ t) (byteSize s) :=
  ⟨s, List.prefix_append s t, rfl⟩

theorem isBoundary_byteSize (text : List Char) : IsBoundary text (byteSize text) :=
  ⟨text, List.prefix_rfl, rfl⟩

theorem IsBoundary.of_prefix {s t : List Char} {offset : Nat} (h : IsBoundary s offset)
    (hs : s <+: t) : IsBoundary t offset := by
  obtain ⟨beginning, hbeginning, rfl⟩ := h
  exact ⟨beginning, hbeginning.trans hs, rfl⟩

theorem IsBoundary.le_byteSize {text : List Char} {offset : Nat} (h : IsBoundary text offset) :
    offset ≤ byteSize text := by
  obtain ⟨s, ⟨behind, rfl⟩, rfl⟩ := h
  rw [byteSize_append]
  exact Nat.le_add_right _ _

/-- Between two good offsets the text can be cut. -/
theorem exists_cut?_eq_some {text : List Char} {first last : Nat}
    (hfirst : IsBoundary text first) (hlast : IsBoundary text last) (h : first ≤ last) :
    ∃ part, cut? first last text = some part := by
  obtain ⟨s, ⟨behind, rfl⟩, rfl⟩ := hfirst
  obtain ⟨s', ⟨behind', hsame⟩, rfl⟩ := hlast
  rcases List.append_eq_append_iff.1 hsame with ⟨part, rfl, -⟩ | ⟨part, rfl, rfl⟩
  · -- Of two beginnings of one size, none is longer than the other.
    rw [byteSize_append] at h
    have hpart : part = [] := eq_nil_of_byteSize_eq_zero (by omega)
    subst hpart
    rw [List.append_nil]
    exact ⟨[], cut?_append s' [] behind⟩
  · rw [byteSize_append]
    exact ⟨part, cut?_append s part behind'⟩

/-- An offset inside of a character is no good. -/
example : cut? 0 1 ['\u00a0', 'a'] = none := by decide

end SumGreeting
