import SumGreeting.Unicode.GraphemeExtend
import SumGreeting.Unicode.Unprintable

/-!
# Quoted texts

A quoted text stands between double quotes on one line.  The null character, the tabulator, the
two line breaks, the double quote and the backslash are written as a backslash and a letter or
mark.  A character that has no visible form of its own, or that would merge with what stands
before it, is written `\u`, then its code point in hexadecimal digits between braces.  All other
characters stand for themselves.

A quoted text can be read back from the beginning of any longer text, which shows that two
different texts are never quoted alike, whatever follows them.

## Main definitions

* `Quoted.encode`, `Quoted.quote` : the quoted form of a text.
* `Quoted.read?` : the text quoted at the beginning of a sequence of characters, and what follows.

## Main results

* `Quoted.read?_encode_append` : reading undoes quoting and stops after the closing quote.
* `Quoted.encode_append_inj`, `Quoted.quote_append_inj` : the quoted form and what follows it
  determine the text.
* `Quoted.isControl_eq_false_of_mem_encode` : a quoted text has no control character.
-/

namespace SumGreeting.Quoted

/-! ### Writing -/

/-- The character written after a backslash in place of `c`, for the few that have one. -/
def mark? (c : Char) : Option Char :=
  match c with
  | '\x00' => some '0'
  | '\t' => some 't'
  | '\n' => some 'n'
  | '\r' => some 'r'
  | '"' => some '"'
  | '\\' => some '\\'
  | _ => none

/-- A character by its code point. -/
def escapeCode (c : Char) : List Char :=
  '\\' :: 'u' :: '\x7b' :: (Nat.toDigits 16 c.toNat ++ ['\x7d'])

/-- The form of one character inside the quotes. -/
def escape (c : Char) : List Char :=
  match mark? c with
  | some mark => ['\\', mark]
  | none => if isMergingMark c || isUnprintable c then escapeCode c else [c]

/-- The quoted form of a sequence of characters. -/
def encode (text : List Char) : List Char :=
  '"' :: (text.flatMap escape ++ ['"'])

/-- The quoted form of a text. -/
def quote (text : String) : String :=
  String.ofList (encode text.toList)

@[simp]
theorem toList_quote (text : String) : (quote text).toList = encode text.toList :=
  String.toList_ofList

/-! ### Reading -/

/-- The character that `mark` stands for after a backslash. -/
def ofMark? (mark : Char) : Option Char :=
  match mark with
  | '0' => some '\x00'
  | 't' => some '\t'
  | 'n' => some '\n'
  | 'r' => some '\r'
  | '"' => some '"'
  | '\\' => some '\\'
  | _ => none

/-- The value of a hexadecimal digit, which is a decimal digit or one of `a` to `f`. -/
def hexValue? (c : Char) : Option Nat :=
  if '0' ≤ c ∧ c ≤ '9' then some (c.toNat - '0'.toNat)
  else if 'a' ≤ c ∧ c ≤ 'f' then some (c.toNat - 'a'.toNat + 10)
  else none

/-- Reads up to the closing quote.  The first argument is the value of the digits read so far,
inside the braces of a code point, and `none` outside of them. -/
def readBody? : Option Nat → List Char → Option (List Char × List Char)
  | _, [] => none
  | some code, c :: rest =>
    if c = '\x7d' then
      (readBody? none rest).map fun r => (Char.ofNat code :: r.1, r.2)
    else
      (hexValue? c).bind fun digit => readBody? (some (16 * code + digit)) rest
  | none, '"' :: rest => some ([], rest)
  | none, '\\' :: 'u' :: '\x7b' :: rest => readBody? (some 0) rest
  | none, '\\' :: mark :: rest =>
    (ofMark? mark).bind fun c => (readBody? none rest).map fun r => (c :: r.1, r.2)
  | none, c :: rest => (readBody? none rest).map fun r => (c :: r.1, r.2)

/-- The text quoted at the beginning of the characters, and the characters after it. -/
def read? : List Char → Option (List Char × List Char)
  | '"' :: rest => readBody? none rest
  | _ => none

/-! ### Reading back what was written -/

theorem ofMark?_of_mark? {c mark : Char} (h : mark? c = some mark) : ofMark? mark = some c := by
  unfold mark? at h
  split at h <;> simp_all [ofMark?] <;> subst h <;> rfl

theorem hexValue?_digitChar {n : Nat} (h : n < 16) : hexValue? n.digitChar = some n := by
  have : ∀ m : Fin 16, hexValue? m.val.digitChar = some m.val := by decide
  exact this ⟨n, h⟩

theorem digitChar_ne_brace {n : Nat} (h : n < 16) : n.digitChar ≠ '\x7d' := by
  have : ∀ m : Fin 16, m.val.digitChar ≠ '\x7d' := by decide
  exact this ⟨n, h⟩

theorem readBody?_digitChar {code n : Nat} (h : n < 16) (rest : List Char) :
    readBody? (some code) (n.digitChar :: rest) = readBody? (some (16 * code + n)) rest := by
  rw [readBody?, if_neg (digitChar_ne_brace h), hexValue?_digitChar h, Option.bind_some]

/-- The digits of a number are read as that number. -/
theorem readBody?_toDigits (n : Nat) (rest : List Char) :
    readBody? (some 0) (Nat.toDigits 16 n ++ rest) = readBody? (some n) rest := by
  induction n using Nat.strongRecOn generalizing rest with
  | ind n ih =>
    by_cases h : n < 16
    · rw [Nat.toDigits_of_lt_base h, List.singleton_append, readBody?_digitChar h]
      simp
    · rw [Nat.toDigits_of_base_le (by decide) (Nat.le_of_not_lt h), List.append_assoc,
        ih (n / 16) (by omega), List.singleton_append,
        readBody?_digitChar (Nat.mod_lt _ (by decide)), Nat.div_add_mod]

theorem readBody?_escape_append (c : Char) (rest : List Char) :
    readBody? none (escape c ++ rest) =
      (readBody? none rest).map fun r => (c :: r.1, r.2) := by
  unfold escape
  split
  · rename_i mark hmark
    have hu : mark ≠ 'u' := by
      rintro rfl
      unfold mark? at hmark
      split at hmark <;> simp at hmark
    have hof := ofMark?_of_mark? hmark
    rw [List.cons_append, List.singleton_append, readBody?]
    · rw [hof, Option.bind_some]
    · rintro rest rfl
      exact fun _ => hu rfl
  · rename_i hmark
    split
    · rw [escapeCode]
      simp only [List.cons_append, List.append_assoc]
      rw [readBody?, readBody?_toDigits, readBody?, if_pos rfl, Char.ofNat_toNat,
        List.nil_append]
    · rw [List.singleton_append]
      have hquote : c ≠ '"' := by rintro rfl; simp [mark?] at hmark
      have hslash : c ≠ '\\' := by rintro rfl; simp [mark?] at hmark
      rw [readBody?]
      · exact fun h => hquote h
      · rintro _ rfl
        exact fun _ => hslash rfl
      · rintro _ _ rfl
        exact fun _ => hslash rfl

theorem readBody?_flatMap_escape_append (text rest : List Char) :
    readBody? none (text.flatMap escape ++ '"' :: rest) = some (text, rest) := by
  induction text with
  | nil => rw [List.flatMap_nil, List.nil_append, readBody?]
  | cons c text ih =>
    rw [List.flatMap_cons, List.append_assoc, readBody?_escape_append, ih, Option.map_some]

theorem read?_encode_append (text rest : List Char) :
    read? (encode text ++ rest) = some (text, rest) := by
  rw [encode, List.cons_append, List.append_assoc, List.singleton_append, read?,
    readBody?_flatMap_escape_append]

theorem encode_append_inj {s t r u : List Char} (h : encode s ++ r = encode t ++ u) :
    s = t ∧ r = u := by
  have := congrArg read? h
  rw [read?_encode_append, read?_encode_append] at this
  simpa using this

/-- A quoted text is read off any longer text that begins with it. -/
theorem quote_append_inj {s t r u : String} (h : quote s ++ r = quote t ++ u) :
    s = t ∧ r = u := by
  have hchars := congrArg String.toList h
  simp only [String.toList_append, toList_quote] at hchars
  obtain ⟨htext, hrest⟩ := encode_append_inj hchars
  exact ⟨String.toList_inj.1 htext, String.toList_inj.1 hrest⟩

/-! ### Control characters -/

theorem isControl_eq_false_of_digitChar {n : Nat} (h : n < 16) : isControl n.digitChar = false := by
  have : ∀ m : Fin 16, isControl m.val.digitChar = false := by decide
  exact this ⟨n, h⟩

theorem isControl_eq_false_of_mem_toDigits {n : Nat} {d : Char} (h : d ∈ Nat.toDigits 16 n) :
    isControl d = false := by
  induction n using Nat.strongRecOn with
  | ind n ih =>
    by_cases hn : n < 16
    · rw [Nat.toDigits_of_lt_base hn, List.mem_singleton] at h
      exact h ▸ isControl_eq_false_of_digitChar hn
    · rw [Nat.toDigits_of_base_le (by decide) (Nat.le_of_not_lt hn), List.mem_append,
        List.mem_singleton] at h
      rcases h with h | rfl
      · exact ih (n / 16) (by omega) h
      · exact isControl_eq_false_of_digitChar (Nat.mod_lt _ (by decide))

theorem isControl_eq_false_of_mem_escape {c d : Char} (h : d ∈ escape c) : isControl d = false := by
  unfold escape at h
  split at h
  · rename_i mark hmark
    unfold mark? at hmark
    split at hmark <;> simp_all <;> subst hmark <;> rcases h with rfl | rfl <;> decide
  · split at h
    · simp only [escapeCode, List.mem_cons, List.mem_append, List.not_mem_nil, or_false] at h
      rcases h with rfl | rfl | rfl | h | rfl
      · decide
      · decide
      · decide
      · exact isControl_eq_false_of_mem_toDigits h
      · decide
    · rename_i hvisible
      rw [List.mem_singleton] at h
      subst h
      cases hc : isControl d with
      | false => rfl
      | true => exact absurd (by simp [isUnprintable_of_isControl hc]) hvisible

theorem isControl_eq_false_of_mem_encode {text : List Char} {d : Char} (h : d ∈ encode text) :
    isControl d = false := by
  simp only [encode, List.mem_cons, List.mem_append, List.mem_flatMap, List.not_mem_nil,
    or_false] at h
  rcases h with rfl | ⟨c, _, hc⟩ | rfl
  · decide
  · exact isControl_eq_false_of_mem_escape hc
  · decide

end SumGreeting.Quoted
