import SumGreeting.Proofs.Json.Grammar

/-!
# The grammar of JSON is unambiguous

A text denotes at most one value.  Where a phrase ends is seen from what it consists of, but for a
number, which goes on for as long as characters come that could continue it; so no such character
may come next.  White space between phrases goes on up to the first character that is none.

## Main definitions

* `Json.Clear` : what comes next does not begin with a character of some kind.
* `Json.continuesNumber` : the characters that could continue a number.
* `Json.OnlyReading` : a phrase that is the only one of its sort in its place.
* `Json.Listing`, `Json.Listable` : the lists of elements and members, and what they have in common.

## Main results

* `Json.Characters.unique`, `Json.Numeral.unique` : string literals and numbers.
* `Json.Listing.last_unique`, `Json.Listing.cons_unique` : lists of one item and longer ones.
* `Json.Reads.unique` : all phrases.
* `Json.Denotes.unique` : whole texts.
-/

namespace SumGreeting.Json

open CommandLine (IsDigits)

/-- The first of the characters, if there is one, does not have the property. -/
def Clear (p : Char → Bool) (text : List Char) : Prop :=
  ∀ c ∈ text.head?, p c = false

@[simp] theorem clear_nil (p : Char → Bool) : Clear p [] :=
  fun _ h => nomatch h

@[simp] theorem clear_cons {p : Char → Bool} {c : Char} {rest : List Char} :
    Clear p (c :: rest) ↔ p c = false := by
  simp [Clear]

theorem Clear.mono {p q : Char → Bool} {text : List Char} (h : Clear p text)
    (hpq : ∀ c, q c = true → p c = true) : Clear q text := by
  intro c hc
  rw [Bool.eq_false_iff]
  exact fun hq => absurd (hpq c hq) (by simp [h c hc])

/-! ### White space -/

/-- The character is white space. -/
def isWhite (c : Char) : Bool :=
  c ∈ whiteSpace

theorem Space.unique {before start start' : List Char} (h : Space before start)
    (h' : Space before start') (hclear : Clear isWhite start) (hclear' : Clear isWhite start') :
    start = start' := by
  induction h with
  | nil rest =>
    cases h' with
    | nil => rfl
    | cons head _ => simp_all [isWhite]
  | cons head tail ih =>
    cases h' with
    | nil => simp_all [isWhite]
    | cons _ tail' => exact ih tail' hclear

/-! ### Strings -/

/-- No mark denotes two characters, and the mark of a code unit denotes none. -/
theorem marks_unique : ∀ p ∈ marks, p.1 ≠ 'u' ∧ ∀ q ∈ marks, p.1 = q.1 → p = q := by
  decide

/-- The four digits of a character are not those of a high surrogate. -/
theorem not_high_of_codeUnit? {c : Char} {high : Nat} {before after middle : List Char}
    (hunit : codeUnit? before = some (c.toNat, after))
    (hhigh : codeUnit? before = some (high, middle)) : ¬ (0xD800 ≤ high ∧ high < 0xDC00) := by
  have hvalid : c.toNat < 0xD800 ∨ 0xDFFF < c.toNat ∧ c.toNat < 0x110000 := c.valid
  rw [hunit] at hhigh
  cases hhigh
  omega

theorem Character.unique {c c' : Char} {before after after' : List Char}
    (h : Character c before after) (h' : Character c' before after') :
    c = c' ∧ after = after' := by
  cases h with
  | plain =>
    cases h' with
    | plain => exact ⟨rfl, rfl⟩
    | mark | unit | pair => contradiction
  | mark _ hmark =>
    obtain ⟨hne, hunique⟩ := marks_unique _ hmark
    cases h' with
    | plain => contradiction
    | mark _ hmark' => exact ⟨congrArg Prod.snd (hunique _ hmark' rfl), rfl⟩
    | unit | pair => exact absurd rfl hne
  | unit hunit =>
    cases h' with
    | plain => contradiction
    | mark _ hmark' => exact absurd rfl (marks_unique _ hmark').1
    | unit hunit' =>
      obtain ⟨hc, hafter⟩ := Prod.mk.inj (Option.some.inj (hunit.symm.trans hunit'))
      exact ⟨Char.toNat_inj.1 hc, hafter⟩
    | pair hhigh _ hrange => exact absurd hrange (not_high_of_codeUnit? hunit hhigh)
  | pair hhigh hlow hrange =>
    cases h' with
    | plain => contradiction
    | mark _ hmark' => exact absurd rfl (marks_unique _ hmark').1
    | unit hunit' => exact absurd hrange (not_high_of_codeUnit? hunit' hhigh)
    | pair hhigh' hlow' =>
      cases hhigh.symm.trans hhigh'
      cases hlow.symm.trans hlow'
      exact ⟨Char.toNat_inj.1 (by omega), rfl⟩

theorem Character.ne_quote {c : Char} {rest after : List Char} :
    ¬ Character c ('"' :: rest) after := by
  intro h
  cases h with
  | plain => contradiction

theorem Characters.unique {cs cs' before after after' : List Char}
    (h : Characters cs before after) (h' : Characters cs' before after') :
    cs = cs' ∧ after = after' := by
  induction h generalizing cs' with
  | nil rest =>
    cases h' with
    | nil => exact ⟨rfl, rfl⟩
    | cons head _ => exact absurd head Character.ne_quote
  | cons head tail ih =>
    cases h' with
    | nil => exact absurd head Character.ne_quote
    | cons head' tail' =>
      obtain ⟨rfl, rfl⟩ := head.unique head'
      obtain ⟨rfl, rfl⟩ := ih tail'
      exact ⟨rfl, rfl⟩

/-! ### Numbers -/

/-- The character can continue digits with a point among them. -/
def continuesDecimal (c : Char) : Bool :=
  c.isDigit || c = '.'

/-- The character can continue a number after its sign. -/
def continuesNumber (c : Char) : Bool :=
  continuesDecimal c || c ∈ exponentMarks

/-- The character is a sign. -/
def isSign (c : Char) : Bool :=
  c ∈ signs

theorem isSign_eq_false_of_isDigit {c : Char} (h : c.isDigit = true) : isSign c = false := by
  rw [isSign, decide_eq_false_iff_not, signs]
  intro hmem
  simp only [List.mem_cons, List.not_mem_nil, or_false] at hmem
  rcases hmem with rfl | rfl <;> contradiction

theorem clear_append_of_isDigits {digits : List Char} (h : IsDigits digits) (rest : List Char) :
    Clear isSign (digits ++ rest) := by
  obtain ⟨hne, hall⟩ := h
  cases digits with
  | nil => exact absurd rfl hne
  | cons c digits =>
    exact clear_cons.2 (isSign_eq_false_of_isDigit (hall c List.mem_cons_self))

theorem digits_unique {digits digits' rest rest' : List Char} (h : IsDigits digits)
    (h' : IsDigits digits') (hclear : Clear Char.isDigit rest) (hclear' : Clear Char.isDigit rest')
    (heq : digits ++ rest = digits' ++ rest') : digits = digits' ∧ rest = rest' := by
  have htake {digits rest : List Char} (h : IsDigits digits) (hclear : Clear Char.isDigit rest) :
      (digits ++ rest).takeWhile Char.isDigit = digits := by
    rw [List.takeWhile_append_of_pos h.2]
    cases rest with
    | nil => simp
    | cons c rest => simp [clear_cons.1 hclear]
  obtain rfl : digits = digits' := by rw [← htake h hclear, heq, htake h' hclear']
  exact ⟨rfl, List.append_cancel_left heq⟩

/-- A part that can be absent is read in one way only, if it begins with a character of a kind with
which nothing after it begins. -/
theorem optional_unique {α : Type} {text : α → List Char} {part part' : Option α} (p : Char → Bool)
    {rest rest' : List Char}
    (hbegins : ∀ a, a ∈ part ∨ a ∈ part' → ∀ rest, ¬ Clear p (text a ++ rest))
    (hunique : ∀ a ∈ part, ∀ a' ∈ part', text a ++ rest = text a' ++ rest' → a = a' ∧ rest = rest')
    (hclear : Clear p rest) (hclear' : Clear p rest')
    (heq : optional text part ++ rest = optional text part' ++ rest') :
    part = part' ∧ rest = rest' := by
  cases part with
  | none =>
    cases part' with
    | none => exact ⟨rfl, heq⟩
    | some a' =>
      obtain rfl : rest = text a' ++ rest' := heq
      exact absurd hclear (hbegins a' (Or.inr rfl) rest')
  | some a =>
    cases part' with
    | none =>
      obtain rfl : text a ++ rest = rest' := heq
      exact absurd hclear' (hbegins a (Or.inl rfl) rest)
    | some a' =>
      obtain ⟨rfl, hrest⟩ := hunique a rfl a' rfl heq
      exact ⟨rfl, hrest⟩

/-- A sign in front of digits is read in one way only. -/
theorem sign_unique {sign sign' : Option Char} {rest rest' : List Char}
    (h : ∀ c ∈ sign, c ∈ signs) (h' : ∀ c ∈ sign', c ∈ signs)
    (hclear : Clear isSign rest) (hclear' : Clear isSign rest')
    (heq : optional ([·]) sign ++ rest = optional ([·]) sign' ++ rest') :
    sign = sign' ∧ rest = rest' := by
  refine optional_unique isSign ?_ ?_ hclear hclear' heq
  · intro c hc rest
    simp [isSign, hc.elim (h c) (h' c)]
  · intro c _ c' _ htext
    exact List.cons.inj htext

theorem Exponent.unique {exponent exponent' : Exponent} {rest rest' : List Char}
    (hclear : Clear Char.isDigit rest) (hclear' : Clear Char.isDigit rest')
    (heq : exponent.text ++ rest = exponent'.text ++ rest') :
    exponent = exponent' ∧ rest = rest' := by
  obtain ⟨mark, sign, digits, hmark, hsign, hdigits⟩ := exponent
  obtain ⟨mark', sign', digits', hmark', hsign', hdigits'⟩ := exponent'
  simp only [Exponent.text, List.cons_append, List.append_assoc, List.cons.injEq] at heq
  obtain ⟨rfl, hsigned⟩ := heq
  obtain ⟨rfl, hmagnitude⟩ := sign_unique hsign hsign' (clear_append_of_isDigits hdigits rest)
    (clear_append_of_isDigits hdigits' rest') hsigned
  obtain ⟨rfl, rfl⟩ := digits_unique hdigits hdigits' hclear hclear' hmagnitude
  exact ⟨rfl, rfl⟩

theorem optionalExponent_unique {exponent exponent' : Option Exponent} {rest rest' : List Char}
    (hclear : Clear continuesNumber rest) (hclear' : Clear continuesNumber rest')
    (heq : optional Exponent.text exponent ++ rest = optional Exponent.text exponent' ++ rest') :
    exponent = exponent' ∧ rest = rest' := by
  have hmark (c : Char) (h : decide (c ∈ exponentMarks) = true) : continuesNumber c = true := by
    simp [continuesNumber, h]
  have hdigit (c : Char) (h : c.isDigit = true) : continuesNumber c = true := by
    simp [continuesNumber, continuesDecimal, h]
  refine optional_unique (· ∈ exponentMarks) ?_ ?_ (hclear.mono hmark) (hclear'.mono hmark) heq
  · intro exponent _ rest
    simp [Exponent.text, exponent.mark_mem]
  · intro exponent _ exponent' _ htext
    exact Exponent.unique (hclear.mono hdigit) (hclear'.mono hdigit) htext

theorem fraction_unique {fraction fraction' : Option (List Char)} {rest rest' : List Char}
    (h : ∀ digits ∈ fraction, IsDigits digits) (h' : ∀ digits ∈ fraction', IsDigits digits)
    (hclear : Clear continuesDecimal rest) (hclear' : Clear continuesDecimal rest')
    (heq : optional ('.' :: ·) fraction ++ rest = optional ('.' :: ·) fraction' ++ rest') :
    fraction = fraction' ∧ rest = rest' := by
  have hpoint (c : Char) (h : decide (c = '.') = true) : continuesDecimal c = true := by
    simp [continuesDecimal, h]
  have hdigit (c : Char) (h : c.isDigit = true) : continuesDecimal c = true := by
    simp [continuesDecimal, h]
  refine optional_unique (· = '.') (by simp) ?_ (hclear.mono hpoint) (hclear'.mono hpoint) heq
  intro digits hmem digits' hmem' htext
  exact digits_unique (h digits hmem) (h' digits' hmem') (hclear.mono hdigit)
    (hclear'.mono hdigit) (List.cons.inj htext).2

/-- An exponent, present or not, does not continue the digits in front of it. -/
theorem clear_exponent {rest : List Char} (h : Clear continuesNumber rest)
    (exponent : Option Exponent) :
    Clear continuesDecimal (optional Exponent.text exponent ++ rest) := by
  cases exponent with
  | none => exact h.mono fun c hc => by simp [continuesNumber, hc]
  | some exponent =>
    have hmarks : ∀ c ∈ exponentMarks, continuesDecimal c = false := by
      simp [exponentMarks, continuesDecimal]
    exact clear_cons.2 (hmarks _ exponent.mark_mem)

/-- Nor does a fraction. -/
theorem clear_fraction {rest : List Char} (h : Clear continuesDecimal rest)
    (fraction : Option (List Char)) :
    Clear Char.isDigit (optional ('.' :: ·) fraction ++ rest) := by
  cases fraction with
  | none => exact h.mono fun c hc => by simp [continuesDecimal, hc]
  | some digits => exact clear_cons.2 (by decide)

/-- A number is read in one way only, if no character that could continue it comes next. -/
theorem Numeral.unique {numeral numeral' : Numeral} {rest rest' : List Char}
    (hclear : Clear continuesNumber rest) (hclear' : Clear continuesNumber rest')
    (heq : numeral.text ++ rest = numeral'.text ++ rest') : numeral = numeral' ∧ rest = rest' := by
  obtain ⟨sign, whole, fraction, exponent, hsign, hwhole, hzero, hfraction⟩ := numeral
  obtain ⟨sign', whole', fraction', exponent', hsign', hwhole', hzero', hfraction'⟩ := numeral'
  simp only [Numeral.text, List.append_assoc] at heq
  obtain ⟨rfl, hmagnitude⟩ := sign_unique (by simp_all [signs]) (by simp_all [signs])
    (clear_append_of_isDigits hwhole _) (clear_append_of_isDigits hwhole' _) heq
  obtain ⟨rfl, htail⟩ := digits_unique hwhole hwhole'
    (clear_fraction (clear_exponent hclear _) _) (clear_fraction (clear_exponent hclear' _) _)
    hmagnitude
  obtain ⟨rfl, hscale⟩ := fraction_unique hfraction hfraction'
    (clear_exponent hclear _) (clear_exponent hclear' _) htail
  obtain ⟨rfl, rfl⟩ := optionalExponent_unique hclear hclear' hscale
  exact ⟨rfl, rfl⟩

/-- The character can begin a number. -/
def beginsNumber (c : Char) : Bool :=
  c = '-' || c.isDigit

theorem Numeral.exists_text_append_eq (numeral : Numeral) (rest : List Char) :
    ∃ c cs, numeral.text ++ rest = c :: cs ∧ beginsNumber c = true := by
  obtain ⟨sign, whole, fraction, exponent, hsign, ⟨hne, hall⟩, -, -⟩ := numeral
  cases sign with
  | some c => exact ⟨c, _, rfl, by simp [beginsNumber, hsign c rfl]⟩
  | none =>
    cases whole with
    | nil => exact absurd rfl hne
    | cons c digits => exact ⟨c, _, rfl, by simp [beginsNumber, hall c List.mem_cons_self]⟩

/-- A text that begins with a number begins with its sign or a digit. -/
theorem Numeral.begins {c : Char} {rest after : List Char} {numeral : Numeral}
    (h : c :: rest = numeral.text ++ after) : beginsNumber c = true := by
  obtain ⟨d, cs, htext, hd⟩ := numeral.exists_text_append_eq after
  cases h.trans htext
  exact hd

/-! ### Phrases -/

namespace Phrase

/-- Two phrases of the same sort. -/
def Alike : Phrase → Phrase → Prop
  | .value _, .value _ | .elements _, .elements _ => True
  | .member _, .member _ | .members _, .members _ => True
  | _, _ => False

/-- A phrase that stands between separators. -/
def IsItem : Phrase → Prop
  | .value _ | .member _ => True
  | _ => False

end Phrase

/-- The characters that separate the items of arrays and objects, and that close these. -/
def separators : List Char := [',', ']', '\x7d']

theorem isWhite_eq_false_of_beginsNumber {c : Char} (h : beginsNumber c = true) :
    isWhite c = false := by
  rw [isWhite, decide_eq_false_iff_not]
  intro hmem
  have hwhite : ∀ c ∈ whiteSpace, beginsNumber c = false := by simp [whiteSpace, beginsNumber]
  rw [hwhite c hmem] at h
  cases h

/-- No item begins with white space. -/
theorem Reads.clear_isWhite {item : Phrase} {before after : List Char} (h : Reads item before after)
    (hitem : item.IsItem) : Clear isWhite before := by
  cases h with
  | @number numeral _ _ htext =>
    obtain ⟨c, cs, hcons, hc⟩ := numeral.exists_text_append_eq after
    rw [htext, hcons, clear_cons]
    exact isWhite_eq_false_of_beginsNumber hc
  | lastElement | element | lastMember | member => exact hitem.elim
  | _ => exact clear_cons.2 (by decide)

/-- A separator is no white space and continues no number. -/
theorem clear_separator {c : Char} (hc : c ∈ separators) (rest : List Char) :
    Clear isWhite (c :: rest) ∧ Clear continuesNumber (c :: rest) := by
  have h : ∀ c ∈ separators, isWhite c = false ∧ continuesNumber c = false := by
    simp [separators, isWhite, whiteSpace, continuesNumber, continuesDecimal, exponentMarks]
  exact ⟨clear_cons.2 (h c hc).1, clear_cons.2 (h c hc).2⟩

/-- White space does not continue a number either. -/
theorem Space.clear_continuesNumber {stop after : List Char} (h : Space stop after)
    (hclear : Clear continuesNumber after) : Clear continuesNumber stop := by
  have hwhite : ∀ c ∈ whiteSpace, continuesNumber c = false := by
    simp [whiteSpace, continuesNumber, continuesDecimal, exponentMarks]
  cases h with
  | nil => exact hclear
  | cons head _ => exact clear_cons.2 (hwhite _ head)

/-- The phrase is the only one of its sort that stands there, if no character that could continue a
number comes next. -/
def OnlyReading (phrase : Phrase) (before after : List Char) : Prop :=
  ∀ ⦃phrase' : Phrase⦄ ⦃after' : List Char⦄, Reads phrase' before after' → phrase.Alike phrase' →
    Clear continuesNumber after → Clear continuesNumber after' → phrase = phrase' ∧ after = after'

/-! ### Lists of items -/

/-- One or more items with the character that closes their list.  The first item is the last one, or
a comma and the list of the others follow. -/
inductive Listing {α : Type} (item : α → Phrase) (list : List α → Phrase) (close : Char) :
    List α → List Char → List Char → Prop
  | last {x : α} {before start stop after : List Char} (hstart : Space before start)
      (hitem : Reads (item x) start stop) (hstop : Space stop (close :: after)) :
      Listing item list close [x] before after
  | cons {x : α} {xs : List α} {before start stop next after : List Char}
      (hstart : Space before start) (hitem : Reads (item x) start stop)
      (hstop : Space stop (',' :: next)) (hlist : Reads (list xs) next after) :
      Listing item list close (x :: xs) before after

theorem Reads.listing_elements {values : List Value} {before after : List Char}
    (h : Reads (.elements values) before after) :
    Listing .value .elements ']' values before after := by
  cases h with
  | lastElement hstart hvalue hstop => exact .last hstart hvalue hstop
  | element hstart hvalue hstop hvalues => exact .cons hstart hvalue hstop hvalues

theorem Reads.listing_members {members : List (String × Value)} {before after : List Char}
    (h : Reads (.members members) before after) :
    Listing .member .members '\x7d' members before after := by
  cases h with
  | lastMember hstart hmember hstop => exact .last hstart hmember hstop
  | member hstart hmember hstop hmembers => exact .cons hstart hmember hstop hmembers

/-- What the two sorts of lists have in common. -/
structure Listable {α : Type} (item : α → Phrase) (close : Char) : Prop where
  /-- The phrase of an item tells the item. -/
  injective : Function.Injective item
  /-- It stands between separators. -/
  isItem : ∀ x, (item x).IsItem
  /-- All items are of one sort. -/
  alike : ∀ x y, (item x).Alike (item y)
  /-- No item begins with the character that closes the list. -/
  notReads : ∀ x rest after, ¬ Reads (item x) (close :: rest) after
  /-- This character is a separator, and not the comma. -/
  close_mem : close ∈ separators
  close_ne : close ≠ ','

theorem listable_value : Listable .value ']' where
  injective _ _ h := Phrase.value.inj h
  isItem _ := trivial
  alike _ _ := trivial
  notReads value rest after h := by
    cases h with
    | number htext => exact absurd (Numeral.begins htext) (by decide)
  close_mem := by decide
  close_ne := by decide

theorem listable_member : Listable .member '\x7d' where
  injective _ _ h := Phrase.member.inj h
  isItem _ := trivial
  alike _ _ := trivial
  notReads member rest after h := by cases h
  close_mem := by decide
  close_ne := by decide

namespace Listing

variable {α : Type} {item : α → Phrase} {list : List α → Phrase} {close : Char} {x : α}
  {xs xs' : List α} {before start stop next after after' : List Char}

/-- A list with an item is not an empty one. -/
theorem not_space (hlistable : Listable item close) (h : Listing item list close xs before after) :
    ¬ Space before (close :: after') := by
  intro hspace
  obtain ⟨hwhite, -⟩ := clear_separator hlistable.close_mem after'
  cases h with
  | last hstart hitem _ | cons hstart hitem _ _ =>
    obtain rfl := hspace.unique hstart hwhite (hitem.clear_isWhite (hlistable.isItem _))
    exact hlistable.notReads _ _ _ hitem

/-- Up to the separator after it, the first item is read in one way only. -/
theorem first_unique (hlistable : Listable item close) {y : α} {c c' : Char}
    {start' stop' : List Char} (hstart : Space before start) (hitem : Reads (item x) start stop)
    (hstop : Space stop (c :: after)) (ih : OnlyReading (item x) start stop)
    (hstart' : Space before start') (hitem' : Reads (item y) start' stop')
    (hstop' : Space stop' (c' :: after')) (hc : c ∈ separators) (hc' : c' ∈ separators) :
    x = y ∧ c = c' ∧ after = after' := by
  obtain rfl := hstart.unique hstart' (hitem.clear_isWhite (hlistable.isItem x))
    (hitem'.clear_isWhite (hlistable.isItem y))
  obtain ⟨hwhite, hnumber⟩ := clear_separator hc after
  obtain ⟨hwhite', hnumber'⟩ := clear_separator hc' after'
  obtain ⟨hsame, rfl⟩ := ih hitem' (hlistable.alike x y) (hstop.clear_continuesNumber hnumber)
    (hstop'.clear_continuesNumber hnumber')
  cases hstop.unique hstop' hwhite hwhite'
  exact ⟨hlistable.injective hsame, rfl, rfl⟩

/-- A list of one item is read in one way only. -/
theorem last_unique (hlistable : Listable item close) (hstart : Space before start)
    (hitem : Reads (item x) start stop) (hstop : Space stop (close :: after))
    (ih : OnlyReading (item x) start stop) (h' : Listing item list close xs' before after') :
    [x] = xs' ∧ after = after' := by
  cases h' with
  | last hstart' hitem' hstop' =>
    obtain ⟨rfl, -, rfl⟩ := first_unique hlistable hstart hitem hstop ih hstart' hitem' hstop'
      hlistable.close_mem hlistable.close_mem
    exact ⟨rfl, rfl⟩
  | cons hstart' hitem' hstop' _ =>
    obtain ⟨-, hclose, -⟩ := first_unique hlistable hstart hitem hstop ih hstart' hitem' hstop'
      hlistable.close_mem (by decide)
    exact absurd hclose hlistable.close_ne

/-- A longer list is read in one way only if this holds for the rest of it. -/
theorem cons_unique (hlistable : Listable item close) (hstart : Space before start)
    (hitem : Reads (item x) start stop) (hstop : Space stop (',' :: next))
    (ih : OnlyReading (item x) start stop)
    (ihlist : ∀ ys, Reads (list ys) next after' → xs = ys ∧ after = after')
    (h' : Listing item list close xs' before after') : x :: xs = xs' ∧ after = after' := by
  cases h' with
  | last hstart' hitem' hstop' =>
    obtain ⟨-, hclose, -⟩ := first_unique hlistable hstart hitem hstop ih hstart' hitem' hstop'
      (by decide) hlistable.close_mem
    exact absurd hclose.symm hlistable.close_ne
  | cons hstart' hitem' hstop' hlist' =>
    obtain ⟨rfl, -, rfl⟩ := first_unique hlistable hstart hitem hstop ih hstart' hitem' hstop'
      (by decide) (by decide)
    obtain ⟨rfl, rfl⟩ := ihlist _ hlist'
    exact ⟨rfl, rfl⟩

end Listing

/-! ### Each sort of phrase -/

section

variable {before after : List Char}

theorem onlyReading_number {numeral : Numeral} (h : before = numeral.text ++ after) :
    OnlyReading (.value (.number numeral.value)) before after := by
  intro phrase' after' h' halike hclear hclear'
  cases h' with
  | number h' =>
    obtain ⟨rfl, rfl⟩ := Numeral.unique hclear hclear' (h.symm.trans h')
    exact ⟨rfl, rfl⟩
  | nameAndValue | lastElement | element | lastMember | member => exact halike.elim
  | _ => exact absurd (Numeral.begins h) (by decide)

theorem onlyReading_emptyArray (h : Space before (']' :: after)) :
    OnlyReading (.value (.array [])) ('[' :: before) after := by
  intro phrase' after' h' halike hclear hclear'
  cases h' with
  | emptyArray h' =>
    cases h.unique h' (clear_cons.2 (by decide)) (clear_cons.2 (by decide))
    exact ⟨rfl, rfl⟩
  | array h' => exact absurd h (h'.listing_elements.not_space listable_value)
  | number htext => exact absurd (Numeral.begins htext) (by decide)
  | _ => exact halike.elim

theorem onlyReading_array {values : List Value} (h : Reads (.elements values) before after)
    (ih : OnlyReading (.elements values) before after) :
    OnlyReading (.value (.array values)) ('[' :: before) after := by
  intro phrase' after' h' halike hclear hclear'
  cases h' with
  | emptyArray h' => exact absurd h' (h.listing_elements.not_space listable_value)
  | array h' =>
    obtain ⟨⟨⟩, rfl⟩ := ih h' trivial hclear hclear'
    exact ⟨rfl, rfl⟩
  | number htext => exact absurd (Numeral.begins htext) (by decide)
  | _ => exact halike.elim

theorem onlyReading_emptyObject (h : Space before ('\x7d' :: after)) :
    OnlyReading (.value (.object [])) ('\x7b' :: before) after := by
  intro phrase' after' h' halike hclear hclear'
  cases h' with
  | emptyObject h' =>
    cases h.unique h' (clear_cons.2 (by decide)) (clear_cons.2 (by decide))
    exact ⟨rfl, rfl⟩
  | object h' => exact absurd h (h'.listing_members.not_space listable_member)
  | number htext => exact absurd (Numeral.begins htext) (by decide)
  | _ => exact halike.elim

theorem onlyReading_object {members : List (String × Value)}
    (h : Reads (.members members) before after)
    (ih : OnlyReading (.members members) before after) :
    OnlyReading (.value (.object members)) ('\x7b' :: before) after := by
  intro phrase' after' h' halike hclear hclear'
  cases h' with
  | emptyObject h' => exact absurd h' (h.listing_members.not_space listable_member)
  | object h' =>
    obtain ⟨⟨⟩, rfl⟩ := ih h' trivial hclear hclear'
    exact ⟨rfl, rfl⟩
  | number htext => exact absurd (Numeral.begins htext) (by decide)
  | _ => exact halike.elim

theorem onlyReading_member {name : List Char} {value : Value} {colon between start : List Char}
    (hname : Characters name before colon) (hcolon : Space colon (':' :: between))
    (hstart : Space between start) (hvalue : Reads (.value value) start after)
    (ih : OnlyReading (.value value) start after) :
    OnlyReading (.member (String.ofList name, value)) ('"' :: before) after := by
  intro phrase' after' h' halike hclear hclear'
  cases h' with
  | nameAndValue hname' hcolon' hstart' hvalue' =>
    obtain ⟨rfl, rfl⟩ := hname.unique hname'
    cases hcolon.unique hcolon' (clear_cons.2 (by decide)) (clear_cons.2 (by decide))
    obtain rfl := hstart.unique hstart' (hvalue.clear_isWhite trivial)
      (hvalue'.clear_isWhite trivial)
    obtain ⟨⟨⟩, rfl⟩ := ih hvalue' trivial hclear hclear'
    exact ⟨rfl, rfl⟩
  | _ => exact halike.elim

/-- A sequence of elements, if all of its readings are the same. -/
theorem onlyReading_elements {values : List Value}
    (h : ∀ ⦃values' after'⦄, Listing .value .elements ']' values' before after' →
      Clear continuesNumber after → Clear continuesNumber after' →
        values = values' ∧ after = after') : OnlyReading (.elements values) before after := by
  intro phrase' after' h' halike hclear hclear'
  cases phrase' with
  | elements values' =>
    obtain ⟨rfl, rfl⟩ := h h'.listing_elements hclear hclear'
    exact ⟨rfl, rfl⟩
  | _ => exact halike.elim

/-- A sequence of members, if all of its readings are the same. -/
theorem onlyReading_members {members : List (String × Value)}
    (h : ∀ ⦃members' after'⦄, Listing .member .members '\x7d' members' before after' →
      Clear continuesNumber after → Clear continuesNumber after' →
        members = members' ∧ after = after') : OnlyReading (.members members) before after := by
  intro phrase' after' h' halike hclear hclear'
  cases phrase' with
  | members members' =>
    obtain ⟨rfl, rfl⟩ := h h'.listing_members hclear hclear'
    exact ⟨rfl, rfl⟩
  | _ => exact halike.elim

end

/-- Of each sort, a phrase is read in one way only, if no character that could continue a number
comes next. -/
theorem Reads.unique {phrase : Phrase} {before after : List Char}
    (h : Reads phrase before after) : OnlyReading phrase before after := by
  -- Where the reading begins with a certain character, another one can only be of the same kind, or
  -- a number, which begins with none of these characters.
  induction h with
  | null | true | false =>
    intro phrase' after' h' halike _ _
    cases h' with
    | number htext => exact absurd (Numeral.begins htext) (by decide)
    | _ => first | exact ⟨rfl, rfl⟩ | exact halike.elim
  | number htext => exact onlyReading_number htext
  | string hcs =>
    intro phrase' after' h' halike _ _
    cases h' with
    | string hcs' =>
      obtain ⟨rfl, rfl⟩ := hcs.unique hcs'
      exact ⟨rfl, rfl⟩
    | number htext => exact absurd (Numeral.begins htext) (by decide)
    | _ => exact halike.elim
  | emptyArray hspace => exact onlyReading_emptyArray hspace
  | array h ih => exact onlyReading_array h ih
  | emptyObject hspace => exact onlyReading_emptyObject hspace
  | object h ih => exact onlyReading_object h ih
  | lastElement hstart hvalue hstop ih =>
    exact onlyReading_elements fun _ _ h' _ _ =>
      Listing.last_unique listable_value hstart hvalue hstop ih h'
  | element hstart hvalue hstop _ ih ihvalues =>
    refine onlyReading_elements fun values' after' h' hclear hclear' =>
      Listing.cons_unique listable_value hstart hvalue hstop ih (fun ys hys => ?_) h'
    obtain ⟨⟨⟩, rfl⟩ := ihvalues hys trivial hclear hclear'
    exact ⟨rfl, rfl⟩
  | nameAndValue hname hcolon hstart hvalue ih =>
    exact onlyReading_member hname hcolon hstart hvalue ih
  | lastMember hstart hmember hstop ih =>
    exact onlyReading_members fun _ _ h' _ _ =>
      Listing.last_unique listable_member hstart hmember hstop ih h'
  | member hstart hmember hstop _ ih ihmembers =>
    refine onlyReading_members fun members' after' h' hclear hclear' =>
      Listing.cons_unique listable_member hstart hmember hstop ih (fun ys hys => ?_) h'
    obtain ⟨⟨⟩, rfl⟩ := ihmembers hys trivial hclear hclear'
    exact ⟨rfl, rfl⟩

/-- A text denotes at most one value. -/
theorem Denotes.unique {text : String} {value value' : Value} (h : Denotes text value)
    (h' : Denotes text value') : value = value' := by
  obtain ⟨start, stop, hstart, hvalue, hstop⟩ := h
  obtain ⟨start', stop', hstart', hvalue', hstop'⟩ := h'
  obtain rfl := hstart.unique hstart' (hvalue.clear_isWhite trivial) (hvalue'.clear_isWhite trivial)
  obtain ⟨⟨⟩, -⟩ := hvalue.unique hvalue' trivial (hstop.clear_continuesNumber (clear_nil _))
    (hstop'.clear_continuesNumber (clear_nil _))
  rfl

end SumGreeting.Json
