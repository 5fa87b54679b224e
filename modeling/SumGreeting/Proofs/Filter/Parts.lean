import SumGreeting.Log.Filter

/-!
# The parts of the text of a filter

A text denotes a filter if each of its parts between commas denotes a directive, empty parts apart.
Otherwise the first part off which no directive is read decides what becomes of the text.

## Main definitions

* `Filter.parts` : the parts of a text between commas, without the empty ones.
* `Filter.firstRefusal?` : why no directive is read off the first part that gives none.
* `Filter.Accepts`, `Filter.Rejects` : a text that denotes a filter, and one that has a fault.

## Main results

* `Filter.ofText_eq_error_iff` : which texts denote no filter.
* `Filter.accepts_iff` : a text is accepted by its parts.
* `Filter.exists_first_of_ofText_eq_error` : the first part that is to blame.
-/

namespace SumGreeting

/-- Why no directive is read off a text, if there is a reason. -/
def Directive.refusal? (reader : Directive.Reader) (text : List Char) : Option Directive.Refusal :=
  match reader text with
  | .ok _ => none
  | .error refusal => some refusal

namespace Directive

variable {reader : Reader} {text : List Char} {refusal : Refusal}

theorem refusal?_eq_some_iff :
    refusal? reader text = some refusal ↔ reader text = .error refusal := by
  rw [refusal?]
  cases reader text <;> simp

theorem refusal?_eq_none_iff :
    refusal? reader text = none ↔ ∃ directive, reader text = .ok directive := by
  rw [refusal?]
  cases reader text <;> simp

end Directive

namespace Filter

variable {reader : Directive.Reader} {text : String} {refusal : Directive.Refusal}

/-! ### Parts -/

/-- The parts of a text between its commas that are not empty. -/
def parts (text : String) : List (List Char) :=
  (text.toList.splitOn ',').filter fun part => !part.isEmpty

theorem commaParts_eq_splitOn (text : List Char) : commaParts text = text.splitOn ',' := by
  induction text with
  | nil => rfl
  | cons c rest ih =>
    rw [commaParts, ih, List.splitOn_cons_eq_if_modifyHead]
    by_cases hc : c = ','
    · rw [if_pos hc, if_pos (beq_iff_eq.2 hc)]
    · rw [if_neg hc, if_neg (mt beq_iff_eq.1 hc)]
      cases hrest : rest.splitOn ',' with
      | nil => exact absurd hrest (List.splitOn_ne_nil _ _)
      | cons part parts => rfl

/-- The parts of a text have no other characters than the text. -/
theorem mem_of_mem_commaParts {chars part : List Char} (h : part ∈ commaParts chars) {c : Char}
    (hc : c ∈ part) : c ∈ chars := by
  induction chars generalizing part with
  | nil =>
    rw [commaParts, List.mem_singleton] at h
    rwa [h] at hc
  | cons d rest ih =>
    rw [commaParts] at h
    split at h
    · rcases List.mem_cons.1 h with rfl | h
      · cases hc
      · exact List.mem_cons_of_mem d (ih h hc)
    · cases hrest : commaParts rest with
      | nil =>
        rw [hrest, List.mem_singleton] at h
        rw [h, List.mem_singleton] at hc
        exact hc ▸ List.mem_cons_self
      | cons first others =>
        rw [hrest] at h ih
        rcases List.mem_cons.1 h with rfl | h
        · rcases List.mem_cons.1 hc with rfl | hc
          · exact List.mem_cons_self
          · exact List.mem_cons_of_mem d (ih List.mem_cons_self hc)
        · exact List.mem_cons_of_mem d (ih (List.mem_cons_of_mem first h) hc)

theorem directiveTexts_eq_parts (text : String) : directiveTexts text = parts text := by
  rw [directiveTexts, commaParts_eq_splitOn, parts]

theorem mem_parts_iff {part : List Char} :
    part ∈ parts text ↔ part ∈ text.toList.splitOn ',' ∧ part ≠ [] := by
  rw [parts, List.mem_filter]
  simp

/-! ### Texts that denote no filter -/

/-- Why no directive is read off the first part of a text that gives none, if there is one. -/
def firstRefusal? (reader : Directive.Reader) (text : String) : Option Directive.Refusal :=
  (parts text).findSome? (Directive.refusal? reader)

theorem readAll_eq_error_iff {texts : List (List Char)} :
    readAll reader texts = .error refusal ↔
      texts.findSome? (Directive.refusal? reader) = some refusal := by
  induction texts with
  | nil => simp [readAll]
  | cons text texts ih =>
    rw [readAll, List.findSome?_cons, Directive.refusal?]
    cases reader text with
    | error refusal' => simp
    | ok directive =>
      dsimp only
      rw [← ih]
      cases readAll reader texts <;> simp

/-- A text denotes no filter exactly if no directive is read off one of its parts; the first such
part says why. -/
theorem ofText_eq_error_iff :
    ofText reader text = .error refusal ↔ firstRefusal? reader text = some refusal := by
  rw [firstRefusal?, ← directiveTexts_eq_parts, ← readAll_eq_error_iff, ofText]
  cases readAll reader (directiveTexts text) <;> simp

/-- The first part that is to blame for a text that denotes no filter. -/
theorem exists_first_of_ofText_eq_error (h : ofText reader text = .error refusal) :
    ∃ before part after, parts text = before ++ part :: after ∧
      (∀ p ∈ before, ∃ directive, reader p = .ok directive) ∧ reader part = .error refusal := by
  obtain ⟨before, part, after, hparts, hpart, hbefore⟩ :=
    List.findSome?_eq_some_iff.1 (ofText_eq_error_iff.1 h)
  exact ⟨before, part, after, hparts,
    fun p hp => Directive.refusal?_eq_none_iff.1 (hbefore p hp),
    Directive.refusal?_eq_some_iff.1 hpart⟩

/-! ### Texts that are accepted -/

/-- The text denotes a filter. -/
def Accepts (reader : Directive.Reader) (text : String) : Prop :=
  ∃ filter, ofText reader text = .ok filter

/-- The text has a fault and so denotes no filter. -/
def Rejects (reader : Directive.Reader) (text : String) : Prop :=
  ∃ fault, ofText reader text = .error (.fault fault)

theorem accepts_iff_firstRefusal?_eq_none :
    Accepts reader text ↔ firstRefusal? reader text = none := by
  constructor
  · rintro ⟨filter, hfilter⟩
    refine Option.eq_none_iff_forall_ne_some.2 fun refusal hrefusal => ?_
    cases hfilter.symm.trans (ofText_eq_error_iff.2 hrefusal)
  · intro hrefusal
    cases hfilter : ofText reader text with
    | ok filter => exact ⟨filter, hfilter⟩
    | error refusal => cases hrefusal.symm.trans (ofText_eq_error_iff.1 hfilter)

/-- A text is accepted exactly if each of its parts denotes a directive. -/
theorem accepts_iff :
    Accepts reader text ↔ ∀ part ∈ parts text, ∃ directive, reader part = .ok directive := by
  simp only [accepts_iff_firstRefusal?_eq_none, firstRefusal?, List.findSome?_eq_none_iff,
    Directive.refusal?_eq_none_iff]

end Filter

end SumGreeting
