import SumGreeting.Proofs.Json.Grammar
import SumGreeting.Proofs.Lines
import SumGreeting.Report

/-!
# What is written is in the grammar of JSON

The form of a character, the string literal of a text, the decimal form of an integer and the
object of a report are all in the grammar, and denote what they are the form of.

## Main definitions

* `Json.NoControl` : no control character below the space.
* `Json.Numeral.ofInt` : the parts of the decimal form of an integer.
* `Report.object` : the object of a report, without the line break after it.

## Main results

* `Json.character_escape`, `Json.reads_encode` : the forms of characters and texts.
* `Json.reads_repr` : the decimal form of an integer.
* `Report.denotes_object`, `Report.noControl_object` : the object of a report.
-/

namespace SumGreeting

namespace Json

open CommandLine (IsDigits)

/-! ### Control characters -/

/-- There is no control character below the space. -/
def NoControl (text : List Char) : Prop :=
  ∀ c ∈ text, 0x20 ≤ c.toNat

instance (text : List Char) : Decidable (NoControl text) :=
  List.decidableBAll _ _

theorem noControl_cons_iff {c : Char} {text : List Char} :
    NoControl (c :: text) ↔ 0x20 ≤ c.toNat ∧ NoControl text :=
  List.forall_mem_cons

theorem noControl_append_iff {text rest : List Char} :
    NoControl (text ++ rest) ↔ NoControl text ∧ NoControl rest :=
  List.forall_mem_append

/-! ### Strings -/

theorem hexDigit?_digitChar : ∀ n < 16, hexDigit? n.digitChar = some n := by
  decide

theorem codeUnit?_digitChar {n : Nat} (h : n < 0x100) (rest : List Char) :
    codeUnit? ('0' :: '0' :: (n / 16).digitChar :: (n % 16).digitChar :: rest) =
      some (n, rest) := by
  have hzero : hexDigit? '0' = some 0 := by decide
  simp only [codeUnit?, hzero, hexDigit?_digitChar (n / 16) (by omega),
    hexDigit?_digitChar (n % 16) (by omega), Option.bind_eq_bind, Option.bind_some,
    Option.some.injEq, Prod.mk.injEq, and_true]
  omega

/-- The form of a character denotes it. -/
theorem character_escape (c : Char) (rest : List Char) : Character c (escape c ++ rest) rest := by
  fun_cases escape c with
  | case8 c _ _ _ _ _ _ _ hcontrol => exact .unit (codeUnit?_digitChar (by omega) rest)
  | case9 c hquote hbackslash _ _ _ _ _ hcontrol =>
    exact .plain rest (by omega) hquote hbackslash
  | _ => exact .mark rest (by decide)

theorem characters_escape (text rest : List Char) :
    Characters text (text.flatMap escape ++ '"' :: rest) rest := by
  induction text with
  | nil => exact .nil rest
  | cons c text ih =>
    rw [List.flatMap_cons, List.append_assoc]
    exact .cons (character_escape c _) ih

/-- The string literal of a text denotes it. -/
theorem reads_encode (text : String) (rest : List Char) :
    Reads (.value (.string text)) (encode text.toList ++ rest) rest := by
  have h := Reads.string (characters_escape text.toList rest)
  rw [String.ofList_toList] at h
  simpa [encode] using h

/-- No form of a character contains a control character below the space. -/
theorem noControl_escape (c : Char) : NoControl (escape c) := by
  have hdigit : ∀ n < 16, 0x20 ≤ (Nat.digitChar n).toNat := by decide
  fun_cases escape c with
  | case8 c _ _ _ _ _ _ _ hcontrol =>
    simp only [noControl_cons_iff]
    exact ⟨by decide, by decide, by decide, by decide, hdigit _ (by omega), hdigit _ (by omega),
      by decide⟩
  | case9 c _ _ _ _ _ _ _ hcontrol => exact noControl_cons_iff.2 ⟨by omega, by decide⟩
  | _ => decide

theorem noControl_encode (text : List Char) : NoControl (encode text) := by
  refine noControl_cons_iff.2 ⟨by decide, noControl_append_iff.2 ⟨fun c hc => ?_, by decide⟩⟩
  obtain ⟨d, -, hd⟩ := List.mem_flatMap.1 hc
  exact noControl_escape d c hd

/-! ### Numbers -/

/-- The decimal form of a number other than zero does not begin with a zero. -/
theorem head?_toDigits_ne {n : Nat} (h : 0 < n) : (Nat.toDigits 10 n).head? ≠ some '0' := by
  induction n using Nat.strongRecOn with
  | ind n ih =>
    rcases Nat.lt_or_ge n 10 with hlt | hge
    · have hdigit : ∀ n < 10, 0 < n → n.digitChar ≠ '0' := by decide
      rw [Nat.toDigits_of_lt_base hlt, List.head?_cons, ne_eq, Option.some.injEq]
      exact hdigit n hlt h
    · rw [Nat.toDigits_of_base_le (by decide) hge, List.head?_append,
        Option.or_of_isSome (List.isSome_head?.2 Nat.toDigits_ne_nil)]
      exact ih (n / 10) (by omega) (by omega)

theorem isDigits_toDigits (n : Nat) : IsDigits (Nat.toDigits 10 n) :=
  ⟨Nat.toDigits_ne_nil, fun _ => Nat.isDigit_of_mem_toDigits (by decide) (by decide)⟩

/-- The parts of the decimal form of an integer. -/
def Numeral.ofInt (n : Int) : Numeral where
  sign := if n < 0 then some '-' else none
  whole := Nat.toDigits 10 n.natAbs
  fraction := none
  exponent := none
  sign_eq := by simp
  isDigits_whole := isDigits_toDigits _
  whole_eq_zero h := by
    obtain hzero | hpos := Nat.eq_zero_or_pos n.natAbs
    · rw [hzero]
      rfl
    · exact absurd h (head?_toDigits_ne hpos)
  isDigits_fraction := by simp

namespace Numeral

theorem text_ofInt (n : Int) : (ofInt n).text = n.repr.toList := by
  cases n with
  | ofNat n =>
    have hn : ¬ Int.ofNat n < 0 := by simp
    simp only [text, ofInt, if_neg hn, optional, Int.repr, Nat.repr_eq_ofList_toDigits,
      String.toList_ofList, List.nil_append, List.append_nil, Int.natAbs_ofNat']
  | negSucc n =>
    simp [text, ofInt, optional, Int.repr, Nat.repr_eq_ofList_toDigits, Int.negSucc_lt_zero]

theorem value_ofInt (n : Int) : (ofInt n).value = n := by
  cases n with
  | ofNat n => simp [value, ofInt, signed, Nat.ofDigitChars_ten_toDigits]
  | negSucc n =>
    simp [value, ofInt, signed, Nat.ofDigitChars_ten_toDigits, Int.negSucc_lt_zero]

end Numeral

/-- The decimal form of an integer denotes it. -/
theorem reads_repr (n : Int) (rest : List Char) :
    Reads (.value (.number n)) (n.repr.toList ++ rest) rest := by
  rw [← Numeral.value_ofInt, ← Numeral.text_ofInt]
  exact .number rfl

theorem noControl_repr (n : Int) : NoControl n.repr.toList := by
  intro c hc
  have hcontrol := isOneLine_repr n c hc
  simp only [isControl, Bool.or_eq_false_iff, decide_eq_false_iff_not] at hcontrol
  omega

/-! ### Objects -/

/-- A string literal and a text that denotes a value, with a colon between them, are a member. -/
theorem reads_member {value : Value} {text rest : List Char} (name : String)
    (h : Reads (.value value) text rest) :
    Reads (.member (name, value)) (encode name.toList ++ ':' :: text) rest := by
  have hname := characters_escape name.toList (':' :: text)
  have hmember := Reads.nameAndValue hname (.nil _) (.nil _) h
  rw [String.ofList_toList] at hmember
  simpa [encode] using hmember

end Json

namespace Report

/-- The object of a report: its rendering without the line break at the end. -/
def object (report : Report) : String :=
  "\x7b\"sum\":" ++ report.sum.toInt.repr ++ ",\"greeting\":" ++ Json.quote report.greeting ++
    "\x7d"

theorem renderJson_eq (report : Report) : report.renderJson = report.object ++ "\n" := by
  have hend : "\x7d\n" = "\x7d" ++ "\n" := rfl
  rw [renderJson, object, hend, ← String.append_assoc]

theorem toList_object (report : Report) :
    report.object.toList = '\x7b' :: (Json.encode "sum".toList ++ ':' ::
      (report.sum.toInt.repr.toList ++ ',' :: (Json.encode "greeting".toList ++ ':' ::
        (Json.encode report.greeting.toList ++ ['\x7d'])))) := by
  have hsum : Json.encode "sum".toList = "\"sum\"".toList := by decide
  have hgreeting : Json.encode "greeting".toList = "\"greeting\"".toList := by decide
  rw [hsum, hgreeting, object]
  simp

/-- The object of a report denotes its sum and its greeting, under these names and in this
order. -/
theorem denotes_object (report : Report) :
    Json.Denotes report.object (.object [("sum", .number report.sum.toInt),
      ("greeting", .string report.greeting)]) := by
  have hgreeting := Json.reads_member "greeting"
    (Json.reads_encode report.greeting ['\x7d'])
  have hsum := Json.reads_member "sum" (Json.reads_repr report.sum.toInt
    (',' :: (Json.encode "greeting".toList ++ ':' ::
      (Json.encode report.greeting.toList ++ ['\x7d']))))
  have hmembers := Json.Reads.member (.nil _) hsum (.nil _)
    (Json.Reads.lastMember (.nil _) hgreeting (.nil _))
  refine ⟨_, [], .nil _, ?_, .nil _⟩
  rw [toList_object]
  exact .object hmembers

/-- The object of a report contains no control character below the space. -/
theorem noControl_object (report : Report) : Json.NoControl report.object.toList := by
  simp only [toList_object, Json.noControl_cons_iff, Json.noControl_append_iff]
  exact ⟨by decide, Json.noControl_encode _, by decide, Json.noControl_repr _, by decide,
    Json.noControl_encode _, by decide, Json.noControl_encode _, by decide⟩

end Report

end SumGreeting
