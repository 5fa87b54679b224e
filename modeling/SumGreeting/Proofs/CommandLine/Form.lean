import Mathlib.Data.List.TakeWhile
import SumGreeting.CommandLine.Argument
import SumGreeting.CommandLine.OptionName
import SumGreeting.Proofs.CommandLine.Numeral

/-!
# Spelling of an argument

The form of an argument is decided by its bytes.  Where the argument is a text, the bytes that
matter are single characters: the dash, the equals sign, the letters of the options and the digits.

## Main results

* `Utf8.head?_encode_eq_some_iff` : a byte that is a character begins exactly the texts that begin
  with this character.
* `Argument.bytes_of_ofText` : the bytes of an argument by its form.
* `Argument.ofText_long`, `Argument.ofText_long_value`, `Argument.ofText_cluster`,
  `Argument.ofText_ofString_eq_plain_iff` : the forms of arguments that are texts.
* `Argument.ofText_of_isNumeral` : a numeral is no option, or its letters look numeric.
-/

namespace SumGreeting

/-! ### Bytes that are characters -/

/-- A text that begins with the byte of a character begins with the character. -/
theorem Utf8.exists_of_encode_eq_cons {text : String} {c : Char} {byte : UInt8}
    {rest : List UInt8} (hc : String.utf8EncodeChar c = [byte])
    (h : Utf8.encode text = byte :: rest) :
    ∃ tail : String, text = String.singleton c ++ tail ∧ Utf8.encode tail = rest := by
  have hsplit : Utf8.encode text = String.utf8EncodeChar c ++ rest := by
    rw [h, hc, List.singleton_append]
  cases htext : text.toList with
  | nil =>
    rw [Utf8.encode, htext] at h
    cases h
  | cons d chars =>
    rw [Utf8.encode, htext, List.flatMap_cons] at hsplit
    have hd : d = c := by
      have hfirst := congrArg Utf8.firstChar? hsplit
      rw [Utf8.firstChar?_append, Utf8.firstChar?_append] at hfirst
      exact Option.some.inj hfirst
    subst hd
    refine ⟨String.ofList chars, ?_, ?_⟩
    · rw [← String.toList_inj]
      simp [htext]
    · rw [Utf8.encode, String.toList_ofList]
      exact List.append_cancel_left hsplit

theorem Utf8.head?_encode_eq_some_iff {text : String} {c : Char} {byte : UInt8}
    (hc : String.utf8EncodeChar c = [byte]) :
    (Utf8.encode text).head? = some byte ↔ text.toList.head? = some c := by
  constructor
  · intro h
    obtain ⟨rest, hrest⟩ := List.head?_eq_some_iff.1 h
    obtain ⟨tail, rfl, -⟩ := Utf8.exists_of_encode_eq_cons hc hrest
    simp
  · intro h
    obtain ⟨rest, hrest⟩ := List.head?_eq_some_iff.1 h
    rw [Utf8.encode, hrest, List.flatMap_cons, hc]
    rfl

theorem OsText.eq_ofString_iff {t : OsText} {s : String} :
    t = .ofString s ↔ t.bytes = Utf8.encode s := by
  cases t
  rw [ofString, mk.injEq]

namespace CommandLine

theorem utf8EncodeChar_dash : String.utf8EncodeChar '-' = [dash] := by
  decide

theorem utf8EncodeChar_equalsSign : String.utf8EncodeChar '=' = [equalsSign] := by
  decide

theorem encode_dash : Utf8.encode "-" = [dash] := by
  decide

theorem encode_dashes : Utf8.encode "--" = [dash, dash] := by
  decide

theorem encode_equalsSign : Utf8.encode "=" = [equalsSign] := by
  decide

/-! ### Forms -/

namespace Argument

/-- The bytes behind the name of a long option that has the value, or none. -/
def valueBytes : Option OsText → List UInt8
  | none => []
  | some value => equalsSign :: value.bytes

variable {argument name value : OsText} {value? : Option OsText} {letters : List UInt8}

theorem ofText_eq_separator (h : argument.bytes = [dash, dash]) :
    ofText argument = .separator := by
  simp [ofText, h]

/-- A long option ends its name at the first equals sign. -/
theorem ofLong_append (hname : equalsSign ∉ name.bytes) (value? : Option OsText) :
    ofLong (name.bytes ++ valueBytes value?) = .long name value? := by
  have hall : ∀ byte ∈ name.bytes, decide (byte ≠ equalsSign) = true := by
    intro byte hbyte
    exact decide_eq_true fun heq => hname (heq ▸ hbyte)
  rw [ofLong, List.takeWhile_append_of_pos hall, List.dropWhile_append_of_pos hall]
  cases value? with
  | none => simp [valueBytes]
  | some value => simp [valueBytes]

/-- The name and the value of a long option make up its letters. -/
theorem exists_ofLong_eq (bytes : List UInt8) :
    ∃ name value?, ofLong bytes = .long name value? ∧ bytes = name.bytes ++ valueBytes value? := by
  have happend := List.takeWhile_append_dropWhile (p := (· ≠ equalsSign)) (l := bytes)
  rw [ofLong]
  cases hrest : bytes.dropWhile (· ≠ equalsSign) with
  | nil =>
    rw [hrest] at happend
    exact ⟨_, none, rfl, happend.symm⟩
  | cons first rest =>
    have hfirst : first = equalsSign := by
      have hnot := List.head?_dropWhile_not (· ≠ equalsSign) bytes
      rw [hrest] at hnot
      simpa using hnot
    rw [hrest, hfirst] at happend
    exact ⟨_, some ⟨rest⟩, rfl, happend.symm⟩

theorem ofText_eq_long (h : argument.bytes = dash :: dash :: (name.bytes ++ valueBytes value?))
    (hne : name.bytes ≠ []) (hname : equalsSign ∉ name.bytes) :
    ofText argument = .long name value? := by
  rw [← ofLong_append hname value?]
  simp [ofText, h, hne]

theorem ofText_eq_cluster {letter : UInt8} (h : argument.bytes = dash :: letter :: letters)
    (hletter : letter ≠ dash) : ofText argument = .cluster (letter :: letters) := by
  simp [ofText, h, hletter]

theorem ofText_eq_plain (h : argument.bytes = [dash] ∨ argument.bytes.head? ≠ some dash) :
    ofText argument = .plain := by
  rw [ofText]
  rcases h with h | h
  · rw [h]
    rfl
  · split
    · rfl
    · rename_i first rest hbytes
      rw [hbytes, List.head?_cons, ne_eq, Option.some.injEq] at h
      rw [if_neg h]

/-- The bytes of an argument by its form. -/
theorem bytes_of_ofText (argument : OsText) :
    match ofText argument with
    | .separator => argument.bytes = [dash, dash]
    | .long name value? => argument.bytes = dash :: dash :: (name.bytes ++ valueBytes value?)
    | .cluster letters => argument.bytes = dash :: letters ∧ letters ≠ []
    | .plain => argument.bytes = [dash] ∨ argument.bytes.head? ≠ some dash := by
  fun_cases ofText argument with
  | case1 hbytes => exact Or.inr (by simp [hbytes])
  | case2 hbytes => exact Or.inl hbytes
  | case3 letters hempty hbytes => rw [hbytes, List.isEmpty_iff.1 hempty]
  | case4 letters _ hbytes =>
    obtain ⟨name, value?, hlong, hletters⟩ := exists_ofLong_eq letters
    rw [hlong, hbytes, hletters]
  | case5 letter letters _ hbytes => exact ⟨hbytes, List.cons_ne_nil letter letters⟩
  | case6 first rest hbytes hfirst => exact Or.inr (by simpa [hbytes] using hfirst)

end Argument

/-! ### Names and letters -/

namespace OptionName

theorem encode_long_ne_nil (option : OptionName) : Utf8.encode option.long ≠ [] := by
  cases option with
  | value option => cases option <;> decide
  | flag option => cases option <;> decide

theorem equalsSign_notMem_encode_long (option : OptionName) :
    equalsSign ∉ Utf8.encode option.long := by
  cases option with
  | value option => cases option <;> decide
  | flag option => cases option <;> decide

/-- The letters of the options are single bytes. -/
theorem utf8EncodeChar_of_letter? {option : OptionName} {c : Char} (h : option.letter? = some c) :
    String.utf8EncodeChar c = [c.toNat.toUInt8] ∧ c.toNat.toUInt8 ≠ dash ∧
      ofLetter? c.toNat.toUInt8 = some option := by
  cases option with
  | value option => cases option <;> cases h <;> decide
  | flag option => cases option <;> cases h <;> decide

theorem ne_dash_of_letter? {option : OptionName} {c : Char} (h : option.letter? = some c) :
    c ≠ '-' := by
  rintro rfl
  exact (utf8EncodeChar_of_letter? h).2.1 rfl

theorem letter?_of_ofLetter? {byte : UInt8} {option : OptionName}
    (h : ofLetter? byte = some option) :
    ∃ c, option.letter? = some c ∧ String.utf8EncodeChar c = [byte] := by
  have hbyte : option.letter?.map (fun c => c.toNat.toUInt8) = some byte := by
    simpa using List.find?_some h
  obtain ⟨c, hc, rfl⟩ := Option.map_eq_some_iff.1 hbyte
  exact ⟨c, hc, (utf8EncodeChar_of_letter? hc).1⟩

end OptionName

/-! ### Arguments that are texts -/

theorem encode_dash_append (text : String) :
    Utf8.encode ("-" ++ text) = dash :: Utf8.encode text := by
  rw [Utf8.encode_append, encode_dash, List.singleton_append]

theorem encode_dashes_append (text : String) :
    Utf8.encode ("--" ++ text) = dash :: dash :: Utf8.encode text := by
  rw [Utf8.encode_append, encode_dashes]
  rfl

theorem encode_ofList (chars : List Char) :
    Utf8.encode (String.ofList chars) = chars.flatMap String.utf8EncodeChar := by
  rw [Utf8.encode, String.toList_ofList]

theorem encode_eq_nil_iff {text : String} : Utf8.encode text = [] ↔ text = "" := by
  constructor
  · intro h
    exact Utf8.encode_injective (h.trans Utf8.encode_empty.symm)
  · rintro rfl
    exact Utf8.encode_empty

namespace Argument

theorem ofText_separator : ofText (.ofString "--") = .separator :=
  ofText_eq_separator encode_dashes

theorem ofText_long (option : OptionName) :
    ofText (.ofString ("--" ++ option.long)) = .long (.ofString option.long) none := by
  refine ofText_eq_long ?_ option.encode_long_ne_nil option.equalsSign_notMem_encode_long
  rw [valueBytes, List.append_nil]
  exact encode_dashes_append option.long

theorem ofText_long_value (option : OptionName) (text : String) :
    ofText (.ofString ("--" ++ option.long ++ "=" ++ text)) =
      .long (.ofString option.long) (some (.ofString text)) := by
  refine ofText_eq_long ?_ option.encode_long_ne_nil option.equalsSign_notMem_encode_long
  rw [String.append_assoc, String.append_assoc]
  refine (encode_dashes_append _).trans ?_
  rw [Utf8.encode_append, Utf8.encode_append, encode_equalsSign]
  rfl

theorem ofText_cluster {text : String} (hne : text ≠ "") (hdash : text.toList.head? ≠ some '-') :
    ofText (.ofString ("-" ++ text)) = .cluster (Utf8.encode text) := by
  obtain ⟨first, rest, hcons⟩ := List.exists_cons_of_ne_nil (mt encode_eq_nil_iff.1 hne)
  have hfirst : first ≠ dash := by
    rintro rfl
    refine hdash ((Utf8.head?_encode_eq_some_iff utf8EncodeChar_dash).1 ?_)
    rw [hcons, List.head?_cons]
  rw [hcons]
  refine ofText_eq_cluster ?_ hfirst
  rw [← hcons]
  exact encode_dash_append text

/-- A text without a dash in front of it, or a single dash, is no option. -/
theorem ofText_ofString_eq_plain_iff {text : String} :
    ofText (.ofString text) = .plain ↔ text = "-" ∨ text.toList.head? ≠ some '-' := by
  have hdash : (Utf8.encode text).head? = some dash ↔ text.toList.head? = some '-' :=
    Utf8.head?_encode_eq_some_iff utf8EncodeChar_dash
  have hsingle : Utf8.encode text = [dash] ↔ text = "-" := by
    rw [← encode_dash]
    exact ⟨fun h => Utf8.encode_injective h, fun h => congrArg _ h⟩
  rw [ne_eq, ← hdash, ← hsingle]
  constructor
  · intro h
    have hbytes := bytes_of_ofText (.ofString text)
    rw [h] at hbytes
    exact hbytes
  · exact ofText_eq_plain

end Argument

/-! ### Negative numbers -/

theorem utf8EncodeChar_of_isDigit {c : Char} (h : c.isDigit = true) :
    ∃ byte, String.utf8EncodeChar c = [byte] ∧ isDigitByte byte = true ∧ byte ≠ dash := by
  have hall : ∀ n : Fin 10, String.utf8EncodeChar (Char.ofNat (48 + n)) = [(48 + n.val).toUInt8] ∧
      isDigitByte (48 + n.val).toUInt8 = true ∧ (48 + n.val).toUInt8 ≠ dash := by
    decide
  have hrange : 48 ≤ c.toNat ∧ c.toNat ≤ 57 := by
    simpa [Char.isDigit, UInt32.le_iff_toNat_le] using h
  have hc : Char.ofNat (48 + (c.toNat - 48)) = c := by
    rw [Nat.add_sub_cancel' hrange.1, Char.ofNat_toNat]
  have hn := hall ⟨c.toNat - 48, by omega⟩
  rw [hc] at hn
  exact ⟨_, hn⟩

/-- Digits are written in the bytes of digits. -/
theorem encode_of_isDigits {text : String} (h : IsDigits text.toList) :
    Utf8.encode text ≠ [] ∧ ∀ byte ∈ Utf8.encode text, isDigitByte byte = true ∧ byte ≠ dash := by
  obtain ⟨hne, hdigits⟩ := h
  constructor
  · intro hnil
    rw [encode_eq_nil_iff.1 hnil] at hne
    exact hne rfl
  · intro byte hbyte
    obtain ⟨c, hc, hmem⟩ := List.mem_flatMap.1 hbyte
    obtain ⟨digit, hencode, hdigit⟩ := utf8EncodeChar_of_isDigit (hdigits c hc)
    rw [hencode, List.mem_singleton] at hmem
    rw [hmem]
    exact hdigit

/-- Digits look numeric. -/
theorem looksNumeric_encode {text : String} (h : IsDigits text.toList) :
    looksNumeric (Utf8.encode text) = true := by
  obtain ⟨hne, hall⟩ := encode_of_isDigits h
  have hrest : (Utf8.encode text).dropWhile isDigitByte = [] :=
    List.dropWhile_eq_nil_iff.2 fun byte hbyte => (hall byte hbyte).1
  obtain ⟨first, rest, hcons⟩ := List.exists_cons_of_ne_nil hne
  have hfirst := (hall first (hcons ▸ List.mem_cons_self)).1
  rw [looksNumeric, hrest, hcons]
  simp [hfirst, dropFraction, isExponent]

/-- A numeral is no option, or its letters look numeric. -/
theorem Argument.ofText_of_isNumeral {text : String} {value : Int}
    (h : IsNumeral text.toList value) :
    ofText (.ofString text) = .plain ∨
      ∃ letters, ofText (.ofString text) = .cluster letters ∧ looksNumeric letters = true := by
  have hhead {chars : List Char} (hdigits : IsDigits chars) : chars.head? ≠ some '-' := by
    intro hdash
    obtain ⟨rest, rfl⟩ := List.head?_eq_some_iff.1 hdash
    exact not_isDigits_cons (by decide) hdigits
  generalize hchars : text.toList = chars at h
  cases h with
  | unsigned hdigits =>
    refine Or.inl (ofText_ofString_eq_plain_iff.2 (Or.inr ?_))
    rw [hchars]
    exact hhead hdigits
  | plus hdigits =>
    refine Or.inl (ofText_ofString_eq_plain_iff.2 (Or.inr ?_))
    rw [hchars]
    simp
  | @minus digits hdigits =>
    have htext : text = "-" ++ String.ofList digits := by
      rw [← String.toList_inj, hchars]
      simp
    have hlist : IsDigits (String.ofList digits).toList := by rwa [String.toList_ofList]
    refine Or.inr ⟨_, ?_, looksNumeric_encode hlist⟩
    rw [htext]
    refine ofText_cluster ?_ (hhead hlist)
    rintro hempty
    rw [hempty] at hlist
    exact hlist.1 rfl

end CommandLine

end SumGreeting
