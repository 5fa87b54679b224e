import SumGreeting.Text.Utf8

/-!
# Texts of the operating system

An argument of the command line and the value of an environment variable are sequences of bytes.
Most encode a text, but nothing forces them to.

## Main definitions

* `OsText` : such a sequence of bytes.
* `OsText.ofString`, `OsText.toString?` : the ones that encode a text, and that text.
* `OsText.display` : the text that stands for it in a message.

## Main results

* `OsText.toString?_eq_some_iff` : `toString?` inverts `ofString`.
-/

namespace SumGreeting

/-- A text as the operating system hands it over: bytes that need not encode a text. -/
structure OsText where
  /-- The bytes, in order. -/
  bytes : List UInt8
  deriving DecidableEq, Inhabited

namespace OsText

/-- The bytes that encode a text. -/
def ofString (text : String) : OsText := ⟨Utf8.encode text⟩

/-- The text that the bytes encode, if they encode one. -/
def toString? (text : OsText) : Option String := Utf8.decode? text.bytes

/-- The text shown in a message, with the replacement character for what encodes nothing. -/
def display (text : OsText) : String := Utf8.lossy text.bytes

theorem toString?_eq_some_iff {t : OsText} {s : String} :
    t.toString? = some s ↔ t = ofString s := by
  cases t
  simp [toString?, ofString, Utf8.decode?_eq_some_iff]

@[simp]
theorem toString?_ofString (s : String) : (ofString s).toString? = some s :=
  toString?_eq_some_iff.2 rfl

theorem ofString_injective {s t : String} (h : ofString s = ofString t) : s = t :=
  Utf8.encode_injective (congrArg bytes h)

end OsText

end SumGreeting
