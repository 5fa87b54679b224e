/-!
# Strings in JSON

A string in JSON stands between double quotes.  The double quote, the backslash, and the control
characters below the space are written after a backslash, five of them by a letter and the others
by four hexadecimal digits.  All other characters stand for themselves.

## Main definitions

* `Json.escape` : the form of one character.
* `Json.encode`, `Json.quote` : the string literal of a text.
* `Json.pieces` : the pieces in which a string literal is written.
-/

namespace SumGreeting.Json

/-- The form of one character in a string literal. -/
def escape (c : Char) : List Char :=
  match c with
  | '"' => ['\\', '"']
  | '\\' => ['\\', '\\']
  | '\x08' => ['\\', 'b']
  | '\x0c' => ['\\', 'f']
  | '\n' => ['\\', 'n']
  | '\r' => ['\\', 'r']
  | '\t' => ['\\', 't']
  | c =>
    if c.toNat < 0x20 then
      ['\\', 'u', '0', '0', (c.toNat / 16).digitChar, (c.toNat % 16).digitChar]
    else [c]

/-- The string literal of a sequence of characters. -/
def encode (text : List Char) : List Char :=
  '"' :: (text.flatMap escape ++ ['"'])

/-- The string literal of a text. -/
def quote (text : String) : String :=
  String.ofList (encode text.toList)

/-- Whether a character does not stand for itself in a string literal. -/
def isEscaped (c : Char) : Bool :=
  escape c ≠ [c]

/-- The pieces in which the string literal of a text is written: the quotes, each escaped
character, and each longest run of characters that stand for themselves. -/
def pieces (text : String) : List String :=
  let runs := text.toList.splitBy fun c d => !isEscaped c && !isEscaped d
  "\"" :: (runs.map (fun run => String.ofList (run.flatMap escape)) ++ ["\""])

@[simp]
theorem toList_quote (text : String) : (quote text).toList = encode text.toList :=
  String.toList_ofList

end SumGreeting.Json
