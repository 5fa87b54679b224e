/-!
# UTF-8 texts and byte sequences

Output is a sequence of bytes, and what the operating system hands over is one as well, which need
not be the encoding of any text.  A sequence that is an encoding is decoded to its one text.  Any
sequence can be shown: each ill-formed part of it then becomes the replacement character.

## Main definitions

* `Utf8.encode` : the bytes of a text.
* `Utf8.decode?` : the text that a sequence of bytes encodes, if there is one.
* `Utf8.lossy` : the text that shows a sequence of bytes.

## Main results

* `Utf8.decode?_eq_some_iff` : decoding succeeds on exactly the encodings.
* `Utf8.encode_injective` : different texts have different bytes.
-/

namespace SumGreeting.Utf8

/-! ### Encoding and decoding -/

/-- The bytes of a text, character by character. -/
def encode (text : String) : List UInt8 :=
  text.toList.flatMap String.utf8EncodeChar

/-- The text that the bytes encode, if they encode one. -/
def decode? (bytes : List UInt8) : Option String :=
  String.fromUTF8? bytes.toByteArray

theorem toByteArray_encode (text : String) : (encode text).toByteArray = text.toByteArray := by
  rw [← String.utf8Encode_toList]
  rfl

theorem encode_injective {s t : String} (h : encode s = encode t) : s = t := by
  rw [← String.toByteArray_inj, ← toByteArray_encode, ← toByteArray_encode, h]

@[simp]
theorem encode_append (s t : String) : encode (s ++ t) = encode s ++ encode t := by
  simp [encode]

@[simp]
theorem encode_empty : encode "" = [] := by
  simp [encode]

theorem decode?_eq_some_iff {bytes : List UInt8} {text : String} :
    decode? bytes = some text ↔ bytes = encode text := by
  have key : bytes = encode text ↔ bytes.toByteArray = text.toByteArray := by
    rw [← toByteArray_encode]
    exact ⟨congrArg _, fun h => by simpa using congrArg (fun b => b.data.toList) h⟩
  rw [key, decode?, String.fromUTF8?]
  split
  · rename_i h
    rw [Option.some.injEq, ← String.toByteArray_inj]
    exact Iff.rfl
  · rename_i h
    simp only [reduceCtorEq, false_iff]
    intro heq
    exact h (heq ▸ text.isValidUTF8)

/-! ### Showing bytes that need not be a text -/

/-- The character encoded by the first bytes of the sequence, if they encode one. -/
def firstChar? (bytes : List UInt8) : Option Char :=
  (bytes.take 4).toByteArray.utf8DecodeChar? 0

theorem firstChar?_append (c : Char) (rest : List UInt8) :
    firstChar? (String.utf8EncodeChar c ++ rest) = some c := by
  have hlen : (String.utf8EncodeChar c).length ≤ 4 := by
    rw [String.length_utf8EncodeChar]
    exact c.utf8Size_le_four
  rw [firstChar?, List.take_append, List.take_of_length_le hlen, List.toByteArray_append,
    ByteArray.utf8DecodeChar?_utf8EncodeChar_append]

/-- For each byte after the lead byte, but for the last one of the character, the least and the
greatest value it can have in a well-formed sequence. -/
def continuationRanges (lead : UInt8) : List (UInt8 × UInt8) :=
  if lead == 0xe0 then [(0xa0, 0xbf)]
  else if lead == 0xed then [(0x80, 0x9f)]
  else if 0xe1 ≤ lead && lead ≤ 0xef then [(0x80, 0xbf)]
  else if lead == 0xf0 then [(0x90, 0xbf), (0x80, 0xbf)]
  else if 0xf1 ≤ lead && lead ≤ 0xf3 then [(0x80, 0xbf), (0x80, 0xbf)]
  else if lead == 0xf4 then [(0x80, 0x8f), (0x80, 0xbf)]
  else []

/-- What is left of `bytes` after its longest beginning that agrees with the ranges. -/
def dropContinuation : List (UInt8 × UInt8) → List UInt8 → List UInt8
  | (low, high) :: ranges, byte :: rest =>
    if low ≤ byte && byte ≤ high then dropContinuation ranges rest else byte :: rest
  | _, bytes => bytes

theorem length_dropContinuation_le (ranges : List (UInt8 × UInt8)) (bytes : List UInt8) :
    (dropContinuation ranges bytes).length ≤ bytes.length := by
  fun_induction dropContinuation ranges bytes with
  | case1 low high ranges byte rest h ih => exact Nat.le_succ_of_le ih
  | case2 => exact Nat.le_refl _
  | case3 => exact Nat.le_refl _

/-- The text that shows the bytes: a well-formed sequence shows its character, and the longest
beginning of a well-formed sequence that is not continued to a whole one, or else a single byte,
shows one replacement character. -/
def lossyChars (bytes : List UInt8) : List Char :=
  match bytes with
  | [] => []
  | lead :: rest =>
    match firstChar? (lead :: rest) with
    | some c => c :: lossyChars (rest.drop (c.utf8Size - 1))
    | none => '\uFFFD' :: lossyChars (dropContinuation (continuationRanges lead) rest)
termination_by bytes.length
decreasing_by
  · simp only [List.length_drop, List.length_cons]
    omega
  · exact Nat.lt_succ_of_le (length_dropContinuation_le _ _)

/-- The text that shows the bytes, with the replacement character for each ill-formed part. -/
def lossy (bytes : List UInt8) : String :=
  String.ofList (lossyChars bytes)

end SumGreeting.Utf8
