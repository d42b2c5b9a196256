/-! # Bytes and characters

A text is read byte by byte, and its bytes are those of its UTF-8 form.  This
module goes from one to the other: `encode` gives the bytes of a text, `headChar?`
the character that a list of bytes starts with, `decode?` the text that a list of
bytes writes exactly.

`decodeLossy` reads any bytes whatever.  Where they are not well formed, each
longest beginning of a well-formed sequence, or else the single byte that begins
none, becomes one U+FFFD, and reading goes on right behind it.  `trailing` is the
table this rests on: the bytes that may follow a first byte.
-/

namespace CTokens.Utf8

def encode (text : String) : List UInt8 :=
  text.toByteArray.data.toList

/-- The bytes `0x80` to `0xBF` stand only inside a character, never first. -/
def isContinuation (byte : UInt8) : Bool :=
  0x80 ≤ byte && byte ≤ 0xBF

/-- Between two characters of a text, or at its end, no continuation byte comes next. -/
def isBoundary : List UInt8 → Bool
  | [] => true
  | byte :: _ => !isContinuation byte

def headChar? (bytes : List UInt8) : Option Char :=
  -- No character has more than four bytes.
  (bytes.take 4).toByteArray.utf8DecodeChar? 0

def decode? (bytes : List UInt8) : Option String :=
  String.fromUTF8? bytes.toByteArray

/-! ## Laws -/

theorem encode_eq_flatMap (text : String) :
    encode text = text.toList.flatMap String.utf8EncodeChar := by
  have h : text.toByteArray = (text.toList.flatMap String.utf8EncodeChar).toByteArray := by
    conv => lhs; rw [← String.ofList_toList (s := text)]
    exact String.toByteArray_ofList
  simp [encode, h, List.data_toByteArray]

theorem decode?_encode (text : String) : decode? (encode text) = some text := by
  have h : (encode text).toByteArray = text.toByteArray := by
    apply ByteArray.ext
    simp [encode, List.data_toByteArray]
  simp only [decode?, h, String.fromUTF8?, text.isValidUTF8, dite_true]
  rfl

/-- A character is read back from its bytes, whatever comes behind them. -/
theorem headChar?_append (c : Char) (bytes : List UInt8) :
    headChar? (String.utf8EncodeChar c ++ bytes) = some c := by
  have hle : (String.utf8EncodeChar c).length ≤ 4 := by
    rw [String.length_utf8EncodeChar]
    exact c.utf8Size_le_four
  rw [headChar?, List.take_append, List.take_of_length_le hle, List.toByteArray_append]
  exact ByteArray.utf8DecodeChar?_utf8EncodeChar_append

/-! ## Decoding that never fails -/

def replacement : Char := '\uFFFD'

/-- The ranges of the bytes that follow a first byte in a character of more than one byte.
    Only the second byte is ever narrower than `0x80` to `0xBF`: this keeps out longer forms
    of shorter characters, the surrogates, and what lies beyond U+10FFFF. -/
def trailing (first : UInt8) : List (UInt8 × UInt8) :=
  if first < 0xC2 then []
  else if first ≤ 0xDF then [(0x80, 0xBF)]
  else if first = 0xE0 then [(0xA0, 0xBF), (0x80, 0xBF)]
  else if first = 0xED then [(0x80, 0x9F), (0x80, 0xBF)]
  else if first ≤ 0xEF then [(0x80, 0xBF), (0x80, 0xBF)]
  else if first = 0xF0 then [(0x90, 0xBF), (0x80, 0xBF), (0x80, 0xBF)]
  else if first ≤ 0xF3 then [(0x80, 0xBF), (0x80, 0xBF), (0x80, 0xBF)]
  else if first = 0xF4 then [(0x80, 0x8F), (0x80, 0xBF), (0x80, 0xBF)]
  else []

/-- How many of the bytes lie in the ranges, one after the other, before one does not. -/
def countWithin : List (UInt8 × UInt8) → List UInt8 → Nat
  | (low, high) :: ranges, byte :: bytes =>
    if low ≤ byte && byte ≤ high then countWithin ranges bytes + 1 else 0
  | _, _ => 0

def appendLossy (text : String) (bytes : List UInt8) : String :=
  match bytes with
  | [] => text
  | first :: rest =>
    match headChar? (first :: rest) with
    | some c => appendLossy (text.push c) (rest.drop (c.utf8Size - 1))
    | none =>
      -- The byte that breaks a sequence off is not part of it, and is read again.
      appendLossy (text.push replacement) (rest.drop (countWithin (trailing first) rest))
termination_by bytes.length
decreasing_by all_goals simp only [List.length_drop, List.length_cons]; omega

/-- The text that the bytes write, with one U+FFFD for each part of them that is not well formed. -/
def decodeLossy (bytes : List UInt8) : String :=
  appendLossy "" bytes

end CTokens.Utf8
