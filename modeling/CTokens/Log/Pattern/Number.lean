/-! # Numbers as patterns

A number with a sign in front matches the fields that hold it.  A number is decimal, with a
fraction and an exponent or without, or an infinity, or no number at all (`nan`).
-/

namespace CTokens.Log.Pattern

def isExponent : List Char → Bool
  | [] => true
  | mark :: rest =>
    let digits := match rest with
      | '+' :: digits => digits
      | '-' :: digits => digits
      | digits => digits
    (mark = 'e' || mark = 'E') && !digits.isEmpty && digits.all Char.isDigit

def isNumber (text : List Char) : Bool :=
  let whole := text.takeWhile Char.isDigit
  let (fraction, rest) := match text.dropWhile Char.isDigit with
    | '.' :: rest => (rest.takeWhile Char.isDigit, rest.dropWhile Char.isDigit)
    | rest => ([], rest)
  ["inf", "infinity", "nan"].contains (String.ofList (text.map Char.toLower))
    || !(whole.isEmpty && fraction.isEmpty) && isExponent rest

end CTokens.Log.Pattern
