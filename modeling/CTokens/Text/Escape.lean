/-! # Escaped text

`escape` writes any text with printable ASCII characters alone: tab, carriage return,
newline, both quotes and the backslash stand behind a backslash, and a character outside
U+0020 to U+007E is written as a `u` and its number in hexadecimal between braces, behind
a backslash too.  Every other character stands for itself.
-/

namespace CTokens.Text

/-- A character by its number, in hexadecimal without leading zeros. -/
def escapeNumber (c : Char) : List Char :=
  '\\' :: 'u' :: '{' :: (Nat.toDigits 16 c.toNat ++ ['}'])

def escapeChar (c : Char) : List Char :=
  if c = '\t' then ['\\', 't']
  else if c = '\r' then ['\\', 'r']
  else if c = '\n' then ['\\', 'n']
  else if c = '\'' then ['\\', '\'']
  else if c = '"' then ['\\', '"']
  else if c = '\\' then ['\\', '\\']
  else if 0x20 ≤ c.toNat && c.toNat ≤ 0x7E then [c]
  else escapeNumber c

def escape (text : String) : String :=
  String.ofList (text.toList.flatMap escapeChar)

end CTokens.Text
