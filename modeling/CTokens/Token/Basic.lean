import CTokens.Token.Kind

/-! # Tokens

A token is a kind, a text and the number of the line it starts on.  The text is that
of the source, except that a string literal is kept without its quotes.
-/

namespace CTokens

structure Token where
  kind : Kind
  text : String
  line : UInt32  -- that of the first character, an opening quote included
  deriving DecidableEq, Repr

namespace Token

def endOfFile (line : UInt32) : Token :=
  { kind := .endOfFile, text := "", line := line }

def isEndOfFile (token : Token) : Bool :=
  token.kind = .endOfFile

/-- The token is a character that begins nothing. -/
def isUnknown (token : Token) : Bool :=
  token.kind = .unknown

def description (token : Token) : String :=
  token.kind.name ++ " " ++ token.text

end Token

end CTokens
