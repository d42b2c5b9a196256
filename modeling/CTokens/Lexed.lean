import CTokens.Failure
import CTokens.Text.Escape
import CTokens.Tokenize

/-! # A source that has been read

`lex` gives the tokens of a text together with one failure for each token of kind
`unknown`, in the same order and on the same line.  The failure names the character in
its escaped form.
-/

namespace CTokens

structure Lexed where
  tokens : List Token
  unknown : List Failure
  deriving DecidableEq, Repr

def Token.complaint (token : Token) : Failure :=
  .onLine ("unrecognized character '" ++ Text.escape token.text ++ "'") token.line

def complaints (tokens : List Token) : List Failure :=
  (tokens.filter Token.isUnknown).map Token.complaint

def lex (text : String) : Lexed :=
  let tokens := tokenize text
  { tokens := tokens, unknown := complaints tokens }

def Lexed.hasUnknown (lexed : Lexed) : Bool :=
  !lexed.unknown.isEmpty

end CTokens
