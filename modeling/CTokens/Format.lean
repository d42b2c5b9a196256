import CTokens.Sink
import CTokens.Token.Basic

/-! # Printed tokens

A stream of tokens is printed with one row for each token: the name of its kind, or the
number of its kind, or its line and the name of its kind; then a space, the text, and a
newline.  A text stands as it is, so that an empty one leaves the space at the end of its
row, and a string literal over several lines goes over several lines here.
-/

namespace CTokens

inductive Format
  | plain
  | ordinal
  | lines
  deriving DecidableEq, Repr

namespace Format

/-- The row of a token, in the fragments that it is written in. -/
def fragments (format : Format) (token : Token) : List String :=
  match format with
  | .plain => [token.kind.name, " ", token.text, "\n"]
  | .ordinal => [token.kind.ordinal.repr, " ", token.text, "\n"]
  | .lines => [token.line.toNat.repr, ": ", token.kind.name, " ", token.text, "\n"]

def render (format : Format) (tokens : List Token) : String :=
  String.join (tokens.flatMap format.fragments)

def renderTo (format : Format) (tokens : List Token) (sink : Sink) : Option FileError × Sink :=
  sink.writeAll (tokens.flatMap format.fragments)

end Format

end CTokens
