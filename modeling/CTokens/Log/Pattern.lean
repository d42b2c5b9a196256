import CTokens.Log.Pattern.Draft
import CTokens.Log.Pattern.Number

/-! # Patterns for the values of fields

The pattern of a field is a number or a regular expression.  Activities have no fields, so that
no value is ever held against a pattern; what counts is which texts are patterns.  A directive
with another text in the place of a pattern is refused.
-/

namespace CTokens.Log

inductive PatternError
  | malformed
  | wordEnds  -- well formed, but with places that depend on words
  deriving DecidableEq, Repr

def PatternError.message : PatternError → String
  | .malformed => "error building NFA"
  | .wordEnds => "unsupported regex feature for DFAs: cannot build DFAs for regexes with Unicode "
    ++ "word boundaries; switch to ASCII word boundaries, or heuristically enable Unicode word "
    ++ "boundaries or use a different regex engine"

namespace Pattern

def checkExpression (text : List Char) : Except PatternError Unit :=
  match text.foldlM Draft.read Draft.empty with
  | none => .error .malformed
  | some draft =>
    if !draft.isComplete then .error .malformed
    else if draft.wordEnds then .error .wordEnds
    else .ok ()

/-- A pattern, or why it is none.  Numbers without a plus sign are regular expressions too. -/
def check (text : String) : Except PatternError Unit :=
  match text.toList with
  | '+' :: number => if isNumber number then .ok () else .error .malformed
  | text => checkExpression text

end Pattern

end CTokens.Log
