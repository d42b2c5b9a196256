/-! # Modes of regular expressions

A group of a regular expression, or the rest of one, can be read in another mode: letters are
flags for what is switched on, and letters behind a hyphen for what is switched off.  Three of
the flags matter for whether an expression is well formed (`Modes`).
-/

namespace CTokens.Log.Pattern

structure Modes where
  scripts : Bool  -- all characters are meant, and not only those of ASCII
  spaced : Bool  -- blanks and comments are passed over
  caseless : Bool  -- letters match in either case
  deriving DecidableEq, Repr

namespace Modes

def initial : Modes :=
  { scripts := true, spaced := false, caseless := false }

/-- A mode behind flags: switched on, switched off, or as before. -/
def switched (flags : List Char) (flag : Char) (before : Bool) : Bool :=
  (flags.takeWhile (· ≠ '-')).contains flag
    || before && !(flags.dropWhile (· ≠ '-')).contains flag

def switch (modes : Modes) (flags : List Char) : Modes :=
  { scripts := switched flags 'u' modes.scripts
    spaced := switched flags 'x' modes.spaced
    caseless := switched flags 'i' modes.caseless }

end Modes

def isFlag (c : Char) : Bool :=
  "imsURux-".toList.contains c

end CTokens.Log.Pattern
