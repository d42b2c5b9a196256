/-! # Classes of characters as ranges

A class of characters is a list of closed ranges of their numbers.  Each range begins behind the one
before it and does not touch it, so that there is one such list for a class.
-/

namespace CTokens.Text

def isAscending : List (Nat × Nat) → Bool
  | [] => true
  | [(low, high)] => low ≤ high
  | (low, high) :: (next, last) :: ranges =>
    low ≤ high && high + 1 < next && isAscending ((next, last) :: ranges)

structure Ranges where
  list : List (Nat × Nat)
  ascending : isAscending list = true

def Ranges.contains (ranges : Ranges) (n : Nat) : Bool :=
  ranges.list.any fun (low, high) => low ≤ n && n ≤ high

/-- A control character: U+0000 to U+001F and U+007F to U+009F. -/
def isControl (c : Char) : Bool :=
  c.toNat < 0x20 || (0x7F ≤ c.toNat && c.toNat < 0xA0)

end CTokens.Text
