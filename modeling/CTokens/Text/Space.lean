import CTokens.Text.Ranges

/-! # Blanks

The blanks of all scripts: the property White_Space of Unicode.
-/

namespace CTokens.Text

def spaceRanges : Ranges where
  list :=
    [(0x09, 0x0D), (0x20, 0x20), (0x85, 0x85), (0xA0, 0xA0), (0x1680, 0x1680), (0x2000, 0x200A),
     (0x2028, 0x2029), (0x202F, 0x202F), (0x205F, 0x205F), (0x3000, 0x3000)]
  ascending := by decide +kernel

def isSpace (c : Char) : Bool :=
  spaceRanges.contains c.toNat

end CTokens.Text
