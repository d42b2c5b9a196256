import CTokens.Token.Basic

/-! # Segments

A source is a sequence of segments, one behind the other.  A segment is a single blank byte,
a directive, a comment, or a lexeme, which makes a token.  What a segment is depends on the
class of the bytes it begins with.
-/

namespace CTokens

inductive Piece
  | blank
  | directive
  | lineComment
  | blockComment
  | lexeme (token : Token)
  deriving DecidableEq, Repr

/-- A stretch of a source, from the byte at `start` up to the one at `stop`. -/
structure Segment where
  start : Nat
  stop : Nat
  piece : Piece
  deriving DecidableEq, Repr

def Segment.token? (segment : Segment) : Option Token :=
  match segment.piece with
  | .lexeme token => some token
  | _ => none

/-! ## Classes of bytes

All of them are of ASCII bytes only: no byte of a longer character is in any. -/

def isBlank (byte : UInt8) : Bool :=
  byte = 0x20 || (0x09 ≤ byte && byte ≤ 0x0D)

def isDigit (byte : UInt8) : Bool :=
  '0'.toUInt8 ≤ byte && byte ≤ '9'.toUInt8

def isLetter (byte : UInt8) : Bool :=
  ('a'.toUInt8 ≤ byte && byte ≤ 'z'.toUInt8) || ('A'.toUInt8 ≤ byte && byte ≤ 'Z'.toUInt8)

def isWordStart (byte : UInt8) : Bool :=
  isLetter byte || byte = '_'.toUInt8

def isWordByte (byte : UInt8) : Bool :=
  isWordStart byte || isDigit byte

end CTokens
