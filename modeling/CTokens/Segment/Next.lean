import CTokens.Cursor.Basic
import CTokens.Segment.Basic

/-! # Reading a segment

The next one or two bytes decide what the next segment is:

* a blank is a space, tab, newline, carriage return, vertical tab or form feed;
* `#` begins a directive and `//` a line comment, both up to the end of the line, which
  stays ahead;
* `/*` begins a block comment, up to the first `*/` behind the opener or, without one,
  to the end of the source;
* anything else begins a lexeme, which takes as many bytes as its kind allows.

`nextSegment?` reads one segment.
-/

namespace CTokens.Cursor

/-! ## What is skipped -/

/-- Passes the rest of the line, but not the newline. -/
def eatLine (c : Cursor) : Cursor :=
  c.eatWhile (· ≠ newline)

/-- How many bytes there are up to and with the first `*/`, or all of them, counted on
    from `n`. -/
def countToClose : Nat → List UInt8 → Nat
  | n, [] => n
  | n, byte :: bytes =>
    if byte = '*'.toUInt8 && bytes.head? = some '/'.toUInt8 then n + 2
    else countToClose (n + 1) bytes

def eatBlockComment (c : Cursor) : Cursor :=
  let c := c.skip 2  -- so that the star of the opener closes nothing
  c.skip (countToClose 0 c.ahead)

/-! ## Lexemes -/

/-- The text since the position `start`.  On a text, a lexeme starts and ends between
    characters, so there is one. -/
def textSince (c : Cursor) (start : Nat) : String :=
  (c.slice? start).getD ""

def eatNumber (c : Cursor) : Token × Cursor :=
  let d := c.eatWhile isDigit
  ({ kind := .number, text := d.textSince c.pos, line := c.line }, d)

def eatWord (c : Cursor) : Token × Cursor :=
  let d := c.eatWhile isWordByte
  let text := d.textSince c.pos
  ({ kind := .ofWord text, text := text, line := c.line }, d)

/-- A string literal, up to the next quote or else to the end.  No character in it
    escapes another, and it may go over several lines. -/
def eatString (c : Cursor) : Token × Cursor :=
  let opened := c.advance
  let d := opened.eatWhile (· ≠ '"'.toUInt8)
  ({ kind := .string, text := d.textSince opened.pos, line := c.line },
   (d.matchByte '"'.toUInt8).2)

/-- A symbol of two characters if they stand together, or else a single character.  A
    cursor on a text has a character to take here; where there is none, a byte is taken
    in its place. -/
def eatSign (c : Cursor) : Token × Cursor :=
  let (kind, d) :=
    match c.takeChar? with
    | none => (Kind.unknown, c.advance)
    | some (ch, d) =>
      match Kind.joined? ch with
      | none => (Kind.ofChar ch, d)
      | some (byte, both) =>
        if d.peek? = some byte then (both, d.advance) else (Kind.ofChar ch, d)
  ({ kind := kind, text := d.textSince c.pos, line := c.line }, d)

def eatLexeme (c : Cursor) (byte : UInt8) : Token × Cursor :=
  if isDigit byte then c.eatNumber
  else if isWordStart byte then c.eatWord
  else if byte = '"'.toUInt8 then c.eatString
  else c.eatSign

/-! ## One segment -/

def eatPiece (c : Cursor) (byte : UInt8) : Piece × Cursor :=
  if isBlank byte then (.blank, c.advance)
  else if byte = '#'.toUInt8 then (.directive, c.eatLine)
  else if byte = '/'.toUInt8 && c.peekNext? = some '/'.toUInt8 then (.lineComment, c.eatLine)
  else if byte = '/'.toUInt8 && c.peekNext? = some '*'.toUInt8 then
    (.blockComment, c.eatBlockComment)
  else
    let (token, d) := c.eatLexeme byte
    (.lexeme token, d)

def nextSegment? (c : Cursor) : Option (Segment × Cursor) :=
  c.peek?.map fun byte =>
    let (piece, d) := c.eatPiece byte
    ({ start := c.pos, stop := d.pos, piece := piece }, d)

end CTokens.Cursor
