import CTokens.Text.Utf8

/-! # A cursor over the bytes of a text

A `Cursor` stands between the bytes of a text that are behind it and those that are
ahead, and counts the lines that end behind it.  `advance` is the one step by which
it moves, always forward: all other movements are so many advances, and once no byte
is ahead the cursor stays where it is.

A cursor may stand inside a character of several bytes.  There `takeChar?` finds no
character, and `slice?` gives no text that would start or end there.
-/

namespace CTokens

structure Cursor where
  behind : List UInt8  -- the last byte first
  ahead : List UInt8
  pos : Nat
  line : UInt32
  pos_eq : pos = behind.length := by rfl

namespace Cursor

def newline : UInt8 := '\n'.toUInt8

def ofBytes (bytes : List UInt8) : Cursor :=
  { behind := [], ahead := bytes, pos := 0, line := 1 }

def ofText (text : String) : Cursor :=
  ofBytes (Utf8.encode text)

def bytes (c : Cursor) : List UInt8 :=
  c.behind.reverse ++ c.ahead

/-! ## Looking -/

def peek? (c : Cursor) : Option UInt8 :=
  c.ahead.head?

def peekNext? (c : Cursor) : Option UInt8 :=
  c.ahead.tail.head?

def isAtEnd (c : Cursor) : Bool :=
  c.ahead.isEmpty

/-! ## Moving -/

/-- Passes one byte, and counts the line if the byte ends one. -/
def advance (c : Cursor) : Cursor :=
  match c.ahead with
  | [] => c
  | byte :: rest =>
    { behind := byte :: c.behind
      ahead := rest
      pos := c.pos + 1
      line := if byte = newline then c.line + 1 else c.line
      pos_eq := by simp [c.pos_eq] }

def skip : Nat → Cursor → Cursor
  | 0, c => c
  | n + 1, c => skip n c.advance

def matchByte (c : Cursor) (byte : UInt8) : Bool × Cursor :=
  if c.peek? = some byte then (true, c.advance) else (false, c)

/-- How many bytes a test accepts before it refuses one, counted on from `n`.  The test may
    carry a state from one byte to the next; it is given each byte once, in order, and no
    byte after the one it refuses. -/
def countAccepted {σ : Type} (test : σ → UInt8 → Bool × σ) : Nat → σ → List UInt8 → Nat
  | n, _, [] => n
  | n, state, byte :: bytes =>
    match test state byte with
    | (true, state) => countAccepted test (n + 1) state bytes
    | (false, _) => n

def eatWith {σ : Type} (test : σ → UInt8 → Bool × σ) (start : σ) (c : Cursor) : Cursor :=
  c.skip (countAccepted test 0 start c.ahead)

def eatWhile (p : UInt8 → Bool) (c : Cursor) : Cursor :=
  c.eatWith (fun _ byte => (p byte, ())) ()

/-- The next character, passed whole; none at the end, and none inside a character. -/
def takeChar? (c : Cursor) : Option (Char × Cursor) :=
  (Utf8.headChar? c.ahead).map fun ch => (ch, c.skip ch.utf8Size)

/-! ## Cutting out -/

/-- The text from the position `start` to the cursor.  There is none if `start` lies ahead,
    or if one of the two ends lies inside a character. -/
def slice? (c : Cursor) (start : Nat) : Option String :=
  if start ≤ c.pos then
    let cut := (c.behind.take (c.pos - start)).reverse
    if Utf8.isBoundary (cut ++ c.ahead) && Utf8.isBoundary c.ahead then Utf8.decode? cut else none
  else none

end Cursor

end CTokens
