import CTokens.Text.Lines

/-! # Source files, by lines

Diagnostics show lines of a source, and speak of places in it by the number of bytes
before them.  A `SourceFile` keeps the lines of a text with the place each starts at, and
goes from a line to its bytes (`lineRange?`) and from a byte to its line (`lineAt`).
Lines are counted from 0 here.
-/

namespace CTokens.Report

/-- A line of a source, with the newline that ends it. -/
structure Line where
  start : Nat
  text : List Char
  deriving DecidableEq, Repr

def Line.stop (line : Line) : Nat :=
  line.start + Text.byteLength line.text

structure SourceFile where
  name : String
  lines : Array Line
  deriving DecidableEq, Repr

namespace SourceFile

/-- Puts lines behind those before them, each at the place where the one before it stops. -/
def placeLines (placed : Array Line) (start : Nat) : List (List Char) → Array Line
  | [] => placed
  | text :: texts =>
    let line : Line := { start := start, text := text }
    placeLines (placed.push line) line.stop texts

def ofText (name text : String) : SourceFile :=
  { name := name, lines := placeLines #[] 0 (Text.lines text.toList) }

/-- The bytes of a line: where it starts, and where the next one starts or the text ends. -/
def lineRange? (file : SourceFile) (index : Nat) : Option (Nat × Nat) :=
  file.lines[index]?.map fun line => (line.start, line.stop)

/-- The line that a place belongs to: the last one that does not start behind it. -/
def lineAt (file : SourceFile) (offset : Nat) : Nat :=
  (file.lines.toList.takeWhile fun line => line.start ≤ offset).length - 1

end SourceFile

end CTokens.Report
