/-! # Lines

A text is cut into lines behind each newline, and only there.  The newline belongs to the
line that it ends, and the last line is what is behind the last newline, so that a text has
one line more than it has newlines: the empty text has one, and a text that ends in a newline
has an empty last line.

`rows` is another view, for text that is to be written line by line: without what ends the
lines, and without an empty last one.
-/

namespace CTokens.Text

def consLine (c : Char) (lines : List (List Char)) : List (List Char) :=
  if c = '\n' then [c] :: lines
  else match lines with
    | [] => [[c]]
    | line :: lines => (c :: line) :: lines

/-- The lines of a text; joined together they are the text. -/
def lines (text : List Char) : List (List Char) :=
  text.foldr consLine [[]]

theorem lines_nil : lines [] = [[]] := rfl

theorem lines_cons (c : Char) (text : List Char) :
    lines (c :: text) = consLine c (lines text) := rfl

theorem flatten_lines (text : List Char) : (lines text).flatten = text := by
  induction text with
  | nil => rfl
  | cons c text ih =>
    rw [lines_cons]
    unfold consLine
    split
    · simp [ih]
    · split <;> simp_all

theorem length_lines (text : List Char) : (lines text).length = text.count '\n' + 1 := by
  induction text with
  | nil => rfl
  | cons c text ih =>
    rw [lines_cons]
    unfold consLine
    split
    · simp_all
    · next hc =>
      split
      · next h => simp [h] at ih
      · next h => simpa [h, hc] using ih

/-- A line without the newline that ends it, or the carriage return and newline. -/
def rowOf (line : List Char) : List Char :=
  match line.reverse with
  | '\n' :: '\r' :: rest => rest.reverse
  | '\n' :: rest => rest.reverse
  | _ => line

/-- The lines of a text without what ends them; an empty last line is left out. -/
def rows (text : String) : List String :=
  let lines := lines text.toList
  let lines := if lines.getLast? = some [] then lines.dropLast else lines
  lines.map fun line => String.ofList (rowOf line)

/-- What is shown of a line: all but the newlines, carriage returns and NULs at its end. -/
def trimLine (line : List Char) : List Char :=
  (line.reverse.dropWhile fun c => c = '\n' || c = '\r' || c = '\x00').reverse

def byteLength (text : List Char) : Nat :=
  text.foldr (fun c n => c.utf8Size + n) 0

end CTokens.Text
