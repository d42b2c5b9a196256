import CTokens.Segment.Progress

/-! # The tokens of a source

`scan` cuts a source into its segments, from the start to the end.  The tokens of the
source are those that its lexemes make, in order, and one more of kind `endOfFile`, on
the line that the source ends on.

Every text has tokens: what is malformed shows as tokens of kind `unknown`, or as a
literal or comment that goes on to the end.
-/

namespace CTokens

def Cursor.readSegments (c : Cursor) (done : Array Segment) : Array Segment × Cursor :=
  match h : c.nextSegment? with
  | none => (done, c)
  | some (segment, d) =>
    have := Cursor.length_ahead_nextSegment? h
    d.readSegments (done.push segment)
termination_by c.ahead.length

/-- The segments of a text, and the cursor behind the last of them. -/
def scan (text : String) : Array Segment × Cursor :=
  (Cursor.ofText text).readSegments #[]

/-- The tokens of a text. -/
def tokenize (text : String) : List Token :=
  let (segments, last) := scan text
  segments.toList.filterMap Segment.token? ++ [Token.endOfFile last.line]

end CTokens
