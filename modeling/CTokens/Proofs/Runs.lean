import CTokens.Proofs.Reading
import CTokens.Tokenize

/-! # Runs over a source

`Steps` is the loop of the scanner as a relation: from one cursor to another, with the segments
that are read on the way.  `scan` is the run of it that comes to the end (`steps_scan`).

On the side of the grammar a source falls into parts, each of them a segment in front of all
those behind it (`Parts`), and every source does (`exists_parts`).  The two sides meet in
`scan_of_parts`, which lays the parts out by places and lines, and in `tokenize_of_parts`.
-/

namespace CTokens

open Utf8

/-! ## The loop as a relation -/

namespace Cursor

inductive Steps : Cursor → List Segment → Cursor → Prop
  | refl {c : Cursor} : Steps c [] c
  | step {c d e : Cursor} {segment : Segment} {segments : List Segment}
      (next : c.nextSegment? = some (segment, d)) (rest : Steps d segments e) :
      Steps c (segment :: segments) e

theorem readSegments_none {c : Cursor} (ends : c.nextSegment? = none) (done : Array Segment) :
    c.readSegments done = (done, c) := by
  rw [readSegments]
  split
  · rfl
  · next next => simp [ends] at next

theorem readSegments_some {c d : Cursor} {segment : Segment}
    (next : c.nextSegment? = some (segment, d)) (done : Array Segment) :
    c.readSegments done = d.readSegments (done.push segment) := by
  conv => lhs; rw [readSegments]
  split
  · next ends => simp [ends] at next
  · next next' => rw [next, Option.some.injEq, Prod.mk.injEq] at next'; rw [next'.1, next'.2]

/-- The loop makes a run of steps, and ends only where no segment is left. -/
theorem steps_readSegments (c : Cursor) (done : Array Segment) :
    ∃ segments, (c.readSegments done).1.toList = done.toList ++ segments ∧
      c.Steps segments (c.readSegments done).2 ∧ (c.readSegments done).2.nextSegment? = none := by
  induction c, done using readSegments.induct with
  | case1 c done ends => exact ⟨[], by rw [readSegments_none ends]; simp [ends, Steps.refl]⟩
  | case2 c done segment d next _ ih =>
    obtain ⟨segments, list, steps, ends⟩ := ih
    rw [readSegments_some next]
    exact ⟨segment :: segments, by simp [list], .step next steps, ends⟩

theorem readSegments_of_steps {c d : Cursor} {segments : List Segment} (steps : c.Steps segments d)
    (ends : d.nextSegment? = none) (done : Array Segment) :
    c.readSegments done = (done ++ segments.toArray, d) := by
  induction steps generalizing done with
  | refl => simp [readSegments_none ends]
  | step next _ ih =>
    rw [readSegments_some next, ih ends]
    simp

end Cursor

theorem steps_scan (text : String) :
    (Cursor.ofText text).Steps (scan text).1.toList (scan text).2 ∧
      (scan text).2.nextSegment? = none := by
  obtain ⟨segments, list, steps, ends⟩ := (Cursor.ofText text).steps_readSegments #[]
  have list : (scan text).1.toList = segments := by simpa [scan] using list
  rw [list]
  exact ⟨steps, ends⟩

theorem scan_of_steps {text : String} {c : Cursor} {segments : List Segment}
    (steps : (Cursor.ofText text).Steps segments c) (ends : c.nextSegment? = none) :
    (scan text).1.toList = segments ∧ (scan text).2 = c := by
  rw [scan, Cursor.readSegments_of_steps steps ends]
  simp

theorem tokenize_of_steps {text : String} {c : Cursor} {segments : List Segment}
    (steps : (Cursor.ofText text).Steps segments c) (ends : c.nextSegment? = none) :
    tokenize text = segments.filterMap Segment.token? ++ [Token.endOfFile c.line] := by
  obtain ⟨list, last⟩ := scan_of_steps steps ends
  rw [← list, ← last]
  rfl

/-! ## The parts of a source -/

/-- The characters of one segment, and what they are. -/
structure Part where
  form : Form
  own : List Char
  deriving DecidableEq

inductive Parts : List Char → List Part → Prop
  | nil : Parts [] []
  | cons {form : Form} {own rest : List Char} {parts : List Part} (reads : Reads form own rest)
      (tail : Parts rest parts) : Parts (own ++ rest) ({ form := form, own := own } :: parts)

theorem exists_parts (chars : List Char) : ∃ parts, Parts chars parts := by
  induction length : chars.length using Nat.strongRecOn generalizing chars with
  | ind n ih =>
    by_cases empty : chars = []
    · exact ⟨[], empty ▸ .nil⟩
    · obtain ⟨form, own, rest, rfl, reads⟩ := exists_reads chars empty
      have shorter : rest.length < n := by
        have := List.length_pos_iff.2 reads.own_ne_nil
        rw [← length, List.length_append]
        omega
      obtain ⟨parts, tail⟩ := ih _ shorter rest rfl
      exact ⟨_, .cons reads tail⟩

def newlines (chars : List Char) : UInt32 :=
  UInt32.ofNat (chars.count '\n')

/-- Lines are counted in 32 bits, where the order of a sum does not matter either. -/
theorem newlines_append (first second : List Char) :
    newlines (first ++ second) = newlines first + newlines second := by
  rw [newlines, List.count_append, UInt32.ofNat_add]
  rfl

/-- The parts as segments, the first of them at the byte `start` and on the line `line`. -/
def place (start : Nat) (line : UInt32) : List Part → List Segment
  | [] => []
  | part :: parts =>
    let stop := start + (ofChars part.own).length
    { start := start, stop := stop, piece := part.form.piece line } ::
      place stop (line + newlines part.own) parts

def Form.token? (line : UInt32) : Form → Option Token
  | .lexeme kind text => some { kind := kind, text := String.ofList text, line := line }
  | _ => none

/-- The tokens of parts, the first of them on the line `line`. -/
def tokensFrom (line : UInt32) : List Part → List Token
  | [] => [Token.endOfFile line]
  | part :: parts => (part.form.token? line).toList ++ tokensFrom (line + newlines part.own) parts

theorem Cursor.line_skip_ofChars {c : Cursor} {own rest : List Char}
    (ahead : c.ahead = ofChars (own ++ rest)) :
    (c.skip (ofChars own).length).line = c.line + newlines own := by
  rw [line_skip, ahead, ofChars_append, List.take_left, newline, count_ofChars (by decide), newlines]

/-- Reading goes through the parts, and ends behind the last of them. -/
theorem readSegments_of_parts {chars : List Char} {parts : List Part} (falls : Parts chars parts)
    {c : Cursor} (ahead : c.ahead = ofChars chars) (done : Array Segment) :
    c.readSegments done =
      (done ++ (place c.pos c.line parts).toArray, c.skip (ofChars chars).length) := by
  induction falls generalizing c done with
  | nil =>
    have ends : c.nextSegment? = none := by simp [Cursor.nextSegment?, Cursor.peek?, ahead]
    simp [Cursor.readSegments_none ends, place, Cursor.skip]
  | @cons form own rest parts reads tail ih =>
    -- One step of the loop passes `own`, and `ih` does the rest from the cursor behind it.
    rw [Cursor.readSegments_some (Cursor.nextSegment?_of_reads reads ahead),
      ih (Cursor.ahead_skip_ofChars ahead), Cursor.pos_skip_ofChars ahead,
      Cursor.line_skip_ofChars ahead, ofChars_append, List.length_append, Cursor.skip_add]
    simp [place]

variable {text : String} {parts : List Part}

theorem scan_of_parts (falls : Parts text.toList parts) :
    (scan text).1.toList = place 0 1 parts ∧
      (scan text).2 = (Cursor.ofText text).skip (encode text).length := by
  have ahead : (Cursor.ofText text).ahead = ofChars text.toList := encode_eq_ofChars text
  rw [scan, readSegments_of_parts falls ahead, encode_eq_ofChars]
  simp [Cursor.ofText, Cursor.ofBytes]

theorem filterMap_place (start : Nat) (line : UInt32) (parts : List Part) :
    (place start line parts).filterMap Segment.token? ++
      [Token.endOfFile (line + newlines (parts.flatMap Part.own))] = tokensFrom line parts := by
  induction parts generalizing start line with
  | nil => simp [place, tokensFrom, newlines]
  | cons part parts ih =>
    rw [tokensFrom, ← ih, List.flatMap_cons, newlines_append, ← UInt32.add_assoc, place]
    cases part.form <;> rfl

theorem Parts.flatMap_own {chars : List Char} (falls : Parts chars parts) :
    parts.flatMap Part.own = chars := by
  induction falls with
  | nil => rfl
  | cons reads tail ih => rw [List.flatMap_cons, ih]

theorem tokenize_of_parts (falls : Parts text.toList parts) : tokenize text = tokensFrom 1 parts := by
  obtain ⟨segments, last⟩ := scan_of_parts falls
  have ahead : (Cursor.ofText text).ahead = ofChars (text.toList ++ []) := by
    rw [List.append_nil]
    exact encode_eq_ofChars text
  have line : (scan text).2.line = 1 + newlines (parts.flatMap Part.own) := by
    rw [last, encode_eq_ofChars, Cursor.line_skip_ofChars ahead, falls.flatMap_own]
    rfl
  rw [← filterMap_place 0 1 parts, ← segments, ← line]
  rfl

end CTokens
