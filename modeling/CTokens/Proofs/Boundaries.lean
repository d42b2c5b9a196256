import CTokens.Proofs.Runs

/-! # Between characters

The cursor moves by bytes, and while a segment is skipped it mostly stands inside of characters.
Between two segments it does not (`between_of_steps`): what was read last is a segment of the
grammar, so whole characters.  From there every eater that cuts out a text cuts between
characters, and `eatSign` finds a character to take.
-/

namespace CTokens.Cursor

open Utf8

/-! ## Standing between characters -/

/-- The characters of the text fall into those behind the cursor and those ahead. -/
def Between (text : String) (c : Cursor) : Prop :=
  ∃ before after, text.toList = before ++ after ∧ c.behind.reverse = ofChars before ∧
    c.ahead = ofChars after

/-- The cut from `start` to `stop` is made between characters of the text, and is `cut`. -/
structure Cuts (text : String) (start stop : Cursor) (cut : String) : Prop where
  le : start.pos ≤ stop.pos
  begins : Between text start
  ends : Between text stop
  slice : stop.slice? start.pos = some cut

variable {text : String} {c : Cursor} {before own rest : List Char}

theorem between_ofText (text : String) : Between text (ofText text) :=
  ⟨[], text.toList, rfl, rfl, encode_eq_ofChars text⟩

theorem behind_skip_ofChars (behind : c.behind.reverse = ofChars before)
    (ahead : c.ahead = ofChars (own ++ rest)) :
    (c.skip (ofChars own).length).behind.reverse = ofChars (before ++ own) := by
  rw [behind_skip, List.reverse_append, List.reverse_reverse, behind, ahead, ofChars_append,
    ofChars_append, List.take_left]

theorem between_skip (whole : text.toList = before ++ (own ++ rest))
    (behind : c.behind.reverse = ofChars before) (ahead : c.ahead = ofChars (own ++ rest)) :
    Between text (c.skip (ofChars own).length) :=
  ⟨before ++ own, rest, by rw [whole, List.append_assoc], behind_skip_ofChars behind ahead,
    ahead_skip_ofChars ahead⟩

theorem cuts_skip (whole : text.toList = before ++ (own ++ rest))
    (behind : c.behind.reverse = ofChars before) (ahead : c.ahead = ofChars (own ++ rest)) :
    Cuts text c (c.skip (ofChars own).length) (String.ofList own) where
  le := by
    rw [pos_skip_ofChars ahead]
    exact Nat.le_add_right ..
  begins := ⟨before, own ++ rest, whole, behind, ahead⟩
  ends := between_skip whole behind ahead
  slice := slice?_skip ahead

/-! ## Between segments -/

theorem between_nextSegment? {d : Cursor} {segment : Segment} (between : Between text c)
    (next : c.nextSegment? = some (segment, d)) : Between text d := by
  obtain ⟨before, after, whole, behind, ahead⟩ := between
  obtain ⟨form, own, rest, rfl, -, rfl⟩ := exists_reads_of_nextSegment? ahead next
  exact between_skip whole behind ahead

theorem between_of_steps {d : Cursor} {segments : List Segment} (between : Between text c)
    (steps : c.Steps segments d) : Between text d := by
  induction steps with
  | refl => exact between
  | step next rest ih => exact ih (between_nextSegment? between next)

/-! ## The cuts -/

theorem cuts_eatNumber (between : Between text c) :
    Cuts text c c.eatNumber.2 c.eatNumber.1.text := by
  obtain ⟨before, after, whole, behind, ahead⟩ := between
  obtain ⟨own, rest, rfl, all, stops⟩ := exists_run Char.isDigit after
  rw [eatNumber_eq ahead all stops]
  exact cuts_skip whole behind ahead

theorem cuts_eatWord (between : Between text c) : Cuts text c c.eatWord.2 c.eatWord.1.text := by
  obtain ⟨before, after, whole, behind, ahead⟩ := between
  obtain ⟨own, rest, rfl, all, stops⟩ := exists_run inWord after
  rw [eatWord_eq ahead all stops]
  exact cuts_skip whole behind ahead

theorem cuts_eatString (between : Between text c) (quote : c.peek? = some '"'.toUInt8) :
    Cuts text c.advance (c.advance.eatWhile (· ≠ '"'.toUInt8)) c.eatString.1.text := by
  obtain ⟨before, after, whole, behind, ahead⟩ := between
  rw [peek?, ahead, head?_ofChars (by decide)] at quote
  obtain ⟨chars, rfl⟩ := List.head?_eq_some_iff.1 quote
  obtain ⟨own, rest, rfl, free, stops⟩ := exists_until '"' chars
  obtain ⟨opened, eaten⟩ := eatString_opened free ahead stops
  -- The quote is a single byte, so that the cut begins behind it.
  have quoted : c.ahead = ofChars (['"'] ++ (own ++ rest)) := ahead
  have passed : c.advance.behind.reverse = ofChars (before ++ ['"']) :=
    behind_skip_ofChars behind quoted
  rw [eatString_eq free ahead stops, eaten]
  exact cuts_skip (by simp [whole]) passed opened

theorem takeChar?_of_between (between : Between text c) (more : c.isAtEnd = false) :
    ∃ d e, c.takeChar? = some (d, e) ∧ Between text e := by
  obtain ⟨before, after, whole, behind, ahead⟩ := between
  cases after with
  | nil => simp [isAtEnd, ahead] at more
  | cons d after =>
    have first : c.ahead = ofChars ([d] ++ after) := ahead
    exact ⟨d, _, takeChar?_ofChars ahead, between_skip whole behind first⟩

theorem cuts_eatSign (between : Between text c) (more : c.isAtEnd = false) :
    Cuts text c c.eatSign.2 c.eatSign.1.text := by
  obtain ⟨before, after, whole, behind, ahead⟩ := between
  cases after with
  | nil => simp [isAtEnd, ahead] at more
  | cons d after =>
    by_cases pair : ∃ e ∈ after.head?, isSpelling [d, e] = true
    · obtain ⟨e, next, spelling⟩ := pair
      obtain ⟨sign, spells⟩ := isSpelling_eq_true.1 spelling
      obtain ⟨rest, rfl⟩ := List.head?_eq_some_iff.1 next
      have both : c.ahead = ofChars ([d, e] ++ rest) := ahead
      rw [eatSign_pair spells both]
      exact cuts_skip whole behind both
    · have single : Stops (fun e => isSpelling [d, e]) after := fun e next =>
        Bool.eq_false_iff.2 fun spelling => pair ⟨e, next, spelling⟩
      have first : c.ahead = ofChars ([d] ++ after) := ahead
      rw [eatSign_single first single]
      exact cuts_skip whole behind first

/-- Wherever a run over a text comes to, the cursor stands between two characters, whatever is
    cut out there is cut between characters, and there is a character for `eatSign` to take. -/
theorem boundaries_of_steps {segments : List Segment} (steps : (ofText text).Steps segments c) :
    Between text c ∧
    Cuts text c c.eatNumber.2 c.eatNumber.1.text ∧
    Cuts text c c.eatWord.2 c.eatWord.1.text ∧
    (c.peek? = some '"'.toUInt8 →
      Cuts text c.advance (c.advance.eatWhile (· ≠ '"'.toUInt8)) c.eatString.1.text) ∧
    (c.isAtEnd = false → (∃ d e, c.takeChar? = some (d, e) ∧ Between text e) ∧
      Cuts text c c.eatSign.2 c.eatSign.1.text) := by
  have between := between_of_steps (between_ofText text) steps
  refine ⟨between, cuts_eatNumber between, cuts_eatWord between, cuts_eatString between, ?_⟩
  intro more
  exact ⟨takeChar?_of_between between more, cuts_eatSign between more⟩

/-- Behind a comment with a character of two bytes in it, another one is taken whole. -/
theorem between_behind_a_comment :
    (ofText "/*é*/ü").Steps [{ start := 0, stop := 6, piece := .blockComment }]
      ((ofText "/*é*/ü").skip 6) ∧
    Between "/*é*/ü" ((ofText "/*é*/ü").skip 6) ∧
    ∃ d e, ((ofText "/*é*/ü").skip 6).takeChar? = some (d, e) ∧ Between "/*é*/ü" e := by
  have steps : (ofText "/*é*/ü").Steps [{ start := 0, stop := 6, piece := .blockComment }]
      ((ofText "/*é*/ü").skip 6) := .step rfl .refl
  obtain ⟨between, -, -, -, sign⟩ := boundaries_of_steps steps
  exact ⟨steps, between, (sign rfl).1⟩

end CTokens.Cursor
