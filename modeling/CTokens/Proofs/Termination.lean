import CTokens.Proofs.Boundaries
import CTokens.Proofs.Moves

/-! # The scanner ends

The inner loops advance by a byte a round, and none of them goes on at the end, so that they make
at most as many rounds as there are bytes ahead (`Rounds.le_length`).  The outer loop reads a
segment a turn.  A segment is made of whole characters, and of one at least, which bounds the
turns of every run by the characters of its source (`length_le_of_steps`).

The turn that needs an argument is the one that takes a symbol, because it moves only if there is
a character to take.  There is one, as the cursor stands between characters when the turn begins.
-/

namespace CTokens

open Utf8

namespace Cursor

/-! ## Inner loops -/

/-- `Rounds goes c n d`: advancing for as long as `goes` says so leads in `n` rounds from `c`
    to `d`. -/
inductive Rounds (goes : Cursor → Bool) : Cursor → Nat → Cursor → Prop
  | ends {c : Cursor} (stops : goes c = false) : Rounds goes c 0 c
  | round {c d : Cursor} {n : Nat} (more : goes c = true) (rest : Rounds goes c.advance n d) :
      Rounds goes c (n + 1) d

/-- Neither at the end nor in front of a closer. -/
def inComment (c : Cursor) : Bool :=
  match c.peek? with
  | none => false
  | some byte => !(byte = '*'.toUInt8 && c.peekNext? = some '/'.toUInt8)

theorem Rounds.le_length {goes : Cursor → Bool} {c d : Cursor} {n : Nat}
    (atEnd : ∀ c, goes c = true → c.ahead ≠ []) (rounds : Rounds goes c n d) :
    n ≤ c.ahead.length := by
  induction rounds with
  | ends => exact Nat.zero_le _
  | @round c d n more _ ih =>
    -- The round takes one of the bytes ahead, and there was one.
    have ahead := List.length_pos_iff.2 (atEnd c more)
    rw [ahead_advance, List.length_tail] at ih
    omega

theorem rounds_eatWhile (p : UInt8 → Bool) (c : Cursor) :
    Rounds (fun d => d.peek?.any p) c (c.ahead.takeWhile p).length (c.eatWhile p) := by
  rw [eatWhile_eq]
  induction ahead : c.ahead generalizing c with
  | nil => exact .ends (by simp [peek?, ahead])
  | cons byte rest ih =>
    cases accepted : p byte with
    | false =>
      rw [List.takeWhile_cons_of_neg (by simp [accepted])]
      exact .ends (by simp [peek?, ahead, accepted])
    | true =>
      rw [List.takeWhile_cons_of_pos accepted]
      exact .round (by simp [peek?, ahead, accepted]) (ih c.advance (by simp [ahead]))

theorem exists_rounds_eatWhile (p : UInt8 → Bool) (c : Cursor) :
    ∃ n ≤ c.ahead.length, Rounds (fun d => d.peek?.any p) c n (c.eatWhile p) := by
  have rounds := c.rounds_eatWhile p
  refine ⟨_, rounds.le_length ?_, rounds⟩
  intro d more empty
  simp [peek?, empty] at more

theorem countToClose_add (m n : Nat) (bytes : List UInt8) :
    countToClose (m + n) bytes = m + countToClose n bytes := by
  induction bytes generalizing n with
  | nil => rfl
  | cons byte bytes ih =>
    rw [countToClose, countToClose]
    split
    · exact Nat.add_assoc ..
    · rw [Nat.add_assoc, ih]

theorem skip_atEnd (n : Nat) {c : Cursor} (empty : c.ahead = []) : c.skip n = c := by
  induction n with
  | zero => rfl
  | succ n ih =>
    have stays : c.advance = c := by simp [advance, empty]
    rw [skip, stays, ih]

/-- The loop over a comment ends in front of its closer, or where there is nothing to pass. -/
theorem rounds_inComment (c : Cursor) :
    ∃ n d, Rounds inComment c n d ∧ c.skip (countToClose 0 c.ahead) = d.skip 2 := by
  induction ahead : c.ahead generalizing c with
  | nil =>
    have stops : c.inComment = false := by simp [inComment, peek?, ahead]
    exact ⟨0, c, .ends stops, by rw [skip_atEnd _ ahead, skip_atEnd _ ahead]⟩
  | cons byte bytes ih =>
    have goes : c.inComment = !(byte = '*'.toUInt8 && bytes.head? = some '/'.toUInt8) := by
      simp [inComment, peek?, peekNext?, ahead]
    rw [countToClose]
    split
    next closes =>
      rw [closes] at goes
      exact ⟨0, c, .ends goes, rfl⟩
    next inside =>
      rw [Bool.eq_false_iff.2 inside] at goes
      obtain ⟨n, d, rounds, equal⟩ := ih c.advance (by simp [ahead])
      refine ⟨n + 1, d, .round goes rounds, ?_⟩
      -- The bytes behind this one are counted on from 1, and `ih` counts them from 0.
      rw [Nat.add_comm, countToClose_add, skip_add, ← equal]
      rfl

theorem exists_rounds_eatBlockComment (c : Cursor) :
    ∃ n ≤ c.ahead.length, ∃ d, Rounds inComment (c.skip 2) n d ∧ c.eatBlockComment = d.skip 2 := by
  obtain ⟨n, d, rounds, equal⟩ := rounds_inComment (c.skip 2)
  refine ⟨n, ?_, d, rounds, equal⟩
  have atEnd : ∀ c, inComment c = true → c.ahead ≠ [] := by
    intro e more empty
    simp [inComment, peek?, empty] at more
  have le := rounds.le_length atEnd
  rw [ahead_skip, List.length_drop] at le
  omega

/-! ## Turns of the outer loop -/

theorem pos_lt_of_nextSegment? {c d : Cursor} {segment : Segment}
    (next : c.nextSegment? = some (segment, d)) : c.pos < d.pos := by
  have less := length_ahead_nextSegment? next
  obtain ⟨n, rfl⟩ := skips_nextSegment? next
  -- No byte is lost, so what is no longer ahead has been passed.
  have before := c.pos_add_length_ahead
  have after := (c.skip n).pos_add_length_ahead
  rw [bytes_skip] at after
  omega

theorem skips_of_steps {c d : Cursor} {segments : List Segment} (steps : c.Steps segments d) :
    c.Skips d := by
  induction steps with
  | refl => exact .refl _
  | step next _ ih => exact (skips_nextSegment? next).trans ih

theorem pos_le_of_skips {text : String} {c : Cursor} (skips : (ofText text).Skips c) :
    c.pos ≤ (encode text).length := by
  obtain ⟨n, rfl⟩ := skips
  have whole := ((ofText text).skip n).pos_add_length_ahead
  have source : (ofText text).bytes = encode text := by simp [ofText, ofBytes, bytes]
  rw [bytes_skip, source] at whole
  omega

/-- A run makes no more turns than there are characters ahead of it. -/
theorem length_le_of_steps {c d : Cursor} {segments : List Segment} {chars : List Char}
    (steps : c.Steps segments d) (ahead : c.ahead = ofChars chars) :
    segments.length ≤ chars.length := by
  induction steps generalizing chars with
  | refl => exact Nat.zero_le _
  | step next _ ih =>
    obtain ⟨form, own, rest, rfl, reads, rfl⟩ := exists_reads_of_nextSegment? ahead next
    -- The turn passes `own`, which is not empty, and the others are made over `rest`.
    have others := ih (ahead_skip_ofChars ahead)
    have passed := List.length_pos_iff.2 reads.own_ne_nil
    rw [List.length_cons, List.length_append]
    omega

theorem length_le_of_steps_ofText {text : String} {c : Cursor} {segments : List Segment}
    (steps : (ofText text).Steps segments c) : segments.length ≤ text.length := by
  have turns := length_le_of_steps steps (encode_eq_ofChars text)
  rwa [String.length_toList] at turns

theorem pos_le_pos_eatSign {c e : Cursor} {d : Char} (taken : c.takeChar? = some (d, e)) :
    e.pos ≤ c.eatSign.2.pos := by
  simp only [eatSign, taken]
  split
  · exact Nat.le_refl _
  · split
    · rw [pos_advance]
      exact Nat.le_add_right ..
    · exact Nat.le_refl _

theorem exists_takeChar?_lt {text : String} {c : Cursor} (between : Between text c)
    (more : c.isAtEnd = false) :
    ∃ d e, c.takeChar? = some (d, e) ∧ c.pos < e.pos ∧ e.pos ≤ c.eatSign.2.pos := by
  obtain ⟨d, e, taken, -⟩ := takeChar?_of_between between more
  refine ⟨d, e, taken, ?_, pos_le_pos_eatSign taken⟩
  have ahead : 0 < c.ahead.length := List.length_pos_iff.2 (by simpa [isAtEnd] using more)
  have size := d.utf8Size_pos
  rw [takeChar?_eq_some taken, pos_skip]
  omega

end Cursor

/-! ## The scan of a text -/

theorem pos_scan (text : String) : (scan text).2.pos = (encode text).length := by
  obtain ⟨parts, falls⟩ := exists_parts text.toList
  rw [(scan_of_parts falls).2, Cursor.pos_skip]
  simp [Cursor.ofText, Cursor.ofBytes]

theorem length_tokenize_le (text : String) : (tokenize text).length ≤ text.length + 1 := by
  have turns := Cursor.length_le_of_steps_ofText (steps_scan text).1
  have lexemes := List.length_filterMap_le Segment.token? (scan text).1.toList
  show ((scan text).1.toList.filterMap Segment.token? ++ [_]).length ≤ _
  rw [List.length_append, List.length_singleton]
  omega

/-- The scan of a text ends, and at the end of the text.  Wherever a run has come to, it has made
    no more turns than the text has characters, and the next turn moves it on; in front of a
    symbol this is so because there is a character to take.  Wherever moves lead to, which may be
    within a character, the cursor is not behind the end, and the inner loops make at most as
    many rounds as there are bytes ahead. -/
theorem scan_ends (text : String) :
    ((Cursor.ofText text).Steps (scan text).1.toList (scan text).2 ∧
      (scan text).2.nextSegment? = none ∧ (scan text).2.pos = (encode text).length) ∧
    (∀ segments c, (Cursor.ofText text).Steps segments c →
      segments.length ≤ text.length ∧
      (∀ segment d, c.nextSegment? = some (segment, d) →
        c.pos < d.pos ∧ d.pos ≤ (encode text).length) ∧
      (c.isAtEnd = false →
        ∃ d e, c.takeChar? = some (d, e) ∧ c.pos < e.pos ∧ e.pos ≤ c.eatSign.2.pos)) ∧
    (∀ c, (Cursor.ofText text).Skips c →
      c.pos ≤ (encode text).length ∧
      (∀ p, ∃ n ≤ c.ahead.length, Cursor.Rounds (fun d => d.peek?.any p) c n (c.eatWhile p)) ∧
      (∃ n ≤ c.ahead.length, ∃ d,
        Cursor.Rounds Cursor.inComment (c.skip 2) n d ∧ c.eatBlockComment = d.skip 2)) ∧
    (tokenize text).length ≤ text.length + 1 := by
  obtain ⟨steps, ends⟩ := steps_scan text
  refine ⟨⟨steps, ends, pos_scan text⟩, ?_, ?_, length_tokenize_le text⟩
  · intro segments c reached
    have between := Cursor.between_of_steps (Cursor.between_ofText text) reached
    refine ⟨Cursor.length_le_of_steps_ofText reached, ?_, Cursor.exists_takeChar?_lt between⟩
    intro segment d next
    have skips := (Cursor.skips_of_steps reached).trans (Cursor.skips_nextSegment? next)
    exact ⟨Cursor.pos_lt_of_nextSegment? next, Cursor.pos_le_of_skips skips⟩
  · intro c skips
    exact ⟨Cursor.pos_le_of_skips skips, c.exists_rounds_eatWhile, c.exists_rounds_eatBlockComment⟩

end CTokens
