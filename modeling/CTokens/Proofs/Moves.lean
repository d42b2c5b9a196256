import CTokens.Segment.Progress

/-! # Moves only go forward

Whatever bytes a cursor stands before, reading a segment passes some of them and does nothing
else (`skips_nextSegment?`).  A statement that `skip` keeps is therefore kept by every step of
the scanner, within a character as well as between two.
-/

namespace CTokens.Cursor

/-- The one cursor comes from the other by passing bytes. -/
def Skips (c d : Cursor) : Prop :=
  ∃ n, d = c.skip n

theorem Skips.refl (c : Cursor) : c.Skips c :=
  ⟨0, rfl⟩

theorem Skips.trans {c d e : Cursor} (first : c.Skips d) (second : d.Skips e) : c.Skips e := by
  obtain ⟨m, rfl⟩ := first
  obtain ⟨n, rfl⟩ := second
  exact ⟨m + n, (skip_add m n c).symm⟩

theorem skips_advance (c : Cursor) : c.Skips c.advance :=
  ⟨1, rfl⟩

theorem skips_eatWhile (c : Cursor) (p : UInt8 → Bool) : c.Skips (c.eatWhile p) :=
  ⟨_, rfl⟩

theorem skips_matchByte (c : Cursor) (byte : UInt8) : c.Skips (c.matchByte byte).2 := by
  unfold matchByte
  split
  · exact c.skips_advance
  · exact .refl c

theorem skips_eatString (c : Cursor) : c.Skips c.eatString.2 :=
  (c.skips_advance.trans (skips_eatWhile ..)).trans (skips_matchByte ..)

theorem skips_eatSign (c : Cursor) : c.Skips c.eatSign.2 := by
  simp only [eatSign]
  split
  · exact c.skips_advance
  · next ch d taken =>
    have skips : c.Skips d := ⟨_, takeChar?_eq_some taken⟩
    split
    · exact skips
    · split
      · exact skips.trans d.skips_advance
      · exact skips

theorem skips_eatLexeme (c : Cursor) (byte : UInt8) : c.Skips (c.eatLexeme byte).2 := by
  obtain ⟨-, equal⟩ | ⟨-, equal⟩ | ⟨-, equal⟩ | equal := c.eatLexeme_cases byte
  · rw [equal]
    exact c.skips_eatWhile isDigit
  · rw [equal]
    exact c.skips_eatWhile isWordByte
  · rw [equal]
    exact c.skips_eatString
  · rw [equal]
    exact c.skips_eatSign

theorem skips_eatPiece (c : Cursor) (byte : UInt8) : c.Skips (c.eatPiece byte).2 := by
  obtain ⟨-, equal⟩ | ⟨-, equal⟩ | ⟨-, equal⟩ | ⟨-, equal⟩ | equal := c.eatPiece_cases byte
  · rw [equal]
    exact c.skips_advance
  · rw [equal]
    exact c.skips_eatWhile (· ≠ newline)
  · rw [equal]
    exact c.skips_eatWhile (· ≠ newline)
  · rw [equal]
    exact Skips.trans ⟨2, rfl⟩ ⟨_, rfl⟩
  · rw [equal]
    exact c.skips_eatLexeme byte

theorem line_eatLexeme (c : Cursor) (byte : UInt8) : (c.eatLexeme byte).1.line = c.line := by
  -- Each eater takes the line before it moves, so that after the rewriting nothing is left.
  obtain ⟨-, equal⟩ | ⟨-, equal⟩ | ⟨-, equal⟩ | equal := c.eatLexeme_cases byte
  all_goals
    rw [equal]
    rfl

theorem line_of_eatPiece {c : Cursor} {byte : UInt8} {token : Token}
    (piece : (c.eatPiece byte).1 = .lexeme token) : token.line = c.line := by
  obtain ⟨-, equal⟩ | ⟨-, equal⟩ | ⟨-, equal⟩ | ⟨-, equal⟩ | equal := c.eatPiece_cases byte
  case inr.inr.inr.inr =>
    rw [equal, Piece.lexeme.injEq] at piece
    rw [← piece]
    exact c.line_eatLexeme byte
  all_goals
    rw [equal] at piece
    contradiction

variable {c d : Cursor} {segment : Segment}

theorem skips_nextSegment? (next : c.nextSegment? = some (segment, d)) : c.Skips d := by
  obtain ⟨byte, -, equal⟩ := Option.map_eq_some_iff.1 next
  cases equal
  exact c.skips_eatPiece byte

theorem piece_of_token? {token : Token} (made : segment.token? = some token) :
    segment.piece = .lexeme token := by
  unfold Segment.token? at made
  split at made
  next lexeme => rw [lexeme, Option.some.inj made]
  next => contradiction

/-- A segment lies between the cursors, and its token is on the line of the first. -/
theorem segment_of_nextSegment? (next : c.nextSegment? = some (segment, d)) :
    segment.start = c.pos ∧ segment.stop = d.pos ∧
      ∀ token, segment.token? = some token → token.line = c.line := by
  obtain ⟨byte, -, equal⟩ := Option.map_eq_some_iff.1 next
  cases equal
  refine ⟨rfl, rfl, ?_⟩
  intro token made
  exact line_of_eatPiece (piece_of_token? made)

end CTokens.Cursor
