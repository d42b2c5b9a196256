import CTokens.Cursor.Lemmas
import CTokens.Segment.Next

/-! # Progress

Every piece passes the byte it begins with, so that `nextSegment?` always leaves less ahead
(`length_ahead_nextSegment?`) and a source has no more segments than bytes.  Runs pass their
first byte because it satisfies their test; a symbol passes it because a character has at
least one byte.

What a step can do is said once, in `eatLexeme_cases` and `eatPiece_cases`.
-/

namespace CTokens.Cursor

/-! ## What a step can do -/

theorem eatLexeme_cases (c : Cursor) (byte : UInt8) :
    (isDigit byte = true ∧ c.eatLexeme byte = c.eatNumber) ∨
    (isWordStart byte = true ∧ c.eatLexeme byte = c.eatWord) ∨
    (byte = '"'.toUInt8 ∧ c.eatLexeme byte = c.eatString) ∨
    c.eatLexeme byte = c.eatSign := by
  by_cases digit : isDigit byte = true
  · exact .inl ⟨digit, if_pos digit⟩
  by_cases start : isWordStart byte = true
  · exact .inr (.inl ⟨start, by rw [eatLexeme, if_neg digit, if_pos start]⟩)
  by_cases quote : byte = '"'.toUInt8
  · exact .inr (.inr (.inl ⟨quote, by rw [eatLexeme, if_neg digit, if_neg start, if_pos quote]⟩))
  · exact .inr (.inr (.inr (by rw [eatLexeme, if_neg digit, if_neg start, if_neg quote])))

theorem eatPiece_cases (c : Cursor) (byte : UInt8) :
    (isBlank byte = true ∧ c.eatPiece byte = (.blank, c.advance)) ∨
    (byte = '#'.toUInt8 ∧ c.eatPiece byte = (.directive, c.eatLine)) ∨
    (byte = '/'.toUInt8 ∧ c.eatPiece byte = (.lineComment, c.eatLine)) ∨
    (byte = '/'.toUInt8 ∧ c.eatPiece byte = (.blockComment, c.eatBlockComment)) ∨
    c.eatPiece byte = (.lexeme (c.eatLexeme byte).1, (c.eatLexeme byte).2) := by
  unfold eatPiece
  split
  next blank => exact .inl ⟨blank, rfl⟩
  next =>
    split
    next hash => exact .inr (.inl ⟨hash, rfl⟩)
    next =>
      simp only [Bool.and_eq_true, decide_eq_true_eq]
      split
      next line => exact .inr (.inr (.inl ⟨line.1, rfl⟩))
      next =>
        split
        next block => exact .inr (.inr (.inr (.inl ⟨block.1, rfl⟩)))
        next => exact .inr (.inr (.inr (.inr rfl)))

/-! ## Less is left -/

/-- Passing a run that begins with the next byte leaves less ahead. -/
theorem length_ahead_eatWhile {c : Cursor} {p : UInt8 → Bool} {byte : UInt8} {rest : List UInt8}
    (hahead : c.ahead = byte :: rest) (hp : p byte = true) :
    (c.eatWhile p).ahead.length < c.ahead.length := by
  have := (List.dropWhile_sublist p (l := rest)).length_le
  simp only [ahead_eatWhile, hahead, List.dropWhile_cons, hp, if_true, List.length_cons]
  omega

theorem length_ahead_advance {c : Cursor} {byte : UInt8} {rest : List UInt8}
    (hahead : c.ahead = byte :: rest) : c.advance.ahead.length < c.ahead.length := by
  simp [hahead]

theorem length_ahead_eatString {c : Cursor} {byte : UInt8} {rest : List UInt8}
    (hahead : c.ahead = byte :: rest) : c.eatString.2.ahead.length < c.ahead.length := by
  have := (List.dropWhile_sublist (· ≠ '"'.toUInt8) (l := rest)).length_le
  simp only [eatString, matchByte]
  split <;> simp [hahead] at this ⊢ <;> omega

theorem length_ahead_eatSign {c : Cursor} {byte : UInt8} {rest : List UInt8}
    (hahead : c.ahead = byte :: rest) : c.eatSign.2.ahead.length < c.ahead.length := by
  simp only [eatSign]
  split
  · exact length_ahead_advance hahead
  · rename_i ch d htake
    have hpos := ch.utf8Size_pos
    have hd : d.ahead.length < c.ahead.length := by
      simp only [takeChar?_eq_some htake, ahead_skip, List.length_drop, hahead, List.length_cons]
      omega
    split
    · exact hd
    · split
      · simp only [ahead_advance, List.length_tail]
        omega
      · exact hd

theorem length_ahead_eatLexeme {c : Cursor} {byte : UInt8} {rest : List UInt8}
    (hahead : c.ahead = byte :: rest) :
    (c.eatLexeme byte).2.ahead.length < c.ahead.length := by
  obtain ⟨digit, equal⟩ | ⟨start, equal⟩ | ⟨-, equal⟩ | equal := c.eatLexeme_cases byte
  · rw [equal]
    exact length_ahead_eatWhile hahead digit
  · rw [equal]
    exact length_ahead_eatWhile hahead (by simp [isWordByte, start])
  · rw [equal]
    exact length_ahead_eatString hahead
  · rw [equal]
    exact length_ahead_eatSign hahead

theorem length_ahead_eatPiece {c : Cursor} {byte : UInt8} {rest : List UInt8}
    (hahead : c.ahead = byte :: rest) :
    (c.eatPiece byte).2.ahead.length < c.ahead.length := by
  obtain ⟨-, equal⟩ | ⟨rfl, equal⟩ | ⟨rfl, equal⟩ | ⟨-, equal⟩ | equal := c.eatPiece_cases byte
  · rw [equal]
    exact length_ahead_advance hahead
  · rw [equal]
    exact length_ahead_eatWhile hahead rfl
  · rw [equal]
    exact length_ahead_eatWhile hahead rfl
  · rw [equal]
    simp only [eatBlockComment, ahead_skip, List.length_drop, hahead, List.length_cons]
    omega
  · rw [equal]
    exact length_ahead_eatLexeme hahead

theorem length_ahead_nextSegment? {c d : Cursor} {segment : Segment}
    (h : c.nextSegment? = some (segment, d)) : d.ahead.length < c.ahead.length := by
  obtain ⟨byte, hpeek, heq⟩ := Option.map_eq_some_iff.1 h
  obtain ⟨rest, hahead⟩ := List.head?_eq_some_iff.1 hpeek
  cases heq
  exact length_ahead_eatPiece hahead

end CTokens.Cursor
