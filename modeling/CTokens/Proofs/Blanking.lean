import CTokens.Proofs.Lookahead

/-! # Blanks in place of what is skipped

A directive or a comment says nothing to the tokens around it but that they are apart, and on
which lines they are.  Write a space in its place, and behind the space as many newlines as it
has: the tokens of the source stay the same, their lines included (`tokenize_blankOut`).

The parts of the new source are those of the old one with blanks between them.  A lexeme looks
one character ahead, where it now finds the character that was there, or a space.
-/

namespace CTokens

open Utf8

/-- The bytes of a piece or, where it is skipped, a space and the newlines among them. -/
def Piece.blanked (own : List UInt8) : Piece → List UInt8
  | .directive | .lineComment | .blockComment =>
    ' '.toUInt8 :: List.replicate (own.count Cursor.newline) Cursor.newline
  | .blank | .lexeme _ => own

/-- The bytes of the source with blanks for all that is skipped in it. -/
def blankOut (text : String) : List UInt8 :=
  (scan text).1.toList.flatMap fun segment => segment.piece.blanked (segment.own (encode text))

/-! ## Blanks as parts -/

def blankParts (chars : List Char) : List Part :=
  chars.map fun c => { form := .blank, own := [c] }

theorem flatMap_own_blankParts (chars : List Char) : (blankParts chars).flatMap Part.own = chars := by
  simp [blankParts, List.flatMap_map]

theorem Parts.blankParts {chars rest : List Char} {parts : List Part}
    (spaces : ∀ c ∈ chars, isSpace c = true) (falls : Parts rest parts) :
    Parts (chars ++ rest) (blankParts chars ++ parts) := by
  induction chars with
  | nil => exact falls
  | cons c chars ih =>
    rw [List.forall_mem_cons] at spaces
    exact .cons (.blank spaces.1) (ih spaces.2)

theorem tokensFrom_blankParts (line : UInt32) (chars : List Char) (parts : List Part) :
    tokensFrom line (blankParts chars ++ parts) = tokensFrom (line + newlines chars) parts := by
  induction chars generalizing line with
  | nil => simp [blankParts, newlines]
  | cons c chars ih =>
    have split : newlines (c :: chars) = newlines [c] + newlines chars := newlines_append [c] chars
    rw [split, ← UInt32.add_assoc, ← ih]
    rfl

/-! ## The parts of the new source -/

def gapFor (own : List Char) : List Char :=
  ' ' :: List.replicate (own.count '\n') '\n'

def Part.blanked (part : Part) : List Part :=
  match part.form with
  | .directive | .lineComment | .blockComment => blankParts (gapFor part.own)
  | .blank | .lexeme .. => [part]

def blankedChars (parts : List Part) : List Char :=
  (parts.flatMap Part.blanked).flatMap Part.own

theorem isSpace_of_mem_gapFor {own : List Char} : ∀ c ∈ gapFor own, isSpace c = true := by
  intro c member
  rcases List.mem_cons.1 member with rfl | newline
  · rfl
  · rw [List.eq_of_mem_replicate newline]
    rfl

theorem newlines_gapFor (own : List Char) : newlines (gapFor own) = newlines own := by
  simp [newlines, gapFor]

theorem ofChars_gapFor (own : List Char) :
    ofChars (gapFor own) =
      ' '.toUInt8 :: List.replicate ((ofChars own).count Cursor.newline) Cursor.newline := by
  have ascii : ∀ c ∈ gapFor own, IsAscii c := fun c member =>
    isAscii_of_isSpace (isSpace_of_mem_gapFor c member)
  rw [← map_toUInt8 ascii, Cursor.newline, count_ofChars (by decide), gapFor, List.map_cons,
    List.map_replicate]

theorem blankedChars_cons (part : Part) (parts : List Part) :
    blankedChars (part :: parts) = part.blanked.flatMap Part.own ++ blankedChars parts := by
  rw [blankedChars, List.flatMap_cons, List.flatMap_append]
  rfl

theorem head?_blankedChars {chars : List Char} {parts : List Part} (falls : Parts chars parts) :
    (∀ c ∈ (blankedChars parts).head?, c ∈ chars.head?) ∨
      (chars ≠ [] ∧ Stops (fun c => !isSpace c) (blankedChars parts)) := by
  cases falls with
  | nil => exact .inl fun _ first => first
  | @cons form own rest parts reads tail =>
    obtain ⟨d, more, rfl⟩ := List.exists_cons_of_ne_nil reads.own_ne_nil
    cases form with
    | blank | lexeme => exact .inl fun _ first => first
    | directive | lineComment | blockComment =>
      refine .inr ⟨List.cons_ne_nil _ _, ?_⟩
      rintro c ⟨⟩
      rfl

theorem Reads.before_blank {kind : Kind} {text own rest other : List Char}
    (reads : Reads (.lexeme kind text) own rest) (nonempty : rest ≠ [])
    (blank : Stops (fun c => !isSpace c) other) : Reads (.lexeme kind text) own other := by
  cases reads with
  | lexeme admits => exact .lexeme admits (stops_of_blank blank)
  | openString => contradiction

theorem Parts.blanked {chars : List Char} {parts : List Part} (falls : Parts chars parts) :
    Parts (blankedChars parts) (parts.flatMap Part.blanked) := by
  induction falls with
  | nil => exact .nil
  | @cons form own rest parts reads tail ih =>
    rw [blankedChars_cons, List.flatMap_cons]
    cases form with
    | directive | lineComment | blockComment =>
      rw [Part.blanked, flatMap_own_blankParts]
      exact ih.blankParts isSpace_of_mem_gapFor
    | blank =>
      cases reads with
      | blank space => exact .cons (.blank space) ih
    | lexeme kind text =>
      -- Behind the lexeme is what was there before, or a blank, which goes on with no lexeme.
      have apart : Reads (.lexeme kind text) own (blankedChars parts) := by
        rcases head?_blankedChars tail with same | ⟨nonempty, blank⟩
        · exact reads.of_head? same
        · exact reads.before_blank nonempty blank
      rw [Part.blanked, List.flatMap_singleton]
      exact .cons apart ih

/-! ## The same tokens -/

theorem tokensFrom_blanked (line : UInt32) (parts : List Part) :
    tokensFrom line (parts.flatMap Part.blanked) = tokensFrom line parts := by
  induction parts generalizing line with
  | nil => rfl
  | cons part parts ih =>
    obtain ⟨form, own⟩ := part
    rw [List.flatMap_cons]
    cases form with
    | directive | lineComment | blockComment =>
      rw [Part.blanked, tokensFrom_blankParts, newlines_gapFor, ih]
      rfl
    | blank | lexeme =>
      rw [Part.blanked, List.singleton_append, tokensFrom, tokensFrom, ih]

theorem blanked_piece (form : Form) (line : UInt32) (own : List Char) :
    (form.piece line).blanked (ofChars own) =
      ofChars ((Part.blanked { form := form, own := own }).flatMap Part.own) := by
  cases form with
  | directive | lineComment | blockComment =>
    rw [Part.blanked, flatMap_own_blankParts, ofChars_gapFor]
    rfl
  | blank | lexeme =>
    rw [Part.blanked, List.flatMap_singleton]
    rfl

theorem blankOut_eq_ofChars {text : String} {parts : List Part} (falls : Parts text.toList parts) :
    blankOut text = ofChars (blankedChars parts) := by
  have pieces := map_scan (f := fun piece own => piece.blanked own) blanked_piece falls
  rw [blankOut, List.flatMap_def, pieces, blankedChars, List.flatMap_assoc, ofChars,
    List.flatMap_assoc, List.flatMap_def]
  rfl

/-- With a space and its own newlines for each directive and each comment, a source has the tokens
    that it had before, on the same lines. -/
theorem tokenize_blankOut (text : String) :
    ∃ blanked, decode? (blankOut text) = some blanked ∧ tokenize blanked = tokenize text := by
  obtain ⟨parts, falls⟩ := exists_parts text.toList
  refine ⟨String.ofList (blankedChars parts), ?_, ?_⟩
  · rw [blankOut_eq_ofChars falls, ← encode_ofList]
    exact decode?_encode _
  · have blanked := falls.blanked
    rw [← String.toList_ofList (l := blankedChars parts)] at blanked
    rw [tokenize_of_parts blanked, tokensFrom_blanked, tokenize_of_parts falls]

end CTokens
