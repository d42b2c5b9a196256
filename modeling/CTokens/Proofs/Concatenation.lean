import CTokens.Proofs.LineNumbers
import CTokens.Proofs.RoundTrip

/-! # Sources one behind the other

A newline ends every segment but a literal and a block comment that are not yet closed
(`Segment.Spans.before_newline`).  Behind a source that does not end within one of these, and a
newline, another source is therefore read as it is alone, a number of lines further down: the
parts of the two are the parts of the whole (`parts_append_newline`), and nothing else than the
count of lines goes from one part to the next.
-/

namespace CTokens

open Utf8

/-- A literal or a block comment that nothing closes. -/
def Segment.IsOpen (source : List UInt8) (segment : Segment) : Prop :=
  match segment.piece with
  | .blockComment => ¬ closerBytes <:+: (segment.own source).drop 2
  | .lexeme token => token.kind = .string ∧ '"'.toUInt8 ∉ (segment.own source).drop 1
  | .blank | .directive | .lineComment => False

def Token.shift (n : Nat) (token : Token) : Token :=
  { token with line := token.line + UInt32.ofNat n }

/-! ## The parts of the whole -/

theorem Stops.before_newline {q : Char → Bool} {rest : List Char} (stops : Stops q rest)
    (newline : q '\n' = false) (more : List Char) : Stops q (rest ++ '\n' :: more) := by
  cases rest with
  | nil => simpa [Stops] using newline
  | cons c rest => exact stops

theorem Segment.Spans.before_newline {source : List UInt8} {segment : Segment} {form : Form}
    {own rest : List Char} (spans : segment.Spans source form own rest)
    (closed : rest = [] → ¬ segment.IsOpen source) (more : List Char) :
    Reads form own (rest ++ '\n' :: more) := by
  have equal := spans.own_eq
  obtain ⟨reads, -, -, line, piece⟩ := spans
  cases reads with
  | blank space => exact .blank space
  | directive noNewline stops => exact .directive noNewline (stops.before_newline rfl more)
  | lineComment noNewline stops => exact .lineComment noNewline (stops.before_newline rfl more)
  | blockComment inner => exact .blockComment inner
  -- Only what is left open would go on over the newline, and `closed` says that nothing is.
  | @openComment body inner =>
    refine absurd ?_ (closed rfl)
    have free : ¬ closerBytes <:+: ofChars body := fun inside =>
      inner (infix_ofChars isAscii_closer inside)
    rw [Segment.IsOpen, piece, equal]
    exact free
  | lexeme admits stops =>
    exact .lexeme admits (stops.before_newline (continues_of_space rfl ..) more)
  | @openString text free =>
    refine absurd ?_ (closed rfl)
    rw [Segment.IsOpen, piece, equal]
    exact ⟨rfl, not_mem_ofChars (by decide) free⟩

theorem Parts.eq_nil {parts : List Part} (falls : Parts [] parts) : parts = [] := by
  generalize empty : [] = chars at falls
  cases falls with
  | nil => rfl
  | cons reads => exact absurd (List.append_eq_nil_iff.1 empty.symm).1 reads.own_ne_nil

theorem parts_append_newline {chars more : List Char} {parts others : List Part}
    (falls : Parts chars parts) (behind : Parts more others) (before : List Char) (line : UInt32)
    (closed : ∀ segment ∈ (place (ofChars before).length line parts).getLast?,
      ¬ segment.IsOpen (ofChars (before ++ chars))) :
    Parts (chars ++ '\n' :: more) (parts ++ { form := .blank, own := ['\n'] } :: others) := by
  induction falls generalizing before line with
  | nil => exact .cons (.blank rfl) behind
  | @cons form own rest parts reads tail ih =>
    rw [List.append_assoc]
    have spans := spans_reads reads before line
    refine .cons (spans.before_newline ?_ more) (ih (before ++ own) (line + newlines own) ?_)
    · -- With nothing behind it, this segment is the last one.
      rintro rfl
      obtain rfl := tail.eq_nil
      exact closed _ rfl
    · -- Else the last segment is the last one of the tail.
      intro segment last
      rw [ofChars_append, List.length_append] at last
      rw [List.append_assoc]
      refine closed segment ?_
      rw [place, List.getLast?_cons, last]
      rfl

/-! ## The tokens of the whole -/

theorem tokensFrom_ne_nil (line : UInt32) (parts : List Part) : tokensFrom line parts ≠ [] := by
  rw [← filterMap_place 0]
  exact List.concat_ne_nil _ _

theorem tokensFrom_append (line : UInt32) (parts others : List Part) :
    tokensFrom line (parts ++ others) = (tokensFrom line parts).dropLast ++
      tokensFrom (line + newlines (parts.flatMap Part.own)) others := by
  induction parts generalizing line with
  | nil => simp [tokensFrom, newlines]
  | cons part parts ih =>
    rw [List.cons_append, tokensFrom, tokensFrom, ih, List.flatMap_cons, newlines_append,
      List.dropLast_append_of_ne_nil (tokensFrom_ne_nil _ _), List.append_assoc, UInt32.add_assoc]

theorem tokensFrom_add (line : UInt32) (n : Nat) (parts : List Part) :
    tokensFrom (line + UInt32.ofNat n) parts = (tokensFrom line parts).map (Token.shift n) := by
  induction parts generalizing line with
  | nil => rfl
  | cons part parts ih =>
    have shifted : (part.form.token? (line + UInt32.ofNat n)).toList =
        (part.form.token? line).toList.map (Token.shift n) := by
      cases part.form <;> rfl
    have sum : line + UInt32.ofNat n + newlines part.own = line + newlines part.own + UInt32.ofNat n := by
      rw [UInt32.add_assoc, UInt32.add_comm (UInt32.ofNat n), ← UInt32.add_assoc]
    rw [tokensFrom, tokensFrom, List.map_append, ← ih, shifted, sum]

theorem toNat_line_shift {n : Nat} {token : Token} (bound : token.line.toNat + n < UInt32.size) :
    (token.shift n).line.toNat = token.line.toNat + n := by
  have small : n < UInt32.size := by omega
  rw [Token.shift, UInt32.toNat_add, UInt32.toNat_ofNat_of_lt' small]
  exact Nat.mod_eq_of_lt bound

theorem encode_append_newline (first second : String) :
    (encode (first ++ "\n" ++ second)).count Cursor.newline =
      (encode first).count Cursor.newline + 1 + (encode second).count Cursor.newline := by
  simp only [encode_eq_ofChars, String.toList_append, ofChars_append, List.count_append]
  rfl

/-- Behind a source that ends in no open literal and no open comment, and a newline, the tokens of
    another source are the same as without it, as many lines further down as stand before it. -/
theorem tokenize_append_newline (first second : String)
    (few : (encode (first ++ "\n" ++ second)).count Cursor.newline < UInt32.size - 1)
    (closed : ∀ segment ∈ (scan first).1.toList.getLast?, ¬ segment.IsOpen (encode first)) :
    tokenize (first ++ "\n" ++ second) = (tokenize first).dropLast ++
      (tokenize second).map (Token.shift ((encode first).count Cursor.newline + 1)) ∧
    ∀ token ∈ tokenize second,
      (token.shift ((encode first).count Cursor.newline + 1)).line.toNat =
        token.line.toNat + ((encode first).count Cursor.newline + 1) := by
  obtain ⟨parts, falls⟩ := exists_parts first.toList
  obtain ⟨others, behind⟩ := exists_parts second.toList
  rw [(scan_of_parts falls).1, encode_eq_ofChars] at closed
  have whole := parts_append_newline falls behind [] 1 closed
  have chars : (first ++ "\n" ++ second).toList = first.toList ++ '\n' :: second.toList := by
    simp
  rw [← chars] at whole
  rw [encode_append_newline] at few
  constructor
  · -- The lines of the first source, and the newline behind it, are counted before the second.
    have lines : 1 + newlines (parts.flatMap Part.own) + newlines ['\n'] =
        1 + UInt32.ofNat ((encode first).count Cursor.newline + 1) := by
      rw [falls.flatMap_own, encode_eq_ofChars, Cursor.newline, count_ofChars (by decide),
        UInt32.ofNat_add, UInt32.add_assoc]
      rfl
    rw [tokenize_of_parts whole, tokenize_of_parts falls, tokenize_of_parts behind, tokensFrom_append,
      ← tokensFrom_add, ← lines]
    rfl
  · intro token member
    have le := toNat_line_le (by omega) member
    exact toNat_line_shift (by omega)

/-- A quote within a comment opens nothing. -/
theorem tokenize_append_newline_to_a_comment :
    (encode ("a//\"" ++ "\n" ++ "\nb")).count Cursor.newline < UInt32.size - 1 ∧
    (∀ segment ∈ (scan "a//\"").1.toList.getLast?, ¬ segment.IsOpen (encode "a//\"")) ∧
    tokenize ("a//\"" ++ "\n" ++ "\nb") =
      (tokenize "a//\"").dropLast ++ (tokenize "\nb").map (Token.shift 1) := by
  have few : (encode ("a//\"" ++ "\n" ++ "\nb")).count Cursor.newline < UInt32.size - 1 := by decide
  have steps : (Cursor.ofText "a//\"").Steps
      [{ start := 0, stop := 1, piece := .lexeme { kind := .identifier, text := "a", line := 1 } },
       { start := 1, stop := 4, piece := .lineComment }] ((Cursor.ofText "a//\"").skip 4) :=
    .step rfl (.step rfl .refl)
  have closed : ∀ segment ∈ (scan "a//\"").1.toList.getLast?, ¬ segment.IsOpen (encode "a//\"") := by
    rw [(scan_of_steps steps rfl).1]
    rintro segment ⟨⟩
    exact id
  exact ⟨few, closed, (tokenize_append_newline _ _ few closed).1⟩

end CTokens
