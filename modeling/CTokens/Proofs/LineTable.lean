import CTokens.Proofs.Characters
import CTokens.Report.SourceFile

/-! # The lines of a source file

A source file keeps the lines of its text with the places where they start.  The place of any
character is on the line whose number, counted from 0, is that of the newlines before the place
(`lineRange?_ofText`).  This line starts behind the last of these newlines (`lineStart`), and it
goes on from the place as the text behind the place does.
-/

namespace CTokens

open Utf8

/-! ## Lines around a cut -/

namespace Text

theorem byteLength_eq (chars : List Char) : byteLength chars = (ofChars chars).length := by
  induction chars with
  | nil => rfl
  | cons c chars ih =>
    rw [ofChars_cons, List.length_append, String.length_utf8EncodeChar, ← ih]
    rfl

theorem lines_ne_nil (chars : List Char) : lines chars ≠ [] := by
  rw [← List.length_pos_iff, length_lines]
  exact Nat.succ_pos _

theorem consLine_cons {c : Char} (other : c ≠ '\n') (line : List Char) (lines : List (List Char)) :
    consLine c (line :: lines) = (c :: line) :: lines := by
  simp [consLine, other]

/-- A cut falls into one line, the part of it before the cut being `own`, and leaves the lines
    before and behind that one whole. -/
theorem exists_lines_append (before rest : List Char) :
    ∃ fronts own, before = fronts.flatten ++ own ∧ fronts.length = before.count '\n' ∧
      (∀ front ∈ fronts, ∃ inner, front = inner ++ ['\n']) ∧ '\n' ∉ own ∧
      ∀ first others, lines rest = first :: others →
        lines (before ++ rest) = fronts ++ (own ++ first) :: others := by
  induction before with
  | nil => exact ⟨[], [], rfl, rfl, by simp, by simp, fun _ _ equal => equal⟩
  | cons c before ih =>
    obtain ⟨fronts, own, whole, length, closed, open_, cut⟩ := ih
    by_cases newline : c = '\n'
    · subst newline
      refine ⟨['\n'] :: fronts, own, by rw [whole]; rfl, by simp [length], ?_, open_, ?_⟩
      · exact List.forall_mem_cons.2 ⟨⟨[], rfl⟩, closed⟩
      · intro first others equal
        rw [List.cons_append, lines_cons, cut first others equal]
        rfl
    · -- The character goes to the front of what was the first line.
      cases fronts with
      | nil =>
        refine ⟨[], c :: own, by rw [whole]; rfl, ?_, by simp, ?_, ?_⟩
        · rw [List.count_cons_of_ne newline, ← length]
        · simpa [open_] using fun same => newline same.symm
        · intro first others equal
          rw [List.cons_append, lines_cons, cut first others equal, List.nil_append,
            consLine_cons newline]
          rfl
      | cons front fronts =>
        refine ⟨(c :: front) :: fronts, own, by rw [whole]; rfl, ?_, ?_, open_, ?_⟩
        · rw [List.count_cons_of_ne newline, ← length]
          rfl
        · obtain ⟨⟨inner, rfl⟩, others⟩ := List.forall_mem_cons.1 closed
          exact List.forall_mem_cons.2 ⟨⟨c :: inner, rfl⟩, others⟩
        · intro first others equal
          rw [List.cons_append, lines_cons, cut first others equal, List.cons_append,
            consLine_cons newline]
          rfl

end Text

/-! ## The place where a line starts -/

/-- Where the line starts that a place of a source is on: behind the last newline before the
    place. -/
def lineStart (source : List UInt8) (place : Nat) : Nat :=
  place - ((source.take place).reverse.takeWhile (· ≠ Cursor.newline)).length

theorem takeWhile_reverse_closed {fronts : List (List Char)}
    (closed : ∀ front ∈ fronts, ∃ inner, front = inner ++ ['\n']) :
    (ofChars fronts.flatten).reverse.takeWhile (· ≠ Cursor.newline) = [] := by
  rcases List.eq_nil_or_concat fronts with rfl | ⟨others, last, rfl⟩
  · rfl
  · obtain ⟨inner, rfl⟩ := closed last (by simp)
    have ends : ofChars (others.concat (inner ++ ['\n'])).flatten =
        ofChars (others.flatten ++ inner) ++ [Cursor.newline] := by
      rw [List.concat_eq_append, List.flatten_append, List.flatten_singleton, ← List.append_assoc,
        ofChars_append]
      rfl
    rw [ends, List.reverse_append]
    exact List.takeWhile_cons_of_neg (by simp)

theorem lineStart_append {before rest own : List Char} {fronts : List (List Char)}
    (whole : before = fronts.flatten ++ own)
    (closed : ∀ front ∈ fronts, ∃ inner, front = inner ++ ['\n']) (inner : '\n' ∉ own) :
    lineStart (ofChars (before ++ rest)) (ofChars before).length =
      (ofChars fronts.flatten).length := by
  have free : ∀ byte ∈ (ofChars own).reverse, decide (byte ≠ Cursor.newline) = true := by
    intro byte member
    rw [List.mem_reverse] at member
    have apart : Cursor.newline ∉ ofChars own := not_mem_ofChars (by decide) inner
    simpa using ne_of_mem_of_not_mem member apart
  rw [lineStart, ofChars_append, List.take_left, whole, ofChars_append, List.reverse_append,
    List.takeWhile_append_of_pos free, takeWhile_reverse_closed closed, List.append_nil,
    List.length_reverse, List.length_append, Nat.add_sub_cancel]

/-- The place of a newline is on the line that it ends. -/
example : (List.range 6).map (lineStart (encode "ab\n\nc")) = [0, 0, 0, 3, 4, 4] := by decide

/-! ## The table -/

namespace Report.SourceFile

def laid (start : Nat) : List (List Char) → List Line
  | [] => []
  | text :: texts =>
    { start := start, text := text } :: laid (start + Text.byteLength text) texts

theorem toList_placeLines (placed : Array Line) (start : Nat) (texts : List (List Char)) :
    (placeLines placed start texts).toList = placed.toList ++ laid start texts := by
  induction texts generalizing placed start with
  | nil => simp [placeLines, laid]
  | cons text texts ih => simp [placeLines, laid, ih, Line.stop]

theorem toList_lines_ofText (name text : String) :
    (ofText name text).lines.toList = laid 0 (Text.lines text.toList) := by
  simp [ofText, toList_placeLines]

theorem length_laid (start : Nat) (texts : List (List Char)) :
    (laid start texts).length = texts.length := by
  induction texts generalizing start with
  | nil => rfl
  | cons text texts ih => rw [laid, List.length_cons, ih, List.length_cons]

theorem laid_append (start : Nat) (texts more : List (List Char)) :
    laid start (texts ++ more) =
      laid start texts ++ laid (start + (ofChars texts.flatten).length) more := by
  induction texts generalizing start with
  | nil => rfl
  | cons text texts ih =>
    rw [List.cons_append, laid, ih, laid, List.cons_append, List.flatten_cons, ofChars_append,
      List.length_append, Text.byteLength_eq, Nat.add_assoc]

section

variable (name : String) {text : String} {line : List Char} {fronts others : List (List Char)}

theorem getElem?_lines_ofText (split : Text.lines text.toList = fronts ++ line :: others) :
    (ofText name text).lines[fronts.length]? =
      some { start := (ofChars fronts.flatten).length, text := line } := by
  have lines := toList_lines_ofText name text
  rw [split, laid_append, laid, Nat.zero_add] at lines
  rw [← Array.getElem?_toList, lines, ← length_laid 0 fronts,
    List.getElem?_append_right (Nat.le_refl _), Nat.sub_self, List.getElem?_cons_zero]

theorem lineRange?_of_lines (split : Text.lines text.toList = fronts ++ line :: others) :
    (ofText name text).lineRange? fronts.length =
      some ((ofChars fronts.flatten).length, (ofChars (fronts.flatten ++ line)).length) := by
  rw [lineRange?, getElem?_lines_ofText name split, Option.map_some, Line.stop, Text.byteLength_eq,
    ofChars_append, List.length_append]

end

/-- The place between `before` and `rest` is on the line that as many newlines are before. -/
theorem lineRange?_ofText (name : String) {text : String} {before rest first : List Char}
    {others : List (List Char)} (whole : text.toList = before ++ rest)
    (next : Text.lines rest = first :: others) :
    (ofText name text).lineRange? (before.count '\n') =
      some (lineStart (encode text) (ofChars before).length,
        (ofChars before).length + (ofChars first).length) := by
  obtain ⟨fronts, own, split, length, closed, inner, cut⟩ := Text.exists_lines_append before rest
  have lines : Text.lines text.toList = fronts ++ (own ++ first) :: others := by
    rw [whole, cut first others next]
  rw [← length, lineRange?_of_lines name lines, encode_eq_ofChars, whole,
    lineStart_append split closed inner, ← List.append_assoc, ← split, ofChars_append,
    List.length_append]

end Report.SourceFile

end CTokens
