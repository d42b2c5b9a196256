import CTokens.Proofs.Printing
import CTokens.Proofs.Snippets
import Mathlib.Data.List.Basic

/-! # Looking up lines

A failure names a line by its number, and its source by the number that the reporter gave to it.
Either can be wrong.  The diagnostic has a label if the reporter has the source and the source has
the line, and says the line in a note if not; nothing that is looked up later, when the diagnostic
is drawn, can be missing (`diagnosed_and_emitted`).
-/

namespace CTokens

open Utf8

/-! ## Where lines start -/

/-- The places of a source where lines start: the first place, and those behind newlines. -/
def lineStarts (source : List UInt8) : List Nat :=
  0 :: (source.idxsOf Cursor.newline).map (· + 1)

theorem length_lineStarts (text : String) :
    (lineStarts (encode text)).length = text.toList.count '\n' + 1 := by
  rw [lineStarts, List.length_cons, List.length_map, List.length_idxsOf, encode_eq_ofChars,
    Cursor.newline, count_ofChars (by decide)]

theorem idxsOf_utf8EncodeChar {c : Char} (other : c ≠ '\n') (start : Nat) :
    (String.utf8EncodeChar c).idxsOf Cursor.newline start = [] := by
  have free : Cursor.newline ∉ String.utf8EncodeChar c := fun member =>
    ne_of_mem_utf8EncodeChar (d := '\n') (by decide) other member rfl
  rw [← List.length_eq_zero_iff, List.length_idxsOf, List.count_eq_zero]
  exact free

namespace Report

namespace SourceFile

theorem map_start_laid (start : Nat) (chars : List Char) :
    (laid start (Text.lines chars)).map Line.start =
      start :: (ofChars chars).idxsOf Cursor.newline (start + 1) := by
  induction chars generalizing start with
  | nil => rfl
  | cons c chars ih =>
    rw [Text.lines_cons]
    by_cases newline : c = '\n'
    · subst newline
      show start :: (laid (start + 1) (Text.lines chars)).map Line.start = _
      rw [ih, ofChars_ascii_cons (by decide), List.idxsOf_cons, if_pos (by decide)]
    · -- The character moves what is behind its line, and the line itself starts where it did.
      obtain ⟨line, others, equal⟩ := List.exists_cons_of_ne_nil (Text.lines_ne_nil chars)
      have behind := ih (start + c.utf8Size)
      rw [equal, laid, List.map_cons, List.cons.injEq] at behind
      have longer : start + Text.byteLength (c :: line) =
          start + c.utf8Size + Text.byteLength line := (Nat.add_assoc ..).symm
      rw [equal, Text.consLine_cons newline, laid, List.map_cons, longer, behind.2, ofChars_cons,
        List.idxsOf_append, idxsOf_utf8EncodeChar newline, List.nil_append,
        String.length_utf8EncodeChar, Nat.add_right_comm]

theorem lineStarts_encode (name text : String) :
    lineStarts (encode text) = (ofText name text).lines.toList.map Line.start := by
  rw [toList_lines_ofText, map_start_laid, lineStarts, encode_eq_ofChars, ← List.idxsOf_start]

theorem getElem?_lineStarts (name : String) {text : String} {line : List Char}
    {fronts others : List (List Char)}
    (split : Text.lines text.toList = fronts ++ line :: others) :
    (lineStarts (encode text))[fronts.length]? = some (ofChars fronts.flatten).length := by
  rw [lineStarts_encode name, List.getElem?_map, Array.getElem?_toList,
    getElem?_lines_ofText name split]
  rfl

/-- A line goes from where it starts to where the next one does, or to the end. -/
theorem lineRange?_eq (name text : String) (index : Nat) :
    (ofText name text).lineRange? index =
      (lineStarts (encode text))[index]?.map fun start =>
        (start, (lineStarts (encode text))[index + 1]?.getD (encode text).length) := by
  have length := length_lineStarts text
  by_cases within : index < text.toList.count '\n' + 1
  · obtain ⟨fronts, line, others, split, rfl⟩ := Text.exists_lines_split text.toList within
    rw [lineRange?_of_lines name split, getElem?_lineStarts name split, Option.map_some]
    cases others with
    | nil =>
      -- The last line goes to the end.
      have last : (lineStarts (encode text))[fronts.length + 1]? = none := by
        have size := congrArg List.length split
        rw [Text.length_lines, List.length_append, List.length_singleton] at size
        exact List.getElem?_eq_none (by omega)
      have whole := Text.flatten_lines text.toList
      rw [split, List.flatten_append, List.flatten_singleton] at whole
      rw [last, Option.getD_none, whole, encode_eq_ofChars]
    | cons next more =>
      have started := getElem?_lineStarts name (split.trans (List.append_cons ..))
      rw [List.length_append, List.length_singleton, List.flatten_append, List.flatten_singleton]
        at started
      rw [started, Option.getD_some]
  · have absent : (lineStarts (encode text))[index]? = none :=
      List.getElem?_eq_none (by omega)
    have missing : (ofText name text).lines[index]? = none := by
      rwa [lineStarts_encode name, List.getElem?_map, Option.map_eq_none_iff,
        Array.getElem?_toList] at absent
    rw [absent, lineRange?, missing]
    rfl

end SourceFile

/-! ## Reporters with several files -/

namespace Reporter

def addFiles (reporter : Reporter) (files : List (String × String)) : Reporter :=
  files.foldl (fun reporter file => (reporter.addFile file.1 file.2).2) reporter

theorem toList_files_addFiles (reporter : Reporter) (files : List (String × String)) :
    (reporter.addFiles files).files.toList =
      reporter.files.toList ++ files.map fun file => SourceFile.ofText file.1 file.2 := by
  induction files generalizing reporter with
  | nil => exact (List.append_nil _).symm
  | cons file files ih =>
    have pushed : (reporter.addFile file.1 file.2).2.files.toList =
        reporter.files.toList ++ [SourceFile.ofText file.1 file.2] := Array.toList_push
    refine (ih (reporter.addFile file.1 file.2).2).trans ?_
    rw [pushed, List.append_assoc]
    rfl

/-- The files are numbered from 0, in the order in which they were added. -/
theorem getElem?_addFiles (coloured : Bool) (files : List (String × String)) (number : Nat) :
    ((new coloured).addFiles files).files[number]? =
      files[number]?.map fun file => SourceFile.ofText file.1 file.2 := by
  rw [← Array.getElem?_toList, toList_files_addFiles, ← List.getElem?_map]
  rfl

theorem lineRange?_addFiles (coloured : Bool) (files : List (String × String)) (number index : Nat) :
    ((new coloured).addFiles files).lineRange? number index =
      files[number]?.bind fun file => (SourceFile.ofText file.1 file.2).lineRange? index := by
  rw [lineRange?, getElem?_addFiles, Option.bind_map]
  rfl

end Reporter

/-! ## Diagnostics of any failure -/

/-- The label and the notes of the diagnostic of a failure, where these files are known and the
    failure is said to be in the file with that number.  Lines are counted from 1, and line 0 is
    taken for line 1. -/
inductive Diagnosed (files : List (String × String)) (number : Nat) :
    Failure → Option Label → List String → Prop
  | onLine {name text message : String} {line : UInt32} {start : Nat}
      (known : files[number]? = some (name, text))
      (within : max line.toNat 1 ≤ text.toList.count '\n' + 1)
      (starts : (lineStarts (encode text))[max line.toNat 1 - 1]? = some start) :
      Diagnosed files number (.onLine message line)
        (some
          { file := number
            start := start
            stop := (lineStarts (encode text))[max line.toNat 1]?.getD (encode text).length
            message := message })
        []
  | nowhere {message : String} {line : UInt32}
      (missing : ∀ name text, files[number]? = some (name, text) →
        text.toList.count '\n' + 1 < max line.toNat 1) :
      Diagnosed files number (.onLine message line) none
        ["line " ++ line.toNat.repr ++ ": " ++ message]
  | unknownTokens {name : String} {count : Nat} :
      Diagnosed files number (.unknownTokens name count) none []
  | file {error : FileError} : Diagnosed files number (.file error) none []

namespace Reporter

variable (coloured : Bool) (files : List (String × String)) (severity : Severity) (number : Nat)

theorem diagnosed_onLine (message : String) (line : UInt32) :
    Diagnosed files number (.onLine message line)
      (((new coloured).addFiles files).diagnose severity number (.onLine message line)).label
      (((new coloured).addFiles files).diagnose severity number (.onLine message line)).notes := by
  have index : line.toNat - 1 = max line.toNat 1 - 1 := by omega
  have next : max line.toNat 1 - 1 + 1 = max line.toNat 1 := by omega
  have range := lineRange?_addFiles coloured files number (line.toNat - 1)
  rw [diagnose]
  cases known : files[number]? with
  | none =>
    -- No file has this number.
    rw [known, Option.bind_none] at range
    simp only [range]
    exact .nowhere fun name text found => absurd (known.symm.trans found) (by simp)
  | some file =>
    obtain ⟨name, text⟩ := file
    rw [known, Option.bind_some, SourceFile.lineRange?_eq, index] at range
    cases starts : (lineStarts (encode text))[max line.toNat 1 - 1]? with
    | none =>
      -- The file has no such line.
      rw [starts, Option.map_none, ← index] at range
      simp only [range]
      refine .nowhere fun _ _ found => ?_
      cases known.symm.trans found
      have beyond := List.getElem?_eq_none_iff.1 starts
      rw [length_lineStarts] at beyond
      omega
    | some start =>
      rw [starts, Option.map_some, next, ← index] at range
      simp only [range]
      refine .onLine known ?_ starts
      obtain ⟨within, -⟩ := List.getElem?_eq_some_iff.1 starts
      rw [length_lineStarts] at within
      omega

theorem diagnosed_diagnose (failure : Failure) :
    Diagnosed files number failure
      (((new coloured).addFiles files).diagnose severity number failure).label
      (((new coloured).addFiles files).diagnose severity number failure).notes := by
  cases failure with
  | onLine message line => exact diagnosed_onLine coloured files severity number message line
  | unknownTokens name count => exact .unknownTokens
  | file error => exact .file

/-! ## Written diagnostics -/

theorem emitTo_diagnose (reporter : Reporter) (failure : Failure) (sink : Sink) :
    (reporter.emitTo (reporter.diagnose severity number failure) sink).1 =
      (if sink.HasRoom (encode (reporter.text (reporter.diagnose severity number failure))).length
        then none else some (.write .writeRefused)) ∧
    (reporter.emitTo (reporter.diagnose severity number failure) sink).2.held.data.toList =
      sink.held.data.toList ++
        sink.taken (encode (reporter.text (reporter.diagnose severity number failure))) := by
  obtain ⟨fragments, -, drawn, -⟩ := reporter.exists_fragments_diagnose severity number failure
  simp only [emitTo, text, drawn, Sink.error_writeAll, Sink.toList_held_writeAll, and_true]
  split <;> rfl

/-- Whatever files are known, and whatever file and line a failure is said to be in, the diagnostic
    has a label exactly if there is such a line, and the label covers the line; for any other line
    there is a note, and for any other failure neither.  The diagnostic can always be drawn, and
    writing it fails only for want of room. -/
theorem diagnosed_and_emitted (failure : Failure) (sink : Sink) :
    let reporter := (new coloured).addFiles files
    let diagnostic := reporter.diagnose severity number failure
    Diagnosed files number failure diagnostic.label diagnostic.notes ∧
    (∃ inks, reporter.draw diagnostic = .ok inks) ∧
    (reporter.emitTo diagnostic sink).1 =
      (if sink.HasRoom (encode (reporter.text diagnostic)).length then none
        else some (.write .writeRefused)) ∧
    (reporter.emitTo diagnostic sink).2.held.data.toList =
      sink.held.data.toList ++ sink.taken (encode (reporter.text diagnostic)) := by
  intro reporter diagnostic
  refine ⟨diagnosed_diagnose coloured files severity number failure, ?_,
    emitTo_diagnose severity number reporter failure sink⟩
  obtain ⟨inks, drawn⟩ : ∃ inks, reporter.draw diagnostic = .ok (drawHeader diagnostic ++ inks) :=
    exists_draw fun _ => exists_lines_of_label
  exact ⟨_, drawn⟩

end Reporter

end Report

end CTokens
