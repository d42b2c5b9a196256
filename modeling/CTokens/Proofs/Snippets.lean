import CTokens.Proofs.Drawing
import CTokens.Proofs.Labels

/-! # The lines that a diagnostic shows

The label of a failure covers the whole line of it, with the newline that ends the line.  It begins
on this line, but it stops behind the newline, at a place that belongs to the next line.  So what is
drawn shows the line and the one below it, and a label lies on its line alone only if no other line
follows (`label_on_line`).
-/

namespace CTokens

open Utf8

/-! ## Lines before others -/

theorem Text.closed_of_lines {chars line : List Char} {fronts others : List (List Char)}
    (split : lines chars = fronts ++ line :: others) (more : others ≠ []) :
    ∃ inner, line = inner ++ ['\n'] := by
  induction chars generalizing fronts line with
  | nil =>
    cases fronts with
    | nil =>
      cases split
      contradiction
    | cons front fronts => simp [lines_nil] at split
  | cons c chars ih =>
    rw [lines_cons] at split
    by_cases newline : c = '\n'
    · subst newline
      cases fronts with
      | nil =>
        cases split
        exact ⟨[], rfl⟩
      | cons front fronts =>
        exact ih (List.cons.inj split).2
    · obtain ⟨first, rest, equal⟩ := List.exists_cons_of_ne_nil (lines_ne_nil chars)
      rw [equal, consLine_cons newline] at split
      -- The character goes to the front of the first line, which is the line itself or one before.
      cases fronts with
      | nil =>
        cases split
        have front : lines chars = [] ++ first :: _ := equal
        obtain ⟨inner, rfl⟩ := ih front
        exact ⟨c :: inner, rfl⟩
      | cons front fronts =>
        obtain ⟨-, rfl⟩ := List.cons.inj split
        have behind : lines chars = (first :: fronts) ++ line :: others := equal
        exact ih behind

theorem Text.exists_lines_split (chars : List Char) {index : Nat}
    (within : index < chars.count '\n' + 1) :
    ∃ fronts line others, lines chars = fronts ++ line :: others ∧ fronts.length = index := by
  rw [← length_lines] at within
  refine ⟨(lines chars).take index, (lines chars)[index], (lines chars).drop (index + 1), ?_, ?_⟩
  · rw [List.getElem_cons_drop, List.take_append_drop]
  · exact List.length_take_of_le (Nat.le_of_lt within)

namespace Report

namespace SourceFile

/-! ## Places and lines -/

theorem start_le_of_mem_laid {start : Nat} {texts : List (List Char)} {line : Line}
    (member : line ∈ laid start texts) : line.start ≤ start + (ofChars texts.flatten).length := by
  induction texts generalizing start with
  | nil => cases member
  | cons text texts ih =>
    rw [laid, List.mem_cons] at member
    rw [List.flatten_cons, ofChars_append, List.length_append, ← Nat.add_assoc,
      ← Text.byteLength_eq]
    rcases member with rfl | member
    · exact Nat.le_trans (Nat.le_add_right ..) (Nat.le_add_right ..)
    · exact ih member

section

variable (name : String) {text : String} {line : List Char} {fronts others : List (List Char)}

/-- A place belongs to the line that starts there or before, and that goes on behind it or has no
    other line below it. -/
theorem lineAt_of_lines (split : Text.lines text.toList = fronts ++ line :: others) {offset : Nat}
    (started : (ofChars fronts.flatten).length ≤ offset)
    (inside : others ≠ [] → offset < (ofChars (fronts.flatten ++ line)).length) :
    (ofText name text).lineAt offset = fronts.length := by
  have before : ∀ front ∈ laid 0 fronts, decide (front.start ≤ offset) = true := by
    intro front member
    have le := start_le_of_mem_laid member
    simp only [decide_eq_true_eq]
    omega
  have behind (start : Nat) (equal : start = (ofChars (fronts.flatten ++ line)).length) :
      (laid start others).takeWhile (fun line => line.start ≤ offset) = [] := by
    cases others with
    | nil => rfl
    | cons next more =>
      have beyond := inside (List.cons_ne_nil next more)
      exact List.takeWhile_cons_of_neg (by simpa [equal] using beyond)
  -- The test holds up to this line, and fails from the next one on.
  rw [lineAt, toList_lines_ofText, split, laid_append, laid, List.takeWhile_append_of_pos before,
    List.takeWhile_cons_of_pos (by simpa using started), behind, List.length_append, length_laid]
  · rfl
  · rw [Nat.zero_add, Text.byteLength_eq, ofChars_append, List.length_append]

theorem lineAt_start (split : Text.lines text.toList = fronts ++ line :: others) :
    (ofText name text).lineAt (ofChars fronts.flatten).length = fronts.length := by
  refine lineAt_of_lines name split (Nat.le_refl _) fun more => ?_
  obtain ⟨inner, rfl⟩ := Text.closed_of_lines split more
  simp only [ofChars_append, List.length_append]
  have nonempty : 0 < (ofChars ['\n']).length := by decide
  omega

/-- A line stops where the next one starts, and the last one at a place of its own. -/
theorem lineAt_stop (split : Text.lines text.toList = fronts ++ line :: others) :
    (ofText name text).lineAt (ofChars (fronts.flatten ++ line)).length =
      if others = [] then fronts.length else fronts.length + 1 := by
  cases others with
  | nil =>
    refine lineAt_of_lines name split ?_ fun more => absurd rfl more
    rw [ofChars_append, List.length_append]
    exact Nat.le_add_right ..
  | cons next more =>
    have further : Text.lines text.toList = (fronts ++ [line]) ++ next :: more := by
      rw [split, List.append_assoc]
      rfl
    have started := lineAt_start name further
    rwa [List.flatten_append, List.flatten_singleton, List.length_append] at started

end

end SourceFile

/-! ## What is drawn -/

/-- The label lies on one line of its source, and shows no other. -/
structure Alone (reporter : Reporter) (severity : Severity) (file : SourceFile) (index : Nat)
    (label : Label) : Prop where
  start : file.lineAt label.start = index
  stop : file.lineAt label.stop = index
  drawn : ∃ line, file.lines[index]? = some line ∧
    reporter.drawLabel severity label = .ok (oneLine severity file.name index line label)

/-- The label goes on to the next line of its source, and shows both. -/
structure WithNext (reporter : Reporter) (severity : Severity) (file : SourceFile) (index : Nat)
    (label : Label) : Prop where
  start : file.lineAt label.start = index
  stop : file.lineAt label.stop = index + 1
  drawn : ∃ line next, file.lines[index]? = some line ∧ file.lines[index + 1]? = some next ∧
    reporter.drawLabel severity label =
      .ok (twoLines severity file.name index line (index + 1) next label)

namespace Reporter

section

variable {reporter : Reporter} {severity : Severity} {file : SourceFile} {index : Nat}
  {label : Label} {line next : Line}

theorem drawLabel_of_stop_eq (known : reporter.files[label.file]? = some file)
    (start : file.lineAt label.start = index) (stop : file.lineAt label.stop = index)
    (there : file.lines[index]? = some line) :
    reporter.drawLabel severity label = .ok (oneLine severity file.name index line label) := by
  simp only [drawLabel, known, start, stop, there, if_true]

theorem drawLabel_of_stop_succ (known : reporter.files[label.file]? = some file)
    (start : file.lineAt label.start = index) (stop : file.lineAt label.stop = index + 1)
    (there : file.lines[index]? = some line) (below : file.lines[index + 1]? = some next) :
    reporter.drawLabel severity label =
      .ok (twoLines severity file.name index line (index + 1) next label) := by
  simp only [drawLabel, known, start, stop, there, below, (Nat.succ_ne_self index).symm, if_false]

end

section

variable {reporter : Reporter} {name text : String} {number : Nat} {line : List Char}
  {fronts others : List (List Char)}

theorem alone_of_lines (known : reporter.files[number]? = some (.ofText name text))
    (split : Text.lines text.toList = fronts ++ [line]) (severity : Severity) (message : String) :
    Alone reporter severity (.ofText name text) fronts.length
      { file := number
        start := (ofChars fronts.flatten).length
        stop := (ofChars (fronts.flatten ++ line)).length
        message := message } := by
  have start := SourceFile.lineAt_start name split
  have stop := (SourceFile.lineAt_stop name split).trans (if_pos rfl)
  have there := SourceFile.getElem?_lines_ofText name split
  exact ⟨start, stop, _, there, drawLabel_of_stop_eq known start stop there⟩

theorem withNext_of_lines {next : List Char}
    (known : reporter.files[number]? = some (.ofText name text))
    (split : Text.lines text.toList = fronts ++ line :: next :: others) (severity : Severity)
    (message : String) :
    WithNext reporter severity (.ofText name text) fronts.length
      { file := number
        start := (ofChars fronts.flatten).length
        stop := (ofChars (fronts.flatten ++ line)).length
        message := message } := by
  have start := SourceFile.lineAt_start name split
  have stop := (SourceFile.lineAt_stop name split).trans (if_neg (List.cons_ne_nil next others))
  have there := SourceFile.getElem?_lines_ofText name split
  have further : Text.lines text.toList = (fronts ++ [line]) ++ next :: others := by
    rw [split, List.append_assoc]
    rfl
  have below := SourceFile.getElem?_lines_ofText name further
  rw [List.length_append, List.length_singleton] at below
  exact ⟨start, stop, _, _, there, below, drawLabel_of_stop_succ known start stop there below⟩

end

/-- Whatever a reporter knows already, a failure on a line of a source that is added to it gets a
    label.  On the last line of the source it shows this line alone, and on any other one it shows
    the next line as well. -/
theorem label_on_line (reporter : Reporter) (severity : Severity) (name text message : String)
    (line : UInt32) (first : 1 ≤ line.toNat) (last : line.toNat ≤ text.toList.count '\n' + 1) :
    ∃ label,
      ((reporter.addFile name text).2.diagnose severity (reporter.addFile name text).1
        (.onLine message line)).label = some label ∧
      label.message = message ∧
      (Alone (reporter.addFile name text).2 severity (.ofText name text) (line.toNat - 1) label ↔
        line.toNat = text.toList.count '\n' + 1) ∧
      (WithNext (reporter.addFile name text).2 severity (.ofText name text) (line.toNat - 1)
          label ↔
        line.toNat ≤ text.toList.count '\n') := by
  have known := reporter.getElem?_addFile name text
  have within : line.toNat - 1 < text.toList.count '\n' + 1 := by omega
  obtain ⟨fronts, own, others, split, index⟩ := Text.exists_lines_split text.toList within
  have size := congrArg List.length split
  rw [Text.length_lines, List.length_append, List.length_cons] at size
  have range := SourceFile.lineRange?_of_lines name split
  rw [index, ← reporter.lineRange?_addFile] at range
  refine ⟨_, congrArg Diagnostic.label (diagnose_onLine range severity message), rfl, ?_⟩
  -- On one line or on two: a label does not stop in both ways.
  cases others with
  | nil =>
    have alone := alone_of_lines known split severity message
    rw [index] at alone
    have bottom : line.toNat = text.toList.count '\n' + 1 := by
      rw [List.length_nil] at size
      omega
    refine ⟨iff_of_true alone bottom, iff_of_false (fun both => ?_) (by omega)⟩
    exact Nat.succ_ne_self _ (both.stop.symm.trans alone.stop)
  | cons next others =>
    have both := withNext_of_lines known split severity message
    rw [index] at both
    have above : line.toNat ≤ text.toList.count '\n' := by
      rw [List.length_cons] at size
      omega
    refine ⟨iff_of_false (fun alone => ?_) (by omega), iff_of_true both above⟩
    exact Nat.succ_ne_self _ (both.stop.symm.trans alone.stop)

/-- The last line of a source that ends in a newline is empty, and shown alone. -/
theorem label_on_line_at_the_end :
    1 ≤ (3 : UInt32).toNat ∧ (3 : UInt32).toNat ≤ "a@\nb\n".toList.count '\n' + 1 ∧
    ∃ label,
      (((new false).addFile "a.c" "a@\nb\n").2.diagnose .error 0 (.onLine "m" 3)).label =
        some label ∧
      Alone ((new false).addFile "a.c" "a@\nb\n").2 .error (.ofText "a.c" "a@\nb\n") 2 label := by
  have last : (3 : UInt32).toNat ≤ "a@\nb\n".toList.count '\n' + 1 := by decide
  obtain ⟨label, labelled, -, alone, -⟩ :=
    label_on_line (new false) .error "a.c" "a@\nb\n" "m" 3 (by decide) last
  exact ⟨by decide, last, label, labelled, alone.2 (by decide)⟩

/-- The label of the first line takes in the newline, and the second line is drawn below it. -/
theorem first_line_not_alone :
    (((new false).addFile "a.c" "a@\nb\n").2.diagnose .error 0 (.onLine "m" 1)).label =
      some { file := 0, start := 0, stop := 3, message := "m" } ∧
    (SourceFile.ofText "a.c" "a@\nb\n").lineAt 0 = 0 ∧
    (SourceFile.ofText "a.c" "a@\nb\n").lineAt 3 = 1 ∧
    ¬ Alone ((new false).addFile "a.c" "a@\nb\n").2 .error (.ofText "a.c" "a@\nb\n") 0
      { file := 0, start := 0, stop := 3, message := "m" } ∧
    ((new false).addFile "a.c" "a@\nb\n").2.text
        (((new false).addFile "a.c" "a@\nb\n").2.diagnose .error 0 (.onLine "m" 1)) =
      "error: Lexer error\n  ┌─ a.c:1:1\n  │  \n1 │ ╭ a@\n2 │ │ b\n  │ ╰^ m\n\n" :=
  ⟨rfl, rfl, rfl, fun alone => absurd alone.stop (by decide), rfl⟩

end Reporter

end Report

end CTokens
