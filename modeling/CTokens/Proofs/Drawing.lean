import CTokens.Report.Emit

/-! # What a diagnostic is drawn from

The diagnostic of a failure can always be drawn, as it has a label only for a line that its source
has (`exists_fragments_diagnose`).  It is drawn from that source and nothing else: a reporter that
has the source under another number, among other sources, draws the same
(`fragments_diagnose_congr`).
-/

namespace CTokens.Report

theorem SourceFile.lineAt_lt {file : SourceFile} (lines : 0 < file.lines.size) (offset : Nat) :
    file.lineAt offset < file.lines.size := by
  have le : (file.lines.toList.takeWhile fun line => line.start ≤ offset).length ≤
      file.lines.size := (List.takeWhile_sublist _).length_le
  rw [lineAt]
  omega

theorem SourceFile.size_lines_of_lineRange? {file : SourceFile} {index : Nat} {range : Nat × Nat}
    (found : file.lineRange? index = some range) : 0 < file.lines.size := by
  obtain ⟨line, there, -⟩ := Option.map_eq_some_iff.1 found
  obtain ⟨lt, -⟩ := Array.getElem?_eq_some_iff.1 there
  exact Nat.zero_lt_of_lt lt

namespace Reporter

variable {reporter other : Reporter} {number otherNumber : Nat}

theorem exists_drawLabel {label : Label} {file : SourceFile}
    (known : reporter.files[label.file]? = some file) (lines : 0 < file.lines.size)
    (severity : Severity) : ∃ inks, reporter.drawLabel severity label = .ok inks := by
  have first := Array.getElem?_eq_getElem (file.lineAt_lt lines label.start)
  have last := Array.getElem?_eq_getElem (file.lineAt_lt lines label.stop)
  simp only [drawLabel, known, first, last]
  split <;> exact ⟨_, rfl⟩

theorem severity_diagnose (reporter : Reporter) (severity : Severity) (number : Nat)
    (failure : Failure) : (reporter.diagnose severity number failure).severity = severity := by
  cases failure with
  | onLine message line =>
    rw [diagnose]
    split <;> rfl
  | unknownTokens name count => rfl
  | file error => rfl

theorem exists_lines_of_label {severity : Severity} {failure : Failure} {label : Label}
    (labelled : (reporter.diagnose severity number failure).label = some label) :
    ∃ file, reporter.files[label.file]? = some file ∧ 0 < file.lines.size := by
  cases failure with
  | onLine message line =>
    rw [diagnose] at labelled
    split at labelled
    · next start stop range =>
      obtain ⟨file, known, found⟩ := Option.bind_eq_some_iff.1 range
      cases labelled
      exact ⟨file, known, file.size_lines_of_lineRange? found⟩
    · cases labelled
  | unknownTokens name count => cases labelled
  | file error => cases labelled

theorem exists_draw {diagnostic : Diagnostic} (known : ∀ label, diagnostic.label = some label →
      ∃ file, reporter.files[label.file]? = some file ∧ 0 < file.lines.size) :
    ∃ inks, reporter.draw diagnostic = .ok (drawHeader diagnostic ++ inks) := by
  let closing := diagnostic.notes.flatMap drawNote ++ [.text "\n"]
  cases labelled : diagnostic.label with
  | none =>
    refine ⟨closing, ?_⟩
    simp only [draw, labelled, List.append_assoc, List.nil_append, closing]
  | some label =>
    obtain ⟨file, source, lines⟩ := known label labelled
    obtain ⟨inks, drawn⟩ := exists_drawLabel source lines diagnostic.severity
    refine ⟨inks ++ closing, ?_⟩
    simp only [draw, labelled, drawn, Except.map, List.append_assoc, closing]

theorem exists_join_header (coloured : Bool) (diagnostic : Diagnostic) (inks : List Ink) :
    ∃ rest, String.join ((drawHeader diagnostic ++ inks).map (Ink.written coloured)) =
      Ink.written coloured (.switch (.severity diagnostic.severity)) ++
        (diagnostic.severity.word ++ rest) :=
  ⟨_, String.join_cons.trans (congrArg _ String.join_cons)⟩

/-- The diagnostic of a failure can be drawn, and begins with the word for its severity. -/
theorem exists_fragments_diagnose (reporter : Reporter) (severity : Severity) (number : Nat)
    (failure : Failure) :
    ∃ fragments rest,
      reporter.fragments (reporter.diagnose severity number failure) = .ok fragments ∧
        String.join fragments =
          Ink.written reporter.coloured (.switch (.severity severity)) ++
            (severity.word ++ rest) := by
  -- A label is only made where its file has lines, so drawing cannot fail.
  obtain ⟨inks, drawn⟩ : ∃ inks, reporter.draw (reporter.diagnose severity number failure) =
      .ok (drawHeader (reporter.diagnose severity number failure) ++ inks) :=
    exists_draw fun _ => exists_lines_of_label
  have written : reporter.fragments (reporter.diagnose severity number failure) =
      .ok ((drawHeader (reporter.diagnose severity number failure) ++ inks).map
        (Ink.written reporter.coloured)) := by
    rw [fragments, drawn]
    rfl
  obtain ⟨rest, joined⟩ := exists_join_header reporter.coloured
    (reporter.diagnose severity number failure) inks
  rw [severity_diagnose] at joined
  exact ⟨_, rest, written, joined⟩

/-! ## The source that matters -/

theorem getElem?_addFile (reporter : Reporter) (name text : String) :
    (reporter.addFile name text).2.files[(reporter.addFile name text).1]? =
      some (.ofText name text) :=
  Array.getElem?_push_size

theorem lineRange?_congr (same : reporter.files[number]? = other.files[otherNumber]?)
    (index : Nat) :
    reporter.lineRange? number index = other.lineRange? otherNumber index := by
  rw [lineRange?, same, lineRange?]

theorem drawLabel_congr (same : reporter.files[number]? = other.files[otherNumber]?)
    (severity : Severity) (start stop : Nat) (message : String) :
    reporter.drawLabel severity ⟨number, start, stop, message⟩ =
      other.drawLabel severity ⟨otherNumber, start, stop, message⟩ := by
  simp only [drawLabel, same]
  rfl

/-- A diagnostic is drawn from the source that has its number, and from nothing else that the
    reporter has. -/
theorem fragments_diagnose_congr (same : reporter.files[number]? = other.files[otherNumber]?)
    (coloured : reporter.coloured = other.coloured) (severity : Severity) (failure : Failure) :
    reporter.fragments (reporter.diagnose severity number failure) =
      other.fragments (other.diagnose severity otherNumber failure) := by
  have drawn : reporter.draw (reporter.diagnose severity number failure) =
      other.draw (other.diagnose severity otherNumber failure) := by
    cases failure with
    | onLine message line =>
      rw [diagnose, diagnose]
      simp only [lineRange?_congr same]
      split
      · simp only [draw, drawLabel_congr same]
        rfl
      · rfl
    | unknownTokens name count => rfl
    | file error => rfl
  rw [fragments, fragments, drawn, coloured]

theorem text_diagnose_congr (same : reporter.files[number]? = other.files[otherNumber]?)
    (coloured : reporter.coloured = other.coloured) (severity : Severity) (failure : Failure) :
    reporter.text (reporter.diagnose severity number failure) =
      other.text (other.diagnose severity otherNumber failure) := by
  rw [text, text, fragments_diagnose_congr same coloured]

end Reporter

end CTokens.Report
