import CTokens.Proofs.Outcomes
import CTokens.Proofs.Runs
import Mathlib.Data.List.TakeDrop
import Mathlib.Tactic.Choose

/-! # Strict runs

A strict run takes unknown tokens for errors, and any other run takes them for warnings.  Without
colour the severity of a diagnostic shows in its first word and nowhere else
(`text_diagnose_uncoloured`).  So of two runs over the same file, one of them strict, both print the
same, and both fail alike where they read or print.  They report the same but for that word, and in
the end only the strict one fails for what it has reported (`apart_run`).
-/

namespace CTokens

open Utf8

namespace Report

/-! ## Drawing without colour -/

theorem map_written_styled (style : Style) (text : String) :
    (Ink.styled style text).map (Ink.written false) = ["", text, ""] := rfl

theorem map_written_styledUnlessEmpty (style : Style) (text : String) :
    (styledUnlessEmpty style text).map (Ink.written false) =
      if text.isEmpty then [] else ["", text, ""] := by
  rw [styledUnlessEmpty]
  split <;> rfl

theorem map_written_oneLine (severity other : Severity) (name : String) (index : Nat) (line : Line)
    (label : Label) :
    (oneLine severity name index line label).map (Ink.written false) =
      (oneLine other name index line label).map (Ink.written false) := by
  simp only [oneLine, List.map_append, map_written_styled, map_written_styledUnlessEmpty,
    apply_ite (List.map (Ink.written false))]

theorem map_written_twoLines (severity other : Severity) (name : String) (index : Nat) (line : Line)
    (lastIndex : Nat) (lastLine : Line) (label : Label) :
    (twoLines severity name index line lastIndex lastLine label).map (Ink.written false) =
      (twoLines other name index line lastIndex lastLine label).map (Ink.written false) := by
  unfold twoLines
  simp only [List.map_append, map_written_styled, map_written_styledUnlessEmpty]

namespace Reporter

variable {reporter : Reporter}

theorem exists_drawLabel_uncoloured {label : Label} {file : SourceFile}
    (known : reporter.files[label.file]? = some file) (lines : 0 < file.lines.size) :
    ∃ texts, ∀ severity, ∃ inks, reporter.drawLabel severity label = .ok inks ∧
      inks.map (Ink.written false) = texts := by
  have first := Array.getElem?_eq_getElem (file.lineAt_lt lines label.start)
  have last := Array.getElem?_eq_getElem (file.lineAt_lt lines label.stop)
  simp only [drawLabel, known, first, last]
  split
  · exact ⟨_, fun severity => ⟨_, rfl, map_written_oneLine severity .error ..⟩⟩
  · exact ⟨_, fun severity => ⟨_, rfl, map_written_twoLines severity .error ..⟩⟩

/-- Of the diagnostic of a failure, the severity decides nothing but the severity. -/
theorem exists_diagnose (reporter : Reporter) (number : Nat) (failure : Failure) :
    ∃ title label notes, ∀ severity,
      reporter.diagnose severity number failure = ⟨severity, title, label, notes⟩ := by
  cases failure with
  | onLine message line =>
    simp only [diagnose]
    split <;> exact ⟨_, _, _, fun _ => rfl⟩
  | unknownTokens name count => exact ⟨_, _, _, fun _ => rfl⟩
  | file error => exact ⟨_, _, _, fun _ => rfl⟩

/-- Without colour the diagnostic of a failure is the word for its severity, and then the same text
    for each severity. -/
theorem text_diagnose_uncoloured (plain : reporter.coloured = false) (number : Nat)
    (failure : Failure) :
    ∃ rest, ∀ severity,
      reporter.text (reporter.diagnose severity number failure) = severity.word ++ rest := by
  obtain ⟨title, label, notes, equal⟩ := reporter.exists_diagnose number failure
  let closing := notes.flatMap drawNote ++ [Ink.text "\n"]
  -- Nothing behind the header depends on the severity: neither a label nor the notes.
  have drawn : ∃ texts, ∀ severity, ∃ inks,
      reporter.draw ⟨severity, title, label, notes⟩ =
        .ok (drawHeader ⟨severity, title, label, notes⟩ ++ inks) ∧
      inks.map (Ink.written false) = texts := by
    cases label with
    | none =>
      refine ⟨_, fun severity => ⟨closing, ?_, rfl⟩⟩
      simp only [draw, List.append_assoc, List.nil_append, closing]
    | some label =>
      obtain ⟨file, known, lines⟩ :=
        exists_lines_of_label (congrArg Diagnostic.label (equal .error))
      obtain ⟨texts, labelled⟩ := exists_drawLabel_uncoloured known lines
      refine ⟨texts ++ closing.map (Ink.written false), fun severity => ?_⟩
      obtain ⟨inks, drawn, same⟩ := labelled severity
      refine ⟨inks ++ closing, ?_, ?_⟩
      · simp only [draw, drawn, Except.map, List.append_assoc, closing]
      · rw [List.map_append, same]
  obtain ⟨texts, drawn⟩ := drawn
  refine ⟨String.join ("" :: (": " ++ title) :: "" :: "\n" :: texts), fun severity => ?_⟩
  obtain ⟨inks, drawn, same⟩ := drawn severity
  rw [equal, text, fragments, drawn, plain]
  change String.join ((drawHeader _ ++ inks).map (Ink.written false)) = _
  rw [List.map_append, same]
  change String.join ("" :: severity.word :: "" :: (": " ++ title) :: "" :: "\n" :: texts) = _
  rw [String.join_cons, String.join_cons, String.empty_append]

end Reporter

end Report

/-! ## Two runs -/

theorem Sink.taken_eq_self_iff (sink : Sink) (bytes : List UInt8) :
    sink.taken bytes = bytes ↔ sink.HasRoom bytes.length := by
  refine ⟨fun whole room limited => ?_, taken_of_hasRoom⟩
  rw [Option.mem_def] at limited
  simp only [taken, limited] at whole
  exact (List.take_eq_self_iff _).1 whole

/-- Two runs, the second of them strict, have done the same.  All that they have told apart is that
    a diagnostic of the one is a warning, and the same diagnostic of the other an error. -/
structure ApartInSeverity (lenient strict : RunOutcome) : Prop where
  sink : strict.sink = lenient.sink
  reporter : strict.reporter = lenient.reporter
  notices : ∃ (events : List Log.Event) (rests : List String),
    lenient.notices = events.map .event ++ rests.map (fun rest => .diagnostic ("warning" ++ rest)) ∧
    strict.notices = events.map .event ++ rests.map (fun rest => .diagnostic ("error" ++ rest))
  fileFailure : ∀ error, strict.failure = some (.file error) ↔ lenient.failure = some (.file error)

/-- A run over the content that began with that sink has printed all tokens, and there is an unknown
    one among them. -/
structure PrintedUnknown (format : Format) (content : Except FileError (List UInt8)) (sink : Sink)
    (outcome : RunOutcome) (text : String) (lexed : Lexed) : Prop where
  opened : Opened content text lexed
  printed : outcome.sink.held.data.toList =
    sink.held.data.toList ++ encode (format.render lexed.tokens)
  unknown : ∃ token ∈ lexed.tokens, token.isUnknown = true

/-- Two runs over the content, the second of them strict, have ended alike, unless all has been
    printed and some token is unknown.  Then the strict run fails for that, and the other does not
    fail. -/
def ApartInVerdict (format : Format) (path : String) (content : Except FileError (List UInt8))
    (sink : Sink) (lenient strict : RunOutcome) : Prop :=
  strict.failure = lenient.failure ∧
      (¬ ∃ text lexed, PrintedUnknown format content sink lenient text lexed) ∨
    ∃ text lexed, PrintedUnknown format content sink lenient text lexed ∧
      lenient.failure = none ∧
      strict.failure = some (.unknownTokens path (lexed.tokens.countP Token.isUnknown))

namespace Settings

section

variable (format : Format) (name text : String) (sink : Sink) {reporter : Report.Reporter}

theorem verdict_ne_file (settings : Settings) (name : String) (lexed : Lexed) (error : FileError) :
    settings.verdict name lexed ≠ some (.file error) := by
  intro judged
  rw [verdict] at judged
  split at judged <;> cases judged

theorem apart_runText (plain : reporter.coloured = false) :
    ApartInSeverity
      (runText { format := format, strict := false } name text sink reporter)
      (runText { format := format, strict := true } name text sink reporter) := by
  rw [runText_eq, runText_eq]
  -- What follows the words is the same text for both, whatever the failure is.
  have known : (reporter.addFile name text).2.coloured = false := plain
  choose rest begins using fun failure =>
    Report.Reporter.text_diagnose_uncoloured known (reporter.addFile name text).1 failure
  refine ⟨rfl, rfl, ⟨Log.sourceRead name text :: Log.lexing text (lex text), ?_⟩, ?_⟩
  · cases (format.renderTo (tokenize text) sink).1 with
    | some error => exact ⟨[], rfl, rfl⟩
    | none =>
      refine ⟨(lex text).unknown.map rest, ?_, ?_⟩
      all_goals
        simp only [begins, List.map_map]
        rfl
  · intro error
    cases (format.renderTo (tokenize text) sink).1 with
    | some other => rfl
    | none => simp only [verdict_ne_file]

end

section

variable {format : Format} {path : String} {sink : Sink} {reporter : Report.Reporter}
  {bytes : List UInt8}

/-- A run over a file that can be read comes to its unknown tokens if there are any, and if there
    is room for all that is printed. -/
theorem printedUnknown_iff (strict : Bool) (text : String) (lexed : Lexed) :
    PrintedUnknown format (.ok bytes) sink
        (run { format := format, strict := strict } path (.ok bytes) sink reporter) text lexed ↔
      text = decodeLossy bytes ∧ lexed = lex text ∧
        sink.HasRoom (encode (format.render (tokenize text))).length ∧
        0 < (tokenize text).countP Token.isUnknown := by
  have held := toList_held_run { format := format, strict := strict } reporter path bytes sink
  constructor
  · intro printed
    obtain ⟨_, ⟨⟩, rfl⟩ := printed.opened.decoded
    obtain rfl := printed.opened.lexed_eq
    -- All of it has been taken, so there was room for all of it.
    have whole := held.symm.trans printed.printed
    exact ⟨rfl, rfl, (Sink.taken_eq_self_iff ..).1 (List.append_cancel_left whole),
      List.countP_pos_iff.2 printed.unknown⟩
  · rintro ⟨rfl, rfl, room, unknown⟩
    refine ⟨opened_ok bytes, ?_, List.countP_pos_iff.1 unknown⟩
    rw [held, Sink.taken_of_hasRoom room]
    rfl

end

section

variable (format : Format) (path : String) (content : Except FileError (List UInt8)) (sink : Sink)
  {reporter : Report.Reporter}

theorem apartInSeverity_run (plain : reporter.coloured = false) :
    ApartInSeverity (run { format := format, strict := false } path content sink reporter)
      (run { format := format, strict := true } path content sink reporter) := by
  cases content with
  | error error => exact ⟨rfl, rfl, ⟨[], [], rfl, rfl⟩, fun _ => Iff.rfl⟩
  | ok bytes => exact apart_runText format path _ sink plain

theorem apartInVerdict_run (reporter : Report.Reporter) :
    ApartInVerdict format path content sink
      (run { format := format, strict := false } path content sink reporter)
      (run { format := format, strict := true } path content sink reporter) := by
  cases content with
  | error error =>
    refine .inl ⟨rfl, ?_⟩
    rintro ⟨_, _, printed⟩
    obtain ⟨_, ⟨⟩, -⟩ := printed.opened.decoded
  | ok bytes =>
    simp only [ApartInVerdict, printedUnknown_iff]
    by_cases room : sink.HasRoom (encode (format.render (tokenize (decodeLossy bytes)))).length
    · have judged := fun strict =>
        failure_run_of_hasRoom { format := format, strict := strict } reporter path bytes room
      simp only [judged]
      by_cases unknown : 0 < (tokenize (decodeLossy bytes)).countP Token.isUnknown
      · refine .inr ⟨_, _, ⟨rfl, rfl, room, unknown⟩, if_neg (by simp), ?_⟩
        exact if_pos ⟨trivial, unknown⟩
      · refine .inl ⟨by simp [unknown], ?_⟩
        rintro ⟨_, _, rfl, rfl, -, present⟩
        exact unknown present
    · -- Both fail before any token is judged.
      have refused := fun strict =>
        failure_run_of_not_hasRoom { format := format, strict := strict } reporter path bytes room
      simp only [refused, true_and]
      refine .inl ?_
      rintro ⟨_, _, rfl, rfl, fits, -⟩
      exact room fits

end

/-- With a reporter that does not colour, `strict` changes two things of a run: the word that each
    diagnostic begins with, and how the run ends where all has been printed and some token is
    unknown.  There the strict run fails for that, and the other does not fail. -/
theorem apart_run (format : Format) (path : String) (content : Except FileError (List UInt8))
    (sink : Sink) (reporter : Report.Reporter) (plain : reporter.coloured = false) :
    let lenient := run { format := format, strict := false } path content sink reporter
    let strict := run { format := format, strict := true } path content sink reporter
    ApartInSeverity lenient strict ∧ ApartInVerdict format path content sink lenient strict :=
  ⟨apartInSeverity_run format path content sink plain,
    apartInVerdict_run format path content sink reporter⟩

/-- An unknown token behind an identifier, with room for all that is printed and not a byte more. -/
theorem apart_run_over_an_unknown_token :
    let tree : FileTree := { root := .directory [("a.c", .file [0x61, 0x40])], working := [] }
    let sink := Sink.empty (some 36)
    let reporter := Report.Reporter.new false
    let lenient := runFile { format := .plain, strict := false } tree "a.c" sink reporter
    let strict := runFile { format := .plain, strict := true } tree "a.c" sink reporter
    reporter.coloured = false ∧ ApartInSeverity lenient strict ∧ lenient.failure = none ∧
      strict.failure = some (.unknownTokens "a.c" 1) := by
  intro tree sink reporter lenient strict
  have read : tree.read "a.c" = .ok (encode "a@") := by rfl
  have steps : (Cursor.ofText "a@").Steps
      [{ start := 0, stop := 1, piece := .lexeme { kind := .identifier, text := "a", line := 1 } },
       { start := 1, stop := 2, piece := .lexeme { kind := .unknown, text := "@", line := 1 } }]
      ((Cursor.ofText "a@").skip 2) := .step rfl (.step rfl .refl)
  have tokens : tokenize "a@" =
      [{ kind := .identifier, text := "a", line := 1 },
       { kind := .unknown, text := "@", line := 1 }, Token.endOfFile 1] :=
    (tokenize_of_steps steps rfl).trans rfl
  obtain ⟨apart, ends⟩ := apart_run .plain "a.c" (tree.read "a.c") sink reporter rfl
  refine ⟨rfl, apart, ?_⟩
  rw [read] at ends
  rcases ends with ⟨-, clean⟩ | ⟨text, lexed, printed, passes, fails⟩
  · refine absurd ⟨_, _, (printedUnknown_iff false _ _).2 ⟨rfl, rfl, ?_, ?_⟩⟩ clean
    · rw [decodeLossy_encode, tokens]
      decide
    · rw [decodeLossy_encode, tokens]
      decide
  · obtain ⟨rfl, rfl, -, -⟩ := (printedUnknown_iff false _ _).1 printed
    refine ⟨passes, fails.trans ?_⟩
    rw [lex, decodeLossy_encode, tokens]
    rfl

/-- So `strict` does with runs over a file of a tree. -/
theorem apart_runFile (format : Format) (tree : FileTree) (path : String) (sink : Sink)
    (reporter : Report.Reporter) (plain : reporter.coloured = false) :
    let lenient := runFile { format := format, strict := false } tree path sink reporter
    let strict := runFile { format := format, strict := true } tree path sink reporter
    ApartInSeverity lenient strict ∧
      ApartInVerdict format path (tree.read path) sink lenient strict :=
  ⟨apartInSeverity_run format path (tree.read path) sink plain,
    apartInVerdict_run format path (tree.read path) sink reporter⟩

end Settings

end CTokens
