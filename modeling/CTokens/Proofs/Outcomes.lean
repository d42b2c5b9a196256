import CTokens.Proofs.Drawing
import CTokens.Proofs.Printing
import CTokens.Run
import Mathlib.Data.List.Forall2

/-! # How a run ends

A run reads, prints and reports, and stops at the first thing that fails.  So there are three ways
for it to end: the file cannot be read, or the sink does not take all that is printed, or everything
is printed and each unknown token reported.  Each run ends in exactly one of them, whatever its file
gives when it is read (`existsUnique_ending_run`).
-/

namespace CTokens

open Utf8

def Notice.diagnostic? : Notice → Option String
  | .event _ => none
  | .diagnostic text => some text

def RunOutcome.diagnostics (outcome : RunOutcome) : List String :=
  outcome.notices.filterMap Notice.diagnostic?

/-! ## Runs over a text -/

theorem length_unknown_lex (text : String) :
    (lex text).unknown.length = (tokenize text).countP Token.isUnknown := by
  rw [lex, complaints, List.length_map, List.countP_eq_length_filter]

theorem hasUnknown_lex (text : String) :
    (lex text).hasUnknown = false ↔ (tokenize text).countP Token.isUnknown = 0 := by
  simp [Lexed.hasUnknown, lex, complaints, List.countP_eq_zero]

namespace Settings

variable (settings : Settings) (name text : String) {sink : Sink} (reporter : Report.Reporter)

theorem run_ok (bytes : List UInt8) (sink : Sink) :
    settings.run name (.ok bytes) sink reporter =
      settings.runText name (decodeLossy bytes) sink reporter := rfl

/-- What a run does: it prints, and it reports and judges only if nothing went wrong there. -/
theorem runText_eq (sink : Sink) :
    settings.runText name text sink reporter =
      { sink := (settings.format.renderTo (tokenize text) sink).2
        reporter := (reporter.addFile name text).2
        notices :=
          (Log.sourceRead name text :: Log.lexing text (lex text)).map Notice.event ++
            match (settings.format.renderTo (tokenize text) sink).1 with
            | some _ => []
            | none => (lex text).unknown.map fun failure =>
                Notice.diagnostic ((reporter.addFile name text).2.text
                  ((reporter.addFile name text).2.diagnose settings.severity
                    (reporter.addFile name text).1 failure))
        failure :=
          match (settings.format.renderTo (tokenize text) sink).1 with
          | some error => some (.file error)
          | none => settings.verdict name (lex text) } := by
  have tokens : (lex text).tokens = tokenize text := rfl
  cases printed : settings.format.renderTo (tokenize text) sink with
  | mk error after =>
    cases error with
    | some error => simp only [runText, tokens, printed, List.append_nil]
    | none => simp only [runText, tokens, printed]

theorem filterMap_diagnostic?_event (events : List Log.Event) :
    (events.map Notice.event).filterMap Notice.diagnostic? = [] := by
  induction events with
  | nil => rfl
  | cons event events ih => exact ih

theorem verdict_lex :
    settings.verdict name (lex text) =
      if settings.strict = true ∧ 0 < (tokenize text).countP Token.isUnknown then
        some (.unknownTokens name ((tokenize text).countP Token.isUnknown))
      else none := by
  have unknown : (lex text).hasUnknown = true ↔ 0 < (tokenize text).countP Token.isUnknown := by
    rw [← Bool.not_eq_false, hasUnknown_lex, Nat.pos_iff_ne_zero]
  rw [verdict, length_unknown_lex]
  simp only [Bool.and_eq_true, unknown]

/-- A run whose tokens are not all printed fails for that, and reports nothing. -/
theorem runText_of_not_hasRoom
    (full : ¬ sink.HasRoom (encode (settings.format.render (tokenize text))).length) :
    (settings.runText name text sink reporter).diagnostics = [] ∧
      (settings.runText name text sink reporter).failure = some (.file .writeRefused) := by
  have refused : (settings.format.renderTo (tokenize text) sink).1 = some .writeRefused :=
    (Format.error_renderTo ..).trans (if_neg full)
  simp only [runText_eq, refused, RunOutcome.diagnostics, List.append_nil,
    filterMap_diagnostic?_event, and_self]

theorem runText_of_hasRoom
    (room : sink.HasRoom (encode (settings.format.render (tokenize text))).length) :
    (settings.runText name text sink reporter).diagnostics =
        ((tokenize text).filter Token.isUnknown).map (fun token =>
          (reporter.addFile name text).2.text ((reporter.addFile name text).2.diagnose
            settings.severity reporter.files.size token.complaint)) ∧
      (settings.runText name text sink reporter).failure =
        if settings.strict = true ∧ 0 < (tokenize text).countP Token.isUnknown then
          some (.unknownTokens name ((tokenize text).countP Token.isUnknown))
        else none := by
  have done : (settings.format.renderTo (tokenize text) sink).1 = none :=
    (Format.error_renderTo ..).trans (if_pos room)
  simp only [runText_eq, done, verdict_lex, and_true]
  rw [RunOutcome.diagnostics, List.filterMap_append, filterMap_diagnostic?_event,
    List.nil_append, List.filterMap_map, lex, complaints, List.filterMap_map,
    ← List.filterMap_eq_map]
  rfl

/-! ## Runs over bytes -/

variable (path : String) (bytes : List UInt8)

/-- Whatever else a run does, its sink has what is printed, as far as there is room for it. -/
theorem toList_held_run (sink : Sink) :
    (settings.run path (.ok bytes) sink reporter).sink.held.data.toList =
      sink.held.data.toList ++
        sink.taken (encode (settings.format.render (tokenize (decodeLossy bytes)))) := by
  rw [run_ok, runText_eq]
  exact Format.toList_held_renderTo ..

theorem failure_run_of_hasRoom
    (room : sink.HasRoom
      (encode (settings.format.render (tokenize (decodeLossy bytes)))).length) :
    (settings.run path (.ok bytes) sink reporter).failure =
      if settings.strict = true ∧ 0 < (tokenize (decodeLossy bytes)).countP Token.isUnknown then
        some (.unknownTokens path ((tokenize (decodeLossy bytes)).countP Token.isUnknown))
      else none := by
  rw [run_ok, (settings.runText_of_hasRoom path _ reporter room).2]

theorem failure_run_of_not_hasRoom
    (full : ¬ sink.HasRoom
      (encode (settings.format.render (tokenize (decodeLossy bytes)))).length) :
    (settings.run path (.ok bytes) sink reporter).failure = some (.file .writeRefused) := by
  rw [run_ok, (settings.runText_of_not_hasRoom path _ reporter full).2]

end Settings

/-! ## The three endings -/

/-- The content is that of a file that could be read: it holds the text, which has these tokens. -/
structure Opened (content : Except FileError (List UInt8)) (text : String) (lexed : Lexed) :
    Prop where
  decoded : ∃ bytes, content = .ok bytes ∧ text = decodeLossy bytes
  read : lexContent content = .ok lexed
  tokens : lexed.tokens = tokenize text

/-- The text is that of a diagnostic on an unknown token of the source with that number. -/
structure Shows (reporter : Report.Reporter) (severity : Report.Severity) (number : Nat)
    (token : Token) (text : String) : Prop where
  drawn : ∃ fragments,
    reporter.fragments (reporter.diagnose severity number token.complaint) = .ok fragments ∧
      text = String.join fragments
  heading : ∃ rest,
    text = Report.Ink.written reporter.coloured (.switch (.severity severity)) ++
      (severity.word ++ rest)

inductive Ending
  | unread    -- the file cannot be read
  | cutShort  -- the sink does not take all that is printed
  | complete
  deriving DecidableEq, Repr

section

variable (settings : Settings) (path : String) (content : Except FileError (List UInt8))
  (room : Nat) (reporter : Report.Reporter) (outcome : RunOutcome)

/-- The run has done nothing but fail for the error. -/
structure Unread (error : FileError) : Prop where
  read : content = .error error
  failure : outcome.failure = some (.file error)
  sink : outcome.sink = Sink.empty (some room)
  notices : outcome.notices = []
  reporter : outcome.reporter = reporter

/-- The run has printed as much as there is room for, and has stopped there. -/
structure CutShort (text : String) (lexed : Lexed) : Prop where
  opened : Opened content text lexed
  long : room < (encode (settings.format.render lexed.tokens)).length
  held : outcome.sink.held.data.toList =
    (encode (settings.format.render lexed.tokens)).take room
  diagnostics : outcome.diagnostics = []
  failure : outcome.failure = some (.file .writeRefused)
  reporter : outcome.reporter = (reporter.addFile path text).2

/-- The run has printed everything, and has reported each unknown token. -/
structure Complete (text : String) (lexed : Lexed) : Prop where
  opened : Opened content text lexed
  fits : (encode (settings.format.render lexed.tokens)).length ≤ room
  held : outcome.sink.held.data.toList = encode (settings.format.render lexed.tokens)
  diagnostics :
    List.Forall₂ (Shows (reporter.addFile path text).2
        (if settings.strict then .error else .warning) reporter.files.size)
      (lexed.tokens.filter Token.isUnknown) outcome.diagnostics
  failure : outcome.failure =
    if settings.strict = true ∧ 0 < lexed.tokens.countP Token.isUnknown then
      some (.unknownTokens path (lexed.tokens.countP Token.isUnknown))
    else none
  reporter : outcome.reporter = (reporter.addFile path text).2

def Ending.Describes : Ending → Prop
  | .unread => ∃ error, Unread content room reporter outcome error
  | .cutShort => ∃ text lexed, CutShort settings path content room reporter outcome text lexed
  | .complete => ∃ text lexed, Complete settings path content room reporter outcome text lexed

end

variable {settings : Settings} {path : String} {room : Nat} {reporter : Report.Reporter}

/-! ## Each ending comes about -/

theorem opened_ok (bytes : List UInt8) :
    Opened (.ok bytes) (decodeLossy bytes) (lex (decodeLossy bytes)) :=
  ⟨⟨bytes, rfl, rfl⟩, rfl, rfl⟩

theorem shows_diagnose (reporter : Report.Reporter) (severity : Report.Severity) (number : Nat)
    (token : Token) :
    Shows reporter severity number token
      (reporter.text (reporter.diagnose severity number token.complaint)) := by
  obtain ⟨fragments, rest, written, joined⟩ :=
    reporter.exists_fragments_diagnose severity number token.complaint
  have text : reporter.text (reporter.diagnose severity number token.complaint) =
      String.join fragments := by
    rw [Report.Reporter.text]
    simp only [written]
  exact ⟨⟨fragments, written, text⟩, rest, text.trans joined⟩

section Runs

variable (settings path room reporter) {error : FileError} {bytes : List UInt8}

theorem unread_run :
    Unread (.error error) room reporter
      (settings.run path (.error error) (Sink.empty (some room)) reporter) error :=
  ⟨rfl, rfl, rfl, rfl, rfl⟩

theorem held_run (bytes : List UInt8) :
    (settings.run path (.ok bytes) (Sink.empty (some room)) reporter).sink.held.data.toList =
      (encode (settings.format.render (tokenize (decodeLossy bytes)))).take room := by
  rw [settings.toList_held_run, Sink.taken_empty]
  rfl

theorem reporter_run (sink : Sink) :
    (settings.run path (.ok bytes) sink reporter).reporter =
      (reporter.addFile path (decodeLossy bytes)).2 := by
  rw [Settings.run_ok, Settings.runText_eq]

theorem cutShort_run
    (long : room < (encode (settings.format.render (tokenize (decodeLossy bytes)))).length) :
    CutShort settings path (.ok bytes) room reporter
      (settings.run path (.ok bytes) (Sink.empty (some room)) reporter)
      (decodeLossy bytes) (lex (decodeLossy bytes)) := by
  have full : ¬ (Sink.empty (some room)).HasRoom
      (encode (settings.format.render (tokenize (decodeLossy bytes)))).length := by
    rw [Sink.hasRoom_empty]
    exact Nat.not_le_of_lt long
  obtain ⟨diagnostics, failure⟩ := settings.runText_of_not_hasRoom path _ reporter full
  rw [← Settings.run_ok] at diagnostics failure
  exact ⟨opened_ok bytes, long, held_run settings path room reporter bytes, diagnostics, failure,
    reporter_run settings path reporter _⟩

theorem complete_run
    (fits : (encode (settings.format.render (tokenize (decodeLossy bytes)))).length ≤ room) :
    Complete settings path (.ok bytes) room reporter
      (settings.run path (.ok bytes) (Sink.empty (some room)) reporter)
      (decodeLossy bytes) (lex (decodeLossy bytes)) := by
  have held := held_run settings path room reporter bytes
  rw [List.take_of_length_le fits] at held
  obtain ⟨diagnostics, failure⟩ :=
    settings.runText_of_hasRoom path _ reporter (Sink.hasRoom_empty.2 fits)
  rw [← Settings.run_ok] at diagnostics failure
  refine ⟨opened_ok bytes, fits, held, ?_, failure, reporter_run settings path reporter _⟩
  rw [diagnostics, List.forall₂_map_right_iff]
  exact List.forall₂_same.2 fun token _ => shows_diagnose _ _ _ token

theorem exists_describes_run (content : Except FileError (List UInt8)) :
    ∃ ending : Ending, ending.Describes settings path content room reporter
      (settings.run path content (Sink.empty (some room)) reporter) := by
  cases content with
  | error error => exact ⟨.unread, error, unread_run settings path room reporter⟩
  | ok bytes =>
    by_cases fits :
        (encode (settings.format.render (tokenize (decodeLossy bytes)))).length ≤ room
    · exact ⟨.complete, _, _, complete_run settings path room reporter fits⟩
    · exact ⟨.cutShort, _, _,
        cutShort_run settings path room reporter (Nat.lt_of_not_le fits)⟩

end Runs

/-! ## No two come about together -/

theorem Opened.lexed_eq {bytes : List UInt8} {text : String} {lexed : Lexed}
    (opened : Opened (.ok bytes) text lexed) : lexed = lex (decodeLossy bytes) :=
  Except.ok.inj (opened.read.symm.trans (opened_ok bytes).read)

namespace Ending.Describes

variable {content : Except FileError (List UInt8)} {outcome : RunOutcome} {ending other : Ending}

theorem eq_unread {error : FileError}
    (described : ending.Describes settings path (.error error) room reporter outcome) :
    ending = .unread := by
  cases ending with
  | unread => rfl
  | cutShort =>
    obtain ⟨_, _, short⟩ := described
    obtain ⟨_, read, -⟩ := short.opened.decoded
    cases read
  | complete =>
    obtain ⟨_, _, whole⟩ := described
    obtain ⟨_, read, -⟩ := whole.opened.decoded
    cases read

/-- Whether a run comes to its end is told by the length of what it prints. -/
theorem eq_of_ok {bytes : List UInt8}
    (described : ending.Describes settings path (.ok bytes) room reporter outcome) :
    ending =
      if (encode (settings.format.render (tokenize (decodeLossy bytes)))).length ≤ room then
        .complete
      else .cutShort := by
  cases ending with
  | unread =>
    obtain ⟨_, unread⟩ := described
    cases unread.read
  | cutShort =>
    obtain ⟨_, _, short⟩ := described
    have long := short.long
    rw [short.opened.lexed_eq] at long
    exact (if_neg (Nat.not_le_of_lt long)).symm
  | complete =>
    obtain ⟨_, _, whole⟩ := described
    have fits := whole.fits
    rw [whole.opened.lexed_eq] at fits
    exact (if_pos fits).symm

theorem unique (first : ending.Describes settings path content room reporter outcome)
    (second : other.Describes settings path content room reporter outcome) : ending = other := by
  cases content with
  | error error => rw [first.eq_unread, second.eq_unread]
  | ok bytes => rw [first.eq_of_ok, second.eq_of_ok]

end Ending.Describes

/-- A run ends in exactly one way, whatever is read: the file cannot be read, and nothing is
    written, told or remembered; or the sink is full before all tokens are printed, and nothing is
    reported; or all is printed, and one diagnostic written for each unknown token, which a strict
    run fails for. -/
theorem existsUnique_ending_run (settings : Settings) (path : String)
    (content : Except FileError (List UInt8)) (room : Nat) (reporter : Report.Reporter) :
    ∃! ending : Ending, ending.Describes settings path content room reporter
      (settings.run path content (Sink.empty (some room)) reporter) :=
  existsUnique_of_exists_of_unique (exists_describes_run settings path room reporter content)
    fun _ _ => Ending.Describes.unique

/-- So does a run over a file of a tree, by what the tree gives for the path. -/
theorem existsUnique_ending_runFile (settings : Settings) (tree : FileTree) (path : String)
    (room : Nat) (reporter : Report.Reporter) :
    ∃! ending : Ending, ending.Describes settings path (tree.read path) room reporter
      (settings.runFile tree path (Sink.empty (some room)) reporter) :=
  existsUnique_of_exists_of_unique (exists_describes_run settings path room reporter _)
    fun _ _ => Ending.Describes.unique

end CTokens
