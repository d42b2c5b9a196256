import CTokens.Proofs.Outcomes

/-! # Runs one after the other

Runs that share a reporter leave their sources in it, those that fail when they print as well as
those that succeed.  A later run does not notice.  Its own source comes last in the reporter, and
what it reports is drawn from that source alone, so that it shows what it would show with a reporter
that knows nothing yet (`map_shown_runAll`).  What the files give may change from run to run.
-/

namespace CTokens

/-- A run that is asked for: the file to read, what it gives when it is read, and where its tokens
    go. -/
structure Call where
  path : String
  content : Except FileError (List UInt8)
  sink : Sink

def Call.ofFile (tree : FileTree) (path : String) (sink : Sink) : Call :=
  { path := path, content := tree.read path, sink := sink }

/-- What can be seen of a run: what it has printed, what it has told, and how it has ended. -/
structure Shown where
  sink : Sink
  notices : List Notice
  failure : Option Failure

def RunOutcome.shown (outcome : RunOutcome) : Shown :=
  { sink := outcome.sink, notices := outcome.notices, failure := outcome.failure }

namespace Settings

def runCall (settings : Settings) (call : Call) (reporter : Report.Reporter) : RunOutcome :=
  settings.run call.path call.content call.sink reporter

/-- Runs one after the other, each with the reporter that the one before it leaves. -/
def runAll (settings : Settings) : List Call → Report.Reporter → List RunOutcome
  | [], _ => []
  | call :: calls, reporter =>
    let outcome := settings.runCall call reporter
    outcome :: settings.runAll calls outcome.reporter

variable (settings : Settings) {reporter other : Report.Reporter}

/-! ## One run -/

/-- The diagnostics of a run are on the source that it has just added, wherever this is. -/
theorem text_diagnose_addFile (same : reporter.coloured = other.coloured) (name text : String)
    (severity : Report.Severity) (failure : Failure) :
    (reporter.addFile name text).2.text
        ((reporter.addFile name text).2.diagnose severity (reporter.addFile name text).1 failure) =
      (other.addFile name text).2.text
        ((other.addFile name text).2.diagnose severity (other.addFile name text).1 failure) := by
  apply Report.Reporter.text_diagnose_congr
  · rw [Report.Reporter.getElem?_addFile, Report.Reporter.getElem?_addFile]
  · exact same

theorem shown_runText (same : reporter.coloured = other.coloured) (name text : String)
    (sink : Sink) :
    (settings.runText name text sink reporter).shown =
      (settings.runText name text sink other).shown := by
  simp only [RunOutcome.shown, runText_eq, text_diagnose_addFile same]

/-- Of a reporter, a run shows no more than whether it is coloured. -/
theorem shown_runCall (same : reporter.coloured = other.coloured) (call : Call) :
    (settings.runCall call reporter).shown = (settings.runCall call other).shown := by
  obtain ⟨path, content, sink⟩ := call
  cases content with
  | error error => rfl
  | ok bytes => exact settings.shown_runText same ..

theorem coloured_runCall (call : Call) (reporter : Report.Reporter) :
    (settings.runCall call reporter).reporter.coloured = reporter.coloured := by
  obtain ⟨path, content, sink⟩ := call
  cases content with
  | error error => rfl
  | ok bytes =>
    rw [runCall, reporter_run]
    rfl

/-! ## Many runs -/

theorem map_shown_runAll_of_coloured (same : reporter.coloured = other.coloured)
    (calls : List Call) :
    (settings.runAll calls reporter).map RunOutcome.shown =
      calls.map fun call => (settings.runCall call other).shown := by
  induction calls generalizing reporter with
  | nil => rfl
  | cons call calls ih =>
    have kept := settings.coloured_runCall call reporter
    rw [runAll, List.map_cons, List.map_cons, ih (kept.trans same), settings.shown_runCall same]

/-- Whatever has been run before, and whatever came of it, each run shows what it would show on its
    own, with a new reporter that is coloured the same. -/
theorem map_shown_runAll (settings : Settings) (reporter : Report.Reporter) (calls : List Call) :
    (settings.runAll calls reporter).map RunOutcome.shown =
      calls.map fun call =>
        (settings.run call.path call.content call.sink (.new reporter.coloured)).shown := by
  have same : reporter.coloured = (Report.Reporter.new reporter.coloured).coloured := rfl
  exact settings.map_shown_runAll_of_coloured same calls

/-- So it is of runs over the files of a tree. -/
theorem map_shown_runAll_ofFile (settings : Settings) (tree : FileTree)
    (reporter : Report.Reporter) (files : List (String × Sink)) :
    (settings.runAll (files.map fun (path, sink) => .ofFile tree path sink) reporter).map
        RunOutcome.shown =
      files.map fun (path, sink) =>
        (settings.runFile tree path sink (.new reporter.coloured)).shown := by
  have same : reporter.coloured = (Report.Reporter.new reporter.coloured).coloured := rfl
  rw [settings.map_shown_runAll_of_coloured same, List.map_map]
  rfl

end Settings

end CTokens
