import CTokens.FileTree
import CTokens.Format
import CTokens.Log.Told
import CTokens.Report.Emit
import CTokens.Text.Utf8

/-! # A run over one file

A run decodes the content of a file, reads its tokens, prints them to a sink and then
reports the unknown ones.  It stops at the first thing that fails: if the file cannot be
read nothing is printed or reported, and if the sink fails nothing is reported.

With `strict` the unknown tokens are reported as errors, and the run fails for them in
the end; without it they are reported as warnings, and do not fail the run.
-/

namespace CTokens

structure Settings where
  format : Format := .plain
  strict : Bool := false
  deriving DecidableEq, Repr

inductive Notice
  | event (event : Log.Event)
  | diagnostic (text : String)
  deriving DecidableEq, Repr

structure RunOutcome where
  sink : Sink
  reporter : Report.Reporter
  notices : List Notice
  failure : Option Failure

def sourceText (content : Except FileError (List UInt8)) : Except Failure String :=
  match content with
  | .error error => .error (.file error)
  | .ok bytes => .ok (Utf8.decodeLossy bytes)

def lexContent (content : Except FileError (List UInt8)) : Except Failure Lexed :=
  (sourceText content).map lex

namespace Settings

def severity (settings : Settings) : Report.Severity :=
  if settings.strict then .error else .warning

/-- The failure of a run whose tokens have all been printed. -/
def verdict (settings : Settings) (name : String) (lexed : Lexed) : Option Failure :=
  if settings.strict && lexed.hasUnknown then
    some (.unknownTokens name lexed.unknown.length)
  else none

def runText (settings : Settings) (name text : String) (sink : Sink)
    (reporter : Report.Reporter) : RunOutcome :=
  let (number, reporter) := reporter.addFile name text
  let lexed := lex text
  let events := (Log.sourceRead name text :: Log.lexing text lexed).map Notice.event
  match settings.format.renderTo lexed.tokens sink with
  | (some error, sink) =>
    -- Nothing is reported of tokens that could not all be printed.
    { sink := sink, reporter := reporter, notices := events, failure := some (.file error) }
  | (none, sink) =>
    let diagnostics := lexed.unknown.map fun failure =>
      Notice.diagnostic (reporter.text (reporter.diagnose settings.severity number failure))
    { sink := sink
      reporter := reporter
      notices := events ++ diagnostics
      failure := settings.verdict name lexed }

/-- A run over the file `name`, given its content or why it cannot be read. -/
def run (settings : Settings) (name : String) (content : Except FileError (List UInt8))
    (sink : Sink) (reporter : Report.Reporter) : RunOutcome :=
  match sourceText content with
  | .error failure =>
    { sink := sink, reporter := reporter, notices := [], failure := some failure }
  | .ok text => settings.runText name text sink reporter

def runFile (settings : Settings) (tree : FileTree) (path : String) (sink : Sink)
    (reporter : Report.Reporter) : RunOutcome :=
  settings.run path (tree.read path) sink reporter

end Settings

end CTokens
