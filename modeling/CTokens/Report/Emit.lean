import CTokens.Report.Layout
import CTokens.Sink

/-! # Written diagnostics

A diagnostic is written to a sink, where writing can fail, or as a text for the terminal,
where a failure passes unnoticed.  Both write the same.
-/

namespace CTokens.Report

inductive EmitError
  | lookup (error : LookupError)
  | write (error : FileError)
  deriving DecidableEq, Repr

def EmitError.message : EmitError → String
  | .lookup .noSuchFile => "file missing"
  | .lookup .noSuchLine => "line missing"
  | .write error => error.message

namespace Reporter

def fragments (reporter : Reporter) (diagnostic : Diagnostic) :
    Except LookupError (List String) :=
  (reporter.draw diagnostic).map fun inks => inks.map (Ink.written reporter.coloured)

def emitTo (reporter : Reporter) (diagnostic : Diagnostic) (sink : Sink) :
    Option EmitError × Sink :=
  match reporter.fragments diagnostic with
  | .error error => (some (.lookup error), sink)
  | .ok fragments =>
    let (error, sink) := sink.writeAll fragments
    (error.map .write, sink)

/-- What is written for a diagnostic where no write fails. -/
def text (reporter : Reporter) (diagnostic : Diagnostic) : String :=
  match reporter.fragments diagnostic with
  | .error _ => ""
  | .ok fragments => String.join fragments

end Reporter

end CTokens.Report
