import CTokens.Failure
import CTokens.Report.SourceFile

/-! # Diagnostics

A diagnostic says how bad something is and what it is, points to a stretch of a source
with a label, or says the rest in notes.  A `Reporter` has the sources that labels point
into; `diagnose` makes the diagnostic of a failure.

Tokens have no columns, so the label of a failure on a line covers the whole line, its
newline included.  Where the reporter has no such line, a note stands in for the label.
-/

namespace CTokens.Report

inductive Severity
  | error
  | warning
  deriving DecidableEq, Repr

def Severity.word : Severity → String
  | .error => "error"
  | .warning => "warning"

/-- Points to the bytes of a source from `start` up to `stop`.  Labels start where a line
    starts. -/
structure Label where
  file : Nat  -- its number in the reporter
  start : Nat
  stop : Nat
  message : String
  deriving DecidableEq, Repr

structure Diagnostic where
  severity : Severity
  title : String
  label : Option Label
  notes : List String
  deriving DecidableEq, Repr

structure Reporter where
  coloured : Bool
  files : Array SourceFile

namespace Reporter

def new (coloured : Bool) : Reporter :=
  { coloured := coloured, files := #[] }

/-- Adds a source, also one with the name of another, and gives its number. -/
def addFile (reporter : Reporter) (name text : String) : Nat × Reporter :=
  (reporter.files.size,
   { reporter with files := reporter.files.push (SourceFile.ofText name text) })

def lineRange? (reporter : Reporter) (file line : Nat) : Option (Nat × Nat) :=
  reporter.files[file]?.bind (·.lineRange? line)

/-- The diagnostic of a failure in the source with a number.  Lines of failures are
    counted from 1, and line 0 is taken for line 1. -/
def diagnose (reporter : Reporter) (severity : Severity) (file : Nat) (failure : Failure) :
    Diagnostic :=
  match failure with
  | .onLine message line =>
    match reporter.lineRange? file (line.toNat - 1) with
    | some (start, stop) =>
      { severity := severity
        title := "Lexer error"
        label := some { file := file, start := start, stop := stop, message := message }
        notes := [] }
    | none =>
      { severity := severity
        title := "Lexer error"
        label := none
        notes := ["line " ++ line.toNat.repr ++ ": " ++ message] }
  | .unknownTokens _ _ =>
    { severity := severity, title := failure.message, label := none, notes := [] }
  | .file _ =>
    { severity := severity, title := failure.fullMessage, label := none, notes := [] }

end Reporter

end CTokens.Report
