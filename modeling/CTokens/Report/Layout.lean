import CTokens.Report.Ink
import CTokens.Text.Columns

/-! # How a diagnostic is drawn

The first line has the severity and the title, and an empty line closes the diagnostic.
Notes stand between them as they are, behind an equals sign.  A label shows lines of its
source in a frame, under the name of the source and the place:

* if it stops on the line that it starts on, the line, with carets below the part that is
  covered and the message behind the carets;
* if it stops on the next line, as it does when it covers a newline, both lines, joined by
  a bracket, with the message behind the lower end of the bracket.

A source line is shown without what `Text.trimLine` takes from its end, and with blanks in
place of tabs.
-/

namespace CTokens.Report

inductive LookupError
  | noSuchFile
  | noSuchLine
  deriving DecidableEq, Repr

def blanks (n : Nat) : String :=
  String.ofList (List.replicate n ' ')

/-- The number of a line that is counted from 0, as it is shown. -/
def lineNumber (index : Nat) : String :=
  (index + 1).repr

def numbered (width : Nat) (number : String) : List Ink :=
  Ink.styled .frame (blanks (width - number.length) ++ number) ++ [.text " "]
    ++ Ink.styled .frame "│"

/-- The bar of the frame, with blanks in place of a line number. -/
def unnumbered (width : Nat) : List Ink :=
  [.text (blanks (width + 1))] ++ Ink.styled .frame "│"

/-- The line above the frame: the name of the source and the place, which is always in
    column 1, as labels start where a line starts. -/
def locus (width : Nat) (name number : String) : List Ink :=
  [.text (blanks (width + 1))] ++ Ink.styled .frame "┌─"
    ++ [.text (" " ++ name ++ ":" ++ number ++ ":1\n")]

def shownCells (line : Line) : List Text.Cell :=
  Text.cells (Text.trimLine line.text)

def shownText (line : Line) : String :=
  String.ofList ((shownCells line).flatMap Text.Cell.shown)

/-- A text in a style; nothing at all if it is empty. -/
def styledUnlessEmpty (style : Style) (text : String) : List Ink :=
  if text.isEmpty then [] else Ink.styled style text

/-- The carets below a line of which the first `covered` bytes are covered: one for each
    column of the characters covered, and one more if the label goes on behind what is
    shown.  A label covers at least one byte here. -/
def carets (line : Line) (covered : Nat) : String :=
  let covered := max covered 1
  let below := (shownCells line).filter (·.offset < covered)
  let behind := if Text.byteLength (Text.trimLine line.text) < covered then 1 else 0
  let columns := below.foldr (fun cell n => cell.width + n) behind
  String.ofList (List.replicate columns '^')

/-- A label that stops on the line it starts on. -/
def oneLine (severity : Severity) (name : String) (index : Nat) (line : Line) (label : Label) :
    List Ink :=
  let number := lineNumber index
  let width := number.length
  locus width name number
    ++ unnumbered width ++ [.text "\n"]
    ++ numbered width number ++ [.text " "]
    ++ styledUnlessEmpty (.mark severity) (shownText line) ++ [.text "\n"]
    ++ unnumbered width ++ [.text " "]
    ++ Ink.styled (.mark severity) (carets line (label.stop - line.start))
    ++ (if label.message.isEmpty then []
        else [.text " "] ++ Ink.styled (.mark severity) label.message)
    ++ [.text "\n"]

/-- A label that stops where a later line starts. -/
def twoLines (severity : Severity) (name : String) (index : Nat) (line : Line)
    (lastIndex : Nat) (lastLine : Line) (label : Label) : List Ink :=
  let number := lineNumber index
  let lastNumber := lineNumber lastIndex
  let width := lastNumber.length
  let message := if label.message.isEmpty then "" else " " ++ label.message
  locus width name number
    ++ unnumbered width ++ [.text "  \n"]
    ++ numbered width number ++ [.text " "] ++ Ink.styled (.mark severity) "╭" ++ [.text " "]
    ++ styledUnlessEmpty (.mark severity) (shownText line) ++ [.text "\n"]
    ++ numbered width lastNumber ++ [.text " "] ++ Ink.styled (.mark severity) "│"
    ++ [.text (" " ++ shownText lastLine ++ "\n")]
    ++ unnumbered width ++ [.text " "] ++ Ink.styled (.mark severity) "╰"
    ++ Ink.styled (.mark severity) ("^" ++ message) ++ [.text "\n"]

def Reporter.drawLabel (reporter : Reporter) (severity : Severity) (label : Label) :
    Except LookupError (List Ink) :=
  match reporter.files[label.file]? with
  | none => .error .noSuchFile
  | some file =>
    let index := file.lineAt label.start
    let lastIndex := file.lineAt label.stop
    match file.lines[index]?, file.lines[lastIndex]? with
    | some line, some lastLine =>
      if index = lastIndex then .ok (oneLine severity file.name index line label)
      else .ok (twoLines severity file.name index line lastIndex lastLine label)
    | _, _ => .error .noSuchLine

/-- A note: its rows one below the other, the first behind an equals sign. -/
def drawNote (note : String) : List Ink :=
  match Text.rows note with
  | [] => []
  | row :: rows =>
    [.text " "] ++ Ink.styled .frame "=" ++ [.text (" " ++ row ++ "\n")]
      ++ rows.map fun row => .text ("   " ++ row ++ "\n")

def drawHeader (diagnostic : Diagnostic) : List Ink :=
  [.switch (.severity diagnostic.severity), .text diagnostic.severity.word,
   .switch .title, .text (": " ++ diagnostic.title), .reset, .text "\n"]

def Reporter.draw (reporter : Reporter) (diagnostic : Diagnostic) :
    Except LookupError (List Ink) :=
  let frame (labelled : List Ink) :=
    drawHeader diagnostic ++ labelled ++ diagnostic.notes.flatMap drawNote ++ [.text "\n"]
  match diagnostic.label with
  | none => .ok (frame [])
  | some label => (reporter.drawLabel diagnostic.severity label).map frame

end CTokens.Report
