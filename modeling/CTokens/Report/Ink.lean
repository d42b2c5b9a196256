import CTokens.Report.Diagnostic

/-! # Ink

What a diagnostic is drawn with: text, and changes of style between texts.  Without colour
the changes of style are left out; with colour each is a control sequence of the terminal.
Every sequence first goes back to the plain style.
-/

namespace CTokens.Report

inductive Style
  | severity (severity : Severity)  -- the word for it
  | title  -- what is reported
  | frame
  | mark (severity : Severity)  -- what a label covers, and its message
  deriving DecidableEq, Repr

/-- One stroke: a change of style, or text in the style that holds. -/
inductive Ink
  | switch (style : Style)
  | reset
  | text (content : String)
  deriving DecidableEq, Repr

def Ink.styled (style : Style) (text : String) : List Ink :=
  [.switch style, .text text, .reset]

def resetSequence : String := "\x1b[0m"

/-- The control sequence that changes to a style: the frame is blue, an error red and a
    warning yellow, and both bright and bold in the first line. -/
def Style.sequence : Style → String
  | .severity .error => resetSequence ++ "\x1b[1m\x1b[38;5;9m"
  | .severity .warning => resetSequence ++ "\x1b[1m\x1b[38;5;11m"
  | .title => resetSequence ++ "\x1b[1m"
  | .frame => resetSequence ++ "\x1b[34m"
  | .mark .error => resetSequence ++ "\x1b[31m"
  | .mark .warning => resetSequence ++ "\x1b[33m"

def Ink.written (coloured : Bool) : Ink → String
  | .switch style => if coloured then style.sequence else ""
  | .reset => if coloured then resetSequence else ""
  | .text content => content

end CTokens.Report
