import CTokens.Format
import CTokens.Text.Controls

/-! # What the command is asked for

The command takes one input, and options.  Some options are switches; others are parameters,
which take a value.  The arguments ask for a run, or for one of the texts that the command
prints about itself, or they are misused.
-/

namespace CTokens.Command

inductive Colour
  | auto
  | always
  | never
  deriving DecidableEq, Repr

structure Options where
  input : String
  output : Option String
  format : Format
  strict : Bool
  colour : Colour
  verbose : Bool
  deriving DecidableEq, Repr

/-- What takes a value, the input among them. -/
inductive Parameter
  | input
  | output
  | format
  | colour
  deriving DecidableEq, Repr

inductive Switch
  | strict
  | verbose
  | help
  | version
  deriving DecidableEq, Repr

def Parameter.label : Parameter → String
  | .input => "<INPUT>"
  | .output => "--output <OUTPUT>"
  | .format => "--format <FORMAT>"
  | .colour => "--color <COLOR>"

def Switch.label : Switch → String
  | .strict => "--strict"
  | .verbose => "--verbose"
  | .help => "--help"
  | .version => "--version"

inductive Misuse
  | noInput
  | noValue (parameter : Parameter)
  | badValue (value : String) (parameter : Parameter)
  | unexpectedArgument (argument : String)
  | unexpectedValue (value : String) (switch : Switch)
  | repeated (label : String)  -- given more than once
  deriving DecidableEq, Repr

/-- What was given, between quotes and without control sequences. -/
def quoted (given : String) : String :=
  "'" ++ Text.withoutControls given ++ "'"

def Misuse.message : Misuse → String
  | .noInput => "the following required arguments were not provided:"
  | .noValue parameter =>
    "a value is required for '" ++ parameter.label ++ "' but none was supplied"
  | .badValue value parameter =>
    "invalid value " ++ quoted value ++ " for '" ++ parameter.label ++ "'"
  | .unexpectedArgument argument => "unexpected argument " ++ quoted argument ++ " found"
  | .unexpectedValue value switch =>
    "unexpected value " ++ quoted value ++ " for '" ++ switch.label
      ++ "' found; no more were expected"
  | .repeated label => "the argument '" ++ label ++ "' cannot be used multiple times"

inductive Invocation
  | run (options : Options)
  | summary  -- the short help
  | help  -- the long help
  | version
  | misuse (misuse : Misuse)
  deriving DecidableEq, Repr

end CTokens.Command
