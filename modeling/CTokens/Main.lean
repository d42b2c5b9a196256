import CTokens.Command.Execute
import Std.Time

/-! # The program

Asks the system for what the command needs, and gives it what the command has done.  What
is done is decided elsewhere: `Invocation.parse` reads the arguments, and `Options.perform`
gives the tokens and messages for a content.
-/

namespace CTokens.Command

/-- The number of a system error, which some calls give with its sign turned. -/
def systemNumber (code : UInt32) : Nat :=
  min code.toNat (0 - code).toNat

def fileError (error : IO.Error) : FileError :=
  match error with
  | .noFileOrDirectory _ _ _ => .notFound
  | .inappropriateType _ code _ => if systemNumber code = 20 then .notDirectory else .isDirectory
  | .invalidArgument _ code details =>
    if systemNumber code = 36 then .nameTooLong else .other details
  | error => .other error.toString

def attempt {α : Type} (action : IO α) : IO (Except FileError α) := do
  match ← action.toBaseIO with
  | .ok value => return .ok value
  | .error error => return .error (fileError error)

def environment : IO Environment :=
  ["TERM", "NO_COLOR", "RUST_LOG"].filterMapM fun name => do
    return (← IO.getEnv name).map fun value => (name, value)

def timeNow : IO String := do
  let now := Std.Time.DateTime.ofTimestampWithZone (← Std.Time.Timestamp.now) .UTC
  return now.format "uuuu-MM-dd'T'HH:mm:ss.SSSSSS'Z'"

def contentOf (path : String) : IO (Except FileError (List UInt8)) := do
  return (← attempt (IO.FS.readBinFile path)).map fun content => content.data.toList

def performTo (options : Options) (output : IO.FS.Stream) : IO UInt32 := do
  let content ← contentOf options.input
  let done := options.perform (← environment) (← timeNow) content
  output.write done.output
  output.flush
  IO.eprint done.messages
  return UInt32.ofNat done.code

def say (text : String) : IO UInt32 := do
  IO.print text
  return 0

def complain (code : UInt32) (text : String) : IO UInt32 := do
  IO.eprint text
  return code

def runOptions (options : Options) : IO UInt32 := do
  IO.eprint (options.warnings (← environment))
  match options.output with
  | none => performTo options (← IO.getStdout)
  | some path =>
    match ← attempt (IO.FS.Handle.mk path .write) with
    | .error error => complain 1 (cannotCreate path error)
    | .ok handle => performTo options (.ofHandle handle)

end CTokens.Command

open CTokens.Command in
def main (arguments : List String) : IO UInt32 :=
  match Invocation.parse arguments with
  | .run options => runOptions options
  | .summary => say summaryText
  | .help => say helpText
  | .version => say versionText
  | .misuse misuse => complain 2 misuse.text
