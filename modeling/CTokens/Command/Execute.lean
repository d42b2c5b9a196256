import CTokens.Command.Arguments
import CTokens.Command.Help
import CTokens.Log.Filter
import CTokens.Run

/-! # The command

The command tokenizes one input, to standard output or to a file, and tells what it finds
on standard error.  Its exit code is 0, or 1 if something failed, or 2 if the arguments are
misused.

The output file is made, or emptied, before the input is read.  So an output that cannot be
made stops the command before anything else happens, an input that cannot be read leaves an
empty output, and an input that is also the output reads as empty.
-/

namespace CTokens.Command

abbrev Environment := List (String × String)

structure Result where
  code : Nat
  output : ByteArray
  messages : String  -- on standard error

structure Outcome where
  code : Nat
  standardOutput : ByteArray
  standardError : String
  tree : FileTree

/-- Diagnostics are coloured where the choice says so.  By default they are on a terminal
    that is named, is not `dumb`, and where `NO_COLOR` is not set. -/
def Colour.holds (environment : Environment) : Colour → Bool
  | .always => true
  | .never => false
  | .auto =>
    match environment.lookup "TERM" with
    | none => false
    | some terminal => terminal ≠ "dumb" && (environment.lookup "NO_COLOR").isNone

/-- The directives for the log: with `verbose` those that show the events of the tokenizer from
    `debug` on, and else those of the environment. -/
def Options.directives (options : Options) (environment : Environment) : String :=
  if options.verbose then "minicc=debug" else (environment.lookup "RUST_LOG").getD ""

/-- What is said of the directives for the log, before anything is done. -/
def Options.warnings (options : Options) (environment : Environment) : String :=
  Log.Filter.complaints (options.directives environment)

def told (filter : Log.Filter) (time : String) : Notice → String
  | .event event => filter.told time event
  | .diagnostic text => text

def failureLine (doing path cause : String) : String :=
  "error: " ++ doing ++ " " ++ path ++ ": " ++ cause ++ "\n"

def Options.settings (options : Options) : Settings :=
  { format := options.format, strict := options.strict }

/-- Tokenizes the input, given its content or why it cannot be read. -/
def Options.perform (options : Options) (environment : Environment) (time : String)
    (content : Except FileError (List UInt8)) : Result :=
  let reporter := Report.Reporter.new (options.colour.holds environment)
  let ran := options.settings.run options.input content (Sink.empty none) reporter
  let filter := Log.Filter.parse (options.directives environment)
  let tell (notices : List Notice) := String.join (notices.map (told filter time))
  match ran.failure with
  | none =>
    { code := 0
      output := ran.sink.held
      messages := tell (ran.notices ++ [.event (Log.finished options.input)]) }
  | some failure =>
    { code := 1
      output := ran.sink.held
      messages := tell ran.notices
        ++ failureLine "failed to tokenize" options.input failure.fullMessage }

/-- The outcome where nothing happens to any file. -/
def Outcome.printed (tree : FileTree) (code : Nat) (output errors : String) : Outcome :=
  { code := code, standardOutput := output.toByteArray, standardError := errors, tree := tree }

def cannotCreate (path : String) (error : FileError) : String :=
  failureLine "cannot create" path error.message

def Options.execute (options : Options) (environment : Environment) (time : String)
    (tree : FileTree) : Outcome :=
  let warnings := options.warnings environment
  match options.output with
  | none =>
    let done := options.perform environment time (tree.read options.input)
    { code := done.code
      standardOutput := done.output
      standardError := warnings ++ done.messages
      tree := tree }
  | some path =>
    match tree.locate path with
    | .error error => .printed tree 1 "" (warnings ++ cannotCreate path error)
    | .ok place =>
      -- From here on the output is empty, and so is the input if they are the same file.
      let opened := tree.put place []
      let done := options.perform environment time (opened.read options.input)
      { code := done.code
        standardOutput := ByteArray.empty
        standardError := warnings ++ done.messages
        tree := opened.put place done.output.data.toList }

def Misuse.text (misuse : Misuse) : String :=
  "error: " ++ misuse.message ++ "\n"

def execute (arguments : List String) (environment : Environment) (time : String)
    (tree : FileTree) : Outcome :=
  match Invocation.parse arguments with
  | .run options => options.execute environment time tree
  | .summary => .printed tree 0 summaryText ""
  | .help => .printed tree 0 helpText ""
  | .version => .printed tree 0 versionText ""
  | .misuse misuse => .printed tree 2 "" misuse.text

end CTokens.Command
