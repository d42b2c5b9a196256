import CTokens.Command.Options

/-! # Reading the arguments

`Invocation.parse` goes through the arguments from left to right.  Options stand before or
behind the input, with a long name behind two dashes or a short one behind a single dash.

The value of a parameter that is an argument of its own, and the input, are not looked at
until the next option or input has been recognised, or all arguments have been read: where
an argument is not recognised at all, this is reported, and not what may be wrong with the
value before it.  A value that is part of the same argument as its option is looked at at
once.
-/

namespace CTokens.Command

/-! ## Values and names -/

def formatOf? : String → Option Format
  | "plain" => some .plain
  | "ordinal" => some .ordinal
  | "lines" => some .lines
  | _ => none

def colourOf? : String → Option Colour
  | "auto" => some .auto
  | "always" => some .always
  | "never" => some .never
  | _ => none

def longOption? : String → Option (Parameter ⊕ Switch)
  | "output" => some (.inl .output)
  | "format" => some (.inl .format)
  | "color" => some (.inl .colour)
  | "strict" => some (.inr .strict)
  | "verbose" => some (.inr .verbose)
  | "help" => some (.inr .help)
  | "version" => some (.inr .version)
  | _ => none

def shortOption? : Char → Option (Parameter ⊕ Switch)
  | 'o' => some (.inl .output)
  | 'f' => some (.inl .format)
  | 'v' => some (.inr .verbose)
  | 'h' => some (.inr .help)
  | 'V' => some (.inr .version)
  | _ => none

inductive Argument
  | endOfOptions  -- two dashes: no option comes behind them
  | long (name : String) (value : Option String)  -- with what is behind an equals sign
  | short (names : List Char)  -- the last may be followed by its value
  | plain  -- no option; also a single dash
  deriving DecidableEq, Repr

def Argument.ofText (text : String) : Argument :=
  match text.toList with
  | ['-', '-'] => .endOfOptions
  | '-' :: '-' :: rest =>
    let name := String.ofList (rest.takeWhile (· ≠ '='))
    match rest.dropWhile (· ≠ '=') with
    | [] => .long name none
    | _ :: value => .long name (some (String.ofList value))
  | '-' :: c :: rest => .short (c :: rest)
  | _ => .plain

/-! ## Reading the arguments -/

structure Draft where
  input : Option String := none
  output : Option String := none
  format : Option Format := none
  colour : Option Colour := none
  strict : Bool := false
  verbose : Bool := false
  pending : Option (Parameter × Option String) := none  -- with its value once that has been read
  deriving DecidableEq, Repr

/-- Reading stops early where the arguments are misused or ask for help or the version. -/
abbrev Reading := Except Invocation

namespace Draft

def refuse {α : Type} (misuse : Misuse) : Reading α :=
  .error (.misuse misuse)

def has (draft : Draft) : Parameter → Bool
  | .input => draft.input.isSome
  | .output => draft.output.isSome
  | .format => draft.format.isSome
  | .colour => draft.colour.isSome

def set (draft : Draft) (parameter : Parameter) (value : String) : Reading Draft :=
  if draft.has parameter then refuse (.repeated parameter.label)
  else if value.isEmpty then refuse (.noValue parameter)
  else match parameter with
    | .input => .ok { draft with input := some value }
    | .output => .ok { draft with output := some value }
    | .format => match formatOf? value with
      | some format => .ok { draft with format := some format }
      | none => refuse (.badValue value parameter)
    | .colour => match colourOf? value with
      | some colour => .ok { draft with colour := some colour }
      | none => refuse (.badValue value parameter)

def settle (draft : Draft) : Reading Draft :=
  match draft.pending with
  | none => .ok draft
  | some (parameter, none) => refuse (.noValue parameter)
  | some (parameter, some value) => { draft with pending := none }.set parameter value

def takeParameter (draft : Draft) (parameter : Parameter) (value : Option String) :
    Reading Draft := do
  let draft ← draft.settle
  match value with
  | some value => draft.set parameter value
  | none => .ok { draft with pending := some (parameter, none) }

/-- Help is long or short as the option is. -/
def takeSwitch (draft : Draft) (switch : Switch) (isLong : Bool) : Reading Draft := do
  let draft ← draft.settle
  match switch with
  | .strict =>
    if draft.strict then refuse (.repeated switch.label) else .ok { draft with strict := true }
  | .verbose =>
    if draft.verbose then refuse (.repeated switch.label) else .ok { draft with verbose := true }
  | .help => .error (if isLong then .help else .summary)
  | .version => .error .version

def takeLong (draft : Draft) (name : String) (value : Option String) : Reading Draft :=
  match longOption? name, value with
  | none, _ => refuse (.unexpectedArgument ("--" ++ name))
  | some (.inl parameter), value => draft.takeParameter parameter value
  | some (.inr switch), some value => refuse (.unexpectedValue value switch)
  | some (.inr switch), none => draft.takeSwitch switch true

/-- Takes options with short names.  All that is behind the name of a parameter is its
    value, but for an equals sign directly behind the name. -/
def takeShort (draft : Draft) : List Char → Reading Draft
  | [] => .ok draft
  | name :: rest =>
    match shortOption? name with
    | none => refuse (.unexpectedArgument (String.ofList ['-', name]))
    | some (.inr switch) => do (← draft.takeSwitch switch false).takeShort rest
    | some (.inl parameter) =>
      match rest with
      | [] => draft.takeParameter parameter none
      | '=' :: value => draft.takeParameter parameter (some (String.ofList value))
      | value => draft.takeParameter parameter (some (String.ofList value))

def takeInput (draft : Draft) (argument : String) : Reading Draft :=
  if draft.has .input || draft.pending.any (·.1 = .input) then
    refuse (.unexpectedArgument argument)
  else do
    let draft ← draft.settle
    -- An empty input is refused when it is settled, and no sooner.
    .ok { draft with pending := some (.input, some argument) }

/-- Takes an argument that is no option: the value that is waited for, or an input. -/
def takePlain (draft : Draft) (argument : String) : Reading Draft :=
  match draft.pending with
  | some (parameter, none) => .ok { draft with pending := some (parameter, some argument) }
  | _ => draft.takeInput argument

def takeAll (draft : Draft) : List String → Reading Draft
  | [] => draft.settle
  | argument :: rest =>
    match Argument.ofText argument with
    | .endOfOptions => do (← rest.foldlM takeInput draft).settle
    | .long name value => do (← draft.takeLong name value).takeAll rest
    | .short names => do (← draft.takeShort names).takeAll rest
    | .plain => do (← draft.takePlain argument).takeAll rest

def finish (draft : Draft) : Invocation :=
  match draft.input with
  | none => .misuse .noInput
  | some input =>
    .run
      { input := input
        output := draft.output
        format := draft.format.getD .plain
        strict := draft.strict
        colour := draft.colour.getD .auto
        verbose := draft.verbose }

end Draft

/-- What the arguments ask for, or how they are misused. -/
def Invocation.parse (arguments : List String) : Invocation :=
  match ({} : Draft).takeAll arguments with
  | .error invocation => invocation
  | .ok draft => draft.finish

end CTokens.Command
