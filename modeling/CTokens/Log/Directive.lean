import CTokens.Log.Event
import CTokens.Log.Pattern

/-! # Directives for the log

A directive shows events from a level on, under conditions: on the target, on the activity that
the event is part of, and on a field.  It is written `target[activity{field=pattern}]=level`,
where everything but one of the first two parts may be left out; a level may also stand alone.
Without a level all events are shown.

`Directive.parse` goes through the characters once.  It looks for marks without the blanks at
both ends, and cuts the parts between marks out of the text with its blanks, by the same count
of characters: a blank at the start moves all parts towards the start by one.
-/

namespace CTokens.Log

/-- There is a field with a name, with a value that fits a pattern if there is one. -/
structure FieldTest where
  name : String
  pattern : Option String
  deriving DecidableEq, Repr

/-- Shows events from the level `least` on, or none at all. -/
structure Directive where
  target : Option String  -- what their targets begin with
  activity : Option String  -- the name of what they are part of
  field : Option FieldTest
  least : Option Level
  deriving DecidableEq, Repr

inductive DirectiveError
  | malformed
  | badLevel
  | badPattern (error : PatternError)
  deriving DecidableEq, Repr

def DirectiveError.message : DirectiveError → String
  | .malformed => "invalid filter directive"
  | .badLevel => "error parsing level filter: expected one of \"off\", \"error\", \"warn\", "
    ++ "\"info\", \"debug\", \"trace\", or a number 0-5"
  | .badPattern error => "invalid field filter: " ++ error.message

/-! ## Levels -/

/-- The level with a number; 0 shows nothing. -/
def levelOfNumber? : Nat → Option (Option Level)
  | 0 => some none
  | 1 => some (some .error)
  | 2 => some (some .warn)
  | 3 => some (some .info)
  | 4 => some (some .debug)
  | 5 => some (some .trace)
  | _ => none

def levelOfName? : String → Option (Option Level)
  | "off" => some none
  | "error" => some (some .error)
  | "warn" => some (some .warn)
  | "info" => some (some .info)
  | "debug" => some (some .debug)
  | "trace" => some (some .trace)
  | _ => none

/-- A plus sign may stand before the digits. -/
def decimal? (text : List Char) : Option Nat :=
  let digits := match text with
    | '+' :: digits => digits
    | digits => digits
  if digits.isEmpty || !digits.all Char.isDigit then none
  else some (digits.foldl (fun n digit => 10 * n + (digit.toNat - '0'.toNat)) 0)

/-- A level by its number, or by its name in either case. -/
def parseLevel? (text : String) : Option (Option Level) :=
  match decimal? text.toList with
  | some number => levelOfNumber? number
  | none => levelOfName? (String.ofList (text.toList.map Char.toLower))

/-! ## Reading a directive -/

def trim (text : List Char) : List Char :=
  ((text.dropWhile Text.isSpace).reverse.dropWhile Text.isSpace).reverse

def isWordStart (c : Char) : Bool :=
  c = '-' || c = ':' || c = '_' || Text.isAlphanumeric c

namespace FieldTest

/-- A name, or a name and a pattern with an equals sign between them.  What follows a second
    equals sign is left out. -/
def ofText (text : String) : Except DirectiveError FieldTest :=
  let chars := text.toList
  let name := String.ofList (chars.takeWhile (· ≠ '='))
  match chars.dropWhile (· ≠ '=') with
  | [] => .ok { name := name, pattern := none }
  | _ :: behind =>
    let pattern := String.ofList (behind.takeWhile (· ≠ '='))
    match Pattern.check pattern with
    | .ok () => .ok { name := name, pattern := some pattern }
    | .error error => .error (.badPattern error)

end FieldTest

namespace Directive

/-- The part of a directive that comes next, with the place where it starts. -/
inductive Part
  | first
  | word (start : Nat)  -- a target, or a level alone
  | activity (start : Nat)
  | field (start : Nat)
  | closing  -- behind a field, where the activity has to be closed
  | equals  -- behind an activity
  | level (start : Nat)
  deriving DecidableEq, Repr

structure Draft where
  directive : Directive
  part : Part
  deriving DecidableEq, Repr

def cut (text : List Char) (start stop : Nat) : String :=
  String.ofList ((text.drop start).take (stop - start))

def Draft.empty : Draft :=
  { directive := { target := none, activity := none, field := none, least := some .trace }
    part := .first }

def Draft.read (text : List Char) (draft : Draft) (c : Char) (i : Nat) :
    Except DirectiveError Draft :=
  let directive := draft.directive
  match draft.part, c with
  | .first, '[' => .ok { draft with part := .activity (i + 1) }
  | .first, c => if isWordStart c then .ok { draft with part := .word i } else .error .malformed
  | .word start, '=' =>
    .ok { directive := { directive with target := some (cut text start i) }
          part := .level (i + 1) }
  | .word start, '[' =>
    .ok { directive := { directive with target := some (cut text start i) }
          part := .activity (i + 1) }
  | .activity start, ']' =>
    .ok { directive := { directive with activity := some (cut text start i) }, part := .equals }
  | .activity start, '{' =>
    -- Without a name, any activity with such a field will do.
    let name := cut text start i
    .ok { directive := { directive with activity := if name.isEmpty then none else some name }
          part := .field (i + 1) }
  | .field start, '}' =>
    let field := cut text start i
    if field.isEmpty then .error .malformed
    else do
      let field ← FieldTest.ofText field
      .ok { directive := { directive with field := some field }, part := .closing }
  | .closing, ']' => .ok { draft with part := .equals }
  | .equals, '=' => .ok { draft with part := .level (i + 1) }
  | .closing, _ => .error .malformed
  | .equals, _ => .error .malformed
  | _, _ => .ok draft

def Draft.finish (text : List Char) (draft : Draft) : Except DirectiveError Directive :=
  let directive := draft.directive
  match draft.part with
  | .word start =>
    let word := String.ofList (text.drop start)
    match parseLevel? word with
    | some least => .ok { directive with least := least }
    | none => .ok { directive with target := some word }
  | .level start =>
    let level := String.ofList (text.drop start)
    if level.isEmpty then .ok directive
    else match parseLevel? level with
      | some least => .ok { directive with least := least }
      | none => .error .badLevel
  | .equals => .ok directive
  | _ => .error .malformed

def parse (text : String) : Except DirectiveError Directive := do
  let chars := text.toList
  let draft ← (trim chars).zipIdx.foldlM (fun draft (c, i) => draft.read chars c i) Draft.empty
  draft.finish chars

end Directive

end CTokens.Log
