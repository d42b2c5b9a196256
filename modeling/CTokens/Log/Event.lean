/-! # Log events

While it works the tokenizer can tell what it is doing, in events.  An event belongs to a
part of the program, its target, has a level, and tells values in named fields.  It may be part
of an activity, which has a level and a target too.
-/

namespace CTokens.Log

inductive Level
  | trace
  | debug
  | info
  | warn
  | error
  deriving DecidableEq, Repr

namespace Level

/-- From the least severe to the most. -/
def rank : Level → Nat
  | .trace => 0
  | .debug => 1
  | .info => 2
  | .warn => 3
  | .error => 4

def label : Level → String
  | .trace => "TRACE"
  | .debug => "DEBUG"
  | .info => " INFO"
  | .warn => " WARN"
  | .error => "ERROR"

end Level

/-- Something that goes on for a time, and in which events happen.  It has no fields. -/
structure Activity where
  level : Level
  target : String
  name : String
  deriving DecidableEq, Repr

structure Field where
  name : String
  value : String
  deriving DecidableEq, Repr

structure Event where
  level : Level
  activity : Option Activity
  target : String
  message : String
  fields : List Field
  deriving DecidableEq, Repr

/-- The names of all fields; the message is a field too. -/
def Event.fieldNames (event : Event) : List String :=
  "message" :: event.fields.map (·.name)

def Field.text (field : Field) : String :=
  " " ++ field.name ++ "=" ++ field.value

/-- The line of an event, with the time it is told and the name of its activity, if that is
    shown. -/
def Event.line (time : String) (activity : Option String) (event : Event) : String :=
  let activity := match activity with
    | some name => name ++ ": "
    | none => ""
  time ++ " " ++ event.level.label ++ " " ++ activity ++ event.target ++ ": " ++ event.message
    ++ String.join (event.fields.map Field.text) ++ "\n"

end CTokens.Log
