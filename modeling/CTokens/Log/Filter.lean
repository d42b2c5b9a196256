import CTokens.Log.Directive
import CTokens.Text.Split

/-! # Log filters

A filter is a list of directives.  Of directives with the same conditions only the last one is
kept (`Filter.settled`).  An event is shown if one of two things holds.

* The most specific of the plain directives that apply to it shows it.  A directive is plain if
  it asks for no activity and no pattern.  The longer target is the more specific one.
* It happens in an activity that some directive asks for, and one of the directives that ask
  for the activity shows it.

The name of an activity is shown with its events if the filter follows the activity: if some
directive asks for it, or the most specific plain directive shows its level.
-/

namespace CTokens.Log

abbrev Filter := List Directive

namespace Directive

def reaches (directive : Directive) (level : Level) : Bool :=
  match directive.least with
  | some least => least.rank ≤ level.rank
  | none => false

def covers (directive : Directive) (target : String) : Bool :=
  match directive.target with
  | some start => start.toList.isPrefixOf target.toList
  | none => true

/-- The directive has the conditions of an earlier one, so that it takes its place. -/
def repeats (later earlier : Directive) : Bool :=
  later.target = earlier.target && later.activity = earlier.activity
    && later.field = earlier.field

/-- The directive asks for no activity and no pattern. -/
def isPlain (directive : Directive) : Bool :=
  directive.activity.isNone && directive.field.all (·.pattern.isNone)

/-- The directive asks for the activity.  An activity has no fields to ask for. -/
def asksFor (directive : Directive) (activity : Activity) : Bool :=
  directive.activity = some activity.name && directive.covers activity.target
    && directive.field.isNone

def appliesTo (directive : Directive) (event : Event) : Bool :=
  directive.covers event.target && directive.field.all (event.fieldNames.contains ·.name)

/-- How specific a plain directive is, of those that cover a target. -/
def specificity (directive : Directive) : Nat × String :=
  ((directive.target.map (·.utf8ByteSize + 1)).getD 0,
   (directive.field.map ("=" ++ ·.name)).getD "")

/-- Of two plain directives the more specific one, and of equally specific ones the later. -/
def moreSpecific (first second : Directive) : Directive :=
  let (length, field) := first.specificity
  let (length', field') := second.specificity
  if length < length' || (length = length' && !(field' < field)) then second else first

end Directive

namespace Filter

def errors : Filter :=
  [{ target := none, activity := none, field := none, least := some .error }]

def parts (text : String) : List String :=
  (Text.splitNonempty ',' text.toList).map String.ofList

/-- The directives of a list but for those that a later one repeats. -/
def settled : List Directive → Filter
  | [] => []
  | directive :: later =>
    if later.any (·.repeats directive) then settled later else directive :: settled later

theorem mem_of_mem_settled {directive : Directive} {directives : List Directive}
    (kept : directive ∈ settled directives) : directive ∈ directives := by
  induction directives with
  | nil => exact kept
  | cons first later ih =>
    rw [settled] at kept
    split at kept
    · exact List.mem_cons_of_mem first (ih kept)
    · exact (List.mem_cons.1 kept).elim (· ▸ List.mem_cons_self)
        fun inLater => List.mem_cons_of_mem first (ih inLater)

/-- No two directives that are kept have the same conditions. -/
theorem pairwise_settled (directives : List Directive) :
    (settled directives).Pairwise fun earlier later => later.repeats earlier = false := by
  induction directives with
  | nil => exact List.Pairwise.nil
  | cons first later ih =>
    rw [settled]
    split
    next => exact ih
    next fresh =>
      refine List.pairwise_cons.2 ⟨fun other kept => ?_, ih⟩
      exact Bool.eq_false_iff.2 fun repeated =>
        fresh (List.any_eq_true.2 ⟨other, mem_of_mem_settled kept, repeated⟩)

/-- The directives of a text.  What is no directive is passed over; where none is left only
    errors are shown. -/
def parse (text : String) : Filter :=
  match settled ((parts text).filterMap fun part => (Directive.parse part).toOption) with
  | [] => errors
  | directives => directives

def complaint? (part : String) : Option String :=
  match Directive.parse part with
  | .ok _ => none
  | .error error => some ("ignoring `" ++ part ++ "`: " ++ error.message ++ "\n")

/-- What is said of a text: one line for each part that is passed over. -/
def complaints (text : String) : String :=
  String.join ((parts text).filterMap complaint?)

def mostSpecific? : List Directive → Option Directive
  | [] => none
  | directive :: directives => some (directives.foldl Directive.moreSpecific directive)

/-- The plain directive that decides about an event shows it. -/
def plainlyShows (filter : Filter) (event : Event) : Bool :=
  (mostSpecific? (filter.filter fun directive =>
    directive.isPlain && directive.appliesTo event)).any (·.reaches event.level)

/-- The plain directive that decides about an activity shows its level.  Fields do not matter. -/
def plainlyFollows (filter : Filter) (activity : Activity) : Bool :=
  (mostSpecific? (filter.filter fun directive =>
    directive.isPlain && directive.covers activity.target)).any (·.reaches activity.level)

def shows (filter : Filter) (event : Event) : Bool :=
  filter.plainlyShows event || event.activity.any fun activity =>
    filter.any fun directive => directive.asksFor activity && directive.reaches event.level

def follows (filter : Filter) (activity : Activity) : Bool :=
  filter.any (·.asksFor activity) || filter.plainlyFollows activity

/-- What is told of an event at a time; nothing if the filter does not show it. -/
def told (filter : Filter) (time : String) (event : Event) : String :=
  if filter.shows event then
    event.line time ((event.activity.filter filter.follows).map (·.name))
  else ""

end Filter

end CTokens.Log
