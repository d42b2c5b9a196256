/-! # How deep regular expressions are nested

Groups, repetitions and classes are one deeper than what they hold.  Parts side by side are one
deeper than the deepest of them, and so are alternatives.  A regular expression must not be
deeper than `deepest`.
-/

namespace CTokens.Log.Pattern

def deepest : Nat := 250

/-- The depth of parts side by side.  A part alone is as deep as it is. -/
def sideBySide : List Nat → Nat
  | [] => 0
  | [depth] => depth
  | depths => depths.foldl max 0 + 1

structure Branches where
  before : Option Nat  -- the depth of the deepest alternative before the last bar
  parts : List (Option Nat)  -- behind it, from the last; none for flags, which cannot be repeated
  deriving DecidableEq, Repr

namespace Branches

def empty : Branches :=
  { before := none, parts := [] }

def lastDepth (branches : Branches) : Nat :=
  sideBySide (branches.parts.map (·.getD 0))

/-- The depth of all alternatives together. -/
def depth (branches : Branches) : Nat :=
  match branches.before with
  | none => branches.lastDepth
  | some before => max before branches.lastDepth + 1

def add (branches : Branches) (part : Option Nat) : Branches :=
  { branches with parts := part :: branches.parts }

/-- The last part is repeated, if there is one and it can be. -/
def repeatLast? (branches : Branches) : Option Branches :=
  match branches.parts with
  | some depth :: parts => some { branches with parts := some (depth + 1) :: parts }
  | _ => none

def bar (branches : Branches) : Branches :=
  { before := some (max (branches.before.getD 0) branches.lastDepth), parts := [] }

end Branches

structure Members where
  before : Option Nat  -- the depth before the last operator between sets
  items : List Nat  -- behind it, from the last
  deriving DecidableEq, Repr

namespace Members

def empty : Members :=
  { before := none, items := [] }

/-- The depth of all members together: operators between sets go from left to right. -/
def depth (members : Members) : Nat :=
  match members.before with
  | none => sideBySide members.items
  | some before => max before (sideBySide members.items) + 1

def add (members : Members) (depth : Nat) : Members :=
  { members with items := depth :: members.items }

def operator (members : Members) : Members :=
  { before := some members.depth, items := [] }

end Members

end CTokens.Log.Pattern
