import CTokens.Log.Pattern.Modes
import CTokens.Log.Pattern.Nesting
import CTokens.Text.Alphanumeric
import CTokens.Text.Space

/-! # Reading regular expressions

`Draft.read` reads the characters of a regular expression one by one, as long as they make up a
well-formed one.  What the expression matches does not matter, so that a draft keeps no more of
it than what decides how it can go on.

A pattern ends at the first `}`.  That is why nothing that is written in braces can occur, and
an opening brace only stands for itself, in a class or behind a backslash.

There are no tables for the classes of characters of all scripts.  So `\d`, `\s` and `\w` can
only be used for ASCII, classes like `\p` not at all, and either case only for ASCII letters.
-/

namespace CTokens.Log.Pattern

inductive Role
  | outside
  | member  -- of a class, or the first character of a range
  | last (first : Option Char)  -- of a range, with the first one if that is a character
  deriving DecidableEq, Repr

inductive Place
  | parts
  | repeated  -- behind a repetition, where a question mark belongs to it
  | paren  -- behind an opening parenthesis
  | mark  -- behind a parenthesis with a question mark
  | namedMark  -- behind (?P, where a name follows
  | name (read : List Char)  -- in the name of a group, its characters from the last
  | flags (read : List Char)  -- in flags, from the last
  | escape (role : Role)  -- behind a backslash
  | number (role : Role) (mark : Char) (left value : Nat)  -- of a character, with digits left
  | head (first hyphens : Bool)  -- of a class, before a caret or behind hyphens
  | members
  | doubled (c : Char)  -- an operator between sets if it comes twice
  | behindMember (member : Option Char)  -- none for a class
  | behindHyphen (member : Option Char) (adjacent : Bool)  -- adjacent if nothing is between
  deriving DecidableEq, Repr

namespace Place

/-- Blanks and comments can be passed over here. -/
def isLoose : Place → Bool
  | .parts | .paren | .number .. | .head .. | .members | .behindMember _ | .behindHyphen .. => true
  | _ => false

/-- The place behind blanks or a comment. -/
def apart : Place → Place
  | .behindHyphen member _ => .behindHyphen member false
  | place => place

end Place

structure Draft where
  place : Place
  comment : Bool  -- the place is in a comment
  modes : Modes
  group : Branches  -- the innermost one
  outer : List (Branches × Modes)  -- the groups around it, from the inside
  names : List (List Char)  -- of groups
  classes : List Members  -- the open ones, from the inside
  wordEnds : Bool  -- there are places that depend on words of all scripts
  deriving DecidableEq, Repr

def hexDigit? (c : Char) : Option Nat :=
  if c.isDigit then some (c.toNat - '0'.toNat)
  else if 'a' ≤ c && c ≤ 'f' then some (c.toNat - 'a'.toNat + 10)
  else if 'A' ≤ c && c ≤ 'F' then some (c.toNat - 'A'.toNat + 10)
  else none

def isGroupName : List Char → Bool
  | [] => false
  | c :: rest =>
    (c = '_' || Text.isAlphanumeric c && !c.isDigit)
      && rest.all fun c => ['_', '.', '[', ']'].contains c || Text.isAlphanumeric c

namespace Draft

def empty : Draft :=
  { place := .parts, comment := false, modes := .initial, group := .empty, outer := []
    names := [], classes := [], wordEnds := false }

def goTo (draft : Draft) (place : Place) : Draft :=
  { draft with place := place }

def add (draft : Draft) (part : Option Nat) : Draft :=
  { draft with group := draft.group.add part, place := .parts }

def changeClass (draft : Draft) (change : Members → Members) : Draft :=
  match draft.classes with
  | [] => draft
  | members :: classes => { draft with classes := change members :: classes }

def openGroup (draft : Draft) (modes : Modes) : Draft :=
  { draft with
    place := .parts
    modes := modes
    group := .empty
    outer := (draft.group, draft.modes) :: draft.outer }

def closeGroup (draft : Draft) : Option Draft :=
  match draft.outer with
  | [] => none
  | (group, modes) :: outer =>
    some { draft with
      place := .parts
      modes := modes
      group := group.add (some (draft.group.depth + 1))
      outer := outer }

def openClass (draft : Draft) : Draft :=
  { draft with classes := .empty :: draft.classes, place := .head true false }

def closeClass (draft : Draft) : Option Draft :=
  match draft.classes with
  | [] => none
  | [members] => some ({ draft with classes := [] }.add (some (members.depth + 1)))
  | inner :: outer :: classes =>
    some { draft with classes := outer.add (inner.depth + 1) :: classes, place := .members }

/-- A character has been read, or a class of characters (`none`).  The ends of a range are
    characters in order. -/
def put (draft : Draft) (role : Role) (value : Option Char) : Option Draft :=
  match role, value with
  | .outside, _ => some (draft.add (some 0))
  | .member, _ => some ((draft.changeClass (·.add 0)).goTo (.behindMember value))
  | .last (some first), some last => if first ≤ last then some (draft.goTo .members) else none
  | .last _, _ => none

def putChar (draft : Draft) (role : Role) (c : Char) : Option Draft :=
  if draft.modes.scripts then
    if draft.modes.caseless then none else draft.put role (some c)
  else if c.toNat < 0x80 || role = .outside then draft.put role (some c) else none

/-- A place has been read, which matches no character. -/
def putPlace (draft : Draft) (role : Role) : Option Draft :=
  if role = .outside then some (draft.add (some 0)) else none

def readEscape (draft : Draft) (role : Role) (c : Char) : Option Draft :=
  let scripts := draft.modes.scripts
  match c with
  | 'x' => some (draft.goTo (.number role c 2 0))
  | 'u' => some (draft.goTo (.number role c 4 0))
  | 'U' => some (draft.goTo (.number role c 8 0))
  | 'd' | 's' | 'w' => if scripts then none else draft.put role none
  | 'b' | 'B' | '<' | '>' =>
    -- For words of all scripts these are well formed, and refused in the end.
    { draft with wordEnds := draft.wordEnds || scripts }.putPlace role
  | 'A' | 'z' => draft.putPlace role
  | 'a' => draft.putChar role '\x07'
  | 't' => draft.putChar role '\t'
  | 'n' => draft.putChar role '\n'
  | 'v' => draft.putChar role '\x0B'
  | 'f' => draft.putChar role '\x0C'
  | 'r' => draft.putChar role '\r'
  | c => if c.toNat < 0x80 && !c.isAlphanum then draft.putChar role c else none

/-- Reads a digit of the number of a character.  Two digits mean a byte, which has to be ASCII
    where only ASCII is meant. -/
def readNumber (draft : Draft) (role : Role) (mark : Char) (left value : Nat) (c : Char) :
    Option Draft := do
  let digit ← hexDigit? c
  let value := 16 * value + digit
  if 1 < left then some (draft.goTo (.number role mark (left - 1) value))
  else if (Char.ofNat value).toNat ≠ value then none  -- no character has this number
  else if mark = 'x' && 0x80 ≤ value && !draft.modes.scripts then none
  else draft.putChar role (Char.ofNat value)

def readPart (draft : Draft) (c : Char) : Option Draft :=
  match c with
  | '(' => some (draft.goTo .paren)
  | ')' => draft.closeGroup
  | '|' => some { draft with group := draft.group.bar, place := .parts }
  | '[' => some draft.openClass
  | '?' | '*' | '+' => do
    let group ← draft.group.repeatLast?
    some { draft with group := group, place := .repeated }
  | '{' => none  -- the brace that closes it would end the pattern
  | '\\' => some (draft.goTo (.escape .outside))
  | '^' | '$' => draft.putPlace .outside
  | '.' =>
    -- Of bytes alone a dot would match what is no character.
    if draft.modes.scripts then draft.put .outside none else none
  | c => draft.putChar .outside c

/-- Reads a character of the flags.  They end at a colon, where a group begins, or at a closing
    parenthesis, where they hold for the rest of the group that they stand in. -/
def readFlag (draft : Draft) (read : List Char) (c : Char) : Option Draft :=
  let modes := draft.modes.switch read.reverse
  if c = ':' then
    if read.head? = some '-' then none else some (draft.openGroup modes)
  else if c = ')' then
    if read.isEmpty || read.head? = some '-' then none
    else some ({ draft with modes := modes }.add none)
  else if isFlag c && !read.contains c then some (draft.goTo (.flags (c :: read)))
  else none

/-- Reads a character of the name of a group.  No two groups have the same name. -/
def readName (draft : Draft) (read : List Char) (c : Char) : Option Draft :=
  if c = '>' then
    let name := read.reverse
    if isGroupName name && !draft.names.contains name then
      some ({ draft with names := name :: draft.names }.openGroup draft.modes)
    else none
  else some (draft.goTo (.name (c :: read)))

def readMember (draft : Draft) (c : Char) : Option Draft :=
  match c with
  | '[' => some draft.openClass
  | ']' => draft.closeClass
  | '&' | '-' | '~' => some (draft.goTo (.doubled c))
  | '\\' => some (draft.goTo (.escape .member))
  | c => draft.putChar .member c

/-- Reads a character at the head of a class.  Hyphens stand for themselves there, and so does a
    closing bracket in their place. -/
def readHead (draft : Draft) (first hyphens : Bool) (c : Char) : Option Draft :=
  if first && c = '^' then
    if draft.modes.scripts then some (draft.goTo (.head false false)) else none
  else if c = '-' then do
    let draft ← draft.putChar .member c
    some (draft.goTo (.head false true))
  else if !hyphens && c = ']' then do
    let draft ← draft.putChar .member c
    some (draft.goTo .members)
  else draft.readMember c

/-- Reads a character behind a member and a hyphen.  The hyphen is a member of its own before a
    closing bracket, and an operator between sets with another hyphen. -/
def readBehindHyphen (draft : Draft) (member : Option Char) (adjacent : Bool) (c : Char) :
    Option Draft :=
  match c with
  | ']' => do
    let draft ← draft.putChar .member '-'
    draft.closeClass
  | '-' =>
    if adjacent then some ((draft.changeClass (·.operator)).goTo .members)
    else do
      let draft ← draft.putChar .member '-'
      some (draft.goTo (.behindHyphen (some '-') true))
  | '\\' => some (draft.goTo (.escape (.last member)))
  | c => draft.putChar (.last member) c

def take (draft : Draft) (c : Char) : Option Draft :=
  match draft.place with
  | .parts => draft.readPart c
  | .repeated => if c = '?' then some (draft.goTo .parts) else draft.readPart c
  | .paren =>
    if c = '?' then some (draft.goTo .mark) else (draft.openGroup draft.modes).readPart c
  | .mark =>
    match c with
    | 'P' => some (draft.goTo .namedMark)
    | '<' => some (draft.goTo (.name []))
    | c => draft.readFlag [] c
  | .namedMark => if c = '<' then some (draft.goTo (.name [])) else none
  | .name read => draft.readName read c
  | .flags read => draft.readFlag read c
  | .escape role => draft.readEscape role c
  | .number role mark left value => draft.readNumber role mark left value c
  | .head first hyphens => draft.readHead first hyphens c
  | .members => draft.readMember c
  | .doubled first =>
    if c = first then some ((draft.changeClass (·.operator)).goTo .members) else none
  | .behindMember member =>
    if c = '-' then some (draft.goTo (.behindHyphen member true)) else draft.readMember c
  | .behindHyphen member adjacent => draft.readBehindHyphen member adjacent c

/-- What the next character makes of a place that depends on it: a repetition without a question
    mark is over, and a character that is not doubled stands for itself. -/
def settle (draft : Draft) (c : Char) : Option Draft :=
  match draft.place with
  | .repeated => some (if c = '?' then draft else draft.goTo .parts)
  | .doubled first => if c = first then some draft else draft.putChar .member first
  | _ => some draft

def read (draft : Draft) (c : Char) : Option Draft :=
  if draft.comment then some { draft with comment := c ≠ '\n' }
  else do
    let draft ← draft.settle c
    if draft.modes.spaced && draft.place.isLoose && (Text.isSpace c || c = '#') then
      some { draft with comment := c = '#', place := draft.place.apart }
    else draft.take c

def isComplete (draft : Draft) : Bool :=
  (draft.place = .parts || draft.place = .repeated) && draft.outer.isEmpty
    && draft.group.depth ≤ deepest

end Draft

end CTokens.Log.Pattern
