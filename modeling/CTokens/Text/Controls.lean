/-! # Text without control sequences

What is written to a stream that is no terminal leaves out the control sequences of terminals
and the controls other than blanks.  `withoutControls` does this to a text.

An escape character begins a sequence in any place, and what follows decides how far it goes
(`Sequence`): one character, codes up to a letter, or a string that only some other control ends.
A blank inside a sequence that holds no string is written, and with it all that can be written
up to the next control; if that control does not end the sequence, the sequence goes on behind it.
-/

namespace CTokens.Text

/-- The control sequence that a place in a text is in. -/
inductive Sequence
  | none
  | escape  -- behind the escape character
  | marks  -- an escape character and marks
  | codes  -- up to a character from @ to ~
  | device  -- codes up to such a character, which begins a string
  | string  -- for a device, a message or a command
  | title  -- a string for the system; a bell ends it
  deriving DecidableEq, Repr

/-- A blank that is written: space, tab, newline, form feed or carriage return. -/
def isPlainBlank (c : Char) : Bool :=
  c = ' ' || c = '\t' || c = '\n' || c = '\x0C' || c = '\r'

def isPlain (c : Char) : Bool :=
  isPlainBlank c || (0x20 ≤ c.toNat && c.toNat ≠ 0x7F)

def between (low high : Char) (c : Char) : Bool :=
  low ≤ c && c ≤ high

/-- One of the bytes of the character is `0x9C`, which ends a string. -/
def holdsStringEnd (c : Char) : Bool :=
  (String.utf8EncodeChar c).contains 0x9C

namespace Sequence

def opened (c : Char) : Sequence :=
  if between ' ' '/' c then .marks
  else if c = '[' then .codes
  else if c = 'P' then .device
  else if c = 'X' || c = '^' || c = '_' then .string
  else if c = ']' then .title
  else if between '0' '~' c then .none
  else .escape

def next (sequence : Sequence) (c : Char) : Sequence :=
  if c = '\x1B' then .escape
  else if c = '\x18' || c = '\x1A' then .none
  else match sequence with
    | .none => .none
    | .escape => opened c
    | .marks => if between '0' '~' c then .none else .marks
    | .codes => if between '@' '~' c then .none else .codes
    | .device => if between '@' '~' c then .string else .device
    | .string => if holdsStringEnd c then .none else .string
    | .title => if c = '\x07' then .none else .title

/-- The character is written although it stands in the sequence. -/
def writes (sequence : Sequence) (c : Char) : Bool :=
  match sequence with
  | .none => isPlain c
  | .escape | .marks | .codes => isPlainBlank c && c ≠ ' '
  | .device | .string | .title => false

end Sequence

/-- The characters that are written of a text, from a place in `sequence` on.  Where `writing`
    holds, the character before has been written, and one that can be written is. -/
def plainChars (sequence : Sequence) (writing : Bool) : List Char → List Char
  | [] => []
  | c :: cs =>
    if writing && isPlain c then
      -- A character beyond ASCII ends the sequence that it stands in.
      c :: plainChars (if c.toNat < 0x80 then sequence else .none) true cs
    else if sequence.writes c then c :: plainChars sequence true cs
    else plainChars (sequence.next c) false cs

def withoutControls (text : String) : String :=
  String.ofList (plainChars .none false text.toList)

/-! ## Laws -/

theorem plainChars_of_isPlain (writing : Bool) (cs : List Char) (h : ∀ c ∈ cs, isPlain c = true) :
    plainChars .none writing cs = cs := by
  induction cs generalizing writing with
  | nil => rfl
  | cons c cs ih =>
    have hc : isPlain c = true := h c (by simp)
    have hcs : ∀ c ∈ cs, isPlain c = true := fun d hd => h d (by simp [hd])
    cases writing <;> simp [plainChars, Sequence.writes, hc, ih true hcs]

theorem withoutControls_of_isPlain (text : String) (h : ∀ c ∈ text.toList, isPlain c = true) :
    withoutControls text = text := by
  rw [withoutControls, plainChars_of_isPlain _ _ h, String.ofList_toList]

end CTokens.Text
