/-! # Cutting a text at a character

`split` gives the parts of a text between the places where a character stands.  The
character itself is in none of them; there is one part more than there are such places.
-/

namespace CTokens.Text

def consPart (separator c : Char) (parts : List (List Char)) : List (List Char) :=
  if c = separator then [] :: parts
  else match parts with
    | [] => [[c]]
    | part :: parts => (c :: part) :: parts

def split (separator : Char) (text : List Char) : List (List Char) :=
  text.foldr (consPart separator) [[]]

def splitNonempty (separator : Char) (text : List Char) : List (List Char) :=
  (split separator text).filter fun part => !part.isEmpty

end CTokens.Text
