/-! # Kinds of tokens

The language has ten reserved words (`Keyword`) and twenty-one symbols of one or two
characters (`Symbol`), each with the one spelling it is written with.  Identifiers,
numbers and string literals have texts of their own; a character that begins none of
these is of kind `unknown`, and `endOfFile` closes every stream of tokens.

Each of the thirty-six kinds has a number, its place in `Kind.all`, and an
upper-case name; token streams are printed with one or the other.
-/

namespace CTokens

inductive Keyword
  | int | float | double | char
  | if_ | else_ | for_ | while_ | return_
  | printf
  deriving DecidableEq, Repr

inductive Symbol
  | plus | minus | star | slash | percent
  | assign | eq | ne | lt | gt | le | ge
  | and | or | not
  | lparen | rparen | lbrace | rbrace | semicolon | comma
  deriving DecidableEq, Repr

inductive Kind
  | keyword (word : Keyword)
  | identifier
  | number
  | string
  | symbol (sign : Symbol)
  | endOfFile
  | unknown
  deriving DecidableEq, Repr

/-! ## Spellings -/

def Keyword.spelling : Keyword → String
  | .int => "int"
  | .float => "float"
  | .double => "double"
  | .char => "char"
  | .if_ => "if"
  | .else_ => "else"
  | .for_ => "for"
  | .while_ => "while"
  | .return_ => "return"
  | .printf => "printf"

/-- In the order of their numbers. -/
def Keyword.all : List Keyword :=
  [.int, .float, .double, .char, .if_, .else_, .for_, .while_, .return_, .printf]

def Keyword.ofSpelling? (text : String) : Option Keyword :=
  Keyword.all.find? fun word => word.spelling = text

def Symbol.spelling : Symbol → String
  | .plus => "+"
  | .minus => "-"
  | .star => "*"
  | .slash => "/"
  | .percent => "%"
  | .assign => "="
  | .eq => "=="
  | .ne => "!="
  | .lt => "<"
  | .gt => ">"
  | .le => "<="
  | .ge => ">="
  | .and => "&&"
  | .or => "||"
  | .not => "!"
  | .lparen => "("
  | .rparen => ")"
  | .lbrace => "\x7b"
  | .rbrace => "\x7d"
  | .semicolon => ";"
  | .comma => ","

def Symbol.all : List Symbol :=
  [.plus, .minus, .star, .slash, .percent, .assign, .eq, .ne, .lt, .gt, .le, .ge,
   .and, .or, .not, .lparen, .rparen, .lbrace, .rbrace, .semicolon, .comma]

/-! ## Numbers and names -/

namespace Kind

def all : List Kind :=
  Keyword.all.map .keyword ++ [.identifier, .number, .string]
    ++ Symbol.all.map .symbol ++ [.endOfFile, .unknown]

/-- Counted from 0, by the place among all kinds. -/
def ordinal (kind : Kind) : Nat :=
  all.idxOf kind

def ofOrdinal? (ordinal : Nat) : Option Kind :=
  all[ordinal]?

/-- The name that token streams are printed with. -/
def name : Kind → String
  | .keyword .int => "INT"
  | .keyword .float => "FLOAT"
  | .keyword .double => "DOUBLE"
  | .keyword .char => "CHAR"
  | .keyword .if_ => "IF"
  | .keyword .else_ => "ELSE"
  | .keyword .for_ => "FOR"
  | .keyword .while_ => "WHILE"
  | .keyword .return_ => "RETURN"
  | .keyword .printf => "PRINTF"
  | .identifier => "IDENTIFIER"
  | .number => "NUMBER"
  | .string => "STRING"
  | .symbol .plus => "PLUS"
  | .symbol .minus => "MINUS"
  | .symbol .star => "STAR"
  | .symbol .slash => "SLASH"
  | .symbol .percent => "MOD"
  | .symbol .assign => "ASSIGN"
  | .symbol .eq => "EQ"
  | .symbol .ne => "NEQ"
  | .symbol .lt => "LT"
  | .symbol .gt => "GT"
  | .symbol .le => "LTE"
  | .symbol .ge => "GTE"
  | .symbol .and => "AND"
  | .symbol .or => "OR"
  | .symbol .not => "NOT"
  | .symbol .lparen => "LPAREN"
  | .symbol .rparen => "RPAREN"
  | .symbol .lbrace => "LBRACE"
  | .symbol .rbrace => "RBRACE"
  | .symbol .semicolon => "SEMICOLON"
  | .symbol .comma => "COMMA"
  | .endOfFile => "END_OF_FILE"
  | .unknown => "UNKNOWN"

def description : Kind → String
  | .keyword word => "keyword '" ++ word.spelling ++ "'"
  | .identifier => "identifier"
  | .number => "number"
  | .string => "string"
  | .symbol sign => "'" ++ sign.spelling ++ "'"
  | .endOfFile => "end of file"
  | .unknown => "unknown character"

/-! ## Kinds of what is read -/

/-- A word is a reserved word or an identifier. -/
def ofWord (text : String) : Kind :=
  match Keyword.ofSpelling? text with
  | some word => .keyword word
  | none => .identifier

/-- The kind of a character that no other character joins. -/
def ofChar : Char → Kind
  | '+' => .symbol .plus
  | '-' => .symbol .minus
  | '*' => .symbol .star
  | '/' => .symbol .slash
  | '%' => .symbol .percent
  | '=' => .symbol .assign
  | '!' => .symbol .not
  | '<' => .symbol .lt
  | '>' => .symbol .gt
  | '(' => .symbol .lparen
  | ')' => .symbol .rparen
  | '{' => .symbol .lbrace
  | '}' => .symbol .rbrace
  | ';' => .symbol .semicolon
  | ',' => .symbol .comma
  | _ => .unknown

/-- The byte that may join a character behind it, and the kind of the two together. -/
def joined? : Char → Option (UInt8 × Kind)
  | '=' => some ('='.toUInt8, .symbol .eq)
  | '!' => some ('='.toUInt8, .symbol .ne)
  | '<' => some ('='.toUInt8, .symbol .le)
  | '>' => some ('='.toUInt8, .symbol .ge)
  | '&' => some ('&'.toUInt8, .symbol .and)
  | '|' => some ('|'.toUInt8, .symbol .or)
  | _ => none

/-! ## Laws -/

theorem ofOrdinal?_ordinal (kind : Kind) : ofOrdinal? kind.ordinal = some kind := by
  cases kind with
  | keyword word => cases word <;> rfl
  | symbol sign => cases sign <;> rfl
  | _ => rfl

end Kind

theorem Keyword.ofSpelling?_spelling (word : Keyword) :
    Keyword.ofSpelling? word.spelling = some word := by
  cases word <;> decide

end CTokens
