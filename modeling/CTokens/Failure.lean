import CTokens.Token.Basic

/-! # What can go wrong

A `FileError` is why a file could not be read, made or written.  A `Failure` is what a
run of the tokenizer reports: an unknown character on a line, a count of unknown tokens in
a file, or a `FileError`.  Each has one wording.
-/

namespace CTokens

inductive FileError
  | notFound
  | isDirectory
  | notDirectory
  | nameTooLong  -- a name of more than 255 bytes, or a path of more than 4095
  | nulInName
  | writeRefused  -- no more bytes are taken
  | other (text : String)  -- in words
  deriving DecidableEq, Repr

def FileError.message : FileError → String
  | .notFound => "No such file or directory (os error 2)"
  | .isDirectory => "Is a directory (os error 21)"
  | .notDirectory => "Not a directory (os error 20)"
  | .nameTooLong => "File name too long (os error 36)"
  | .nulInName => "file name contained an unexpected NUL byte"
  | .writeRefused => "failed to write whole buffer"
  | .other text => text

inductive Failure
  | onLine (message : String) (line : UInt32)
  | unknownTokens (name : String) (count : Nat)
  | file (error : FileError)
  deriving DecidableEq, Repr

namespace Failure

/-- The failure in one line.  What is behind a file error is said by `detail?`. -/
def message : Failure → String
  | .onLine message line => "Lexer error on line " ++ line.toNat.repr ++ ": " ++ message
  | .unknownTokens name count => count.repr ++ " unrecognized token(s) in " ++ name
  | .file _ => "IO error"

def detail? : Failure → Option String
  | .file error => some error.message
  | _ => none

def fullMessage (failure : Failure) : String :=
  match failure.detail? with
  | some detail => failure.message ++ ": " ++ detail
  | none => failure.message

end Failure

end CTokens
