import CTokens.Lexed
import CTokens.Log.Event
import CTokens.Text.Quote

/-! # What is told

The events of a run: the source has been read, it is being cut into tokens, it has been cut,
all is done.  Lengths are in bytes.
-/

namespace CTokens.Log

def tokenizing : Activity :=
  { level := .debug, target := "minicc::lexer::scanner", name := "tokenize" }

def sourceRead (name text : String) : Event :=
  { level := .debug
    activity := none
    target := "minicc::driver"
    message := "read source"
    fields := [⟨"file", name⟩, ⟨"bytes", text.utf8ByteSize.repr⟩] }

def scanning (level : Level) (message : String) (fields : List Field) : Event :=
  { level := level
    activity := some tokenizing
    target := tokenizing.target
    message := message
    fields := fields }

def unknownFound (token : Token) : Event :=
  scanning .trace "unrecognized character"
    [⟨"line", token.line.toNat.repr⟩, ⟨"text", Text.quote token.text⟩]

/-- What is told while a text is read. -/
def lexing (text : String) (lexed : Lexed) : List Event :=
  [scanning .debug "scanning" [⟨"len", text.utf8ByteSize.repr⟩]]
    ++ (lexed.tokens.filter Token.isUnknown).map unknownFound
    ++ [scanning .debug "tokenized" [⟨"count", lexed.tokens.length.repr⟩],
        { level := .debug
          activity := none
          target := "minicc::driver"
          message := "lexed source"
          fields := [⟨"tokens", lexed.tokens.length.repr⟩,
            ⟨"unknown", lexed.unknown.length.repr⟩] }]

def finished (input : String) : Event :=
  { level := .debug
    activity := none
    target := "minicc"
    message := "done"
    fields := [⟨"input", input⟩] }

end CTokens.Log
