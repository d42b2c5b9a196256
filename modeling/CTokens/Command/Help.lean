/-! # Help

The texts that the command prints about itself: its version, a summary of its options, and
the long form of the summary.
-/

namespace CTokens.Command

def versionText : String := "minicc 0.1.0\n"

def unlines (lines : List String) : String :=
  String.join (lines.map (· ++ "\n"))

def summaryText : String := unlines
  ["Tokenizer for a restricted subset of C",
   "",
   "Usage: minicc [OPTIONS] <INPUT>",
   "",
   "Arguments:",
   "  <INPUT>  Input source file (.c)",
   "",
   "Options:",
   "  -o, --output <OUTPUT>  Write tokens to a file instead of stdout",
   "  -f, --format <FORMAT>  Token output format [default: plain] [possible values: plain, ordinal, lines]",
   "      --strict           Fail when the source contains unrecognized characters",
   "      --color <COLOR>    Diagnostic coloring [default: auto] [possible values: auto, always, never]",
   "  -v, --verbose          Verbose output",
   "  -h, --help             Print help (see more with '--help')",
   "  -V, --version          Print version"]

def helpText : String := unlines
  ["Tokenizer for a restricted subset of C",
   "",
   "Usage: minicc [OPTIONS] <INPUT>",
   "",
   "Arguments:",
   "  <INPUT>",
   "          Input source file (.c)",
   "",
   "Options:",
   "  -o, --output <OUTPUT>",
   "          Write tokens to a file instead of stdout",
   "",
   "  -f, --format <FORMAT>",
   "          Token output format",
   "",
   "          Possible values:",
   "          - plain:   Kind name and lexeme",
   "          - ordinal: Numeric kind and lexeme",
   "          - lines:   Line number, kind name and lexeme",
   "          ",
   "          [default: plain]",
   "",
   "      --strict",
   "          Fail when the source contains unrecognized characters",
   "",
   "      --color <COLOR>",
   "          Diagnostic coloring",
   "          ",
   "          [default: auto]",
   "          [possible values: auto, always, never]",
   "",
   "  -v, --verbose",
   "          Verbose output",
   "",
   "  -h, --help",
   "          Print help (see a summary with '-h')",
   "",
   "  -V, --version",
   "          Print version"]

end CTokens.Command
