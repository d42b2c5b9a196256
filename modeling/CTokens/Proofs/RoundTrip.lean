import CTokens.Proofs.Runs

/-! # Written lexemes are read back

Lexemes that are written down with something between them are read back, one by one and
nothing else.  What stands between them begins with a blank, and goes on with blanks, comments
and directives as it likes (`Separator`).

The proof finds the parts of what was written (`Yields`), from its end on: in front of
anything, what is skipped adds nothing, and in front of a blank a lexeme adds itself.  The
blank is needed, for it is the one character that no lexeme goes on with (`continues_of_space`).
-/

namespace CTokens

open Utf8

/-! ## What is written -/

/-- A token that a source can hold, wherever it stands. -/
structure Lexeme where
  kind : Kind
  text : String
  admits : Admits kind text.toList

/-- What makes no token.  A line comment and a directive are closed by a newline. -/
inductive Trivia
  | blank (c : Char) (space : isSpace c = true)
  | blockComment (body : List Char) (inner : ¬ closer <:+: body)
  | lineComment (body : List Char) (line : '\n' ∉ body)
  | directive (body : List Char) (line : '\n' ∉ body)

def Trivia.chars : Trivia → List Char
  | .blank c _ => [c]
  | .blockComment body _ => '/' :: '*' :: (body ++ closer)
  | .lineComment body _ => '/' :: '/' :: (body ++ ['\n'])
  | .directive body _ => '#' :: (body ++ ['\n'])

structure Separator where
  first : Char
  space : isSpace first = true
  others : List Trivia

def Separator.chars (separator : Separator) : List Char :=
  separator.first :: separator.others.flatMap Trivia.chars

def Separator.blank : Separator :=
  { first := ' ', space := rfl, others := [] }

def gap : Option Separator → List Char
  | none => []
  | some separator => separator.chars

def Lexeme.chars (lexeme : Lexeme) : List Char :=
  written lexeme.kind lexeme.text.toList

/-- The lexemes, each but the last with a separator of its own behind it. -/
def write (separators : Nat → Separator) : List Lexeme → List Char
  | [] => []
  | [lexeme] => lexeme.chars
  | lexeme :: next :: lexemes =>
    lexeme.chars ++ (separators 0).chars ++ write (fun n => separators (n + 1)) (next :: lexemes)

/-! ## What is read -/

def Token.pair (token : Token) : Kind × String :=
  (token.kind, token.text)

def Lexeme.pair (lexeme : Lexeme) : Kind × String :=
  (lexeme.kind, lexeme.text)

def pairs (text : String) : List (Kind × String) :=
  (tokenize text).map Token.pair

/-- A kind and a text as they stand in a source. -/
def spell (pair : Kind × String) : String :=
  String.ofList (written pair.1 pair.2.toList)

def Token.written (token : Token) : String :=
  spell token.pair

def Part.pair? (part : Part) : Option (Kind × String) :=
  match part.form with
  | .lexeme kind text => some (kind, String.ofList text)
  | _ => none

/-- The characters fall into parts, and those of them that are lexemes are these. -/
def Yields (chars : List Char) (read : List (Kind × String)) : Prop :=
  ∃ parts, Parts chars parts ∧ parts.filterMap Part.pair? = read

theorem pair_tokensFrom (line : UInt32) (parts : List Part) :
    (tokensFrom line parts).map Token.pair =
      parts.filterMap Part.pair? ++ [(.endOfFile, "")] := by
  induction parts generalizing line with
  | nil => rfl
  | cons part parts ih =>
    obtain ⟨form, own⟩ := part
    rw [tokensFrom, List.map_append, ih]
    cases form <;> rfl

theorem pairs_of_yields {text : String} {read : List (Kind × String)}
    (yields : Yields text.toList read) : pairs text = read ++ [(.endOfFile, "")] := by
  obtain ⟨parts, falls, rfl⟩ := yields
  rw [pairs, tokenize_of_parts falls, pair_tokensFrom]

/-! ## In front of what is read already -/

section Yields

variable {rest own text : List Char} {form : Form} {kind : Kind} {read : List (Kind × String)}

theorem Yields.skipped (tail : Yields rest read) (reads : Reads form own rest)
    (unpaired : Part.pair? { form := form, own := own } = none) : Yields (own ++ rest) read := by
  obtain ⟨parts, falls, rfl⟩ := tail
  refine ⟨_, .cons reads falls, ?_⟩
  rw [List.filterMap_cons_none unpaired]

theorem Yields.lexeme (tail : Yields rest read) (reads : Reads (.lexeme kind text) own rest) :
    Yields (own ++ rest) ((kind, String.ofList text) :: read) := by
  obtain ⟨parts, falls, rfl⟩ := tail
  exact ⟨_, .cons reads falls, rfl⟩

theorem Yields.trivia (tail : Yields rest read) (trivia : Trivia) :
    Yields (trivia.chars ++ rest) read := by
  -- The newline behind a line comment or a directive is a blank of its own.
  have newline : Yields ('\n' :: rest) read := tail.skipped (.blank (c := '\n') rfl) rfl
  have stops : Stops (· ≠ '\n') ('\n' :: rest) := by simp [Stops]
  cases trivia with
  | blank c space => exact tail.skipped (.blank space) rfl
  | blockComment body inner => exact tail.skipped (.blockComment inner) rfl
  | lineComment body line =>
    have read := newline.skipped (.lineComment line stops) rfl
    simpa [Trivia.chars] using read
  | directive body line =>
    have read := newline.skipped (.directive line stops) rfl
    simpa [Trivia.chars] using read

theorem Yields.separator (tail : Yields rest read) (separator : Separator) :
    Yields (separator.chars ++ rest) read := by
  have others : Yields (separator.others.flatMap Trivia.chars ++ rest) read := by
    induction separator.others with
    | nil => exact tail
    | cons trivia others ih =>
      rw [List.flatMap_cons, List.append_assoc]
      exact ih.trivia trivia
  exact others.skipped (.blank separator.space) rfl

theorem Yields.gap (tail : Yields rest read) (separator : Option Separator) :
    Yields (gap separator ++ rest) read := by
  cases separator with
  | none => exact tail
  | some separator => exact tail.separator separator

end Yields

/-! ## A blank ends every lexeme -/

theorem inWord_of_isSpace {c : Char} (space : isSpace c = true) : inWord c = false := by
  rw [Bool.eq_false_iff]
  intro word
  have := (startsLexeme_of_inWord word []).space
  simp [space] at this

theorem not_isSpelling_of_space {c : Char} (space : isSpace c = true) (chars : List Char) :
    isSpelling (chars ++ [c]) = false := by
  rw [Bool.eq_false_iff, ne_eq, isSpelling_eq_true]
  rintro ⟨sign, spells⟩
  have solid : ∀ d ∈ sign.spelling.toList, isSpace d = false := by
    cases sign <;> exact List.all_iff_forall_prop.1 (by decide)
  have := solid c (by simp [spells])
  simp [space] at this

theorem not_opensComment_of_space {c : Char} (space : isSpace c = true) (chars : List Char) :
    opensComment (chars ++ [c]) = false := by
  have last : ∀ front d, isSpace d = false → chars ++ [c] ≠ [front, d] := by
    intro front d solid equal
    have same : c = d := by simpa using congrArg List.getLast? equal
    rw [same, solid] at space
    contradiction
  simp [opensComment, last '/' '/' rfl, last '/' '*' rfl]

theorem continues_of_space {c : Char} (space : isSpace c = true) (kind : Kind) (text : List Char) :
    continues kind text c = false := by
  have word := inWord_of_isSpace space
  have digit : c.isDigit = false := by
    rw [Bool.eq_false_iff]
    intro digit
    simp [inWord_of_isDigit digit] at word
  cases kind with
  | keyword | identifier => exact word
  | number => exact digit
  | string | endOfFile => rfl
  | symbol | unknown =>
    simp [continues, not_isSpelling_of_space space, not_opensComment_of_space space]

theorem stops_of_blank {kind : Kind} {text rest : List Char}
    (blank : Stops (fun c => !isSpace c) rest) : Stops (continues kind text) rest := by
  intro c next
  exact continues_of_space (by simpa using blank c next) ..

section Written

variable {rest : List Char} {read : List (Kind × String)}

theorem Yields.chars (tail : Yields rest read) (blank : Stops (fun c => !isSpace c) rest)
    (lexeme : Lexeme) : Yields (lexeme.chars ++ rest) (lexeme.pair :: read) := by
  have more := tail.lexeme (.lexeme lexeme.admits (stops_of_blank blank))
  rwa [String.ofList_toList] at more

theorem Yields.write (tail : Yields rest read) (blank : Stops (fun c => !isSpace c) rest)
    (separators : Nat → Separator) (lexemes : List Lexeme) :
    Yields (write separators lexemes ++ rest) (lexemes.map Lexeme.pair ++ read) := by
  induction lexemes generalizing separators with
  | nil => exact tail
  | cons lexeme lexemes ih =>
    cases lexemes with
    | nil => exact tail.chars blank lexeme
    | cons next lexemes =>
      -- Behind this lexeme stands a separator, so again a blank.
      have others := (ih fun n => separators (n + 1)).separator (separators 0)
      have apart : Stops (fun c => !isSpace c) ((separators 0).chars ++
          (CTokens.write (fun n => separators (n + 1)) (next :: lexemes) ++ rest)) := by
        simp [Stops, Separator.chars, (separators 0).space]
      have all := others.chars apart lexeme
      simpa [CTokens.write] using all

end Written

/-! ## Back and forth -/

theorem pairs_write (lead trail : Option Separator) (separators : Nat → Separator)
    (lexemes : List Lexeme) :
    pairs (String.ofList (gap lead ++ write separators lexemes ++ gap trail)) =
      lexemes.map Lexeme.pair ++ [(.endOfFile, "")] := by
  apply pairs_of_yields
  have ends : Yields (gap trail) [] := by
    have empty : Yields [] [] := ⟨[], .nil, rfl⟩
    simpa using empty.gap trail
  have blank : Stops (fun c => !isSpace c) (gap trail) := by
    cases trail with
    | none => simp [Stops, gap]
    | some separator => simp [Stops, gap, Separator.chars, separator.space]
  have all := (ends.write blank separators lexemes).gap lead
  simpa using all

/-- Whatever a source is, its parts make lexemes that can be written. -/
theorem Parts.exists_lexemes {chars : List Char} {parts : List Part} (falls : Parts chars parts) :
    ∃ lexemes : List Lexeme, parts.filterMap Part.pair? = lexemes.map Lexeme.pair := by
  induction falls with
  | nil => exact ⟨[], rfl⟩
  | @cons form own rest parts reads tail ih =>
    obtain ⟨lexemes, equal⟩ := ih
    cases form with
    | lexeme kind text =>
      refine ⟨{ kind := kind
                text := String.ofList text
                admits := by rw [String.toList_ofList]; exact reads.admits } :: lexemes, ?_⟩
      rw [List.map_cons, ← equal]
      rfl
    | blank | directive | lineComment | blockComment => exact ⟨lexemes, equal⟩

theorem write_blank (lexemes : List Lexeme) :
    String.ofList (write (fun _ => .blank) lexemes) =
      " ".intercalate (lexemes.map fun lexeme => spell lexeme.pair) := by
  induction lexemes with
  | nil => simp [write]
  | cons lexeme lexemes ih =>
    cases lexemes with
    | nil => simp [write, spell, Lexeme.chars, Lexeme.pair]
    | cons next lexemes =>
      rw [write, String.ofList_append, ih, List.map_cons, List.map_cons, List.map_cons,
        String.intercalate_cons_cons, String.ofList_append]
      rfl

theorem written_tokenize {text : String} {lexemes : List Lexeme}
    (read : pairs text = lexemes.map Lexeme.pair ++ [(.endOfFile, "")]) :
    ((tokenize text).filter fun token => !token.isEndOfFile).map Token.written =
      lexemes.map fun lexeme => spell lexeme.pair := by
  -- What is kept and what is written are both told by the pair of a token.
  have kept : (pairs text).filter (fun pair => !decide (pair.1 = .endOfFile)) =
      lexemes.map Lexeme.pair := by
    rw [read, List.filter_append, List.filter_eq_self.2]
    · simp
    · intro pair member
      obtain ⟨lexeme, -, rfl⟩ := List.mem_map.1 member
      have inner : lexeme.pair.1 ≠ .endOfFile := lexeme.admits.kind_ne_endOfFile
      simpa using inner
  rw [pairs, List.filter_map] at kept
  have spelled := congrArg (List.map spell) kept
  rwa [List.map_map, List.map_map] at spelled

/-- Lexemes are read back from what they are written as, and nothing else is; so the tokens of
    any source are read back when they are written with single blanks between them. -/
theorem tokenize_write :
    (∀ (lead trail : Option Separator) (separators : Nat → Separator) (lexemes : List Lexeme),
      pairs (String.ofList (gap lead ++ write separators lexemes ++ gap trail)) =
        lexemes.map Lexeme.pair ++ [(.endOfFile, "")]) ∧
    ∀ text, pairs (" ".intercalate
      (((tokenize text).filter fun token => !token.isEndOfFile).map Token.written)) =
        pairs text := by
  refine ⟨pairs_write, ?_⟩
  intro text
  obtain ⟨parts, falls⟩ := exists_parts text.toList
  obtain ⟨lexemes, equal⟩ := falls.exists_lexemes
  have read := pairs_of_yields ⟨parts, falls, equal⟩
  have back := pairs_write none none (fun _ => .blank) lexemes
  rw [gap, List.nil_append, List.append_nil, write_blank] at back
  rw [written_tokenize read, back, read]

end CTokens
