import CTokens.Proofs.LineTable
import CTokens.Proofs.Printing
import CTokens.Proofs.WellFormed

/-! # Rows of printed tokens

A printed stream has a row for each token, and a row tells what it is printed from: no name of a
kind and no number has a blank in it, so that the first blank of a row ends what stands before the
text (`readRow?_row`).  Where no text has a newline in it, a whole stream is read back from what is
printed of it (`readRows?_render`, `readPrinted?_printed`).

The rows are the lines of the stream as long as no text has a newline in it, and among the tokens
of a source only literals can have one (`newline_not_mem_text`).  The row of such a literal goes
over several lines, and those behind the first can be the rows of any other tokens.  Streams without
such literals are printed line by line, and those that keep different things are printed
differently (`lines_render_tokenize`).
-/

namespace CTokens

/-! ## Marks in a text -/

namespace Text

/-- A text at the first place where `mark` stands: what is before it, and what is behind it. -/
def cut? (mark : List Char) : List Char → Option (List Char × List Char)
  | [] => none
  | c :: chars =>
    if mark <+: c :: chars then some ([], (c :: chars).drop mark.length)
    else (cut? mark chars).map fun (before, behind) => (c :: before, behind)

/-- It is enough that the mark begins with a character that is not before it. -/
theorem cut?_append {first : Char} {before : List Char} (free : first ∉ before)
    (mark behind : List Char) :
    cut? (first :: mark) (before ++ (first :: (mark ++ behind))) = some (before, behind) := by
  induction before with
  | nil =>
    rw [List.nil_append, cut?, if_pos ⟨behind, rfl⟩, ← List.cons_append, List.drop_left]
  | cons c before ih =>
    obtain ⟨other, free⟩ := List.ne_and_not_mem_of_not_mem_cons free
    have elsewhere : ¬ first :: mark <+: c :: (before ++ (first :: (mark ++ behind))) :=
      fun starts => other (List.cons_prefix_cons.1 starts).1
    rw [List.cons_append, cut?, if_neg elsewhere, ih free, Option.map_some]

theorem lines_append_newline {row : List Char} (free : '\n' ∉ row) (rest : List Char) :
    lines (row ++ '\n' :: rest) = (row ++ ['\n']) :: lines rest := by
  obtain ⟨fronts, own, whole, length, -, -, behind⟩ := exists_lines_append row ('\n' :: rest)
  rw [List.count_eq_zero_of_not_mem free, List.length_eq_zero_iff] at length
  subst length
  have own : own = row := whole.symm
  subst own
  exact behind ['\n'] (lines rest) rfl

end Text

/-! ## Numbers and names -/

theorem not_mem_repr {c : Char} (other : c.isDigit = false) (n : Nat) : c ∉ n.repr.toList := by
  rw [Nat.toList_repr]
  intro member
  rw [Nat.isDigit_of_mem_toDigits (by decide) (by decide) member] at other
  contradiction

def numberOf (digits : List Char) : Nat :=
  Nat.ofDigitChars 10 digits 0

theorem numberOf_repr (n : Nat) : numberOf n.repr.toList = n := by
  rw [numberOf, Nat.toList_repr]
  exact Nat.ofDigitChars_toDigits (by decide) (by decide)

namespace Kind

def ofName? (name : List Char) : Option Kind :=
  all.find? fun kind => kind.name.toList = name

theorem ofName?_name (kind : Kind) : ofName? kind.name.toList = some kind := by
  cases kind with
  | keyword word => cases word <;> decide
  | symbol sign => cases sign <;> decide
  | _ => decide

def ofDigits? (digits : List Char) : Option Kind :=
  ofOrdinal? (numberOf digits)

theorem ofDigits?_repr (kind : Kind) : ofDigits? kind.ordinal.repr.toList = some kind := by
  rw [ofDigits?, numberOf_repr, ofOrdinal?_ordinal]

theorem mem_name {kind : Kind} {c : Char} (member : c ∈ kind.name.toList) :
    c.isUpper = true ∨ c = '_' := by
  have solid : ∀ c ∈ kind.name.toList, (c.isUpper || c = '_') = true := by
    cases kind with
    | keyword word => cases word <;> exact List.all_iff_forall_prop.1 (by decide)
    | symbol sign => cases sign <;> exact List.all_iff_forall_prop.1 (by decide)
    | _ => exact List.all_iff_forall_prop.1 (by decide)
  simpa using solid c member

end Kind

/-! ## Rows -/

namespace Format

def front (format : Format) (token : Token) : List Char :=
  match format with
  | .plain => token.kind.name.toList ++ [' ']
  | .ordinal => token.kind.ordinal.repr.toList ++ [' ']
  | .lines => token.line.toNat.repr.toList ++ ':' :: ' ' :: (token.kind.name.toList ++ [' '])

/-- The row of a token, without the newline that ends it. -/
def row (format : Format) (token : Token) : List Char :=
  format.front token ++ token.text.toList

theorem toList_render_singleton (format : Format) (token : Token) :
    (format.render [token]).toList = format.row token ++ ['\n'] := by
  cases format <;> simp [render, fragments, row, front]

theorem toList_render_cons (format : Format) (token : Token) (tokens : List Token) :
    (format.render (token :: tokens)).toList =
      format.row token ++ '\n' :: (format.render tokens).toList := by
  have apart : format.render (token :: tokens) = format.render [token] ++ format.render tokens := by
    simp [render]
  rw [apart, String.toList_append, toList_render_singleton, List.append_assoc]
  rfl

theorem newline_not_mem_front (format : Format) (token : Token) : '\n' ∉ format.front token := by
  have name : '\n' ∉ token.kind.name.toList := fun member =>
    absurd (Kind.mem_name member) (by decide)
  have number (n : Nat) : '\n' ∉ n.repr.toList := not_mem_repr (by decide) n
  cases format with
  | plain => simp [front, name]
  | ordinal => simpa [front] using number token.kind.ordinal
  | lines => simpa [front, name] using number token.line.toNat

theorem newline_mem_row {format : Format} {token : Token} :
    '\n' ∈ format.row token ↔ '\n' ∈ token.text.toList := by
  rw [row, List.mem_append]
  exact or_iff_right (newline_not_mem_front format token)

/-! ## Rows and lines -/

/-- There is a newline behind each text, apart from those within the texts. -/
theorem count_render (format : Format) (tokens : List Token) :
    (format.render tokens).toList.count '\n' =
      tokens.length + (tokens.flatMap fun token => token.text.toList).count '\n' := by
  induction tokens with
  | nil => rfl
  | cons token tokens ih =>
    have front : (format.front token).count '\n' = 0 :=
      List.count_eq_zero_of_not_mem (newline_not_mem_front format token)
    rw [toList_render_cons, List.count_append, List.count_cons_self, ih, row, List.count_append,
      front, List.length_cons, List.flatMap_cons, List.count_append]
    omega

theorem lines_render {format : Format} {tokens : List Token}
    (free : ∀ token ∈ tokens, '\n' ∉ token.text.toList) :
    Text.lines (format.render tokens).toList =
      tokens.map (fun token => (format.render [token]).toList) ++ [[]] := by
  induction tokens with
  | nil => rfl
  | cons token tokens ih =>
    obtain ⟨first, others⟩ := List.forall_mem_cons.1 free
    rw [toList_render_cons, Text.lines_append_newline (mt newline_mem_row.1 first), ih others,
      List.map_cons, List.cons_append, toList_render_singleton]

theorem lines_render_iff {format : Format} {tokens : List Token} :
    Text.lines (format.render tokens).toList =
        tokens.map (fun token => (format.render [token]).toList) ++ [[]] ↔
      ∀ token ∈ tokens, '\n' ∉ token.text.toList := by
  -- Each newline within a text would make one line too many.
  refine ⟨fun equal => ?_, lines_render⟩
  have size := congrArg List.length equal
  rw [Text.length_lines, count_render, List.length_append, List.length_map,
    List.length_singleton] at size
  have free : (tokens.flatMap fun token => token.text.toList).count '\n' = 0 := by omega
  intro token member newline
  exact List.count_eq_zero.1 free (List.mem_flatMap.2 ⟨token, member, newline⟩)

/-! ## Rows read back -/

/-- What is before the first blank of a row tells the kind, and what is behind it is the text. -/
def readPair? (kind? : List Char → Option Kind) (row : List Char) : Option (Kind × String) :=
  (Text.cut? [' '] row).bind fun (front, text) =>
    (kind? front).map fun kind => (kind, String.ofList text)

theorem readPair?_append {kind? : List Char → Option Kind} {front : List Char} {kind : Kind}
    (free : ' ' ∉ front) (known : kind? front = some kind) (text : String) :
    readPair? kind? (front ++ [' '] ++ text.toList) = some (kind, text) := by
  have found := Text.cut?_append free [] text.toList
  rw [readPair?, List.append_assoc]
  simp only [List.nil_append] at found
  simp only [List.singleton_append, found, Option.bind_some, known, Option.map_some,
    String.ofList_toList]

/-- What is kept of a token in its row; only one format keeps the line. -/
def kept (format : Format) (token : Token) : Option UInt32 × Kind × String :=
  (if format = .lines then some token.line else none, token.pair)

def readRow? (format : Format) (row : List Char) : Option (Option UInt32 × Kind × String) :=
  match format with
  | .plain => (readPair? Kind.ofName? row).map fun pair => (none, pair)
  | .ordinal => (readPair? Kind.ofDigits? row).map fun pair => (none, pair)
  | .lines =>
    (Text.cut? [':', ' '] row).bind fun (digits, row) =>
      (readPair? Kind.ofName? row).map fun pair => (some (UInt32.ofNat (numberOf digits)), pair)

theorem readRow?_row (format : Format) (token : Token) :
    format.readRow? (format.row token) = some (format.kept token) := by
  have blank : ' ' ∉ token.kind.name.toList := fun member =>
    absurd (Kind.mem_name member) (by decide)
  have named := readPair?_append blank token.kind.ofName?_name token.text
  cases format with
  | plain =>
    rw [readRow?, row, front, named]
    rfl
  | ordinal =>
    have digits : ' ' ∉ token.kind.ordinal.repr.toList := not_mem_repr (by decide) _
    rw [readRow?, row, front, readPair?_append digits token.kind.ofDigits?_repr token.text]
    rfl
  | lines =>
    -- The first colon of the row is the one behind the line, for digits hold none.
    have digits : ':' ∉ token.line.toNat.repr.toList := not_mem_repr (by decide) _
    have parted : Format.lines.row token = token.line.toNat.repr.toList ++
        (':' :: ([' '] ++ (token.kind.name.toList ++ [' '] ++ token.text.toList))) := by
      simp only [row, front, List.append_assoc, List.cons_append, List.nil_append]
    rw [readRow?, parted, Text.cut?_append digits]
    simp only [Option.bind_some, named, Option.map_some, numberOf_repr, UInt32.ofNat_toNat]
    rfl

theorem row_eq_iff {format : Format} {token other : Token} :
    format.row token = format.row other ↔ format.kept token = format.kept other := by
  constructor
  · intro equal
    have read := congrArg format.readRow? equal
    rw [readRow?_row, readRow?_row] at read
    exact Option.some.inj read
  · intro equal
    cases format <;> simp [kept, Token.pair] at equal <;> simp [row, front, equal]

theorem render_eq_of_kept_eq {format : Format} {tokens others : List Token}
    (same : tokens.map format.kept = others.map format.kept) :
    format.render tokens = format.render others := by
  induction tokens generalizing others with
  | nil =>
    rw [List.map_eq_nil_iff.1 same.symm]
  | cons token tokens ih =>
    cases others with
    | nil => cases same
    | cons other others =>
      obtain ⟨first, rest⟩ := List.cons.inj same
      rw [← String.toList_inj, toList_render_cons, toList_render_cons, row_eq_iff.2 first, ih rest]

/-! ## Streams read back -/

/-- Reads a printed stream: its rows are what stands between the newlines, and behind the last
    newline there is nothing. -/
def readRows? (format : Format) (printed : String) :
    Option (List (Option UInt32 × Kind × String)) :=
  let rows := printed.toList.splitOn '\n'
  if rows.getLast? = some [] then rows.dropLast.mapM format.readRow? else none

theorem splitOn_render {format : Format} {tokens : List Token}
    (free : ∀ token ∈ tokens, '\n' ∉ token.text.toList) :
    (format.render tokens).toList.splitOn '\n' = tokens.map format.row ++ [[]] := by
  induction tokens with
  | nil => rfl
  | cons token tokens ih =>
    obtain ⟨first, others⟩ := List.forall_mem_cons.1 free
    have solid : ∀ c ∈ format.row token, (c == '\n') = false := by
      intro c member
      simpa using ne_of_mem_of_not_mem member (mt newline_mem_row.1 first)
    rw [List.splitOn] at ih ⊢
    rw [toList_render_cons, List.splitOnP_append_cons_of_forall_mem solid _ (by simp), ih others]
    rfl

theorem readRows?_render {format : Format} {tokens : List Token}
    (free : ∀ token ∈ tokens, '\n' ∉ token.text.toList) :
    format.readRows? (format.render tokens) = some (tokens.map format.kept) := by
  simp only [readRows?, splitOn_render free, List.getLast?_concat, if_true, List.dropLast_concat,
    List.mapM_map, Function.comp_def, readRow?_row]
  exact List.mapM_pure

theorem kept_eq_of_render_eq {format : Format} {tokens others : List Token}
    (free : ∀ token ∈ tokens, '\n' ∉ token.text.toList)
    (free' : ∀ token ∈ others, '\n' ∉ token.text.toList)
    (same : format.render tokens = format.render others) :
    tokens.map format.kept = others.map format.kept := by
  have read : format.readRows? (format.render tokens) = _ := readRows?_render free
  rw [same, readRows?_render free'] at read
  exact (Option.some.inj read).symm

theorem map_kept_lines {tokens others : List Token} :
    tokens.map lines.kept = others.map lines.kept ↔ tokens = others := by
  refine List.map_inj_right ?_
  rintro ⟨kind, text, line⟩ ⟨_, _, _⟩ same
  cases same
  rfl

theorem map_kept {format : Format} (unnumbered : format ≠ .lines) {tokens others : List Token} :
    tokens.map format.kept = others.map format.kept ↔
      tokens.map Token.pair = others.map Token.pair := by
  have split (tokens : List Token) :
      tokens.map format.kept = (tokens.map Token.pair).map (Prod.mk none) := by
    simp [kept, unnumbered]
  rw [split, split]
  exact List.map_inj_right fun _ _ same => (Prod.mk.inj same).2

/-- The bytes that a stream is printed as, where there is room for all of them. -/
def printed (format : Format) (tokens : List Token) : List UInt8 :=
  (format.renderTo tokens (.empty none)).2.held.data.toList

theorem printed_eq (format : Format) (tokens : List Token) :
    format.printed tokens = Utf8.encode (format.render tokens) :=
  (format.toList_held_renderTo tokens (.empty none)).trans (List.nil_append _)

theorem printed_eq_iff {format : Format} {tokens others : List Token}
    (free : ∀ token ∈ tokens, '\n' ∉ token.text.toList)
    (free' : ∀ token ∈ others, '\n' ∉ token.text.toList) :
    format.printed tokens = format.printed others ↔
      tokens.map format.kept = others.map format.kept := by
  rw [printed_eq, printed_eq]
  constructor
  · intro same
    have decoded := congrArg Utf8.decode? same
    rw [Utf8.decode?_encode, Utf8.decode?_encode] at decoded
    exact kept_eq_of_render_eq free free' (Option.some.inj decoded)
  · intro same
    rw [render_eq_of_kept_eq same]

def readPrinted? (format : Format) (bytes : List UInt8) :
    Option (List (Option UInt32 × Kind × String)) :=
  (Utf8.decode? bytes).bind format.readRows?

/-- A stream with no newline in its texts is read back from what is printed of it, whatever else
    the texts are: the kinds and the texts in each format, and the lines where they are printed.
    So such streams are printed the same only if they have the same kinds and texts, and, where
    lines are printed, only if they are the same. -/
theorem readPrinted?_printed {tokens : List Token}
    (free : ∀ token ∈ tokens, '\n' ∉ token.text.toList) :
    Format.plain.readPrinted? (Format.plain.printed tokens) =
      some (tokens.map fun token => (none, token.kind, token.text)) ∧
    Format.ordinal.readPrinted? (Format.ordinal.printed tokens) =
      some (tokens.map fun token => (none, token.kind, token.text)) ∧
    Format.lines.readPrinted? (Format.lines.printed tokens) =
      some (tokens.map fun token => (some token.line, token.kind, token.text)) ∧
    ∀ others : List Token, (∀ token ∈ others, '\n' ∉ token.text.toList) →
      (Format.plain.printed tokens = Format.plain.printed others ↔
        tokens.map Token.pair = others.map Token.pair) ∧
      (Format.ordinal.printed tokens = Format.ordinal.printed others ↔
        tokens.map Token.pair = others.map Token.pair) ∧
      (Format.lines.printed tokens = Format.lines.printed others ↔ tokens = others) := by
  have back (format : Format) :
      format.readPrinted? (format.printed tokens) = some (tokens.map format.kept) := by
    rw [readPrinted?, printed_eq, Utf8.decode?_encode, Option.bind_some, readRows?_render free]
  refine ⟨back .plain, back .ordinal, back .lines, fun others free' => ⟨?_, ?_, ?_⟩⟩
  · rw [printed_eq_iff free free', map_kept (by decide)]
  · rw [printed_eq_iff free free', map_kept (by decide)]
  · rw [printed_eq_iff free free', map_kept_lines]

/-- The texts hold blanks, digits and what else stands before a text, one of them is empty, and a
    token that closes a stream comes first. -/
theorem readPrinted?_printed_of_odd_texts :
    let tokens : List Token :=
      [{ kind := .endOfFile, text := "", line := 0 },
       { kind := .unknown, text := "  1: PLUS +", line := 4294967295 },
       { kind := .string, text := ": 13 ", line := 7 }]
    (∀ token ∈ tokens, '\n' ∉ token.text.toList) ∧
    Format.ordinal.printed tokens =
      Utf8.encode "34 \n35   1: PLUS +\n12 : 13 \n" ∧
    Format.ordinal.readPrinted? (Format.ordinal.printed tokens) =
      some [(none, .endOfFile, ""), (none, .unknown, "  1: PLUS +"), (none, .string, ": 13 ")] ∧
    Format.lines.readPrinted? (Format.lines.printed tokens) =
      some [(some 0, .endOfFile, ""), (some 4294967295, .unknown, "  1: PLUS +"),
        (some 7, .string, ": 13 ")] := by
  intro tokens
  have free : ∀ token ∈ tokens, '\n' ∉ token.text.toList := by decide
  obtain ⟨-, ordinal, lines, -⟩ := readPrinted?_printed free
  exact ⟨free, by rw [printed_eq]; rfl, ordinal, lines⟩

end Format

/-! ## Rows of a source -/

theorem Admits.newline_not_mem {kind : Kind} {text : List Char} (admits : Admits kind text)
    (plain : kind ≠ .string) : '\n' ∉ text := by
  intro member
  cases admits with
  | keyword word => cases word <;> exact absurd member (by decide)
  | identifier start rest free =>
    rcases List.mem_cons.1 member with rfl | member
    · exact absurd start (by decide)
    · exact absurd (rest _ member) (by decide)
  | number nonempty all => exact absurd (all _ member) (by decide)
  | string free => contradiction
  | symbol sign => cases sign <;> exact absurd member (by decide)
  | unknown stray =>
    rw [List.mem_singleton] at member
    subst member
    exact absurd stray (by decide)

/-- No literal of the source goes over several lines. -/
def OneLine (source : String) : Prop :=
  ∀ token ∈ tokenize source, token.kind = .string → '\n' ∉ token.text.toList

theorem newline_not_mem_text {source : String} (literals : OneLine source) :
    ∀ token ∈ tokenize source, '\n' ∉ token.text.toList := by
  intro token member
  by_cases literal : token.kind = .string
  · exact literals token member literal
  · rcases List.mem_append.1 member with lexeme | last
    · exact (admits_of_mem lexeme).newline_not_mem literal
    · rw [List.mem_singleton.1 last]
      exact List.not_mem_nil

/-- A source is printed on as many lines as it has tokens, and one more for each newline within
    the text of a token.  If no literal goes over several lines, and only then, the lines are the
    rows of the tokens; and sources without such literals are printed the same exactly if their
    tokens have the same kinds and texts, and, where lines are printed, the same lines. -/
theorem lines_render_tokenize (format : Format) (source : String) :
    (Text.lines (format.render (tokenize source)).toList).length =
      (tokenize source).length +
        ((tokenize source).flatMap fun token => token.text.toList).count '\n' + 1 ∧
    (Text.lines (format.render (tokenize source)).toList =
        (tokenize source).map (fun token => (format.render [token]).toList) ++ [[]] ↔
      OneLine source) ∧
    ∀ other, OneLine source → OneLine other →
      (format.render (tokenize source) = format.render (tokenize other) ↔
        (tokenize source).map format.kept = (tokenize other).map format.kept) := by
  refine ⟨?_, ?_, ?_⟩
  · rw [Text.length_lines, Format.count_render]
  · rw [Format.lines_render_iff]
    exact ⟨fun free token member _ => free token member, newline_not_mem_text⟩
  · intro other here there
    exact ⟨Format.kept_eq_of_render_eq (newline_not_mem_text here) (newline_not_mem_text there),
      Format.render_eq_of_kept_eq⟩

/-- The row of a literal over two lines is two lines, and the second of them is the row of another
    token: what is behind the newline need only be written like one. -/
theorem lines_render_literal :
    (tokenize "\"a\nb\"").length = 2 ∧
    Text.lines (Format.plain.render (tokenize "\"a\nb\"")).toList =
      ["STRING a\n".toList, "b\n".toList, "END_OF_FILE \n".toList, []] ∧
    (pairs "\"a\nPLUS +\"" ≠ pairs "\"a\" +\n" ∧
      Format.plain.render (tokenize "\"a\nPLUS +\"") =
        Format.plain.render (tokenize "\"a\" +\n")) ∧
    (pairs "\"a\n13 +\"" ≠ pairs "\"a\" +\n" ∧
      Format.ordinal.render (tokenize "\"a\n13 +\"") =
        Format.ordinal.render (tokenize "\"a\" +\n")) ∧
    (pairs "\"a\n1: PLUS +\"" ≠ pairs "\"a\" +\n" ∧
      Format.lines.render (tokenize "\"a\n1: PLUS +\"") =
        Format.lines.render (tokenize "\"a\" +\n")) := by
  have short : tokenize "\"a\nb\"" =
      [{ kind := .string, text := "a\nb", line := 1 }, .endOfFile 2] :=
    (tokenize_of_steps (.step rfl .refl) rfl).trans rfl
  have plain : tokenize "\"a\nPLUS +\"" =
      [{ kind := .string, text := "a\nPLUS +", line := 1 }, .endOfFile 2] :=
    (tokenize_of_steps (.step rfl .refl) rfl).trans rfl
  have ordinal : tokenize "\"a\n13 +\"" =
      [{ kind := .string, text := "a\n13 +", line := 1 }, .endOfFile 2] :=
    (tokenize_of_steps (.step rfl .refl) rfl).trans rfl
  have lines : tokenize "\"a\n1: PLUS +\"" =
      [{ kind := .string, text := "a\n1: PLUS +", line := 1 }, .endOfFile 2] :=
    (tokenize_of_steps (.step rfl .refl) rfl).trans rfl
  have other : tokenize "\"a\" +\n" =
      [{ kind := .string, text := "a", line := 1 },
       { kind := .symbol .plus, text := "+", line := 1 }, .endOfFile 2] :=
    (tokenize_of_steps (.step rfl (.step rfl (.step rfl (.step rfl .refl)))) rfl).trans rfl
  rw [pairs, pairs, pairs, pairs, short, plain, ordinal, lines, other]
  decide

end CTokens
