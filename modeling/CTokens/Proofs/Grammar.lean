import CTokens.Token.Kind
import Mathlib.Data.Bool.AllAny

/-! # The grammar of segments

What the segments of a source are, said of its characters and without a scanner.  `Admits`
is the lexical language of each kind of token, `written` puts the text of a token back into
the form that stands in a source, and `continues` tells the characters that may not follow
it.  `Reads` joins them: in front of certain characters, certain others are one segment.

The grammar is total (`exists_reads`): whatever a source goes on with, it goes on with a
segment.  The case that is not a mere look at the next characters is that of the symbols,
where the longer of two spellings is taken, and a character that spells none is unknown.
-/

namespace CTokens

/-! ## Classes of characters -/

/-- The blanks of C. -/
def isSpace (c : Char) : Bool :=
  [' ', '\t', '\n', '\r', '\x0B', '\x0C'].contains c

def startsWord (c : Char) : Bool :=
  c.isAlpha || c = '_'

def inWord (c : Char) : Bool :=
  c.isAlphanum || c = '_'

def isSpelling (chars : List Char) : Bool :=
  Symbol.all.any fun sign => sign.spelling.toList = chars

def inSymbol (c : Char) : Bool :=
  Symbol.all.any fun sign => sign.spelling.toList.contains c

def opensComment (chars : List Char) : Bool :=
  chars = ['/', '/'] || chars = ['/', '*']

/-- Makes a token of kind `unknown` if it stands alone. -/
def isStray (c : Char) : Bool :=
  c = '&' || c = '|' ||
    !(c.isAlpha || c.isDigit || c = '_' || c = '"' || c = '#' || isSpace c || inSymbol c)

/-! ## Lexemes -/

/-- The texts of each kind of token but the last one of a stream. -/
inductive Admits : Kind → List Char → Prop
  | keyword (word : Keyword) : Admits (.keyword word) word.spelling.toList
  | identifier {c : Char} {chars : List Char} (start : startsWord c = true)
      (rest : ∀ d ∈ chars, inWord d = true)
      (free : ∀ word : Keyword, word.spelling.toList ≠ c :: chars) :
      Admits .identifier (c :: chars)
  | number {digits : List Char} (nonempty : digits ≠ []) (all : ∀ d ∈ digits, d.isDigit = true) :
      Admits .number digits
  | string {text : List Char} (free : '"' ∉ text) : Admits .string text
  | symbol (sign : Symbol) : Admits (.symbol sign) sign.spelling.toList
  | unknown {c : Char} (stray : isStray c = true) : Admits .unknown [c]

def written (kind : Kind) (text : List Char) : List Char :=
  if kind = .string then '"' :: (text ++ ['"']) else text

/-- The character, right behind the lexeme, would not be left to the next one. -/
def continues (kind : Kind) (text : List Char) (c : Char) : Bool :=
  match kind with
  | .keyword _ | .identifier => inWord c
  | .number => c.isDigit
  | .symbol _ | .unknown => isSpelling (text ++ [c]) || opensComment (text ++ [c])
  | .string | .endOfFile => false

/-! ## Segments -/

inductive Form
  | blank
  | directive
  | lineComment
  | blockComment
  | lexeme (kind : Kind) (text : List Char)
  deriving DecidableEq

/-- The test does not accept what comes next. -/
def Stops (q : Char → Bool) (rest : List Char) : Prop :=
  ∀ c ∈ rest.head?, q c = false

def closer : List Char :=
  ['*', '/']

/-- `Reads form own rest`: in front of `rest`, the characters `own` are a segment. -/
inductive Reads : Form → List Char → List Char → Prop
  | blank {c : Char} {rest : List Char} (space : isSpace c = true) : Reads .blank [c] rest
  | directive {body rest : List Char} (line : '\n' ∉ body) (stops : Stops (· ≠ '\n') rest) :
      Reads .directive ('#' :: body) rest
  | lineComment {body rest : List Char} (line : '\n' ∉ body) (stops : Stops (· ≠ '\n') rest) :
      Reads .lineComment ('/' :: '/' :: body) rest
  | blockComment {body rest : List Char} (inner : ¬ closer <:+: body) :
      Reads .blockComment ('/' :: '*' :: (body ++ closer)) rest
  | openComment {body : List Char} (inner : ¬ closer <:+: body) :
      Reads .blockComment ('/' :: '*' :: body) []
  | lexeme {kind : Kind} {text rest : List Char} (admits : Admits kind text)
      (stops : Stops (continues kind text) rest) : Reads (.lexeme kind text) (written kind text) rest
  | openString {text : List Char} (free : '"' ∉ text) :
      Reads (.lexeme .string text) ('"' :: text) []

/-! ## Laws of the classes -/

theorem isSpelling_eq_true {chars : List Char} :
    isSpelling chars = true ↔ ∃ sign : Symbol, sign.spelling.toList = chars := by
  simp only [isSpelling, List.any_eq_true, decide_eq_true_eq]
  constructor
  · rintro ⟨sign, -, spells⟩
    exact ⟨sign, spells⟩
  · rintro ⟨sign, spells⟩
    exact ⟨sign, by cases sign <;> decide, spells⟩

theorem length_spelling_le (sign : Symbol) : sign.spelling.toList.length ≤ 2 := by
  cases sign <;> decide

theorem continues_symbol_pair (sign : Symbol) (c d e : Char) :
    continues (.symbol sign) [c, d] e = false := by
  simp only [continues, Bool.or_eq_false_iff]
  constructor
  · rw [Bool.eq_false_iff, ne_eq, isSpelling_eq_true]
    rintro ⟨other, spells⟩
    have := length_spelling_le other
    simp [spells] at this
  · simp [opensComment]

theorem spelling_of_inSymbol {c : Char} (member : inSymbol c = true) :
    c = '&' ∨ c = '|' ∨ isSpelling [c] = true := by
  simp only [inSymbol, List.any_eq_true, List.contains_iff_mem] at member
  obtain ⟨sign, -, member⟩ := member
  have spelled : ∀ d ∈ sign.spelling.toList, d = '&' ∨ d = '|' ∨ isSpelling [d] = true := by
    cases sign <;> exact List.all_iff_forall_prop.1 (by decide)
  exact spelled c member

theorem inWord_of_startsWord {c : Char} (start : startsWord c = true) : inWord c = true := by
  simp only [startsWord, Bool.or_eq_true] at start
  simp only [inWord, Char.isAlphanum, Bool.or_eq_true]
  rcases start with alpha | underscore
  · exact .inl (.inl alpha)
  · exact .inr underscore

theorem Reads.own_ne_nil {form : Form} {own rest : List Char} (reads : Reads form own rest) :
    own ≠ [] := by
  cases reads with
  | lexeme admits =>
    cases admits with
    | keyword word => cases word <;> decide
    | number nonempty => exact nonempty
    | symbol sign => cases sign <;> decide
    | identifier | string | unknown => simp [written]
  | blank | directive | lineComment | blockComment | openComment | openString => simp

theorem Admits.kind_ne_endOfFile {kind : Kind} {text : List Char} (admits : Admits kind text) :
    kind ≠ .endOfFile := by
  rintro rfl
  cases admits

/-- A literal that is left open has a text that a closed one may have too. -/
theorem Reads.admits {kind : Kind} {text own rest : List Char}
    (reads : Reads (.lexeme kind text) own rest) : Admits kind text := by
  cases reads with
  | lexeme admits => exact admits
  | openString free => exact .string free

theorem Reads.own_cases {kind : Kind} {text own rest : List Char}
    (reads : Reads (.lexeme kind text) own rest) :
    (own = written kind text ∧ Stops (continues kind text) rest) ∨
      (kind = .string ∧ own = '"' :: text ∧ rest = []) := by
  cases reads with
  | lexeme admits stops => exact .inl ⟨rfl, stops⟩
  | openString free => exact .inr ⟨rfl, rfl, rfl⟩

theorem Stops.of_head? {q : Char → Bool} {rest other : List Char} (stops : Stops q rest)
    (next : ∀ c ∈ other.head?, c ∈ rest.head?) : Stops q other :=
  fun c first => stops c (next c first)

/-- Of what stands behind a segment, only the first character counts. -/
theorem Reads.of_head? {form : Form} {own rest other : List Char} (reads : Reads form own rest)
    (next : ∀ c ∈ other.head?, c ∈ rest.head?) : Reads form own other := by
  have ends : rest = [] → other = [] := by
    rintro rfl
    rw [← List.head?_eq_none_iff, Option.eq_none_iff_forall_not_mem]
    exact fun c first => absurd (next c first) (Option.not_mem_none c)
  cases reads with
  | blank space => exact .blank space
  | directive line stops => exact .directive line (stops.of_head? next)
  | lineComment line stops => exact .lineComment line (stops.of_head? next)
  | blockComment inner => exact .blockComment inner
  | openComment inner => exact ends rfl ▸ .openComment inner
  | lexeme admits stops => exact .lexeme admits (stops.of_head? next)
  | openString free => exact ends rfl ▸ .openString free

theorem Reads.of_prefix {form : Form} {own front rest : List Char} (reads : Reads form own rest)
    (before : front <+: rest) : Reads form own front := by
  apply reads.of_head?
  obtain ⟨more, rfl⟩ := before
  cases front with
  | nil => simp
  | cons c front => exact fun _ first => first

/-! ## There is always a segment -/

theorem exists_run (q : Char → Bool) (chars : List Char) :
    ∃ run rest, chars = run ++ rest ∧ (∀ c ∈ run, q c = true) ∧ Stops q rest := by
  induction chars with
  | nil => exact ⟨[], [], rfl, by simp, by simp [Stops]⟩
  | cons c chars ih =>
    cases accepted : q c with
    | false => exact ⟨[], c :: chars, rfl, by simp, by simpa [Stops] using accepted⟩
    | true =>
      obtain ⟨run, rest, equal, all, stops⟩ := ih
      exact ⟨c :: run, rest, by simp [equal], by simpa [accepted] using all, stops⟩

theorem exists_until (d : Char) (chars : List Char) :
    ∃ body rest, chars = body ++ rest ∧ d ∉ body ∧ Stops (· ≠ d) rest := by
  obtain ⟨body, rest, equal, all, stops⟩ := exists_run (· ≠ d) chars
  refine ⟨body, rest, equal, ?_, stops⟩
  intro member
  simpa using all d member

/-- A comment is closed by the first `*/`, or not at all. -/
theorem exists_closer (chars : List Char) :
    (∃ body rest, chars = body ++ closer ++ rest ∧ ¬ closer <:+: body) ∨ ¬ closer <:+: chars := by
  induction chars with
  | nil => right; simp [closer]
  | cons c chars ih =>
    by_cases here : closer <+: c :: chars
    · obtain ⟨rest, equal⟩ := here
      exact .inl ⟨[], rest, by simp [equal], by simp [closer]⟩
    -- A closer in what is found from the next character on does not begin here.
    · rcases ih with ⟨body, rest, equal, inner⟩ | none
      · refine .inl ⟨c :: body, rest, by simp [equal], ?_⟩
        rw [List.infix_cons_iff]
        rintro (front | later)
        · apply here
          rw [equal, List.append_assoc, ← List.cons_append]
          exact front.trans (List.prefix_append ..)
        · exact inner later
      · right
        rw [List.infix_cons_iff]
        rintro (front | later)
        · exact here front
        · exact none later

theorem exists_reads_comment {c d : Char} (opens : opensComment [c, d] = true) (chars : List Char) :
    ∃ form own rest, c :: d :: chars = own ++ rest ∧ Reads form own rest := by
  simp only [opensComment, Bool.or_eq_true, decide_eq_true_eq, List.cons.injEq, and_true] at opens
  rcases opens with ⟨rfl, rfl⟩ | ⟨rfl, rfl⟩
  · obtain ⟨body, rest, rfl, line, stops⟩ := exists_until '\n' chars
    exact ⟨_, '/' :: '/' :: body, rest, rfl, .lineComment line stops⟩
  · rcases exists_closer chars with ⟨body, rest, rfl, inner⟩ | inner
    · exact ⟨_, '/' :: '*' :: (body ++ closer), rest, rfl, .blockComment inner⟩
    · exact ⟨_, '/' :: '*' :: chars, [], by simp, .openComment inner⟩

theorem exists_reads_number {c : Char} (digit : c.isDigit = true) (chars : List Char) :
    ∃ form own rest, c :: chars = own ++ rest ∧ Reads form own rest := by
  obtain ⟨run, rest, rfl, all, stops⟩ := exists_run Char.isDigit chars
  have admits : Admits .number (c :: run) := .number (by simp) (by simpa [digit] using all)
  exact ⟨_, _, rest, rfl, .lexeme admits stops⟩

theorem exists_reads_word {c : Char} (start : startsWord c = true) (chars : List Char) :
    ∃ form own rest, c :: chars = own ++ rest ∧ Reads form own rest := by
  obtain ⟨run, rest, rfl, all, stops⟩ := exists_run inWord chars
  by_cases reserved : ∃ word : Keyword, word.spelling.toList = c :: run
  · obtain ⟨word, spells⟩ := reserved
    have admits := Admits.keyword word
    rw [spells] at admits
    exact ⟨_, _, rest, rfl, .lexeme admits stops⟩
  · have free : ∀ word : Keyword, word.spelling.toList ≠ c :: run := fun word spells =>
      reserved ⟨word, spells⟩
    exact ⟨_, _, rest, rfl, .lexeme (.identifier start all free) stops⟩

theorem exists_reads_string (chars : List Char) :
    ∃ form own rest, '"' :: chars = own ++ rest ∧ Reads form own rest := by
  obtain ⟨text, rest, rfl, free, stops⟩ := exists_until '"' chars
  cases rest with
  | nil => exact ⟨_, '"' :: text, [], by simp, .openString free⟩
  | cons d rest =>
    have closed : d = '"' := by simpa [Stops] using stops
    refine ⟨_, _, rest, ?_, .lexeme (.string free) fun _ _ => rfl⟩
    simp [written, closed]

/-- What `c` begins, with `chars` behind it, is not skipped. -/
structure StartsLexeme (c : Char) (chars : List Char) : Prop where
  space : isSpace c = false
  hash : c ≠ '#'
  comment : Stops (fun d => opensComment [c, d]) chars

/-- What `c` begins, with `chars` behind it, is a symbol or an unknown character. -/
structure StartsSign (c : Char) (chars : List Char) : Prop extends StartsLexeme c chars where
  digit : c.isDigit = false
  word : startsWord c = false
  quote : c ≠ '"'

theorem exists_reads_sign {c : Char} {chars : List Char} (starts : StartsSign c chars) :
    ∃ form own rest, c :: chars = own ++ rest ∧ Reads form own rest := by
  by_cases pair : ∃ d ∈ chars.head?, isSpelling [c, d] = true
  · obtain ⟨d, next, spelling⟩ := pair
    obtain ⟨sign, spells⟩ := isSpelling_eq_true.1 spelling
    obtain ⟨rest, rfl⟩ := List.head?_eq_some_iff.1 next
    have admits := Admits.symbol sign
    rw [spells] at admits
    exact ⟨_, _, rest, rfl, .lexeme admits fun e _ => continues_symbol_pair sign c d e⟩
  -- Nothing joins `c`, which stands for a symbol of its own or is unknown.
  · have single : ∀ d ∈ chars.head?, (isSpelling ([c] ++ [d]) || opensComment ([c] ++ [d])) = false := by
      intro d next
      have apart : isSpelling [c, d] = false := by
        rw [Bool.eq_false_iff]
        exact fun spelling => pair ⟨d, next, spelling⟩
      simp [apart, starts.comment d next]
    by_cases alone : isSpelling [c] = true
    · obtain ⟨sign, spells⟩ := isSpelling_eq_true.1 alone
      have admits := Admits.symbol sign
      rw [spells] at admits
      exact ⟨_, _, chars, rfl, .lexeme admits single⟩
    · have stray : isStray c = true := by
        -- Only `&` and `|` stand in symbols without being one.
        by_cases member : inSymbol c = true
        · rcases spelling_of_inSymbol member with rfl | rfl | spelling
          · rfl
          · rfl
          · exact absurd spelling alone
        · have word := starts.word
          simp only [startsWord, Bool.or_eq_false_iff, decide_eq_false_iff_not] at word
          simp [isStray, starts.space, starts.hash, starts.digit, starts.quote, word, member]
      exact ⟨_, _, chars, rfl, .lexeme (.unknown stray) single⟩

theorem exists_reads (chars : List Char) (nonempty : chars ≠ []) :
    ∃ form own rest, chars = own ++ rest ∧ Reads form own rest := by
  obtain ⟨c, chars, rfl⟩ := List.exists_cons_of_ne_nil nonempty
  -- The order of the cases is that of the reader: a slash is a symbol where no comment opens.
  by_cases space : isSpace c = true
  · exact ⟨_, [c], chars, rfl, .blank space⟩
  by_cases hash : c = '#'
  · obtain ⟨body, rest, rfl, line, stops⟩ := exists_until '\n' chars
    exact ⟨_, '#' :: body, rest, by simp [hash], .directive line stops⟩
  by_cases comment : ∃ d ∈ chars.head?, opensComment [c, d] = true
  · obtain ⟨d, next, opens⟩ := comment
    obtain ⟨chars, rfl⟩ := List.head?_eq_some_iff.1 next
    exact exists_reads_comment opens chars
  by_cases digit : c.isDigit = true
  · exact exists_reads_number digit chars
  by_cases start : startsWord c = true
  · exact exists_reads_word start chars
  by_cases quote : c = '"'
  · subst quote
    exact exists_reads_string chars
  have plain : Stops (fun d => opensComment [c, d]) chars := fun d next =>
    Bool.eq_false_iff.2 fun opens => comment ⟨d, next, opens⟩
  exact exists_reads_sign ⟨⟨Bool.eq_false_iff.2 space, hash, plain⟩, Bool.eq_false_iff.2 digit,
    Bool.eq_false_iff.2 start, quote⟩

end CTokens
