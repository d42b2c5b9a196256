import CTokens.Proofs.Outcomes
import CTokens.Proofs.WellFormed
import Mathlib.Data.List.SplitBy

/-! # Unknown tokens, counted in the source

How many unknown tokens a source has can be told without reading it token by token.  Take the
stretches of it that lie outside of directives, comments and literals.  In these, each longest run
of `&` and each longest run of `|` leaves one character over if its length is odd, for the scanner
takes such characters in pairs, from left to right; and each character that no token is made of
counts once (`count_unknown`).

The proof goes through the parts of the source from its end on.  What it carries along is the
stretch that a part is put in front of, which is a beginning of all that stands behind the part, so
that the part is a segment in front of the stretch as well.
-/

namespace CTokens

open Utf8

/-! ## Stretches of code -/

def Piece.isCode : Piece → Bool
  | .blank => true
  | .lexeme token => token.kind ≠ .string
  | .directive | .lineComment | .blockComment => false

/-- What of a source lies between its directives, comments and literals. -/
def stretches (text : String) : List (List UInt8) :=
  ((scan text).1.toList.splitOnP fun segment => !segment.piece.isCode).map
    fun segments => segments.flatMap (Segment.own (encode text))

/-! ## What is counted in them -/

/-- How many of the longest runs of `c` in the stretches have an odd length. -/
def oddRuns (c : Char) (code : List (List Char)) : Nat :=
  (code.flatMap fun stretch => stretch.splitBy (· == ·)).countP
    fun run => run.head? = some c && run.length % 2 = 1

/-- The characters that symbols are made of, the two that only stand doubled apart. -/
def operators : List Char :=
  ['+', '-', '*', '/', '%', '=', '!', '<', '>', '(', ')', '{', '}', ';', ',']

/-- The character is none of those that the known tokens of code are made of. -/
def isForeign (c : Char) : Bool :=
  !(c = '&' || c = '|' || c.isAlpha || c.isDigit || c = '_' || isSpace c || operators.contains c)

def foreigners (code : List (List Char)) : Nat :=
  code.flatten.countP isForeign

def tally (code : List (List Char)) : Nat :=
  oddRuns '&' code + oddRuns '|' code + foreigners code

/-! ## Runs -/

section Runs

variable {c d : Char} {chars rest : List Char} {code : List (List Char)}

theorem exists_replicate (d : Char) (chars : List Char) :
    ∃ n rest, chars = List.replicate n d ++ rest ∧ rest.head? ≠ some d := by
  obtain ⟨run, rest, rfl, all, stops⟩ := exists_run (· = d) chars
  refine ⟨run.length, rest, ?_, ?_⟩
  · rw [← List.eq_replicate_of_mem fun e member => by simpa using all e member]
  · intro next
    simpa using stops d next

theorem splitBy_replicate_append (n : Nat) (apart : rest.head? ≠ some d) :
    (List.replicate (n + 1) d ++ rest).splitBy (· == ·) =
      List.replicate (n + 1) d :: rest.splitBy (· == ·) := by
  have ends : ∀ x ∈ (List.replicate (n + 1) d).getLast?, ∀ y ∈ rest.head?, (x == y) = false := by
    intro x last y first
    rw [List.getLast?_replicate, if_neg (Nat.succ_ne_zero n), Option.mem_some_iff] at last
    subst last
    rw [beq_eq_false_iff_ne]
    rintro rfl
    exact apart first
  rw [List.splitBy_append ends, List.splitBy_of_isChain]
  · rfl
  · simp
  · exact List.isChain_replicate_of_rel _ (beq_self_eq_true d)

theorem oddRuns_replicate_append (c : Char) (n : Nat) (apart : rest.head? ≠ some d) :
    oddRuns c ((List.replicate n d ++ rest) :: code) =
      (if d = c then n % 2 else 0) + oddRuns c (rest :: code) := by
  cases n with
  | zero => simp
  | succ n =>
    rw [oddRuns, List.flatMap_cons, splitBy_replicate_append n apart, List.cons_append,
      List.countP_cons, ← List.flatMap_cons, ← oddRuns, Nat.add_comm]
    congr 1
    by_cases same : d = c
    · simp only [List.replicate_succ, List.head?_cons, List.length_cons, List.length_replicate, same,
        if_true, decide_true, Bool.true_and, decide_eq_true_eq]
      split <;> omega
    · simp [List.replicate_succ, same]

/-- Three of them are one over, and of the two behind there is none. -/
example : oddRuns '&' [['&', '&', '&', '|', '&', '&']] = 1 := by decide

theorem oddRuns_cons_of_ne (different : d ≠ c) :
    oddRuns c ((d :: chars) :: code) = oddRuns c (chars :: code) := by
  obtain ⟨n, rest, rfl, apart⟩ := exists_replicate d chars
  rw [← List.cons_append, ← List.replicate_succ, oddRuns_replicate_append c _ apart,
    oddRuns_replicate_append c _ apart, if_neg different, if_neg different]

theorem oddRuns_cons_self (apart : chars.head? ≠ some c) :
    oddRuns c ((c :: chars) :: code) = 1 + oddRuns c (chars :: code) := by
  have single : oddRuns c ((List.replicate 1 c ++ chars) :: code) = _ :=
    oddRuns_replicate_append c 1 apart
  rwa [if_pos rfl] at single

theorem oddRuns_pair : oddRuns c ((c :: c :: chars) :: code) = oddRuns c (chars :: code) := by
  obtain ⟨n, rest, rfl, apart⟩ := exists_replicate c chars
  have longer : c :: c :: (List.replicate n c ++ rest) = List.replicate (n + 2) c ++ rest := rfl
  rw [longer, oddRuns_replicate_append c _ apart, oddRuns_replicate_append c _ apart,
    Nat.add_mod_right]

theorem foreigners_cons : foreigners ((c :: chars) :: code) =
    (if isForeign c then 1 else 0) + foreigners (chars :: code) := by
  rw [foreigners, foreigners, List.flatten_cons, List.flatten_cons, List.cons_append,
    List.countP_cons, Nat.add_comm]

end Runs

/-! ## A part in front of a stretch -/

def Form.isCode : Form → Bool
  | .blank => true
  | .lexeme kind _ => kind ≠ .string
  | .directive | .lineComment | .blockComment => false

def Form.isUnknown : Form → Bool
  | .lexeme kind _ => kind = .unknown
  | .blank | .directive | .lineComment | .blockComment => false

structure Plain (c : Char) : Prop where
  ampersand : c ≠ '&'
  bar : c ≠ '|'
  known : isForeign c = false

section Tally

variable {c : Char} {own chars rest : List Char} {code : List (List Char)}

theorem tally_nil : tally ([] :: code) = tally code := rfl

theorem tally_plain (plain : ∀ c ∈ own, Plain c) :
    tally ((own ++ chars) :: code) = tally (chars :: code) := by
  induction own with
  | nil => rfl
  | cons c own ih =>
    obtain ⟨⟨ampersand, bar, known⟩, others⟩ := List.forall_mem_cons.1 plain
    rw [← ih others, List.cons_append, tally, oddRuns_cons_of_ne ampersand, oddRuns_cons_of_ne bar,
      foreigners_cons, known]
    simp [tally]

theorem plain_of_isSpace (space : isSpace c = true) : Plain c := by
  refine ⟨?_, ?_, by simp [isForeign, space]⟩
  · rintro rfl
    exact absurd space (by decide)
  · rintro rfl
    exact absurd space (by decide)

theorem plain_of_inWord (word : inWord c = true) : Plain c := by
  refine ⟨?_, ?_, ?_⟩
  · rintro rfl
    exact absurd word (by decide)
  · rintro rfl
    exact absurd word (by decide)
  · simp only [inWord, Char.isAlphanum, Bool.or_eq_true, decide_eq_true_eq] at word
    rcases word with (alpha | digit) | underscore
    · simp [isForeign, alpha]
    · simp [isForeign, digit]
    · simp [isForeign, underscore]

theorem isForeign_of_isStray (stray : isStray c = true) (ampersand : c ≠ '&') (bar : c ≠ '|') :
    isForeign c = true := by
  have inner : c ∉ operators := by
    intro member
    have symbols : ∀ d ∈ operators, isStray d = false := List.all_iff_forall_prop.1 (by decide)
    rw [symbols c member] at stray
    contradiction
  simp only [isStray, ampersand, bar, decide_false, Bool.false_or, Bool.not_eq_true',
    Bool.or_eq_false_iff, decide_eq_false_iff_not] at stray
  obtain ⟨⟨⟨⟨⟨⟨alpha, digit⟩, underscore⟩, -⟩, -⟩, space⟩, -⟩ := stray
  simp [isForeign, ampersand, bar, alpha, digit, underscore, space, inner]

theorem tally_pair (paired : c = '&' ∨ c = '|') :
    tally ((c :: c :: chars) :: code) = tally (chars :: code) := by
  rcases paired with rfl | rfl
  all_goals
    rw [tally, oddRuns_pair, oddRuns_cons_of_ne (by decide), oddRuns_cons_of_ne (by decide),
      foreigners_cons, foreigners_cons]
    simp [tally, isForeign]

theorem plain_of_mem_spelling {sign : Symbol} (notAnd : sign ≠ .and) (notOr : sign ≠ .or) :
    ∀ d ∈ sign.spelling.toList, Plain d := by
  have table : ∀ d ∈ sign.spelling.toList, (d ≠ '&' ∧ d ≠ '|') ∧ isForeign d = false := by
    cases sign with
    | and | or => contradiction
    | _ => exact List.all_iff_forall_prop.1 (by decide)
  intro d member
  obtain ⟨⟨ampersand, bar⟩, known⟩ := table d member
  exact ⟨ampersand, bar, known⟩

theorem tally_symbol (sign : Symbol) :
    tally ((sign.spelling.toList ++ chars) :: code) = tally (chars :: code) := by
  by_cases ampersands : sign = .and
  · subst ampersands
    exact tally_pair (.inl rfl)
  by_cases bars : sign = .or
  · subst bars
    exact tally_pair (.inr rfl)
  exact tally_plain (plain_of_mem_spelling ampersands bars)

theorem tally_stray (stray : isStray c = true) (stops : Stops (continues .unknown [c]) chars) :
    tally ((c :: chars) :: code) = 1 + tally (chars :: code) := by
  have apart : isSpelling [c, c] = true → chars.head? ≠ some c := by
    intro doubled next
    have refused := stops c next
    simp [continues, doubled] at refused
  by_cases ampersand : c = '&'
  · subst ampersand
    rw [tally, oddRuns_cons_self (apart (by decide)), oddRuns_cons_of_ne (by decide),
      foreigners_cons]
    simp [tally, isForeign, Nat.add_assoc]
  by_cases bar : c = '|'
  · subst bar
    rw [tally, oddRuns_cons_self (apart (by decide)), oddRuns_cons_of_ne (by decide),
      foreigners_cons]
    simp [tally, isForeign, Nat.add_left_comm, Nat.add_assoc]
  · rw [tally, oddRuns_cons_of_ne ampersand, oddRuns_cons_of_ne bar, foreigners_cons,
      if_pos (isForeign_of_isStray stray ampersand bar), Nat.add_left_comm]
    rfl

/-- A part of code adds one if it is unknown, and nothing else. -/
theorem tally_of_reads {form : Form} (reads : Reads form own chars) (inCode : form.isCode = true) :
    tally ((own ++ chars) :: code) = (if form.isUnknown then 1 else 0) + tally (chars :: code) := by
  cases reads with
  | blank space =>
    rw [tally_plain (List.forall_mem_singleton.2 (plain_of_isSpace space))]
    exact (Nat.zero_add _).symm
  | directive | lineComment | blockComment | openComment | openString => contradiction
  | lexeme admits stops =>
    have word : ∀ {more : List Char}, (∀ c ∈ more, inWord c = true) →
        tally ((more ++ chars) :: code) = 0 + tally (chars :: code) := fun all => by
      rw [tally_plain fun c member => plain_of_inWord (all c member), Nat.zero_add]
    cases admits with
    | keyword keyword =>
      obtain ⟨d, more, spells, -, all⟩ := exists_spelling_cons keyword
      exact word (spells ▸ all)
    | identifier start all =>
      exact word (List.forall_mem_cons.2 ⟨inWord_of_startsWord start, all⟩)
    | number nonempty all => exact word fun c member => inWord_of_isDigit (all c member)
    | string => contradiction
    | symbol sign => exact (tally_symbol sign).trans (Nat.zero_add _).symm
    | unknown stray => exact tally_stray stray stops

end Tally

/-! ## The whole source -/

theorem not_isUnknown_of_not_isCode {form : Form} (outside : form.isCode = false) :
    form.isUnknown = false := by
  cases form with
  | blank | directive | lineComment | blockComment => rfl
  | lexeme kind text =>
    cases kind with
    | string => rfl
    | _ => contradiction

theorem tally_parts {chars : List Char} {parts : List Part} (falls : Parts chars parts) :
    ∃ first others, parts.splitOnP (fun part => !part.form.isCode) = first :: others ∧
      first.flatMap Part.own <+: chars ∧
      tally ((first :: others).map fun group => group.flatMap Part.own) =
        parts.countP fun part => part.form.isUnknown := by
  induction falls with
  | nil => exact ⟨[], [], rfl, List.prefix_rfl, rfl⟩
  | @cons form own rest parts reads tail ih =>
    -- The first group goes as far as the code does, so that it can be shorter than `rest`.
    obtain ⟨first, others, groups, front, counted⟩ := ih
    rw [List.splitOnP_cons_eq_if_modifyHead, groups, List.countP_cons, ← counted]
    cases inCode : form.isCode with
    | true =>
      refine ⟨{ form := form, own := own } :: first, others, rfl, ?_, ?_⟩
      · exact (List.prefix_append_right_inj own).2 front
      · rw [Nat.add_comm]
        exact tally_of_reads (reads.of_prefix front) inCode
    | false =>
      refine ⟨[], first :: others, rfl, List.nil_prefix, ?_⟩
      rw [not_isUnknown_of_not_isCode inCode]
      exact tally_nil

theorem countP_tokensFrom (line : UInt32) (parts : List Part) :
    (tokensFrom line parts).countP Token.isUnknown = parts.countP fun part => part.form.isUnknown := by
  induction parts generalizing line with
  | nil => rfl
  | cons part parts ih =>
    obtain ⟨form, own⟩ := part
    rw [tokensFrom, List.countP_append, ih, List.countP_cons, Nat.add_comm]
    cases form with
    | blank | directive | lineComment | blockComment => rfl
    | lexeme kind text => cases kind <;> rfl

/-- Groups of a list, by a mark and with the bytes of each of its members. -/
theorem map_flatMap_splitOnP {α : Type} (f : α → Bool × List UInt8) (list : List α) :
    (list.splitOnP fun x => !(f x).1).map (fun group => group.flatMap fun x => (f x).2) =
      ((list.map f).splitOnP fun marked => !marked.1).map fun group => group.flatMap Prod.snd := by
  induction list with
  | nil => rfl
  | cons x list ih =>
    rw [List.map_cons, List.splitOnP_cons_eq_if_modifyHead, List.splitOnP_cons_eq_if_modifyHead]
    split
    · rw [List.map_cons, List.map_cons, ih]
      rfl
    · -- The first group of each side takes up one more member.
      obtain ⟨first, others, groups⟩ := List.exists_cons_of_ne_nil
        (List.splitOnP_ne_nil (fun x => !(f x).1) list)
      obtain ⟨first', others', groups'⟩ := List.exists_cons_of_ne_nil
        (List.splitOnP_ne_nil (fun marked => !marked.1) (list.map f))
      rw [groups, groups', List.map_cons, List.map_cons, List.cons.injEq] at ih
      rw [groups, groups', List.modifyHead_cons, List.modifyHead_cons, List.map_cons, List.map_cons,
        List.flatMap_cons, List.flatMap_cons, ih.1, ih.2]

theorem stretches_eq_ofChars {text : String} {parts : List Part} (falls : Parts text.toList parts) :
    stretches text = ((parts.splitOnP fun part => !part.form.isCode).map
      fun group => group.flatMap Part.own).map ofChars := by
  have agree : ∀ form line own, ((Form.piece line form).isCode, ofChars own) =
      (form.isCode, ofChars own) := by
    intro form line own
    cases form <;> rfl
  have marked := map_scan (f := fun piece own => (piece.isCode, own)) agree falls
  have segments := map_flatMap_splitOnP
    (fun segment : Segment => (segment.piece.isCode, segment.own (encode text)))
    (scan text).1.toList
  rw [marked, ← map_flatMap_splitOnP] at segments
  rw [List.map_map]
  refine segments.trans (List.map_congr_left fun group _ => ?_)
  exact (List.flatMap_assoc ..).symm

theorem exists_code (text : String) :
    ∃ code, stretches text = code.map ofChars ∧ (tokenize text).countP Token.isUnknown = tally code := by
  obtain ⟨parts, falls⟩ := exists_parts text.toList
  obtain ⟨first, others, groups, -, counted⟩ := tally_parts falls
  have bytes := stretches_eq_ofChars falls
  rw [groups] at bytes
  refine ⟨_, bytes, ?_⟩
  rw [counted, tokenize_of_parts falls, countP_tokensFrom]

/-! ## Acceptance -/

theorem tally_eq_zero_iff {code : List (List Char)} :
    tally code = 0 ↔ oddRuns '&' code = 0 ∧ oddRuns '|' code = 0 ∧ foreigners code = 0 := by
  rw [tally, Nat.add_eq_zero_iff, Nat.add_eq_zero_iff, and_assoc]

/-- A strict run over a file that holds the text fails if the tokens cannot be printed, or if there
    are unknown ones. -/
theorem failure_run_strict (format : Format) (name text : String) (sink : Sink)
    (reporter : Report.Reporter) :
    (({ format := format, strict := true } : Settings).run name (.ok (encode text)) sink
        reporter).failure = none ↔
      (format.renderTo (tokenize text) sink).1 = none ∧ (lex text).hasUnknown = false := by
  simp only [Settings.run, sourceText, decodeLossy_encode, Settings.runText_eq]
  cases (format.renderTo (tokenize text) sink).1 with
  | some error => simp
  | none => simp [Settings.verdict]

/-- A source has as many unknown tokens as there are in its code odd runs of `&`, odd runs of `|`,
    and characters that no token is made of.  So it is free of them, and a strict run that can print
    the tokens accepts it, if and only if there is nothing of these. -/
theorem count_unknown (text : String) :
    ∃ code : List (List Char), stretches text = code.map ofChars ∧
      (tokenize text).countP Token.isUnknown =
        oddRuns '&' code + oddRuns '|' code + foreigners code ∧
      ((lex text).hasUnknown = false ↔
        oddRuns '&' code = 0 ∧ oddRuns '|' code = 0 ∧ foreigners code = 0) ∧
      ∀ format name sink reporter,
        (({ format := format, strict := true } : Settings).run name (.ok (encode text)) sink
            reporter).failure = none ↔
          (format.renderTo (tokenize text) sink).1 = none ∧
            oddRuns '&' code = 0 ∧ oddRuns '|' code = 0 ∧ foreigners code = 0 := by
  obtain ⟨code, bytes, count⟩ := exists_code text
  have clean := hasUnknown_lex text
  rw [count, tally_eq_zero_iff] at clean
  refine ⟨code, bytes, count, clean, ?_⟩
  intro format name sink reporter
  rw [failure_run_strict, clean]

end CTokens
