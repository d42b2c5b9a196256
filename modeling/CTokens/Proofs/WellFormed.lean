import CTokens.Proofs.RoundTrip
import CTokens.Proofs.Segmentation

/-! # Well-formed streams

A stream of tokens is closed by one token of kind `endOfFile`, and each of the others has a text
in the language of its kind (`Kind.Language`).  The texts of literals may be anything without a
quote.  Among all others the text decides the kind: a text of two kinds would, as a source of its
own, be two different segments in one place (`Admits.kind_unique`).

No language is too wide, as each of its texts is that of a token of some source.
-/

namespace CTokens

open Utf8

/-! ## Languages -/

/-- A letter or an underscore, and behind it letters, digits and underscores. -/
def IsWord (chars : List Char) : Prop :=
  ∃ c rest, chars = c :: rest ∧ startsWord c = true ∧ ∀ d ∈ rest, inWord d = true

def Kind.Language (text : String) : Kind → Prop
  | .keyword word => text = (Kind.keyword word).name.toLower
  | .identifier => IsWord text.toList ∧ Keyword.ofSpelling? text = none
  | .number => text ≠ "" ∧ ∀ c ∈ text.toList, c.isDigit = true
  | .string => '"' ∉ text.toList
  | .symbol sign => text = sign.spelling
  | .endOfFile => text = ""
  | .unknown => ∃ c, text = String.singleton c ∧ isStray c = true

theorem toLower_name (word : Keyword) : (Kind.keyword word).name.toLower = word.spelling := by
  -- Mapping over a string does not reduce, mapping over its characters does.
  change (Kind.keyword word).name.map Char.toLower = word.spelling
  rw [← String.toList_inj, String.toList_map]
  cases word <;> rfl

theorem ofSpelling?_eq_none_iff {text : String} :
    Keyword.ofSpelling? text = none ↔ ∀ word : Keyword, word.spelling ≠ text := by
  rw [Keyword.ofSpelling?, List.find?_eq_none]
  constructor
  · intro refused word
    have listed : word ∈ Keyword.all := by cases word <;> decide
    simpa using refused word listed
  · intro free word _
    simpa using free word

theorem language_of_admits {kind : Kind} {text : List Char} (admits : Admits kind text) :
    kind.Language (String.ofList text) := by
  cases admits with
  | keyword word => exact (String.ofList_toList).trans (toLower_name word).symm
  | @identifier c rest start all free =>
    refine ⟨⟨c, rest, String.toList_ofList, start, all⟩, ofSpelling?_eq_none_iff.2 ?_⟩
    intro word spells
    exact free word (by rw [spells, String.toList_ofList])
  | @number digits nonempty all =>
    refine ⟨?_, by rwa [String.toList_ofList]⟩
    rwa [ne_eq, ← String.toList_eq_nil_iff, String.toList_ofList]
  | string free => exact fun quote => free (by rwa [String.toList_ofList] at quote)
  | symbol sign => exact String.ofList_toList
  | @unknown c stray => exact ⟨c, String.singleton_eq_ofList.symm, stray⟩

theorem admits_of_language {kind : Kind} {text : String} (inner : kind ≠ .endOfFile)
    (language : kind.Language text) : Admits kind text.toList := by
  cases kind with
  | keyword word =>
    rw [Kind.Language, toLower_name] at language
    exact language ▸ .keyword word
  | identifier =>
    obtain ⟨⟨c, rest, equal, start, all⟩, free⟩ := language
    rw [equal]
    refine .identifier start all ?_
    intro word spells
    exact ofSpelling?_eq_none_iff.1 free word (String.toList_inj.1 (spells.trans equal.symm))
  | number => exact .number (fun empty => language.1 (String.toList_eq_nil_iff.1 empty)) language.2
  | string => exact .string language
  | symbol sign => exact language ▸ .symbol sign
  | endOfFile => contradiction
  | unknown =>
    obtain ⟨c, rfl, stray⟩ := language
    rw [String.toList_singleton]
    exact .unknown stray

/-! ## Stray characters -/

theorem isAscii_of_mem_spelling (sign : Symbol) : ∀ d ∈ sign.spelling.toList, IsAscii d := by
  cases sign <;> exact List.all_iff_forall_prop.1 (by decide)

theorem isAscii_of_inSymbol {c : Char} (member : inSymbol c = true) : IsAscii c := by
  simp only [inSymbol, List.any_eq_true, List.contains_iff_mem] at member
  obtain ⟨sign, -, member⟩ := member
  exact isAscii_of_mem_spelling sign c member

theorem isStray_of_not_isAscii {c : Char} (long : ¬ IsAscii c) : isStray c = true := by
  -- All that a stray character must not be is of ASCII.
  have outside : ∀ q : Char → Bool, (∀ {d}, q d = true → IsAscii d) → q c = false := fun q ascii =>
    Bool.eq_false_iff.2 fun accepted => long (ascii accepted)
  have word := outside inWord isAscii_of_inWord
  have space := outside isSpace isAscii_of_isSpace
  have symbol := outside inSymbol isAscii_of_inSymbol
  have quote : c ≠ '"' := fun same => long (same ▸ by decide)
  have hash : c ≠ '#' := fun same => long (same ▸ by decide)
  simp only [inWord, Char.isAlphanum, Bool.or_eq_false_iff] at word
  simp [isStray, word, space, symbol, quote, hash]

/-! ## One kind for a text -/

theorem Admits.reads {kind : Kind} {text : List Char} (admits : Admits kind text)
    (plain : kind ≠ .string) : Reads (.lexeme kind text) text [] := by
  have reads : Reads _ (written kind text) [] := .lexeme admits (by simp [Stops])
  rwa [written, if_neg plain] at reads

theorem Admits.kind_unique {kind other : Kind} {text : List Char} (first : Admits kind text)
    (second : Admits other text) (plain : kind ≠ .string) (plain' : other ≠ .string) :
    kind = other := by
  obtain ⟨same, -⟩ := (first.reads plain).unique (second.reads plain') rfl
  exact (Form.lexeme.inj same).1

theorem Admits.kind_eq_iff {kind other : Kind} {text : String} (admits : Admits kind text.toList)
    (plain : kind ≠ .string) (plain' : other ≠ .string) : kind = other ↔ other.Language text := by
  constructor
  · rintro rfl
    have language := language_of_admits admits
    rwa [String.ofList_toList] at language
  · intro language
    by_cases last : other = .endOfFile
    · -- Only the token at the end is empty.
      subst last
      have nonempty := (admits.reads plain).own_ne_nil
      rw [show text = "" from language] at nonempty
      contradiction
    · exact admits.kind_unique (admits_of_language last language) plain plain'

/-! ## Streams -/

theorem admits_of_mem {text : String} {token : Token}
    (member : token ∈ (scan text).1.toList.filterMap Segment.token?) :
    Admits token.kind token.text.toList := by
  obtain ⟨segment, inside, made⟩ := List.mem_filterMap.1 member
  obtain ⟨own, rest, spans⟩ := exists_spans_of_token? inside made
  exact spans.reads.admits

theorem exists_source {kind : Kind} {text : String} (admits : Admits kind text.toList) :
    ∃ source, ∃ token ∈ tokenize source, token.kind = kind ∧ token.text = text := by
  -- A source that is nothing but the lexeme.
  let lexeme : Lexeme := { kind := kind, text := text, admits := admits }
  have member : lexeme.pair ∈ [lexeme].map Lexeme.pair ++ [(.endOfFile, "")] := List.mem_cons_self
  rw [← pairs_write none none (fun _ => .blank) [lexeme]] at member
  obtain ⟨token, inside, pair⟩ := List.mem_map.1 member
  rw [Token.pair, Lexeme.pair, Prod.mk.injEq] at pair
  exact ⟨_, token, inside, pair⟩

/-- A stream is closed by the one token that marks the end.  Each of the others has a text of its
    kind, and, literals apart, is of the only kind that has its text.  Whatever text a kind has,
    some source has a token of it; among the texts of unknown characters are those of the
    character 0 and of all characters beyond ASCII. -/
theorem tokenize_wellFormed :
    (∀ text, ∃ tokens line, tokenize text = tokens ++ [Token.endOfFile line] ∧
      ∀ token ∈ tokens, token.kind ≠ .endOfFile ∧ token.kind.Language token.text ∧
        (token.kind ≠ .string →
          ∀ kind, kind ≠ .string → (token.kind = kind ↔ kind.Language token.text))) ∧
    (∀ kind text, kind ≠ .endOfFile → kind.Language text →
      ∃ source, ∃ token ∈ tokenize source, token.kind = kind ∧ token.text = text) ∧
    ∀ c, c = '\x00' ∨ ¬ IsAscii c → isStray c = true := by
  refine ⟨?_, ?_, ?_⟩
  · intro text
    refine ⟨_, _, rfl, ?_⟩
    intro token member
    have admits := admits_of_mem member
    have language := language_of_admits admits
    rw [String.ofList_toList] at language
    exact ⟨admits.kind_ne_endOfFile, language, fun plain kind => admits.kind_eq_iff plain⟩
  · intro kind text inner language
    exact exists_source (admits_of_language inner language)
  · rintro c (rfl | long)
    · decide
    · exact isStray_of_not_isAscii long

end CTokens
