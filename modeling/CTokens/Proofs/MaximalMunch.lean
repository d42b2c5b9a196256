import CTokens.Proofs.RoundTrip
import CTokens.Proofs.Segmentation

/-! # Maximal munch

Of the lexemes that a source has at one place, the scanner takes the longest.  A longer one would
be a segment of its own if the source ended with it, and so would what was taken, which ends no
later there; but the grammar has only one segment in one place (`Reads.munch`).

What this comes to for each kind of token is told by the next byte (`Token.goesOn`).
-/

namespace CTokens

open Utf8

/-- The byte, right behind the token, would have been read along with it. -/
def Token.goesOn (token : Token) (byte : UInt8) : Bool :=
  match token.kind with
  | .keyword _ | .identifier => isWordByte byte
  | .number => isDigit byte
  | .symbol .assign | .symbol .not | .symbol .lt | .symbol .gt => byte = '='.toUInt8
  | .symbol .slash => byte = '/'.toUInt8 || byte = '*'.toUInt8
  | .unknown => (token.text = "&" && byte = '&'.toUInt8) || (token.text = "|" && byte = '|'.toUInt8)
  | _ => false

/-- The bytes `own`, with `behind` behind them, are the token as a source has it.  A literal ends
    with the first quote behind its own, or with the source if there is none. -/
def Token.StandsAs (token : Token) (own behind : List UInt8) : Prop :=
  if token.kind = .string then
    '"'.toUInt8 ∉ encode token.text ∧
      (own = '"'.toUInt8 :: (encode token.text ++ ['"'.toUInt8]) ∨
        (own = '"'.toUInt8 :: encode token.text ∧ behind = []))
  else own = encode token.text

/-! ## The longest lexeme -/

theorem Reads.munch {kind other : Kind} {text text' own rest : List Char}
    (reads : Reads (.lexeme kind text) own rest) (admits : Admits other text')
    (front : written other text' <+: own ++ rest) : written other text' <+: own := by
  rcases List.prefix_or_prefix_of_prefix front (List.prefix_append own rest) with
    shorter | ⟨more, longer⟩
  · exact shorter
  -- Let the source end with the longer lexeme: then both are read there.
  · rw [← longer, List.prefix_append_right_inj] at front
    have alone : Reads (.lexeme other text') (written other text') [] :=
      .lexeme admits (by simp [Stops])
    obtain ⟨-, same⟩ := (reads.of_prefix front).unique alone (by simp [longer])
    exact same ▸ List.prefix_rfl

/-! ## The next byte -/

section NextByte

variable {d : Char} {chars : List Char} {byte : UInt8} {more : List UInt8}

theorem ne_of_refused {q : Char → Bool} (refused : q d = false)
    (begins : ofChars (d :: chars) = byte :: more) {e : Char} (ascii : IsAscii e)
    (accepts : q e = true) :
    byte ≠ e.toUInt8 := by
  have apart : d ≠ e := by
    rintro rfl
    rw [accepts] at refused
    contradiction
  simpa [apart] using (mirrors_eq ascii).head begins

theorem goesOn_eq_false {kind : Kind} {text : List Char} (admits : Admits kind text) (line : UInt32)
    (refused : continues kind text d = false) (begins : ofChars (d :: chars) = byte :: more) :
    Token.goesOn { kind := kind, text := String.ofList text, line := line } byte = false := by
  -- A character that is refused is none of those that make a longer spelling or a comment.
  have apart := @ne_of_refused d chars byte more (continues kind text) refused begins
  cases admits with
  | keyword | identifier =>
    rw [Token.goesOn, mirrors_isWordByte.head begins]
    exact refused
  | number =>
    rw [Token.goesOn, mirrors_isDigit.head begins]
    exact refused
  | string => rfl
  | symbol sign =>
    cases sign with
    | assign | not | lt | gt => exact decide_eq_false (apart (by decide) (by decide))
    | slash =>
      have slash : byte ≠ '/'.toUInt8 := apart (by decide) (by decide)
      have star : byte ≠ '*'.toUInt8 := apart (by decide) (by decide)
      simp [Token.goesOn, slash, star]
    | _ => rfl
  | @unknown c stray =>
    have doubled : ∀ e, String.ofList [c] = String.ofList [e] → IsAscii e →
        continues .unknown [e] e = true → byte ≠ e.toUInt8 := by
      intro e same ascii joins
      rw [String.ofList_inj] at same
      exact apart ascii (same ▸ joins)
    simp only [Token.goesOn, Bool.or_eq_false_iff, Bool.and_eq_false_imp, decide_eq_true_eq,
      decide_eq_false_iff_not]
    exact ⟨fun same => doubled '&' same (by decide) (by decide),
      fun same => doubled '|' same (by decide) (by decide)⟩

end NextByte

/-! ## The tokens of a source -/

section Scan

variable {text : String} {segment : Segment} {token : Token}

theorem length_le_of_token? (member : segment ∈ (scan text).1.toList)
    (made : segment.token? = some token) (lexeme : Lexeme)
    (front : ofChars lexeme.chars <+: (encode text).drop segment.start) :
    (ofChars lexeme.chars).length ≤ segment.stop - segment.start := by
  obtain ⟨own, rest, spans⟩ := exists_spans_of_token? member made
  rw [spans.ahead] at front
  obtain ⟨more, longest⟩ := spans.reads.munch lexeme.admits (prefix_of_prefix_ofChars front)
  rw [spans.stop, Nat.add_sub_cancel_left, ← longest, ofChars_append, List.length_append]
  exact Nat.le_add_right ..

theorem goesOn_of_token? (member : segment ∈ (scan text).1.toList)
    (made : segment.token? = some token) :
    ∀ byte ∈ (segment.behind (encode text)).head?, token.goesOn byte = false := by
  obtain ⟨own, rest, spans⟩ := exists_spans_of_token? member made
  intro byte next
  rw [spans.behind_eq] at next
  obtain ⟨more, begins⟩ := List.head?_eq_some_iff.1 next
  -- The byte is the first of a character, and the grammar speaks of that.
  obtain ⟨d, chars, rfl⟩ : ∃ d chars, rest = d :: chars := by
    apply List.exists_cons_of_ne_nil
    rintro rfl
    contradiction
  rcases spans.reads.own_cases with ⟨-, stops⟩ | ⟨-, -, ends⟩
  · have refused := goesOn_eq_false spans.reads.admits token.line (stops d rfl) begins
    rwa [String.ofList_toList] at refused
  · -- Behind a literal that is left open there is no character.
    contradiction

theorem standsAs_of_token? (member : segment ∈ (scan text).1.toList)
    (made : segment.token? = some token) :
    token.StandsAs (segment.own (encode text)) (segment.behind (encode text)) := by
  obtain ⟨own, rest, spans⟩ := exists_spans_of_token? member made
  have covers := covers_scan text segment member
  rw [Cursor.piece_of_token? made] at covers
  obtain ⟨-, -, -, spelled⟩ := covers
  rw [Token.StandsAs]
  split at spelled
  next string =>
    have admits := spans.reads.admits
    rw [string] at admits
    cases admits with
    | string free =>
      have noQuote : '"'.toUInt8 ∉ encode token.text := by
        rw [encode_eq_ofChars]
        exact not_mem_ofChars (by decide) free
      rw [if_pos string]
      exact ⟨noQuote, spelled⟩
  next other => rw [if_neg other, spelled]

end Scan

/-- A token is made of as much as any lexeme in its place could be.  The byte behind it does not
    go on with it, and a literal stops at the first quote, or else at the end. -/
theorem maximal_munch_scan (text : String) :
    tokenize text = (scan text).1.toList.filterMap Segment.token? ++
      [Token.endOfFile (scan text).2.line] ∧
    ∀ segment ∈ (scan text).1.toList, ∀ token, segment.token? = some token →
      token.StandsAs (segment.own (encode text)) (segment.behind (encode text)) ∧
      (∀ byte ∈ (segment.behind (encode text)).head?, token.goesOn byte = false) ∧
      ∀ lexeme : Lexeme, ofChars lexeme.chars <+: (encode text).drop segment.start →
        (ofChars lexeme.chars).length ≤ segment.stop - segment.start := by
  refine ⟨rfl, ?_⟩
  intro segment member token made
  exact ⟨standsAs_of_token? member made, goesOn_of_token? member made,
    length_le_of_token? member made⟩

/-- Of three ampersands the first two are one lexeme, and none is longer there. -/
theorem maximal_munch_of_ampersands :
    { start := 0, stop := 2, piece := .lexeme { kind := .symbol .and, text := "&&", line := 1 } } ∈
      (scan "&&&").1.toList ∧
    ∀ lexeme : Lexeme, ofChars lexeme.chars <+: encode "&&&" → (ofChars lexeme.chars).length ≤ 2 := by
  have steps : (Cursor.ofText "&&&").Steps
      [{ start := 0, stop := 2, piece := .lexeme { kind := .symbol .and, text := "&&", line := 1 } },
       { start := 2, stop := 3, piece := .lexeme { kind := .unknown, text := "&", line := 1 } }]
      ((Cursor.ofText "&&&").skip 3) := .step rfl (.step rfl .refl)
  have member : _ ∈ (scan "&&&").1.toList := (scan_of_steps steps rfl).1 ▸ List.mem_cons_self
  exact ⟨member, ((maximal_munch_scan "&&&").2 _ member _ rfl).2.2⟩

end CTokens
