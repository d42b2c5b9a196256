import CTokens.Proofs.Moves
import CTokens.Proofs.Runs

/-! # Lossless segmentation

The segments of a source are its bytes, cut into stretches that follow on each other, and each
stretch is what its piece says (`Piece.Covers`).  Nothing here is said by way of the grammar:
`Covers` speaks of bytes, and calls a closer the first one if no other begins before it.
-/

namespace CTokens

open Utf8

/-! ## Stretches -/

def Segment.own (source : List UInt8) (segment : Segment) : List UInt8 :=
  (source.drop segment.start).take (segment.stop - segment.start)

def Segment.behind (source : List UInt8) (segment : Segment) : List UInt8 :=
  source.drop segment.stop

/-- From `start` to `stop`, each segment takes up where the one before it ends. -/
def Tiles : Nat → List Segment → Nat → Prop
  | start, [], stop => start = stop
  | start, segment :: segments, stop =>
    segment.start = start ∧ start < segment.stop ∧ Tiles segment.stop segments stop

/-! ## Pieces -/

def blanks : List UInt8 :=
  [0x20, 0x09, 0x0A, 0x0D, 0x0B, 0x0C]

def closerBytes : List UInt8 :=
  ['*'.toUInt8, '/'.toUInt8]

def BeginsSkipped (bytes : List UInt8) : Prop :=
  (∃ byte ∈ bytes.head?, byte ∈ blanks ∨ byte = '#'.toUInt8) ∨
    ['/'.toUInt8, '/'.toUInt8] <+: bytes ∨ ['/'.toUInt8, '*'.toUInt8] <+: bytes

/-- The bytes go on to the end of their line, which stays behind them. -/
def ToLineEnd (own behind : List UInt8) : Prop :=
  Cursor.newline ∉ own ∧ (behind = [] ∨ behind.head? = some Cursor.newline)

/-- The bytes `own`, with `behind` behind them, are such a piece. -/
def Piece.Covers (own behind : List UInt8) : Piece → Prop
  | .blank => ∃ byte ∈ blanks, own = [byte]
  | .directive => own.head? = some '#'.toUInt8 ∧ ToLineEnd own behind
  | .lineComment => ['/'.toUInt8, '/'.toUInt8] <+: own ∧ ToLineEnd own behind
  | .blockComment => ∃ body, own = '/'.toUInt8 :: '*'.toUInt8 :: body ∧
      ((∃ inner, body = inner ++ closerBytes ∧ ∀ earlier later,
          body ++ behind = earlier ++ closerBytes ++ later → inner.length ≤ earlier.length) ∨
        (behind = [] ∧ ¬ closerBytes <:+: body))
  | .lexeme token => own ≠ [] ∧ ¬ BeginsSkipped (own ++ behind) ∧
      (own.head? = some '"'.toUInt8 ↔ token.kind = .string) ∧
      if token.kind = .string then
        own = '"'.toUInt8 :: (encode token.text ++ ['"'.toUInt8]) ∨
          (own = '"'.toUInt8 :: encode token.text ∧ behind = [])
      else own = encode token.text

/-! ## Each segment is what it is said to be -/

/-- If no closer lies within `inner`, none begins before the one behind it. -/
theorem length_le_of_closer {inner rest earlier later : List UInt8} (free : ¬ closerBytes <:+: inner)
    (equal : inner ++ closerBytes ++ rest = earlier ++ closerBytes ++ later) :
    inner.length ≤ earlier.length := by
  rw [List.append_assoc, List.append_assoc, List.append_eq_append_iff] at equal
  rcases equal with ⟨more, rfl, -⟩ | ⟨more, rfl, equal⟩
  · simp
  · -- `more` is what of `inner` lies behind the beginning of the other closer.
    match more with
    | [] => simp
    | [byte] =>
      simp only [closerBytes, List.cons_append, List.nil_append, List.cons.injEq] at equal
      exact absurd equal.2.1 (by decide)
    | first :: second :: more =>
      simp only [closerBytes, List.cons_append, List.nil_append, List.cons.injEq] at equal
      obtain ⟨rfl, rfl, -⟩ := equal
      exact absurd ⟨earlier, more, by simp [closerBytes]⟩ free

theorem mirrors_blanks : Mirrors blanks.contains isSpace :=
  mirrors_of_table (by decide) (by decide) isAscii_of_isSpace

theorem not_beginsSkipped {d : Char} {chars : List Char} (starts : StartsLexeme d chars) :
    ¬ BeginsSkipped (ofChars (d :: chars)) := by
  -- An opener in the bytes is one in the characters, as all of it is ASCII.
  have pair : ∀ e, opensComment ['/', e] = true → IsAscii e →
      ¬ ['/'.toUInt8, e.toUInt8] <+: ofChars (d :: chars) := by
    intro e opens ascii front
    have ascii : ∀ f ∈ ['/', e], IsAscii f := by simpa [ascii] using by decide
    obtain ⟨rfl, rest, rfl⟩ := List.cons_prefix_cons.1 ((prefix_ofChars ascii).1 front)
    have plain : opensComment ['/', e] = false := starts.comment e rfl
    rw [opens] at plain
    contradiction
  rintro (⟨byte, first, skipped⟩ | line | block)
  · obtain ⟨more, cons⟩ := List.head?_eq_some_iff.1 first
    rcases skipped with blank | hash
    · have space := mirrors_blanks.head cons
      simp [starts.space, blank] at space
    · have := (mirrors_eq (d := '#') (by decide)).head cons
      simp [starts.hash, hash] at this
  · exact pair '/' rfl (by decide) line
  · exact pair '*' rfl (by decide) block

theorem toLineEnd_ofChars {own rest : List Char} (line : '\n' ∉ own)
    (stops : Stops (· ≠ '\n') rest) : ToLineEnd (ofChars own) (ofChars rest) := by
  refine ⟨not_mem_ofChars (by decide) line, ?_⟩
  cases rest with
  | nil => exact .inl rfl
  | cons d rest =>
    have ends : d = '\n' := by simpa [Stops] using stops
    exact .inr ((head?_ofChars (by decide) _).2 (by rw [ends]; rfl))

theorem isAscii_closer : ∀ d ∈ closer, IsAscii d :=
  List.all_iff_forall_prop.1 (by decide)

theorem covers_of_reads {form : Form} {own rest : List Char} (reads : Reads form own rest)
    (line : UInt32) : (form.piece line).Covers (ofChars own) (ofChars rest) := by
  cases reads with
  | @blank d rest space =>
    rw [ofChars_ascii_cons (isAscii_of_isSpace space)]
    refine ⟨d.toUInt8, ?_, rfl⟩
    have blank := mirrors_blanks d d.toUInt8
      (by simp [utf8EncodeChar_ascii (isAscii_of_isSpace space)])
    simpa [space] using blank
  | @directive body rest noNewline stops =>
    exact ⟨rfl, toLineEnd_ofChars (by simpa using noNewline) stops⟩
  | @lineComment body rest noNewline stops =>
    exact ⟨⟨ofChars body, rfl⟩, toLineEnd_ofChars (by simpa using noNewline) stops⟩
  | @blockComment body rest inner =>
    have free : ¬ closerBytes <:+: ofChars body := fun inside =>
      inner (infix_ofChars isAscii_closer inside)
    refine ⟨ofChars (body ++ closer), rfl, .inl ⟨ofChars body, ofChars_append .., ?_⟩⟩
    intro earlier later equal
    rw [ofChars_append] at equal
    exact length_le_of_closer free equal
  | @openComment body inner =>
    exact ⟨ofChars body, rfl, .inr ⟨rfl, fun inside => inner (infix_ofChars isAscii_closer inside)⟩⟩
  | @lexeme kind text rest admits stops =>
    obtain ⟨d, more, equal, starts, quote⟩ := exists_written_cons admits stops
    refine ⟨?_, ?_, ?_, ?_⟩
    · simp [equal, String.utf8EncodeChar_ne_nil]
    · rw [← ofChars_append, equal]
      exact not_beginsSkipped starts
    · rw [equal, head?_ofChars (by decide), ← quote]
      simp
    · rw [encode_ofList]
      split
      next string =>
        left
        rw [written, if_pos string, ofChars_ascii_cons (by decide), ofChars_append]
        rfl
      next other => rw [written, if_neg other]
  | openString free =>
    refine ⟨by simp [String.utf8EncodeChar_ne_nil], ?_, by simp; rfl, ?_⟩
    · rw [ofChars_nil, List.append_nil]
      exact not_beginsSkipped (startsLexeme_quote _)
    · rw [if_pos rfl, encode_ofList]
      exact .inr ⟨rfl, rfl⟩

/-! ## The whole source -/

theorem tiles_place {chars : List Char} {parts : List Part} (falls : Parts chars parts)
    (start : Nat) (line : UInt32) :
    Tiles start (place start line parts) (start + (ofChars chars).length) := by
  induction falls generalizing start line with
  | nil => rfl
  | @cons form own rest parts reads tail ih =>
    obtain ⟨d, more, equal⟩ := List.exists_cons_of_ne_nil reads.own_ne_nil
    have nonempty : 0 < (ofChars own).length := by
      rw [equal, ofChars_cons, List.length_append, String.length_utf8EncodeChar]
      have := d.utf8Size_pos
      omega
    refine ⟨rfl, Nat.lt_add_of_pos_right nonempty, ?_⟩
    rw [ofChars_append, List.length_append, ← Nat.add_assoc]
    exact ih _ _

/-- What is tiled is lost nowhere. -/
theorem flatMap_own {source : List UInt8} {segments : List Segment} {start stop : Nat}
    (tiles : Tiles start segments stop) :
    segments.flatMap (Segment.own source) = (source.drop start).take (stop - start) ∧ start ≤ stop := by
  induction segments generalizing start with
  | nil =>
    cases tiles
    simp
  | cons segment segments ih =>
    obtain ⟨rfl, before, rest⟩ := tiles
    obtain ⟨equal, after⟩ := ih rest
    refine ⟨?_, by omega⟩
    -- Up to the end of the first segment, and from there on.
    have split : stop - segment.start =
        (segment.stop - segment.start) + (stop - segment.stop) := by omega
    have drop : source.drop segment.stop =
        (source.drop segment.start).drop (segment.stop - segment.start) := by
      rw [List.drop_drop, Nat.add_sub_cancel' (Nat.le_of_lt before)]
    rw [List.flatMap_cons, equal, Segment.own, split, List.take_add, drop]

/-- The segment stands in the source as the characters `own`, with `rest` behind them, and is what
    the grammar has for these. -/
structure Segment.Spans (source : List UInt8) (segment : Segment) (form : Form)
    (own rest : List Char) : Prop where
  reads : Reads form own rest
  ahead : source.drop segment.start = ofChars (own ++ rest)
  stop : segment.stop = segment.start + (ofChars own).length
  piece : ∃ line, segment.piece = form.piece line

namespace Segment.Spans

variable {source : List UInt8} {segment : Segment} {form : Form} {own rest : List Char}

theorem own_eq (spans : segment.Spans source form own rest) : segment.own source = ofChars own := by
  rw [Segment.own, spans.ahead, spans.stop, Nat.add_sub_cancel_left, ofChars_append, List.take_left]

theorem behind_eq (spans : segment.Spans source form own rest) :
    segment.behind source = ofChars rest := by
  rw [Segment.behind, spans.stop, ← List.drop_drop, spans.ahead, ofChars_append, List.drop_left]

end Segment.Spans

theorem spans_reads {form : Form} {own rest : List Char} (reads : Reads form own rest)
    (before : List Char) (line : UInt32) :
    Segment.Spans (ofChars (before ++ (own ++ rest)))
      { start := (ofChars before).length
        stop := (ofChars before).length + (ofChars own).length
        piece := form.piece line } form own rest where
  reads := reads
  ahead := by rw [ofChars_append, List.drop_left]
  stop := rfl
  piece := ⟨line, rfl⟩

theorem spans_place {chars : List Char} {parts : List Part} (falls : Parts chars parts)
    (before : List Char) (line : UInt32) :
    ∀ segment ∈ place (ofChars before).length line parts,
      ∃ form own rest, segment.Spans (ofChars (before ++ chars)) form own rest := by
  induction falls generalizing before line with
  | nil => simp [place]
  | @cons form own rest parts reads tail ih =>
    rw [place, List.forall_mem_cons]
    refine ⟨⟨form, own, rest, spans_reads reads before line⟩, ?_⟩
    have later := ih (before ++ own) (line + newlines own)
    rwa [ofChars_append, List.length_append, List.append_assoc] at later

/-- What holds of pieces and their bytes as of forms and their characters is the same all along. -/
theorem map_place {β : Type} {f : Piece → List UInt8 → β} {g : Form → List Char → β}
    (agree : ∀ form line own, f (form.piece line) (ofChars own) = g form own)
    {chars : List Char} {parts : List Part} (falls : Parts chars parts) (before : List Char)
    (line : UInt32) :
    (place (ofChars before).length line parts).map
        (fun segment => f segment.piece (segment.own (ofChars (before ++ chars)))) =
      parts.map fun part => g part.form part.own := by
  induction falls generalizing before line with
  | nil => rfl
  | @cons form own rest parts reads tail ih =>
    have stop : (ofChars before).length + (ofChars own).length = (ofChars (before ++ own)).length := by
      rw [ofChars_append, List.length_append]
    have later := ih (before ++ own) (line + newlines own)
    rw [List.append_assoc, ← stop] at later
    rw [place, List.map_cons, later, (spans_reads reads before line).own_eq, agree, List.map_cons]

theorem tiles_scan (text : String) : Tiles 0 (scan text).1.toList (encode text).length := by
  obtain ⟨parts, falls⟩ := exists_parts text.toList
  have tiles := tiles_place falls 0 1
  rwa [Nat.zero_add, ← encode_eq_ofChars, ← (scan_of_parts falls).1] at tiles

theorem spans_scan (text : String) :
    ∀ segment ∈ (scan text).1.toList, ∃ form own rest, segment.Spans (encode text) form own rest := by
  obtain ⟨parts, falls⟩ := exists_parts text.toList
  rw [(scan_of_parts falls).1, encode_eq_ofChars]
  exact spans_place falls [] 1

theorem map_scan {β : Type} {f : Piece → List UInt8 → β} {g : Form → List Char → β}
    (agree : ∀ form line own, f (form.piece line) (ofChars own) = g form own)
    {text : String} {parts : List Part} (falls : Parts text.toList parts) :
    (scan text).1.toList.map (fun segment => f segment.piece (segment.own (encode text))) =
      parts.map fun part => g part.form part.own := by
  rw [(scan_of_parts falls).1, encode_eq_ofChars]
  exact map_place agree falls [] 1

theorem form_of_piece {form : Form} {line : UInt32} {token : Token}
    (piece : form.piece line = .lexeme token) : form = .lexeme token.kind token.text.toList := by
  cases form with
  | lexeme kind text =>
    cases piece
    rw [String.toList_ofList]
  | blank | directive | lineComment | blockComment => contradiction

theorem exists_spans_of_token? {text : String} {segment : Segment} {token : Token}
    (member : segment ∈ (scan text).1.toList) (made : segment.token? = some token) :
    ∃ own rest, segment.Spans (encode text) (.lexeme token.kind token.text.toList) own rest := by
  obtain ⟨form, own, rest, spans⟩ := spans_scan text segment member
  obtain ⟨line, piece⟩ := spans.piece
  rw [Cursor.piece_of_token? made] at piece
  exact ⟨own, rest, form_of_piece piece.symm ▸ spans⟩

theorem covers_scan (text : String) :
    ∀ segment ∈ (scan text).1.toList, segment.piece.Covers (segment.own (encode text))
      (segment.behind (encode text)) := by
  intro segment member
  obtain ⟨form, own, rest, spans⟩ := spans_scan text segment member
  obtain ⟨line, piece⟩ := spans.piece
  rw [spans.own_eq, spans.behind_eq, piece]
  exact covers_of_reads spans.reads line

/-! ## The tokens of the segments -/

/-- The tokens are those of the lexemes among the segments, in order. -/
inductive Makes : List Segment → List Token → Prop
  | nil : Makes [] []
  | lexeme {segment : Segment} {token : Token} {segments : List Segment} {tokens : List Token}
      (piece : segment.piece = .lexeme token) (others : Makes segments tokens) :
      Makes (segment :: segments) (token :: tokens)
  | skipped {segment : Segment} {segments : List Segment} {tokens : List Token}
      (piece : ∀ token, segment.piece ≠ .lexeme token) (others : Makes segments tokens) :
      Makes (segment :: segments) tokens

theorem makes_filterMap (segments : List Segment) :
    Makes segments (segments.filterMap Segment.token?) := by
  induction segments with
  | nil => exact .nil
  | cons segment segments ih =>
    cases piece : segment.piece with
    | lexeme token =>
      have made : segment.token? = some token := by rw [Segment.token?, piece]
      rw [List.filterMap_cons_some made]
      exact .lexeme piece ih
    | blank | directive | lineComment | blockComment =>
      have made : segment.token? = none := by rw [Segment.token?, piece]
      rw [List.filterMap_cons_none made]
      exact .skipped (fun token same => by rw [piece] at same; cases same) ih

/-- A source is its segments, one behind the other, each as its piece has it; and its tokens are
    those of the lexemes among them, in order, with one more at the end. -/
theorem scan_segmentation (text : String) :
    Tiles 0 (scan text).1.toList (encode text).length ∧
    (scan text).1.toList.flatMap (Segment.own (encode text)) = encode text ∧
    (∀ segment ∈ (scan text).1.toList, segment.piece.Covers (segment.own (encode text))
      (segment.behind (encode text))) ∧
    ∃ tokens, Makes (scan text).1.toList tokens ∧
      tokenize text = tokens ++ [Token.endOfFile (scan text).2.line] := by
  refine ⟨tiles_scan text, ?_, covers_scan text, _, makes_filterMap _, rfl⟩
  rw [(flatMap_own (tiles_scan text)).1]
  simp

end CTokens
