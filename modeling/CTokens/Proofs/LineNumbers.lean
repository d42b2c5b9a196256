import CTokens.Proofs.Moves
import CTokens.Proofs.Segmentation

/-! # Line numbers

The line of a cursor is one more than the newlines it has passed, in 32 bits (`OnLine`).  Every
skip keeps this, so every cursor of a run has it, and a token gets its line from the cursor in
front of its lexeme.  As long as the newlines of the source can be counted in 32 bits, the
lines are exact and never decrease.
-/

namespace CTokens

open Utf8

namespace Cursor

/-- The cursor stands in the source, on the line that the newlines behind it make. -/
structure OnLine (source : List UInt8) (c : Cursor) : Prop where
  bytes : c.bytes = source
  line : c.line = UInt32.ofNat (1 + (source.take c.pos).count newline)

theorem take_pos_bytes (c : Cursor) : c.bytes.take c.pos = c.behind.reverse := by
  rw [bytes, c.pos_eq, ← List.length_reverse, List.take_left]

theorem onLine_ofText (text : String) : (ofText text).OnLine (encode text) :=
  ⟨by simp [ofText, ofBytes, bytes], by simp [ofText, ofBytes]⟩

theorem OnLine.skip {source : List UInt8} {c : Cursor} (onLine : c.OnLine source) (n : Nat) :
    (c.skip n).OnLine source := by
  obtain ⟨rfl, line⟩ := onLine
  refine ⟨bytes_skip n c, ?_⟩
  -- The newlines passed are added to those behind, and both sums wrap in the same way.
  rw [line_skip, line, ← bytes_skip n c, take_pos_bytes, bytes_skip n c, take_pos_bytes,
    behind_skip, List.reverse_append, List.reverse_reverse, List.count_append, ← Nat.add_assoc,
    UInt32.ofNat_add (1 + _)]

theorem OnLine.steps {source : List UInt8} {c d : Cursor} {segments : List Segment}
    (onLine : c.OnLine source) (steps : c.Steps segments d) :
    d.OnLine source ∧ ∀ segment ∈ segments, ∀ token, segment.token? = some token →
      token.line = UInt32.ofNat (1 + (source.take segment.start).count newline) := by
  induction steps with
  | refl => exact ⟨onLine, by simp⟩
  | @step c d e segment segments next rest ih =>
    obtain ⟨n, skips⟩ := skips_nextSegment? next
    -- The token was given its line in front of the segment, where `onLine` still speaks.
    obtain ⟨start, -, first⟩ := segment_of_nextSegment? next
    obtain ⟨last, others⟩ := ih (skips ▸ onLine.skip n)
    refine ⟨last, ?_⟩
    rw [List.forall_mem_cons]
    refine ⟨?_, others⟩
    intro token made
    rw [first token made, onLine.line, start]

end Cursor

/-! ## The tokens of a source -/

/-- The tokens of a source but the last, each with the place of the first byte of its lexeme. -/
def placedTokens (text : String) : List (Nat × Token) :=
  (scan text).1.toList.filterMap fun segment => segment.token?.map fun token => (segment.start, token)

theorem tokenize_eq_placedTokens (text : String) :
    tokenize text = (placedTokens text).map Prod.snd ++ [Token.endOfFile (scan text).2.line] := by
  have segments : ∀ segment : Segment,
      (segment.token?.map fun token => (segment.start, token)).map Prod.snd = segment.token? := by
    intro segment
    cases segment.token? <;> rfl
  rw [placedTokens, List.map_filterMap]
  simp only [segments]
  rfl

def lineAt (source : List UInt8) (place : Nat) : Nat :=
  1 + (source.take place).count Cursor.newline

theorem lineAt_mono (source : List UInt8) {first second : Nat} (le : first ≤ second) :
    lineAt source first ≤ lineAt source second :=
  Nat.add_le_add_left ((List.take_prefix_take_left le).sublist.count_le _) 1

theorem lineAt_le (source : List UInt8) (place : Nat) :
    lineAt source place ≤ 1 + source.count Cursor.newline :=
  Nat.add_le_add_left ((List.take_prefix place source).sublist.count_le _) 1

theorem exists_segment {text : String} {place : Nat} {token : Token}
    (member : (place, token) ∈ placedTokens text) :
    ∃ segment ∈ (scan text).1.toList, segment.token? = some token ∧ segment.start = place := by
  obtain ⟨segment, inside, placed⟩ := List.mem_filterMap.1 member
  obtain ⟨_, made, equal⟩ := Option.map_eq_some_iff.1 placed
  cases equal
  exact ⟨segment, inside, made, rfl⟩

theorem line_of_mem_placedTokens {text : String} {place : Nat} {token : Token}
    (member : (place, token) ∈ placedTokens text) :
    token.line = UInt32.ofNat (lineAt (encode text) place) := by
  obtain ⟨segment, inside, made, rfl⟩ := exists_segment member
  exact ((Cursor.onLine_ofText text).steps (steps_scan text).1).2 segment inside token made

/-- What a token stands as in the source, a closing quote apart. -/
def Token.opening (token : Token) : List UInt8 :=
  if token.kind = .string then '"'.toUInt8 :: encode token.text else encode token.text

theorem opening_of_mem_placedTokens {text : String} {place : Nat} {token : Token}
    (member : (place, token) ∈ placedTokens text) :
    token.opening <+: (encode text).drop place := by
  obtain ⟨segment, inside, made, rfl⟩ := exists_segment member
  have covers := covers_scan text segment inside
  rw [Cursor.piece_of_token? made] at covers
  obtain ⟨-, -, -, spelled⟩ := covers
  -- What the segment covers is itself the front of all that lies behind its place.
  refine List.IsPrefix.trans ?_ (List.take_prefix (segment.stop - segment.start) _)
  change _ <+: segment.own (encode text)
  rw [Token.opening]
  split at spelled
  next string =>
    rw [if_pos string]
    rcases spelled with closed | ⟨unclosed, -⟩
    · exact closed ▸ ⟨['"'.toUInt8], rfl⟩
    · exact unclosed ▸ List.prefix_rfl
  next other =>
    rw [if_neg other]
    exact spelled ▸ List.prefix_rfl

theorem line_scan (text : String) :
    (scan text).2.line = UInt32.ofNat (1 + (encode text).count Cursor.newline) := by
  obtain ⟨steps, ends⟩ := steps_scan text
  obtain ⟨bytes, line⟩ := ((Cursor.onLine_ofText text).steps steps).1
  have last : (scan text).2.ahead = [] := by
    simpa [Cursor.nextSegment?, Cursor.peek?] using ends
  have whole : (encode text).take (scan text).2.pos = encode text := by
    rw [← bytes, Cursor.take_pos_bytes, Cursor.bytes, last, List.append_nil]
  rw [line, whole]

theorem pairwise_of_tiles {start stop : Nat} {segments : List Segment}
    (tiles : Tiles start segments stop) :
    segments.Pairwise (fun s t => s.start < t.start) ∧ ∀ s ∈ segments, start ≤ s.start := by
  induction segments generalizing start with
  | nil => simp
  | cons segment segments ih =>
    obtain ⟨rfl, before, rest⟩ := tiles
    obtain ⟨ascending, behind⟩ := ih rest
    have later : ∀ s ∈ segments, segment.start < s.start := fun s inside =>
      Nat.lt_of_lt_of_le before (behind s inside)
    refine ⟨.cons later ascending, List.forall_mem_cons.2 ⟨Nat.le_refl _, ?_⟩⟩
    exact fun s inside => Nat.le_of_lt (later s inside)

theorem pairwise_placedTokens (text : String) :
    (placedTokens text).Pairwise (fun p q => p.1 < q.1) := by
  rw [placedTokens, List.pairwise_filterMap]
  refine (pairwise_of_tiles (tiles_scan text)).1.imp ?_
  intro s t less p first q second
  obtain ⟨_, _, rfl⟩ := Option.map_eq_some_iff.1 first
  obtain ⟨_, _, rfl⟩ := Option.map_eq_some_iff.1 second
  exact less

theorem toNat_lineAt {source : List UInt8} (few : source.count Cursor.newline < UInt32.size - 1)
    (place : Nat) : (UInt32.ofNat (lineAt source place)).toNat = lineAt source place := by
  have le := lineAt_le source place
  exact UInt32.toNat_ofNat_of_lt' (by omega)

section Exact

variable {text : String} (few : (encode text).count Cursor.newline < UInt32.size - 1)

include few

theorem toNat_line_of_mem {place : Nat} {token : Token} (member : (place, token) ∈ placedTokens text) :
    token.line.toNat = lineAt (encode text) place := by
  rw [line_of_mem_placedTokens member, toNat_lineAt few]

theorem toNat_line_scan : (scan text).2.line.toNat = 1 + (encode text).count Cursor.newline := by
  have ends := toNat_lineAt few (encode text).length
  rwa [lineAt, List.take_length, ← line_scan] at ends

theorem toNat_line_le {token : Token} (member : token ∈ tokenize text) :
    token.line.toNat ≤ 1 + (encode text).count Cursor.newline := by
  rw [tokenize_eq_placedTokens, List.mem_append, List.mem_map, List.mem_singleton] at member
  rcases member with ⟨⟨place, token⟩, placed, rfl⟩ | rfl
  · rw [toNat_line_of_mem few placed]
    exact lineAt_le ..
  · exact Nat.le_of_eq (toNat_line_scan few)

end Exact

/-- The tokens of a source but the last are found in it one behind the other, each on the line
    of the place where it begins; the last one is on the line that the source ends on, and no
    token is on a line before that of another. -/
theorem tokenize_lines (text : String) (few : (encode text).count Cursor.newline < UInt32.size - 1) :
    tokenize text = (placedTokens text).map Prod.snd ++ [Token.endOfFile (scan text).2.line] ∧
    (placedTokens text).Pairwise (fun p q => p.1 < q.1) ∧
    (∀ place token, (place, token) ∈ placedTokens text →
      token.opening <+: (encode text).drop place ∧
      token.line.toNat = 1 + ((encode text).take place).count Cursor.newline) ∧
    (scan text).2.line.toNat = 1 + (encode text).count Cursor.newline ∧
    (tokenize text).Pairwise (fun t u => t.line ≤ u.line) := by
  have placed : ∀ place token, (place, token) ∈ placedTokens text →
      token.line.toNat = lineAt (encode text) place := fun _ _ => toNat_line_of_mem few
  have last := toNat_line_scan few
  refine ⟨tokenize_eq_placedTokens text, pairwise_placedTokens text, ?_, last, ?_⟩
  · intro place token member
    exact ⟨opening_of_mem_placedTokens member, placed place token member⟩
  rw [tokenize_eq_placedTokens, List.pairwise_append]
  refine ⟨?_, List.pairwise_singleton .., ?_⟩
  · rw [List.pairwise_map]
    refine (pairwise_placedTokens text).imp_of_mem ?_
    rintro ⟨first, t⟩ ⟨second, u⟩ inside others less
    rw [UInt32.le_iff_toNat_le, placed first t inside, placed second u others]
    exact lineAt_mono _ (Nat.le_of_lt less)
  · intro t inside u ends
    obtain ⟨⟨place, t⟩, member, rfl⟩ := List.mem_map.1 inside
    rw [List.mem_singleton.1 ends, UInt32.le_iff_toNat_le, placed place t member]
    exact last ▸ lineAt_le (encode text) place

/-- The newline within a literal counts for the token behind it, and not for the literal. -/
theorem tokenize_lines_over_a_string :
    (encode "a\n\"b\nc\" d").count Cursor.newline < UInt32.size - 1 ∧
    (∃ literal, (2, literal) ∈ placedTokens "a\n\"b\nc\" d" ∧ literal.text = "b\nc" ∧
      literal.line.toNat = 2) ∧
    (∃ word, (8, word) ∈ placedTokens "a\n\"b\nc\" d" ∧ word.text = "d" ∧ word.line.toNat = 3) ∧
    (scan "a\n\"b\nc\" d").2.line.toNat = 3 ∧
    (tokenize "a\n\"b\nc\" d").Pairwise (fun t u => t.line ≤ u.line) := by
  have few : (encode "a\n\"b\nc\" d").count Cursor.newline < UInt32.size - 1 := by decide
  have steps : (Cursor.ofText "a\n\"b\nc\" d").Steps
      [{ start := 0, stop := 1, piece := .lexeme { kind := .identifier, text := "a", line := 1 } },
       { start := 1, stop := 2, piece := .blank },
       { start := 2, stop := 7, piece := .lexeme { kind := .string, text := "b\nc", line := 2 } },
       { start := 7, stop := 8, piece := .blank },
       { start := 8, stop := 9, piece := .lexeme { kind := .identifier, text := "d", line := 3 } }]
      ((Cursor.ofText "a\n\"b\nc\" d").skip 9) :=
    .step rfl (.step rfl (.step rfl (.step rfl (.step rfl .refl))))
  have placed : placedTokens "a\n\"b\nc\" d" =
      [(0, { kind := .identifier, text := "a", line := 1 }),
       (2, { kind := .string, text := "b\nc", line := 2 }),
       (8, { kind := .identifier, text := "d", line := 3 })] := by
    rw [placedTokens, (scan_of_steps steps rfl).1]
    rfl
  obtain ⟨-, -, lines, last, ordered⟩ := tokenize_lines _ few
  have literal := placed ▸ List.mem_cons_of_mem _ List.mem_cons_self
  have word := placed ▸ List.mem_cons_of_mem _ (List.mem_cons_of_mem _ List.mem_cons_self)
  exact ⟨few, ⟨_, literal, rfl, (lines 2 _ literal).2⟩, ⟨_, word, rfl, (lines 8 _ word).2⟩, last,
    ordered⟩

end CTokens
