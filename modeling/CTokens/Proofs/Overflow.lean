import CTokens.Proofs.Blanking
import CTokens.Proofs.Histories

/-! # Lines that do not fit in 32 bits

The line of a cursor has 32 bits, and passing a newline adds one to it whether or not the sum fits.
A text can have more newlines than that, so that the line starts over at 0 in its midst
(`lines_start_over`).  Where the sum is checked instead, reading goes on only to the first newline
that does not fit: `CheckedSteps` is the loop of the scanner with that check in each step.

The check fails nowhere in a text with fewer than `UInt32.size - 1` newlines, and fails in every
other text (`line_in_32_bits`).  `Within` is the invariant of a checked run: the line is one more
than the newlines passed, and that number fits.
-/

namespace CTokens

open Utf8

namespace Cursor

/-- The next byte ends a line, and the number of the one after it does not fit in 32 bits. -/
def Overflows (c : Cursor) : Prop :=
  c.peek? = some newline ∧ c.line.toNat + 1 = UInt32.size

/-- A byte that is passed on the way from the one cursor to the other overflows the line. -/
def OverflowsTo (c d : Cursor) : Prop :=
  ∃ n, (c.skip n).pos < d.pos ∧ (c.skip n).Overflows

/-- Reading segments one by one, as `Steps` does, where an overflow stops the run. -/
inductive CheckedSteps : Cursor → List Segment → Cursor → Prop
  | refl {c : Cursor} : CheckedSteps c [] c
  | step {c d e : Cursor} {segment : Segment} {segments : List Segment}
      (next : c.nextSegment? = some (segment, d)) (fits : ¬ c.OverflowsTo d)
      (rest : CheckedSteps d segments e) : CheckedSteps c (segment :: segments) e

theorem CheckedSteps.steps {c d : Cursor} {segments : List Segment}
    (checked : c.CheckedSteps segments d) : c.Steps segments d := by
  induction checked with
  | refl => exact .refl
  | step next _ _ ih => exact .step next ih

/-! ## Lines that fit -/

/-- The cursor stands in the source, on a line whose number fits in 32 bits. -/
structure Within (source : List UInt8) (c : Cursor) : Prop extends c.OnLine source where
  fits : lineAt source c.pos < UInt32.size

variable {source : List UInt8} {c d : Cursor}

theorem Within.toNat_line (within : c.Within source) : c.line.toNat = lineAt source c.pos := by
  rw [within.line]
  exact UInt32.toNat_ofNat_of_lt' within.fits

theorem lineAt_advance (bytes : c.bytes = source) :
    lineAt source c.advance.pos =
      lineAt source c.pos + if c.peek? = some newline then 1 else 0 := by
  have here : source.take c.pos = c.behind.reverse := bytes ▸ c.take_pos_bytes
  have there : source.take c.advance.pos = c.advance.behind.reverse :=
    (c.bytes_advance.trans bytes) ▸ c.advance.take_pos_bytes
  rw [lineAt, lineAt, here, there, behind_advance, List.reverse_append, List.reverse_reverse,
    List.count_append, ← Nat.add_assoc, peek?]
  cases c.ahead with
  | nil => rfl
  | cons byte rest => simp [List.count_cons]

theorem Within.advance (within : c.Within source) (fits : ¬ c.Overflows) :
    c.advance.Within source := by
  refine ⟨within.toOnLine.skip 1, ?_⟩
  rw [lineAt_advance within.bytes]
  have less := within.fits
  split
  next newline =>
    -- The number of this line is not the greatest one, or passing its newline would overflow.
    have other : c.line.toNat + 1 ≠ UInt32.size := fun equal => fits ⟨newline, equal⟩
    rw [within.toNat_line] at other
    omega
  next => exact less

theorem Within.skip (within : c.Within source) {n : Nat}
    (fits : ∀ m, m < n → ¬ (c.skip m).Overflows) : (c.skip n).Within source := by
  induction n generalizing c with
  | zero => exact within
  | succ n ih =>
    refine ih (within.advance (fits 0 (Nat.succ_pos n))) fun m less => ?_
    exact fits (m + 1) (Nat.succ_lt_succ less)

theorem lt_length_of_overflows {n : Nat} (overflows : (c.skip n).Overflows) :
    n < c.ahead.length := by
  have next := overflows.1
  rw [peek?, ahead_skip] at next
  refine Nat.lt_of_not_le fun le => ?_
  rw [List.drop_of_length_le le] at next
  cases next

theorem Within.nextSegment? {segment : Segment} (within : c.Within source)
    (next : c.nextSegment? = some (segment, d)) (fits : ¬ c.OverflowsTo d) : d.Within source := by
  obtain ⟨n, rfl⟩ := skips_nextSegment? next
  refine within.skip fun m less overflows => fits ⟨m, ?_, overflows⟩
  have ahead := lt_length_of_overflows overflows
  rw [pos_skip, pos_skip]
  omega

theorem Within.line_le (within : c.Within source) (other : d.Within source) (le : c.pos ≤ d.pos) :
    c.line ≤ d.line := by
  rw [UInt32.le_iff_toNat_le, within.toNat_line, other.toNat_line]
  exact lineAt_mono source le

/-- In a checked run the lines are exact up to its end, and so they never decrease. -/
theorem Within.checkedSteps {e : Cursor} {segments : List Segment} (within : c.Within source)
    (checked : c.CheckedSteps segments e) :
    e.Within source ∧
      (segments.filterMap Segment.token? ++ [Token.endOfFile e.line]).Pairwise
        (fun t u => t.line ≤ u.line) ∧
      ∀ t ∈ segments.filterMap Segment.token? ++ [Token.endOfFile e.line], c.line ≤ t.line := by
  induction checked with
  | refl =>
    refine ⟨within, List.pairwise_singleton .., fun t member => ?_⟩
    rw [List.mem_singleton.1 member]
    exact UInt32.le_refl _
  | @step c d e segment segments next fits rest ih =>
    have behind := within.nextSegment? next fits
    obtain ⟨last, ascending, above⟩ := ih behind
    have le : c.line ≤ d.line := within.line_le behind (skips_nextSegment? next).pos_le
    have above : ∀ t ∈ segments.filterMap Segment.token? ++ [Token.endOfFile e.line],
        c.line ≤ t.line := fun t member => UInt32.le_trans le (above t member)
    refine ⟨last, ?_⟩
    cases made : segment.token? with
    | none =>
      rw [List.filterMap_cons_none made]
      exact ⟨ascending, above⟩
    | some token =>
      -- The token is on the line where the step begins, and what follows is not above it.
      have line : token.line = c.line := (segment_of_nextSegment? next).2.2 token made
      rw [List.filterMap_cons_some made, List.cons_append]
      refine ⟨.cons (fun t member => line ▸ above t member) ascending, ?_⟩
      exact List.forall_mem_cons.2 ⟨line ▸ UInt32.le_refl _, above⟩

/-! ## Where the line overflows -/

section Few

variable {text : String} (few : (encode text).count newline < UInt32.size - 1)

include few

theorem not_overflows (skips : (ofText text).Skips c) : ¬ c.Overflows := by
  rintro ⟨next, greatest⟩
  have here : c.line.toNat = lineAt (encode text) c.pos := (stands_of_skips skips few).line
  -- With the newline that comes next there would be too many of them.
  have there := lineAt_advance (onLine_of_skips skips).bytes
  have most := lineAt_le (encode text) c.advance.pos
  rw [if_pos next] at there
  omega

theorem checkedSteps_of_steps {segments : List Segment} (skips : (ofText text).Skips c)
    (steps : c.Steps segments d) : c.CheckedSteps segments d := by
  induction steps with
  | refl => exact .refl
  | @step c d e segment segments next rest ih =>
    refine .step next ?_ (ih (skips.trans (skips_nextSegment? next)))
    rintro ⟨n, -, overflows⟩
    exact not_overflows few (skips.trans ⟨n, rfl⟩) overflows

end Few

end Cursor

/-- With each addition to the line checked, the text is read to its end and has these tokens. -/
def ReadsChecked (text : String) (tokens : List Token) : Prop :=
  ∃ segments last, (Cursor.ofText text).CheckedSteps segments last ∧ last.nextSegment? = none ∧
    tokens = segments.filterMap Segment.token? ++ [Token.endOfFile last.line]

variable {text : String} {tokens : List Token}

theorem within_ofText (text : String) : (Cursor.ofText text).Within (encode text) := by
  refine ⟨Cursor.onLine_ofText text, ?_⟩
  change 1 + ((encode text).take 0).count Cursor.newline < UInt32.size
  rw [List.take_zero]
  decide

theorem ReadsChecked.eq_tokenize (reads : ReadsChecked text tokens) : tokens = tokenize text := by
  obtain ⟨segments, last, checked, ends, rfl⟩ := reads
  exact (tokenize_of_steps checked.steps ends).symm

theorem ReadsChecked.few (reads : ReadsChecked text tokens) :
    (encode text).count Cursor.newline < UInt32.size - 1 := by
  obtain ⟨segments, last, checked, ends, -⟩ := reads
  have fits := ((within_ofText text).checkedSteps checked).1.fits
  rw [← (scan_of_steps checked.steps ends).2, pos_scan, lineAt, List.take_length] at fits
  omega

theorem readsChecked_tokenize (few : (encode text).count Cursor.newline < UInt32.size - 1) :
    ReadsChecked text (tokenize text) := by
  obtain ⟨steps, ends⟩ := steps_scan text
  exact ⟨_, _, Cursor.checkedSteps_of_steps few (.refl _) steps, ends, rfl⟩

theorem ReadsChecked.pairwise (reads : ReadsChecked text tokens) :
    tokens.Pairwise fun t u => t.line ≤ u.line := by
  obtain ⟨segments, last, checked, -, rfl⟩ := reads
  exact ((within_ofText text).checkedSteps checked).2.1

/-- Where there are fewer newlines than that no cursor overflows, and with as many one must. -/
theorem exists_overflows_iff :
    (∃ n, ((Cursor.ofText text).skip n).Overflows) ↔
      UInt32.size - 1 ≤ (encode text).count Cursor.newline := by
  constructor
  · rintro ⟨n, overflows⟩
    exact Nat.le_of_not_lt fun few => Cursor.not_overflows few ⟨n, rfl⟩ overflows
  · intro many
    refine Classical.byContradiction fun nowhere => ?_
    -- Without an overflow the line still fits behind the last byte.
    have fits := ((within_ofText text).skip (n := (encode text).length)
      fun m _ overflows => nowhere ⟨m, overflows⟩).fits
    rw [Cursor.pos_skip_ofText (Nat.le_refl _), lineAt, List.take_length] at fits
    omega

/-- The line overflows in a text if and only if the text has `UInt32.size - 1` newlines or more.
    If it has fewer, it is read in the same way with the overflow checked or not, and no token is on
    a line before that of another; if it has as many, a check stops the reading.  With no check each
    token is on the line that the newlines before it make, less a multiple of `UInt32.size`. -/
theorem line_in_32_bits (text : String) :
    ((∃ n, ((Cursor.ofText text).skip n).Overflows) ↔
      UInt32.size - 1 ≤ (encode text).count Cursor.newline) ∧
    (∀ tokens, ReadsChecked text tokens ↔
      (encode text).count Cursor.newline < UInt32.size - 1 ∧ tokens = tokenize text) ∧
    ((encode text).count Cursor.newline < UInt32.size - 1 →
      (tokenize text).Pairwise fun t u => t.line ≤ u.line) ∧
    tokenize text = (placedTokens text).map Prod.snd ++ [Token.endOfFile (scan text).2.line] ∧
    (∀ place token, (place, token) ∈ placedTokens text →
      token.line.toNat = (1 + ((encode text).take place).count Cursor.newline) % UInt32.size) ∧
    (scan text).2.line.toNat =
      (1 + (encode text).count Cursor.newline) % UInt32.size := by
  refine ⟨exists_overflows_iff, fun tokens => ⟨fun reads => ⟨reads.few, reads.eq_tokenize⟩, ?_⟩,
    fun few => (readsChecked_tokenize few).pairwise, tokenize_eq_placedTokens text, ?_, ?_⟩
  · rintro ⟨few, rfl⟩
    exact readsChecked_tokenize few
  · intro place token member
    rw [line_of_mem_placedTokens member]
    exact UInt32.toNat_ofNat'
  · rw [line_scan]
    exact UInt32.toNat_ofNat'

/-! ## Lines that start over -/

theorem tokenize_letter_newlines (n : Nat) :
    tokenize (String.ofList ('a' :: List.replicate n '\n')) =
      [{ kind := .identifier, text := "a", line := 1 }, .endOfFile (1 + UInt32.ofNat n)] := by
  have letter : Admits .identifier ['a'] :=
    .identifier rfl (List.forall_mem_nil _) fun word => by cases word <;> decide
  have stops : Stops (continues .identifier ['a']) (List.replicate n '\n') := by
    intro c first
    rw [List.eq_of_mem_replicate (List.mem_of_mem_head? first)]
    rfl
  have spaces : ∀ c ∈ List.replicate n '\n', isSpace c = true := by
    intro c member
    rw [List.eq_of_mem_replicate member]
    rfl
  have lines : newlines (List.replicate n '\n') = UInt32.ofNat n := by
    rw [newlines, List.count_replicate_self]
  -- Each newline is a part of its own.
  have behind : Parts (List.replicate n '\n') (blankParts (List.replicate n '\n') ++ []) := by
    have falls := Parts.blankParts spaces .nil
    rwa [List.append_nil] at falls
  have falls := Parts.cons (.lexeme letter stops) behind
  rw [← String.toList_ofList (l := written .identifier ['a'] ++ _)] at falls
  have tokens := tokenize_of_parts falls
  rw [tokensFrom, tokensFrom_blankParts, lines] at tokens
  exact tokens

theorem count_newline_letter_newlines (n : Nat) :
    (encode (String.ofList ('a' :: List.replicate n '\n'))).count Cursor.newline = n := by
  rw [encode_ofList, Cursor.newline, count_ofChars (by decide), List.count_cons_of_ne (by decide),
    List.count_replicate_self]

/-- A letter is on line 1, and behind `UInt32.size - 1` newlines the text ends on line 0. -/
theorem lines_start_over :
    let text := String.ofList ('a' :: List.replicate (UInt32.size - 1) '\n')
    (∃ n, ((Cursor.ofText text).skip n).Overflows) ∧
    (∀ tokens, ¬ ReadsChecked text tokens) ∧
    tokenize text = [{ kind := .identifier, text := "a", line := 1 }, .endOfFile 0] ∧
    ¬ (tokenize text).Pairwise fun t u => t.line ≤ u.line := by
  intro text
  have many : (encode text).count Cursor.newline = UInt32.size - 1 :=
    count_newline_letter_newlines _
  have tokens : tokenize text = [{ kind := .identifier, text := "a", line := 1 }, .endOfFile 0] :=
    tokenize_letter_newlines _
  refine ⟨exists_overflows_iff.2 (Nat.le_of_eq many.symm), fun tokens reads => ?_, tokens, ?_⟩
  · exact absurd (many ▸ reads.few) (Nat.lt_irrefl _)
  · rw [tokens]
    decide

end CTokens
