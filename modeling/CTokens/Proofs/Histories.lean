import CTokens.Proofs.LineNumbers
import CTokens.Proofs.Termination

/-! # Histories of a cursor

Whatever is asked of a cursor on a text, and in whatever order, it only skips bytes
(`skips_after`), so that it is always the cursor at the start of the text, moved on to its
position (`eq_skip_pos`).  A history may leave it within a character, and from there every
operation goes on as well.

What an operation has to do is said by the bytes of the text from the position on
(`Operation.Meets`).  The boundaries of the text decide where a character can be taken, and
where a text can be cut out.
-/

namespace CTokens.Cursor

open Utf8

/-! ## Operations -/

inductive Operation
  | peek
  | peekNext
  | advance
  | matchByte (byte : UInt8)
  | takeChar
  | eatWhile (p : UInt8 → Bool)
  | eatWith {σ : Type} (test : σ → UInt8 → Bool × σ) (start : σ)  -- a test that carries a state
  | slice (start : Nat)

def Operation.after (c : Cursor) : Operation → Cursor
  | .peek | .peekNext | .slice _ => c
  | .advance => c.advance
  | .matchByte byte => (c.matchByte byte).2
  | .takeChar => (c.takeChar?.map Prod.snd).getD c
  | .eatWhile p => c.eatWhile p
  | .eatWith test start => c.eatWith test start

def after (c : Cursor) (operations : List Operation) : Cursor :=
  operations.foldl Operation.after c

theorem skips_takeChar? (c : Cursor) : c.Skips (Operation.takeChar.after c) := by
  cases taken : c.takeChar? with
  | none => simpa [Operation.after, taken] using Skips.refl c
  | some found =>
    obtain ⟨d, e⟩ := found
    simpa [Operation.after, taken] using ⟨_, takeChar?_eq_some taken⟩

theorem skips_operation (c : Cursor) (operation : Operation) : c.Skips (operation.after c) := by
  cases operation with
  | peek | peekNext | slice => exact .refl c
  | advance => exact c.skips_advance
  | matchByte byte => exact c.skips_matchByte byte
  | takeChar => exact c.skips_takeChar?
  | eatWhile p => exact c.skips_eatWhile p
  | eatWith => exact ⟨_, rfl⟩

theorem skips_after (c : Cursor) (operations : List Operation) : c.Skips (c.after operations) := by
  induction operations generalizing c with
  | nil => exact .refl c
  | cons operation operations ih => exact (c.skips_operation operation).trans (ih _)

/-! ## The cursor at a position -/

theorem skip_of_length_le {c : Cursor} {n : Nat} (le : c.ahead.length ≤ n) :
    c.skip n = c.skip c.ahead.length := by
  obtain ⟨m, rfl⟩ := Nat.exists_eq_add_of_le le
  rw [skip_add, skip_atEnd]
  rw [ahead_skip, List.drop_length]

theorem pos_skip_ofText {text : String} {n : Nat} (le : n ≤ (encode text).length) :
    ((ofText text).skip n).pos = n := by
  rw [pos_skip]
  change 0 + min n (encode text).length = n
  rw [Nat.zero_add, Nat.min_eq_left le]

/-- There is one cursor on a text for each position. -/
theorem eq_skip_pos {text : String} {c : Cursor} (skips : (ofText text).Skips c) :
    c = (ofText text).skip c.pos := by
  obtain ⟨n, rfl⟩ := skips
  rw [pos_skip]
  change _ = (ofText text).skip (0 + _)
  rw [Nat.zero_add]
  rcases Nat.le_total n (ofText text).ahead.length with le | le
  · rw [Nat.min_eq_left le]
  · rw [Nat.min_eq_right le, skip_of_length_le le]

def bytesFrom (text : String) (place : Nat) : List UInt8 :=
  (encode text).drop place

/-- The cursor stands at a place of the text, and knows the line of it. -/
structure Stands (text : String) (c : Cursor) : Prop where
  pos_le : c.pos ≤ (encode text).length
  line : c.line.toNat = 1 + ((encode text).take c.pos).count newline
  isAtEnd_iff : c.isAtEnd = true ↔ c.pos = (encode text).length
  peek?_eq_none_iff : c.peek? = none ↔ c.pos = (encode text).length

theorem Skips.pos_le {c d : Cursor} (skips : c.Skips d) : c.pos ≤ d.pos := by
  obtain ⟨n, rfl⟩ := skips
  rw [pos_skip]
  exact Nat.le_add_right ..

section Reached

variable {text : String} {c : Cursor} (skips : (ofText text).Skips c)

include skips

theorem onLine_of_skips : c.OnLine (encode text) := by
  obtain ⟨n, rfl⟩ := skips
  exact (onLine_ofText text).skip n

theorem ahead_of_skips : c.ahead = bytesFrom text c.pos := by
  have pos := eq_skip_pos skips
  rw [pos, ahead_skip, ← pos]
  rfl

theorem stands_of_skips (few : (encode text).count newline < UInt32.size - 1) : Stands text c := by
  have ends : c.ahead = [] ↔ c.pos = (encode text).length := by
    have le := pos_le_of_skips skips
    rw [ahead_of_skips skips, bytesFrom, List.drop_eq_nil_iff]
    omega
  refine ⟨pos_le_of_skips skips, ?_, ?_, ?_⟩
  · rw [(onLine_of_skips skips).line]
    exact toNat_lineAt few c.pos
  · rw [← ends, isAtEnd, List.isEmpty_iff]
  · rw [← ends, peek?, List.head?_eq_none_iff]

end Reached

/-! ## What an operation has to do -/

/-- The place lies between two characters of the text, or at one of its ends. -/
def IsBoundary (text : String) (place : Nat) : Prop :=
  ∃ before after, text.toList = before ++ after ∧ (ofChars before).length = place

/-- Exactly `n` bytes are passed, and there are as many. -/
structure Passes (c : Cursor) (n : Nat) (d : Cursor) : Prop where
  skip : d = c.skip n
  pos : d.pos = c.pos + n

def verdicts {σ : Type} (test : σ → UInt8 → Bool × σ) : σ → List UInt8 → List Bool
  | _, [] => []
  | state, byte :: bytes => (test state byte).1 :: verdicts test (test state byte).2 bytes

/-- How many bytes a test accepts before the first that it refuses. -/
def accepted {σ : Type} (test : σ → UInt8 → Bool × σ) (state : σ) (bytes : List UInt8) : Nat :=
  ((verdicts test state bytes).takeWhile id).length

/-- `Eats test state c given d`: advancing for as long as the test accepts the next byte leads from
    `c` to `d`, and on the way the test is given the bytes `given`, one after the other. -/
inductive Eats {σ : Type} (test : σ → UInt8 → Bool × σ) : σ → Cursor → List UInt8 → Cursor → Prop
  | ends {state : σ} {c : Cursor} (atEnd : c.peek? = none) : Eats test state c [] c
  | refuses {state : σ} {c : Cursor} {byte : UInt8} (next : c.peek? = some byte)
      (no : (test state byte).1 = false) : Eats test state c [byte] c
  | accepts {state : σ} {c d : Cursor} {byte : UInt8} {given : List UInt8}
      (next : c.peek? = some byte) (yes : (test state byte).1 = true)
      (rest : Eats test (test state byte).2 c.advance given d) : Eats test state c (byte :: given) d

/-- Of the bytes from the cursor on, the first `n` are passed; the test is given these, and one more
    if there is one. -/
structure EatsRun {σ : Type} (test : σ → UInt8 → Bool × σ) (start : σ) (text : String) (c : Cursor)
    (n : Nat) (d : Cursor) : Prop where
  passes : Passes c n d
  eats : Eats test start c ((bytesFrom text c.pos).take (n + 1)) d

/-- What an operation has to do with a cursor `c` on a text, and which cursor `d` it has to
    leave. -/
def Operation.Meets (text : String) (c d : Cursor) : Operation → Prop
  | .peek => c.peek? = (encode text)[c.pos]? ∧ d = c
  | .peekNext => c.peekNext? = (encode text)[c.pos + 1]? ∧ d = c
  | .advance => Passes c (min 1 (bytesFrom text c.pos).length) d
  | .matchByte byte =>
    if (encode text)[c.pos]? = some byte then (c.matchByte byte).1 = true ∧ Passes c 1 d
    else (c.matchByte byte).1 = false ∧ d = c
  | .takeChar =>
    (∃ before e after, text.toList = before ++ e :: after ∧ (ofChars before).length = c.pos ∧
      c.takeChar? = some (e, d) ∧ Passes c (String.utf8EncodeChar e).length d) ∨
    ((c.pos = (encode text).length ∨ ¬ IsBoundary text c.pos) ∧ c.takeChar? = none ∧ d = c)
  | .eatWhile p =>
    EatsRun (fun _ byte => (p byte, ())) () text c ((bytesFrom text c.pos).takeWhile p).length d
  | .eatWith test start => EatsRun test start text c (accepted test start (bytesFrom text c.pos)) d
  | .slice start =>
    (c.slice? start = none ↔ c.pos < start ∨ ¬ IsBoundary text start ∨ ¬ IsBoundary text c.pos) ∧
      (∀ cut, c.slice? start = some cut →
        encode cut = (bytesFrom text start).take (c.pos - start)) ∧
      d = c

/-! ## Runs of accepted bytes -/

section Accepted

variable {σ : Type} (test : σ → UInt8 → Bool × σ)

theorem countAccepted_eq_add (n : Nat) (state : σ) (bytes : List UInt8) :
    countAccepted test n state bytes = n + accepted test state bytes := by
  induction bytes generalizing n state with
  | nil => rfl
  | cons byte bytes ih =>
    rw [accepted, verdicts, countAccepted]
    split
    next next yes =>
      rw [ih, yes, List.takeWhile_cons_of_pos rfl, List.length_cons, accepted, Nat.add_assoc,
        Nat.add_comm 1]
    next no => rw [no, List.takeWhile_cons_of_neg (by simp), List.length_nil, Nat.add_zero]

theorem accepted_le (state : σ) (bytes : List UInt8) :
    accepted test state bytes ≤ bytes.length := by
  have verdicts_length : (verdicts test state bytes).length = bytes.length := by
    induction bytes generalizing state with
    | nil => rfl
    | cons byte bytes ih => rw [verdicts, List.length_cons, ih, List.length_cons]
  rw [← verdicts_length]
  exact (List.takeWhile_sublist id).length_le

theorem accepted_stateless (p : UInt8 → Bool) (bytes : List UInt8) :
    accepted (fun _ byte => (p byte, ())) () bytes = (bytes.takeWhile p).length := by
  have counted := countAccepted_eq p 0 bytes
  rwa [countAccepted_eq_add, Nat.zero_add, Nat.zero_add] at counted

theorem eats_skip (state : σ) (c : Cursor) :
    Eats test state c (c.ahead.take (accepted test state c.ahead + 1))
      (c.skip (accepted test state c.ahead)) := by
  induction ahead : c.ahead generalizing c state with
  | nil => exact .ends (by rw [peek?, ahead, List.head?_nil])
  | cons byte bytes ih =>
    have next : c.peek? = some byte := by rw [peek?, ahead, List.head?_cons]
    cases verdict : (test state byte).1 with
    | false =>
      rw [accepted, verdicts, verdict, List.takeWhile_cons_of_neg (by simp)]
      exact .refuses next verdict
    | true =>
      rw [accepted, verdicts, verdict, List.takeWhile_cons_of_pos rfl]
      have left : c.advance.ahead = bytes := by rw [ahead_advance, ahead, List.tail_cons]
      exact .accepts next verdict (ih (test state byte).2 c.advance left)

end Accepted

/-! ## Each operation does what it has to do -/

theorem passes_skip {c : Cursor} {n : Nat} (le : n ≤ c.ahead.length) : Passes c n (c.skip n) :=
  ⟨rfl, by rw [pos_skip, Nat.min_eq_left le]⟩

theorem isBoundary_iff {text : String} {place : Nat} (le : place ≤ (encode text).length) :
    Utf8.isBoundary (bytesFrom text place) = true ↔ IsBoundary text place := by
  rw [encode_eq_ofChars] at le
  rw [bytesFrom, encode_eq_ofChars]
  constructor
  · exact exists_of_isBoundary le
  · rintro ⟨before, after, whole, rfl⟩
    rw [whole, ofChars_append, List.drop_left]
    exact isBoundary_ofChars after

section Meets

variable {text : String} {c : Cursor} (skips : (ofText text).Skips c)

include skips

theorem peek?_of_skips : c.peek? = (encode text)[c.pos]? := by
  rw [peek?, ahead_of_skips skips, bytesFrom, List.head?_drop]

theorem peekNext?_of_skips : c.peekNext? = (encode text)[c.pos + 1]? := by
  rw [peekNext?, ahead_of_skips skips, bytesFrom, List.tail_drop, List.head?_drop]

theorem meets_advance : Operation.advance.Meets text c c.advance := by
  rw [Operation.Meets, ← ahead_of_skips skips]
  refine ⟨?_, pos_advance c⟩
  cases ahead : c.ahead with
  | nil => exact (skip_atEnd 1 ahead).trans rfl
  | cons => rfl

theorem meets_matchByte (byte : UInt8) :
    (Operation.matchByte byte).Meets text c (c.matchByte byte).2 := by
  rw [Operation.Meets, ← peek?_of_skips skips, matchByte]
  split
  next next =>
    obtain ⟨rest, ahead⟩ := List.head?_eq_some_iff.1 next
    exact ⟨rfl, passes_skip (by simp [ahead])⟩
  next => exact ⟨rfl, rfl⟩

theorem takeChar?_eq_none (nowhere : c.pos = (encode text).length ∨ ¬ IsBoundary text c.pos) :
    c.takeChar? = none := by
  rw [takeChar?, Option.map_eq_none_iff]
  cases read : headChar? c.ahead with
  | none => rfl
  | some e =>
    -- A character is read only where bytes begin with its own, so at a boundary and not at the end.
    obtain ⟨more, equal⟩ := prefix_of_headChar? read
    rw [ahead_of_skips skips] at equal
    rcases nowhere with ends | within
    · rw [ends, bytesFrom, List.drop_length, List.append_eq_nil_iff] at equal
      exact absurd equal.1 String.utf8EncodeChar_ne_nil
    · obtain ⟨byte, rest, own⟩ := exists_utf8EncodeChar_cons e
      have first := isBoundary_ofChars [e]
      rw [ofChars_cons, own] at first
      rw [← isBoundary_iff (pos_le_of_skips skips), ← equal, own] at within
      contradiction

theorem meets_takeChar : Operation.takeChar.Meets text c (Operation.takeChar.after c) := by
  by_cases nowhere : c.pos = (encode text).length ∨ ¬ IsBoundary text c.pos
  · have refused := takeChar?_eq_none skips nowhere
    exact .inr ⟨nowhere, refused, by rw [Operation.after, refused]; rfl⟩
  · obtain ⟨more, before, after, whole, length⟩ :
        c.pos ≠ (encode text).length ∧ IsBoundary text c.pos := by simpa using nowhere
    have ahead : c.ahead = ofChars after := by
      rw [ahead_of_skips skips, bytesFrom, encode_eq_ofChars, whole, ofChars_append, ← length,
        List.drop_left]
    cases after with
    | nil =>
      -- The boundary is the end, which `more` excludes.
      rw [encode_eq_ofChars, whole, List.append_nil] at more
      exact absurd length.symm more
    | cons e after =>
      have taken := takeChar?_ofChars ahead
      have size : (ofChars [e]).length = (String.utf8EncodeChar e).length := by simp
      rw [size] at taken
      refine .inl ⟨before, e, after, whole, length, ?_, ?_⟩
      · rw [Operation.after, taken]
        rfl
      · rw [Operation.after, taken]
        exact passes_skip (by simp [ahead])

theorem exists_slice? {start : Nat} (le : start ≤ c.pos) (begins : IsBoundary text start)
    (ends : IsBoundary text c.pos) :
    ∃ cut, c.slice? start = some cut ∧
      encode cut = (bytesFrom text start).take (c.pos - start) := by
  obtain ⟨before, after, whole, length⟩ := begins
  obtain ⟨before', after', whole', length'⟩ := ends
  have bytes : encode text = ofChars before ++ ofChars after := by
    rw [encode_eq_ofChars, whole, ofChars_append]
  have bytes' : encode text = ofChars before' ++ ofChars after' := by
    rw [encode_eq_ofChars, whole', ofChars_append]
  -- The characters before the one place are the first of those before the other.
  obtain ⟨own, rfl⟩ : before <+: before' := prefix_of_prefix_ofChars
    (List.prefix_of_prefix_length_le ⟨_, bytes.symm⟩ ⟨_, bytes'.symm⟩ (by omega))
  have ahead : ((ofText text).skip start).ahead = ofChars (own ++ after') := by
    rw [ahead_skip]
    change (encode text).drop start = _
    rw [bytes', ← length, ofChars_append, List.append_assoc, List.drop_left, ofChars_append]
  have pos : ((ofText text).skip start).pos = start :=
    pos_skip_ofText (Nat.le_trans le (pos_le_of_skips skips))
  rw [ofChars_append, List.length_append, length] at length'
  have found := slice?_skip ahead
  rw [pos, ← skip_add, length', ← eq_skip_pos skips] at found
  refine ⟨_, found, ?_⟩
  rw [encode_ofList, bytesFrom, bytes', ← length', Nat.add_sub_cancel_left, ← length,
    ofChars_append, List.append_assoc, List.drop_left, List.take_left]

theorem cut_append_ahead {start : Nat} (le : start ≤ c.pos) :
    (c.behind.take (c.pos - start)).reverse ++ c.ahead = bytesFrom text start := by
  have behind : c.behind.reverse = (encode text).take c.pos := by
    rw [← take_pos_bytes, (onLine_of_skips skips).bytes]
  rw [List.reverse_take, behind, ← c.pos_eq, Nat.sub_sub_self le, List.drop_take,
    ahead_of_skips skips, bytesFrom, bytesFrom]
  conv => rhs; rw [← List.take_append_drop (c.pos - start) ((encode text).drop start)]
  rw [List.drop_drop, Nat.add_sub_cancel' le]

theorem slice?_eq_none_iff {start : Nat} : c.slice? start = none ↔
    c.pos < start ∨ ¬ IsBoundary text start ∨ ¬ IsBoundary text c.pos := by
  have inside := pos_le_of_skips skips
  constructor
  · intro refused
    by_cases le : start ≤ c.pos
    · rw [← Classical.not_and_iff_not_or_not]
      right
      rintro ⟨begins, ends⟩
      obtain ⟨cut, sliced, -⟩ := exists_slice? skips le begins ends
      rw [refused] at sliced
      contradiction
    · exact .inl (Nat.lt_of_not_le le)
  · intro nowhere
    rw [slice?]
    split
    next le =>
      -- One of the two tests of `slice?` says no.
      dsimp only
      rw [cut_append_ahead skips le, ahead_of_skips skips, if_neg]
      rw [Bool.and_eq_true, isBoundary_iff (Nat.le_trans le inside), isBoundary_iff inside]
      rintro ⟨begins, ends⟩
      rcases nowhere with ahead | within | within
      · omega
      · exact within begins
      · exact within ends
    next => rfl

theorem meets_slice (start : Nat) : (Operation.slice start).Meets text c c := by
  refine ⟨slice?_eq_none_iff skips, ?_, rfl⟩
  intro cut sliced
  have found : c.slice? start ≠ none := by simp [sliced]
  simp only [ne_eq, slice?_eq_none_iff skips, not_or, Nat.not_lt, Classical.not_not] at found
  obtain ⟨le, begins, ends⟩ := found
  obtain ⟨other, again, bytes⟩ := exists_slice? skips le begins ends
  rw [sliced, Option.some.injEq] at again
  rw [again, bytes]

theorem eatsRun_eatWith {σ : Type} (test : σ → UInt8 → Bool × σ) (start : σ) :
    EatsRun test start text c (accepted test start (bytesFrom text c.pos))
      (c.eatWith test start) := by
  rw [eatWith, countAccepted_eq_add, Nat.zero_add, ← ahead_of_skips skips]
  refine ⟨passes_skip (accepted_le ..), ?_⟩
  rw [← ahead_of_skips skips]
  exact eats_skip test start c

theorem meets_of_skips (operation : Operation) : operation.Meets text c (operation.after c) := by
  cases operation with
  | peek => exact ⟨peek?_of_skips skips, rfl⟩
  | peekNext => exact ⟨peekNext?_of_skips skips, rfl⟩
  | advance => exact meets_advance skips
  | matchByte byte => exact meets_matchByte skips byte
  | takeChar => exact meets_takeChar skips
  | eatWhile p =>
    rw [Operation.Meets, ← accepted_stateless]
    exact eatsRun_eatWith skips _ ()
  | eatWith test start => exact eatsRun_eatWith skips test start
  | slice start => exact meets_slice skips start

end Meets

/-! ## Histories -/

/-- After any operations the cursor stands in the text, and on the line of its position.  From there
    no operation moves it back, and each does what it has to do. -/
theorem stands_after_and_meets (text : String) (few : (encode text).count newline < UInt32.size - 1)
    (operations : List Operation) :
    Stands text ((ofText text).after operations) ∧
    ∀ operation : Operation,
      ((ofText text).after operations).pos ≤
        (operation.after ((ofText text).after operations)).pos ∧
      operation.Meets text ((ofText text).after operations)
        (operation.after ((ofText text).after operations)) := by
  have skips := (ofText text).skips_after operations
  refine ⟨stands_of_skips skips few, ?_⟩
  intro operation
  exact ⟨(skips_operation _ operation).pos_le, meets_of_skips skips operation⟩

/-- Within a character of two bytes there is none to take, and behind it the second line begins. -/
theorem stands_after_and_meets_within_a_character :
    (encode "é\nx").count newline < UInt32.size - 1 ∧
    Operation.takeChar.Meets "é\nx" ((ofText "é\nx").after [.advance])
      ((ofText "é\nx").after [.advance, .takeChar]) ∧
    Stands "é\nx" ((ofText "é\nx").after [.advance, .takeChar, .eatWhile (· ≠ 'x'.toUInt8)]) :=
  have few : (encode "é\nx").count newline < UInt32.size - 1 := by decide
  ⟨few, ((stands_after_and_meets _ few _).2 .takeChar).2, (stands_after_and_meets _ few _).1⟩

end CTokens.Cursor
