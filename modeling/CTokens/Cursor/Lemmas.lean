import CTokens.Cursor.Basic

/-! # What moves do

Every move is a `skip`, and a skip is told by a few equations: it takes bytes from those
ahead and lays them behind, it changes nothing in the sequence of all bytes, it moves the
position by as many bytes as it takes, and the line by as many newlines as are among them.
`eatWhile_eq` says that eating a run skips the longest run of bytes that satisfy the test, and
`takeChar?_eq_some` that taking a character skips its bytes.
-/

namespace CTokens.Cursor

/-! ## Single steps and skips -/

@[simp] theorem ahead_advance (c : Cursor) : c.advance.ahead = c.ahead.tail := by
  unfold advance
  split <;> simp_all

@[simp] theorem ahead_skip (n : Nat) (c : Cursor) : (c.skip n).ahead = c.ahead.drop n := by
  induction n generalizing c with
  | zero => rfl
  | succ n ih => simp [skip, ih]

theorem skip_add (m n : Nat) (c : Cursor) : c.skip (m + n) = (c.skip m).skip n := by
  induction m generalizing c with
  | zero => simp [skip]
  | succ m ih => rw [Nat.succ_add, skip, skip, ih]

theorem behind_advance (c : Cursor) : c.advance.behind = (c.ahead.take 1).reverse ++ c.behind := by
  unfold advance
  split <;> simp_all

theorem behind_skip (n : Nat) (c : Cursor) :
    (c.skip n).behind = (c.ahead.take n).reverse ++ c.behind := by
  induction n generalizing c with
  | zero => simp [skip]
  | succ n ih =>
    rw [skip, ih, ahead_advance, behind_advance]
    cases c.ahead <;> simp

@[simp] theorem bytes_advance (c : Cursor) : c.advance.bytes = c.bytes := by
  unfold advance
  split <;> simp_all [bytes]

@[simp] theorem bytes_skip (n : Nat) (c : Cursor) : (c.skip n).bytes = c.bytes := by
  induction n generalizing c with
  | zero => rfl
  | succ n ih => simp [skip, ih]

theorem pos_advance (c : Cursor) : c.advance.pos = c.pos + min 1 c.ahead.length := by
  unfold advance
  split <;> simp_all

theorem pos_skip (n : Nat) (c : Cursor) : (c.skip n).pos = c.pos + min n c.ahead.length := by
  induction n generalizing c with
  | zero => simp [skip]
  | succ n ih =>
    rw [skip, ih, pos_advance, ahead_advance, List.length_tail]
    omega

theorem line_advance (c : Cursor) :
    c.advance.line = c.line + UInt32.ofNat ((c.ahead.take 1).count newline) := by
  unfold advance
  split
  · next empty => simp [empty]
  · next byte rest cons => by_cases h : byte = newline <;> simp [cons, h]

theorem line_skip (n : Nat) (c : Cursor) :
    (c.skip n).line = c.line + UInt32.ofNat ((c.ahead.take n).count newline) := by
  induction n generalizing c with
  | zero => simp [skip]
  | succ n ih =>
    rw [skip, ih, line_advance, ahead_advance, UInt32.add_assoc, ← UInt32.ofNat_add,
      ← List.count_append]
    cases c.ahead <;> simp

theorem pos_add_length_ahead (c : Cursor) : c.pos + c.ahead.length = c.bytes.length := by
  simp [bytes, c.pos_eq]

/-! ## Runs and characters -/

/-- A test without a state accepts the longest run of bytes that satisfy it. -/
theorem countAccepted_eq (p : UInt8 → Bool) (n : Nat) (bytes : List UInt8) :
    countAccepted (fun _ byte => (p byte, ())) n () bytes = n + (bytes.takeWhile p).length := by
  induction bytes generalizing n with
  | nil => rfl
  | cons byte bytes ih =>
    cases h : p byte with
    | true => simp [countAccepted, h, ih]; omega
    | false => simp [countAccepted, h]

theorem eatWhile_eq (p : UInt8 → Bool) (c : Cursor) :
    c.eatWhile p = c.skip (c.ahead.takeWhile p).length := by
  simp [eatWhile, eatWith, countAccepted_eq]

@[simp] theorem ahead_eatWhile (p : UInt8 → Bool) (c : Cursor) :
    (c.eatWhile p).ahead = c.ahead.dropWhile p := by
  rw [eatWhile_eq, ahead_skip]
  induction c.ahead with
  | nil => rfl
  | cons byte bytes ih => cases h : p byte <;> simp [h, ih]

theorem takeChar?_eq_some {c d : Cursor} {ch : Char} (h : c.takeChar? = some (ch, d)) :
    d = c.skip ch.utf8Size := by
  obtain ⟨_, _, heq⟩ := Option.map_eq_some_iff.1 h
  cases heq
  rfl

end CTokens.Cursor
