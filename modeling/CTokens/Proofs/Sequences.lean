import CTokens.Proofs.Characters
import Mathlib.Data.List.Forall2

/-! # Well-formed sequences

The bytes of a character are a lead byte and as many continuation bytes as the lead byte asks for,
and some lead bytes narrow the range of the byte behind them.  `trailing` has these ranges: behind a
lead byte come the bytes of a character if and only if they lie in them, one in each
(`within_of_utf8EncodeChar`, `exists_utf8EncodeChar`).
-/

namespace CTokens.Utf8

def Within (range : UInt8 × UInt8) (byte : UInt8) : Prop :=
  range.1 ≤ byte ∧ byte ≤ range.2

theorem within_iff {low high byte : UInt8} :
    Within (low, high) byte ↔ low.toNat ≤ byte.toNat ∧ byte.toNat ≤ high.toNat := by
  rw [Within, UInt8.le_iff_toNat_le, UInt8.le_iff_toNat_le]

/-! ## The table, by numbers -/

/-- What the byte behind a lead byte has to satisfy.  The narrower ranges keep out longer forms of
    shorter characters, the surrogates, and what lies beyond the last character. -/
def Seconds (first second : Nat) : Prop :=
  0x80 ≤ second ∧ second ≤ 0xBF ∧
    (first = 0xE0 → 0xA0 ≤ second) ∧ (first = 0xED → second ≤ 0x9F) ∧
    (first = 0xF0 → 0x90 ≤ second) ∧ (first = 0xF4 → second ≤ 0x8F)

section

variable (first : UInt8)

theorem trailing_eq :
    trailing first =
      if first.toNat < 0xC2 then []
      else if first.toNat ≤ 0xDF then [(0x80, 0xBF)]
      else if first.toNat = 0xE0 then [(0xA0, 0xBF), (0x80, 0xBF)]
      else if first.toNat = 0xED then [(0x80, 0x9F), (0x80, 0xBF)]
      else if first.toNat ≤ 0xEF then [(0x80, 0xBF), (0x80, 0xBF)]
      else if first.toNat = 0xF0 then [(0x90, 0xBF), (0x80, 0xBF), (0x80, 0xBF)]
      else if first.toNat ≤ 0xF3 then [(0x80, 0xBF), (0x80, 0xBF), (0x80, 0xBF)]
      else if first.toNat = 0xF4 then [(0x80, 0x8F), (0x80, 0xBF), (0x80, 0xBF)]
      else [] := by
  simp only [trailing, UInt8.lt_iff_toNat_lt, UInt8.le_iff_toNat_le, ← UInt8.toNat_inj,
    UInt8.reduceToNat]

theorem trailing_none (outside : first.toNat < 0xC2 ∨ 0xF4 < first.toNat) :
    trailing first = [] := by
  rw [trailing_eq]
  rcases outside with low | high
  · exact if_pos low
  · rw [if_neg (by omega), if_neg (by omega), if_neg (by omega), if_neg (by omega),
      if_neg (by omega), if_neg (by omega), if_neg (by omega), if_neg (by omega)]

theorem trailing_two (low : 0xC2 ≤ first.toNat) (high : first.toNat ≤ 0xDF) :
    trailing first = [(0x80, 0xBF)] := by
  rw [trailing_eq, if_neg (by omega), if_pos high]

theorem trailing_three (low : 0xE0 ≤ first.toNat) (high : first.toNat ≤ 0xEF) :
    ∃ range, trailing first = [range, (0x80, 0xBF)] ∧
      ∀ second : UInt8, Within range second ↔ Seconds first.toNat second.toNat := by
  rw [trailing_eq, if_neg (by omega), if_neg (by omega)]
  by_cases e0 : first.toNat = 0xE0
  · refine ⟨_, if_pos e0, fun second => ?_⟩
    simp only [within_iff, Seconds, UInt8.reduceToNat]
    omega
  rw [if_neg e0]
  by_cases ed : first.toNat = 0xED
  · refine ⟨_, if_pos ed, fun second => ?_⟩
    simp only [within_iff, Seconds, UInt8.reduceToNat]
    omega
  · refine ⟨_, (if_neg ed).trans (if_pos high), fun second => ?_⟩
    simp only [within_iff, Seconds, UInt8.reduceToNat]
    omega

theorem trailing_four (low : 0xF0 ≤ first.toNat) (high : first.toNat ≤ 0xF4) :
    ∃ range, trailing first = [range, (0x80, 0xBF), (0x80, 0xBF)] ∧
      ∀ second : UInt8, Within range second ↔ Seconds first.toNat second.toNat := by
  rw [trailing_eq, if_neg (by omega), if_neg (by omega), if_neg (by omega), if_neg (by omega),
    if_neg (by omega)]
  by_cases f0 : first.toNat = 0xF0
  · refine ⟨_, if_pos f0, fun second => ?_⟩
    simp only [within_iff, Seconds, UInt8.reduceToNat]
    omega
  rw [if_neg f0]
  by_cases below : first.toNat ≤ 0xF3
  · refine ⟨_, if_pos below, fun second => ?_⟩
    simp only [within_iff, Seconds, UInt8.reduceToNat]
    omega
  · refine ⟨_, (if_neg below).trans (if_pos (by omega)), fun second => ?_⟩
    simp only [within_iff, Seconds, UInt8.reduceToNat]
    omega

end

/-! ## The bytes of a character -/

theorem within_ofNat (n : Nat) : Within (0x80, 0xBF) (UInt8.ofNat (n % 64 + 128)) := by
  simp only [within_iff, UInt8.reduceToNat, UInt8.toNat_ofNat']
  omega

/-- Behind the first byte of a character come bytes in the ranges for it. -/
theorem within_of_utf8EncodeChar {c : Char} {first : UInt8} {rest : List UInt8}
    (equal : String.utf8EncodeChar c = first :: rest) :
    List.Forall₂ Within (trailing first) rest := by
  have valid : c.val.toNat < 0xD800 ∨ 0xDFFF < c.val.toNat ∧ c.val.toNat < 0x110000 := c.valid
  unfold String.utf8EncodeChar at equal
  dsimp only at equal
  -- Only the number of the character matters, and that it is neither a surrogate nor too great.
  generalize c.val.toNat = n at valid equal
  split at equal
  next one =>
    cases equal
    rw [trailing_none _ (by rw [UInt8.toNat_ofNat']; omega)]
    exact .nil
  split at equal
  next two =>
    cases equal
    have lead : (UInt8.ofNat (n / 64 % 32 + 192)).toNat = n / 64 + 192 := by
      rw [UInt8.toNat_ofNat']
      omega
    rw [trailing_two _ (by omega) (by omega)]
    exact .cons (within_ofNat n) .nil
  split at equal
  next three =>
    cases equal
    have lead : (UInt8.ofNat (n / 4096 % 16 + 224)).toNat = n / 4096 + 224 := by
      rw [UInt8.toNat_ofNat']
      omega
    obtain ⟨range, table, seconds⟩ :=
      trailing_three (UInt8.ofNat (n / 4096 % 16 + 224)) (by omega) (by omega)
    rw [table]
    refine .cons ((seconds _).2 ?_) (.cons (within_ofNat n) .nil)
    rw [lead, UInt8.toNat_ofNat']
    unfold Seconds
    omega
  next four =>
    cases equal
    have lead : (UInt8.ofNat (n / 262144 % 8 + 240)).toNat = n / 262144 + 240 := by
      rw [UInt8.toNat_ofNat']
      omega
    obtain ⟨range, table, seconds⟩ :=
      trailing_four (UInt8.ofNat (n / 262144 % 8 + 240)) (by omega) (by omega)
    rw [table]
    refine .cons ((seconds _).2 ?_) (.cons (within_ofNat (n / 64)) (.cons (within_ofNat n) .nil))
    rw [lead, UInt8.toNat_ofNat']
    unfold Seconds
    omega

theorem exists_val_toNat {n : Nat} (valid : n.isValidChar) : ∃ c : Char, c.val.toNat = n :=
  ⟨Char.ofNatAux n valid, rfl⟩

section

variable {first second third fourth : UInt8}

theorem exists_char_two (lead : 0xC2 ≤ first.toNat ∧ first.toNat ≤ 0xDF)
    (next : Within (0x80, 0xBF) second) : ∃ c, String.utf8EncodeChar c = [first, second] := by
  simp only [within_iff, UInt8.reduceToNat] at next
  -- The character whose number has the bits of the two bytes; the bounds make it one of two bytes.
  obtain ⟨c, value⟩ : ∃ c : Char,
      c.val.toNat = (first.toNat - 0xC0) * 64 + (second.toNat - 0x80) :=
    exists_val_toNat (.inl (by omega))
  refine ⟨c, ?_⟩
  unfold String.utf8EncodeChar
  simp only [value]
  rw [if_neg (by omega), if_pos (by omega)]
  simp only [List.cons.injEq, ← UInt8.toNat_inj, UInt8.toNat_ofNat', and_true]
  omega

theorem exists_char_three (lead : 0xE0 ≤ first.toNat ∧ first.toNat ≤ 0xEF)
    (next : Seconds first.toNat second.toNat) (last : Within (0x80, 0xBF) third) :
    ∃ c, String.utf8EncodeChar c = [first, second, third] := by
  simp only [within_iff, UInt8.reduceToNat] at last
  unfold Seconds at next
  obtain ⟨c, value⟩ : ∃ c : Char, c.val.toNat =
      (first.toNat - 0xE0) * 4096 + (second.toNat - 0x80) * 64 + (third.toNat - 0x80) :=
    exists_val_toNat (by unfold Nat.isValidChar; omega)
  refine ⟨c, ?_⟩
  unfold String.utf8EncodeChar
  simp only [value]
  rw [if_neg (by omega), if_neg (by omega), if_pos (by omega)]
  simp only [List.cons.injEq, ← UInt8.toNat_inj, UInt8.toNat_ofNat', and_true]
  omega

theorem exists_char_four (lead : 0xF0 ≤ first.toNat ∧ first.toNat ≤ 0xF4)
    (next : Seconds first.toNat second.toNat) (inner : Within (0x80, 0xBF) third)
    (last : Within (0x80, 0xBF) fourth) :
    ∃ c, String.utf8EncodeChar c = [first, second, third, fourth] := by
  simp only [within_iff, UInt8.reduceToNat] at inner last
  unfold Seconds at next
  obtain ⟨c, value⟩ : ∃ c : Char, c.val.toNat = (first.toNat - 0xF0) * 262144 +
      (second.toNat - 0x80) * 4096 + (third.toNat - 0x80) * 64 + (fourth.toNat - 0x80) :=
    exists_val_toNat (by unfold Nat.isValidChar; omega)
  refine ⟨c, ?_⟩
  unfold String.utf8EncodeChar
  simp only [value]
  rw [if_neg (by omega), if_neg (by omega), if_neg (by omega)]
  simp only [List.cons.injEq, ← UInt8.toNat_inj, UInt8.toNat_ofNat', and_true]
  omega

end

theorem exists_utf8EncodeChar {first : UInt8} {rest : List UInt8} (leads : trailing first ≠ [])
    (within : List.Forall₂ Within (trailing first) rest) :
    ∃ c, String.utf8EncodeChar c = first :: rest := by
  by_cases outside : first.toNat < 0xC2 ∨ 0xF4 < first.toNat
  · exact absurd (trailing_none first outside) leads
  by_cases two : first.toNat ≤ 0xDF
  · rw [trailing_two first (by omega) two] at within
    cases within with
    | cons next ended =>
      cases ended
      exact exists_char_two (by omega) next
  by_cases three : first.toNat ≤ 0xEF
  · obtain ⟨range, table, seconds⟩ := trailing_three first (by omega) three
    rw [table] at within
    cases within with
    | cons next within =>
      cases within with
      | cons last ended =>
        cases ended
        exact exists_char_three (by omega) ((seconds _).1 next) last
  · obtain ⟨range, table, seconds⟩ := trailing_four first (by omega) (by omega)
    rw [table] at within
    cases within with
    | cons next within =>
      cases within with
      | cons inner within =>
        cases within with
        | cons last ended =>
          cases ended
          exact exists_char_four (by omega) ((seconds _).1 next) inner last

end CTokens.Utf8
