import CTokens.Proofs.Characters
import CTokens.Proofs.Grammar
import CTokens.Segment.Basic

/-! # Classes of bytes and of characters

The scanner asks for the class of a byte, the grammar for that of a character.  All classes
are of ASCII only, so that each pair is compared value by value.
-/

namespace CTokens

open Utf8

theorem mirrors_of_table {p : UInt8 → Bool} {q : Char → Bool}
    (agree : ∀ n : Fin 128, p (Char.ofNat n).toUInt8 = q (Char.ofNat n))
    (onBytes : ∀ n : Fin 128, p (UInt8.ofNat (n + 128)) = false)
    (onChars : ∀ {c : Char}, q c = true → IsAscii c) : Mirrors p q := by
  apply Mirrors.of_ascii false
  · intro c ascii
    have := agree ⟨c.toNat, ascii⟩
    rwa [Char.ofNat_toNat] at this
  · intro byte high
    have high : 128 ≤ byte.toNat := UInt8.le_iff_toNat_le.1 high
    have small := byte.toNat_lt
    have := onBytes ⟨byte.toNat - 128, by omega⟩
    rwa [Nat.sub_add_cancel high, UInt8.ofNat_toNat] at this
  · exact fun c long => Bool.eq_false_iff.2 fun accepted => long (onChars accepted)

theorem isAscii_of_isSpace {c : Char} (space : isSpace c = true) : IsAscii c := by
  simp only [isSpace, List.contains_iff_mem] at space
  have ascii : ∀ d ∈ [' ', '\t', '\n', '\r', '\x0B', '\x0C'], IsAscii d :=
    List.all_iff_forall_prop.1 (by decide)
  exact ascii c space

theorem isAscii_of_isAlphanum {c : Char} (alphanum : c.isAlphanum = true) : IsAscii c := by
  change (decide ('A'.val ≤ c.val ∧ c.val ≤ 'Z'.val) || decide ('a'.val ≤ c.val) &&
    decide (c.val ≤ 'z'.val) || decide ('0'.val ≤ c.val) && decide (c.val ≤ '9'.val)) = true
    at alphanum
  simp only [Bool.or_eq_true, Bool.and_eq_true, decide_eq_true_eq, UInt32.le_iff_toNat_le]
    at alphanum
  have : 'Z'.val.toNat = 90 := rfl
  have : 'z'.val.toNat = 122 := rfl
  have : '9'.val.toNat = 57 := rfl
  show c.val.toNat < 128
  omega

theorem isAscii_of_inWord {c : Char} (word : inWord c = true) : IsAscii c := by
  simp only [inWord, Bool.or_eq_true, decide_eq_true_eq] at word
  rcases word with alphanum | rfl
  · exact isAscii_of_isAlphanum alphanum
  · decide

theorem inWord_of_isDigit {c : Char} (digit : c.isDigit = true) : inWord c = true := by
  simp [inWord, Char.isAlphanum, digit]

theorem mirrors_isBlank : Mirrors isBlank isSpace :=
  mirrors_of_table (by decide) (by decide) isAscii_of_isSpace

theorem mirrors_isDigit : Mirrors isDigit Char.isDigit :=
  mirrors_of_table (by decide) (by decide) fun digit => isAscii_of_inWord (inWord_of_isDigit digit)

theorem mirrors_isWordByte : Mirrors isWordByte inWord :=
  mirrors_of_table (by decide) (by decide) isAscii_of_inWord

theorem mirrors_isWordStart : Mirrors isWordStart startsWord :=
  mirrors_of_table (by decide) (by decide) fun start => isAscii_of_inWord (inWord_of_startsWord start)

theorem startsLexeme_of_inWord {c : Char} (word : inWord c = true) (chars : List Char) :
    StartsLexeme c chars := by
  have slash : c ≠ '/' := by
    rintro rfl
    exact absurd word (by decide)
  refine ⟨?_, ?_, fun d _ => by simp [opensComment, slash]⟩
  · rw [Bool.eq_false_iff]
    intro space
    simp only [isSpace, List.contains_iff_mem] at space
    have outside : ∀ d ∈ [' ', '\t', '\n', '\r', '\x0B', '\x0C'], inWord d = false :=
      List.all_iff_forall_prop.1 (by decide)
    rw [outside c space] at word
    contradiction
  · rintro rfl
    exact absurd word (by decide)

theorem startsLexeme_quote (chars : List Char) : StartsLexeme '"' chars :=
  ⟨by decide, by decide, fun d _ => by simp [opensComment]⟩

theorem not_isDigit_of_startsWord {c : Char} (start : startsWord c = true) : c.isDigit = false := by
  have table : ∀ n : Fin 128, startsWord (Char.ofNat n) = true → (Char.ofNat n).isDigit = false := by
    decide
  have := table ⟨c.toNat, isAscii_of_inWord (inWord_of_startsWord start)⟩
  rw [Char.ofNat_toNat] at this
  exact this start

end CTokens
