import CTokens.Lexed
import Mathlib.Data.List.Forall2

/-! # Complaints about unknown tokens

Each unknown token of a stream makes one complaint, on its own line and in its place among the
others.  The complaint names the text of the token in its escaped form, which is printable ASCII
whatever the text is, and which tells the text: `Text.unescape?` reads it back
(`complaints_of_unknown`).

An escaped text is one form of a character behind the other, and nothing marks where a form ends.
It can be read from left to right all the same, since each form tells by its own characters how far
it goes (`unescape?_escapeChar_append`).
-/

namespace CTokens

namespace Text

/-! ## Hexadecimal -/

def hexValue (digit : Char) : Nat :=
  if digit.isDigit then digit.toNat - '0'.toNat else digit.toNat - 'a'.toNat + 10

def hexFrom (value : Nat) (digits : List Char) : Nat :=
  digits.foldl (fun value digit => 16 * value + hexValue digit) value

theorem hexValue_digitChar : ∀ n < 16, hexValue n.digitChar = n := by decide

theorem digitChar_ne_brace : ∀ n < 16, n.digitChar ≠ '}' := by decide

theorem hexFrom_toDigits (n : Nat) : hexFrom 0 (Nat.toDigits 16 n) = n := by
  induction n using Nat.strongRecOn with
  | ind n ih =>
    rw [Nat.toDigits_eq_if (by decide)]
    split
    next small =>
      show 16 * 0 + hexValue n.digitChar = n
      rw [hexValue_digitChar n small, Nat.mul_zero, Nat.zero_add]
    next large =>
      -- All digits but the last write `n / 16`.
      have front := ih (n / 16) (by omega)
      rw [hexFrom] at front
      rw [hexFrom, List.foldl_append, front]
      show 16 * (n / 16) + hexValue (n % 16).digitChar = n
      rw [hexValue_digitChar _ (by omega)]
      omega

theorem exists_digitChar {n : Nat} {digit : Char} (member : digit ∈ Nat.toDigits 16 n) :
    ∃ value < 16, digit = value.digitChar := by
  induction n using Nat.strongRecOn with
  | ind n ih =>
    rw [Nat.toDigits_eq_if (by decide)] at member
    split at member
    next small => exact ⟨n, small, List.mem_singleton.1 member⟩
    next large =>
      rcases List.mem_append.1 member with front | last
      · exact ih (n / 16) (by omega) front
      · exact ⟨n % 16, by omega, List.mem_singleton.1 last⟩

/-! ## Forms of characters -/

def IsPrintable (c : Char) : Prop :=
  0x20 ≤ c.toNat ∧ c.toNat ≤ 0x7E

instance (c : Char) : Decidable (IsPrintable c) :=
  inferInstanceAs (Decidable (0x20 ≤ c.toNat ∧ c.toNat ≤ 0x7E))

/-- The character that another one stands for behind a backslash. -/
def marked : Char → Char
  | 't' => '\t'
  | 'r' => '\r'
  | 'n' => '\n'
  | c => c

/-- A character is written as a mark behind a backslash, as itself, or as its number. -/
theorem escapeChar_cases (c : Char) :
    (∃ mark, escapeChar c = ['\\', mark] ∧ marked mark = c ∧ mark ≠ 'u' ∧ IsPrintable mark) ∨
    (escapeChar c = [c] ∧ c ≠ '\\' ∧ IsPrintable c) ∨
    escapeChar c = escapeNumber c := by
  unfold escapeChar
  split
  next tab => subst tab; exact .inl ⟨'t', rfl, by decide⟩
  split
  next carriage => subst carriage; exact .inl ⟨'r', rfl, by decide⟩
  split
  next newline => subst newline; exact .inl ⟨'n', rfl, by decide⟩
  split
  next quote => subst quote; exact .inl ⟨'\'', rfl, by decide⟩
  split
  next quotes => subst quotes; exact .inl ⟨'"', rfl, by decide⟩
  split
  next backslash => subst backslash; exact .inl ⟨'\\', rfl, by decide⟩
  next plain =>
  split
  next within => exact .inr (.inl ⟨rfl, plain, by simpa [IsPrintable] using within⟩)
  next beyond => exact .inr (.inr rfl)

/-! ## Reading an escaped text -/

mutual

/-- The text that has this escaped form. -/
def unescape? : List Char → Option (List Char)
  | [] => some []
  | '\\' :: 'u' :: '{' :: rest => unescapeNumber? 0 rest
  | '\\' :: mark :: rest => (unescape? rest).map (marked mark :: ·)
  | c :: rest => (unescape? rest).map (c :: ·)

def unescapeNumber? (value : Nat) : List Char → Option (List Char)
  | [] => none
  | '}' :: rest => (unescape? rest).map (Char.ofNat value :: ·)
  | digit :: rest => unescapeNumber? (16 * value + hexValue digit) rest

end

theorem unescapeNumber?_append {digits : List Char} (closed : '}' ∉ digits) (value : Nat)
    (rest : List Char) :
    unescapeNumber? value (digits ++ '}' :: rest) =
      (unescape? rest).map (Char.ofNat (hexFrom value digits) :: ·) := by
  induction digits generalizing value with
  | nil => rw [List.nil_append, unescapeNumber?]; rfl
  | cons digit digits ih =>
    obtain ⟨other, closed⟩ := List.ne_and_not_mem_of_not_mem_cons closed
    rw [List.cons_append, unescapeNumber?, ih closed]
    · rfl
    · exact other.symm

theorem unescape?_plain {c : Char} (plain : c ≠ '\\') (rest : List Char) :
    unescape? (c :: rest) = (unescape? rest).map (c :: ·) := by
  rw [unescape?]
  all_goals simp [plain]

theorem unescape?_marked {mark : Char} (other : mark ≠ 'u') (rest : List Char) :
    unescape? ('\\' :: mark :: rest) = (unescape? rest).map (marked mark :: ·) := by
  rw [unescape?]
  simp [other]

theorem unescape?_escapeNumber (c : Char) (rest : List Char) :
    unescape? (escapeNumber c ++ rest) = (unescape? rest).map (c :: ·) := by
  -- The first brace behind the number is the one that closes it, since no digit is a brace.
  have closed : '}' ∉ Nat.toDigits 16 c.toNat := by
    intro member
    obtain ⟨value, small, same⟩ := exists_digitChar member
    exact absurd same.symm (digitChar_ne_brace value small)
  have spelled : escapeNumber c ++ rest =
      '\\' :: 'u' :: '{' :: (Nat.toDigits 16 c.toNat ++ '}' :: rest) := by
    simp [escapeNumber]
  rw [spelled, unescape?, unescapeNumber?_append closed, hexFrom_toDigits, Char.ofNat_toNat]

/-- Whatever stands behind it, the form of a character is read as far as it goes. -/
theorem unescape?_escapeChar_append (c : Char) (rest : List Char) :
    unescape? (escapeChar c ++ rest) = (unescape? rest).map (c :: ·) := by
  rcases escapeChar_cases c with ⟨mark, form, stands, other, -⟩ | ⟨form, plain, -⟩ | form
  · rw [form, ← stands]
    exact unescape?_marked other rest
  · rw [form]
    exact unescape?_plain plain rest
  · rw [form]
    exact unescape?_escapeNumber c rest

theorem unescape?_escape (text : String) :
    unescape? (escape text).toList = some text.toList := by
  rw [escape, String.toList_ofList]
  induction text.toList with
  | nil => rw [List.flatMap_nil, unescape?]
  | cons c chars ih => rw [List.flatMap_cons, unescape?_escapeChar_append, ih, Option.map_some]

example : unescape? "\\t\\'a\\u\x7be9\x7d".toList = some "\t'a\u00e9".toList := by decide

/-! ## Printable characters -/

theorem isPrintable_digitChar : ∀ n < 16, IsPrintable n.digitChar := by decide

theorem isPrintable_of_mem_escapeNumber {c d : Char} (member : d ∈ escapeNumber c) :
    IsPrintable d := by
  simp only [escapeNumber, List.mem_cons, List.mem_append, List.not_mem_nil, or_false] at member
  rcases member with rfl | rfl | rfl | digit | rfl
  · decide
  · decide
  · decide
  · obtain ⟨value, small, rfl⟩ := exists_digitChar digit
    exact isPrintable_digitChar value small
  · decide

theorem isPrintable_of_mem_escapeChar {c d : Char} (member : d ∈ escapeChar c) : IsPrintable d := by
  rcases escapeChar_cases c with ⟨mark, form, -, -, printable⟩ | ⟨form, -, printable⟩ | form
  · rw [form] at member
    rcases List.mem_pair.1 member with rfl | rfl
    · decide
    · exact printable
  · rw [form, List.mem_singleton] at member
    rwa [member]
  · exact isPrintable_of_mem_escapeNumber (form ▸ member)

end Text

/-! ## Complaints -/

def accusing : String :=
  "unrecognized character '"

def accusation (text : String) : String :=
  accusing ++ Text.escape text ++ "'"

def accused? (message : String) : Option String :=
  (Text.unescape? (message.toList.drop accusing.toList.length).dropLast).map String.ofList

theorem toList_accusation (text : String) :
    (accusation text).toList = accusing.toList ++ ((Text.escape text).toList ++ ['\'']) := by
  rw [accusation, String.toList_append, String.toList_append, List.append_assoc]
  rfl

theorem accused?_accusation (text : String) : accused? (accusation text) = some text := by
  rw [accused?, toList_accusation, List.drop_left, List.dropLast_concat, Text.unescape?_escape,
    Option.map_some, String.ofList_toList]

theorem isPrintable_of_mem_accusation {text : String} {c : Char}
    (member : c ∈ (accusation text).toList) : Text.IsPrintable c := by
  have opening : accusing.toList.all fun c => Text.IsPrintable c := by decide
  rw [toList_accusation, List.mem_append, List.mem_append, List.mem_singleton] at member
  rcases member with front | escaped | rfl
  · exact of_decide_eq_true (List.all_eq_true.1 opening c front)
  · rw [Text.escape, String.toList_ofList, List.mem_flatMap] at escaped
    obtain ⟨d, -, form⟩ := escaped
    exact Text.isPrintable_of_mem_escapeChar form
  · decide

/-- Of all tokens of a stream the unknown ones make complaints, one each and in order, on the line of
    the token.  A complaint is printable ASCII, and it tells the text of the token: the text can be
    read back from it, and complaints are worded the same only for tokens with the same text. -/
theorem complaints_of_unknown (tokens : List Token) :
    List.Forall₂ (fun token failure => failure = .onLine (accusation token.text) token.line)
      (tokens.filter fun token => token.kind = .unknown) (complaints tokens) ∧
    (∀ text, ∀ c ∈ (accusation text).toList, 0x20 ≤ c.toNat ∧ c.toNat ≤ 0x7E) ∧
    (∀ text, accused? (accusation text) = some text) ∧
    ∀ text other, accusation text = accusation other ↔ text = other := by
  refine ⟨?_, fun text c => isPrintable_of_mem_accusation, accused?_accusation, ?_⟩
  · rw [complaints, List.forall₂_map_right_iff]
    exact List.forall₂_same.2 fun token _ => rfl
  · intro text other
    constructor
    · intro same
      have read := congrArg accused? same
      rw [accused?_accusation, accused?_accusation] at read
      exact Option.some.inj read
    · rintro rfl
      rfl

end CTokens
