import CTokens.Cursor.Basic

/-! # The bytes of characters

A text is read by its bytes, and its theory speaks of characters.  An ASCII character is one
byte, and every byte of any other character is `0x80` or more; so a test on bytes that is
constant from `0x80` on cannot tell the bytes of one character apart, and is a test on
characters in disguise.  `Mirrors` says this of the two tests, and carries the runs that the
one finds in the bytes of a text over to the runs that the other finds in its characters.
-/

namespace CTokens.Utf8

def ofChars (chars : List Char) : List UInt8 :=
  chars.flatMap String.utf8EncodeChar

@[simp] theorem ofChars_nil : ofChars [] = [] := rfl

@[simp] theorem ofChars_cons (c : Char) (chars : List Char) :
    ofChars (c :: chars) = String.utf8EncodeChar c ++ ofChars chars := rfl

@[simp] theorem ofChars_append (first second : List Char) :
    ofChars (first ++ second) = ofChars first ++ ofChars second := by
  simp [ofChars]

theorem encode_eq_ofChars (text : String) : encode text = ofChars text.toList :=
  encode_eq_flatMap text

theorem encode_ofList (chars : List Char) : encode (String.ofList chars) = ofChars chars := by
  rw [encode_eq_ofChars, String.toList_ofList]

/-! ## Single characters -/

def IsAscii (c : Char) : Prop :=
  c.toNat < 0x80

instance (c : Char) : Decidable (IsAscii c) :=
  inferInstanceAs (Decidable (c.toNat < 0x80))

theorem utf8EncodeChar_ascii {c : Char} (ascii : IsAscii c) :
    String.utf8EncodeChar c = [c.toUInt8] := by
  have size : c.utf8Size = 1 := by
    rw [Char.utf8Size_eq_one_iff, UInt32.le_iff_toNat_le]
    exact Nat.le_of_lt_succ ascii
  exact String.utf8EncodeChar_eq_singleton size

theorem ofChars_ascii_cons {c : Char} (ascii : IsAscii c) (chars : List Char) :
    ofChars (c :: chars) = c.toUInt8 :: ofChars chars := by
  rw [ofChars_cons, utf8EncodeChar_ascii ascii, List.singleton_append]

theorem toNat_toUInt8 {c : Char} (ascii : IsAscii c) : c.toUInt8.toNat = c.toNat := by
  have bound : c.toNat < 0x80 := ascii
  show c.toNat % 256 = c.toNat
  omega

theorem toUInt8_inj {c d : Char} (hc : IsAscii c) (hd : IsAscii d) :
    c.toUInt8 = d.toUInt8 ↔ c = d := by
  rw [← UInt8.toNat_inj, toNat_toUInt8 hc, toNat_toUInt8 hd]
  exact Char.toNat_inj

theorem isContinuation_ofNat (n : Nat) : isContinuation (UInt8.ofNat (n % 0x40 + 0x80)) = true := by
  simp only [isContinuation, Bool.and_eq_true, decide_eq_true_eq, UInt8.le_iff_toNat_le,
    UInt8.toNat_ofNat']
  constructor
  · show 128 ≤ _
    omega
  · show _ ≤ 191
    omega

theorem lead_le_ofNat {n : Nat} (low : 0xC0 ≤ n) (high : n < 0x100) : 0xC0 ≤ UInt8.ofNat n := by
  rw [UInt8.le_iff_toNat_le, UInt8.toNat_ofNat']
  show 192 ≤ _
  omega

theorem exists_utf8EncodeChar_cons (c : Char) :
    ∃ byte rest, String.utf8EncodeChar c = byte :: rest :=
  List.exists_cons_of_ne_nil String.utf8EncodeChar_ne_nil

/-- The bytes of a longer character are a lead byte and continuation bytes. -/
theorem utf8EncodeChar_long {c : Char} (long : ¬ IsAscii c) :
    ∃ lead rest, String.utf8EncodeChar c = lead :: rest ∧ 0xC0 ≤ lead ∧
      ∀ byte ∈ rest, isContinuation byte = true := by
  have bound : ¬ c.val.toNat ≤ 0x7F := fun small => long (Nat.lt_succ_of_le small)
  unfold String.utf8EncodeChar
  simp only [if_neg bound]
  repeat' split
  -- Two, three or four bytes: the lead byte has its upper bits set, the others are made alike.
  all_goals
    refine ⟨_, _, rfl, lead_le_ofNat (by omega) (by omega), ?_⟩
    simp only [List.forall_mem_cons, isContinuation_ofNat, true_and, List.not_mem_nil,
      false_implies, implies_true]

theorem le_of_mem_utf8EncodeChar {c : Char} (long : ¬ IsAscii c) {byte : UInt8}
    (member : byte ∈ String.utf8EncodeChar c) : 0x80 ≤ byte := by
  obtain ⟨lead, rest, equal, leads, continues⟩ := utf8EncodeChar_long long
  rw [equal] at member
  cases member with
  | head => exact UInt8.le_trans (by decide) leads
  | tail _ member =>
    have := continues byte member
    simp only [isContinuation, Bool.and_eq_true, decide_eq_true_eq] at this
    exact this.1

theorem isBoundary_ofChars (chars : List Char) : isBoundary (ofChars chars) = true := by
  cases chars with
  | nil => rfl
  | cons c chars =>
    by_cases ascii : IsAscii c
    · -- ASCII is below the bytes that continue a character, and a lead is above them.
      have bound : c.toNat < 128 := ascii
      simp only [ofChars_cons, utf8EncodeChar_ascii ascii, List.singleton_append, isBoundary,
        isContinuation, Bool.not_eq_true', Bool.and_eq_false_iff, decide_eq_false_iff_not,
        UInt8.le_iff_toNat_le, toNat_toUInt8 ascii]
      left
      show ¬ 128 ≤ _
      omega
    · obtain ⟨lead, rest, equal, leads, -⟩ := utf8EncodeChar_long ascii
      rw [UInt8.le_iff_toNat_le] at leads
      simp only [ofChars_cons, equal, List.cons_append, isBoundary, isContinuation,
        Bool.not_eq_true', Bool.and_eq_false_iff, decide_eq_false_iff_not, UInt8.le_iff_toNat_le]
      right
      show ¬ _ ≤ 191
      have : 192 ≤ lead.toNat := leads
      omega

theorem isBoundary_within {c : Char} {n : Nat} (inner : n + 1 < (String.utf8EncodeChar c).length)
    (bytes : List UInt8) :
    isBoundary ((String.utf8EncodeChar c ++ bytes).drop (n + 1)) = false := by
  have long : ¬ IsAscii c := by
    intro ascii
    rw [utf8EncodeChar_ascii ascii, List.length_singleton] at inner
    omega
  obtain ⟨lead, rest, own, -, continues⟩ := utf8EncodeChar_long long
  rw [own, List.length_cons, Nat.add_lt_add_iff_right] at inner
  rw [own, List.cons_append, List.drop_succ_cons, List.drop_append_of_le_length (Nat.le_of_lt inner),
    List.drop_eq_getElem_cons inner, List.cons_append, isBoundary,
    continues _ (List.getElem_mem inner), Bool.not_true]

/-- In the bytes of a text a boundary is a place between two characters. -/
theorem exists_of_isBoundary {chars : List Char} {n : Nat} (le : n ≤ (ofChars chars).length)
    (boundary : isBoundary ((ofChars chars).drop n) = true) :
    ∃ before after, chars = before ++ after ∧ (ofChars before).length = n := by
  induction chars generalizing n with
  | nil => exact ⟨[], [], rfl, (Nat.le_zero.1 le).symm⟩
  | cons c chars ih =>
    by_cases inner : n < (String.utf8EncodeChar c).length
    · cases n with
      | zero => exact ⟨[], c :: chars, rfl, rfl⟩
      | succ n =>
        rw [ofChars_cons, isBoundary_within inner] at boundary
        contradiction
    · -- The place is behind the first character, and `ih` finds it among the others.
      obtain ⟨m, rfl⟩ := Nat.exists_eq_add_of_le (Nat.le_of_not_lt inner)
      rw [ofChars_cons, List.length_append, Nat.add_le_add_iff_left] at le
      rw [ofChars_cons, List.drop_append, List.drop_of_length_le (Nat.le_add_right ..),
        Nat.add_sub_cancel_left, List.nil_append] at boundary
      obtain ⟨before, after, rfl, length⟩ := ih le boundary
      exact ⟨c :: before, after, rfl, by rw [ofChars_cons, List.length_append, length]⟩

/-! ## Reading back -/

theorem prefix_of_headChar? {c : Char} {bytes : List UInt8} (read : headChar? bytes = some c) :
    String.utf8EncodeChar c <+: bytes := by
  obtain ⟨more, equal⟩ := ByteArray.exists_of_utf8DecodeChar?_eq_some read
  have front : String.utf8EncodeChar c <+: bytes.take 4 := by
    refine ⟨more.data.toList, ?_⟩
    simpa [List.data_toByteArray] using (congrArg (fun array => array.data.toList) equal).symm
  exact front.trans (List.take_prefix 4 bytes)

theorem appendLossy_ofChars (text : String) (chars : List Char) :
    appendLossy text (ofChars chars) = text ++ String.ofList chars := by
  induction chars generalizing text with
  | nil => simp [appendLossy]
  | cons c chars ih =>
    obtain ⟨first, rest, own⟩ := exists_utf8EncodeChar_cons c
    have length : rest.length = c.utf8Size - 1 := by
      rw [← String.length_utf8EncodeChar, own]
      rfl
    have read : headChar? (first :: (rest ++ ofChars chars)) = some c := by
      rw [← List.cons_append, ← own, headChar?_append]
    rw [ofChars_cons, own, List.cons_append, appendLossy, read]
    dsimp only
    rw [← length, List.drop_left, ih, ← String.toList_inj]
    simp

theorem decodeLossy_encode (text : String) : decodeLossy (encode text) = text := by
  rw [decodeLossy, encode_eq_ofChars, appendLossy_ofChars, String.ofList_toList, String.empty_append]

/-! ## Tests on bytes and on characters -/

/-- The test `p` says of each byte of a character what `q` says of the character. -/
def Mirrors (p : UInt8 → Bool) (q : Char → Bool) : Prop :=
  ∀ c, ∀ byte ∈ String.utf8EncodeChar c, p byte = q c

namespace Mirrors

variable {p : UInt8 → Bool} {q : Char → Bool}

/-- It is enough to look at ASCII if both tests have one answer for everything else. -/
theorem of_ascii (answer : Bool) (agree : ∀ c, IsAscii c → p c.toUInt8 = q c)
    (onBytes : ∀ byte, 0x80 ≤ byte → p byte = answer)
    (onChars : ∀ c, ¬ IsAscii c → q c = answer) : Mirrors p q := by
  intro c byte member
  by_cases ascii : IsAscii c
  · rw [utf8EncodeChar_ascii ascii, List.mem_singleton] at member
    rw [member, agree c ascii]
  · rw [onBytes byte (le_of_mem_utf8EncodeChar ascii member), onChars c ascii]

theorem takeWhile (mirrors : Mirrors p q) (chars : List Char) :
    (ofChars chars).takeWhile p = ofChars (chars.takeWhile q) := by
  induction chars with
  | nil => rfl
  | cons c chars ih =>
    cases accepted : q c with
    | true =>
      rw [ofChars_cons, List.takeWhile_append_of_pos, ih, List.takeWhile_cons, accepted]
      · rfl
      · intro byte member
        rw [mirrors c byte member, accepted]
    | false =>
      -- The run ends with the first byte of this character.
      obtain ⟨byte, rest, equal⟩ := exists_utf8EncodeChar_cons c
      have refused : p byte = false := by
        rw [mirrors c byte (by simp [equal]), accepted]
      simp [equal, refused, accepted]

theorem head (mirrors : Mirrors p q) {c : Char} {chars : List Char} {byte : UInt8}
    {rest : List UInt8} (equal : ofChars (c :: chars) = byte :: rest) : p byte = q c := by
  obtain ⟨first, others, own⟩ := exists_utf8EncodeChar_cons c
  rw [ofChars_cons, own, List.cons_append, List.cons.injEq] at equal
  exact mirrors c byte (by simp [own, equal.1])

end Mirrors

theorem mirrors_eq {d : Char} (ascii : IsAscii d) :
    Mirrors (fun byte => byte = d.toUInt8) (fun c => c = d) := by
  apply Mirrors.of_ascii false
  · intro c hc
    simp [toUInt8_inj hc ascii]
  · intro byte high
    have bound : d.toNat < 128 := ascii
    rw [UInt8.le_iff_toNat_le] at high
    have high : 128 ≤ byte.toNat := high
    apply decide_eq_false
    rintro rfl
    rw [toNat_toUInt8 ascii] at high
    omega
  · intro c long
    apply decide_eq_false
    rintro rfl
    exact long ascii

theorem mirrors_ne {d : Char} (ascii : IsAscii d) :
    Mirrors (fun byte => byte ≠ d.toUInt8) (fun c => c ≠ d) := by
  intro c byte member
  have := mirrors_eq ascii c byte member
  simp only [decide_eq_decide] at this
  simp [this]

theorem head?_ofChars {d : Char} (ascii : IsAscii d) (chars : List Char) :
    (ofChars chars).head? = some d.toUInt8 ↔ chars.head? = some d := by
  cases chars with
  | nil => simp
  | cons c chars =>
    obtain ⟨byte, rest, equal⟩ : ∃ byte rest, ofChars (c :: chars) = byte :: rest :=
      List.exists_cons_of_ne_nil (by simp [String.utf8EncodeChar_ne_nil])
    have := (mirrors_eq ascii).head equal
    simp only [decide_eq_decide] at this
    rw [equal]
    simpa using this

theorem count_ofChars {d : Char} (ascii : IsAscii d) (chars : List Char) :
    (ofChars chars).count d.toUInt8 = chars.count d := by
  induction chars with
  | nil => rfl
  | cons c chars ih =>
    rw [ofChars_cons, List.count_append, ih, List.count_cons, Nat.add_comm]
    congr 1
    by_cases same : c = d
    · subst same
      simp [utf8EncodeChar_ascii ascii]
    · rw [if_neg (by simpa using same), List.count_eq_zero]
      intro member
      have := mirrors_eq ascii c _ member
      simp [same] at this

theorem not_mem_ofChars {d : Char} (ascii : IsAscii d) {chars : List Char} (free : d ∉ chars) :
    d.toUInt8 ∉ ofChars chars := by
  rw [← List.count_eq_zero, count_ofChars ascii, List.count_eq_zero]
  exact free

/-! ## ASCII among other characters -/

theorem ne_of_mem_utf8EncodeChar {c d : Char} (ascii : IsAscii d) (different : c ≠ d) {byte : UInt8}
    (member : byte ∈ String.utf8EncodeChar c) : byte ≠ d.toUInt8 := by
  simpa [different] using mirrors_eq ascii c byte member

theorem prefix_of_prefix_ofChars {front chars : List Char} (bytes : ofChars front <+: ofChars chars) :
    front <+: chars := by
  induction front generalizing chars with
  | nil => exact List.nil_prefix
  | cons d front ih =>
    cases chars with
    | nil => simp [String.utf8EncodeChar_ne_nil] at bytes
    | cons c chars =>
      -- The first character is read off the bytes, so there is just one that it can be.
      obtain ⟨more, equal⟩ := bytes
      rw [ofChars_cons, ofChars_cons, List.append_assoc] at equal
      have same := headChar?_append d (ofChars front ++ more)
      rw [equal, headChar?_append, Option.some.injEq] at same
      subst same
      rw [List.append_cancel_left_eq] at equal
      exact List.cons_prefix_cons.2 ⟨rfl, ih ⟨more, equal⟩⟩

theorem ofChars_inj {first second : List Char} (equal : ofChars first = ofChars second) :
    first = second := by
  have front : first <+: second := prefix_of_prefix_ofChars (equal ▸ List.prefix_rfl)
  have back : second <+: first := prefix_of_prefix_ofChars (equal ▸ List.prefix_rfl)
  exact front.eq_of_length_le back.length_le

theorem map_toUInt8 {chars : List Char} (ascii : ∀ d ∈ chars, IsAscii d) :
    chars.map Char.toUInt8 = ofChars chars := by
  induction chars with
  | nil => rfl
  | cons d chars ih =>
    rw [List.forall_mem_cons] at ascii
    rw [ofChars_ascii_cons ascii.1, List.map_cons, ih ascii.2]

theorem prefix_ofChars {front chars : List Char} (ascii : ∀ d ∈ front, IsAscii d) :
    front.map Char.toUInt8 <+: ofChars chars ↔ front <+: chars := by
  rw [map_toUInt8 ascii]
  refine ⟨prefix_of_prefix_ofChars, ?_⟩
  rintro ⟨more, rfl⟩
  exact ⟨ofChars more, (ofChars_append ..).symm⟩

theorem infix_of_append {first : UInt8} {others bytes more : List UInt8} (apart : first ∉ bytes)
    (inside : first :: others <:+: bytes ++ more) : first :: others <:+: more := by
  induction bytes with
  | nil => exact inside
  | cons byte bytes ih =>
    rw [List.mem_cons, not_or] at apart
    rw [List.cons_append, List.infix_cons_iff, List.cons_prefix_cons] at inside
    rcases inside with front | later
    · exact absurd front.1 apart.1
    · exact ih apart.2 later

theorem infix_ofChars {d : Char} {others chars : List Char} (ascii : ∀ e ∈ d :: others, IsAscii e)
    (inside : (d :: others).map Char.toUInt8 <:+: ofChars chars) : d :: others <:+: chars := by
  have first : IsAscii d := ascii d (by simp)
  induction chars with
  | nil => simp at inside
  | cons c chars ih =>
    rw [List.infix_cons_iff]
    by_cases same : c = d
    · have front : (d :: others).map Char.toUInt8 <+: ofChars (c :: chars) ↔
          d :: others <+: c :: chars := prefix_ofChars ascii
      rw [same, ofChars_ascii_cons first] at front
      rw [same, ofChars_ascii_cons first, List.infix_cons_iff] at inside
      rw [same]
      exact inside.imp front.1 ih
    · -- Within the bytes of another character nothing can begin.
      refine .inr (ih (infix_of_append ?_ inside))
      exact fun member => ne_of_mem_utf8EncodeChar first same member rfl

end CTokens.Utf8
