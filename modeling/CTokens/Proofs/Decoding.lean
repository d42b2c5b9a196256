import CTokens.Proofs.LineNumbers
import CTokens.Proofs.Sequences
import CTokens.Run

/-! # Decoding

A file may hold any bytes.  Where they are the bytes of a character they are read as that character;
where no character begins, a maximal subpart is read as one U+FFFD: the longest stretch that begins a
character, or else a single byte.  `Divides` says this of bytes without saying how they are read, and
bytes fall apart in this way only once (`Divides.unique`).

All that is replaced is beyond ASCII.  So the ASCII characters of the text are the bytes below `0x80`
(`filter_of_divides`), and nothing that stands behind malformed bytes is lost
(`decodeLossy_append`, `decodeLossy_around`).
-/

namespace CTokens

namespace Utf8

/-! ## Maximal subparts -/

/-- The bytes begin a character, or are all of it. -/
def Begins (bytes : List UInt8) : Prop :=
  ∃ c, bytes <+: String.utf8EncodeChar c

/-- In bytes that begin with no character, `own` is the longest stretch at their front that begins
    one, or else the first byte. -/
structure MaximalSubpart (own rest : List UInt8) : Prop where
  nonempty : own ≠ []
  unconvertible : ∀ c, ¬ String.utf8EncodeChar c <+: own ++ rest
  candidate : own.length = 1 ∨ Begins own
  longest : ∀ longer, longer <+: own ++ rest → Begins longer → longer.length ≤ own.length

inductive Sequence
  | wellFormed (c : Char)
  | illFormed (bytes : List UInt8)

def Sequence.char : Sequence → Char
  | .wellFormed c => c
  | .illFormed _ => '\uFFFD'

/-- The bytes fall apart into those of characters and into maximal subparts. -/
inductive Divides : List UInt8 → List Sequence → Prop
  | nil : Divides [] []
  | wellFormed (c : Char) {rest : List UInt8} {sequences : List Sequence}
      (more : Divides rest sequences) :
      Divides (String.utf8EncodeChar c ++ rest) (.wellFormed c :: sequences)
  | illFormed {own rest : List UInt8} {sequences : List Sequence}
      (maximal : MaximalSubpart own rest) (more : Divides rest sequences) :
      Divides (own ++ rest) (.illFormed own :: sequences)

/-! ## The subpart that is skipped -/

theorem length_le_countWithin {ranges : List (UInt8 × UInt8)} {own full bytes : List UInt8}
    (within : List.Forall₂ Within ranges full) (front : own <+: full) (there : own <+: bytes) :
    own.length ≤ countWithin ranges bytes := by
  induction within generalizing own bytes with
  | nil => simp [List.prefix_nil.1 front]
  | @cons range byte ranges full fits within ih =>
    cases own with
    | nil => exact Nat.zero_le _
    | cons first own =>
      obtain ⟨rfl, inner⟩ := List.cons_prefix_cons.1 front
      cases bytes with
      | nil => simp at there
      | cons other bytes =>
        obtain ⟨rfl, behind⟩ := List.cons_prefix_cons.1 there
        unfold Within at fits
        simpa [countWithin, fits] using ih inner behind

theorem exists_within {ranges : List (UInt8 × UInt8)}
    (proper : ∀ range ∈ ranges, range.1 ≤ range.2) (bytes : List UInt8) :
    ∃ full, List.Forall₂ Within ranges full ∧ bytes.take (countWithin ranges bytes) <+: full := by
  induction ranges generalizing bytes with
  | nil => exact ⟨[], .nil, by simp [countWithin]⟩
  | cons range ranges ih =>
    rw [List.forall_mem_cons] at proper
    cases bytes with
    | nil =>
      obtain ⟨full, within, -⟩ := ih proper.2 []
      exact ⟨range.1 :: full, .cons ⟨UInt8.le_refl _, proper.1⟩ within, List.nil_prefix⟩
    | cons byte bytes =>
      by_cases fits : range.1 ≤ byte ∧ byte ≤ range.2
      · obtain ⟨full, within, front⟩ := ih proper.2 bytes
        refine ⟨byte :: full, .cons fits within, ?_⟩
        simpa [countWithin, fits] using front
      · obtain ⟨full, within, -⟩ := ih proper.2 []
        refine ⟨range.1 :: full, .cons ⟨UInt8.le_refl _, proper.1⟩ within, ?_⟩
        simp [countWithin, fits]

theorem proper_trailing (first : UInt8) : ∀ range ∈ trailing first, range.1 ≤ range.2 := by
  unfold trailing
  repeat' split
  all_goals simp

/-- Where no character is read, what is skipped is a maximal subpart. -/
theorem maximalSubpart_of_headChar? {first : UInt8} {rest : List UInt8}
    (unread : headChar? (first :: rest) = none) :
    MaximalSubpart (first :: rest.take (countWithin (trailing first) rest))
      (rest.drop (countWithin (trailing first) rest)) := by
  have whole : first :: rest.take (countWithin (trailing first) rest) ++
      rest.drop (countWithin (trailing first) rest) = first :: rest := by
    rw [List.cons_append, List.take_append_drop]
  constructor
  case nonempty => exact List.cons_ne_nil _ _
  case unconvertible =>
    rintro c ⟨more, equal⟩
    rw [whole] at equal
    rw [← equal, headChar?_append] at unread
    cases unread
  case candidate =>
    by_cases leads : trailing first = []
    · left
      rw [leads]
      rfl
    · -- The ranges that no byte has been found for can be filled, which makes a character.
      right
      obtain ⟨full, within, front⟩ := exists_within (proper_trailing first) rest
      obtain ⟨c, equal⟩ := exists_utf8EncodeChar leads within
      exact ⟨c, equal ▸ List.cons_prefix_cons.2 ⟨rfl, front⟩⟩
  case longest =>
    rintro longer there ⟨c, begins⟩
    rw [whole] at there
    cases longer with
    | nil => exact Nat.zero_le _
    | cons head longer =>
      -- It has the same lead, so that its other bytes have been tried against the same ranges.
      obtain ⟨rfl, behind⟩ := List.cons_prefix_cons.1 there
      obtain ⟨lead, full, equal⟩ := exists_utf8EncodeChar_cons c
      rw [equal] at begins
      obtain ⟨rfl, front⟩ := List.cons_prefix_cons.1 begins
      have le := length_le_countWithin (within_of_utf8EncodeChar equal) front behind
      have inside := behind.length_le
      rw [List.length_cons, List.length_cons, List.length_take]
      omega

/-! ## The sequences of bytes -/

theorem MaximalSubpart.length_le {own rest other more : List UInt8}
    (maximal : MaximalSubpart own rest) (again : MaximalSubpart other more)
    (equal : own ++ rest = other ++ more) : own.length ≤ other.length := by
  rcases maximal.candidate with one | begins
  · rw [one]
    exact List.length_pos_iff.2 again.nonempty
  · exact again.longest own (equal ▸ List.prefix_append ..) begins

theorem MaximalSubpart.unique {own rest other more : List UInt8}
    (maximal : MaximalSubpart own rest) (again : MaximalSubpart other more)
    (equal : own ++ rest = other ++ more) : own = other ∧ rest = more :=
  List.append_inj equal
    (Nat.le_antisymm (maximal.length_le again equal) (again.length_le maximal equal.symm))

theorem Divides.unique {bytes : List UInt8} {sequences others : List Sequence}
    (divides : Divides bytes sequences) (again : Divides bytes others) : sequences = others := by
  -- The bytes become a variable in each case, or `cases` could not tell `again` apart.
  induction divides generalizing others with
  | nil =>
    generalize equal : [] = bytes at again
    cases again with
    | nil => rfl
    | wellFormed d second => simp [String.utf8EncodeChar_ne_nil] at equal
    | illFormed other second => simp [other.nonempty] at equal
  | @wellFormed c rest sequences first ih =>
    generalize equal : String.utf8EncodeChar c ++ rest = bytes at again
    cases again with
    | nil => simp [String.utf8EncodeChar_ne_nil] at equal
    | wellFormed d second =>
      have same := headChar?_append c rest
      rw [equal, headChar?_append, Option.some.injEq] at same
      subst same
      rw [List.append_cancel_left_eq] at equal
      rw [ih (equal ▸ second)]
    | illFormed other second =>
      exact absurd (equal ▸ List.prefix_append ..) (other.unconvertible c)
  | @illFormed own rest sequences maximal first ih =>
    generalize equal : own ++ rest = bytes at again
    cases again with
    | nil => simp [maximal.nonempty] at equal
    | wellFormed d second =>
      exact absurd (equal ▸ List.prefix_append ..) (maximal.unconvertible d)
    | illFormed other second =>
      obtain ⟨rfl, rfl⟩ := maximal.unique other equal
      rw [ih second]

theorem exists_divides (text : String) (bytes : List UInt8) :
    ∃ sequences, Divides bytes sequences ∧
      (appendLossy text bytes).toList = text.toList ++ sequences.map Sequence.char := by
  fun_induction appendLossy text bytes with
  | case1 text => exact ⟨[], .nil, by simp⟩
  | case2 text first rest c read ih =>
    -- The reader goes on behind the bytes of the character, whose number is all it counts.
    obtain ⟨sequences, divides, equal⟩ := ih
    obtain ⟨more, whole⟩ := prefix_of_headChar? read
    have behind : more = rest.drop (c.utf8Size - 1) := by
      have := congrArg (List.drop c.utf8Size) whole
      rwa [← String.length_utf8EncodeChar, List.drop_left, String.length_utf8EncodeChar,
        ← Nat.sub_add_cancel c.utf8Size_pos, List.drop_succ_cons] at this
    rw [← behind] at divides
    refine ⟨.wellFormed c :: sequences, whole ▸ .wellFormed c divides, ?_⟩
    rw [equal, String.toList_push, List.append_assoc]
    rfl
  | case3 text first rest unread ih =>
    obtain ⟨sequences, divides, equal⟩ := ih
    have parts := Divides.illFormed (maximalSubpart_of_headChar? unread) divides
    rw [List.cons_append, List.take_append_drop] at parts
    refine ⟨_, parts, ?_⟩
    rw [equal, String.toList_push, List.append_assoc]
    rfl

theorem toList_decodeLossy {bytes : List UInt8} {sequences : List Sequence}
    (divides : Divides bytes sequences) :
    (decodeLossy bytes).toList = sequences.map Sequence.char := by
  obtain ⟨others, again, equal⟩ := exists_divides "" bytes
  rw [divides.unique again]
  exact equal

/-! ## Bytes beyond ASCII -/

theorem exists_ascii {byte : UInt8} (low : byte < 0x80) : ∃ c, IsAscii c ∧ c.toUInt8 = byte := by
  rw [UInt8.lt_iff_toNat_lt] at low
  have low : byte.toNat < 128 := low
  obtain ⟨c, value⟩ : ∃ c : Char, c.val.toNat = byte.toNat := exists_val_toNat (.inl (by omega))
  have ascii : IsAscii c := by
    show c.val.toNat < 128
    rwa [value]
  refine ⟨c, ascii, ?_⟩
  rw [← UInt8.toNat_inj, toNat_toUInt8 ascii]
  exact value

theorem MaximalSubpart.le_of_mem {own rest : List UInt8} (maximal : MaximalSubpart own rest)
    {byte : UInt8} (member : byte ∈ own) : 0x80 ≤ byte := by
  rcases maximal.candidate with one | ⟨c, begins⟩
  · obtain ⟨only, rfl⟩ := List.length_eq_one_iff.1 one
    obtain rfl := List.mem_singleton.1 member
    refine UInt8.not_lt.1 fun low => ?_
    obtain ⟨c, ascii, rfl⟩ := exists_ascii low
    refine maximal.unconvertible c ?_
    rw [utf8EncodeChar_ascii ascii]
    exact List.prefix_append ..
  · by_cases ascii : IsAscii c
    · -- An ASCII character is read as soon as it begins.
      rw [utf8EncodeChar_ascii ascii] at begins
      have full : own = [c.toUInt8] :=
        begins.eq_of_length_le (List.length_pos_iff.2 maximal.nonempty)
      refine absurd ?_ (maximal.unconvertible c)
      rw [utf8EncodeChar_ascii ascii, full]
      exact List.prefix_append ..
    · exact le_of_mem_utf8EncodeChar ascii (begins.subset member)

theorem filter_utf8EncodeChar (c : Char) :
    (String.utf8EncodeChar c).filter (· < 0x80) =
      ([c].filter fun d => IsAscii d).map Char.toUInt8 := by
  by_cases ascii : IsAscii c
  · have low : c.toUInt8 < 0x80 := by
      rw [UInt8.lt_iff_toNat_lt, toNat_toUInt8 ascii]
      exact ascii
    simp [utf8EncodeChar_ascii ascii, ascii, low]
  · have above : (String.utf8EncodeChar c).filter (· < 0x80) = [] := by
      simpa using fun byte member => le_of_mem_utf8EncodeChar ascii member
    simp [above, ascii]

theorem filter_of_divides {bytes : List UInt8} {sequences : List Sequence}
    (divides : Divides bytes sequences) :
    bytes.filter (· < 0x80) =
      ((sequences.map Sequence.char).filter fun d => IsAscii d).map Char.toUInt8 := by
  induction divides with
  | nil => rfl
  | wellFormed c more ih =>
    rw [List.filter_append, ih, filter_utf8EncodeChar, ← List.map_append, ← List.filter_append]
    rfl
  | illFormed maximal more ih =>
    rw [List.filter_append, ih, List.filter_eq_nil_iff.2, List.nil_append]
    · rfl
    · intro byte member
      simpa using maximal.le_of_mem member

/-! ## Bytes behind a boundary -/

theorem prefix_of_begins {own front rest : List UInt8} (begins : Begins own)
    (inside : own <+: front ++ rest) (nonempty : front ≠ []) (boundary : isBoundary rest = true) :
    own <+: front := by
  refine List.prefix_of_prefix_length_le inside (List.prefix_append ..) ?_
  by_contra longer
  -- Otherwise what begins the character ends behind the boundary, in a first byte of `rest`.
  obtain ⟨more, rfl⟩ := List.prefix_of_prefix_length_le (List.prefix_append ..) inside (by omega)
  rw [List.prefix_append_right_inj] at inside
  cases more with
  | nil => simp at longer
  | cons byte more =>
    -- The byte behind the boundary would continue the character.
    obtain ⟨c, others, equal⟩ := begins
    obtain ⟨n, length⟩ := Nat.exists_eq_add_one_of_ne_zero (mt List.length_eq_zero_iff.1 nonempty)
    have inner : n + 1 < (String.utf8EncodeChar c).length := by
      rw [← equal, ← length, List.append_assoc, List.length_append, List.cons_append,
        List.length_cons]
      omega
    have continues := isBoundary_within inner []
    rw [List.append_nil, ← equal, ← length, List.append_assoc, List.drop_left] at continues
    obtain ⟨after, rfl⟩ := inside
    exact Bool.noConfusion (continues.symm.trans boundary)

/-- What stands behind a boundary falls apart as if it stood alone. -/
theorem Divides.append {front rest : List UInt8} {sequences more : List Sequence}
    (first : Divides front sequences) (second : Divides rest more)
    (boundary : isBoundary rest = true) : Divides (front ++ rest) (sequences ++ more) := by
  induction first with
  | nil => exact second
  | wellFormed c divides ih =>
    rw [List.append_assoc]
    exact .wellFormed c ih
  | @illFormed own behind sequences maximal divides ih =>
    rw [List.append_assoc]
    refine .illFormed ?_ ih
    have nonempty : own ++ behind ≠ [] := by simp [maximal.nonempty]
    -- Two clauses see what is behind, and no character that begins in front goes over a boundary.
    constructor
    case nonempty => exact maximal.nonempty
    case unconvertible =>
      intro c there
      rw [← List.append_assoc] at there
      exact maximal.unconvertible c
        (prefix_of_begins ⟨c, List.prefix_rfl⟩ there nonempty boundary)
    case candidate => exact maximal.candidate
    case longest =>
      intro longer there begins
      rw [← List.append_assoc] at there
      exact maximal.longest longer (prefix_of_begins begins there nonempty boundary) begins

theorem decodeLossy_append {front rest : List UInt8} (boundary : isBoundary rest = true) :
    decodeLossy (front ++ rest) = decodeLossy front ++ decodeLossy rest := by
  obtain ⟨sequences, first, -⟩ := exists_divides "" front
  obtain ⟨others, second, -⟩ := exists_divides "" rest
  rw [← String.toList_inj, String.toList_append, toList_decodeLossy first,
    toList_decodeLossy second, toList_decodeLossy (first.append second boundary), List.map_append]

theorem Divides.ofChars_append {rest : List UInt8} {sequences : List Sequence}
    (divides : Divides rest sequences) (chars : List Char) :
    Divides (ofChars chars ++ rest) (chars.map .wellFormed ++ sequences) := by
  induction chars with
  | nil => exact divides
  | cons c chars ih =>
    rw [ofChars_cons, List.append_assoc]
    exact .wellFormed c ih

theorem decodeLossy_ofChars_append (chars : List Char) (bytes : List UInt8) :
    (decodeLossy (ofChars chars ++ bytes)).toList = chars ++ (decodeLossy bytes).toList := by
  obtain ⟨sequences, divides, -⟩ := exists_divides "" bytes
  rw [toList_decodeLossy divides, toList_decodeLossy (divides.ofChars_append chars),
    List.map_append, List.map_map]
  congr 1
  exact List.map_id chars

theorem decodeLossy_around {chars : List Char} (nonempty : chars ≠ []) (before after : List UInt8) :
    (decodeLossy (before ++ (ofChars chars ++ after))).toList =
      (decodeLossy before).toList ++ chars ++ (decodeLossy after).toList := by
  have boundary : isBoundary (ofChars chars ++ after) = true := by
    have := isBoundary_ofChars chars
    cases bytes : ofChars chars with
    | nil => exact absurd (ofChars_inj bytes : chars = []) nonempty
    | cons byte more => rwa [bytes] at this
  rw [decodeLossy_append boundary, String.toList_append, decodeLossy_ofChars_append,
    List.append_assoc]

theorem encode_of_decode? {bytes : List UInt8} {text : String} (read : decode? bytes = some text) :
    encode text = bytes := by
  unfold decode? String.fromUTF8? at read
  split at read
  · cases read
    exact congrArg Array.toList List.data_toByteArray
  · cases read

/-! ## Decoded text -/

/-- What is known of the text that bytes are read as.  It is what they write if they write a text;
    else the one way they fall apart gives its characters.  Its ASCII characters are the bytes below
    `0x80`, and the bytes of characters are kept and keep what is before them from what is behind. -/
structure Decoding (bytes : List UInt8) (text : String) : Prop where
  written : ∀ own, decode? bytes = some own → text = own
  divided : ∃ sequences, Divides bytes sequences ∧
    (∀ others, Divides bytes others → others = sequences) ∧
    text.toList = sequences.map Sequence.char
  ascii : bytes.filter (· < 0x80) = (text.toList.filter fun c => IsAscii c).map Char.toUInt8
  around : ∀ before own after, own ≠ [] → bytes = before ++ (ofChars own ++ after) →
    text.toList = (decodeLossy before).toList ++ own ++ (decodeLossy after).toList
  settled : decodeLossy (encode text) = text

theorem decoding_decodeLossy (bytes : List UInt8) : Decoding bytes (decodeLossy bytes) := by
  obtain ⟨sequences, divides, -⟩ := exists_divides "" bytes
  have equal := toList_decodeLossy divides
  constructor
  case written =>
    intro own read
    rw [← encode_of_decode? read, decodeLossy_encode]
  case divided =>
    exact ⟨sequences, divides, fun others again => again.unique divides, equal⟩
  case ascii => rw [filter_of_divides divides, equal]
  case around =>
    rintro before own after nonempty rfl
    exact decodeLossy_around nonempty before after
  case settled => exact decodeLossy_encode _

theorem count_newline_decodeLossy (bytes : List UInt8) :
    (encode (decodeLossy bytes)).count Cursor.newline = bytes.count Cursor.newline := by
  -- A newline is in ASCII, and the ASCII bytes are the same before and after.
  have low : ∀ content : List UInt8,
      content.count Cursor.newline = (content.filter (· < 0x80)).count Cursor.newline :=
    fun content => (List.count_filter (by decide)).symm
  have again := (decoding_decodeLossy (encode (decodeLossy bytes))).ascii
  rw [decodeLossy_encode] at again
  rw [low, again, low bytes, (decoding_decodeLossy bytes).ascii]

end Utf8

/-- A content that could be read, be it that of a file of a tree or any other, is lexed as the text
    its bytes are read as, and its last line is that of its bytes. -/
theorem decoding_and_lexed {content : Except FileError (List UInt8)} {bytes : List UInt8}
    (read : content = .ok bytes) :
    ∃ text, sourceText content = .ok text ∧ lexContent content = .ok (lex text) ∧
      Utf8.Decoding bytes text ∧
      (bytes.count Cursor.newline < UInt32.size - 1 →
        ∃ line, (lex text).tokens.getLast? = some (Token.endOfFile line) ∧
          line.toNat = 1 + bytes.count Cursor.newline) := by
  rw [read]
  refine ⟨Utf8.decodeLossy bytes, rfl, rfl, Utf8.decoding_decodeLossy bytes, fun few => ?_⟩
  rw [← Utf8.count_newline_decodeLossy] at few ⊢
  refine ⟨_, ?_, toNat_line_scan few⟩
  rw [lex, tokenize_eq_placedTokens, List.getLast?_concat]

/-- A quote and a newline behind the beginning of a character. -/
theorem decoding_and_lexed_of_a_cut_character :
    let bytes : List UInt8 := [0x22, 0xE2, 0x82, 0x22, 0x0A]
    let tree : FileTree := { root := .directory [("a.c", .file bytes)], working := [] }
    tree.read "a.c" = .ok bytes ∧ bytes.count Cursor.newline < UInt32.size - 1 ∧
      lexContent (tree.read "a.c") = .ok (lex "\"\uFFFD\"\n") ∧
      Utf8.Decoding bytes "\"\uFFFD\"\n" ∧
      (lex "\"\uFFFD\"\n").tokens.getLast? = some (Token.endOfFile 2) := by
  intro bytes tree
  have read : tree.read "a.c" = .ok bytes := by rfl
  have few : bytes.count Cursor.newline < UInt32.size - 1 := by decide
  have unread : Utf8.headChar? [0xE2, 0x82, 0x22, 0x0A] = none := by rfl
  have cut : Utf8.MaximalSubpart [0xE2, 0x82] [0x22, 0x0A] :=
    Utf8.maximalSubpart_of_headChar? unread
  have divides : Utf8.Divides bytes
      [.wellFormed '"', .illFormed [0xE2, 0x82], .wellFormed '"', .wellFormed '\n'] :=
    .wellFormed '"' (.illFormed cut (.wellFormed '"' (.wellFormed '\n' .nil)))
  obtain ⟨text, -, lexed, decoding, ends⟩ := decoding_and_lexed read
  obtain ⟨sequences, -, unique, chars⟩ := decoding.divided
  obtain rfl : text = "\"\uFFFD\"\n" := by
    rw [← String.toList_inj, chars, ← unique _ divides]
    rfl
  obtain ⟨line, last, value⟩ := ends few
  obtain rfl : line = 2 := UInt32.toNat_inj.1 value
  exact ⟨read, few, lexed, decoding, last⟩

end CTokens
