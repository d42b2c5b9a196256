import CTokens.Proofs.Eaters

/-! # Reading follows the grammar

`eatPiece` decides by bytes, and the grammar by characters.  Where the cursor stands between
two characters the two agree: what the grammar has for a segment, `nextSegment?` reads, no
byte more or less (`nextSegment?_of_reads`).
-/

namespace CTokens

open Utf8

namespace Cursor

/-! ## Which eater is called -/

section Dispatch

variable {c : Cursor} {byte : UInt8} {d : Char} {chars : List Char}

theorem class_of_peek {p : UInt8 → Bool} {q : Char → Bool} (mirrors : Mirrors p q)
    (ahead : c.ahead = ofChars (d :: chars)) (peek : c.peek? = some byte) : p byte = q d := by
  obtain ⟨more, cons⟩ := List.head?_eq_some_iff.1 peek
  exact mirrors.head (ahead.symm.trans cons)

theorem peek_eq_iff {e : Char} (ascii : IsAscii e) (ahead : c.ahead = ofChars (d :: chars))
    (peek : c.peek? = some byte) : byte = e.toUInt8 ↔ d = e := by
  simpa using class_of_peek (mirrors_eq ascii) ahead peek

theorem peekNext?_eq_iff {e : Char} (ascii : IsAscii d) (second : IsAscii e)
    (ahead : c.ahead = ofChars (d :: chars)) :
    c.peekNext? = some e.toUInt8 ↔ chars.head? = some e := by
  rw [peekNext?, ahead, ofChars_ascii_cons ascii, List.tail_cons, head?_ofChars second]

theorem eatPiece_lexeme (ahead : c.ahead = ofChars (d :: chars)) (peek : c.peek? = some byte)
    (starts : StartsLexeme d chars) :
    c.eatPiece byte = (.lexeme (c.eatLexeme byte).1, (c.eatLexeme byte).2) := by
  -- The scanner sees a comment by two bytes, the grammar by two characters.
  have plain : ∀ e, opensComment ['/', e] = true → IsAscii e →
      ¬ (byte = '/'.toUInt8 ∧ c.peekNext? = some e.toUInt8) := by
    rintro e opens ascii ⟨slash, next⟩
    rw [peek_eq_iff (by decide) ahead peek] at slash
    subst slash
    rw [peekNext?_eq_iff (by decide) ascii ahead] at next
    have := starts.comment e next
    simp [opens] at this
  have line := plain '/' rfl (by decide)
  have block := plain '*' rfl (by decide)
  rw [eatPiece, if_neg, if_neg, if_neg (by simpa using line), if_neg (by simpa using block)]
  · rw [peek_eq_iff (by decide) ahead peek]
    exact starts.hash
  · rw [class_of_peek mirrors_isBlank ahead peek, starts.space]
    exact Bool.false_ne_true

theorem eatPiece_sign (ahead : c.ahead = ofChars (d :: chars)) (peek : c.peek? = some byte)
    (starts : StartsSign d chars) : c.eatPiece byte = (.lexeme c.eatSign.1, c.eatSign.2) := by
  have quote : byte ≠ '"'.toUInt8 := by
    rw [ne_eq, peek_eq_iff (by decide) ahead peek]
    exact starts.quote
  rw [eatPiece_lexeme ahead peek starts.toStartsLexeme]
  simp [eatLexeme, class_of_peek mirrors_isDigit ahead peek, starts.digit,
    class_of_peek mirrors_isWordStart ahead peek, starts.word, quote]

theorem eatPiece_number (ahead : c.ahead = ofChars (d :: chars)) (peek : c.peek? = some byte)
    (digit : d.isDigit = true) : c.eatPiece byte = (.lexeme c.eatNumber.1, c.eatNumber.2) := by
  rw [eatPiece_lexeme ahead peek (startsLexeme_of_inWord (inWord_of_isDigit digit) chars)]
  simp [eatLexeme, class_of_peek mirrors_isDigit ahead peek, digit]

theorem eatPiece_word (ahead : c.ahead = ofChars (d :: chars)) (peek : c.peek? = some byte)
    (start : startsWord d = true) : c.eatPiece byte = (.lexeme c.eatWord.1, c.eatWord.2) := by
  rw [eatPiece_lexeme ahead peek (startsLexeme_of_inWord (inWord_of_startsWord start) chars)]
  simp [eatLexeme, class_of_peek mirrors_isDigit ahead peek, not_isDigit_of_startsWord start,
    class_of_peek mirrors_isWordStart ahead peek, start]

theorem eatPiece_string (ahead : c.ahead = ofChars ('"' :: chars)) (peek : c.peek? = some byte) :
    c.eatPiece byte = (.lexeme c.eatString.1, c.eatString.2) := by
  have quote : byte = '"'.toUInt8 := (peek_eq_iff (by decide) ahead peek).2 rfl
  rw [eatPiece_lexeme ahead peek (startsLexeme_quote chars), quote]
  rfl

end Dispatch

end Cursor

/-! ## Lexemes as the grammar has them -/

/-- The piece of a form, where it starts on the line `line`. -/
def Form.piece (line : UInt32) : Form → Piece
  | .blank => .blank
  | .directive => .directive
  | .lineComment => .lineComment
  | .blockComment => .blockComment
  | .lexeme kind text => .lexeme { kind := kind, text := String.ofList text, line := line }

theorem exists_spelling_cons (word : Keyword) :
    ∃ d more, word.spelling.toList = d :: more ∧ startsWord d = true ∧
      ∀ e ∈ d :: more, inWord e = true := by
  cases word <;> exact ⟨_, _, rfl, by decide, List.all_iff_forall_prop.1 (by decide)⟩

theorem ofWord_spelling (word : Keyword) : Kind.ofWord word.spelling = .keyword word := by
  rw [Kind.ofWord, Keyword.ofSpelling?_spelling]

theorem ofWord_of_free {text : List Char} (free : ∀ word : Keyword, word.spelling.toList ≠ text) :
    Kind.ofWord (String.ofList text) = .identifier := by
  have refused : Keyword.ofSpelling? (String.ofList text) = none := by
    rw [Keyword.ofSpelling?, List.find?_eq_none]
    intro word _
    simp only [decide_eq_true_eq]
    intro spells
    exact free word (by rw [spells, String.toList_ofList])
  rw [Kind.ofWord, refused]

theorem startsSign_of_symbol {sign : Symbol} {d : Char} {more rest : List Char}
    (spells : sign.spelling.toList = d :: more)
    (stops : Stops (continues (.symbol sign) (d :: more)) rest) : StartsSign d (more ++ rest) := by
  -- No character of a symbol begins a segment of another form.
  have apart : ∀ e ∈ sign.spelling.toList,
      isSpace e = false ∧ e ≠ '#' ∧ e.isDigit = false ∧ startsWord e = false ∧ e ≠ '"' := by
    cases sign <;> exact List.all_iff_forall_prop.1 (by decide)
  obtain ⟨space, hash, digit, word, quote⟩ := apart d (by simp [spells])
  refine ⟨⟨space, hash, ?_⟩, digit, word, quote⟩
  intro e next
  cases more with
  | nil => exact (Bool.or_eq_false_iff.1 (stops e next)).2
  | cons f more =>
    -- No comment opens with the two characters of a symbol.
    cases next
    have opens : opensComment (sign.spelling.toList.take 2) = false := by cases sign <;> decide
    simpa [spells] using opens

theorem startsSign_of_stray {d : Char} {rest : List Char} (stray : isStray d = true)
    (stops : Stops (continues .unknown [d]) rest) : StartsSign d rest := by
  have comment : Stops (fun e => opensComment [d, e]) rest := fun e next =>
    (Bool.or_eq_false_iff.1 (stops e next)).2
  simp only [isStray, Bool.or_eq_true, decide_eq_true_eq, Bool.not_eq_true', Bool.or_eq_false_iff,
    decide_eq_false_iff_not] at stray
  rcases stray with (rfl | rfl) | ⟨⟨⟨⟨⟨⟨alpha, digit⟩, underscore⟩, quote⟩, hash⟩, space⟩, -⟩
  · exact ⟨⟨by decide, by decide, comment⟩, by decide, by decide, by decide⟩
  · exact ⟨⟨by decide, by decide, comment⟩, by decide, by decide, by decide⟩
  · exact ⟨⟨space, hash, comment⟩, digit, by simp [startsWord, alpha, underscore], quote⟩

theorem not_isSpelling_of_stray {d : Char} (stray : isStray d = true) : isSpelling [d] = false := by
  rw [Bool.eq_false_iff, ne_eq, isSpelling_eq_true]
  rintro ⟨sign, spells⟩
  have known : ∀ e ∈ sign.spelling.toList, sign.spelling.toList = [e] → isStray e = false := by
    cases sign <;> exact List.all_iff_forall_prop.1 (by decide)
  rw [known d (by simp [spells]) spells] at stray
  contradiction

theorem ne_quote_of_inWord {d : Char} (word : inWord d = true) : d ≠ '"' := by
  rintro rfl
  exact absurd word (by decide)

/-- How a lexeme begins: as nothing that is skipped, and with a quote if it is a string. -/
theorem exists_written_cons {kind : Kind} {text rest : List Char} (admits : Admits kind text)
    (stops : Stops (continues kind text) rest) :
    ∃ d more, written kind text = d :: more ∧ StartsLexeme d (more ++ rest) ∧
      (d = '"' ↔ kind = .string) := by
  cases admits with
  | keyword word =>
    obtain ⟨d, more, spells, -, all⟩ := exists_spelling_cons word
    have first := all d (by simp)
    exact ⟨d, more, spells, startsLexeme_of_inWord first _, by simp [ne_quote_of_inWord first]⟩
  | @identifier d more start =>
    have first := inWord_of_startsWord start
    exact ⟨d, more, rfl, startsLexeme_of_inWord first _, by simp [ne_quote_of_inWord first]⟩
  | @number digits nonempty all =>
    obtain ⟨d, digits, rfl⟩ := List.exists_cons_of_ne_nil nonempty
    have first := inWord_of_isDigit (all d (by simp))
    exact ⟨d, digits, rfl, startsLexeme_of_inWord first _, by simp [ne_quote_of_inWord first]⟩
  | string => exact ⟨'"', _, rfl, startsLexeme_quote _, by simp⟩
  | symbol sign =>
    obtain ⟨d, more, spells⟩ : ∃ d more, sign.spelling.toList = d :: more := by
      cases sign <;> exact ⟨_, _, rfl⟩
    rw [spells] at stops ⊢
    have starts := startsSign_of_symbol spells stops
    exact ⟨d, more, rfl, starts.toStartsLexeme, by simp [starts.quote]⟩
  | @unknown d stray =>
    have starts := startsSign_of_stray stray stops
    exact ⟨d, [], rfl, starts.toStartsLexeme, by simp [starts.quote]⟩

namespace Cursor

variable {c : Cursor} {byte : UInt8}

theorem eatPiece_symbol {sign : Symbol} {rest : List Char}
    (stops : Stops (continues (.symbol sign) sign.spelling.toList) rest)
    (ahead : c.ahead = ofChars (sign.spelling.toList ++ rest)) (peek : c.peek? = some byte) :
    c.eatPiece byte = ((Form.lexeme (.symbol sign) sign.spelling.toList).piece c.line,
      c.skip (ofChars sign.spelling.toList).length) := by
  have short := length_spelling_le sign
  match spells : sign.spelling.toList with
  | [] => exact absurd spells (by cases sign <;> decide)
  | [d] =>
    rw [spells] at stops ahead
    have starts : StartsSign d rest := startsSign_of_symbol spells stops
    -- No comment opens here, which leaves a longer symbol as what could be read instead.
    have single : Stops (fun e => isSpelling [d, e]) rest := fun e next =>
      (Bool.or_eq_false_iff.1 (stops e next)).1
    rw [eatPiece_sign ahead peek starts, eatSign_single ahead single, ofChar_of_spelling spells]
    rfl
  | [d, e] =>
    rw [spells] at stops ahead
    have starts : StartsSign d (e :: rest) := startsSign_of_symbol spells stops
    rw [eatPiece_sign ahead peek starts, eatSign_pair spells ahead]
    rfl
  | _ :: _ :: _ :: _ => simp [spells] at short

theorem length_ofChars_ascii_cons {d : Char} (ascii : IsAscii d) (chars : List Char) :
    (ofChars (d :: chars)).length = 1 + (ofChars chars).length := by
  rw [ofChars_ascii_cons ascii, List.length_cons, Nat.add_comm]

theorem eatPiece_of_admits {kind : Kind} {text rest : List Char} (admits : Admits kind text)
    (stops : Stops (continues kind text) rest)
    (ahead : c.ahead = ofChars (written kind text ++ rest)) (peek : c.peek? = some byte) :
    c.eatPiece byte = ((Form.lexeme kind text).piece c.line,
      c.skip (ofChars (written kind text)).length) := by
  cases admits with
  | keyword word =>
    obtain ⟨d, more, spells, start, all⟩ := exists_spelling_cons word
    have ofWord : Kind.ofWord (String.ofList (d :: more)) = .keyword word := by
      rw [← spells, String.ofList_toList, ofWord_spelling]
    rw [spells] at stops ahead ⊢
    change c.ahead = ofChars ((d :: more) ++ rest) at ahead
    rw [eatPiece_word ahead peek start, eatWord_eq ahead all stops, ofWord]
    rfl
  | @identifier d more start all free =>
    have inside : ∀ e ∈ d :: more, inWord e = true := by
      simpa [inWord_of_startsWord start] using all
    change c.ahead = ofChars ((d :: more) ++ rest) at ahead
    rw [eatPiece_word ahead peek start, eatWord_eq ahead inside stops, ofWord_of_free free]
    rfl
  | @number digits nonempty all =>
    obtain ⟨d, digits, rfl⟩ := List.exists_cons_of_ne_nil nonempty
    rw [eatPiece_number ahead peek (all d (by simp)), eatNumber_eq ahead all stops]
    rfl
  | string free =>
    have quoted : c.ahead = ofChars ('"' :: (text ++ ('"' :: rest))) := by
      simpa [written] using ahead
    -- The grammar counts the closing quote, the eater passes one more byte if there is one.
    have length : (ofChars (written .string text)).length =
        1 + (ofChars text).length + min 1 ('"' :: rest).length := by
      rw [written, if_pos rfl, length_ofChars_ascii_cons (by decide), ofChars_append,
        List.length_append, List.length_cons, Nat.min_eq_left (by omega), Nat.add_assoc]
      rfl
    rw [eatPiece_string quoted peek, eatString_eq free quoted (by simp [Stops]), length]
    rfl
  | symbol sign => exact eatPiece_symbol stops ahead peek
  | @unknown d stray =>
    have single : Stops (fun e => isSpelling [d, e]) rest := fun e next =>
      (Bool.or_eq_false_iff.1 (stops e next)).1
    rw [eatPiece_sign ahead peek (startsSign_of_stray stray stops), eatSign_single ahead single,
      ofChar_of_not_isSpelling (not_isSpelling_of_stray stray)]
    rfl

theorem eatPiece_line {chars : List Char} (ahead : c.ahead = ofChars ('/' :: '/' :: chars))
    (peek : c.peek? = some byte) : c.eatPiece byte = (.lineComment, c.eatLine) := by
  have slash : byte = '/'.toUInt8 := (peek_eq_iff (by decide) ahead peek).2 rfl
  have next : c.peekNext? = some '/'.toUInt8 :=
    (peekNext?_eq_iff (by decide) (by decide) ahead).2 rfl
  rw [eatPiece, slash, next]
  rfl

theorem eatPiece_comment {chars : List Char} (ahead : c.ahead = ofChars ('/' :: '*' :: chars))
    (peek : c.peek? = some byte) : c.eatPiece byte = (.blockComment, c.eatBlockComment) := by
  have slash : byte = '/'.toUInt8 := (peek_eq_iff (by decide) ahead peek).2 rfl
  have next : c.peekNext? = some '*'.toUInt8 :=
    (peekNext?_eq_iff (by decide) (by decide) ahead).2 rfl
  rw [eatPiece, slash, next]
  rfl

theorem length_ofChars_opener (chars : List Char) :
    (ofChars ('/' :: '*' :: chars)).length = 2 + (ofChars chars).length := by
  rw [length_ofChars_ascii_cons (by decide), length_ofChars_ascii_cons (by decide), ← Nat.add_assoc]

theorem eatPiece_of_reads {form : Form} {own rest : List Char} (reads : Reads form own rest)
    (ahead : c.ahead = ofChars (own ++ rest)) (peek : c.peek? = some byte) :
    c.eatPiece byte = (form.piece c.line, c.skip (ofChars own).length) := by
  cases reads with
  | @blank d rest space =>
    rw [eatPiece, if_pos, length_ofChars_ascii_cons (isAscii_of_isSpace space)]
    · rfl
    · rw [class_of_peek mirrors_isBlank ahead peek, space]
  | @directive body rest line stops =>
    have whole : '\n' ∉ '#' :: body := by simpa using line
    rw [eatPiece, if_neg, if_pos, eatLine_eq_skip ahead whole stops]
    · rfl
    · exact (peek_eq_iff (by decide) ahead peek).2 rfl
    · rw [class_of_peek mirrors_isBlank ahead peek]
      decide
  | @lineComment body rest line stops =>
    have whole : '\n' ∉ '/' :: '/' :: body := by simpa using line
    rw [eatPiece_line ahead peek, eatLine_eq_skip ahead whole stops]
    rfl
  | @blockComment body rest inner =>
    have opened : c.ahead = ofChars ('/' :: '*' :: (body ++ (closer ++ rest))) := by
      simpa using ahead
    -- In the same way, two more bytes are passed for the closer.
    have length : (ofChars ('/' :: '*' :: (body ++ closer))).length =
        2 + (ofChars body).length + min 2 (closer ++ rest).length := by
      have two : 2 ≤ (closer ++ rest).length := by simp [closer]
      rw [Nat.min_eq_left two, length_ofChars_opener, ofChars_append, List.length_append,
        ← Nat.add_assoc]
      rfl
    rw [eatPiece_comment opened peek,
      eatBlockComment_eq_skip inner opened (.inr (List.prefix_append ..)), length]
    rfl
  | @openComment body inner =>
    rw [eatPiece_comment (by simpa using ahead) peek,
      eatBlockComment_eq_skip inner ahead (.inl rfl), length_ofChars_opener]
    rfl
  | lexeme admits stops => exact eatPiece_of_admits admits stops ahead peek
  | @openString text free =>
    have quoted : c.ahead = ofChars ('"' :: (text ++ [])) := by simpa using ahead
    rw [eatPiece_string quoted peek, eatString_eq free quoted (by simp [Stops]),
      length_ofChars_ascii_cons (by decide)]
    rfl

theorem nextSegment?_of_reads {form : Form} {own rest : List Char} (reads : Reads form own rest)
    (ahead : c.ahead = ofChars (own ++ rest)) :
    c.nextSegment? = some ({ start := c.pos
                             stop := c.pos + (ofChars own).length
                             piece := form.piece c.line }, c.skip (ofChars own).length) := by
  obtain ⟨d, more, rfl⟩ := List.exists_cons_of_ne_nil reads.own_ne_nil
  obtain ⟨byte, others, first⟩ := exists_utf8EncodeChar_cons d
  have peek : c.peek? = some byte := by
    simp [peek?, ahead, first]
  rw [nextSegment?, peek, Option.map_some, eatPiece_of_reads reads ahead peek]
  simp only [pos_skip_ofChars ahead]

theorem exists_reads_of_nextSegment? {d : Cursor} {segment : Segment} {chars : List Char}
    (ahead : c.ahead = ofChars chars) (next : c.nextSegment? = some (segment, d)) :
    ∃ form own rest, chars = own ++ rest ∧ Reads form own rest ∧ d = c.skip (ofChars own).length := by
  have nonempty : chars ≠ [] := by
    rintro rfl
    simp [nextSegment?, peek?, ahead] at next
  obtain ⟨form, own, rest, rfl, reads⟩ := exists_reads chars nonempty
  rw [nextSegment?_of_reads reads ahead, Option.some.injEq, Prod.mk.injEq] at next
  exact ⟨form, own, rest, rfl, reads, next.2.symm⟩

end Cursor

/-! ## No two segments in one place -/

theorem Form.piece_inj {line : UInt32} {form other : Form}
    (equal : form.piece line = other.piece line) : form = other := by
  cases form <;> cases other <;> simp_all [Form.piece, String.ofList_inj]

/-- The scanner reads one segment, so the grammar has one. -/
theorem Reads.unique {form other : Form} {own own' rest rest' : List Char}
    (first : Reads form own rest) (second : Reads other own' rest')
    (equal : own ++ rest = own' ++ rest') : form = other ∧ own = own' := by
  let c := Cursor.ofBytes (ofChars (own ++ rest))
  have one : c.nextSegment? = _ := Cursor.nextSegment?_of_reads first rfl
  have two : c.nextSegment? = _ := Cursor.nextSegment?_of_reads second (congrArg ofChars equal)
  rw [one, Option.some.injEq, Prod.mk.injEq, Segment.mk.injEq] at two
  obtain ⟨⟨-, stop, piece⟩, -⟩ := two
  refine ⟨Form.piece_inj piece, ofChars_inj ?_⟩
  have bytes := congrArg ofChars equal
  rw [ofChars_append, ofChars_append] at bytes
  exact List.append_inj_left bytes (Nat.add_left_cancel stop)

end CTokens
