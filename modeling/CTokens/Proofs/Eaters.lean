import CTokens.Proofs.Classes
import CTokens.Segment.Progress

/-! # What the eaters take

Between two characters of a text, each eater takes the characters it is meant for, whole, and
the text of its token is made of just these.  `eatWhile_eq_skip` does this for runs and
`slice?_skip` for what is cut out.

The comment is the hard one: its eater goes on byte by byte, so within longer characters as
well, and `countToClose_skip` says that it can stop only behind a closer.
-/

namespace CTokens

open Utf8

/-! ## Runs and cuts -/

namespace Cursor

variable {c : Cursor} {own rest : List Char}

theorem ahead_skip_ofChars (ahead : c.ahead = ofChars (own ++ rest)) :
    (c.skip (ofChars own).length).ahead = ofChars rest := by
  rw [ahead_skip, ahead, ofChars_append, List.drop_left]

theorem pos_skip_ofChars (ahead : c.ahead = ofChars (own ++ rest)) :
    (c.skip (ofChars own).length).pos = c.pos + (ofChars own).length := by
  rw [pos_skip, ahead, ofChars_append, List.length_append, Nat.min_eq_left (Nat.le_add_right ..)]

theorem eatWhile_eq_skip {p : UInt8 → Bool} {q : Char → Bool} (mirrors : Mirrors p q)
    (ahead : c.ahead = ofChars (own ++ rest)) (all : ∀ d ∈ own, q d = true) (stops : Stops q rest) :
    c.eatWhile p = c.skip (ofChars own).length := by
  have stopped : rest.takeWhile q = [] := by
    cases rest with
    | nil => rfl
    | cons d rest => simp [stops d rfl]
  rw [eatWhile_eq, ahead, mirrors.takeWhile, List.takeWhile_append_of_pos all, stopped,
    List.append_nil]

theorem slice?_skip (ahead : c.ahead = ofChars (own ++ rest)) :
    (c.skip (ofChars own).length).slice? c.pos = some (String.ofList own) := by
  -- What lies behind the cursor is in reverse, so that the cut is taken from its front.
  have cut : ((c.skip (ofChars own).length).behind.take (ofChars own).length).reverse =
      ofChars own := by
    rw [behind_skip, ahead, ofChars_append, List.take_left, List.take_left' (by simp),
      List.reverse_reverse]
  simp only [slice?, pos_skip_ofChars ahead, Nat.le_add_right, if_true, Nat.add_sub_cancel_left,
    cut, ahead_skip_ofChars ahead]
  rw [← ofChars_append, isBoundary_ofChars, isBoundary_ofChars, ← encode_ofList]
  exact decode?_encode _

theorem textSince_skip (ahead : c.ahead = ofChars (own ++ rest)) :
    (c.skip (ofChars own).length).textSince c.pos = String.ofList own := by
  rw [textSince, slice?_skip ahead, Option.getD_some]

/-! ## What is skipped -/

theorem eatLine_eq_skip (ahead : c.ahead = ofChars (own ++ rest)) (line : '\n' ∉ own)
    (stops : Stops (· ≠ '\n') rest) : c.eatLine = c.skip (ofChars own).length := by
  apply eatWhile_eq_skip (mirrors_ne (by decide)) ahead _ stops
  intro d member
  simpa using ne_of_mem_of_not_mem member line

theorem countToClose_append (n : Nat) {bytes more : List UInt8}
    (other : ∀ byte ∈ bytes, byte ≠ '*'.toUInt8) :
    countToClose n (bytes ++ more) = countToClose (n + bytes.length) more := by
  induction bytes generalizing n with
  | nil => rfl
  | cons byte bytes ih =>
    rw [List.forall_mem_cons] at other
    simp only [List.cons_append, countToClose, other.1, decide_false, Bool.false_and,
      Bool.false_eq_true, if_false]
    rw [ih (n + 1) other.2, List.length_cons]
    congr 1
    omega

/-- Nothing in a comment closes it before its closer does. -/
theorem countToClose_skip (n : Nat) {body tail : List Char} (inner : ¬ closer <:+: body)
    (next : Stops (· = '/') tail) :
    countToClose n (ofChars (body ++ tail)) =
      countToClose (n + (ofChars body).length) (ofChars tail) := by
  induction body generalizing n with
  | nil => rfl
  | cons d body ih =>
    rw [List.infix_cons_iff, not_or] at inner
    have one : countToClose n (String.utf8EncodeChar d ++ ofChars (body ++ tail)) =
        countToClose (n + (String.utf8EncodeChar d).length) (ofChars (body ++ tail)) := by
      by_cases star : d = '*'
      · -- A star counts as any other byte, for it is no slash that follows.
        have follows : (ofChars (body ++ tail)).head? ≠ some '/'.toUInt8 := by
          rw [ne_eq, head?_ofChars (by decide)]
          intro slash
          cases body with
          | nil => simpa using next _ slash
          | cons e body =>
            rw [List.cons_append, List.head?_cons, Option.some.injEq] at slash
            exact inner.1 ⟨body, by simp [closer, star, slash]⟩
        subst star
        have starByte : String.utf8EncodeChar '*' = ['*'.toUInt8] :=
          utf8EncodeChar_ascii (by decide)
        rw [starByte, List.singleton_append, countToClose, if_neg (by simpa using follows)]
        rfl
      · exact countToClose_append n fun byte => ne_of_mem_utf8EncodeChar (by decide) star
    rw [List.cons_append, ofChars_cons, one, ih _ inner.2, ofChars_cons, List.length_append,
      Nat.add_assoc]

theorem countToClose_closer (n : Nat) (bytes : List UInt8) :
    countToClose n (ofChars closer ++ bytes) = n + 2 := by
  rfl

/-- A comment is eaten with its closer if it has one, or else to the end. -/
theorem eatBlockComment_eq_skip {body : List Char} (inner : ¬ closer <:+: body)
    (ahead : c.ahead = ofChars ('/' :: '*' :: (body ++ rest)))
    (ends : rest = [] ∨ closer <+: rest) :
    c.eatBlockComment = c.skip (2 + (ofChars body).length + min 2 rest.length) := by
  have opened : (c.skip 2).ahead = ofChars (body ++ rest) := by
    rw [ahead_skip, ahead, ofChars_ascii_cons (by decide), ofChars_ascii_cons (by decide)]
    rfl
  have next : Stops (· = '/') rest := by
    rcases ends with rfl | ⟨rest, rfl⟩
    · simp [Stops]
    · simp [Stops, closer]
  rw [eatBlockComment, opened, countToClose_skip 0 inner next, Nat.zero_add, ← skip_add]
  rcases ends with rfl | ⟨rest, rfl⟩
  · simp [countToClose]
  · rw [ofChars_append, countToClose_closer]
    simp [closer, Nat.add_assoc]

/-! ## Lexemes -/

theorem eatNumber_eq (ahead : c.ahead = ofChars (own ++ rest))
    (all : ∀ d ∈ own, d.isDigit = true) (stops : Stops Char.isDigit rest) :
    c.eatNumber = ({ kind := .number, text := String.ofList own, line := c.line },
      c.skip (ofChars own).length) := by
  simp only [eatNumber, eatWhile_eq_skip mirrors_isDigit ahead all stops, textSince_skip ahead]

theorem eatWord_eq (ahead : c.ahead = ofChars (own ++ rest))
    (all : ∀ d ∈ own, inWord d = true) (stops : Stops inWord rest) :
    c.eatWord = ({ kind := .ofWord (String.ofList own)
                   text := String.ofList own
                   line := c.line }, c.skip (ofChars own).length) := by
  simp only [eatWord, eatWhile_eq_skip mirrors_isWordByte ahead all stops, textSince_skip ahead]

theorem eatString_opened {text : List Char} (free : '"' ∉ text)
    (ahead : c.ahead = ofChars ('"' :: (text ++ rest))) (stops : Stops (· ≠ '"') rest) :
    c.advance.ahead = ofChars (text ++ rest) ∧
      c.advance.eatWhile (· ≠ '"'.toUInt8) = c.advance.skip (ofChars text).length := by
  have opened : c.advance.ahead = ofChars (text ++ rest) := by
    rw [ahead_advance, ahead, ofChars_ascii_cons (by decide)]
    rfl
  refine ⟨opened, eatWhile_eq_skip (mirrors_ne (by decide)) opened ?_ stops⟩
  intro d member
  simpa using ne_of_mem_of_not_mem member free

theorem eatString_eq {text : List Char} (free : '"' ∉ text)
    (ahead : c.ahead = ofChars ('"' :: (text ++ rest))) (stops : Stops (· ≠ '"') rest) :
    c.eatString = ({ kind := .string, text := String.ofList text, line := c.line },
      c.skip (1 + (ofChars text).length + min 1 rest.length)) := by
  obtain ⟨opened, eaten⟩ := eatString_opened free ahead stops
  have advanced : c.advance.skip (ofChars text).length = c.skip (1 + (ofChars text).length) := by
    rw [skip_add]
    rfl
  simp only [eatString, eaten, textSince_skip opened, matchByte, Prod.mk.injEq, true_and]
  have left := ahead_skip_ofChars opened
  rw [advanced] at left ⊢
  -- The literal stops at a quote, which is passed, or at the end.
  cases rest with
  | nil =>
    have peek : (c.skip (1 + (ofChars text).length)).peek? = none := by
      rw [peek?, left]
      rfl
    simp [peek]
  | cons d rest =>
    have closed : d = '"' := by simpa [Stops] using stops
    have peek : (c.skip (1 + (ofChars text).length)).peek? = some '"'.toUInt8 := by
      rw [peek?, left, head?_ofChars (by decide), closed, List.head?_cons]
    rw [if_pos peek, List.length_cons, Nat.min_eq_left (by omega)]
    exact (skip_add _ 1 c).symm

/-! ## Symbols -/

theorem takeChar?_ofChars {d : Char} {chars : List Char} (ahead : c.ahead = ofChars (d :: chars)) :
    c.takeChar? = some (d, c.skip (ofChars [d]).length) := by
  rw [takeChar?, ahead, ofChars_cons, headChar?_append, ofChars_cons, ofChars_nil,
    List.append_nil, String.length_utf8EncodeChar]
  rfl

theorem joined?_eq_some {d : Char} {byte : UInt8} {kind : Kind}
    (joins : Kind.joined? d = some (byte, kind)) :
    ∃ (sign : Symbol) (e : Char), kind = .symbol sign ∧ byte = e.toUInt8 ∧ IsAscii e ∧
      sign.spelling.toList = [d, e] := by
  unfold Kind.joined? at joins
  split at joins <;> cases joins
  · exact ⟨.eq, '=', rfl, rfl, by decide, rfl⟩
  · exact ⟨.ne, '=', rfl, rfl, by decide, rfl⟩
  · exact ⟨.le, '=', rfl, rfl, by decide, rfl⟩
  · exact ⟨.ge, '=', rfl, rfl, by decide, rfl⟩
  · exact ⟨.and, '&', rfl, rfl, by decide, rfl⟩
  · exact ⟨.or, '|', rfl, rfl, by decide, rfl⟩

theorem joined?_of_spelling {sign : Symbol} {d e : Char} (spells : sign.spelling.toList = [d, e]) :
    Kind.joined? d = some (e.toUInt8, .symbol sign) ∧ IsAscii e := by
  cases sign <;> simp [Symbol.spelling] at spells <;> obtain ⟨rfl, rfl⟩ := spells <;>
    exact ⟨rfl, by decide⟩

theorem ofChar_of_spelling {sign : Symbol} {d : Char} (spells : sign.spelling.toList = [d]) :
    Kind.ofChar d = .symbol sign := by
  cases sign <;> simp [Symbol.spelling] at spells <;> subst spells <;> rfl

theorem ofChar_of_not_isSpelling {d : Char} (alone : isSpelling [d] = false) :
    Kind.ofChar d = .unknown := by
  unfold Kind.ofChar
  split <;> first | rfl | exact absurd alone (by decide)

theorem eatSign_pair {sign : Symbol} {d e : Char} (spells : sign.spelling.toList = [d, e])
    (ahead : c.ahead = ofChars ([d, e] ++ rest)) :
    c.eatSign = ({ kind := .symbol sign, text := String.ofList [d, e], line := c.line },
      c.skip (ofChars [d, e]).length) := by
  obtain ⟨joins, ascii⟩ := joined?_of_spelling spells
  have first : c.ahead = ofChars ([d] ++ (e :: rest)) := ahead
  have peek : (c.skip (ofChars [d]).length).peek? = some e.toUInt8 := by
    rw [peek?, ahead_skip_ofChars first, head?_ofChars ascii, List.head?_cons]
  have both : (c.skip (ofChars [d]).length).advance = c.skip (ofChars [d, e]).length := by
    have length : (ofChars [d, e]).length = (ofChars [d]).length + 1 := by
      simp [utf8EncodeChar_ascii ascii]
    rw [length, skip_add]
    rfl
  simp only [eatSign, takeChar?_ofChars ahead, joins, if_pos peek, both, textSince_skip ahead]

theorem eatSign_single {d : Char} (ahead : c.ahead = ofChars ([d] ++ rest))
    (stops : Stops (fun e => isSpelling [d, e]) rest) :
    c.eatSign = ({ kind := Kind.ofChar d, text := String.ofList [d], line := c.line },
      c.skip (ofChars [d]).length) := by
  cases joins : Kind.joined? d with
  | none => simp only [eatSign, takeChar?_ofChars ahead, joins, textSince_skip ahead]
  | some join =>
    obtain ⟨byte, both⟩ := join
    obtain ⟨sign, e, rfl, rfl, ascii, spells⟩ := joined?_eq_some joins
    -- The one character that could join is the one that `stops` keeps away.
    have apart : (c.skip (ofChars [d]).length).peek? ≠ some e.toUInt8 := by
      rw [peek?, ahead_skip_ofChars ahead, ne_eq, head?_ofChars ascii]
      intro next
      have separate : isSpelling [d, e] = false := stops e next
      rw [isSpelling_eq_true.2 ⟨sign, spells⟩] at separate
      contradiction
    simp only [eatSign, takeChar?_ofChars ahead, joins, if_neg apart, textSince_skip ahead]

end Cursor

end CTokens
