import CTokens.Proofs.WellFormed

/-! # Characters beyond ASCII

The grammar names ASCII characters only.  All others are alike to it: they may stand in literals
and in what is skipped, and anywhere else each of them is an unknown character.  So it does not
matter which of them a source has.  A map of characters that keeps ASCII, and leads from beyond it
to beyond it (`KeepsAscii`), may be applied to a source or to the texts of its tokens
(`tokenize_map`), even if it makes characters longer or shorter in bytes.
-/

namespace CTokens

open Utf8

/-- Every ASCII character is kept, and no other character becomes one. -/
structure KeepsAscii (f : Char → Char) : Prop where
  ascii : ∀ c, IsAscii c → f c = c
  beyond : ∀ c, ¬ IsAscii c → ¬ IsAscii (f c)

def Form.map (f : Char → Char) : Form → Form
  | .blank => .blank
  | .directive => .directive
  | .lineComment => .lineComment
  | .blockComment => .blockComment
  | .lexeme kind text => .lexeme kind (text.map f)

def Part.map (f : Char → Char) (part : Part) : Part :=
  { form := part.form.map f, own := part.own.map f }

def Token.mapText (f : Char → Char) (token : Token) : Token :=
  { token with text := token.text.map f }

theorem Stops.map {f : Char → Char} {q r : Char → Bool} {rest : List Char} (stops : Stops q rest)
    (agree : ∀ c, r (f c) = q c) : Stops r (rest.map f) := by
  cases rest with
  | nil => simp [Stops]
  | cons c rest =>
    intro d next
    cases next
    rw [agree]
    exact stops c rfl

/-! ## ASCII characters and lists of them -/

section Characters

variable {f : Char → Char} (keeps : KeepsAscii f)

include keeps

theorem KeepsAscii.eq_iff {c d : Char} (ascii : IsAscii d) : f c = d ↔ c = d := by
  by_cases own : IsAscii c
  · rw [keeps.ascii c own]
  · constructor
    · rintro rfl
      exact absurd ascii (keeps.beyond c own)
    · rintro rfl
      exact absurd ascii own

theorem KeepsAscii.class_eq {q : Char → Bool} (ofAscii : ∀ {c}, q c = true → IsAscii c) (c : Char) :
    q (f c) = q c := by
  by_cases own : IsAscii c
  · rw [keeps.ascii c own]
  · have other : q c = false := Bool.eq_false_iff.2 fun accepted => own (ofAscii accepted)
    rw [other, Bool.eq_false_iff]
    exact fun accepted => keeps.beyond c own (ofAscii accepted)

theorem KeepsAscii.map_eq_iff {chars own : List Char} (ascii : ∀ d ∈ own, IsAscii d) :
    chars.map f = own ↔ chars = own := by
  induction chars generalizing own with
  | nil => rfl
  | cons c chars ih =>
    cases own with
    | nil => simp
    | cons d own =>
      rw [List.forall_mem_cons] at ascii
      rw [List.map_cons, List.cons.injEq, List.cons.injEq, keeps.eq_iff ascii.1, ih ascii.2]

theorem KeepsAscii.map_eq_self {chars : List Char} (ascii : ∀ d ∈ chars, IsAscii d) :
    chars.map f = chars :=
  (keeps.map_eq_iff ascii).2 rfl

theorem KeepsAscii.mem_map_iff {chars : List Char} {d : Char} (ascii : IsAscii d) :
    d ∈ chars.map f ↔ d ∈ chars := by
  simp only [List.mem_map, keeps.eq_iff ascii, exists_eq_right]

theorem KeepsAscii.infix_of_infix_map {chars own : List Char} (ascii : ∀ d ∈ own, IsAscii d)
    (inside : own <:+: chars.map f) : own <:+: chars := by
  obtain ⟨others, within, equal⟩ := List.infix_map_iff.1 inside
  rwa [(keeps.map_eq_iff ascii).1 equal.symm] at within

theorem KeepsAscii.newlines_map (chars : List Char) : newlines (chars.map f) = newlines chars := by
  have same : ∀ c : Char, (f c == '\n') = (c == '\n') := fun c => by
    rw [Bool.eq_iff_iff, beq_iff_eq, beq_iff_eq, keeps.eq_iff (by decide)]
  rw [newlines, List.count_eq_countP, List.countP_map, newlines, List.count_eq_countP]
  simp only [Function.comp_def, same]

/-! ## The grammar -/

theorem KeepsAscii.isSpelling_map (chars : List Char) : isSpelling (chars.map f) = isSpelling chars := by
  rw [Bool.eq_iff_iff, isSpelling_eq_true, isSpelling_eq_true]
  simp only [eq_comm, keeps.map_eq_iff (isAscii_of_mem_spelling _)]

theorem KeepsAscii.opensComment_map (chars : List Char) :
    opensComment (chars.map f) = opensComment chars := by
  have line : ∀ d ∈ ['/', '/'], IsAscii d := List.all_iff_forall_prop.1 (by decide)
  have block : ∀ d ∈ ['/', '*'], IsAscii d := List.all_iff_forall_prop.1 (by decide)
  simp only [opensComment, keeps.map_eq_iff line, keeps.map_eq_iff block]

theorem KeepsAscii.isStray_map (c : Char) : isStray (f c) = isStray c := by
  by_cases own : IsAscii c
  · rw [keeps.ascii c own]
  · rw [isStray_of_not_isAscii own, isStray_of_not_isAscii (keeps.beyond c own)]

theorem KeepsAscii.continues_map (kind : Kind) (text : List Char) (c : Char) :
    continues kind (text.map f) (f c) = continues kind text c := by
  cases kind with
  | keyword | identifier => exact keeps.class_eq isAscii_of_inWord c
  | number => exact keeps.class_eq (fun digit => isAscii_of_inWord (inWord_of_isDigit digit)) c
  | string | endOfFile => rfl
  | symbol | unknown =>
    have joined : text.map f ++ [f c] = (text ++ [c]).map f := by simp
    simp only [continues, joined, keeps.isSpelling_map, keeps.opensComment_map]

theorem KeepsAscii.stops_ne_map {d : Char} (ascii : IsAscii d) {rest : List Char}
    (stops : Stops (· ≠ d) rest) : Stops (· ≠ d) (rest.map f) :=
  stops.map fun c => by simp only [ne_eq, keeps.eq_iff ascii]

theorem KeepsAscii.admits_map {kind : Kind} {text : List Char} (admits : Admits kind text) :
    Admits kind (text.map f) := by
  -- The texts of most kinds are of ASCII, so that nothing changes in them.
  cases admits with
  | keyword word =>
    obtain ⟨d, more, spells, -, all⟩ := exists_spelling_cons word
    rw [keeps.map_eq_self (spells ▸ fun e member => isAscii_of_inWord (all e member))]
    exact .keyword word
  | @identifier c rest start all free =>
    have inside : ∀ d ∈ c :: rest, IsAscii d := List.forall_mem_cons.2
      ⟨isAscii_of_inWord (inWord_of_startsWord start), fun d member => isAscii_of_inWord (all d member)⟩
    rw [keeps.map_eq_self inside]
    exact .identifier start all free
  | number nonempty all =>
    rw [keeps.map_eq_self fun d member => isAscii_of_inWord (inWord_of_isDigit (all d member))]
    exact .number nonempty all
  | string free => exact .string fun quote => free ((keeps.mem_map_iff (by decide)).1 quote)
  | symbol sign =>
    rw [keeps.map_eq_self (isAscii_of_mem_spelling sign)]
    exact .symbol sign
  | @unknown c stray => exact .unknown (c := f c) (by rw [keeps.isStray_map, stray])

theorem KeepsAscii.written_map (kind : Kind) (text : List Char) :
    (written kind text).map f = written kind (text.map f) := by
  have quote : f '"' = '"' := keeps.ascii '"' (by decide)
  rw [written, written]
  split <;> simp [quote]

theorem KeepsAscii.reads_map {form : Form} {own rest : List Char} (reads : Reads form own rest) :
    Reads (form.map f) (own.map f) (rest.map f) := by
  -- All that ends or closes a piece is ASCII, so that `f` neither takes it away nor makes it.
  have noNewline : ∀ {body : List Char}, '\n' ∉ body → '\n' ∉ body.map f := fun line newline =>
    line ((keeps.mem_map_iff (by decide)).1 newline)
  have noCloser : ∀ {body : List Char}, ¬ closer <:+: body → ¬ closer <:+: body.map f :=
    fun inner inside => inner (keeps.infix_of_infix_map isAscii_closer inside)
  have slash : f '/' = '/' := keeps.ascii '/' (by decide)
  have star : f '*' = '*' := keeps.ascii '*' (by decide)
  cases reads with
  | blank space => exact .blank (by rw [keeps.class_eq isAscii_of_isSpace, space])
  | directive line stops =>
    rw [List.map_cons, keeps.ascii '#' (by decide)]
    exact .directive (noNewline line) (keeps.stops_ne_map (by decide) stops)
  | lineComment line stops =>
    rw [List.map_cons, List.map_cons, slash]
    exact .lineComment (noNewline line) (keeps.stops_ne_map (by decide) stops)
  | blockComment inner =>
    rw [List.map_cons, List.map_cons, List.map_append, slash, star, keeps.map_eq_self isAscii_closer]
    exact .blockComment (noCloser inner)
  | openComment inner =>
    rw [List.map_cons, List.map_cons, slash, star]
    exact .openComment (noCloser inner)
  | lexeme admits stops =>
    rw [keeps.written_map]
    exact .lexeme (keeps.admits_map admits) (stops.map (keeps.continues_map _ _))
  | openString free =>
    rw [List.map_cons, keeps.ascii '"' (by decide)]
    exact .openString fun quote => free ((keeps.mem_map_iff (by decide)).1 quote)

/-! ## Sources -/

theorem KeepsAscii.parts_map {chars : List Char} {parts : List Part} (falls : Parts chars parts) :
    Parts (chars.map f) (parts.map (Part.map f)) := by
  induction falls with
  | nil => exact .nil
  | cons reads _ ih =>
    rw [List.map_append]
    exact .cons (keeps.reads_map reads) ih

theorem KeepsAscii.tokensFrom_map (line : UInt32) (parts : List Part) :
    tokensFrom line (parts.map (Part.map f)) = (tokensFrom line parts).map (Token.mapText f) := by
  induction parts generalizing line with
  | nil => simp [tokensFrom, Token.mapText, Token.endOfFile]
  | cons part parts ih =>
    obtain ⟨form, own⟩ := part
    have made : ((form.map f).token? line).toList = (form.token? line).toList.map (Token.mapText f) := by
      cases form with
      | lexeme kind text =>
        have texts : String.ofList (text.map f) = (String.ofList text).map f := by
          rw [← String.toList_inj, String.toList_map, String.toList_ofList, String.toList_ofList]
        rw [Form.map, Form.token?, texts]
        rfl
      | blank | directive | lineComment | blockComment => rfl
    rw [List.map_cons, tokensFrom, tokensFrom, List.map_append, ← ih]
    simp only [Part.map, keeps.newlines_map, made]

end Characters

/-- If every ASCII character of a source is kept, and every other character becomes one that is not
    ASCII either, then the same happens to the texts of its tokens, and nothing else. -/
theorem tokenize_map {f : Char → Char} (keeps : KeepsAscii f) (text : String) :
    tokenize (text.map f) = (tokenize text).map (Token.mapText f) := by
  obtain ⟨parts, falls⟩ := exists_parts text.toList
  have mapped := keeps.parts_map falls
  rw [← String.toList_map] at mapped
  rw [tokenize_of_parts mapped, tokenize_of_parts falls, keeps.tokensFrom_map]

/-- Characters of two and of four bytes, as unknown characters, in a literal and in a comment, all
    become one of three bytes. -/
theorem tokenize_map_replacement :
    KeepsAscii (fun c => if IsAscii c then c else replacement) ∧
    tokenize "\uFFFD\uFFFD=\"\uFFFD\n\"/*\uFFFD*/x" =
      (tokenize "é😀=\"ü\n\"/*😀*/x").map
        (Token.mapText fun c => if IsAscii c then c else replacement) := by
  have keeps : KeepsAscii (fun c => if IsAscii c then c else replacement) :=
    { ascii := fun c own => if_pos own
      beyond := fun c own => by
        rw [if_neg own]
        decide }
  have mapped := tokenize_map keeps "é😀=\"ü\n\"/*😀*/x"
  have source : "é😀=\"ü\n\"/*😀*/x".map (fun c => if IsAscii c then c else replacement) =
      "\uFFFD\uFFFD=\"\uFFFD\n\"/*\uFFFD*/x" := by
    rw [← String.toList_inj, String.toList_map]
    rfl
  rw [source] at mapped
  exact ⟨keeps, mapped⟩

end CTokens
