import CTokens.Proofs.Rows

/-! # Receivers that run out

A receiver need not take at once all that it is offered.  It takes a portion from the front and is
offered the rest again, until nothing is left or it takes nothing at all.  Neither the portions nor
the fragments leave a trace: what it holds in the end are the first bytes of the whole, as many as
it had room for, and writing fails if and only if these are not all (`Receiver.Ends.fillsRoom`).

`Receiver.Ends` says what happens on the way.  Each offer but the last has bytes taken of it, and if
one is refused it is the last, with nothing behind it, however many fragments were still to come.
-/

namespace CTokens

open Utf8

/-- Takes a number of bytes in all and then none, in portions of its own choosing. -/
structure Receiver (σ : Type) where
  /-- How many of the bytes that it is offered it takes, from the front, and its state then. -/
  offer : σ → List UInt8 → Nat × σ
  room : σ → Nat  -- how many bytes it is still going to take
  held : σ → List UInt8
  count_le : ∀ state bytes, (offer state bytes).1 ≤ bytes.length
  count_pos : ∀ state bytes, bytes ≠ [] → 0 < room state → 0 < (offer state bytes).1
  room_eq : ∀ state bytes, room state = (offer state bytes).1 + room (offer state bytes).2
  held_eq : ∀ state bytes,
    held (offer state bytes).2 = held state ++ bytes.take (offer state bytes).1

namespace Receiver

variable {σ : Type}

section Writing

variable (receiver : Receiver σ)

/-- Offers the bytes until none is left.  It fails where none of them is taken. -/
def push (bytes : List UInt8) (state : σ) : Option FileError × σ :=
  match bytes with
  | [] => (none, state)
  | byte :: rest =>
    match receiver.offer state (byte :: rest) with
    | (0, after) => (some .writeRefused, after)
    | (more + 1, after) => push (rest.drop more) after
termination_by bytes.length
decreasing_by
  rw [List.length_drop, List.length_cons]
  omega

/-- Offers fragments one after the other, up to the first that fails. -/
def pushAll : List String → σ → Option FileError × σ
  | [], state => (none, state)
  | fragment :: fragments, state =>
    match receiver.push (encode fragment) state with
    | (none, after) => pushAll fragments after
    | (some error, after) => (some error, after)

/-- From the one state to the other the bytes are taken, in portions none of which is empty. -/
inductive Takes : σ → List UInt8 → σ → Prop
  | refl {state : σ} : Takes state [] state
  | portion {state after last : σ} {offered bytes : List UInt8} {more : Nat}
      (taken : receiver.offer state offered = (more + 1, after)) (rest : Takes after bytes last) :
      Takes state (offered.take (more + 1) ++ bytes) last

/-- How it may end to write bytes: all of them are taken, or those in front of an offer that is
    refused, and that offer is the last. -/
inductive Ends (start : σ) : List UInt8 → Option FileError × σ → Prop
  | complete {bytes : List UInt8} {last : σ} (takes : receiver.Takes start bytes last) :
      Ends start bytes (none, last)
  | refused {taken offered behind : List UInt8} {before last : σ}
      (takes : receiver.Takes start taken before) (nonempty : offered ≠ [])
      (refuses : receiver.offer before offered = (0, last)) :
      Ends start (taken ++ (offered ++ behind)) (some .writeRefused, last)

end Writing

variable {receiver : Receiver σ}

/-! ## How writing goes -/

theorem Takes.trans {start middle last : σ} {first second : List UInt8}
    (front : receiver.Takes start first middle) (rest : receiver.Takes middle second last) :
    receiver.Takes start (first ++ second) last := by
  induction front with
  | refl => exact rest
  | portion taken _ ih =>
    rw [List.append_assoc]
    exact .portion taken (ih rest)

theorem Takes.ends {start middle : σ} {first second : List UInt8} {outcome : Option FileError × σ}
    (takes : receiver.Takes start first middle) (ends : receiver.Ends middle second outcome) :
    receiver.Ends start (first ++ second) outcome := by
  cases ends with
  | complete rest => exact .complete (takes.trans rest)
  | refused rest nonempty refuses =>
    rw [← List.append_assoc]
    exact .refused (takes.trans rest) nonempty refuses

theorem Ends.takes {start last : σ} {bytes : List UInt8}
    (ends : receiver.Ends start bytes (none, last)) : receiver.Takes start bytes last := by
  cases ends with
  | complete takes => exact takes

theorem Ends.append {start last : σ} {first : List UInt8} {error : FileError}
    (ends : receiver.Ends start first (some error, last)) (second : List UInt8) :
    receiver.Ends start (first ++ second) (some error, last) := by
  cases ends with
  | refused takes nonempty refuses =>
    rw [List.append_assoc, List.append_assoc]
    exact .refused takes nonempty refuses

theorem ends_push (receiver : Receiver σ) (bytes : List UInt8) (state : σ) :
    receiver.Ends state bytes (receiver.push bytes state) := by
  induction bytes, state using push.induct receiver with
  | case1 state =>
    rw [push]
    exact .complete .refl
  | case2 state byte rest after refuses =>
    rw [push, refuses]
    have ends : receiver.Ends state ([] ++ (byte :: rest ++ [])) (some .writeRefused, after) :=
      .refused .refl (List.cons_ne_nil byte rest) refuses
    rwa [List.nil_append, List.append_nil] at ends
  | case3 state byte rest more after taken ih =>
    rw [push, taken]
    -- The portion is the front of the bytes, and `ih` speaks of those that are left.
    have front : receiver.Takes state ((byte :: rest).take (more + 1)) after := by
      have portion := Takes.portion taken .refl
      rwa [List.append_nil] at portion
    have ends := front.ends ih
    rwa [List.take_succ_cons, List.cons_append, List.take_append_drop] at ends

theorem ends_pushAll (receiver : Receiver σ) (fragments : List String) (state : σ) :
    receiver.Ends state (encode (String.join fragments)) (receiver.pushAll fragments state) := by
  induction fragments generalizing state with
  | nil => exact .complete .refl
  | cons fragment fragments ih =>
    have first := receiver.ends_push (encode fragment) state
    rw [String.join_cons, encode_append, pushAll]
    -- The other fragments are offered only where all of this one has been taken.
    split
    next after pushed =>
      rw [pushed] at first
      exact first.takes.ends (ih after)
    next error after pushed =>
      rw [pushed] at first
      exact first.append _

/-! ## What is left in the end -/

theorem Takes.held {start last : σ} {bytes : List UInt8} (takes : receiver.Takes start bytes last) :
    receiver.held last = receiver.held start ++ bytes := by
  induction takes with
  | refl => exact (List.append_nil _).symm
  | @portion state after last offered bytes more taken rest ih =>
    have portion := receiver.held_eq state offered
    rw [taken] at portion
    rw [ih, portion, List.append_assoc]

theorem Takes.room {start last : σ} {bytes : List UInt8} (takes : receiver.Takes start bytes last) :
    receiver.room start = bytes.length + receiver.room last := by
  induction takes with
  | refl => exact (Nat.zero_add _).symm
  | @portion state after last offered bytes more taken rest ih =>
    have portion := receiver.room_eq state offered
    have within := receiver.count_le state offered
    simp only [taken] at portion within
    rw [portion, ih, List.length_append, List.length_take_of_le within]
    exact (Nat.add_assoc ..).symm

theorem room_of_refused {before last : σ} {offered : List UInt8} (nonempty : offered ≠ [])
    (refuses : receiver.offer before offered = (0, last)) : receiver.room before = 0 := by
  refine Nat.eq_zero_of_not_pos fun positive => ?_
  have taken := receiver.count_pos before offered nonempty positive
  rw [refuses] at taken
  exact Nat.lt_irrefl 0 taken

theorem held_of_refused {before last : σ} {offered : List UInt8}
    (refuses : receiver.offer before offered = (0, last)) :
    receiver.held last = receiver.held before := by
  have held := receiver.held_eq before offered
  rwa [refuses, List.take_zero, List.append_nil] at held

/-! ## A receiver for each size of portions -/

/-- Takes no more than `most + 1` bytes at once; its state is its room and what it has taken. -/
def inPortions (most : Nat) : Receiver (Nat × List UInt8) where
  offer state bytes :=
    let count := min (most + 1) (min state.1 bytes.length)
    (count, state.1 - count, state.2 ++ bytes.take count)
  room state := state.1
  held state := state.2
  count_le state bytes := by
    dsimp only
    omega
  count_pos state bytes nonempty positive := by
    have length := List.length_pos_iff.2 nonempty
    dsimp only at positive ⊢
    omega
  room_eq state bytes := by
    dsimp only
    omega
  held_eq _ _ := rfl

end Receiver

/-- What is taken of the bytes where there is room for so many: the first of them, with a failure if
    and only if these are not all. -/
structure FillsRoom (bytes : List UInt8) (room : Nat) (error : Option FileError)
    (taken : List UInt8) : Prop where
  front : taken = bytes.take room
  refused : error = some .writeRefused ↔ room < bytes.length
  complete : bytes.length ≤ room → error = none ∧ taken = bytes

theorem Receiver.Ends.fillsRoom {σ : Type} {receiver : Receiver σ} {start : σ} {bytes : List UInt8}
    {outcome : Option FileError × σ} (ends : receiver.Ends start bytes outcome) :
    ∃ taken, receiver.held outcome.2 = receiver.held start ++ taken ∧
      FillsRoom bytes (receiver.room start) outcome.1 taken := by
  cases ends with
  | @complete bytes last takes =>
    have fits : bytes.length ≤ receiver.room start := takes.room ▸ Nat.le_add_right ..
    refine ⟨bytes, takes.held, (List.take_of_length_le fits).symm, ?_, fun _ => ⟨rfl, rfl⟩⟩
    simpa using fits
  | @refused taken offered behind before last takes nonempty refuses =>
    -- What was taken before the refusal has used up the room.
    have room : receiver.room start = taken.length := by
      rw [takes.room, Receiver.room_of_refused nonempty refuses, Nat.add_zero]
    have long : receiver.room start < (taken ++ (offered ++ behind)).length := by
      have positive := List.length_pos_iff.2 nonempty
      rw [room, List.length_append, List.length_append]
      omega
    refine ⟨taken, (Receiver.held_of_refused refuses).trans takes.held, ?_, ?_, ?_⟩
    · rw [room, List.take_left]
    · exact iff_of_true rfl long
    · exact fun fits => absurd fits (Nat.not_le_of_lt long)

/-! ## Printed tokens -/

namespace Format

def pushTo {σ : Type} (format : Format) (tokens : List Token) (receiver : Receiver σ) (start : σ) :
    Option FileError × σ :=
  receiver.pushAll (tokens.flatMap format.fragments) start

theorem printed_eq_ofChars (format : Format) (tokens : List Token) :
    format.printed tokens = ofChars (tokens.flatMap fun token => format.row token ++ ['\n']) := by
  have rows : (format.render tokens).toList =
      tokens.flatMap fun token => format.row token ++ ['\n'] := by
    induction tokens with
    | nil => rfl
    | cons token tokens ih =>
      rw [toList_render_cons, ih, List.flatMap_cons, List.append_assoc]
      rfl
  rw [printed_eq, encode_eq_ofChars, rows]

theorem fillsRoom_renderTo (format : Format) (tokens : List Token) (room : Nat) :
    FillsRoom (format.printed tokens) room (format.renderTo tokens (.empty (some room))).1
      (format.renderTo tokens (.empty (some room))).2.held.data.toList := by
  have held := format.toList_held_renderTo tokens (.empty (some room))
  have error := format.error_renderTo tokens (.empty (some room))
  rw [Sink.taken_empty, ← printed_eq] at held
  simp only [Sink.hasRoom_empty, ← printed_eq] at error
  have front : (format.renderTo tokens (.empty (some room))).2.held.data.toList =
      (format.printed tokens).take room := held
  refine ⟨front, ?_, fun fits => ⟨?_, ?_⟩⟩
  · rw [error]
    split
    next fits => simpa using fits
    next long => simpa using Nat.lt_of_not_le long
  · rw [error, if_pos fits]
  · rw [front, List.take_of_length_le fits]

/-- Whatever the tokens are, a sink with so much room holds the first bytes of all their rows, and
    printing fails if and only if these are not all.  So does each other receiver with so much room,
    whatever portions it takes, and once it has refused an offer it gets no other. -/
theorem printing_within_room (format : Format) (tokens : List Token) :
    format.printed tokens = ofChars (tokens.flatMap fun token => format.row token ++ ['\n']) ∧
    (∀ room, FillsRoom (format.printed tokens) room
      (format.renderTo tokens (.empty (some room))).1
      (format.renderTo tokens (.empty (some room))).2.held.data.toList) ∧
    ∀ {σ : Type} (receiver : Receiver σ) (start : σ),
      receiver.Ends start (format.printed tokens) (format.pushTo tokens receiver start) ∧
      ∃ taken,
        receiver.held (format.pushTo tokens receiver start).2 = receiver.held start ++ taken ∧
        FillsRoom (format.printed tokens) (receiver.room start)
          (format.pushTo tokens receiver start).1 taken := by
  refine ⟨format.printed_eq_ofChars tokens, format.fillsRoom_renderTo tokens, ?_⟩
  intro σ receiver start
  have ends := receiver.ends_pushAll (tokens.flatMap format.fragments) start
  have whole : encode (String.join (tokens.flatMap format.fragments)) = format.printed tokens :=
    (format.printed_eq tokens).symm
  rw [whole] at ends
  exact ⟨ends, ends.fillsRoom⟩

/-- The room is used up within a character. -/
example :
    Format.plain.pushTo [{ kind := .string, text := "é", line := 1 }] (.inPortions 1) (8, []) =
      (some .writeRefused, 0, encode "STRING " ++ [0xC3]) := by
  decide +kernel

end Format

end CTokens
