import CTokens.Format
import CTokens.Text.Utf8

/-! # What a sink holds in the end

Text goes to a sink in fragments, but where it is cut into fragments leaves no trace.  What the
sink holds in the end are the bytes of the whole text, as far as there was room for them, and
writing fails if and only if there was not room for all (`toList_held_writeAll`,
`error_writeAll`).
-/

namespace CTokens

open Utf8

theorem Utf8.encode_append (first second : String) :
    encode (first ++ second) = encode first ++ encode second := by
  simp only [encode, String.toByteArray_append, ByteArray.data_append, Array.toList_append]

namespace Sink

def HasRoom (sink : Sink) (count : Nat) : Prop :=
  ∀ room ∈ sink.room, count ≤ room

instance (sink : Sink) (count : Nat) : Decidable (sink.HasRoom count) :=
  inferInstanceAs (Decidable (∀ room ∈ sink.room, count ≤ room))

/-- Of the bytes, those that there is room for. -/
def taken (sink : Sink) (bytes : List UInt8) : List UInt8 :=
  match sink.room with
  | none => bytes
  | some room => bytes.take room

@[simp] theorem hasRoom_empty {room count : Nat} :
    (empty (some room)).HasRoom count ↔ count ≤ room := by
  simp [HasRoom, empty]

@[simp] theorem taken_empty (room : Nat) (bytes : List UInt8) :
    (empty (some room)).taken bytes = bytes.take room := rfl

variable {sink after : Sink} {first second : List UInt8}

theorem taken_of_hasRoom (room : sink.HasRoom first.length) : sink.taken first = first := by
  rw [taken]
  split
  · rfl
  · next limited => exact List.take_of_length_le (room _ limited)

/-! ## One write -/

/-- What a write can do: the room for the fragment is used up, or there was not enough. -/
theorem write_cases (sink : Sink) (fragment : String) :
    (∃ after, sink.write fragment = (none, after) ∧ sink.HasRoom (encode fragment).length ∧
      after.room = sink.room.map (· - (encode fragment).length)) ∨
    (∃ after, sink.write fragment = (some .writeRefused, after) ∧
      ¬ sink.HasRoom (encode fragment).length) := by
  obtain ⟨room, held⟩ := sink
  cases room with
  | none => exact .inl ⟨_, rfl, by simp [HasRoom], rfl⟩
  | some room =>
    have enough : HasRoom ⟨some room, held⟩ (encode fragment).length ↔
        fragment.toByteArray.size ≤ room := by
      simp only [HasRoom, Option.mem_some_iff, forall_eq']
      rfl
    rw [enough]
    by_cases fits : fragment.toByteArray.size ≤ room
    · refine .inl ⟨{ room := some (room - fragment.toByteArray.size),
                     held := held ++ fragment.toByteArray }, ?_, fits, rfl⟩
      simp only [write, if_pos fits]
    · refine .inr ⟨{ room := some 0,
                     held := held ++ fragment.toByteArray.extract 0 room }, ?_, fits⟩
      simp only [write, if_neg fits]

theorem hasRoom_after (used : after.room = sink.room.map (· - first.length))
    (room : sink.HasRoom first.length) (count : Nat) :
    after.HasRoom count ↔ sink.HasRoom (first.length + count) := by
  cases limited : sink.room with
  | none => simp [HasRoom, used, limited]
  | some most =>
    have le : first.length ≤ most := room most limited
    simp only [HasRoom, used, limited, Option.map_some, Option.mem_some_iff, forall_eq']
    omega

theorem taken_append (used : after.room = sink.room.map (· - first.length))
    (room : sink.HasRoom first.length) :
    sink.taken (first ++ second) = first ++ after.taken second := by
  cases limited : sink.room with
  | none => simp [taken, used, limited]
  | some most =>
    simp only [taken, used, limited, Option.map_some]
    rw [List.take_append, List.take_of_length_le (room most limited)]

theorem taken_append_of_not_hasRoom (full : ¬ sink.HasRoom first.length) :
    sink.taken (first ++ second) = sink.taken first := by
  cases limited : sink.room with
  | none => exact absurd (by simp [HasRoom, limited]) full
  | some most =>
    have le : most ≤ first.length := by
      simp only [HasRoom, limited, Option.mem_some_iff, forall_eq'] at full
      omega
    simp only [taken, limited]
    exact List.take_append_of_le_length le

/-! ## Many writes -/

/-- The sink holds the bytes of the whole text, as far as there was room for them. -/
theorem toList_held_writeAll (sink : Sink) (fragments : List String) :
    (sink.writeAll fragments).2.held.data.toList =
      sink.held.data.toList ++ sink.taken (encode (String.join fragments)) := by
  induction fragments generalizing sink with
  | nil =>
    have nothing : sink.taken [] = [] := by
      cases limited : sink.room <;> simp [taken, limited]
    exact (congrArg (sink.held.data.toList ++ ·) nothing).trans (List.append_nil _) |>.symm
  | cons fragment fragments ih =>
    have held : (sink.write fragment).2.held.data.toList =
        sink.held.data.toList ++ sink.taken (encode fragment) := sink.toList_held_write fragment
    rw [String.join_cons, encode_append, writeAll]
    rcases sink.write_cases fragment with ⟨after, written, room, used⟩ | ⟨after, written, full⟩
    · rw [written] at held
      rw [taken_of_hasRoom room] at held
      rw [written, ih, held, taken_append used room, List.append_assoc]
    · -- The others are not written, and there would be no room left for them.
      rw [written] at held
      rw [written, held, taken_append_of_not_hasRoom full]

/-- Writing fails if and only if there is not room for the whole text. -/
theorem error_writeAll (sink : Sink) (fragments : List String) :
    (sink.writeAll fragments).1 =
      if sink.HasRoom (encode (String.join fragments)).length then none
      else some .writeRefused := by
  induction fragments generalizing sink with
  | nil => exact (if_pos fun _ _ => Nat.zero_le _).symm
  | cons fragment fragments ih =>
    rw [String.join_cons, encode_append, List.length_append, writeAll]
    rcases sink.write_cases fragment with ⟨after, written, room, used⟩ | ⟨after, written, full⟩
    · simp only [written, ih, hasRoom_after used room]
    · rw [written, if_neg]
      exact fun whole => full fun room limited =>
        Nat.le_trans (Nat.le_add_right ..) (whole room limited)

end Sink

/-! ## Printed tokens -/

namespace Format

theorem toList_held_renderTo (format : Format) (tokens : List Token) (sink : Sink) :
    (format.renderTo tokens sink).2.held.data.toList =
      sink.held.data.toList ++ sink.taken (encode (format.render tokens)) :=
  sink.toList_held_writeAll _

theorem error_renderTo (format : Format) (tokens : List Token) (sink : Sink) :
    (format.renderTo tokens sink).1 =
      if sink.HasRoom (encode (format.render tokens)).length then none
      else some .writeRefused :=
  sink.error_writeAll _

end Format

end CTokens
