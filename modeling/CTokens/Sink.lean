import CTokens.Failure

/-! # Where output goes

A `Sink` takes the bytes that are written to it, some number of them or without limit.
Text arrives in fragments.  A fragment that no longer fits is taken as far as there is
room, even if this cuts a character in two; that write has failed, and nothing is
written after it.
-/

namespace CTokens

structure Sink where
  room : Option Nat  -- how many more bytes it takes
  held : ByteArray

namespace Sink

/-- Has taken nothing yet, and takes that many bytes. -/
def empty (room : Option Nat) : Sink :=
  { room := room, held := ByteArray.empty }

def write (sink : Sink) (fragment : String) : Option FileError × Sink :=
  let bytes := fragment.toByteArray
  match sink.room with
  | none => (none, { sink with held := sink.held ++ bytes })
  | some room =>
    if bytes.size ≤ room then
      (none, { room := some (room - bytes.size), held := sink.held ++ bytes })
    else
      -- What there is room for is taken all the same.
      (some .writeRefused, { room := some 0, held := sink.held ++ bytes.extract 0 room })

theorem toList_held_write (sink : Sink) (fragment : String) :
    (sink.write fragment).2.held.data.toList =
      sink.held.data.toList ++
        (match sink.room with
          | none => fragment.toByteArray.data.toList
          | some room => fragment.toByteArray.data.toList.take room) := by
  obtain ⟨room, held⟩ := sink
  cases room with
  | none => simp [write]
  | some room =>
    by_cases hle : fragment.toByteArray.size ≤ room
    · have hlength : fragment.toByteArray.data.toList.length ≤ room := hle
      simp only [write, hle, if_true, List.take_of_length_le hlength, ByteArray.data_append,
        Array.toList_append]
    · simp only [write, hle, if_false, ByteArray.data_append, Array.toList_append,
        ByteArray.data_extract, Array.toList_extract, List.extract, Nat.sub_zero, List.drop_zero]

/-- Writes fragments one after the other, up to the first that fails. -/
def writeAll (sink : Sink) : List String → Option FileError × Sink
  | [] => (none, sink)
  | fragment :: fragments =>
    match sink.write fragment with
    | (none, sink) => sink.writeAll fragments
    | (some error, sink) => (some error, sink)

end Sink

end CTokens
