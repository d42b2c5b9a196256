import CTokens.Proofs.Concatenation
import Mathlib.Data.List.Basic

/-! # One character of lookahead

What a segment is depends on its own characters and on the one behind them (`Reads.of_head?`).
Of the segments of a source only the last one lacks that character.  All others are therefore
the same whatever is written behind the source (`prefix_scan_append`), and with them all tokens
but the last.
-/

namespace CTokens

open Utf8

theorem Parts.exists_append {chars : List Char} {parts : List Part} (falls : Parts chars parts)
    (more : List Char) : ∃ others, Parts (chars ++ more) (parts.dropLast ++ others) := by
  induction falls with
  | nil => exact exists_parts more
  | @cons form own rest parts reads tail ih =>
    cases parts with
    | nil => exact exists_parts _
    | cons next parts =>
      -- Behind this part stands another, so that its lookahead is not in `more`.
      have nonempty : rest ≠ [] := by
        rintro rfl
        exact absurd tail.eq_nil (List.cons_ne_nil _ _)
      have lookahead : ∀ c ∈ (rest ++ more).head?, c ∈ rest.head? := by
        obtain ⟨d, rest, rfl⟩ := List.exists_cons_of_ne_nil nonempty
        exact fun _ first => first
      obtain ⟨others, falls⟩ := ih
      refine ⟨others, ?_⟩
      rw [List.append_assoc, List.dropLast_cons_cons]
      exact .cons (reads.of_head? lookahead) falls

/-! ## All segments but the last -/

theorem place_append (start : Nat) (line : UInt32) (parts others : List Part) :
    place start line (parts ++ others) = place start line parts ++
      place (start + (ofChars (parts.flatMap Part.own)).length)
        (line + newlines (parts.flatMap Part.own)) others := by
  induction parts generalizing start line with
  | nil => simp [place, newlines]
  | cons part parts ih =>
    rw [List.cons_append, place, place, ih, List.flatMap_cons, ofChars_append, List.length_append,
      newlines_append, Nat.add_assoc, UInt32.add_assoc]
    rfl

theorem dropLast_place (start : Nat) (line : UInt32) (parts : List Part) :
    (place start line parts).dropLast = place start line parts.dropLast := by
  rcases parts.eq_nil_or_concat' with rfl | ⟨others, last, rfl⟩
  · rfl
  · rw [place_append, List.dropLast_concat]
    exact List.dropLast_concat

theorem prefix_scan_append (first second : String) :
    (scan first).1.toList.dropLast <+: (scan (first ++ second)).1.toList := by
  obtain ⟨parts, falls⟩ := exists_parts first.toList
  obtain ⟨others, whole⟩ := falls.exists_append second.toList
  rw [← String.toList_append] at whole
  rw [(scan_of_parts falls).1, (scan_of_parts whole).1, dropLast_place, place_append]
  exact List.prefix_append ..

theorem prefix_filterMap_dropLast {α β : Type} (f : α → Option β) (list : List α) :
    (list.filterMap f).dropLast <+: list.dropLast.filterMap f := by
  rcases list.eq_nil_or_concat' with rfl | ⟨front, last, rfl⟩
  · exact List.prefix_rfl
  · rw [List.filterMap_append, List.dropLast_concat]
    cases made : f last with
    | none =>
      rw [List.filterMap_cons_none made, List.filterMap_nil, List.append_nil]
      exact List.dropLast_prefix _
    | some value =>
      simp only [List.filterMap_cons_some made, List.filterMap_nil, List.dropLast_concat,
        List.prefix_rfl]

/-- Whatever is written behind a source, it begins with the same tokens as before, but perhaps for
    the last of them. -/
theorem prefix_tokenize_append (first second : String) :
    ∃ tokens line, tokenize first = tokens ++ [Token.endOfFile line] ∧
      tokens.dropLast <+: tokenize (first ++ second) := by
  refine ⟨_, _, rfl, ?_⟩
  have kept : (scan first).1.toList.dropLast.filterMap Segment.token? <+:
      (scan (first ++ second)).1.toList.filterMap Segment.token? :=
    (prefix_scan_append first second).filterMap _
  exact ((prefix_filterMap_dropLast ..).trans kept).trans (List.prefix_append ..)

end CTokens
