import Mathlib.Data.List.Basic

/-!
# Buffers

Memory for a text is allocated in one block, and characters are stored into it piece by piece. A
store that does not fit has no result, and neither has the text of a block that is not terminated.
-/

namespace ByteBuffer

/-- The cells of a block, of which some are not written yet. -/
abbrev Cells := List (Option Char)

/-- A block that is allocated. -/
def allocate (size : Nat) : Cells := List.replicate size none

/-- Characters stored from a position on. -/
def store (cells : Cells) (position : Nat) (text : List Char) : Option Cells :=
  if position + text.length ≤ cells.length then
    some (cells.take position ++ text.map some ++ cells.drop (position + text.length))
  else none

/-- The text up to the terminator. -/
def text : Cells → Option (List Char)
  | [] => none
  | none :: _ => none
  | some c :: cells => if c = '\x00' then some [] else (text cells).map (c :: ·)

/-- A block that is written up to a position. -/
def filled (written : List Char) (left : Nat) : Cells :=
  written.map some ++ List.replicate left none

theorem allocate_eq (size : Nat) : allocate size = filled [] size := rfl

/-- A store behind what is written writes more. -/
theorem store_filled (written more : List Char) (left : Nat) :
    store (filled written (more.length + left)) written.length more =
      some (filled (written ++ more) left) := by
  have size : (filled written (more.length + left)).length =
      written.length + (more.length + left) := by
    rw [filled, List.length_append, List.length_map, List.length_replicate]
  have front : (filled written (more.length + left)).take written.length = written.map some := by
    rw [filled, List.take_left' (List.length_map some)]
  have behind : (filled written (more.length + left)).drop (written.length + more.length) =
      List.replicate left none := by
    rw [← List.drop_drop, filled, List.drop_left' (List.length_map some), List.drop_replicate,
      Nat.add_sub_cancel_left]
  rw [store, if_pos (by omega), front, behind, filled, List.map_append]

/-- A terminator that is stored again changes nothing. -/
theorem store_again (written : List Char) (last : Char) (left : Nat) :
    store (filled (written ++ [last]) left) written.length [last] =
      some (filled (written ++ [last]) left) := by
  have cells : filled (written ++ [last]) left =
      written.map some ++ some last :: List.replicate left none := by
    rw [filled, List.map_append, List.append_assoc]
    rfl
  have front : (written.map some ++ some last :: List.replicate left none).take written.length =
      written.map some := List.take_left' (List.length_map some)
  have behind : (written.map some ++ some last :: List.replicate left none).drop
      (written.length + [last].length) = List.replicate left none := by
    rw [← List.drop_drop, List.drop_left' (List.length_map some)]
    rfl
  have room : written.length + [last].length ≤
      (written.map some ++ some last :: List.replicate left none).length := by
    rw [List.length_append, List.length_map, List.length_cons]
    exact Nat.add_le_add_left (Nat.succ_le_succ (Nat.zero_le _)) _
  rw [cells, store, if_pos room, front, behind, List.append_assoc]
  rfl

/-- A text with its terminator, copied unless it is empty, and the terminator once more. -/
theorem store_terminated (written suffix : List Char) {copy : Prop} [Decidable copy]
    (skipped : ¬copy → suffix = []) :
    ((if copy then store (filled written (suffix.length + 1)) written.length (suffix ++ ['\x00'])
      else some (filled written (suffix.length + 1))).bind fun cells =>
        store cells (written.length + suffix.length) ['\x00']) =
      some (filled (written ++ suffix ++ ['\x00']) 0) := by
  by_cases more : copy
  · have copied := store_filled written (suffix ++ ['\x00']) 0
    rw [List.length_append, Nat.add_zero, ← List.append_assoc] at copied
    have again := store_again (written ++ suffix) '\x00' 0
    rw [List.length_append] at again
    rw [if_pos more]
    exact Option.bind_eq_some_iff.mpr ⟨_, copied, again⟩
  · have none := skipped more
    subst suffix
    rw [if_neg more, Option.bind_some, List.append_nil]
    exact store_filled written ['\x00'] 0

/-- The text of a block that is terminated. -/
theorem text_filled {written : List Char} (nonzero : '\x00' ∉ written) (left : Nat) :
    text (filled (written ++ ['\x00']) left) = some written := by
  induction written with
  | nil => rfl
  | cons c written ih =>
      have other : c ≠ '\x00' := fun zero => nonzero (by simp [zero])
      have rest : '\x00' ∉ written := fun member => nonzero (List.mem_cons_of_mem c member)
      change text (some c :: filled (written ++ ['\x00']) left) = _
      rw [text, if_neg other, ih rest]
      rfl

end ByteBuffer
