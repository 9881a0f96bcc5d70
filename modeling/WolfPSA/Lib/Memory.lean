import Mathlib

/-!
# Writes into a block of memory

A block of memory is the list of its cells. A write that leaves the block has no result, so a
sequence of writes with one has stayed inside.
-/

namespace WolfPSA.Lib

variable {α : Type*}

/-- The block with `cells` written from `offset` on. -/
def store (block : List α) (offset : Nat) (cells : List α) : Option (List α) :=
  if offset + cells.length ≤ block.length then
    some (block.take offset ++ cells ++ block.drop (offset + cells.length))
  else none

/-- Writes at the given offsets, one after another. -/
def storeAll (block : List α) (writes : List (Nat × List α)) : Option (List α) :=
  writes.foldlM (fun block write => store block write.1 write.2) block

/-- Each write begins where the one before it ended, the first at `offset`. -/
def Consecutive : Nat → List (Nat × List α) → Prop
  | _, [] => True
  | offset, (start, cells) :: rest => start = offset ∧ Consecutive (offset + cells.length) rest

theorem store_next {filled left cells : List α} (room : cells.length ≤ left.length) :
    store (filled ++ left) filled.length cells =
      some (filled ++ cells ++ left.drop cells.length) := by
  have inside : filled.length + cells.length ≤ (filled ++ left).length := by
    rw [List.length_append]
    omega
  unfold store
  rw [if_pos inside, List.take_left, ← List.drop_drop, List.drop_left]

/-- Consecutive writes that fit leave their cells one after another, and the cells behind them as
they were. -/
theorem storeAll_consecutive {filled left : List α} {writes : List (Nat × List α)}
    (order : Consecutive filled.length writes)
    (room : (writes.flatMap Prod.snd).length ≤ left.length) :
    storeAll (filled ++ left) writes =
      some (filled ++ writes.flatMap Prod.snd ++ left.drop (writes.flatMap Prod.snd).length) := by
  induction writes generalizing filled left with
  | nil => simp [storeAll]
  | cons write rest ih =>
    obtain ⟨start, cells⟩ := write
    obtain ⟨rfl, later⟩ := order
    have total : cells.length + (rest.flatMap Prod.snd).length ≤ left.length := by
      rwa [List.flatMap_cons, List.length_append] at room
    have here : cells.length ≤ left.length := by omega
    have next : storeAll (filled ++ left) ((filled.length, cells) :: rest) =
        storeAll (filled ++ cells ++ left.drop cells.length) rest := by
      unfold storeAll
      rw [List.foldlM_cons, store_next here]
      rfl
    have remaining : (rest.flatMap Prod.snd).length ≤ (left.drop cells.length).length := by
      rw [List.length_drop]
      omega
    rw [next, ih (by rwa [List.length_append]) remaining]
    rw [List.flatMap_cons, List.length_append, List.drop_drop]
    simp only [List.append_assoc]

/-- Consecutive writes from the start that fill the block leave nothing of what it held. -/
theorem storeAll_fills {block : List α} {writes : List (Nat × List α)} (order : Consecutive 0 writes)
    (size : block.length = (writes.flatMap Prod.snd).length) :
    storeAll block writes = some (writes.flatMap Prod.snd) := by
  have first : Consecutive ([] : List α).length writes := order
  have whole := storeAll_consecutive first (Nat.le_of_eq size.symm)
  rwa [List.nil_append, List.nil_append, ← size, List.drop_length, List.append_nil] at whole

end WolfPSA.Lib
