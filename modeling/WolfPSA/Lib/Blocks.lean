import Mathlib

/-!
# Block by block

`blockwise` runs a step over consecutive blocks of one length. `absorb` does so for input that comes
in pieces: what is not processed yet is pending until the next piece, so however the input is cut, the
blocks are those of the whole (`absorbAll_eq`).
-/

namespace WolfPSA.Lib

variable {α σ : Type}

/-- The step over the first `k` blocks of length `n`, with the outputs one after another. -/
def blockwise (n : Nat) (step : σ → List α → List α × σ) : Nat → σ → List α → List α × σ
  | 0, s, _ => ([], s)
  | k + 1, s, input =>
    let first := step s (input.take n)
    let rest := blockwise n step k first.2 (input.drop n)
    (first.1 ++ rest.1, rest.2)

section

variable {n : Nat} {step : σ → List α → List α × σ}

/-- Blocks in two runs. -/
theorem blockwise_add (k l : Nat) (s : σ) (input : List α) :
    blockwise n step (k + l) s input =
      ((blockwise n step k s input).1 ++
          (blockwise n step l (blockwise n step k s input).2 (input.drop (k * n))).1,
        (blockwise n step l (blockwise n step k s input).2 (input.drop (k * n))).2) := by
  induction k generalizing s input with
  | zero => simp [blockwise]
  | succ k ih =>
    have next := ih (step s (input.take n)).2 (input.drop n)
    rw [List.drop_drop, show n + k * n = (k + 1) * n by rw [Nat.succ_mul, Nat.add_comm]] at next
    rw [show k + 1 + l = k + l + 1 by omega]
    show (_ ++ _, _) = _
    rw [next]
    simp only [blockwise, List.append_assoc]

/-- Only the first blocks of the input are read. -/
theorem blockwise_append_left {k : Nat} {a : List α} (enough : k * n ≤ a.length) (s : σ)
    (b : List α) : blockwise n step k s (a ++ b) = blockwise n step k s a := by
  induction k generalizing s a with
  | zero => rfl
  | succ k ih =>
    rw [Nat.succ_mul] at enough
    have one : n ≤ a.length := by omega
    have rest : k * n ≤ (a.drop n).length := by
      rw [List.length_drop]
      omega
    unfold blockwise
    dsimp only
    rw [List.take_append_of_le_length one, List.drop_append_of_le_length one, ih rest]

end

/-- The state after the blocks, when every step keeps a property of it. -/
theorem blockwise_state {n : Nat} {step : σ → List α → List α × σ} (inv : σ → Prop)
    (keeps : ∀ s block, block.length = n → inv s → inv (step s block).2) {k : Nat} {input : List α}
    (enough : k * n ≤ input.length) {s : σ} (start : inv s) :
    inv (blockwise n step k s input).2 := by
  induction k generalizing s input with
  | zero => exact start
  | succ k ih =>
    rw [Nat.succ_mul] at enough
    have rest : k * n ≤ (input.drop n).length := by
      rw [List.length_drop]
      omega
    have first : (input.take n).length = n := by
      rw [List.length_take]
      omega
    exact ih rest (keeps s _ first start)

theorem blockwise_one {n : Nat} {step : σ → List α → List α × σ} (s : σ) {block : List α}
    (whole : block.length = n) : blockwise n step 1 s block = step s block := by
  simp [blockwise, List.take_of_length_le (Nat.le_of_eq whole)]

/-! ## Input in pieces -/

/-- How many of `total` elements' blocks are processed at once. The rest of a first piece counts with
the second one as if both had come together. -/
structure BlockCount (n : Nat) (count : Nat → Nat) : Prop where
  within : ∀ total, count total * n ≤ total
  more : ∀ total extra, count (total + extra) =
    count total + count (total - count total * n + extra)

/-- Every full block. -/
theorem blockCount_full {n : Nat} (positive : 0 < n) : BlockCount n (· / n) := by
  refine ⟨fun total => Nat.div_mul_le_self total n, fun total extra => ?_⟩
  have parts : total = total % n + n * (total / n) := (Nat.mod_add_div total n).symm
  have left : total - total / n * n = total % n := by
    rw [Nat.mul_comm]
    omega
  rw [left]
  calc (total + extra) / n = (total % n + extra + n * (total / n)) / n := by
        congr 1
        omega
    _ = (total % n + extra) / n + total / n := Nat.add_mul_div_left _ _ positive
    _ = _ := Nat.add_comm _ _

/-- Every full block but a last one. -/
theorem blockCount_heldBack {n : Nat} (positive : 0 < n) : BlockCount n fun t => (t - 1) / n := by
  constructor
  · intro total
    have bound := Nat.div_mul_le_self (total - 1) n
    omega
  · intro total extra
    have parts : total - 1 = (total - 1) % n + n * ((total - 1) / n) :=
      (Nat.mod_add_div (total - 1) n).symm
    by_cases empty : total = 0
    · subst empty
      simp
    have left : total - (total - 1) / n * n = (total - 1) % n + 1 := by
      rw [Nat.mul_comm]
      omega
    rw [left]
    calc (total + extra - 1) / n
        = ((total - 1) % n + extra + n * ((total - 1) / n)) / n := by
          congr 1
          omega
      _ = ((total - 1) % n + extra) / n + (total - 1) / n := Nat.add_mul_div_left _ _ positive
      _ = (total - 1) / n + ((total - 1) % n + 1 + extra - 1) / n := by
          rw [Nat.add_comm]
          congr 2
          omega

/-- What has been processed and what is pending. -/
structure Buffered (σ α : Type) where
  state : σ
  pending : List α

/-- A piece of the input together with what is pending. -/
def absorb (n : Nat) (step : σ → List α → List α × σ) (count : Nat → Nat) (b : Buffered σ α)
    (input : List α) : List α × Buffered σ α :=
  let total := b.pending ++ input
  let r := blockwise n step (count total.length) b.state total
  (r.1, ⟨r.2, total.drop (count total.length * n)⟩)

/-- One piece after another, with all outputs. -/
def absorbAll (n : Nat) (step : σ → List α → List α × σ) (count : Nat → Nat) (b : Buffered σ α) :
    List (List α) → List α × Buffered σ α
  | [] => ([], b)
  | piece :: rest =>
    let first := absorb n step count b piece
    let all := absorbAll n step count first.2 rest
    (first.1 ++ all.1, all.2)

section

variable {n : Nat} {step : σ → List α → List α × σ} {count : Nat → Nat}

theorem absorb_append (law : BlockCount n count) (b : Buffered σ α) (first second : List α) :
    absorb n step count b (first ++ second) =
      ((absorb n step count b first).1 ++ (absorb n step count (absorb n step count b first).2 second).1,
        (absorb n step count (absorb n step count b first).2 second).2) := by
  have within := law.within (b.pending ++ first).length
  have more := law.more (b.pending ++ first).length second.length
  have left : ((b.pending ++ first).drop (count (b.pending ++ first).length * n) ++ second).length =
      (b.pending ++ first).length - count (b.pending ++ first).length * n + second.length := by
    rw [List.length_append, List.length_drop]
  have total : (b.pending ++ (first ++ second)).length =
      (b.pending ++ first).length + second.length := by
    rw [← List.append_assoc, List.length_append]
  unfold absorb
  dsimp only
  rw [total, more, left, ← List.append_assoc, blockwise_add, blockwise_append_left within,
    List.drop_append_of_le_length within, Nat.add_mul, ← List.drop_drop,
    List.drop_append_of_le_length within]

/-- After a piece nothing that is pending can be processed. -/
theorem absorb_pending (law : BlockCount n count) (b : Buffered σ α) (input : List α) :
    count (absorb n step count b input).2.pending.length = 0 := by
  have more := law.more (b.pending ++ input).length 0
  unfold absorb
  dsimp only
  rw [List.length_drop]
  rw [Nat.add_zero, Nat.add_zero] at more
  omega

theorem absorb_nil {b : Buffered σ α} (settled : count b.pending.length = 0) :
    absorb n step count b [] = ([], b) := by
  unfold absorb
  dsimp only
  rw [List.append_nil, settled]
  simp [blockwise]

/-- However the input is cut into pieces, the outputs together and what stays pending are those of the
whole input. -/
theorem absorbAll_eq (law : BlockCount n count) {b : Buffered σ α}
    (settled : count b.pending.length = 0) (pieces : List (List α)) :
    absorbAll n step count b pieces = absorb n step count b pieces.flatten := by
  induction pieces generalizing b with
  | nil =>
    rw [List.flatten_nil, absorb_nil settled]
    rfl
  | cons piece rest ih =>
    rw [List.flatten_cons, absorb_append law]
    unfold absorbAll
    dsimp only
    rw [ih (absorb_pending law b piece)]

end

end WolfPSA.Lib
