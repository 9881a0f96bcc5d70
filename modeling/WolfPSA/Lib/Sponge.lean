import Mathlib
import WolfPSA.Lib.Streams

/-!
# Sponges as streams

A sponge absorbs one message into its initial state and is then squeezed block by block: the state is
permuted and `rate` elements are read off it. `digest` is the endless output for a message; squeezing
whole blocks, any number at a time, reads it from front to back.
-/

namespace WolfPSA.Lib

/-- A sponge with states `σ` that takes and gives elements of `α`, `rate` at a time. -/
structure Sponge (σ α : Type*) (rate : Nat) where
  initial : σ
  /-- The state once the message is padded and absorbed. -/
  absorb : List α → σ → σ
  permute : σ → σ
  extract : σ → List α
  extract_length : ∀ s, (extract s).length = rate
  rate_pos : 0 < rate

namespace Sponge

variable {σ α : Type*} {rate : Nat} (sponge : Sponge σ α rate)

/-- `n` blocks squeezed one after another, and the state behind them. -/
def squeeze : Nat → σ → List α × σ
  | 0, s => ([], s)
  | n + 1, s =>
    let rest := squeeze n (sponge.permute s)
    (sponge.extract (sponge.permute s) ++ rest.1, rest.2)

theorem squeeze_state (n : Nat) (s : σ) : (sponge.squeeze n s).2 = sponge.permute^[n] s := by
  induction n generalizing s with
  | zero => rfl
  | succ n ih =>
    rw [Function.iterate_succ_apply]
    exact ih (sponge.permute s)

variable [Inhabited α]

/-- The endless output of a state. -/
def stream (s : σ) : Nat → α := blockStream (fun j => sponge.extract (sponge.permute^[j + 1] s)) rate

/-- The endless output for a message. -/
def digest (message : List α) : Nat → α := sponge.stream (sponge.absorb message sponge.initial)

theorem stream_permute (s : σ) (i : Nat) :
    sponge.stream (sponge.permute s) i = sponge.stream s (rate + i) :=
  (congrFun (blockStream_shift (fun j => sponge.extract (sponge.permute^[j + 1] s))
    sponge.rate_pos) i).symm

/-- After `n` blocks the stream goes on where they ended. -/
theorem stream_iterate (n : Nat) (s : σ) (i : Nat) :
    sponge.stream (sponge.permute^[n] s) i = sponge.stream s (n * rate + i) := by
  induction n generalizing i with
  | zero => rw [Nat.zero_mul, Nat.zero_add, Function.iterate_zero_apply]
  | succ n ih =>
    rw [Function.iterate_succ_apply', stream_permute, ih]
    congr 1
    rw [Nat.succ_mul]
    omega

theorem squeeze_elements (n : Nat) (s : σ) :
    (sponge.squeeze n s).1 = firstN (sponge.stream s) (n * rate) := by
  induction n generalizing s with
  | zero => rw [Nat.zero_mul, firstN_zero]; rfl
  | succ n ih =>
    rw [show (n + 1) * rate = rate + n * rate by rw [Nat.succ_mul, Nat.add_comm]]
    unfold stream
    rw [firstN_blockStream_cons sponge.rate_pos (sponge.extract_length _)]
    exact congrArg (sponge.extract (sponge.permute s) ++ ·) (ih (sponge.permute s))

/-- Blocks squeezed behind the first `p` are the elements of the stream behind the first `p * rate`. -/
theorem squeeze_slice (p n : Nat) (s : σ) :
    (sponge.squeeze n (sponge.permute^[p] s)).1 =
      firstN (fun i => sponge.stream s (p * rate + i)) (n * rate) := by
  rw [squeeze_elements]
  exact firstN_congr fun i _ => sponge.stream_iterate p s i

end Sponge

end WolfPSA.Lib
