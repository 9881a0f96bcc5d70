import Mathlib

/-!
# Iterated pseudorandom functions

The chain `U 1 = prf seed`, `U (k + 1) = prf (U k)` and the sum of its first members, as PBKDF2
defines its blocks, against a loop that keeps the last member and the sum so far.
-/

namespace WolfPSA.Lib

variable {α : Type*}

/-- Member `k + 1` of the chain. -/
def prfChain (prf : α → α) (seed : α) : Nat → α
  | 0 => prf seed
  | k + 1 => prf (prfChain prf seed k)

/-- The sum of the first `c` members. -/
def chainSum (add : α → α → α) (prf : α → α) (seed : α) (c : Nat) : α :=
  (List.range (c - 1)).foldl (fun sum k => add sum (prfChain prf seed (k + 1))) (prfChain prf seed 0)

/-- `n` further members added to `sum`, `last` being the latest. -/
def chainLoop (add : α → α → α) (prf : α → α) : Nat → (last sum : α) → α
  | 0, _, sum => sum
  | n + 1, last, sum => chainLoop add prf n (prf last) (add sum (prf last))

theorem chainLoop_eq_foldl (add : α → α → α) (prf : α → α) (seed : α) (n k : Nat) (sum : α) :
    chainLoop add prf n (prfChain prf seed k) sum =
      (List.range n).foldl (fun sum j => add sum (prfChain prf seed (k + j + 1))) sum := by
  induction n generalizing k sum with
  | zero => rfl
  | succ n ih =>
    have next : prf (prfChain prf seed k) = prfChain prf seed (k + 1) := rfl
    rw [chainLoop, next, ih, List.range_succ_eq_map, List.foldl_cons, List.foldl_map, Nat.add_zero]
    congr 1
    funext sum j
    rw [Nat.add_assoc k 1 j, Nat.add_comm 1 j]

/-- The loop from the first member computes the sum. -/
theorem chainLoop_eq_chainSum (add : α → α → α) (prf : α → α) (seed : α) (c : Nat) :
    chainLoop add prf (c - 1) (prf seed) (prf seed) = chainSum add prf seed c := by
  have whole := chainLoop_eq_foldl add prf seed (c - 1) 0 (prf seed)
  simp only [Nat.zero_add] at whole
  exact whole

end WolfPSA.Lib
