import WolfPSA.Lib.PrfChain
import WolfPSA.Source.KeyDerivationStreams

/-!
# The block loop of PBKDF2-AES-CMAC

`for (i = 1; i <= blocks; i++)` with a 32-bit `i` and a `size_t` bound, iteration by iteration. It
ends with the blocks `1, .., blocks` when the bound is below the largest word; no word exceeds a
larger bound, and without an error of the CMAC the loop never ends.
-/

namespace WolfPSA.Source
open Lib

variable {Hmac Cmac : Type}

/-- The loop from counter `i`; `none` when `fuel` iterations were not enough. -/
def pbkdf2CmacLoop (wc : WcMac Hmac Cmac) (key salt : Bytes) (cost blocks : Nat) :
    (fuel i : Nat) → Option (Except KdfFail Bytes)
  | 0, _ => none
  | fuel + 1, i =>
    if i ≤ blocks then
      match pbkdf2CmacBlock wc key salt cost i with
      | .error fail => some (.error fail)
      | .ok t =>
        (pbkdf2CmacLoop wc key salt cost blocks fuel ((i + 1) % 2 ^ 32)).map fun rest =>
          rest.map (t ++ ·)
    else some (.ok [])

theorem pbkdf2CmacLoop_ends (wc : WcMac Hmac Cmac) (key salt : Bytes) (cost : Nat)
    {blocks n i fuel : Nat} (bound : blocks < uint32Max) (last : i + n = blocks + 1)
    (enough : n < fuel) :
    pbkdf2CmacLoop wc key salt cost blocks fuel i = some (pbkdf2CmacBlocks wc key salt cost n i) := by
  induction n generalizing i fuel with
  | zero =>
    obtain ⟨fuel, rfl⟩ := Nat.exists_eq_succ_of_ne_zero (Nat.ne_of_gt enough)
    unfold pbkdf2CmacLoop
    rw [if_neg (by omega)]
    rfl
  | succ n ih =>
    obtain ⟨fuel, rfl⟩ := Nat.exists_eq_succ_of_ne_zero (Nat.ne_of_gt (Nat.lt_of_le_of_lt
      (Nat.zero_le _) enough))
    have word : (i + 1) % 2 ^ 32 = i + 1 := by
      unfold uint32Max at bound
      omega
    unfold pbkdf2CmacLoop pbkdf2CmacBlocks
    rw [if_pos (by omega), word]
    cases pbkdf2CmacBlock wc key salt cost i with
    | error fail => rfl
    | ok t =>
      dsimp only
      rw [ih (by omega) (by omega)]
      cases pbkdf2CmacBlocks wc key salt cost n (i + 1) with
      | error fail => rfl
      | ok rest => rfl

theorem pbkdf2CmacLoop_never_ends {wc : WcMac Hmac Cmac} {key salt : Bytes} {cost blocks : Nat}
    (bound : uint32Max ≤ blocks) (total : ∀ i, ∃ t, pbkdf2CmacBlock wc key salt cost i = .ok t)
    (fuel : Nat) {i : Nat} (word : i < 2 ^ 32) :
    pbkdf2CmacLoop wc key salt cost blocks fuel i = none := by
  induction fuel generalizing i with
  | zero => rfl
  | succ fuel ih =>
    obtain ⟨t, made⟩ := total i
    have inside : i ≤ blocks := by
      unfold uint32Max at bound
      omega
    unfold pbkdf2CmacLoop
    rw [if_pos inside, made]
    dsimp only
    rw [ih (Nat.mod_lt _ (by decide))]
    rfl

/-! ## Where the CMAC never fails -/

section

variable {wc : WcMac Hmac Cmac} (total : ∀ key pieces, ∃ tag, kdfCmac wc key pieces = .ok tag)
include total

theorem pbkdf2CmacIterate_total (key : Bytes) (n : Nat) (u t : Bytes) :
    ∃ bytes, pbkdf2CmacIterate wc key n u t = .ok bytes := by
  induction n generalizing u t with
  | zero => exact ⟨t, rfl⟩
  | succ n ih =>
    obtain ⟨u', made⟩ := total key [u]
    unfold pbkdf2CmacIterate
    rw [made]
    exact ih u' _

theorem pbkdf2CmacBlock_total (key salt : Bytes) (cost i : Nat) :
    ∃ bytes, pbkdf2CmacBlock wc key salt cost i = .ok bytes := by
  obtain ⟨u, made⟩ := total key [salt ++ be32 i]
  unfold pbkdf2CmacBlock
  rw [made]
  exact pbkdf2CmacIterate_total total key _ u u

theorem pbkdf2CmacBlocks_total (key salt : Bytes) (cost n i : Nat) :
    ∃ bytes, pbkdf2CmacBlocks wc key salt cost n i = .ok bytes := by
  induction n generalizing i with
  | zero => exact ⟨[], rfl⟩
  | succ n ih =>
    obtain ⟨t, made⟩ := pbkdf2CmacBlock_total total key salt cost i
    obtain ⟨rest, later⟩ := ih (i + 1)
    unfold pbkdf2CmacBlocks
    rw [made]
    simp only [bind, Except.bind, later]
    exact ⟨_, rfl⟩

theorem pbkdf2CmacKey_total (password : Bytes) : ∃ key, pbkdf2CmacKey wc password = .ok key := by
  unfold pbkdf2CmacKey
  split
  · exact ⟨_, rfl⟩
  · exact total _ _

end

end WolfPSA.Source
