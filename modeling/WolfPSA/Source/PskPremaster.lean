import WolfPSA.Lib.Bytes
import WolfPSA.Lib.Memory
import WolfPSA.Source.KeyDerivationReads

/-!
# The premaster secret of TLS 1.2 PSK-to-MS

Embedding of `src/psa_key_derivation.c:1221-1302` at the level of the premaster buffer: the other
secret as a pointer with a length, and the writes one by one in the order of the source.
-/

namespace WolfPSA.Source
open Lib

variable {Hmac Cmac : Type}

/-! ## Input buffers as pointers -/

/-- The pointer to an input buffer: `NULL` until `wolfpsa_kdf_append` gets a byte. -/
def kdfBufferPtr (held : Bytes) : Option Bytes := if held.length = 0 then none else some held

/-- `wolfpsa_kdf_append` on a pointer and a length. -/
def wolfpsaKdfAppendPtr (env : KdfEnv Hmac Cmac) (buf : Option Bytes) (len : Nat) (data : InBuf) :
    Except Status (Option Bytes × Nat) :=
  if data.isNull && decide (data.length > 0) then .error .invalidArgument
  else if data.length == 0 then .ok (buf, len)
  else if len + data.length > sizeMax then .error .insufficientMemory
  else if !env.alloc .append then .error .insufficientMemory
  else
    let old := match buf with
      | some held => held.take len
      | none => []
    .ok (some (old ++ data.bytes), len + data.length)

/-- An input buffer and its pointer move together: only a given byte makes the pointer one. -/
theorem wolfpsaKdfAppendPtr_eq (env : KdfEnv Hmac Cmac) (buf : Bytes) (data : InBuf) :
    wolfpsaKdfAppendPtr env (kdfBufferPtr buf) buf.length data =
      (wolfpsaKdfAppend env buf data).map fun held => (kdfBufferPtr held, held.length) := by
  unfold wolfpsaKdfAppendPtr wolfpsaKdfAppend
  split_ifs with nullData noData tooLong noMemory
  · rfl
  · rfl
  · rfl
  · rfl
  · have given : data.bytes.length = data.length := by
      cases data with
      | null n => simp_all [InBuf.isNull, InBuf.length]
      | data bytes => rfl
    have positive : data.length ≠ 0 := by simpa using noData
    have nonempty : (buf ++ data.bytes).length ≠ 0 := by
      rw [List.length_append, given]
      omega
    have held : (match kdfBufferPtr buf with
        | some held => held.take buf.length
        | none => []) = buf := by
      unfold kdfBufferPtr
      by_cases empty : buf.length = 0
      · rw [if_pos empty]
        exact (List.eq_nil_of_length_eq_zero empty).symm
      · rw [if_neg empty]
        exact List.take_length
    dsimp only
    rw [held]
    simp only [Except.map, kdfBufferPtr]
    rw [if_neg nonempty, List.length_append, given]

/-! ## The premaster buffer -/

/-- `other_secret` and `other_secret_length`. -/
def pskOtherSecretPtr (ctx : KdfCtx) : Option Bytes × Nat :=
  if !ctx.isSet .otherSecret then (none, (ctx.inputs .secret).length)
  else (kdfBufferPtr (ctx.inputs .otherSecret), (ctx.inputs .otherSecret).length)

/-- `premaster_len`. -/
def pskPremasterLen (ctx : KdfCtx) : Nat :=
  2 + (ctx.inputs .secret).length + 2 + (pskOtherSecretPtr ctx).2

/-- The writes into `premaster`, in order: `XMEMSET` where the other secret is `NULL`, `XMEMCPY`
where it is not. -/
def pskPremasterWrites (ctx : KdfCtx) : List (Nat × Bytes) :=
  let otherLength := (pskOtherSecretPtr ctx).2
  let secretLength := (ctx.inputs .secret).length
  [(0, [BitVec.ofNat 8 ((otherLength >>> 8) &&& 0xff)]),
    (1, [BitVec.ofNat 8 (otherLength &&& 0xff)]),
    (2, match (pskOtherSecretPtr ctx).1 with
      | none => List.replicate otherLength 0
      | some other => other.take otherLength),
    (2 + otherLength, [BitVec.ofNat 8 ((secretLength >>> 8) &&& 0xff)]),
    (3 + otherLength, [BitVec.ofNat 8 (secretLength &&& 0xff)]),
    (4 + otherLength, (ctx.inputs .secret).take secretLength)]

/-- The buffer `XMALLOC` returned after the writes; `none` when one of them leaves it. -/
def pskPremasterFilled (allocated : Bytes) (ctx : KdfCtx) : Option Bytes :=
  storeAll allocated (pskPremasterWrites ctx)

theorem pskOtherSecretPtr_length (ctx : KdfCtx) :
    (pskOtherSecretPtr ctx).2 = (pskOtherSecret ctx).length := by
  unfold pskOtherSecretPtr pskOtherSecret
  cases ctx.isSet .otherSecret with
  | false => simp
  | true => rfl

/-- An absent other secret and a supplied empty one share the `NULL` pointer, not the length. -/
theorem pskOtherSecretPtr_bytes (ctx : KdfCtx) :
    (match (pskOtherSecretPtr ctx).1 with
      | none => List.replicate (pskOtherSecretPtr ctx).2 0
      | some other => other.take (pskOtherSecretPtr ctx).2) = pskOtherSecret ctx := by
  unfold pskOtherSecretPtr pskOtherSecret
  cases ctx.isSet .otherSecret with
  | false => rfl
  | true =>
    simp only [Bool.not_true, Bool.false_eq_true, if_false, if_true]
    unfold kdfBufferPtr
    by_cases empty : (ctx.inputs .otherSecret).length = 0
    · rw [if_pos empty]
      dsimp only
      rw [empty, List.eq_nil_of_length_eq_zero empty]
      rfl
    · rw [if_neg empty]
      exact List.take_length

theorem be16_masked (n : Nat) :
    [BitVec.ofNat 8 ((n >>> 8) &&& 0xff)] ++ [BitVec.ofNat 8 (n &&& 0xff)] = be16 n := by
  have low (m : Nat) : BitVec.ofNat 8 (m &&& 0xff) = BitVec.ofNat 8 m := by
    apply BitVec.eq_of_toNat_eq
    rw [BitVec.toNat_ofNat, BitVec.toNat_ofNat, show (0xff : Nat) = 2 ^ 8 - 1 from rfl,
      Nat.and_two_pow_sub_one_eq_mod, Nat.mod_mod]
  rw [low, low]
  rfl

theorem beNat_be16 {n : Nat} (fits : n ≤ uint16Max) : beNat (be16 n) = n := by
  unfold uint16Max at fits
  simp only [be16, beNat, BitVec.toNat_ofNat, List.length_cons, List.length_nil,
    Nat.shiftRight_eq_div_pow]
  omega

theorem pskPremasterWrites_bytes (ctx : KdfCtx) :
    (pskPremasterWrites ctx).flatMap Prod.snd = pskPremaster ctx := by
  unfold pskPremasterWrites pskPremaster
  dsimp only
  rw [pskOtherSecretPtr_bytes, pskOtherSecretPtr_length, ← be16_masked, ← be16_masked,
    List.take_length]
  simp

theorem pskPremasterWrites_consecutive (ctx : KdfCtx) : Consecutive 0 (pskPremasterWrites ctx) := by
  unfold pskPremasterWrites
  dsimp only
  rw [pskOtherSecretPtr_bytes, pskOtherSecretPtr_length]
  refine ⟨rfl, rfl, rfl, ?_, ?_, ?_, trivial⟩
  · simp
  · simp
    omega
  · simp
    omega

theorem pskPremasterLen_eq (ctx : KdfCtx) : pskPremasterLen ctx = (pskPremaster ctx).length := by
  unfold pskPremasterLen
  rw [pskOtherSecretPtr_length]
  simp only [pskPremaster, List.length_append, be16, List.length_cons, List.length_nil]
  omega

/-- Whatever the allocated memory held, every write stays inside it and the premaster is what it
holds in the end. -/
theorem pskPremasterFilled_eq {allocated : Bytes} {ctx : KdfCtx}
    (size : allocated.length = pskPremasterLen ctx) :
    pskPremasterFilled allocated ctx = some (pskPremaster ctx) := by
  rw [pskPremasterLen_eq, ← pskPremasterWrites_bytes] at size
  unfold pskPremasterFilled
  rw [storeAll_fills (pskPremasterWrites_consecutive ctx) size, pskPremasterWrites_bytes]

end WolfPSA.Source
