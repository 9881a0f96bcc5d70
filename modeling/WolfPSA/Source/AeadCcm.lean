import WolfPSA.Lib.Bytes
import WolfPSA.Source.Values

/-!
# Streaming CCM

Embedding of the CCM part of `src/psa_aead.c`: wolfCrypt has no streaming CCM, so the counter mode and
the CBC-MAC are written out over `wc_AesEncryptDirect`. The functions take that call with the key of the
operation as a parameter. A failure aborts the operation in the callers, so the fields that a failed call
leaves are not kept.
-/

namespace WolfPSA.Source
open Lib

/-- The `ccm_*` fields of `wolfpsa_aead_ctx_t`. -/
structure CcmState where
  ctr : Bytes
  mac : Bytes
  mblk : Bytes
  mfill : Nat
  ks : Bytes
  ksOff : Nat
  lenSz : Nat
  tagLen : Nat
  deriving DecidableEq

/-- The fields as the `XMEMSET` of a new context leaves them. -/
def ccmZero : CcmState :=
  ⟨List.replicate 16 0, List.replicate 16 0, List.replicate 16 0, 0, List.replicate 16 0, 0, 0, 0⟩

/-- `wc_AesEncryptDirect` with the key of the operation. -/
abbrev EncryptBlock := Bytes → Except WcError Bytes

def xorBlock (a b : Bytes) : Bytes := List.zipWith (· ^^^ ·) a b

/-- A block of zeros with `bytes` at its front. -/
def zeroPadded (bytes : Bytes) : Bytes := bytes ++ List.replicate (16 - bytes.length) 0

/-! ## Counter -/

/-- The loop of `wolfpsa_aead_ccm_ctr_inc` from byte `15 - i` on. -/
def ccmCtrIncFrom (i : Nat) (ctr : Bytes) (carry : Byte) : (left : Nat) → Bytes
  | 0 => ctr
  | left + 1 =>
    let next := ctr.getD (15 - i) 0 + carry
    ccmCtrIncFrom (i + 1) (ctr.set (15 - i) next) (carry &&& if next = 0 then 1 else 0) left

/-- `wolfpsa_aead_ccm_ctr_inc`. -/
def wolfpsaAeadCcmCtrInc (ctr : Bytes) (lenSz : Nat) : Bytes := ccmCtrIncFrom 0 ctr 1 lenSz

/-! ## Initialisation -/

/-- What is left of `msg_len` when `lenSz` bytes have been taken off its low end. -/
def lengthRest : (lenSz msgLen : Nat) → Nat
  | 0, msgLen => msgLen
  | lenSz + 1, msgLen => lengthRest lenSz (msgLen / 256)

theorem lengthRest_eq (lenSz msgLen : Nat) : lengthRest lenSz msgLen = msgLen / 256 ^ lenSz := by
  induction lenSz generalizing msgLen with
  | zero => exact (Nat.div_one msgLen).symm
  | succ lenSz ih =>
    rw [lengthRest, ih, Nat.div_div_eq_div_mul, Nat.pow_succ, Nat.mul_comm 256]

/-- The flags byte of B0. -/
def ccmFlags (aadLength tagLen lenSz : Nat) : Byte :=
  BitVec.ofNat 8 ((if aadLength > 0 then 64 else 0) + 8 * ((tagLen - 2) / 2) + (lenSz - 1))

/-- B0: flags, nonce and message length. -/
def ccmB0 (nonce : Bytes) (aadLength tagLen msgLen : Nat) : Bytes :=
  let lenSz := 15 - nonce.length
  [ccmFlags aadLength tagLen lenSz] ++ nonce ++ (leBytes lenSz msgLen).reverse

/-- The length prefix of the additional data. -/
def ccmAadPrefix (aadLength : Nat) : Bytes :=
  if aadLength ≤ 0xFEFF then [BitVec.ofNat 8 (aadLength / 256), BitVec.ofNat 8 aadLength]
  else [0xff, 0xfe, BitVec.ofNat 8 (aadLength / 2 ^ 24), BitVec.ofNat 8 (aadLength / 2 ^ 16),
    BitVec.ofNat 8 (aadLength / 2 ^ 8), BitVec.ofNat 8 aadLength]

/-- The loop over the additional data behind its first block; every round takes a byte at least. -/
def ccmMacAad (encrypt : EncryptBlock) : (rounds : Nat) → (mac aad : Bytes) → Except WcError Bytes
  | 0, mac, _ => .ok mac
  | rounds + 1, mac, aad =>
    if aad.length > 0 then do
      let mac ← encrypt (xorBlock mac (zeroPadded (aad.take 16)))
      ccmMacAad encrypt rounds mac (aad.drop 16)
    else .ok mac

/-- The additional data with its length prefix through the CBC-MAC. -/
def ccmAad (encrypt : EncryptBlock) (mac aad : Bytes) : Except WcError Bytes :=
  if aad.length > 0 then do
    let first := ccmAadPrefix aad.length
    let mac ← encrypt (xorBlock mac (zeroPadded (first ++ aad.take (16 - first.length))))
    ccmMacAad encrypt aad.length mac (aad.drop (16 - first.length))
  else .ok mac

/-- The first counter block. -/
def ccmFirstCtr (nonce : Bytes) : Bytes :=
  let lenSz := 15 - nonce.length
  [BitVec.ofNat 8 (lenSz - 1)] ++ nonce ++ List.replicate (lenSz - 1) 0 ++ [1]

/-- `wolfpsa_aead_ccm_init` behind the key schedule. -/
def ccmStart (encrypt : EncryptBlock) (nonce aad : Bytes) (tagLen plaintextExpected : Nat) :
    Except Failure CcmState := do
  let lenSz := 15 - nonce.length
  require (lengthRest lenSz plaintextExpected == 0) .invalidArgument
  let mac ← wcCall (encrypt (ccmB0 nonce aad.length tagLen plaintextExpected))
  let mac ← wcCall (ccmAad encrypt mac aad)
  let ks ← wcCall (encrypt (ccmFirstCtr nonce))
  return ⟨ccmFirstCtr nonce, mac, List.replicate 16 0, 0, ks, 0, lenSz, tagLen⟩

/-! ## Message -/

/-- The next key stream block, when the last one is used up. -/
def ccmRefill (encrypt : EncryptBlock) (st : CcmState) : Except WcError CcmState :=
  if st.ksOff = 16 then do
    let ctr := wolfpsaAeadCcmCtrInc st.ctr st.lenSz
    let ks ← encrypt ctr
    return { st with ctr := ctr, ks := ks, ksOff := 0 }
  else .ok st

/-- The CBC-MAC over a full message block. -/
def ccmFlush (encrypt : EncryptBlock) (st : CcmState) : Except WcError CcmState :=
  if st.mfill = 16 then do
    let mac ← encrypt (xorBlock st.mac st.mblk)
    return { st with mac := mac, mfill := 0, mblk := List.replicate 16 0 }
  else .ok st

/-- One byte of the loop of `wolfpsa_aead_ccm_update`. The CBC-MAC is over the plaintext: the input when
encrypting, the output when decrypting. -/
def ccmByte (encrypt : EncryptBlock) (encrypts : Bool) (st : CcmState) (b : Byte) :
    Except WcError (Byte × CcmState) := do
  let st ← ccmRefill encrypt st
  let out := b ^^^ st.ks.getD st.ksOff 0
  let text := if encrypts then b else out
  let st ← ccmFlush encrypt { st with
    ksOff := st.ksOff + 1, mblk := st.mblk.set st.mfill (st.mblk.getD st.mfill 0 ^^^ text),
    mfill := st.mfill + 1 }
  return (out, st)

def ccmBytes (encrypt : EncryptBlock) (encrypts : Bool) :
    CcmState → Bytes → Except WcError (Bytes × CcmState)
  | st, [] => .ok ([], st)
  | st, b :: rest => do
    let (out, st) ← ccmByte encrypt encrypts st b
    let (outs, st) ← ccmBytes encrypt encrypts st rest
    return (out :: outs, st)

/-- `wolfpsa_aead_ccm_update`. -/
def wolfpsaAeadCcmUpdate (encrypt : EncryptBlock) (encrypts : Bool) (st : CcmState) (input : Bytes) :
    Except Failure (Bytes × CcmState) := wcCall (ccmBytes encrypt encrypts st input)

/-! ## Tag -/

/-- The CBC-MAC with the last block, when there is a part of one. -/
def ccmLastMac (encrypt : EncryptBlock) (st : CcmState) : Except WcError Bytes :=
  if st.mfill > 0 then encrypt (xorBlock st.mac st.mblk) else .ok st.mac

/-- `wolfpsa_aead_ccm_finish`. -/
def wolfpsaAeadCcmFinish (encrypt : EncryptBlock) (st : CcmState) (nonce : Bytes) (tagLen : Nat) :
    Except Failure Bytes := do
  let mac ← wcCall (ccmLastMac encrypt st)
  let s0 ← wcCall (encrypt (zeroPadded ([BitVec.ofNat 8 (st.lenSz - 1)] ++ nonce)))
  return (xorBlock mac s0).take tagLen

end WolfPSA.Source
