import WolfPSA.Lib.BlockModes
import WolfPSA.Lib.Bytes
import WolfPSA.Lib.Streams

/-!
# Counter with CBC-MAC

The generation-encryption and decryption-verification of SP 800-38C over an arbitrary function on blocks
of 16 bytes, with the formatting and the counter blocks of its appendix A. The payload is combined with
a key stream (`xorFrom`), so a text in pieces goes on where the piece before ended.
-/

namespace WolfPSA.Lib

/-- The text combined with a key stream from position `n` on. -/
def xorFrom {w : Nat} (stream : Nat → BitVec w) : Nat → List (BitVec w) → List (BitVec w)
  | _, [] => []
  | n, b :: rest => (b ^^^ stream n) :: xorFrom stream (n + 1) rest

section

variable {w : Nat} (stream : Nat → BitVec w)

@[simp] theorem length_xorFrom (n : Nat) (text : List (BitVec w)) :
    (xorFrom stream n text).length = text.length := by
  induction text generalizing n with
  | nil => rfl
  | cons b rest ih => rw [xorFrom, List.length_cons, ih, List.length_cons]

/-- The second piece of a text goes on where the first one ended. -/
theorem xorFrom_append (n : Nat) (first second : List (BitVec w)) :
    xorFrom stream n (first ++ second) =
      xorFrom stream n first ++ xorFrom stream (n + first.length) second := by
  induction first generalizing n with
  | nil => rfl
  | cons b rest ih =>
    rw [List.cons_append, xorFrom, ih, xorFrom, List.cons_append, List.length_cons]
    congr 3
    omega

theorem xorFrom_xorFrom (n : Nat) (text : List (BitVec w)) :
    xorFrom stream n (xorFrom stream n text) = text := by
  induction text generalizing n with
  | nil => rfl
  | cons b rest ih =>
    rw [xorFrom, xorFrom, ih, BitVec.xor_assoc, BitVec.xor_self, BitVec.xor_zero]

end

/-! ## Padding and chaining -/

/-- Zeros up to a multiple of 16 bytes. -/
def pad16 (bytes : List (BitVec 8)) : List (BitVec 8) :=
  bytes ++ List.replicate ((16 - bytes.length % 16) % 16) 0

theorem length_pad16 (bytes : List (BitVec 8)) :
    (pad16 bytes).length = (bytes.length + 15) / 16 * 16 := by
  rw [pad16, List.length_append, List.length_replicate]
  omega

theorem pad16_of_dvd {bytes : List (BitVec 8)} (whole : bytes.length % 16 = 0) : pad16 bytes = bytes := by
  rw [pad16, whole]
  exact List.append_nil bytes

/-- Padding touches what comes behind whole blocks only. -/
theorem pad16_append {front : List (BitVec 8)} (whole : front.length % 16 = 0) (bytes : List (BitVec 8)) :
    pad16 (front ++ bytes) = front ++ pad16 bytes := by
  rw [pad16, pad16, List.append_assoc, List.length_append]
  congr 4
  omega

section

variable (E : List (BitVec 8) → List (BitVec 8))

/-- The chaining value behind whole blocks. -/
def cbcMac (y bytes : List (BitVec 8)) : List (BitVec 8) :=
  (blockwise 16 (cbcEncryptStep E) (bytes.length / 16) y bytes).2

theorem cbcMac_nil (y : List (BitVec 8)) : cbcMac E y [] = y := rfl

theorem cbcMac_append {front : List (BitVec 8)} (whole : front.length % 16 = 0)
    (y bytes : List (BitVec 8)) : cbcMac E y (front ++ bytes) = cbcMac E (cbcMac E y front) bytes := by
  have blocks : front.length / 16 * 16 = front.length := by omega
  have total : (front ++ bytes).length / 16 = front.length / 16 + bytes.length / 16 := by
    rw [List.length_append]
    omega
  unfold cbcMac
  rw [total, blockwise_add, blockwise_append_left (Nat.le_of_eq blocks), blocks, List.drop_left]

theorem cbcMac_block {block : List (BitVec 8)} (whole : block.length = 16) (y : List (BitVec 8)) :
    cbcMac E y block = E (List.zipWith (· ^^^ ·) block y) := by
  unfold cbcMac
  rw [whole]
  exact congrArg Prod.snd (blockwise_one y whole)

theorem length_cbcMac {E : List (BitVec 8) → List (BitVec 8)} (sixteen : ∀ b, (E b).length = 16)
    {y : List (BitVec 8)} (start : y.length = 16) (bytes : List (BitVec 8)) :
    (cbcMac E y bytes).length = 16 :=
  blockwise_state (fun y : List (BitVec 8) => y.length = 16) (fun _ _ _ _ => sixteen _) (Nat.div_mul_le_self _ _) start

end

/-! ## Formatting -/

namespace Ccm

/-- The first byte of the first block: whether there is additional data, the tag length and the size of
the length field. -/
def flags (aadLength tagLength q : Nat) : BitVec 8 :=
  BitVec.ofNat 8 ((if aadLength > 0 then 64 else 0) + 8 * ((tagLength - 2) / 2) + (q - 1))

/-- The first block: flags, nonce and payload length. -/
def firstBlock (nonce : List (BitVec 8)) (aadLength tagLength payloadLength : Nat) : List (BitVec 8) :=
  [flags aadLength tagLength (15 - nonce.length)] ++ nonce ++ beBytes (15 - nonce.length) payloadLength

/-- The length of the additional data in 2, 6 or 10 bytes. -/
def encodedLength (a : Nat) : List (BitVec 8) :=
  if a < 0xFF00 then beBytes 2 a
  else if a < 2 ^ 32 then [0xff, 0xfe] ++ beBytes 4 a
  else [0xff, 0xff] ++ beBytes 8 a

def formattedAad (aad : List (BitVec 8)) : List (BitVec 8) :=
  if aad.length = 0 then [] else pad16 (encodedLength aad.length ++ aad)

/-- The blocks that are authenticated. -/
def formatted (nonce aad payload : List (BitVec 8)) (tagLength : Nat) : List (BitVec 8) :=
  firstBlock nonce aad.length tagLength payload.length ++ formattedAad aad ++ pad16 payload

def counterBlock (nonce : List (BitVec 8)) (i : Nat) : List (BitVec 8) :=
  [BitVec.ofNat 8 (15 - nonce.length - 1)] ++ nonce ++ beBytes (15 - nonce.length) i

/-! ## The two functions -/

variable (E : List (BitVec 8) → List (BitVec 8))

/-- The key stream of the payload; counter block 0 is kept for the tag. -/
def keyStream (nonce : List (BitVec 8)) : Nat → BitVec 8 :=
  blockStream (fun j => E (counterBlock nonce (j + 1))) 16

def tag (nonce aad payload : List (BitVec 8)) (tagLength : Nat) : List (BitVec 8) :=
  (List.zipWith (· ^^^ ·) (cbcMac E (List.replicate 16 0) (formatted nonce aad payload tagLength))
    (E (counterBlock nonce 0))).take tagLength

/-- Ciphertext and tag. -/
def generateEncrypt (nonce aad payload : List (BitVec 8)) (tagLength : Nat) :
    List (BitVec 8) × List (BitVec 8) :=
  (xorFrom (keyStream E nonce) 0 payload, tag E nonce aad payload tagLength)

/-- The payload, if the tag is right. -/
def decryptVerify (nonce aad ciphertext given : List (BitVec 8)) : Option (List (BitVec 8)) :=
  let payload := xorFrom (keyStream E nonce) 0 ciphertext
  if tag E nonce aad payload given.length = given then some payload else none

variable {E}

theorem length_counterBlock {nonce : List (BitVec 8)} (short : nonce.length ≤ 15) (i : Nat) :
    (counterBlock nonce i).length = 16 := by
  rw [counterBlock, List.length_append, List.length_append, length_beBytes, List.length_singleton]
  omega

theorem length_firstBlock {nonce : List (BitVec 8)} (short : nonce.length ≤ 15)
    (aadLength tagLength payloadLength : Nat) :
    (firstBlock nonce aadLength tagLength payloadLength).length = 16 := by
  rw [firstBlock, List.length_append, List.length_append, length_beBytes, List.length_singleton]
  omega

theorem length_formattedAad (aad : List (BitVec 8)) : (formattedAad aad).length % 16 = 0 := by
  unfold formattedAad
  split
  · rfl
  · rw [length_pad16, Nat.mul_mod_left]

/-- A tag is cut from one block. -/
theorem length_tag_min (sixteen : ∀ b, (E b).length = 16) (nonce aad payload : List (BitVec 8))
    (tagLength : Nat) : (tag E nonce aad payload tagLength).length = min tagLength 16 := by
  have mac := length_cbcMac sixteen (List.length_replicate : (List.replicate 16 (0 : BitVec 8)).length = 16)
    (formatted nonce aad payload tagLength)
  rw [tag, List.length_take, zipWith_xor_length mac (sixteen _)]

theorem length_tag (sixteen : ∀ b, (E b).length = 16) (nonce aad payload : List (BitVec 8))
    {tagLength : Nat} (short : tagLength ≤ 16) : (tag E nonce aad payload tagLength).length = tagLength :=
  (length_tag_min sixteen nonce aad payload tagLength).trans (Nat.min_eq_left short)

/-- Verification finds the payload that is encrypted to the ciphertext with that tag. -/
theorem decryptVerify_eq_some_iff {nonce aad ciphertext given payload : List (BitVec 8)} :
    decryptVerify E nonce aad ciphertext given = some payload ↔
      generateEncrypt E nonce aad payload given.length = (ciphertext, given) := by
  unfold decryptVerify generateEncrypt
  dsimp only
  constructor
  · intro opened
    split at opened
    · rename_i right
      cases opened
      rw [xorFrom_xorFrom, right]
    · cases opened
  · intro sealed
    obtain ⟨rfl, right⟩ := Prod.mk.inj sealed
    rw [xorFrom_xorFrom, if_pos right]

/-- What was encrypted is decrypted and verified. -/
theorem decryptVerify_generateEncrypt (sixteen : ∀ b, (E b).length = 16)
    (nonce aad payload : List (BitVec 8)) {tagLength : Nat} (short : tagLength ≤ 16) :
    decryptVerify E nonce aad (generateEncrypt E nonce aad payload tagLength).1
      (generateEncrypt E nonce aad payload tagLength).2 = some payload := by
  refine decryptVerify_eq_some_iff.mpr ?_
  rw [show (generateEncrypt E nonce aad payload tagLength).2.length = tagLength from
    length_tag sixteen nonce aad payload short]

end Ccm

end WolfPSA.Lib
