import WolfPSA.Lib.Der
import WolfPSA.Source.Values

/-!
# The DER export of RSA public keys

Embedding of the DER helpers of `src/psa_key_storage.c` (766-870) and of the part of `psa_export_public_key`
that encodes modulus and exponent (2257-2271). A writer gets the buffer from its `out` pointer on and gives
back the bytes there and the count that it returns. `size_t` counts are unbounded numbers here: they count
bytes of objects in memory.
-/

namespace WolfPSA.Source
open Lib

/-! ## Lengths -/

/-- `while (len > 0) { count++; len >>= 8; }`. -/
def countOctets (count len : Nat) : Nat :=
  if len > 0 then countOctets (count + 1) (len >>> 8) else count
termination_by len
decreasing_by
  rw [Nat.shiftRight_eq_div_pow]
  omega

/-- `psa_der_len_size`. -/
def psaDerLenSize (len : Nat) : Nat := if len < 128 then 1 else countOctets 1 len

/-- The loop that stores the octets of a length, the last one first. -/
def writeOctets (out : Bytes) : (i len : Nat) → Bytes
  | 0, _ => out
  | i + 1, len => writeOctets (out.set (i + 1) (BitVec.ofNat 8 (len &&& 0xff))) i (len >>> 8)

/-- `psa_der_write_len`. -/
def psaDerWriteLen (out : Bytes) (len : Nat) : Bytes × Nat :=
  if len < 128 then (out.set 0 (BitVec.ofNat 8 len), 1)
  else
    let i := countOctets 0 len
    let out := writeOctets (out.set 0 (BitVec.ofNat 8 (0x80 ||| i))) i len
    (out, (out.headD 0).toNat - 0x80 + 1)

/-! ## Integers -/

/-- The index of the first byte that is not zero. -/
def leadingZeros : Bytes → Nat
  | [] => 0
  | b :: rest => if b = 0 then leadingZeros rest + 1 else 0

/-- `psa_der_int_size`. -/
def psaDerIntSize (val : Bytes) : Nat :=
  let offset := leadingZeros val
  if offset = val.length then 3
  else
    let valueLen := val.length - offset
    let addZero := if val.getD offset 0 &&& 0x80 ≠ 0 then 1 else 0
    1 + psaDerLenSize (valueLen + addZero) + valueLen + addZero

/-- `XMEMCPY` to a buffer from the position on. -/
def copyTo (out : Bytes) (position : Nat) (bytes : Bytes) : Bytes :=
  out.take position ++ bytes ++ out.drop (position + bytes.length)

/-- `psa_der_write_int`. -/
def psaDerWriteInt (out val : Bytes) : Bytes × Nat :=
  let offset := leadingZeros val
  let out := out.set 0 0x02
  if offset = val.length then ((out.set 1 0x01).set 2 0x00, 3)
  else
    let valueLen := val.length - offset
    let addZero := val.getD offset 0 &&& 0x80 ≠ 0
    let (rest, lenBytes) := psaDerWriteLen (out.drop 1) (valueLen + if addZero then 1 else 0)
    let out := out.take 1 ++ rest
    if addZero then
      (copyTo (out.set (1 + lenBytes) 0x00) (1 + lenBytes + 1) (val.drop offset),
        1 + lenBytes + 1 + valueLen)
    else (copyTo out (1 + lenBytes) (val.drop offset), 1 + lenBytes + valueLen)

/-! ## The key -/

/-- What the export leaves: the buffer, `*data_length` and how far the `out` pointer has moved. -/
structure RsaExport where
  buffer : Bytes
  dataLength : Nat
  written : Nat
  deriving DecidableEq, Repr

/-- The total length that `psa_export_public_key` computes for an RSA key. -/
def rsaPublicKeySize (n e : Bytes) : Nat :=
  let seqLen := psaDerIntSize n + psaDerIntSize e
  1 + psaDerLenSize seqLen + seqLen

/-- The export of modulus and exponent to a buffer of `data_size` bytes. -/
def rsaPublicKeyExport (n e buffer : Bytes) : Except Failure RsaExport :=
  let seqLen := psaDerIntSize n + psaDerIntSize e
  if buffer.length < rsaPublicKeySize n e then .error ⟨.bufferTooSmall, failing⟩
  else
    let buffer := buffer.set 0 0x30
    let (rest, lenBytes) := psaDerWriteLen (buffer.drop 1) seqLen
    let buffer := buffer.take 1 ++ rest
    let (rest, nBytes) := psaDerWriteInt (buffer.drop (1 + lenBytes)) n
    let buffer := buffer.take (1 + lenBytes) ++ rest
    let (rest, eBytes) := psaDerWriteInt (buffer.drop (1 + lenBytes + nBytes)) e
    let buffer := buffer.take (1 + lenBytes + nBytes) ++ rest
    .ok ⟨buffer, rsaPublicKeySize n e, 1 + lenBytes + nBytes + eBytes⟩

end WolfPSA.Source
