import WolfPSA.Lib.Bytes
import WolfPSA.Source.Values

/-!
# The transform of the Zephyr secure storage

Embedding of `zephyr/src/psa_its_transform_wolfcrypt.c`: AES-256-GCM over each record, under a key derived
from a device identifier and the UID, with the create flags and the UID as additional data. A record is

    create flags (1) || nonce (12) || ciphertext || tag (16)

SHA-256, the generator and AES-GCM are what wolfCrypt answers.
-/

namespace WolfPSA.Source
open Lib

def wolfpsaItsNonceSz : Nat := 12
def wolfpsaItsTagSz : Nat := 16
def wolfpsaItsFlagsSz : Nat := 1

/-- `secure_storage_its_uid_t`. -/
structure ItsUid where
  uid : BitVec 64
  callerId : BitVec 32
  deriving DecidableEq, Repr

/-- `wolfpsa_its_serialize_uid`. -/
def wolfpsaItsSerializeUid (uid : ItsUid) : Bytes := leBytes 8 uid.uid.toNat ++ leBytes 4 uid.callerId.toNat

/-- wolfCrypt and the hardware as the transform meets them. -/
structure ItsCrypto where
  /-- The answer of `hwinfo_get_device_id` in a build with `CONFIG_HWINFO`. -/
  hwinfo : Option (Option Bytes)
  sha256 : Bytes → Except WcError Bytes
  /-- `wc_AesInit`, `wc_AesGcmSetKey` and `wc_AesGcmEncrypt`: ciphertext and tag. -/
  gcmEncrypt : (key nonce aad data : Bytes) → Except WcError (Bytes × Bytes)
  /-- `wc_AesInit`, `wc_AesGcmSetKey` and `wc_AesGcmDecrypt`. -/
  gcmDecrypt : (key nonce aad ciphertext tag : Bytes) → Except WcError Bytes

/-- The seed `wolfPSA-its-key!` of builds without `CONFIG_HWINFO`. -/
def itsFixedSeed : Bytes :=
  [0x77, 0x6f, 0x6c, 0x66, 0x50, 0x53, 0x41, 0x2d, 0x69, 0x74, 0x73, 0x2d, 0x6b, 0x65, 0x79, 0x21]

/-- A wolfCrypt call whose failures are reported as one status. -/
def reportAs {α : Type} (status : Failure) : Except WcError α → Except Failure α
  | .error _ => .error status
  | .ok value => .ok value

/-- `wolfpsa_its_derive_key`. -/
def wolfpsaItsDeriveKey (crypto : ItsCrypto) (uid : ItsUid) : Except Failure Bytes :=
  let hashed (seed : Bytes) := reportAs ⟨.genericError, failing⟩
    (crypto.sha256 (seed ++ wolfpsaItsSerializeUid uid))
  match crypto.hwinfo with
  | none => hashed itsFixedSeed
  | some none | some (some []) => .error ⟨.hardwareFailure, failing⟩
  | some (some devid) => hashed devid

/-- `wolfpsa_its_build_aad`. -/
def wolfpsaItsBuildAad (flags : Byte) (uid : ItsUid) : Bytes := flags :: wolfpsaItsSerializeUid uid

/-- The cast `(word32)`. -/
def toWord32 (n : Nat) : Nat := n % 2 ^ 32

/-- `secure_storage_its_transform_to_store` with the nonce that the generator gives; `stored` is the buffer
before the call. -/
def itsTransformToStore (crypto : ItsCrypto) (nonce : Except WcError Bytes) (uid : ItsUid) (data : Bytes)
    (createFlags : Byte) (stored : Bytes) : Except Failure Bytes := do
  let key ← wolfpsaItsDeriveKey crypto uid
  let nonce ← reportAs ⟨.insufficientEntropy, failing⟩ nonce
  let (ciphertext, tag) ← reportAs ⟨.genericError, failing⟩ (crypto.gcmEncrypt key nonce
    (wolfpsaItsBuildAad createFlags uid) (data.take (toWord32 data.length)))
  -- the tag goes behind `data_len` bytes, of which the call has written those of the ciphertext
  let region := (stored.drop (wolfpsaItsFlagsSz + wolfpsaItsNonceSz)).take data.length
  return createFlags :: nonce ++ (ciphertext ++ region.drop ciphertext.length) ++ tag

/-- What `secure_storage_its_transform_from_store` hands back; a length or flags that it has not set are
`none`. -/
structure ItsResult where
  status : Status
  data : Bytes
  dataLen : Option Nat
  createFlags : Option Byte
  deriving DecidableEq, Repr

def ItsResult.refused (status : Status) : ItsResult := ⟨status, [], none, none⟩

/-- `secure_storage_its_transform_from_store` on a record of `stored.length` bytes. -/
def itsTransformFromStore (crypto : ItsCrypto) (uid : ItsUid) (stored : Bytes) (dataSize : Nat) : ItsResult :=
  if stored.length < wolfpsaItsFlagsSz + wolfpsaItsNonceSz + wolfpsaItsTagSz then .refused .dataCorrupt
  else
    let ctLen := stored.length - wolfpsaItsFlagsSz - wolfpsaItsNonceSz - wolfpsaItsTagSz
    if ctLen > dataSize then .refused .bufferTooSmall
    else
      let flags := stored.headD 0
      let nonce := (stored.drop wolfpsaItsFlagsSz).take wolfpsaItsNonceSz
      let ct := stored.drop (wolfpsaItsFlagsSz + wolfpsaItsNonceSz)
      let tag := (ct.drop ctLen).take wolfpsaItsTagSz
      match wolfpsaItsDeriveKey crypto uid with
      | .error status => .refused status.val
      | .ok key =>
        match crypto.gcmDecrypt key nonce (wolfpsaItsBuildAad flags uid) (ct.take (toWord32 ctLen)) tag with
        | .error .authE => .refused .invalidSignature
        | .error _ => .refused .genericError
        | .ok data => ⟨.success, data, some ctLen, some flags⟩

end WolfPSA.Source
