import WolfPSA.Source.ItsTransform
import WolfPSA.Source.KeyMap
import WolfPSA.Source.Signatures

/-!
# Key encapsulation

`src/psa_kem.c` and the ML-KEM calls of `src/psa_mlkem.c` behind it: a shared secret becomes a key of
the store on both sides. wolfCrypt's ML-KEM is a parameter, and so is the generator that
`wc_InitRng_ex` sets up. NULL pointers are left out.
-/

namespace WolfPSA.Source
open Lib Prog

def psaAlgMlKem : Algorithm := 0x0c000200
def psaAlgIsKeyEncapsulation (alg : Algorithm) : Bool := alg &&& 0x7f000000 == 0x0c000000

/-- `PSA_ENCAPSULATE_CIPHERTEXT_SIZE`. -/
def psaEncapsulateCiphertextSize (type : KeyType) (bits : Nat) (alg : Algorithm) : Nat :=
  if psaKeyTypeIsMlKem type && alg == psaAlgMlKem then
    if bits = 512 then 768 else if bits = 768 then 1088 else if bits = 1024 then 1568 else 0
  else 0

def psaEncapsulateCiphertextMaxSize : Nat := 1568
def wolfpsaMlkemSeedSize : Nat := 64
def wolfpsaMlkemSsSize : Nat := 32

/-! ## ML-KEM (`psa_mlkem.c`) -/

/-- The parameter sets of wolfCrypt. -/
inductive MlKemType where
  | mlKem512 | mlKem768 | mlKem1024
  deriving DecidableEq, Repr

/-- `mlkem_bits_to_type`. -/
def mlkemBitsToType (bits : Nat) : Option MlKemType :=
  if bits = 512 then some .mlKem512
  else if bits = 768 then some .mlKem768
  else if bits = 1024 then some .mlKem1024
  else none

/-- wolfCrypt's ML-KEM interface. `encapsulate` answers the ciphertext and the shared secret. -/
structure WcMlKem where
  Key : Type
  Rng : Type
  init : MlKemType → Except WcError Key
  makeKeyWithRandom : Key → Bytes → Except WcError Key
  publicKeySize : Key → Except WcError Nat
  encodePublicKey : Key → Nat → Except WcError Bytes
  decodePublicKey : Key → Bytes → Except WcError Key
  cipherTextSize : Key → Except WcError Nat
  encapsulate : Key → Rng → Except WcError (Bytes × Bytes)
  decapsulate : Key → Bytes → Except WcError Bytes

/-- A fresh key object of the parameter set. -/
def mlkemKeyInit (wc : WcMlKem) (bits : Nat) : Except Failure wc.Key :=
  match mlkemBitsToType bits with
  | none => refuse .notSupported
  | some type => wcCall (wc.init type)

/-- `wolfpsa_mlkem_export_public`. -/
def wolfpsaMlkemExportPublic (wc : WcMlKem) (bits : Nat) (seed : Bytes) (outSize : Nat) :
    Except Failure Bytes := do
  let fresh ← mlkemKeyInit wc bits
  let key ← wcCall (wc.makeKeyWithRandom fresh (seed.take wolfpsaMlkemSeedSize))
  let pubSz ← wcCall (wc.publicKeySize key)
  require (pubSz ≤ outSize) .bufferTooSmall
  wcCall (wc.encodePublicKey key pubSz)

/-- The key that `wolfpsa_mlkem_encapsulate` works with: a public key or an expanded seed. -/
def mlkemEncapsulationKey (wc : WcMlKem) (type : KeyType) (fresh : wc.Key) (keyData : Bytes) :
    Except Failure wc.Key :=
  if type = psaKeyTypeMlKemPublicKey then do
    let pubSz ← wcCall (wc.publicKeySize fresh)
    require (keyData.length == pubSz) .invalidArgument
    require (fitWord32 [keyData.length]) .invalidArgument
    wcCall (wc.decodePublicKey fresh keyData)
  else if type = psaKeyTypeMlKemKeyPair then do
    require (keyData.length == wolfpsaMlkemSeedSize) .invalidArgument
    wcCall (wc.makeKeyWithRandom fresh keyData)
  else refuse .invalidArgument

/-- `wolfpsa_mlkem_encapsulate` into a buffer of `ciphertextSize` bytes. -/
def wolfpsaMlkemEncapsulate (wc : WcMlKem) (rng : Except WcError wc.Rng) (bits : Nat)
    (type : KeyType) (keyData : Bytes) (ciphertextSize : Nat) : Except Failure (Bytes × Bytes) := do
  let fresh ← mlkemKeyInit wc bits
  let key ← mlkemEncapsulationKey wc type fresh keyData
  let ctSz ← wcCall (wc.cipherTextSize key)
  require (ctSz ≤ ciphertextSize) .bufferTooSmall
  let rng ← wcCall rng
  wcCall (wc.encapsulate key rng)

/-- `wolfpsa_mlkem_decapsulate`. -/
def wolfpsaMlkemDecapsulate (wc : WcMlKem) (bits : Nat) (seed ciphertext : Bytes) :
    Except Failure Bytes :=
  match mlkemBitsToType bits with
  | none => refuse .notSupported
  | some type => do
    require (fitWord32 [ciphertext.length]) .invalidArgument
    let fresh ← wcCall (wc.init type)
    let key ← wcCall (wc.makeKeyWithRandom fresh (seed.take wolfpsaMlkemSeedSize))
    let ctSz ← wcCall (wc.cipherTextSize key)
    require (toWord32 ciphertext.length == ctSz) .invalidArgument
    wcCall (wc.decapsulate key (ciphertext.take (toWord32 ciphertext.length)))

/-! ## The calls (`psa_kem.c`) -/

/-- `wolfpsa_kem_check_alg`. -/
def wolfpsaKemCheckAlg (alg : Algorithm) : Except Failure Unit :=
  if alg = psaAlgMlKem then .ok ()
  else if psaAlgIsKeyEncapsulation alg then refuse .notSupported
  else refuse .invalidArgument

/-- `wolfpsa_kem_check_output_attributes`. -/
def wolfpsaKemCheckOutputAttributes (attributes : KeyAttributes) : Except Failure Unit := do
  require (psaKeyTypeIsUnstructured attributes.type) .invalidArgument
  require (attributes.bits == 0 || attributes.bits.toNat == wolfpsaMlkemSsSize * 8) .invalidArgument

/-- The checks before a KEM key is loaded. -/
def kemRequest (alg : Algorithm) (attributes : KeyAttributes) : Except Failure Unit := do
  wolfpsaKemCheckAlg alg
  wolfpsaKemCheckOutputAttributes attributes

/-- The type and policy checks on the key of a KEM call. -/
def kemKeyPermitted (types : List KeyType) (usage : KeyUsage) (alg : Algorithm)
    (keyAttr : KeyAttributes) : Except Failure Unit := do
  require (types.contains keyAttr.type) .invalidArgument
  require (keyAttr.usage &&& usage != 0) .notPermitted
  require (wolfpsaKeyPermitsAlg keyAttr alg) .notPermitted

/-- `psa_encapsulate` between the look-up and the import: ciphertext and shared secret. -/
def encapsulateWith (wc : WcMlKem) (rng : Except WcError wc.Rng) (alg : Algorithm)
    (ciphertextSize : Nat) (keyAttr : KeyAttributes) (keyData : Bytes) :
    Except Failure (Bytes × Bytes) := do
  kemKeyPermitted [psaKeyTypeMlKemKeyPair, psaKeyTypeMlKemPublicKey] psaKeyUsageEncrypt alg keyAttr
  require (psaEncapsulateCiphertextSize keyAttr.type keyAttr.bits.toNat alg ≤ ciphertextSize)
    .bufferTooSmall
  wolfpsaMlkemEncapsulate wc rng keyAttr.bits.toNat keyAttr.type keyData
    psaEncapsulateCiphertextMaxSize

/-- `psa_decapsulate` between the look-up and the import: the shared secret. -/
def decapsulateWith (wc : WcMlKem) (alg : Algorithm) (ciphertext : Bytes) (keyAttr : KeyAttributes)
    (keyData : Bytes) : Except Failure Bytes := do
  kemKeyPermitted [psaKeyTypeMlKemKeyPair] psaKeyUsageDecrypt alg keyAttr
  require (keyData.length == wolfpsaMlkemSeedSize) .invalidArgument
  wolfpsaMlkemDecapsulate wc keyAttr.bits.toNat keyData ciphertext

/-- The import of the shared secret; a refusal gives the null key. -/
def importSecret (cfg : ImportConfig) (attributes : KeyAttributes) (secret : Bytes) :
    KeyProg (Status × KeyId) := do
  let imported ← psaImportKey cfg attributes secret
  if imported.1 ≠ .success then pure (imported.1, psaKeyIdNull) else pure imported

/-- What `psa_encapsulate` leaves in its outputs. -/
structure Encapsulation where
  status : Status
  outputKey : KeyId
  ciphertext : Bytes
  deriving DecidableEq, Repr

/-- `psa_encapsulate`. The ciphertext reaches the caller only behind the import. -/
def psaEncapsulate (cfg : ImportConfig) (wc : WcMlKem) (rng : Except WcError wc.Rng) (key : KeyId)
    (alg : Algorithm) (attributes : KeyAttributes) (ciphertextSize : Nat) :
    KeyProg Encapsulation :=
  match kemRequest alg attributes with
  | .error status => pure ⟨status.val, psaKeyIdNull, []⟩
  | .ok () => do
    match ← wolfpsaGetKeyData key with
    | .error status => pure ⟨status.val, psaKeyIdNull, []⟩
    | .ok (keyAttr, keyData) =>
      match encapsulateWith wc rng alg ciphertextSize keyAttr keyData with
      | .error status => pure ⟨status.val, psaKeyIdNull, []⟩
      | .ok (ciphertext, ss) =>
        let imported ← importSecret cfg attributes ss
        pure ⟨imported.1, imported.2, if imported.1 ≠ .success then [] else ciphertext⟩

/-- `psa_decapsulate`. -/
def psaDecapsulate (cfg : ImportConfig) (wc : WcMlKem) (key : KeyId) (alg : Algorithm)
    (ciphertext : Bytes) (attributes : KeyAttributes) : KeyProg (Status × KeyId) :=
  match kemRequest alg attributes with
  | .error status => pure (status.val, psaKeyIdNull)
  | .ok () => do
    match ← wolfpsaGetKeyData key with
    | .error status => pure (status.val, psaKeyIdNull)
    | .ok (keyAttr, keyData) =>
      match decapsulateWith wc alg ciphertext keyAttr keyData with
      | .error status => pure (status.val, psaKeyIdNull)
      | .ok ss => importSecret cfg attributes ss

end WolfPSA.Source
