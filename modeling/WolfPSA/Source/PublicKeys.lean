import WolfPSA.Source.Kem
import WolfPSA.Source.KeyAgreement
import WolfPSA.Source.RsaExport

/-!
# The back ends of the public key export

What `psa_export_public_key` computes for a key pair: the RSA branch of `psa_key_storage.c:2205-2279`
and the exporters of `psa_ecc.c`, `psa_ed25519_ed448.c`, `psa_montgomery.c`, `psa_mldsa.c` and
`psa_mlkem.c`. The build has every back end; wolfCrypt's key objects are opaque. An exporter answers
the bytes that its output length counts.
-/

namespace WolfPSA.Source

/-! ## RSA -/

/-- `psa_wc_error_to_psa_status` of `psa_key_storage.c`, which tells fewer codes apart. -/
def psaWcErrorToPsaStatus : WcError → Status
  | .badFuncArg => .invalidArgument
  | .bufferE => .bufferTooSmall
  | .memoryE => .insufficientMemory
  | .notCompiledIn => .notSupported
  | .badStateE => .badState
  | _ => .genericError

theorem psaWcErrorToPsaStatus_ne_success (e : WcError) : psaWcErrorToPsaStatus e ≠ .success := by
  cases e <;> simp [psaWcErrorToPsaStatus]

/-- A wolfCrypt call whose failure is reported through `psa_wc_error_to_psa_status`. -/
def storageWcCall {α : Type} (ret : Except WcError α) : Except Failure α :=
  ret.mapError fun e => ⟨psaWcErrorToPsaStatus e, psaWcErrorToPsaStatus_ne_success e⟩

/-- wolfCrypt's RSA as the export uses it. `flattenPublicKey` gets the room for each of the two
integers and answers modulus and exponent. -/
structure WcRsaPublic where
  Key : Type
  newRsaKey : Except WcError Unit
  privateKeyDecode : Bytes → Except WcError Key
  encryptSize : Key → Nat
  alloc : Nat → Bool
  flattenPublicKey : Key → Nat → Except WcError (Bytes × Bytes)

/-- The RSA key pair branch of `psa_export_public_key`. -/
def exportPublicKeyRsa (wc : WcRsaPublic) (keyData : Bytes) (dataSize : Nat) :
    Except Failure Bytes := do
  storageWcCall wc.newRsaKey
  let rsa ← storageWcCall (wc.privateKeyDecode (keyData.take (toWord32 keyData.length)))
  let size := wc.encryptSize rsa
  require (wc.alloc size) .insufficientMemory
  let (n, e) ← storageWcCall (wc.flattenPublicKey rsa size)
  let written ← rsaPublicKeyExport n e (List.replicate dataSize 0)
  return written.buffer.take written.dataLength

/-! ## Elliptic curves -/

/-- The return codes of `wc_ecc_export_x963`. -/
inductive X963Error where
  | lengthOnlyE
  | wc (e : WcError)

/-- A length-only answer is a buffer that is too small. -/
def X963Error.failure : X963Error → Failure
  | .lengthOnlyE => wcFailure .bufferE
  | .wc e => wcFailure e

structure WcEccPublic where
  Key : Type
  init : Except WcError Unit
  importPrivateKey : Bytes → EccCurve → Except WcError Key
  makePub : Key → Except WcError Key
  importX963 : Bytes → EccCurve → Except WcError Key
  exportX963 : Key → Nat → Except X963Error Bytes

/-- `psa_asymmetric_export_public_key_ecc`. -/
def psaAsymmetricExportPublicKeyEcc (build : EccBuild) (wc : WcEccPublic) (type : KeyType)
    (bits : Nat) (keyBuffer : Bytes) (outputSize : Nat) : Except Failure Bytes := do
  require (psaKeyTypeIsEccKeyPair type || psaKeyTypeIsEccPublicKey type) .invalidArgument
  let curve ← requireCurve build type bits
  require (fitWord32 [keyBuffer.length, outputSize]) .invalidArgument
  wcCall wc.init
  let ecc ← wcCall (if psaKeyTypeIsEccKeyPair type then
      wc.importPrivateKey keyBuffer curve >>= wc.makePub
    else wc.importX963 keyBuffer curve)
  (wc.exportX963 ecc outputSize).mapError X963Error.failure

structure WcEdPublic where
  Key : Type
  init : Except WcError Unit
  importPrivateOnly : Bytes → Except WcError Key
  makePublic : Key → Except WcError Key
  importPublic : Bytes → Except WcError Key
  exportPublic : Key → Nat → Except WcError Bytes

def ed25519PubKeySize : Nat := 32
def ed448PubKeySize : Nat := 57

/-- The body of `psa_asymmetric_export_public_key_ed25519` and
`psa_asymmetric_export_public_key_ed448`, which differ in the curve and in the length of its key. -/
def edwardsExportPublicKey (curve : EdCurve) (pubKeySize : Nat) (wc : WcEdPublic) (type : KeyType)
    (bits : Nat) (keyBuffer : Bytes) (outputSize : Nat) : Except Failure Bytes := do
  require ((type == psaKeyTypeEccKeyPair psaEccFamilyTwistedEdwards ||
    type == psaKeyTypeEccPublicKey psaEccFamilyTwistedEdwards) && bits == curve.bits) .invalidArgument
  require (fitWord32 [keyBuffer.length, outputSize]) .invalidArgument
  require (pubKeySize ≤ outputSize) .bufferTooSmall
  wcCall wc.init
  let edKey ← wcCall (if type == psaKeyTypeEccKeyPair psaEccFamilyTwistedEdwards then
      wc.importPrivateOnly keyBuffer >>= wc.makePublic
    else wc.importPublic keyBuffer)
  wcCall (wc.exportPublic edKey outputSize)

def psaAsymmetricExportPublicKeyEd25519 := edwardsExportPublicKey ed25519 ed25519PubKeySize
def psaAsymmetricExportPublicKeyEd448 := edwardsExportPublicKey ed448 ed448PubKeySize

/-- wolfCrypt's X25519 or X448; `exportPublic` fills a buffer of the key size. -/
structure WcMontgomeryPublic where
  Key : Type
  init : Except WcError Unit
  importPrivate : Bytes → Except WcError Key
  setRng : Key → Except WcError Key
  exportPublic : Key → Except WcError Bytes

/-- The body of `psa_asymmetric_export_public_key_x25519` and
`psa_asymmetric_export_public_key_x448`. Only the blinding of X25519 needs a generator. -/
def montgomeryExportPublicKey (expectedBits keySize : Nat) (blinded : Bool) (wc : WcMontgomeryPublic)
    (type : KeyType) (bits : Nat) (keyBuffer : Bytes) (outputSize : Nat) : Except Failure Bytes := do
  require ((type == psaKeyTypeEccKeyPair psaEccFamilyMontgomery ||
    type == psaKeyTypeEccPublicKey psaEccFamilyMontgomery) && bits == expectedBits) .invalidArgument
  require (keySize ≤ outputSize) .bufferTooSmall
  require (keyBuffer.length == keySize) .invalidArgument
  if type == psaKeyTypeEccKeyPair psaEccFamilyMontgomery then do
    wcCall wc.init
    let key ← wcCall (wc.importPrivate keyBuffer)
    let ready ← wcCall (if blinded then wc.setRng key else .ok key)
    wcCall (wc.exportPublic ready)
  else return keyBuffer

def psaAsymmetricExportPublicKeyX25519 := montgomeryExportPublicKey 255 curve25519KeySize true
def psaAsymmetricExportPublicKeyX448 := montgomeryExportPublicKey 448 curve448KeySize false

/-! ## ML-DSA -/

/-- wolfCrypt's ML-DSA with the calls of the export. -/
structure WcMlDsaPublic extends WcMlDsa where
  pubSize : Key → Except WcError Nat
  exportPubRaw : Key → Nat → Except WcError Bytes

/-- `wolfpsa_mldsa_export_public`. -/
def wolfpsaMldsaExportPublic (wc : WcMlDsaPublic) (bits : Nat) (seed : Bytes) (outSize : Nat) :
    Except Failure Bytes := do
  require (fitWord32 [outSize]) .invalidArgument
  let fresh ← mldsaKeyInit wc.toWcMlDsa bits
  let key ← wcCall (wc.makeKeyFromSeed fresh (seed.take wolfpsaMldsaSeedSize))
  let pubSize ← wcCall (wc.pubSize key)
  require (pubSize ≤ outSize) .bufferTooSmall
  wcCall (wc.exportPubRaw key outSize)

/-! ## The dispatch -/

/-- wolfCrypt as the exports use it. -/
structure WcPublic where
  build : EccBuild
  rsa : WcRsaPublic
  ecc : WcEccPublic
  ed25519 : WcEdPublic
  ed448 : WcEdPublic
  x25519 : WcMontgomeryPublic
  x448 : WcMontgomeryPublic
  mldsa : WcMlDsaPublic
  mlkem : WcMlKem

/-- The dispatch of `psa_export_public_key` on the type of a key pair. -/
def publicKeyOf (wc : WcPublic) : PublicKeyOf := fun type bits data dataSize =>
  if psaKeyTypeIsRsa type then exportPublicKeyRsa wc.rsa data dataSize
  else if psaKeyTypeIsEcc type then
    if psaKeyTypeEccGetFamily type = psaEccFamilyTwistedEdwards then
      if bits.toNat = 255 then
        psaAsymmetricExportPublicKeyEd25519 wc.ed25519 type bits.toNat data dataSize
      else if bits.toNat = 448 then
        psaAsymmetricExportPublicKeyEd448 wc.ed448 type bits.toNat data dataSize
      else refuse .notSupported
    else if psaKeyTypeEccGetFamily type = psaEccFamilyMontgomery then
      if bits.toNat = 255 then
        psaAsymmetricExportPublicKeyX25519 wc.x25519 type bits.toNat data dataSize
      else if bits.toNat = 448 then
        psaAsymmetricExportPublicKeyX448 wc.x448 type bits.toNat data dataSize
      else refuse .notSupported
    else psaAsymmetricExportPublicKeyEcc wc.build wc.ecc type bits.toNat data dataSize
  else if psaKeyTypeIsMlDsa type then wolfpsaMldsaExportPublic wc.mldsa bits.toNat data dataSize
  else if psaKeyTypeIsMlKem type then wolfpsaMlkemExportPublic wc.mlkem bits.toNat data dataSize
  else refuse .notSupported

end WolfPSA.Source
