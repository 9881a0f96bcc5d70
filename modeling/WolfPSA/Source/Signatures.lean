import WolfPSA.Source.KeyPolicy
import WolfPSA.Source.KeyImport
import WolfPSA.Source.Mac

/-!
# Signature back ends

Embedding of the sign and verify functions of `src/psa_rsa.c`, `psa_ecc.c`,
`psa_ed25519_ed448.c`, `psa_mldsa.c` and `psa_lms_xmss.c`, and of the selections they make in
`psa_asymmetric.c`. Every wolfCrypt call is a field of a record, so that a call may meet any of
its outcomes; a key object is opaque and belongs to the record that made it. Clearing and freeing
are left out. The build is that of `user_settings.h` (`HAVE_ECC`, `WC_RSA_PSS`,
`WOLFSSL_PSS_SALT_LEN_DISCOVER`, `WOLFSSL_ECDSA_DETERMINISTIC_K`, both Edwards curves, ML-DSA,
LMS and XMSS, no crypto callbacks); the curve table stays a parameter.
-/

namespace WolfPSA.Source

/-! ## Algorithms -/

def psaAlgRsaPkcs1v15SignRaw : Algorithm := psaAlgRsaPkcs1v15SignBase
def psaAlgRsaPssBase : Algorithm := 0x06000300
def psaAlgRsaPssAnySaltBase : Algorithm := 0x06001300
def psaAlgRsaPkcs1v15Crypt : Algorithm := 0x07000200
def psaAlgRsaOaepBase : Algorithm := 0x07000300
def psaAlgEcdsaAny : Algorithm := psaAlgEcdsaBase
def psaAlgShake128_256 : Algorithm := 0x02000016
def psaAlgEd25519ph : Algorithm := 0x0600090b
def psaAlgEd448ph : Algorithm := 0x06000915
def psaAlgMlDsa : Algorithm := 0x06004400
def psaAlgDeterministicMlDsa : Algorithm := 0x06004500
def psaAlgLms : Algorithm := 0x06004800
def psaAlgHss : Algorithm := 0x06004900
def psaAlgXmss : Algorithm := 0x06004a00
def psaAlgXmssMt : Algorithm := 0x06004b00

def psaAlgIsRsaPkcs1v15Sign (alg : Algorithm) : Bool := isHashFamily psaAlgRsaPkcs1v15SignBase alg
def psaAlgIsRsaPssStandardSalt (alg : Algorithm) : Bool := isHashFamily psaAlgRsaPssBase alg
def psaAlgIsRsaPssAnySalt (alg : Algorithm) : Bool := isHashFamily psaAlgRsaPssAnySaltBase alg
def psaAlgIsRsaPss (alg : Algorithm) : Bool :=
  psaAlgIsRsaPssStandardSalt alg || psaAlgIsRsaPssAnySalt alg
def psaAlgIsRsaOaep (alg : Algorithm) : Bool := isHashFamily psaAlgRsaOaepBase alg

def psaAlgIsDeterministicEcdsa (alg : Algorithm) : Bool :=
  psaAlgIsEcdsa alg && alg &&& psaAlgEcdsaDeterministicFlag != 0

def psaAlgIsMlDsa (alg : Algorithm) : Bool := alg &&& ~~~0x00000100 == 0x06004400
def psaAlgIsHedgedHashMlDsa (alg : Algorithm) : Bool := isHashFamily 0x06004600 alg
def psaAlgIsDeterministicHashMlDsa (alg : Algorithm) : Bool := isHashFamily 0x06004700 alg

def psaKeyTypeEccKeyPair (family : Byte) : KeyType :=
  psaKeyTypeEccKeyPairBase ||| family.setWidth 16
def psaKeyTypeEccPublicKey (family : Byte) : KeyType :=
  psaKeyTypeEccPublicKeyBase ||| family.setWidth 16

/-! ## Steps of a back end -/

/-- The lengths a back end narrows to `word32`. -/
def fitWord32 (lengths : List Nat) : Bool :=
  lengths.all fun n => wolfpsaCheckWord32Length n == .success

/-- The verdict `verify_res != 1`. -/
def verdict (verifyRes : Bool) : Except Failure Unit := require verifyRes .invalidSignature

@[simp] theorem verdict_ok_iff {verifyRes : Bool} {u : Unit} :
    verdict verifyRes = .ok u ↔ verifyRes = true := require_ok_iff

theorem fitWord32_iff {lengths : List Nat} :
    fitWord32 lengths = true ↔ ∀ n ∈ lengths, n ≤ uint32Max := by
  simp [fitWord32, wolfpsaCheckWord32Length]

/-! ## Hash and curve selection (`psa_asymmetric.c`) -/

/-- `wc_psa_get_hash_type`; `none` is `WC_HASH_TYPE_NONE`. -/
def wcPsaGetHashType (alg : Algorithm) : Option WcHashType :=
  let hashAlg :=
    if psaAlgIsRsaOaep alg then alg &&& psaAlgHashMask ||| psaAlgCategoryHash
    else psaAlgSignGetHash alg
  if hashAlg == psaAlgMd5 then some .md5
  else if hashAlg == psaAlgSha1 then some .sha
  else if hashAlg == psaAlgSha224 then some .sha224
  else if hashAlg == psaAlgSha256 then some .sha256
  else if hashAlg == psaAlgSha384 then some .sha384
  else if hashAlg == psaAlgSha512 then some .sha512
  else if hashAlg == psaAlgSha512_224 then some .sha512_224
  else if hashAlg == psaAlgSha512_256 then some .sha512_256
  else none

/-- The curves `wc_psa_get_ecc_curve_id` can name. -/
inductive EccCurve where
  | secp192r1 | secp224r1 | secp256r1 | secp384r1 | secp521r1
  | secp192k1 | secp224k1 | secp256k1
  | brainpoolP256r1 | brainpoolP384r1 | brainpoolP512r1
  | x25519 | x448
  deriving DecidableEq, Repr

/-- The capability flags `wc_psa_get_ecc_curve_id` honours. -/
structure EccBuild where
  haveEcc192 : Bool
  haveEcc224 : Bool
  haveEccKoblitz : Bool
  haveEccBrainpool : Bool
  haveCurve25519 : Bool
  haveCurve448 : Bool
  deriving DecidableEq, Repr

/-- `wc_psa_get_ecc_curve_id`; `none` is `ECC_CURVE_INVALID`. -/
def wcPsaGetEccCurveId (build : EccBuild) (type : KeyType) (bits : Nat) : Option EccCurve :=
  let family := if psaKeyTypeIsEcc type then psaKeyTypeEccGetFamily type else 0
  let entries : List (Byte × Nat × Bool × EccCurve) :=
    [(psaEccFamilySecpR1, 192, build.haveEcc192, .secp192r1),
     (psaEccFamilySecpR1, 224, build.haveEcc224, .secp224r1),
     (psaEccFamilySecpR1, 256, true, .secp256r1),
     (psaEccFamilySecpR1, 384, true, .secp384r1),
     (psaEccFamilySecpR1, 521, true, .secp521r1),
     (psaEccFamilySecpK1, 192, build.haveEcc192 && build.haveEccKoblitz, .secp192k1),
     (psaEccFamilySecpK1, 224, build.haveEcc224 && build.haveEccKoblitz, .secp224k1),
     (psaEccFamilySecpK1, 256, build.haveEccKoblitz, .secp256k1),
     (psaEccFamilyBrainpoolPR1, 256, build.haveEccBrainpool, .brainpoolP256r1),
     (psaEccFamilyBrainpoolPR1, 384, build.haveEccBrainpool, .brainpoolP384r1),
     (psaEccFamilyBrainpoolPR1, 512, build.haveEccBrainpool, .brainpoolP512r1),
     (psaEccFamilyMontgomery, 255, build.haveCurve25519, .x25519),
     (psaEccFamilyMontgomery, 448, build.haveCurve448, .x448)]
  (entries.find? fun entry => entry.1 == family && entry.2.1 == bits && entry.2.2.1).map
    fun entry => entry.2.2.2

/-! ## RSA (`psa_rsa.c`) -/

/-- The return codes of wolfCrypt's RSA operations that `wc_psa_rsa_status` tells apart. -/
inductive WcRsaError where
  | bufferE
  | rsaBufferE
  | badPaddingE
  | rsaPadE
  | pssSaltlenE
  | rsaOutOfRangeE
  | wc (e : WcError)
  deriving DecidableEq, Repr

/-- `wc_psa_rsa_status`. -/
def wcPsaRsaStatus (badInput : Failure) : WcRsaError → Failure
  | .wc e => wcFailure e
  | _ => badInput

/-- wolfCrypt's RSA interface. `encodeSignature` answers no bytes where it fails; a decoded or
signed value is as long as the code wolfCrypt returns. -/
structure WcRsa where
  Key : Type
  init : Except WcError Unit
  initRng : Except WcError Unit
  privateKeyDecode : Bytes → Except WcError Key
  publicKeyDecode : Bytes → Except WcError Key
  encryptSize : Key → Nat
  maxDigestSize : Nat
  alloc : Bool
  getCtcHashOid : Option WcHashType → Option Nat
  encodeSignature : Bytes → Nat → Bytes
  sslSign : Bytes → Nat → Key → Except WcRsaError Bytes
  sslVerify : Bytes → Key → Option WcHashType → Except WcRsaError Bytes
  pssSign : Bytes → Nat → Option WcHashType → Option WcHashType → Key → Except WcRsaError Bytes
  pssVerify : Bytes → Option WcHashType → Option WcHashType → Bool → Key → Except WcRsaError Bytes
  pssCheckPadding : Bytes → Bytes → Option WcHashType → Bool → Key → Bool

/-- `wc_psa_get_mgf`; `none` is `WC_MGF1NONE`. -/
def wcPsaGetMgf : Option WcHashType → Option WcHashType
  | some .sha => some .sha
  | some .sha224 => some .sha224
  | some .sha256 => some .sha256
  | some .sha384 => some .sha384
  | some .sha512 => some .sha512
  | some .sha512_224 => some .sha512_224
  | some .sha512_256 => some .sha512_256
  | _ => none

inductive RsaPadding where
  | pkcsV15 | pss | oaep | none
  deriving DecidableEq, Repr

/-- `wc_psa_get_rsa_padding`. -/
def wcPsaGetRsaPadding (alg : Algorithm) : RsaPadding :=
  if psaAlgIsRsaPkcs1v15Sign alg then .pkcsV15
  else if psaAlgIsRsaPss alg then .pss
  else if alg == psaAlgRsaPkcs1v15Crypt then .pkcsV15
  else if psaAlgIsRsaOaep alg then .oaep
  else .none

/-- `wc_psa_rsa_hash_length_ok`. -/
def wcPsaRsaHashLengthOk (alg : Algorithm) (hashLength : Nat) : Bool :=
  if alg == psaAlgRsaPkcs1v15SignRaw then true
  else
    let expected := psaHashLength (psaAlgSignGetHash alg)
    expected != 0 && hashLength == expected

/-- The `DigestInfo` both directions build for PKCS#1 v1.5 with a named hash; only signing
allocates its buffer. -/
def rsaDigestInfo (wc : WcRsa) (alloc : Bool) (alg : Algorithm) (hash : Bytes) :
    Except Failure Bytes :=
  match wc.getCtcHashOid (wcPsaGetHashType alg) with
  | none => refuse .notSupported
  | some hashOid => do
    require (hash.length ≤ wc.maxDigestSize) .invalidArgument
    require alloc .insufficientMemory
    let encoded := wc.encodeSignature hash hashOid
    require (!encoded.isEmpty) .insufficientMemory
    return encoded

/-- `psa_asymmetric_sign_rsa`. -/
def psaAsymmetricSignRsa (wc : WcRsa) (type : KeyType) (keyBuffer : Bytes) (alg : Algorithm)
    (hash : Bytes) (signature : OutBuf) : Except Failure Bytes := do
  require (type == psaKeyTypeRsaKeyPair) .invalidArgument
  require (fitWord32 [keyBuffer.length, hash.length, signature.size] &&
    wcPsaRsaHashLengthOk alg hash.length) .invalidArgument
  wcCall wc.init
  let key ← wcCall (wc.privateKeyDecode keyBuffer)
  wcCall wc.initRng
  let hashType := wcPsaGetHashType alg
  let ret ← match wcPsaGetRsaPadding alg with
    | .pkcsV15 =>
      if alg == psaAlgRsaPkcs1v15SignRaw then pure (wc.sslSign hash signature.size key)
      else do
        let sigInput ← rsaDigestInfo wc wc.alloc alg hash
        pure (wc.sslSign sigInput signature.size key)
    | .pss => pure (wc.pssSign hash signature.size hashType (wcPsaGetMgf hashType) key)
    | _ => pure (.error (.wc .badFuncArg))
  ret.mapError (wcPsaRsaStatus ⟨.invalidArgument, failing⟩)

/-- The signature check of `psa_asymmetric_verify_rsa`: the number of bytes it answers for. An
empty recovered value is not compared; the caller's length check meets it. -/
def rsaVerifyPadding (wc : WcRsa) (key : wc.Key) (alg : Algorithm) (hash signature : Bytes) :
    Except Failure (Except WcRsaError Nat) :=
  let hashType := wcPsaGetHashType alg
  match wcPsaGetRsaPadding alg with
  | .pkcsV15 =>
    if alg == psaAlgRsaPkcs1v15SignRaw then
      .ok (do
        let decoded ← wc.sslVerify signature key none
        if decoded.length > 0 ∧ decoded ≠ hash then throw (.wc .sigVerifyE)
        return decoded.length)
    else do
      let encoded ← rsaDigestInfo wc true alg hash
      pure (do
        let decoded ← wc.sslVerify signature key hashType
        if decoded.length = 0 then return 0
        if decoded ≠ encoded then throw (.wc .sigVerifyE)
        return hash.length)
  | .pss =>
    let discover := psaAlgIsRsaPssAnySalt alg
    .ok (do
      let decoded ← wc.pssVerify signature hashType (wcPsaGetMgf hashType) discover key
      if decoded.length = 0 then return 0
      if !wc.pssCheckPadding hash decoded hashType discover key then throw (.wc .sigVerifyE)
      return hash.length)
  | _ => .ok (.error (.wc .badFuncArg))

/-- `psa_asymmetric_verify_rsa`. -/
def psaAsymmetricVerifyRsa (wc : WcRsa) (type : KeyType) (keyBuffer : Bytes) (alg : Algorithm)
    (hash signature : Bytes) : Except Failure Unit := do
  require (type == psaKeyTypeRsaPublicKey || type == psaKeyTypeRsaKeyPair) .invalidArgument
  require (fitWord32 [keyBuffer.length, hash.length, signature.length] &&
    wcPsaRsaHashLengthOk alg hash.length) .invalidArgument
  wcCall wc.init
  let key ← wcCall (if type == psaKeyTypeRsaPublicKey then wc.publicKeyDecode keyBuffer
    else wc.privateKeyDecode keyBuffer)
  require (signature.length == wc.encryptSize key) .invalidSignature
  let ret ← rsaVerifyPadding wc key alg hash signature
  let verified ← ret.mapError (wcPsaRsaStatus ⟨.invalidSignature, failing⟩)
  require (verified == hash.length) .invalidSignature

/-! ## ECDSA (`psa_ecc.c`) -/

/-- wolfCrypt's ECC interface; signatures are DER inside wolfCrypt, raw at the interface. -/
structure WcEcc where
  Key : Type
  init : Except WcError Unit
  initRng : Except WcError Unit
  importPrivateKey : Bytes → EccCurve → Except WcError Key
  importX963 : Bytes → EccCurve → Except WcError Key
  makePub : Key → Except WcError Key
  setDeterministic : Key → WcHashType → Except WcError Key
  sigSize : Key → Nat
  alloc : Nat → Bool
  signHash : Bytes → Key → Except WcError Bytes
  sigToRs : Bytes → Nat → Except WcError (Bytes × Bytes)
  rsRawToSig : Bytes → Bytes → Except WcError Bytes
  verifyHash : Bytes → Bytes → Key → Except WcError Bool

def leftPad (width : Nat) (bytes : Bytes) : Bytes :=
  List.replicate (width - bytes.length) 0 ++ bytes

/-- The answer of `wc_psa_get_ecc_curve_id`, refused where it is `ECC_CURVE_INVALID`. -/
def requireCurve (build : EccBuild) (type : KeyType) (bits : Nat) : Except Failure EccCurve :=
  match wcPsaGetEccCurveId build type bits with
  | none => refuse .notSupported
  | some curve => .ok curve

/-- The key pinned to deterministic signing where the algorithm asks for it. -/
def eccSetDeterministic (wc : WcEcc) (alg : Algorithm) (key : wc.Key) : Except Failure wc.Key :=
  if psaAlgIsDeterministicEcdsa alg then
    match wcPsaGetHashType alg with
    | none => refuse .notSupported
    | some hashType => wcCall (wc.setDeterministic key hashType)
  else .ok key

/-- `psa_asymmetric_sign_ecc`. -/
def psaAsymmetricSignEcc (build : EccBuild) (wc : WcEcc) (type : KeyType) (bits : Nat)
    (keyBuffer : Bytes) (alg : Algorithm) (hash : Bytes) (signature : OutBuf) :
    Except Failure Bytes := do
  require (psaKeyTypeIsEccKeyPair type) .invalidArgument
  require (psaAlgIsEcdsa alg || psaAlgIsDeterministicEcdsa alg) .notSupported
  require (!signature.isNull) .invalidArgument
  let curve ← requireCurve build type bits
  require (fitWord32 [keyBuffer.length, hash.length]) .invalidArgument
  wcCall wc.init
  wcCall wc.initRng
  let key ← wcCall (wc.importPrivateKey keyBuffer curve)
  let keyBytes := psaBitsToBytes bits
  require (keyBytes * 2 ≤ signature.size) .bufferTooSmall
  let signer ← eccSetDeterministic wc alg key
  require (wc.alloc (wc.sigSize signer)) .insufficientMemory
  let der ← wcCall (wc.signHash hash signer)
  require (wc.alloc (keyBytes * 2)) .insufficientMemory
  let rs ← wcCall (wc.sigToRs der keyBytes)
  require (decide (rs.1.length ≤ keyBytes) && decide (rs.2.length ≤ keyBytes)) .invalidSignature
  return leftPad keyBytes rs.1 ++ leftPad keyBytes rs.2

/-- `psa_asymmetric_verify_ecc`. -/
def psaAsymmetricVerifyEcc (build : EccBuild) (wc : WcEcc) (type : KeyType) (bits : Nat)
    (keyBuffer : Bytes) (alg : Algorithm) (hash signature : Bytes) : Except Failure Unit := do
  require (psaKeyTypeIsEccPublicKey type || psaKeyTypeIsEccKeyPair type) .invalidArgument
  require (psaAlgIsEcdsa alg || psaAlgIsDeterministicEcdsa alg) .notSupported
  let curve ← requireCurve build type bits
  require (fitWord32 [keyBuffer.length, hash.length]) .invalidArgument
  wcCall wc.init
  let key ← wcCall (if psaKeyTypeIsEccPublicKey type then wc.importX963 keyBuffer curve
    else wc.importPrivateKey keyBuffer curve >>= wc.makePub)
  let keyBytes := psaBitsToBytes bits
  require (signature.length == keyBytes * 2) .invalidSignature
  require (wc.alloc (wc.sigSize key)) .insufficientMemory
  let der ← (wc.rsRawToSig (signature.take keyBytes) (signature.drop keyBytes)).mapError
    fun _ => (⟨.invalidSignature, failing⟩ : Failure)
  let verifyRes ← wcCall (wc.verifyHash der hash key)
  verdict verifyRes

/-! ## EdDSA (`psa_ed25519_ed448.c`) -/

/-- wolfCrypt's interface to one Edwards curve. The flag of `signMsg` and `verifyMsg` selects
Ed25519ctx; Ed448 has no such variant. -/
structure WcEd where
  Key : Type
  init : Except WcError Unit
  importPrivateOnly : Bytes → Except WcError Key
  makePublic : Key → Except WcError Key
  importPublic : Bytes → Except WcError Key
  phSignHash : Bytes → Nat → Key → InBuf → Except WcError Bytes
  signMsg : Bytes → Nat → Key → Bool → InBuf → Except WcError Bytes
  phVerifyHash : Bytes → Bytes → Key → InBuf → Except WcError Bool
  verifyMsg : Bytes → Bytes → Key → Bool → InBuf → Except WcError Bool

/-- What the two Edwards back ends differ in: the key size, the prehash algorithm and whether
`PSA_ALG_EDDSA_CTX` is a variant of its own. -/
structure EdCurve where
  bits : Nat
  ph : Algorithm
  ctxVariant : Bool

def ed25519 : EdCurve := ⟨255, psaAlgEd25519ph, true⟩
def ed448 : EdCurve := ⟨448, psaAlgEd448ph, false⟩

/-- The context pointer handed to wolfCrypt: NULL for an empty context. -/
def contextArgument (context : InBuf) : InBuf :=
  if context.length == 0 then .null 0 else context

/-- The checks of the four EdDSA functions before wolfCrypt is called. Ed448 refuses the context
of `PSA_ALG_PURE_EDDSA` last, with the same status. -/
def edCheck (curve : EdCurve) (typeOk : Bool) (bits : Nat) (alg : Algorithm) (lengths : List Nat)
    (hashLength contextLength : Nat) : Except Failure Unit := do
  require (alg == psaAlgPureEddsa || alg == psaAlgEddsaCtx || alg == curve.ph) .notSupported
  require (alg != psaAlgPureEddsa || contextLength == 0) .invalidArgument
  require (contextLength ≤ 255) .invalidArgument
  require (typeOk && bits == curve.bits) .invalidArgument
  require (fitWord32 lengths) .invalidArgument
  require (alg != curve.ph || hashLength == 64) .invalidArgument

/-- `psa_asymmetric_sign_ed25519` and `psa_asymmetric_sign_ed448`. -/
def signEddsa (curve : EdCurve) (wc : WcEd) (type : KeyType) (bits : Nat) (keyBuffer : Bytes)
    (alg : Algorithm) (hash : Bytes) (signature : OutBuf) (context : InBuf) :
    Except Failure Bytes := do
  edCheck curve (type == psaKeyTypeEccKeyPair psaEccFamilyTwistedEdwards) bits alg
    [keyBuffer.length, hash.length, signature.size] hash.length context.length
  wcCall wc.init
  let key ← wcCall (wc.importPrivateOnly keyBuffer >>= wc.makePublic)
  if alg == curve.ph then
    wcCall (wc.phSignHash hash signature.size key (contextArgument context))
  else
    wcCall (wc.signMsg hash signature.size key (curve.ctxVariant && alg == psaAlgEddsaCtx)
      (contextArgument context))

/-- `psa_asymmetric_verify_ed25519` and `psa_asymmetric_verify_ed448`. -/
def verifyEddsa (curve : EdCurve) (wc : WcEd) (type : KeyType) (bits : Nat) (keyBuffer : Bytes)
    (alg : Algorithm) (hash signature : Bytes) (context : InBuf) : Except Failure Unit := do
  edCheck curve (type == psaKeyTypeEccKeyPair psaEccFamilyTwistedEdwards ||
      type == psaKeyTypeEccPublicKey psaEccFamilyTwistedEdwards) bits alg
    [keyBuffer.length, hash.length, signature.length] hash.length context.length
  wcCall wc.init
  let key ← wcCall (if type == psaKeyTypeEccKeyPair psaEccFamilyTwistedEdwards then
      wc.importPrivateOnly keyBuffer >>= wc.makePublic
    else wc.importPublic keyBuffer)
  let verifyRes ← wcCall (
    if alg == curve.ph then wc.phVerifyHash signature hash key (contextArgument context)
    else wc.verifyMsg signature hash key (curve.ctxVariant && alg == psaAlgEddsaCtx)
      (contextArgument context))
  verdict verifyRes

/-! ## ML-DSA (`psa_mldsa.c`) -/

inductive MlDsaLevel where
  | mlDsa44 | mlDsa65 | mlDsa87
  deriving DecidableEq, Repr

/-- `mldsa_bits_to_level`. -/
def mldsaBitsToLevel (bits : Nat) : Option MlDsaLevel :=
  if bits == 128 then some .mlDsa44
  else if bits == 192 then some .mlDsa65
  else if bits == 256 then some .mlDsa87
  else none

/-- The `wc_HashType` values of HashML-DSA. -/
inductive MlDsaHash where
  | sha256 | sha384 | sha512 | sha3_256 | sha3_384 | sha3_512 | shake128 | shake256
  deriving DecidableEq, Repr

/-- `mldsa_psa_hash_to_wc`; `none` is `WC_HASH_TYPE_NONE`. -/
def mldsaPsaHashToWc (hashAlg : Algorithm) : Option MlDsaHash :=
  if hashAlg == psaAlgSha256 then some .sha256
  else if hashAlg == psaAlgSha384 then some .sha384
  else if hashAlg == psaAlgSha512 then some .sha512
  else if hashAlg == psaAlgSha3_256 then some .sha3_256
  else if hashAlg == psaAlgSha3_384 then some .sha3_384
  else if hashAlg == psaAlgSha3_512 then some .sha3_512
  else if hashAlg == psaAlgShake128_256 then some .shake128
  else if hashAlg == psaAlgShake256_512 then some .shake256
  else none

/-- wolfCrypt's ML-DSA interface. The seeded calls take the 32 zero bytes of FIPS 204. -/
structure WcMlDsa where
  Key : Type
  init : Except WcError Key
  setParams : Key → MlDsaLevel → Except WcError Key
  makeKeyFromSeed : Key → Bytes → Except WcError Key
  importPubRaw : Key → Bytes → Except WcError Key
  sigSize : Key → Except WcError Nat
  initRng : Except WcError Unit
  signCtx : Key → InBuf → Nat → Bytes → Except WcError Bytes
  signCtxWithSeed : Key → InBuf → Nat → Bytes → Except WcError Bytes
  signCtxHash : Key → InBuf → Nat → Bytes → MlDsaHash → Except WcError Bytes
  signCtxHashWithSeed : Key → InBuf → Nat → Bytes → MlDsaHash → Except WcError Bytes
  verifyCtx : Key → Bytes → InBuf → Bytes → Except WcError Bool
  verifyCtxHash : Key → Bytes → InBuf → Bytes → MlDsaHash → Except WcError Bool

def wolfpsaMldsaSeedSize : Nat := 32

/-- `mldsa_key_init`. -/
def mldsaKeyInit (wc : WcMlDsa) (bits : Nat) : Except Failure wc.Key :=
  match mldsaBitsToLevel bits with
  | none => refuse .notSupported
  | some level => wcCall (wc.init >>= fun key => wc.setParams key level)

/-- The hash handed to wolfCrypt for a HashML-DSA algorithm. -/
def mldsaHash (alg : Algorithm) : Except Failure MlDsaHash :=
  match mldsaPsaHashToWc (psaAlgGetHash alg) with
  | none => refuse .notSupported
  | some hash => .ok hash

/-- `wolfpsa_mldsa_sign`. -/
def wolfpsaMldsaSign (wc : WcMlDsa) (bits : Nat) (keyData : Bytes) (alg : Algorithm)
    (context : InBuf) (input : Bytes) (inputIsHash : Bool) (signature : OutBuf) :
    Except Failure Bytes := do
  require (keyData.length == wolfpsaMldsaSeedSize) .invalidArgument
  require (context.length ≤ 255) .invalidArgument
  require (fitWord32 [input.length, signature.size]) .invalidArgument
  let fresh ← mldsaKeyInit wc bits
  let key ← wcCall (wc.makeKeyFromSeed fresh keyData)
  let sigSize ← wcCall (wc.sigSize key)
  require (sigSize ≤ signature.size) .bufferTooSmall
  let ctx := contextArgument context
  if !inputIsHash then
    if alg == psaAlgMlDsa then do
      wcCall wc.initRng
      wcCall (wc.signCtx key ctx signature.size input)
    else if alg == psaAlgDeterministicMlDsa then
      wcCall (wc.signCtxWithSeed key ctx signature.size input)
    else if psaAlgIsHashMlDsa alg || psaAlgIsDeterministicHashMlDsa alg then
      refuse .invalidArgument
    else refuse .notSupported
  else
    if psaAlgIsHedgedHashMlDsa alg then do
      let hash ← mldsaHash alg
      wcCall wc.initRng
      wcCall (wc.signCtxHash key ctx signature.size input hash)
    else if psaAlgIsDeterministicHashMlDsa alg then do
      let hash ← mldsaHash alg
      wcCall (wc.signCtxHashWithSeed key ctx signature.size input hash)
    else refuse .invalidArgument

/-- The key of `wolfpsa_mldsa_verify`: a seed is expanded, a public key imported. -/
def mldsaVerifyKey (wc : WcMlDsa) (type : KeyType) (fresh : wc.Key) (keyData : Bytes) :
    Except Failure wc.Key :=
  if type == psaKeyTypeMlDsaKeyPair then do
    require (keyData.length == wolfpsaMldsaSeedSize) .invalidArgument
    wcCall (wc.makeKeyFromSeed fresh keyData)
  else if type == psaKeyTypeMlDsaPublicKey then wcCall (wc.importPubRaw fresh keyData)
  else refuse .invalidArgument

/-- `wolfpsa_mldsa_verify`. -/
def wolfpsaMldsaVerify (wc : WcMlDsa) (bits : Nat) (type : KeyType) (keyData : Bytes)
    (alg : Algorithm) (context : InBuf) (input : Bytes) (inputIsHash : Bool) (signature : Bytes) :
    Except Failure Unit := do
  require (context.length ≤ 255) .invalidArgument
  require (fitWord32 [keyData.length, input.length, signature.length]) .invalidArgument
  let fresh ← mldsaKeyInit wc bits
  let key ← mldsaVerifyKey wc type fresh keyData
  let ctx := contextArgument context
  if !inputIsHash then
    if alg == psaAlgMlDsa || alg == psaAlgDeterministicMlDsa then do
      let verifyRes ← wcCall (wc.verifyCtx key signature ctx input)
      verdict verifyRes
    else if psaAlgIsHashMlDsa alg || psaAlgIsDeterministicHashMlDsa alg then
      refuse .invalidArgument
    else refuse .notSupported
  else
    if psaAlgIsHashMlDsa alg || psaAlgIsDeterministicHashMlDsa alg then do
      let hash ← mldsaHash alg
      let verifyRes ← wcCall (wc.verifyCtxHash key signature ctx input hash)
      verdict verifyRes
    else refuse .invalidArgument

/-! ## LMS and XMSS (`psa_lms_xmss.c`) -/

/-- The return codes of the hash-based verifications: -1 stands for a bad signature as
`SIG_VERIFY_E` does. -/
inductive WcHbsError where
  | minusOne
  | wc (e : WcError)
  deriving DecidableEq, Repr

/-- The status of a hash-based verification. -/
def hbsStatus : WcHbsError → Failure
  | .minusOne => ⟨.invalidSignature, failing⟩
  | .wc e => wcFailure e

/-- The conversion `(int)` of a `size_t` that fits a `word32`. -/
def toCInt (n : Nat) : Int := if n ≤ intMax then n else (n : Int) - 2 ^ 32

structure WcLms where
  Key : Type
  init : Except WcError Unit
  importPubRaw : Bytes → Except WcError Key
  verify : Key → Bytes → Bytes → Int → Except WcHbsError Unit

/-- `wolfpsa_lms_verify`. -/
def wolfpsaLmsVerify (wc : WcLms) (pub msg sig : Bytes) : Except Failure Unit := do
  require (fitWord32 [pub.length, msg.length, sig.length]) .invalidArgument
  wcCall wc.init
  let key ← wcCall (wc.importPubRaw pub)
  (wc.verify key sig msg (toCInt msg.length)).mapError hbsStatus

/-- wolfCrypt's XMSS interface. The flag of `importPubRaw` is `is_xmssmt`; `init` is indexed by
the pass that makes the call. -/
structure WcXmss where
  Key : Type
  init : Bool → Except WcError Unit
  importPubRaw : Bytes → Bool → Except WcError Key
  verify : Key → Bytes → Bytes → Int → Except WcHbsError Unit

/-- The passes left of the loop over `is_xmssmt` in `wolfpsa_xmss_verify`. An import that fails
with `NOT_COMPILED_IN` or `BUFFER_E` is taken as an OID outside this family's table. -/
def xmssImport (wc : WcXmss) (pub : Bytes) : List Bool → Except Failure wc.Key
  | [] => refuse .invalidArgument
  | isXmssmt :: rest => do
    wcCall (wc.init isXmssmt)
    match wc.importPubRaw pub isXmssmt with
    | .error .notCompiledIn => xmssImport wc pub rest
    | .error .bufferE => xmssImport wc pub rest
    | .error e => .error (wcFailure e)
    | .ok key => .ok key

/-- `wolfpsa_xmss_verify`. -/
def wolfpsaXmssVerify (wc : WcXmss) (pub msg sig : Bytes) : Except Failure Unit := do
  require (fitWord32 [pub.length, msg.length, sig.length]) .invalidArgument
  let key ← xmssImport wc pub [false, true]
  (wc.verify key sig msg (toCInt msg.length)).mapError hbsStatus

end WolfPSA.Source
