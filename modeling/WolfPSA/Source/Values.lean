import Mathlib

/-!
# Encoded values of the PSA interface

Identifiers, algorithms, key types, usage flags and status codes as
`wolfpsa/psa/crypto_values.h`, `crypto_types.h` and `crypto_sizes.h` encode them. An encoded
value is a fixed-width bit vector, as in the C typedefs; a macro is a function on it. The status
of a call is an enumeration: the library compares status codes and never computes with them.
-/

namespace WolfPSA.Source

abbrev Byte := BitVec 8
abbrev Bytes := List Byte

/-- `psa_algorithm_t`. -/
abbrev Algorithm := BitVec 32
/-- `psa_key_type_t`. -/
abbrev KeyType := BitVec 16
/-- `psa_key_usage_t`. -/
abbrev KeyUsage := BitVec 32
/-- `psa_key_id_t`. -/
abbrev KeyId := BitVec 32
/-- `psa_key_lifetime_t`. -/
abbrev Lifetime := BitVec 32

/-- `psa_status_t`, with the codes the library returns. -/
inductive Status where
  | success
  | genericError
  | notPermitted
  | notSupported
  | invalidArgument
  | invalidHandle
  | badState
  | bufferTooSmall
  | alreadyExists
  | doesNotExist
  | insufficientMemory
  | insufficientStorage
  | insufficientData
  | communicationFailure
  | storageFailure
  | hardwareFailure
  | insufficientEntropy
  | invalidSignature
  | invalidPadding
  | corruptionDetected
  | dataCorrupt
  | dataInvalid
  deriving DecidableEq, Repr

/-- A status that reports a failure. -/
abbrev Failure := { status : Status // status ≠ .success }

/-- The statuses that `failing` knows to be failures. -/
class Status.Fails (status : Status) : Prop where
  fails : status ≠ .success

instance : Status.Fails .genericError := ⟨nofun⟩
instance : Status.Fails .notPermitted := ⟨nofun⟩
instance : Status.Fails .notSupported := ⟨nofun⟩
instance : Status.Fails .invalidArgument := ⟨nofun⟩
instance : Status.Fails .invalidHandle := ⟨nofun⟩
instance : Status.Fails .badState := ⟨nofun⟩
instance : Status.Fails .bufferTooSmall := ⟨nofun⟩
instance : Status.Fails .alreadyExists := ⟨nofun⟩
instance : Status.Fails .doesNotExist := ⟨nofun⟩
instance : Status.Fails .insufficientMemory := ⟨nofun⟩
instance : Status.Fails .insufficientStorage := ⟨nofun⟩
instance : Status.Fails .insufficientData := ⟨nofun⟩
instance : Status.Fails .communicationFailure := ⟨nofun⟩
instance : Status.Fails .storageFailure := ⟨nofun⟩
instance : Status.Fails .hardwareFailure := ⟨nofun⟩
instance : Status.Fails .insufficientEntropy := ⟨nofun⟩
instance : Status.Fails .invalidSignature := ⟨nofun⟩
instance : Status.Fails .invalidPadding := ⟨nofun⟩
instance : Status.Fails .corruptionDetected := ⟨nofun⟩
instance : Status.Fails .dataCorrupt := ⟨nofun⟩
instance : Status.Fails .dataInvalid := ⟨nofun⟩

theorem failing {status : Status} [known : status.Fails] : status ≠ .success := known.fails

/-- For chains of checks: none of them answers `x`. -/
theorem ite_ne_of_ne {α : Type} {c : Prop} [Decidable c] {a b x : α} (first : a ≠ x)
    (second : b ≠ x) : (if c then a else b) ≠ x := by
  split
  · exact first
  · exact second

theorem except_bind_ok {ε α β : Type} {first : Except ε α} {next : α → Except ε β} {value : β}
    (success : (first >>= next) = .ok value) : ∃ a, first = .ok a ∧ next a = .ok value := by
  cases first with
  | error fail => cases success
  | ok a => exact ⟨a, rfl, success⟩

theorem except_bind_ok_iff {ε α β : Type} {first : Except ε α} {next : α → Except ε β} {value : β} :
    (first >>= next) = .ok value ↔ ∃ a, first = .ok a ∧ next a = .ok value := by
  constructor
  · exact except_bind_ok
  · rintro ⟨a, rfl, success⟩
    exact success

theorem mapError_ok_iff {ε ε' α : Type} {f : ε → ε'} {result : Except ε α} {a : α} :
    result.mapError f = .ok a ↔ result = .ok a := by
  cases result <;> simp [Except.mapError]

/-! ## Machine limits (LP64) -/

def uint32Max : Nat := 2 ^ 32 - 1
def sizeMax : Nat := 2 ^ 64 - 1
def intMax : Nat := 2 ^ 31 - 1

/-- `wolfpsa_check_word32_length`. -/
def wolfpsaCheckWord32Length (length : Nat) : Status :=
  if length > uint32Max then .invalidArgument else .success

/-! ## Buffer arguments -/

/-- A pointer argument with its length: NULL with any declared length, or readable bytes. -/
inductive InBuf where
  | null (length : Nat)
  | data (bytes : Bytes)
  deriving DecidableEq, Repr

namespace InBuf

def length : InBuf → Nat
  | null n => n
  | data bytes => bytes.length

def isNull : InBuf → Bool
  | null _ => true
  | data _ => false

/-- The bytes behind the pointer. -/
def bytes : InBuf → Bytes
  | null _ => []
  | data b => b

end InBuf

/-- An output pointer with its capacity. -/
structure OutBuf where
  isNull : Bool
  size : Nat
  deriving DecidableEq, Repr

/-- `PSA_BITS_TO_BYTES`. -/
def psaBitsToBytes (bits : Nat) : Nat := (bits + 7) / 8

/-! ## Key types -/

def psaKeyTypeNone : KeyType := 0x0000
def psaKeyTypeVendorFlag : KeyType := 0x8000
def psaKeyTypeCategoryMask : KeyType := 0x7000
def psaKeyTypeCategoryRaw : KeyType := 0x1000
def psaKeyTypeCategorySymmetric : KeyType := 0x2000
def psaKeyTypeCategoryPublicKey : KeyType := 0x4000
def psaKeyTypeCategoryKeyPair : KeyType := 0x7000
def psaKeyTypeCategoryFlagPair : KeyType := 0x3000

def psaKeyTypeRawData : KeyType := 0x1001
def psaKeyTypeHmac : KeyType := 0x1100
def psaKeyTypeDerive : KeyType := 0x1200
def psaKeyTypePassword : KeyType := 0x1203
def psaKeyTypePasswordHash : KeyType := 0x1205
def psaKeyTypePepper : KeyType := 0x1206
def psaKeyTypeAes : KeyType := 0x2400
def psaKeyTypeAria : KeyType := 0x2406
def psaKeyTypeCamellia : KeyType := 0x2403
def psaKeyTypeDes : KeyType := 0x2301
def psaKeyTypeChacha20 : KeyType := 0x2004
def psaKeyTypeXchacha20 : KeyType := 0x2007
def psaKeyTypeAscon : KeyType := 0x2008
def psaKeyTypeRsaPublicKey : KeyType := 0x4001
def psaKeyTypeRsaKeyPair : KeyType := 0x7001
def psaKeyTypeEccPublicKeyBase : KeyType := 0x4100
def psaKeyTypeEccKeyPairBase : KeyType := 0x7100
def psaKeyTypeEccCurveMask : KeyType := 0x00ff
def psaKeyTypeDhPublicKeyBase : KeyType := 0x4200
def psaKeyTypeDhKeyPairBase : KeyType := 0x7200
def psaKeyTypeDhGroupMask : KeyType := 0x00ff

def psaKeyTypeIsUnstructured (type : KeyType) : Bool :=
  type &&& psaKeyTypeCategoryMask == psaKeyTypeCategoryRaw ||
    type &&& psaKeyTypeCategoryMask == psaKeyTypeCategorySymmetric

def psaKeyTypeIsPublicKey (type : KeyType) : Bool :=
  type &&& psaKeyTypeCategoryMask == psaKeyTypeCategoryPublicKey

def psaKeyTypeIsKeyPair (type : KeyType) : Bool :=
  type &&& psaKeyTypeCategoryMask == psaKeyTypeCategoryKeyPair

def psaKeyTypePublicKeyOfKeyPair (type : KeyType) : KeyType :=
  type &&& ~~~psaKeyTypeCategoryFlagPair

def psaKeyTypeIsRsa (type : KeyType) : Bool :=
  psaKeyTypePublicKeyOfKeyPair type == psaKeyTypeRsaPublicKey

def psaKeyTypeIsEcc (type : KeyType) : Bool :=
  psaKeyTypePublicKeyOfKeyPair type &&& ~~~psaKeyTypeEccCurveMask ==
    psaKeyTypeEccPublicKeyBase

def psaKeyTypeIsDh (type : KeyType) : Bool :=
  psaKeyTypePublicKeyOfKeyPair type &&& ~~~psaKeyTypeDhGroupMask ==
    psaKeyTypeDhPublicKeyBase

/-- `PSA_BLOCK_CIPHER_BLOCK_LENGTH`: the exponent sits in bits 8 to 10 of the key type. -/
def psaBlockCipherBlockLength (type : KeyType) : Nat :=
  if type &&& psaKeyTypeCategoryMask == psaKeyTypeCategorySymmetric then
    2 ^ ((type >>> 8) &&& 7).toNat
  else 0

/-! ## Algorithms -/

def psaAlgNone : Algorithm := 0x00000000
def psaAlgCategoryMask : Algorithm := 0x7f000000
def psaAlgCategoryHash : Algorithm := 0x02000000
def psaAlgCategoryMac : Algorithm := 0x03000000
def psaAlgCategoryCipher : Algorithm := 0x04000000
def psaAlgCategoryAead : Algorithm := 0x05000000
def psaAlgCategorySign : Algorithm := 0x06000000
def psaAlgCategoryKeyDerivation : Algorithm := 0x08000000
def psaAlgCategoryKeyAgreement : Algorithm := 0x09000000

def psaAlgIsHash (alg : Algorithm) : Bool := alg &&& psaAlgCategoryMask == psaAlgCategoryHash
def psaAlgIsMac (alg : Algorithm) : Bool := alg &&& psaAlgCategoryMask == psaAlgCategoryMac
def psaAlgIsAead (alg : Algorithm) : Bool := alg &&& psaAlgCategoryMask == psaAlgCategoryAead
def psaAlgIsSign (alg : Algorithm) : Bool := alg &&& psaAlgCategoryMask == psaAlgCategorySign
def psaAlgIsKeyDerivation (alg : Algorithm) : Bool :=
  alg &&& psaAlgCategoryMask == psaAlgCategoryKeyDerivation
def psaAlgIsKeyAgreement (alg : Algorithm) : Bool :=
  alg &&& psaAlgCategoryMask == psaAlgCategoryKeyAgreement

/-! ### Hashes -/

def psaAlgHashMask : Algorithm := 0x000000ff
def psaAlgMd5 : Algorithm := 0x02000003
def psaAlgRipemd160 : Algorithm := 0x02000004
def psaAlgSha1 : Algorithm := 0x02000005
def psaAlgSha224 : Algorithm := 0x02000008
def psaAlgSha256 : Algorithm := 0x02000009
def psaAlgSha384 : Algorithm := 0x0200000a
def psaAlgSha512 : Algorithm := 0x0200000b
def psaAlgSha512_224 : Algorithm := 0x0200000c
def psaAlgSha512_256 : Algorithm := 0x0200000d
def psaAlgSha3_224 : Algorithm := 0x02000010
def psaAlgSha3_256 : Algorithm := 0x02000011
def psaAlgSha3_384 : Algorithm := 0x02000012
def psaAlgSha3_512 : Algorithm := 0x02000013
def psaAlgShake256_512 : Algorithm := 0x02000015
def psaAlgAsconHash256 : Algorithm := 0x02000019
def psaAlgAnyHash : Algorithm := 0x020000ff

/-- `PSA_ALG_HMAC_GET_HASH`; the other `_GET_HASH` macros of the derivation algorithms have the
same body. -/
def psaAlgHmacGetHash (alg : Algorithm) : Algorithm := psaAlgCategoryHash ||| alg &&& psaAlgHashMask

/-- `PSA_HASH_LENGTH`. -/
def psaHashLength (alg : Algorithm) : Nat :=
  let hash := psaAlgHmacGetHash alg
  if hash == psaAlgMd5 then 16
  else if hash == psaAlgRipemd160 then 20
  else if hash == psaAlgSha1 then 20
  else if hash == psaAlgSha224 then 28
  else if hash == psaAlgSha256 then 32
  else if hash == psaAlgSha384 then 48
  else if hash == psaAlgSha512 then 64
  else if hash == psaAlgSha512_224 then 28
  else if hash == psaAlgSha512_256 then 32
  else if hash == psaAlgSha3_224 then 28
  else if hash == psaAlgSha3_256 then 32
  else if hash == psaAlgSha3_384 then 48
  else if hash == psaAlgSha3_512 then 64
  else if hash == psaAlgAsconHash256 then 32
  else 0

/-- `PSA_HASH_MAX_SIZE` and `PSA_MAC_MAX_SIZE` of a build with SHA-512. -/
def psaMacMaxSize : Nat := 64

/-- `WOLFPSA_HASH_MAX_SIZE`. -/
def wolfpsaHashMaxSize : Nat := 64

private theorem ite_le_of_le {p : Prop} [Decidable p] {a b c : Nat} (ha : a ≤ c) (hb : b ≤ c) :
    (if p then a else b) ≤ c := by
  split
  · exact ha
  · exact hb

theorem psaHashLength_le (alg : Algorithm) : psaHashLength alg ≤ psaMacMaxSize := by
  unfold psaHashLength
  repeat refine ite_le_of_le (by decide) ?_
  exact Nat.zero_le _

/-! ### Message authentication -/

def psaAlgMacSubcategoryMask : Algorithm := 0x00c00000
def psaAlgHmacBase : Algorithm := 0x03800000
def psaAlgCipherMacBase : Algorithm := 0x03c00000
def psaAlgCmac : Algorithm := 0x03c00200
def psaAlgMacTruncationMask : Algorithm := 0x003f0000
def psaAlgMacAtLeastThisLengthFlag : Algorithm := 0x00008000

def psaAlgIsHmac (alg : Algorithm) : Bool :=
  alg &&& (psaAlgCategoryMask ||| psaAlgMacSubcategoryMask) == psaAlgHmacBase

def psaAlgIsBlockCipherMac (alg : Algorithm) : Bool :=
  alg &&& (psaAlgCategoryMask ||| psaAlgMacSubcategoryMask) == psaAlgCipherMacBase

def psaAlgHmac (hash : Algorithm) : Algorithm := psaAlgHmacBase ||| hash &&& psaAlgHashMask

def psaAlgFullLengthMac (alg : Algorithm) : Algorithm :=
  alg &&& ~~~(psaAlgMacTruncationMask ||| psaAlgMacAtLeastThisLengthFlag)

/-- `PSA_ALG_TRUNCATED_MAC`. -/
def psaAlgTruncatedMac (alg : Algorithm) (macLength : Nat) : Algorithm :=
  alg &&& ~~~(psaAlgMacTruncationMask ||| psaAlgMacAtLeastThisLengthFlag) |||
    BitVec.ofNat 32 macLength <<< 16 &&& psaAlgMacTruncationMask

/-- `PSA_ALG_AT_LEAST_THIS_LENGTH_MAC`. -/
def psaAlgAtLeastThisLengthMac (alg : Algorithm) (minMacLength : Nat) : Algorithm :=
  psaAlgTruncatedMac alg minMacLength ||| psaAlgMacAtLeastThisLengthFlag

def psaMacTruncatedLength (alg : Algorithm) : Nat :=
  ((alg &&& psaAlgMacTruncationMask) >>> 16).toNat

/-- `PSA_MAC_LENGTH`; the key size does not enter it. -/
def psaMacLength (type : KeyType) (alg : Algorithm) : Nat :=
  if alg &&& psaAlgMacTruncationMask != 0 then psaMacTruncatedLength alg
  else if psaAlgIsHmac alg then psaHashLength (psaAlgHmacGetHash alg)
  else if psaAlgIsBlockCipherMac alg then psaBlockCipherBlockLength type
  else 0

/-! ### Authenticated encryption -/

def psaAlgCcm : Algorithm := 0x05500100
def psaAlgCcmStarNoTag : Algorithm := 0x04c01300
def psaAlgGcm : Algorithm := 0x05500200
def psaAlgChacha20Poly1305 : Algorithm := 0x05100500
def psaAlgXchacha20Poly1305 : Algorithm := 0x05100600
def psaAlgAsconAead128 : Algorithm := 0x05100700
def psaAlgAeadTagLengthMask : Algorithm := 0x003f0000
def psaAlgAeadAtLeastThisLengthFlag : Algorithm := 0x00008000

/-- `PSA_ALG_AEAD_WITH_SHORTENED_TAG`. -/
def psaAlgAeadWithShortenedTag (alg : Algorithm) (tagLength : Nat) : Algorithm :=
  alg &&& ~~~(psaAlgAeadTagLengthMask ||| psaAlgAeadAtLeastThisLengthFlag) |||
    BitVec.ofNat 32 tagLength <<< 16 &&& psaAlgAeadTagLengthMask

def psaAlgAeadGetTagLength (alg : Algorithm) : Nat :=
  ((alg &&& psaAlgAeadTagLengthMask) >>> 16).toNat

/-- `PSA_ALG_AEAD_WITH_DEFAULT_LENGTH_TAG`, 0 for an algorithm outside the five families. -/
def psaAlgAeadWithDefaultLengthTag (alg : Algorithm) : Algorithm :=
  let is (ref : Algorithm) : Bool :=
    psaAlgAeadWithShortenedTag alg 0 == psaAlgAeadWithShortenedTag ref 0
  if is psaAlgCcm then psaAlgCcm
  else if is psaAlgGcm then psaAlgGcm
  else if is psaAlgChacha20Poly1305 then psaAlgChacha20Poly1305
  else if is psaAlgXchacha20Poly1305 then psaAlgXchacha20Poly1305
  else if is psaAlgAsconAead128 then psaAlgAsconAead128
  else 0

/-- `PSA_ALG_AEAD_WITH_AT_LEAST_THIS_LENGTH_TAG`. -/
def psaAlgAeadWithAtLeastThisLengthTag (alg : Algorithm) (minTagLength : Nat) : Algorithm :=
  psaAlgAeadWithShortenedTag alg minTagLength ||| psaAlgAeadAtLeastThisLengthFlag

/-- `PSA_ALG_AEAD_EQUAL`: the same up to the tag length field. -/
def psaAlgAeadEqual (alg₁ alg₂ : Algorithm) : Bool :=
  (alg₁ ^^^ alg₂) &&& ~~~(psaAlgAeadTagLengthMask ||| psaAlgAeadAtLeastThisLengthFlag) == 0

/-! ### Signatures -/

def psaAlgRsaPkcs1v15SignBase : Algorithm := 0x06000200
def psaAlgEcdsaBase : Algorithm := 0x06000600
def psaAlgDeterministicEcdsaBase : Algorithm := 0x06000700
def psaAlgEcdsaDeterministicFlag : Algorithm := 0x00000100
def psaAlgPureEddsa : Algorithm := 0x06000800
def psaAlgEddsaCtx : Algorithm := 0x06000a00

def psaAlgEcdsa (hash : Algorithm) : Algorithm := psaAlgEcdsaBase ||| hash &&& psaAlgHashMask
def psaAlgDeterministicEcdsa (hash : Algorithm) : Algorithm :=
  psaAlgDeterministicEcdsaBase ||| hash &&& psaAlgHashMask

def psaAlgIsEcdsa (alg : Algorithm) : Bool :=
  alg &&& ~~~psaAlgHashMask &&& ~~~psaAlgEcdsaDeterministicFlag == psaAlgEcdsaBase

/-- `PSA_ALG_IS_HASH_ML_DSA`, hedged and deterministic. -/
def psaAlgIsHashMlDsa (alg : Algorithm) : Bool := alg &&& ~~~0x000001ff == 0x06004600

def psaAlgIsSignHash (alg : Algorithm) : Bool :=
  psaAlgIsSign alg && alg != psaAlgPureEddsa && alg != psaAlgEddsaCtx

def psaAlgIsHashAndSign (alg : Algorithm) : Bool :=
  psaAlgIsSignHash alg && alg &&& psaAlgHashMask != 0

def psaAlgSignGetHash (alg : Algorithm) : Algorithm :=
  if psaAlgIsHashAndSign alg then alg &&& psaAlgHashMask ||| psaAlgCategoryHash else 0

def psaAlgGetHash (alg : Algorithm) : Algorithm :=
  if alg &&& psaAlgHashMask == 0 then psaAlgNone else psaAlgCategoryHash ||| alg &&& psaAlgHashMask

/-- `PSA_ALG_IS_WILDCARD`: the algorithm is a policy, not something to run. -/
def psaAlgIsWildcard (alg : Algorithm) : Bool :=
  if psaAlgIsHashAndSign alg then psaAlgSignGetHash alg == psaAlgAnyHash
  else if psaAlgIsMac alg then alg &&& psaAlgMacAtLeastThisLengthFlag != 0
  else if psaAlgIsAead alg then alg &&& psaAlgAeadAtLeastThisLengthFlag != 0
  else alg == psaAlgAnyHash

/-! ### Key derivation and key agreement -/

def psaAlgHkdfBase : Algorithm := 0x08000100
def psaAlgHkdfExtractBase : Algorithm := 0x08000400
def psaAlgHkdfExpandBase : Algorithm := 0x08000500
def psaAlgTls12PrfBase : Algorithm := 0x08000200
def psaAlgTls12PskToMsBase : Algorithm := 0x08000300
def psaAlgPbkdf2HmacBase : Algorithm := 0x08800100
def psaAlgPbkdf2AesCmacPrf128 : Algorithm := 0x08800200
def psaAlgSp800_108CounterHmacBase : Algorithm := 0x08000700
def psaAlgSp800_108CounterCmac : Algorithm := 0x08000800
def psaAlgKeyDerivationMask : Algorithm := 0xfe00ffff
def psaAlgKeyAgreementMask : Algorithm := 0xffff0000
def psaAlgEcdh : Algorithm := 0x09020000

/-- The algorithm is `base` up to its hash field. -/
def isHashFamily (base alg : Algorithm) : Bool := alg &&& ~~~psaAlgHashMask == base

theorem isHashFamily_unique {base base' alg : Algorithm} (h : isHashFamily base alg = true)
    (h' : isHashFamily base' alg = true) : base = base' := by
  simp only [isHashFamily, beq_iff_eq] at h h'
  exact h.symm.trans h'

def psaAlgIsHkdf (alg : Algorithm) : Bool := isHashFamily psaAlgHkdfBase alg
def psaAlgIsHkdfExtract (alg : Algorithm) : Bool := isHashFamily psaAlgHkdfExtractBase alg
def psaAlgIsHkdfExpand (alg : Algorithm) : Bool := isHashFamily psaAlgHkdfExpandBase alg
def psaAlgIsAnyHkdf (alg : Algorithm) : Bool :=
  psaAlgIsHkdf alg || psaAlgIsHkdfExtract alg || psaAlgIsHkdfExpand alg
def psaAlgIsTls12Prf (alg : Algorithm) : Bool := isHashFamily psaAlgTls12PrfBase alg
def psaAlgIsTls12PskToMs (alg : Algorithm) : Bool := isHashFamily psaAlgTls12PskToMsBase alg
def psaAlgIsPbkdf2Hmac (alg : Algorithm) : Bool := isHashFamily psaAlgPbkdf2HmacBase alg
def psaAlgIsPbkdf2 (alg : Algorithm) : Bool :=
  psaAlgIsPbkdf2Hmac alg || alg == psaAlgPbkdf2AesCmacPrf128
def psaAlgIsSp800_108CounterHmac (alg : Algorithm) : Bool :=
  isHashFamily psaAlgSp800_108CounterHmacBase alg

def psaAlgKeyAgreementGetKdf (alg : Algorithm) : Algorithm :=
  alg &&& psaAlgKeyDerivationMask ||| psaAlgCategoryKeyDerivation
def psaAlgKeyAgreementGetBase (alg : Algorithm) : Algorithm :=
  alg &&& psaAlgKeyAgreementMask ||| psaAlgCategoryKeyAgreement

/-- `PSA_ALG_KEY_AGREEMENT`. -/
def psaAlgKeyAgreement (kaAlg kdfAlg : Algorithm) : Algorithm := kaAlg ||| kdfAlg

/-- `PSA_RAW_KEY_AGREEMENT_OUTPUT_SIZE`. -/
def psaRawKeyAgreementOutputSize (type : KeyType) (bits : BitVec 16) : Nat :=
  if type &&& ~~~psaKeyTypeEccCurveMask == psaKeyTypeEccKeyPairBase ||
      type &&& ~~~psaKeyTypeDhGroupMask == psaKeyTypeDhKeyPairBase then
    psaBitsToBytes bits.toNat
  else 0

/-! ## Lifetimes, identifiers and usage flags -/

def psaKeyLifetimeVolatile : Lifetime := 0x00000000
def psaKeyLifetimePersistent : Lifetime := 0x00000001

/-- `PSA_KEY_LIFETIME_IS_VOLATILE`: the persistence byte is zero. -/
def psaKeyLifetimeIsVolatile (lifetime : Lifetime) : Bool := lifetime &&& 0x000000ff == 0

/-- `PSA_KEY_LIFETIME_GET_LOCATION`. -/
def psaKeyLifetimeGetLocation (lifetime : Lifetime) : BitVec 32 := lifetime >>> 8

def psaKeyIdNull : KeyId := 0x00000000
def psaKeyIdUserMin : KeyId := 0x00000001
def psaKeyIdUserMax : KeyId := 0x3fffffff
def psaKeyIdVendorMin : KeyId := 0x40000000
def psaKeyIdVendorMax : KeyId := 0x7fffffff

def psaKeyUsageExport : KeyUsage := 0x00000001
def psaKeyUsageCopy : KeyUsage := 0x00000002
def psaKeyUsageEncrypt : KeyUsage := 0x00000100
def psaKeyUsageDecrypt : KeyUsage := 0x00000200
def psaKeyUsageSignMessage : KeyUsage := 0x00000400
def psaKeyUsageVerifyMessage : KeyUsage := 0x00000800
def psaKeyUsageSignHash : KeyUsage := 0x00001000
def psaKeyUsageVerifyHash : KeyUsage := 0x00002000
def psaKeyUsageDerive : KeyUsage := 0x00004000
def psaKeyUsageVerifyDerivation : KeyUsage := 0x00008000

/-- The test `(key_usage & usage) == usage` of every entry point that checks a usage flag. -/
def hasUsage (keyUsage usage : KeyUsage) : Bool := keyUsage &&& usage == usage

/-! ## Key attributes -/

/-- `psa_key_attributes_t` with its policy (`crypto_struct.h`). -/
structure KeyAttributes where
  type : KeyType
  bits : BitVec 16
  lifetime : Lifetime
  usage : KeyUsage
  alg : Algorithm
  alg2 : Algorithm
  id : KeyId
  deriving DecidableEq, Repr

/-- `PSA_KEY_ATTRIBUTES_INIT`. -/
def psaKeyAttributesInit : KeyAttributes :=
  ⟨psaKeyTypeNone, 0, psaKeyLifetimeVolatile, 0, psaAlgNone, psaAlgNone, psaKeyIdNull⟩

/-! ## wolfCrypt return codes -/

/-- The non-zero return codes of wolfCrypt that `wc_error_to_psa_status` tells apart. -/
inductive WcError where
  | notCompiledIn
  | badFuncArg
  | eccArgument
  | bufferE
  | memoryE
  | wcHwE
  | sigVerifyE
  | authE
  | rngFailureE
  | paddingE
  | badStateE
  | other
  deriving DecidableEq, Repr

/-- `wc_error_to_psa_status` on a non-zero return code (`psa_engine.c:110`). -/
def wcErrorToPsaStatus : WcError → Status
  | .notCompiledIn => .notSupported
  | .badFuncArg => .invalidArgument
  | .eccArgument => .invalidArgument
  | .bufferE => .bufferTooSmall
  | .memoryE => .insufficientMemory
  | .wcHwE => .hardwareFailure
  | .sigVerifyE => .invalidSignature
  | .authE => .invalidSignature
  | .rngFailureE => .insufficientEntropy
  | .paddingE => .invalidPadding
  | .badStateE => .badState
  | .other => .genericError

/-- A wolfCrypt failure is never reported as success. -/
@[simp] theorem wcErrorToPsaStatus_ne_success (e : WcError) :
    wcErrorToPsaStatus e ≠ .success := by
  cases e <;> simp [wcErrorToPsaStatus]

/-! ## Steps of a call -/

/-- The call ends with `status`. -/
def refuse {α : Type} (status : Status) (fails : status ≠ .success := by exact failing) :
    Except Failure α :=
  .error ⟨status, fails⟩

/-- A check that ends the call with `status`. -/
def require (condition : Bool) (status : Status) (fails : status ≠ .success := by exact failing) :
    Except Failure Unit :=
  if condition then .ok () else refuse status fails

/-- `wc_error_to_psa_status` as the failure it always is. -/
def wcFailure (e : WcError) : Failure := ⟨wcErrorToPsaStatus e, wcErrorToPsaStatus_ne_success e⟩

/-- A wolfCrypt call whose failure is reported through `wc_error_to_psa_status`. -/
def wcCall {α : Type} (ret : Except WcError α) : Except Failure α := ret.mapError wcFailure

/-- The status a call returns. -/
def statusOf {α : Type} : Except Failure α → Status
  | .ok _ => .success
  | .error status => status.val

theorem statusOf_success_iff {α : Type} {result : Except Failure α} :
    statusOf result = .success ↔ ∃ a, result = .ok a := by
  cases result with
  | ok a => simp [statusOf]
  | error status => simpa [statusOf] using status.property

@[simp] theorem require_ok_iff {condition : Bool} {status : Status} {fails : status ≠ .success}
    {u : Unit} : require condition status fails = .ok u ↔ condition = true := by
  cases condition <;> simp [require, refuse]

theorem require_bind_ok_iff {α : Type} {condition : Bool} {status : Status}
    {fails : status ≠ .success} {next : Unit → Except Failure α} {a : α} :
    (require condition status fails >>= next) = .ok a ↔ condition = true ∧ next () = .ok a := by
  cases condition
  · exact ⟨nofun, fun both => nomatch both.1⟩
  · exact ⟨fun ended => ⟨rfl, ended⟩, fun both => both.2⟩

@[simp] theorem wcCall_ok_iff {α : Type} {ret : Except WcError α} {a : α} :
    wcCall ret = .ok a ↔ ret = .ok a := mapError_ok_iff

end WolfPSA.Source
