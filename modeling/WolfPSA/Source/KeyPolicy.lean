import WolfPSA.Source.Values

/-!
# Policies of keys and of their copies

The intersection of two permitted-algorithm policies that `psa_copy_key` computes
(`src/psa_key_storage.c:2534-2674`), the attributes it gives the copy (`2711-2754, 2789-2826`), and
the checks of a permitted algorithm at the signature and AEAD entry points
(`psa_asymmetric_api.c:189-312`, `psa_aead.c:194-301`).
-/

namespace WolfPSA.Source

/-! ## Intersection of two policies -/

/-- `wolfpsa_tag_len_permitted`: a length field of 0 is the full length. -/
def wolfpsaTagLenPermitted (concreteLen minLen : Nat) : Bool :=
  if minLen = 0 then concreteLen = 0 else concreteLen = 0 ∨ concreteLen ≥ minLen

/-- `wolfpsa_tag_len_restrict`. -/
def wolfpsaTagLenRestrict (lenA lenB : Nat) : Nat :=
  if lenA = 0 ∨ lenB = 0 then 0 else if lenA > lenB then lenA else lenB

/-- The arms of `wolfpsa_alg_intersect` for two MAC or two AEAD policies of one base algorithm:
`len` reads the length field, `wild` the minimum-length flag and `atLeast` builds a wildcard. -/
def lengthPolicyIntersect (len : Algorithm → Nat) (wild : Algorithm → Bool)
    (atLeast : Algorithm → Nat → Algorithm) (srcAlg dstAlg : Algorithm) : Option Algorithm :=
  if wild srcAlg && wild dstAlg then
    some (atLeast srcAlg (wolfpsaTagLenRestrict (len srcAlg) (len dstAlg)))
  else if wild srcAlg then
    if wolfpsaTagLenPermitted (len dstAlg) (len srcAlg) then some dstAlg else none
  else if wild dstAlg then
    if wolfpsaTagLenPermitted (len srcAlg) (len dstAlg) then some srcAlg else none
  else none

def macIsWildcard (alg : Algorithm) : Bool := alg &&& psaAlgMacAtLeastThisLengthFlag != 0
def aeadIsWildcard (alg : Algorithm) : Bool := alg &&& psaAlgAeadAtLeastThisLengthFlag != 0

/-- The arm for two hash-and-sign policies of one family, one of them `PSA_ALG_ANY_HASH`. -/
def signPolicyIntersect (srcAlg dstAlg : Algorithm) : Option Algorithm :=
  let srcAny := psaAlgGetHash srcAlg == psaAlgAnyHash
  let dstAny := psaAlgGetHash dstAlg == psaAlgAnyHash
  if srcAny != dstAny then
    let concrete := if srcAny then dstAlg else srcAlg
    -- a hashless algorithm is no member of ANY_HASH, RSA PKCS#1 v1.5 apart
    if psaAlgGetHash concrete != psaAlgNone ||
        srcAlg &&& ~~~psaAlgHashMask == psaAlgRsaPkcs1v15SignBase then some concrete
    else none
  else none

/-- `wolfpsa_alg_intersect`. -/
def wolfpsaAlgIntersect (srcAlg dstAlg : Algorithm) : Option Algorithm :=
  if srcAlg == dstAlg then some srcAlg
  else if srcAlg &&& ~~~psaAlgHashMask == dstAlg &&& ~~~psaAlgHashMask &&
      psaAlgIsSignHash srcAlg && psaAlgIsSignHash dstAlg then
    signPolicyIntersect srcAlg dstAlg
  else if psaAlgIsMac srcAlg && psaAlgIsMac dstAlg &&
      psaAlgFullLengthMac srcAlg == psaAlgFullLengthMac dstAlg then
    lengthPolicyIntersect psaMacTruncatedLength macIsWildcard psaAlgAtLeastThisLengthMac
      srcAlg dstAlg
  else if psaAlgIsAead srcAlg && psaAlgIsAead dstAlg &&
      psaAlgAeadWithShortenedTag srcAlg 0 == psaAlgAeadWithShortenedTag dstAlg 0 then
    lengthPolicyIntersect psaAlgAeadGetTagLength aeadIsWildcard psaAlgAeadWithAtLeastThisLengthTag
      srcAlg dstAlg
  else none

/-- `wolfpsa_alg2_intersect`: unset on either side is dropped. -/
def wolfpsaAlg2Intersect (srcAlg dstAlg : Algorithm) : Option Algorithm :=
  if srcAlg == psaAlgNone || dstAlg == psaAlgNone then some psaAlgNone
  else wolfpsaAlgIntersect srcAlg dstAlg

/-- The attributes `psa_copy_key` imports the copy with. -/
def copyKeyAttributes (src requested : KeyAttributes) : Except Failure KeyAttributes :=
  if src.usage &&& psaKeyUsageCopy = 0 then .error ⟨.notPermitted, failing⟩
  else if requested.type ≠ 0 ∧ requested.type ≠ src.type then .error ⟨.invalidArgument, failing⟩
  else if requested.bits ≠ 0 ∧ requested.bits ≠ src.bits then .error ⟨.invalidArgument, failing⟩
  else
    match wolfpsaAlgIntersect src.alg requested.alg,
        wolfpsaAlg2Intersect src.alg2 requested.alg2 with
    | some alg, some alg2 =>
      if requested.lifetime ≠ src.lifetime then .error ⟨.invalidArgument, failing⟩
      else
        .ok { requested with
          type := if requested.type = 0 then src.type else requested.type
          bits := if requested.bits = 0 then src.bits else requested.bits
          usage := src.usage &&& requested.usage
          alg := alg
          alg2 := alg2 }
    | _, _ => .error ⟨.invalidArgument, failing⟩

/-- What a granted copy tells about the two policies. -/
theorem copyKeyAttributes_ok {src requested copy : KeyAttributes}
    (granted : copyKeyAttributes src requested = .ok copy) :
    src.usage &&& psaKeyUsageCopy ≠ 0 ∧
      wolfpsaAlgIntersect src.alg requested.alg = some copy.alg ∧
      wolfpsaAlg2Intersect src.alg2 requested.alg2 = some copy.alg2 ∧
      copy.usage = src.usage &&& requested.usage ∧
      copy.lifetime = src.lifetime ∧ requested.lifetime = src.lifetime ∧
      copy.id = requested.id ∧ copy.type = src.type ∧ copy.bits = src.bits := by
  unfold copyKeyAttributes at granted
  split at granted
  · cases granted
  rename_i mayCopy
  split at granted
  · cases granted
  rename_i sameType
  split at granted
  · cases granted
  rename_i sameBits
  split at granted
  · rename_i alg alg2 met met2
    split at granted
    · cases granted
    rename_i sameLifetime
    cases granted
    simp only [ne_eq, not_and, not_not] at sameType sameBits sameLifetime
    refine ⟨mayCopy, met, met2, rfl, sameLifetime, sameLifetime, rfl, ?_, ?_⟩
    · by_cases unset : requested.type = 0
      · simp [unset]
      · simp [sameType unset]
    · by_cases unset : requested.bits = 0
      · simp [unset]
      · simp [sameBits unset]
  · cases granted

/-! ## Length policies

MAC and AEAD policies encode a base algorithm, a length field and a wildcard flag in the same bits. -/

theorem psaMacTruncatedLength_lt (p : Algorithm) : psaMacTruncatedLength p < 64 := by
  unfold psaMacTruncatedLength psaAlgMacTruncationMask
  rw [BitVec.toNat_ushiftRight, BitVec.toNat_and, Nat.shiftRight_eq_div_pow]
  have bound : p.toNat &&& BitVec.toNat 0x003f0000#32 ≤ 0x003f0000 := Nat.and_le_right
  exact Nat.div_lt_of_lt_mul (Nat.lt_of_le_of_lt bound (by decide))

theorem psaAlgFullLengthMac_atLeast (p : Algorithm) (n : Nat) :
    psaAlgFullLengthMac (psaAlgAtLeastThisLengthMac p n) = psaAlgFullLengthMac p := by
  simp [psaAlgFullLengthMac, psaAlgAtLeastThisLengthMac, psaAlgTruncatedMac,
    psaAlgMacTruncationMask, psaAlgMacAtLeastThisLengthFlag, BitVec.and_or_distrib_right,
    BitVec.and_assoc]

theorem macIsWildcard_atLeast (p : Algorithm) (n : Nat) :
    macIsWildcard (psaAlgAtLeastThisLengthMac p n) = true := by
  simp [macIsWildcard, psaAlgAtLeastThisLengthMac, psaAlgTruncatedMac,
    psaAlgMacTruncationMask, psaAlgMacAtLeastThisLengthFlag, BitVec.and_or_distrib_right,
    BitVec.and_assoc]

theorem psaMacTruncatedLength_atLeast (p : Algorithm) {n : Nat} (bound : n < 64) :
    psaMacTruncatedLength (psaAlgAtLeastThisLengthMac p n) = n := by
  have table : ∀ n : Fin 64, ((BitVec.ofNat 32 n <<< 16 &&& 0x003f0000#32) >>> 16).toNat = n := by
    decide
  have field := table ⟨n, bound⟩
  simpa [psaMacTruncatedLength, psaAlgAtLeastThisLengthMac, psaAlgTruncatedMac,
    psaAlgMacTruncationMask, psaAlgMacAtLeastThisLengthFlag, BitVec.and_or_distrib_right,
    BitVec.and_assoc] using field

@[simp] theorem psaMacTruncatedLength_full (p : Algorithm) :
    psaMacTruncatedLength (psaAlgFullLengthMac p) = 0 := by
  simp [psaMacTruncatedLength, psaAlgFullLengthMac, psaAlgMacTruncationMask,
    psaAlgMacAtLeastThisLengthFlag, BitVec.and_assoc]

@[simp] theorem macIsWildcard_full (p : Algorithm) : macIsWildcard (psaAlgFullLengthMac p) = false := by
  simp [macIsWildcard, psaAlgFullLengthMac, psaAlgMacTruncationMask,
    psaAlgMacAtLeastThisLengthFlag, BitVec.and_assoc]

@[simp] theorem psaAlgFullLengthMac_full (p : Algorithm) :
    psaAlgFullLengthMac (psaAlgFullLengthMac p) = psaAlgFullLengthMac p := by
  simp [psaAlgFullLengthMac, BitVec.and_assoc]

/-- Policies of one base algorithm are of one category. -/
theorem category_of_base {p q : Algorithm}
    (base : psaAlgFullLengthMac p = psaAlgFullLengthMac q) :
    p &&& psaAlgCategoryMask = q &&& psaAlgCategoryMask := by
  have kept (x : Algorithm) :
      x &&& psaAlgCategoryMask = psaAlgFullLengthMac x &&& psaAlgCategoryMask := by
    unfold psaAlgFullLengthMac
    rw [BitVec.and_assoc]
    rfl
  rw [kept p, kept q, base]

/-- The truncation field in place. -/
private theorem and_truncationMask (x : Algorithm) : x &&& psaAlgMacTruncationMask =
    BitVec.ofNat 32 (psaMacTruncatedLength x) <<< 16 := by
  unfold psaMacTruncatedLength
  rw [BitVec.ofNat_toNat, BitVec.setWidth_eq, BitVec.shiftLeft_ushiftRight, BitVec.and_assoc]
  rfl

/-- A policy is its base algorithm, its length field and its wildcard flag. -/
theorem lengthPolicy_ext {p q : Algorithm} (base : psaAlgFullLengthMac p = psaAlgFullLengthMac q)
    (length : psaMacTruncatedLength p = psaMacTruncatedLength q)
    (wild : macIsWildcard p = macIsWildcard q) : p = q := by
  have parts (x : Algorithm) : x = psaAlgFullLengthMac x ||| (x &&& psaAlgMacTruncationMask) |||
      (x &&& psaAlgMacAtLeastThisLengthFlag) := by
    unfold psaAlgFullLengthMac
    rw [← BitVec.and_or_distrib_left, ← BitVec.and_or_distrib_left]
    exact BitVec.and_allOnes.symm
  have flag (x : Algorithm) : x &&& psaAlgMacAtLeastThisLengthFlag =
      if macIsWildcard x then psaAlgMacAtLeastThisLengthFlag else 0 := by
    unfold macIsWildcard
    rw [show psaAlgMacAtLeastThisLengthFlag = BitVec.twoPow 32 15 by decide, BitVec.and_twoPow]
    split <;> simp
  rw [parts p, parts q, base, and_truncationMask p, and_truncationMask q, length, flag p, flag q,
    wild]

theorem truncationMask_bne_zero (a : Algorithm) :
    (a &&& psaAlgMacTruncationMask != 0) = (psaMacTruncatedLength a != 0) := by
  by_cases unset : psaMacTruncatedLength a = 0
  · simp [and_truncationMask, unset]
  · have set : a &&& psaAlgMacTruncationMask ≠ 0 := by
      intro zero
      exact unset (by rw [psaMacTruncatedLength, zero]; rfl)
    rw [bne_iff_ne.mpr set, bne_iff_ne.mpr unset]

@[simp] theorem psaAlgIsHmac_full (a : Algorithm) :
    psaAlgIsHmac (psaAlgFullLengthMac a) = psaAlgIsHmac a := by
  simp [psaAlgIsHmac, psaAlgFullLengthMac, psaAlgMacTruncationMask, psaAlgMacAtLeastThisLengthFlag,
    psaAlgCategoryMask, psaAlgMacSubcategoryMask, BitVec.and_assoc]

@[simp] theorem psaAlgIsBlockCipherMac_full (a : Algorithm) :
    psaAlgIsBlockCipherMac (psaAlgFullLengthMac a) = psaAlgIsBlockCipherMac a := by
  simp [psaAlgIsBlockCipherMac, psaAlgFullLengthMac, psaAlgMacTruncationMask,
    psaAlgMacAtLeastThisLengthFlag, psaAlgCategoryMask, psaAlgMacSubcategoryMask, BitVec.and_assoc]

@[simp] theorem psaAlgHmacGetHash_full (a : Algorithm) :
    psaAlgHmacGetHash (psaAlgFullLengthMac a) = psaAlgHmacGetHash a := by
  simp [psaAlgHmacGetHash, psaAlgFullLengthMac, psaAlgMacTruncationMask, psaAlgMacAtLeastThisLengthFlag,
    psaAlgHashMask, BitVec.and_assoc]

theorem psaMacLength_eq (type : KeyType) (a : Algorithm) :
    psaMacLength type a =
      if psaMacTruncatedLength a = 0 then psaMacLength type (psaAlgFullLengthMac a)
      else psaMacTruncatedLength a := by
  unfold psaMacLength
  rw [truncationMask_bne_zero, truncationMask_bne_zero, psaMacTruncatedLength_full, psaAlgIsHmac_full,
    psaAlgIsBlockCipherMac_full, psaAlgHmacGetHash_full]
  by_cases unset : psaMacTruncatedLength a = 0 <;> simp [unset]

/-! ## Signature entry points -/

/-- `wolfpsa_sign_alg_permitted`. -/
def wolfpsaSignAlgPermitted (keyAlg alg : Algorithm) (requestedUsage : KeyUsage) : Bool :=
  if keyAlg == alg then true
  else if psaAlgIsSignHash alg && psaAlgSignGetHash keyAlg == psaAlgAnyHash &&
      psaAlgSignGetHash alg != psaAlgAnyHash &&
      keyAlg &&& ~~~psaAlgHashMask == alg &&& ~~~psaAlgHashMask then true
  else if requestedUsage &&& (psaKeyUsageVerifyHash ||| psaKeyUsageVerifyMessage) != 0 then
    if psaAlgIsEcdsa alg && psaAlgIsEcdsa keyAlg && psaAlgGetHash alg == psaAlgGetHash keyAlg &&
        psaAlgGetHash alg != psaAlgNone then true
    else
      psaAlgIsHashMlDsa alg && psaAlgIsHashMlDsa keyAlg && psaAlgGetHash alg != psaAlgAnyHash &&
        (psaAlgGetHash keyAlg == psaAlgAnyHash || psaAlgGetHash keyAlg == psaAlgGetHash alg)
  else false

/-- `PSA_ALG_IS_RAW_KEY_AGREEMENT`. -/
def psaAlgIsRawKeyAgreement (alg : Algorithm) : Bool :=
  psaAlgIsKeyAgreement alg && psaAlgKeyAgreementGetKdf alg == psaAlgCategoryKeyDerivation

/-- `wolfpsa_key_agreement_alg_permitted`. -/
def wolfpsaKeyAgreementAlgPermitted (keyAlg alg : Algorithm) : Bool :=
  if psaAlgKeyAgreementGetBase keyAlg != psaAlgKeyAgreementGetBase alg then false
  else if psaAlgIsRawKeyAgreement keyAlg then true
  else psaAlgKeyAgreementGetKdf keyAlg == psaAlgKeyAgreementGetKdf alg

/-- `wolfpsa_asymmetric_alg_permitted`. -/
def wolfpsaAsymmetricAlgPermitted (keyAlg alg : Algorithm) (usage : KeyUsage) : Bool :=
  if keyAlg == psaAlgNone then false
  else if psaAlgIsKeyAgreement alg && psaAlgIsKeyAgreement keyAlg then
    wolfpsaKeyAgreementAlgPermitted keyAlg alg
  else wolfpsaSignAlgPermitted keyAlg alg usage

/-- The checks of `wolfpsa_asymmetric_check_key` on the attributes of the key it found. -/
def wolfpsaAsymmetricCheckAttributes (attributes : KeyAttributes) (usage : KeyUsage)
    (alg : Algorithm) : Status :=
  if !hasUsage attributes.usage usage then .notPermitted
  else if !wolfpsaAsymmetricAlgPermitted attributes.alg alg usage &&
      !wolfpsaAsymmetricAlgPermitted attributes.alg2 alg usage then .notPermitted
  else .success

/-! ## AEAD entry points -/

/-- `wolfpsa_aead_alg_permitted`. -/
def wolfpsaAeadAlgPermitted (keyAlg alg : Algorithm) : Bool :=
  let keyTagLen := psaAlgAeadGetTagLength keyAlg
  let reqTagLen := psaAlgAeadGetTagLength alg
  if keyTagLen == 0 ||
      psaAlgAeadWithDefaultLengthTag keyAlg != psaAlgAeadWithDefaultLengthTag alg then false
  else if aeadIsWildcard keyAlg then decide (reqTagLen ≥ keyTagLen)
  else reqTagLen == keyTagLen

/-- `wolfpsa_aead_key_permits_alg`. -/
def wolfpsaAeadKeyPermitsAlg (attributes : KeyAttributes) (alg : Algorithm) : Bool :=
  wolfpsaAeadAlgPermitted attributes.alg alg || wolfpsaAeadAlgPermitted attributes.alg2 alg

/-- The checks of `wolfpsa_aead_check_key` on the attributes of the key it found. -/
def wolfpsaAeadCheckAttributes (attributes : KeyAttributes) (usage : KeyUsage) (alg : Algorithm) :
    Status :=
  if psaAlgAeadEqual alg psaAlgGcm || psaAlgAeadEqual alg psaAlgCcm ||
      psaAlgAeadEqual alg psaAlgChacha20Poly1305 then
    if !psaAlgAeadEqual alg psaAlgChacha20Poly1305 && attributes.type != psaKeyTypeAes then
      .invalidArgument
    else if psaAlgAeadEqual alg psaAlgChacha20Poly1305 &&
        attributes.type != psaKeyTypeChacha20 then .invalidArgument
    else if !hasUsage attributes.usage usage then .notPermitted
    else if psaAlgAeadGetTagLength alg == 0 then .invalidArgument
    else if !wolfpsaAeadKeyPermitsAlg attributes alg then .notPermitted
    else .success
  else .notSupported

/-- The build's `WOLFSSL_MIN_AUTH_TAG_SZ` and wolfCrypt's `wc_AesCcmCheckTagSize`. -/
structure AeadTagSizes where
  minAuthTagSz : Nat
  ccmCheckTagSize : Nat → Bool

/-- `wolfpsa_aead_gcm_check_tag_size`. -/
def wolfpsaAeadGcmCheckTagSize (sizes : AeadTagSizes) (tagLength : Nat) : Status :=
  if tagLength != 4 && tagLength != 8 && (decide (tagLength < 12) || decide (tagLength > 16)) then
    .invalidArgument
  else if tagLength < sizes.minAuthTagSz then .notSupported
  else .success

/-- The checks of `wolfpsa_aead_setup` on the tag length. -/
def aeadSetupTagLength (sizes : AeadTagSizes) (alg : Algorithm) : Status :=
  let tagLength := psaAlgAeadGetTagLength alg
  if tagLength == 0 then .invalidArgument
  else if psaAlgAeadEqual alg psaAlgCcm && !sizes.ccmCheckTagSize tagLength then .invalidArgument
  else if psaAlgAeadEqual alg psaAlgGcm then wolfpsaAeadGcmCheckTagSize sizes tagLength
  else if psaAlgAeadEqual alg psaAlgChacha20Poly1305 && tagLength != 16 then .notSupported
  else .success

/-- The gate of `wolfpsa_aead_setup` before it looks the key up, in a build with the three
streaming back ends. -/
def aeadSetupGate (alg : Algorithm) : Status :=
  if !psaAlgIsAead alg || psaAlgAeadEqual alg psaAlgCcmStarNoTag then .notSupported
  else if aeadIsWildcard alg then .invalidArgument
  else if psaAlgAeadEqual alg psaAlgXchacha20Poly1305 ||
      psaAlgAeadEqual alg psaAlgAsconAead128 then .notSupported
  else .success

end WolfPSA.Source
