import WolfPSA.Source.SignatureCalls
import WolfPSA.Source.PolicyReadings

/-!
# Hash binding of signatures

A signature over a hash names the hash in its algorithm; `psa_rsa.c` holds the caller to its
length ("PSA requires the hash to be as long as the one the algorithm names"). The other back ends
are compared with that rule.
-/

namespace WolfPSA.Guarantees

open WolfPSA.Source

/-! ## The rule -/

/-- The digest length in bytes of a hash algorithm, with the truncated and extendable-output
hashes that `PSA_HASH_LENGTH` leaves out. -/
def digestLength (hash : Algorithm) : Nat :=
  if hash == psaAlgShake128_256 then 32
  else if hash == psaAlgShake256_512 then 64
  else if hash == 0x0200000e then 24
  else if hash == 0x02000017 then 24
  else if hash == 0x02000018 then 32
  else psaHashLength hash

/-- The algorithms that sign any input. -/
def isHashless (alg : Algorithm) : Bool := alg == psaAlgRsaPkcs1v15SignRaw || alg == psaAlgEcdsaAny

/-- The algorithm is a concrete one and the hash is as long as the one it names. -/
def HashBound (alg : Algorithm) (hashLength : Nat) : Prop :=
  psaAlgGetHash alg ≠ psaAlgAnyHash ∧
    (isHashless alg = true ∨ hashLength = digestLength (psaAlgGetHash alg))

instance (alg : Algorithm) (hashLength : Nat) : Decidable (HashBound alg hashLength) :=
  inferInstanceAs (Decidable (_ ∧ _))

/-- The entry points over a hash. -/
inductive HashCall where
  | signHash (key : KeyId) (alg : Algorithm) (hash : InBuf) (signature : OutBuf)
      (lengthIsNull : Bool)
  | signHashWithContext (key : KeyId) (alg : Algorithm) (hash context : InBuf)
      (signature : OutBuf) (lengthIsNull : Bool)
  | verifyHash (key : KeyId) (alg : Algorithm) (hash signature : InBuf)
  | verifyHashWithContext (key : KeyId) (alg : Algorithm) (hash context signature : InBuf)

namespace HashCall

def key : HashCall → KeyId
  | signHash key .. | signHashWithContext key .. | verifyHash key ..
  | verifyHashWithContext key .. => key

def alg : HashCall → Algorithm
  | signHash _ alg .. | signHashWithContext _ alg .. | verifyHash _ alg ..
  | verifyHashWithContext _ alg .. => alg

def hashLength : HashCall → Nat
  | signHash _ _ hash .. | signHashWithContext _ _ hash .. | verifyHash _ _ hash ..
  | verifyHashWithContext _ _ hash .. => hash.length

def verifies : HashCall → Bool
  | signHash .. | signHashWithContext .. => false
  | verifyHash .. | verifyHashWithContext .. => true

def status (env : SignEnv) : HashCall → Status
  | signHash key alg hash signature lengthIsNull =>
    statusOf (psaSignHash env key alg hash signature lengthIsNull)
  | signHashWithContext key alg hash context signature lengthIsNull =>
    statusOf (psaSignHashWithContext env key alg hash context signature lengthIsNull)
  | verifyHash key alg hash signature => statusOf (psaVerifyHash env key alg hash signature)
  | verifyHashWithContext key alg hash context signature =>
    statusOf (psaVerifyHashWithContext env key alg hash context signature)

end HashCall

/-- The hash lengths wolfCrypt itself takes: for ECDSA, and for HashML-DSA by hash. -/
structure WcDigestLengths where
  ecc : Nat → Bool
  mldsa : MlDsaHash → Nat → Bool

/-- wolfCrypt signs and verifies no hash of another length. -/
structure RespectsLengths (lengths : WcDigestLengths) (env : SignEnv) : Prop where
  ecc_sign : ∀ hash key der, env.ecc.signHash hash key = .ok der → lengths.ecc hash.length = true
  ecc_verify : ∀ der hash key, env.ecc.verifyHash der hash key = .ok true →
    lengths.ecc hash.length = true
  mldsa_sign : ∀ key ctx size input hash sig,
    env.mldsa.signCtxHash key ctx size input hash = .ok sig → lengths.mldsa hash input.length = true
  mldsa_sign_seed : ∀ key ctx size input hash sig,
    env.mldsa.signCtxHashWithSeed key ctx size input hash = .ok sig →
      lengths.mldsa hash input.length = true
  mldsa_verify : ∀ key sig ctx input hash, env.mldsa.verifyCtxHash key sig ctx input hash = .ok true →
    lengths.mldsa hash input.length = true

/-- Under a key with these attributes, no call for `alg` over a hash of this length returns
`PSA_SUCCESS` against the rule, whatever the key, the other arguments and wolfCrypt's answers. -/
def HashBinds (lengths : WcDigestLengths) (build : EccBuild) (verifies : Bool)
    (attributes : KeyAttributes) (alg : Algorithm) (hashLength : Nat) : Prop :=
  ∀ env : SignEnv, env.build = build → RespectsLengths lengths env →
    ∀ call : HashCall, call.verifies = verifies → call.alg = alg →
      call.hashLength = hashLength →
      (∃ keyData, env.getKeyData call.key = .ok (attributes, keyData)) →
      call.status env = .success → HashBound alg hashLength

/-! ## The back ends without the check -/

/-- An ECDSA request that `psa_ecc.c` passes on to wolfCrypt. -/
def eccTakes (build : EccBuild) (verifies : Bool) (attributes : KeyAttributes)
    (alg : Algorithm) : Bool :=
  psaAlgIsEcdsa alg && (wcPsaGetEccCurveId build attributes.type attributes.bits.toNat).isSome &&
    if verifies then
      psaKeyTypeIsEccPublicKey attributes.type || psaKeyTypeIsEccKeyPair attributes.type
    else psaKeyTypeIsEccKeyPair attributes.type &&
      (!psaAlgIsDeterministicEcdsa alg || (wcPsaGetHashType alg).isSome)

/-- A HashML-DSA request that `psa_mldsa.c` passes on to wolfCrypt, and the hash it names. -/
def mldsaTakes (verifies : Bool) (attributes : KeyAttributes) (alg : Algorithm) :
    Option MlDsaHash :=
  if (mldsaBitsToLevel attributes.bits.toNat).isSome &&
      (if verifies then
        (attributes.type == psaKeyTypeMlDsaPublicKey ||
          attributes.type == psaKeyTypeMlDsaKeyPair) &&
          (psaAlgIsHashMlDsa alg || psaAlgIsDeterministicHashMlDsa alg)
      else attributes.type == psaKeyTypeMlDsaKeyPair &&
        (psaAlgIsHedgedHashMlDsa alg || psaAlgIsDeterministicHashMlDsa alg)) then
    mldsaPsaHashToWc (psaAlgGetHash alg)
  else none

def hashUsage (verifies : Bool) : KeyUsage :=
  if verifies then psaKeyUsageVerifyHash else psaKeyUsageSignHash

/-- The request goes to wolfCrypt's ECDSA or HashML-DSA with a length that wolfCrypt takes. -/
def goesUnchecked (lengths : WcDigestLengths) (build : EccBuild) (verifies : Bool)
    (attributes : KeyAttributes) (alg : Algorithm) (hashLength : Nat) : Prop :=
  hashLength ≤ uint32Max ∧
    ((eccTakes build verifies attributes alg = true ∧ lengths.ecc hashLength = true) ∨
      ∃ hash, mldsaTakes verifies attributes alg = some hash ∧
        lengths.mldsa hash hashLength = true)

/-! ## The back ends with the check -/

/-- A hash that `PSA_HASH_LENGTH` knows has that digest length. -/
theorem digestLength_of_hashLength {hash : Algorithm} (known : psaHashLength hash ≠ 0) :
    digestLength hash = psaHashLength hash := by
  unfold digestLength
  have unlisted {other : Algorithm} (absent : psaHashLength other = 0) : (hash == other) = false :=
    beq_eq_false_iff_ne.mpr fun same => known (same ▸ absent)
  simp only [unlisted (show psaHashLength psaAlgShake128_256 = 0 by decide),
    unlisted (show psaHashLength psaAlgShake256_512 = 0 by decide),
    unlisted (show psaHashLength 0x0200000e = 0 by decide),
    unlisted (show psaHashLength 0x02000017 = 0 by decide),
    unlisted (show psaHashLength 0x02000018 = 0 by decide), Bool.false_eq_true, if_false]

/-- The hash named by a signature algorithm is its hash field. -/
theorem signGetHash_eq_getHash {alg : Algorithm} (named : psaAlgSignGetHash alg ≠ 0) :
    psaAlgSignGetHash alg = psaAlgGetHash alg := by
  unfold psaAlgSignGetHash at named ⊢
  split at named
  · rename_i hashAndSign
    rw [if_pos hashAndSign]
    unfold psaAlgIsHashAndSign at hashAndSign
    unfold psaAlgGetHash
    rw [if_neg (by simp_all), BitVec.or_comm]
  · exact absurd rfl named

theorem hashBound_of_rsaCheck {alg : Algorithm} {n : Nat}
    (checked : wcPsaRsaHashLengthOk alg n = true) : HashBound alg n := by
  unfold wcPsaRsaHashLengthOk at checked
  split at checked
  · rename_i raw
    rw [beq_iff_eq] at raw
    subst raw
    exact ⟨by decide, .inl (by decide)⟩
  · simp only [Bool.and_eq_true, bne_iff_ne, ne_eq, beq_iff_eq] at checked
    obtain ⟨known, same⟩ := checked
    have named : psaAlgSignGetHash alg = psaAlgGetHash alg := by
      refine signGetHash_eq_getHash fun unnamed => known ?_
      rw [unnamed]
      decide
    rw [named] at known same
    refine ⟨fun any => known ?_, .inr ?_⟩
    · rw [any]
      decide
    · rw [same, digestLength_of_hashLength known]

theorem psaAsymmetricSignRsa_ok {wc : WcRsa} {type : KeyType} {keyBuffer : Bytes} {alg : Algorithm}
    {hash : Bytes} {signature : OutBuf} {sig : Bytes}
    (success : psaAsymmetricSignRsa wc type keyBuffer alg hash signature = .ok sig) :
    wcPsaRsaHashLengthOk alg hash.length = true := by
  simp only [psaAsymmetricSignRsa, except_bind_ok_iff, require_ok_iff, exists_const,
    Bool.and_eq_true] at success
  exact success.2.1.2

theorem psaAsymmetricVerifyRsa_ok {wc : WcRsa} {type : KeyType} {keyBuffer : Bytes}
    {alg : Algorithm} {hash signature : Bytes} {u : Unit}
    (success : psaAsymmetricVerifyRsa wc type keyBuffer alg hash signature = .ok u) :
    wcPsaRsaHashLengthOk alg hash.length = true := by
  simp only [psaAsymmetricVerifyRsa, except_bind_ok_iff, require_ok_iff, exists_const,
    Bool.and_eq_true] at success
  exact success.2.1.2

/-- The Edwards back ends take a prehash of 64 bytes only. -/
theorem edCheck_ok {curve : EdCurve} {typeOk : Bool} {bits : Nat} {alg : Algorithm}
    {lengths : List Nat} {hashLength contextLength : Nat} {u : Unit}
    (signHash : psaAlgIsSignHash alg = true)
    (success : edCheck curve typeOk bits alg lengths hashLength contextLength = .ok u) :
    alg = curve.ph ∧ hashLength = 64 := by
  simp only [edCheck, except_bind_ok_iff, require_ok_iff, exists_const, Bool.or_eq_true,
    beq_iff_eq, bne_iff_ne, ne_eq] at success
  obtain ⟨known, -, -, -, -, sized⟩ := success
  have prehash : alg = curve.ph := by
    rcases known with (pure | context) | ph
    · subst pure
      exact absurd signHash (by decide)
    · subst context
      exact absurd signHash (by decide)
    · exact ph
  exact ⟨prehash, sized.resolve_left (not_not_intro prehash)⟩

theorem hashBound_of_prehash {alg : Algorithm} {n : Nat}
    (prehash : alg = psaAlgEd25519ph ∨ alg = psaAlgEd448ph) (sized : n = 64) : HashBound alg n := by
  subst sized
  obtain rfl | rfl := prehash
  · decide
  · decide

theorem signEddsa_ok {curve : EdCurve} {wc : WcEd} {type : KeyType} {bits : Nat}
    {keyBuffer : Bytes} {alg : Algorithm} {hash : Bytes} {signature : OutBuf} {context : InBuf}
    {sig : Bytes} (signHash : psaAlgIsSignHash alg = true)
    (success : signEddsa curve wc type bits keyBuffer alg hash signature context = .ok sig) :
    alg = curve.ph ∧ hash.length = 64 := by
  simp only [signEddsa, except_bind_ok_iff] at success
  obtain ⟨_, checked, -⟩ := success
  exact edCheck_ok signHash checked

theorem verifyEddsa_ok {curve : EdCurve} {wc : WcEd} {type : KeyType} {bits : Nat}
    {keyBuffer : Bytes} {alg : Algorithm} {hash signature : Bytes} {context : InBuf} {u : Unit}
    (signHash : psaAlgIsSignHash alg = true)
    (success : verifyEddsa curve wc type bits keyBuffer alg hash signature context = .ok u) :
    alg = curve.ph ∧ hash.length = 64 := by
  simp only [verifyEddsa, except_bind_ok_iff] at success
  obtain ⟨_, checked, -⟩ := success
  exact edCheck_ok signHash checked

/-! ## What the other back ends have let through -/

theorem requireCurve_ok_iff {build : EccBuild} {type : KeyType} {bits : Nat} {curve : EccCurve} :
    requireCurve build type bits = .ok curve ↔ wcPsaGetEccCurveId build type bits = some curve := by
  unfold requireCurve
  cases wcPsaGetEccCurveId build type bits <;> simp [refuse]

theorem mldsaHash_ok_iff {alg : Algorithm} {hash : MlDsaHash} :
    mldsaHash alg = .ok hash ↔ mldsaPsaHashToWc (psaAlgGetHash alg) = some hash := by
  unfold mldsaHash
  cases mldsaPsaHashToWc (psaAlgGetHash alg) <;> simp [refuse]

theorem psaAsymmetricSignEcc_ok {build : EccBuild} {wc : WcEcc} {type : KeyType} {bits : Nat}
    {keyBuffer : Bytes} {alg : Algorithm} {hash : Bytes} {signature : OutBuf} {sig : Bytes}
    (success : psaAsymmetricSignEcc build wc type bits keyBuffer alg hash signature = .ok sig) :
    psaKeyTypeIsEccKeyPair type = true ∧ psaAlgIsEcdsa alg = true ∧
      (wcPsaGetEccCurveId build type bits).isSome = true ∧ hash.length ≤ uint32Max ∧
      (psaAlgIsDeterministicEcdsa alg = true → (wcPsaGetHashType alg).isSome = true) ∧
      ∃ key der, wc.signHash hash key = .ok der := by
  simp only [psaAsymmetricSignEcc, except_bind_ok_iff, require_ok_iff, exists_const,
    requireCurve_ok_iff, fitWord32_iff, wcCall_ok_iff] at success
  obtain ⟨pair, ecdsa, -, curve, found, fits, _, -, _, -, key, -, -, signer, deterministic, -, der,
    signed, -⟩ := success
  refine ⟨pair, ?_, by simp [found], fits _ (by simp), ?_, signer, der, signed⟩
  · by_contra other
    simp [psaAlgIsDeterministicEcdsa, other] at ecdsa
  · intro asked
    unfold eccSetDeterministic at deterministic
    rw [if_pos asked] at deterministic
    cases hashType : wcPsaGetHashType alg with
    | none =>
      rw [hashType] at deterministic
      cases deterministic
    | some _ => rfl

theorem psaAsymmetricVerifyEcc_ok {build : EccBuild} {wc : WcEcc} {type : KeyType} {bits : Nat}
    {keyBuffer : Bytes} {alg : Algorithm} {hash signature : Bytes} {u : Unit}
    (success : psaAsymmetricVerifyEcc build wc type bits keyBuffer alg hash signature = .ok u) :
    (psaKeyTypeIsEccPublicKey type || psaKeyTypeIsEccKeyPair type) = true ∧
      psaAlgIsEcdsa alg = true ∧ (wcPsaGetEccCurveId build type bits).isSome = true ∧
      hash.length ≤ uint32Max ∧ ∃ der key, wc.verifyHash der hash key = .ok true := by
  simp only [psaAsymmetricVerifyEcc, except_bind_ok_iff, require_ok_iff, exists_const,
    requireCurve_ok_iff, fitWord32_iff, wcCall_ok_iff, verdict_ok_iff] at success
  obtain ⟨ecc, ecdsa, curve, found, fits, _, -, key, -, -, -, der, -, _, verified, rfl⟩ := success
  refine ⟨ecc, ?_, by simp [found], fits _ (by simp), der, key, verified⟩
  by_contra other
  simp [psaAlgIsDeterministicEcdsa, other] at ecdsa

theorem mldsaKeyInit_ok {wc : WcMlDsa} {bits : Nat} {key : wc.Key}
    (success : mldsaKeyInit wc bits = .ok key) : (mldsaBitsToLevel bits).isSome = true := by
  unfold mldsaKeyInit at success
  cases level : mldsaBitsToLevel bits with
  | none =>
    rw [level] at success
    cases success
  | some _ => rfl

theorem wolfpsaMldsaSign_ok {wc : WcMlDsa} {bits : Nat} {keyData : Bytes} {alg : Algorithm}
    {context : InBuf} {input : Bytes} {signature : OutBuf} {sig : Bytes}
    (success : wolfpsaMldsaSign wc bits keyData alg context input true signature = .ok sig) :
    (mldsaBitsToLevel bits).isSome = true ∧ input.length ≤ uint32Max ∧
      (psaAlgIsHedgedHashMlDsa alg || psaAlgIsDeterministicHashMlDsa alg) = true ∧
      ∃ hash key ctx size, mldsaPsaHashToWc (psaAlgGetHash alg) = some hash ∧
        (wc.signCtxHash key ctx size input hash = .ok sig ∨
          wc.signCtxHashWithSeed key ctx size input hash = .ok sig) := by
  simp only [wolfpsaMldsaSign, except_bind_ok_iff, require_ok_iff, exists_const, fitWord32_iff,
    wcCall_ok_iff, Bool.not_true, Bool.false_eq_true, if_false] at success
  obtain ⟨-, -, fits, fresh, level, key, -, sigSize, -, -, signed⟩ := success
  refine ⟨mldsaKeyInit_ok level, fits _ (by simp), ?_⟩
  split at signed
  · rename_i hedged
    simp only [except_bind_ok_iff, mldsaHash_ok_iff, wcCall_ok_iff] at signed
    obtain ⟨hash, named, _, -, signed⟩ := signed
    exact ⟨by simp [hedged], hash, key, _, _, named, .inl signed⟩
  · split at signed
    · rename_i deterministic
      simp only [except_bind_ok_iff, mldsaHash_ok_iff, wcCall_ok_iff] at signed
      obtain ⟨hash, named, signed⟩ := signed
      exact ⟨by simp [deterministic], hash, key, _, _, named, .inr signed⟩
    · cases signed

theorem wolfpsaMldsaVerify_ok {wc : WcMlDsa} {bits : Nat} {type : KeyType} {keyData : Bytes}
    {alg : Algorithm} {context : InBuf} {input signature : Bytes} {u : Unit}
    (success : wolfpsaMldsaVerify wc bits type keyData alg context input true signature = .ok u) :
    (mldsaBitsToLevel bits).isSome = true ∧ input.length ≤ uint32Max ∧
      (type == psaKeyTypeMlDsaPublicKey || type == psaKeyTypeMlDsaKeyPair) = true ∧
      (psaAlgIsHashMlDsa alg || psaAlgIsDeterministicHashMlDsa alg) = true ∧
      ∃ hash key sig ctx, mldsaPsaHashToWc (psaAlgGetHash alg) = some hash ∧
        wc.verifyCtxHash key sig ctx input hash = .ok true := by
  simp only [wolfpsaMldsaVerify, except_bind_ok_iff, require_ok_iff, exists_const, fitWord32_iff,
    Bool.not_true, Bool.false_eq_true, if_false] at success
  obtain ⟨-, fits, fresh, level, key, loaded, verified⟩ := success
  have known : (type == psaKeyTypeMlDsaPublicKey || type == psaKeyTypeMlDsaKeyPair) = true := by
    unfold mldsaVerifyKey at loaded
    split at loaded
    · simp_all
    · split at loaded
      · simp_all
      · cases loaded
  refine ⟨mldsaKeyInit_ok level, fits _ (by simp), known, ?_⟩
  split at verified
  · rename_i family
    simp only [except_bind_ok_iff, mldsaHash_ok_iff, wcCall_ok_iff, verdict_ok_iff] at verified
    obtain ⟨hash, named, _, verified, rfl⟩ := verified
    exact ⟨family, hash, key, _, _, named, verified⟩
  · cases verified

/-! ## Every route of a successful call -/

section Routes

variable {lengths : WcDigestLengths} {env : SignEnv} {attributes : KeyAttributes} {keyData : Bytes}
  {alg : Algorithm} {hash : Bytes} {context : InBuf}

theorem signHashDispatch_ok (respects : RespectsLengths lengths env)
    (signHash : psaAlgIsSignHash alg = true) {signature : OutBuf} {sig : Bytes}
    (success : signHashDispatch env attributes keyData alg hash context signature = .ok sig) :
    HashBound alg hash.length ∨
      goesUnchecked lengths env.build false attributes alg hash.length := by
  unfold signHashDispatch at success
  dsimp only at success
  split at success
  · exact .inl (hashBound_of_rsaCheck (psaAsymmetricSignRsa_ok success))
  split at success
  · split at success
    · obtain ⟨prehash, sized⟩ := signEddsa_ok signHash success
      exact .inl (hashBound_of_prehash (.inl prehash) sized)
    · split at success
      · obtain ⟨prehash, sized⟩ := signEddsa_ok signHash success
        exact .inl (hashBound_of_prehash (.inr prehash) sized)
      · cases success
  split at success
  · obtain ⟨pair, ecdsa, curve, fits, deterministic, key, der, signed⟩ :=
      psaAsymmetricSignEcc_ok success
    refine .inr ⟨fits, .inl ⟨?_, respects.ecc_sign _ _ _ signed⟩⟩
    unfold eccTakes
    rw [ecdsa, curve, pair]
    cases asked : psaAlgIsDeterministicEcdsa alg with
    | false => rfl
    | true => simp [deterministic asked]
  · cases success

theorem signHashWithKey_ok (respects : RespectsLengths lengths env) {signature : OutBuf}
    {sig : Bytes}
    (success : signHashWithKey env attributes keyData alg hash context signature = .ok sig) :
    HashBound alg hash.length ∨
      goesUnchecked lengths env.build false attributes alg hash.length := by
  unfold signHashWithKey at success
  dsimp only at success
  split at success
  · split at success
    · cases success
    split at success
    · split at success
      · cases success
      · rename_i pair
        obtain ⟨level, fits, family, wcHash, key, ctx, size, named, signed⟩ :=
          wolfpsaMldsaSign_ok success
        refine .inr ⟨fits, .inr ⟨wcHash, ?_, ?_⟩⟩
        · unfold mldsaTakes
          rw [if_pos (by simp_all)]
          exact named
        · exact signed.elim (respects.mldsa_sign _ _ _ _ _ _) (respects.mldsa_sign_seed _ _ _ _ _ _)
    · cases success
  split at success
  · cases success
  split at success
  · cases success
  split at success
  · cases success
  · rename_i signHash _ _
    exact signHashDispatch_ok respects (by simpa using signHash) success

theorem verifyHashDispatch_ok (respects : RespectsLengths lengths env)
    (signHash : psaAlgIsSignHash alg = true) {signature : Bytes} {u : Unit}
    (success : verifyHashDispatch env attributes keyData alg hash context signature = .ok u) :
    HashBound alg hash.length ∨
      goesUnchecked lengths env.build true attributes alg hash.length := by
  unfold verifyHashDispatch at success
  dsimp only at success
  split at success
  · exact .inl (hashBound_of_rsaCheck (psaAsymmetricVerifyRsa_ok success))
  split at success
  · split at success
    · obtain ⟨prehash, sized⟩ := verifyEddsa_ok signHash success
      exact .inl (hashBound_of_prehash (.inl prehash) sized)
    · split at success
      · obtain ⟨prehash, sized⟩ := verifyEddsa_ok signHash success
        exact .inl (hashBound_of_prehash (.inr prehash) sized)
      · cases success
  split at success
  · obtain ⟨ecc, ecdsa, curve, fits, der, key, verified⟩ := psaAsymmetricVerifyEcc_ok success
    refine .inr ⟨fits, .inl ⟨?_, respects.ecc_verify _ _ _ verified⟩⟩
    unfold eccTakes
    rw [ecdsa, curve, ecc]
    rfl
  · cases success

theorem verifyHashWithKey_ok (respects : RespectsLengths lengths env) {signature : Bytes}
    {u : Unit}
    (success : verifyHashWithKey env attributes keyData alg hash context signature = .ok u) :
    HashBound alg hash.length ∨
      goesUnchecked lengths env.build true attributes alg hash.length := by
  unfold verifyHashWithKey at success
  dsimp only at success
  split at success
  · split at success
    · cases success
    split at success
    · obtain ⟨level, fits, type, family, wcHash, key, sig, ctx, named, verified⟩ :=
        wolfpsaMldsaVerify_ok success
      refine .inr ⟨fits, .inr ⟨wcHash, ?_, respects.mldsa_verify _ _ _ _ _ verified⟩⟩
      unfold mldsaTakes
      rw [if_pos (by simp [level, type, family])]
      exact named
    · cases success
  split at success
  · cases success
  split at success
  · cases success
  · rename_i signHash _
    exact verifyHashDispatch_ok respects (by simpa using signHash) success

end Routes

/-- A call that succeeds was admitted by the key's policy and took one of the routes. -/
theorem hashCall_success {lengths : WcDigestLengths} {env : SignEnv}
    (respects : RespectsLengths lengths env) {call : HashCall} {attributes : KeyAttributes}
    {keyData : Bytes} (found : env.getKeyData call.key = .ok (attributes, keyData))
    (success : call.status env = .success) :
    wolfpsaAsymmetricCheckAttributes attributes (hashUsage call.verifies) call.alg = .success ∧
      (HashBound call.alg call.hashLength ∨
        goesUnchecked lengths env.build call.verifies attributes call.alg call.hashLength) := by
  have sign (key : KeyId) (alg : Algorithm) (hash context : InBuf) (signature : OutBuf)
      (lengthIsNull : Bool) (found : env.getKeyData key = .ok (attributes, keyData))
      (success : statusOf (wolfpsaSignHashWorker env key alg hash context signature lengthIsNull) =
        .success) :
      wolfpsaAsymmetricCheckAttributes attributes psaKeyUsageSignHash alg = .success ∧
        (HashBound alg hash.length ∨
          goesUnchecked lengths env.build false attributes alg hash.length) := by
    obtain ⟨sig, success⟩ := statusOf_success_iff.mp success
    simp only [wolfpsaSignHashWorker, except_bind_ok_iff, require_ok_iff, requireStatus_ok_iff,
      wolfpsaAsymmetricCheckKey_ok_iff, exists_const, found, Except.ok.injEq] at success
    obtain ⟨-, present, -, _, ⟨rfl, admitted⟩, -, signed⟩ := success
    cases hash with
    | null n => cases present
    | data bytes => exact ⟨admitted, signHashWithKey_ok respects signed⟩
  have verify (key : KeyId) (alg : Algorithm) (hash context signature : InBuf)
      (found : env.getKeyData key = .ok (attributes, keyData))
      (success : statusOf (wolfpsaVerifyHashWorker env key alg hash context signature) = .success) :
      wolfpsaAsymmetricCheckAttributes attributes psaKeyUsageVerifyHash alg = .success ∧
        (HashBound alg hash.length ∨
          goesUnchecked lengths env.build true attributes alg hash.length) := by
    obtain ⟨u, success⟩ := statusOf_success_iff.mp success
    simp only [wolfpsaVerifyHashWorker, except_bind_ok_iff, require_ok_iff, requireStatus_ok_iff,
      wolfpsaAsymmetricCheckKey_ok_iff, exists_const, found, Except.ok.injEq] at success
    obtain ⟨readable, -, _, ⟨rfl, admitted⟩, -, -, verified⟩ := success
    refine ⟨admitted, ?_⟩
    cases hash with
    | null n =>
      -- NULL is read as the empty hash, and only with length 0.
      have empty : n = 0 := by simpa [InBuf.isNull, InBuf.length] using readable
      subst empty
      exact verifyHashWithKey_ok respects verified
    | data bytes => exact verifyHashWithKey_ok respects verified
  cases call with
  | signHash key alg hash signature lengthIsNull => exact sign _ _ _ _ _ _ found success
  | signHashWithContext key alg hash context signature lengthIsNull =>
    exact sign _ _ _ _ _ _ found success
  | verifyHash key alg hash signature => exact verify _ _ _ _ _ found success
  | verifyHashWithContext key alg hash context signature => exact verify _ _ _ _ _ found success

/-! ## The routes without the check are open -/

/-- The accepting wolfCrypt held to its hash lengths. -/
def lengthEnv (lengths : WcDigestLengths) (build : EccBuild) (attributes : KeyAttributes) :
    SignEnv :=
  { acceptingEnv build attributes (List.replicate wolfpsaMldsaSeedSize 0) with
    ecc :=
      { acceptingEcc with
        signHash := fun hash _ => if lengths.ecc hash.length then .ok [] else .error .badFuncArg
        verifyHash := fun _ hash _ => .ok (lengths.ecc hash.length) }
    mldsa :=
      { acceptingMlDsa with
        signCtxHash := fun _ _ _ input hash =>
          if lengths.mldsa hash input.length then .ok [] else .error .badFuncArg
        signCtxHashWithSeed := fun _ _ _ input hash =>
          if lengths.mldsa hash input.length then .ok [] else .error .badFuncArg
        verifyCtxHash := fun _ _ _ input hash => .ok (lengths.mldsa hash input.length) } }

theorem lengthEnv_respects (lengths : WcDigestLengths) (build : EccBuild)
    (attributes : KeyAttributes) :
    RespectsLengths lengths (lengthEnv lengths build attributes) where
  ecc_sign hash _ _ signed := by
    by_contra refused
    simp [lengthEnv, refused] at signed
  ecc_verify _ _ _ verified := Except.ok.inj verified
  mldsa_sign _ _ _ input hash _ signed := by
    by_contra refused
    simp [lengthEnv, refused] at signed
  mldsa_sign_seed _ _ _ input hash _ signed := by
    by_contra refused
    simp [lengthEnv, refused] at signed
  mldsa_verify _ _ _ _ _ verified := Except.ok.inj verified

/-- A request over `n` zero bytes, with room for any signature. -/
def zeroHashCall (verifies : Bool) (alg : Algorithm) (n signatureLength : Nat) : HashCall :=
  if verifies then
    .verifyHash 1 alg (.data (List.replicate n 0)) (.data (List.replicate signatureLength 0))
  else .signHash 1 alg (.data (List.replicate n 0)) ⟨false, signatureLength⟩ false

/-- A curve of the build is neither empty nor an Edwards curve. -/
theorem curve_facts {build : EccBuild} {type : KeyType} {bits : Nat}
    (known : (wcPsaGetEccCurveId build type bits).isSome = true) :
    0 < bits ∧ type ≠ psaKeyTypeEccKeyPair psaEccFamilyTwistedEdwards ∧
      type ≠ psaKeyTypeEccPublicKey psaEccFamilyTwistedEdwards := by
  unfold wcPsaGetEccCurveId at known
  rw [Option.isSome_map, List.find?_isSome] at known
  obtain ⟨entry, listed, hit⟩ := known
  simp only [Bool.and_eq_true, beq_iff_eq] at hit
  obtain ⟨⟨family, size⟩, -⟩ := hit
  have facts : 0 < entry.2.1 ∧ entry.1 ≠ psaEccFamilyTwistedEdwards := by
    simp only [List.mem_cons, List.not_mem_nil, or_false] at listed
    rcases listed with rfl | rfl | rfl | rfl | rfl | rfl | rfl | rfl | rfl | rfl | rfl | rfl | rfl
      <;> (constructor <;> dsimp only <;> decide)
  refine ⟨size ▸ facts.1, ?_, ?_⟩
  · rintro rfl
    exact facts.2 (family.trans (by decide))
  · rintro rfl
    exact facts.2 (family.trans (by decide))

/-- A key type of the elliptic-curve families is handled by no branch before the ECC one. -/
theorem ecc_type_facts {type : KeyType}
    (ecc : (psaKeyTypeIsEccPublicKey type || psaKeyTypeIsEccKeyPair type) = true) :
    psaKeyTypeIsEcc type = true ∧ psaKeyTypeIsMlDsa type = false ∧
      psaKeyTypeIsRsa type = false ∧ isHashBasedKey type = false := by
  have swap : psaKeyTypePublicKeyOfKeyPair type &&& ~~~psaKeyTypeEccCurveMask =
      type &&& ~~~psaKeyTypeEccCurveMask &&& ~~~psaKeyTypeCategoryFlagPair := by
    unfold psaKeyTypePublicKeyOfKeyPair
    rw [BitVec.and_assoc, BitVec.and_assoc, BitVec.and_comm (~~~psaKeyTypeCategoryFlagPair)]
  have family : psaKeyTypePublicKeyOfKeyPair type &&& ~~~psaKeyTypeEccCurveMask =
      psaKeyTypeEccPublicKeyBase := by
    rw [swap]
    simp only [psaKeyTypeIsEccPublicKey, psaKeyTypeIsEccKeyPair, Bool.or_eq_true, beq_iff_eq] at ecc
    obtain single | pair := ecc
    · rw [single]
      decide
    · rw [pair]
      decide
  have outside {other : KeyType}
      (apart : other &&& ~~~psaKeyTypeEccCurveMask ≠ psaKeyTypeEccPublicKeyBase) :
      (psaKeyTypePublicKeyOfKeyPair type == other) = false :=
    beq_eq_false_iff_ne.mpr fun same => apart (same ▸ family)
  refine ⟨by simpa [psaKeyTypeIsEcc] using family, outside (by decide), outside (by decide), ?_⟩
  have not_type {other : KeyType} (apart : psaKeyTypePublicKeyOfKeyPair other &&&
      ~~~psaKeyTypeEccCurveMask ≠ psaKeyTypeEccPublicKeyBase) : (type == other) = false :=
    beq_eq_false_iff_ne.mpr fun same => apart (same ▸ family)
  unfold isHashBasedKey
  simp only [not_type (show psaKeyTypePublicKeyOfKeyPair psaKeyTypeLmsPublicKey &&&
      ~~~psaKeyTypeEccCurveMask ≠ psaKeyTypeEccPublicKeyBase by decide),
    not_type (show psaKeyTypePublicKeyOfKeyPair psaKeyTypeHssPublicKey &&&
      ~~~psaKeyTypeEccCurveMask ≠ psaKeyTypeEccPublicKeyBase by decide),
    not_type (show psaKeyTypePublicKeyOfKeyPair psaKeyTypeXmssPublicKey &&&
      ~~~psaKeyTypeEccCurveMask ≠ psaKeyTypeEccPublicKeyBase by decide),
    not_type (show psaKeyTypePublicKeyOfKeyPair psaKeyTypeXmssMtPublicKey &&&
      ~~~psaKeyTypeEccCurveMask ≠ psaKeyTypeEccPublicKeyBase by decide), Bool.or_self]

/-- The family of an algorithm under a wider mask. -/
theorem mask_narrow {a m k v : Algorithm} (family : a &&& m = v) : a &&& (m &&& k) = v &&& k := by
  rw [← BitVec.and_assoc, family]

theorem isSignHash_of_ecdsa {alg : Algorithm} (ecdsa : psaAlgIsEcdsa alg = true) :
    psaAlgIsSignHash alg = true := by
  have family : alg &&& ~~~psaAlgHashMask &&& ~~~psaAlgEcdsaDeterministicFlag = psaAlgEcdsaBase := by
    simpa [psaAlgIsEcdsa] using ecdsa
  rw [BitVec.and_assoc] at family
  have category : alg &&& psaAlgCategoryMask = psaAlgCategorySign :=
    mask_narrow (k := psaAlgCategoryMask) family
  have other {value : Algorithm} (apart : value &&& (~~~psaAlgHashMask &&&
      ~~~psaAlgEcdsaDeterministicFlag) ≠ psaAlgEcdsaBase) : (alg != value) = true :=
    bne_iff_ne.mpr fun same => apart (same ▸ family)
  simp only [psaAlgIsSignHash, psaAlgIsSign, category, BEq.rfl, Bool.true_and,
    other (show psaAlgPureEddsa &&& (~~~psaAlgHashMask &&& ~~~psaAlgEcdsaDeterministicFlag) ≠
      psaAlgEcdsaBase by decide),
    other (show psaAlgEddsaCtx &&& (~~~psaAlgHashMask &&& ~~~psaAlgEcdsaDeterministicFlag) ≠
      psaAlgEcdsaBase by decide)]

theorem hashMlDsa_of_hedged {alg : Algorithm}
    (family : (psaAlgIsHedgedHashMlDsa alg || psaAlgIsDeterministicHashMlDsa alg) = true) :
    (psaAlgIsHashMlDsa alg || psaAlgIsDeterministicHashMlDsa alg) = true := by
  simp only [Bool.or_eq_true] at family ⊢
  refine family.imp_left fun hedged => ?_
  simp only [psaAlgIsHedgedHashMlDsa, isHashFamily, beq_iff_eq] at hedged
  simp only [psaAlgIsHashMlDsa, beq_iff_eq]
  exact mask_narrow (k := ~~~0x00000100) hedged

theorem not_mlDsa_of_hashMlDsa {alg : Algorithm}
    (family : (psaAlgIsHashMlDsa alg || psaAlgIsDeterministicHashMlDsa alg) = true) :
    psaAlgIsMlDsa alg = false := by
  have wide : alg &&& ~~~0x000001ff = 0x06004600 := by
    simp only [Bool.or_eq_true, psaAlgIsHashMlDsa, psaAlgIsDeterministicHashMlDsa, isHashFamily,
      beq_iff_eq] at family
    obtain hash | deterministic := family
    · exact hash
    · exact mask_narrow (k := ~~~0x00000100) deterministic
  refine beq_eq_false_iff_ne.mpr fun pure => ?_
  have narrow : alg &&& ~~~0x000001ff = 0x06004400 := mask_narrow (k := ~~~0x000000ff) pure
  rw [wide] at narrow
  exact absurd narrow (by decide)

section Open

variable {lengths : WcDigestLengths} {build : EccBuild} {attributes : KeyAttributes}
  {alg : Algorithm} {n : Nat}

theorem replicate_fits {m : Nat} (fits : n ≤ uint32Max) (small : m ≤ uint32Max) :
    fitWord32 [m, (List.replicate n (0 : Byte)).length] = true := by
  refine fitWord32_iff.mpr ?_
  simp [fits, small]

/-- The zero-hash signature request passes every check up to the key type. -/
theorem zeroSign_success
    (admitted : wolfpsaAsymmetricCheckAttributes attributes psaKeyUsageSignHash alg = .success)
    {size : Nat} (signed : ∃ sig, signHashWithKey (lengthEnv lengths build attributes) attributes
      (List.replicate wolfpsaMldsaSeedSize 0) alg (List.replicate n 0) (.null 0) ⟨false, size⟩ =
        .ok sig) :
    (zeroHashCall false alg n size).status (lengthEnv lengths build attributes) = .success := by
  obtain ⟨sig, signed⟩ := signed
  refine statusOf_success_iff.mpr ⟨sig, ?_⟩
  simp only [psaSignHash, wolfpsaSignHashWorker, except_bind_ok_iff, require_ok_iff,
    requireStatus_ok_iff, wolfpsaAsymmetricCheckKey_ok_iff, exists_const]
  exact ⟨rfl, rfl, rfl, _, ⟨rfl, admitted⟩, rfl, signed⟩

theorem zeroVerify_success
    (admitted : wolfpsaAsymmetricCheckAttributes attributes psaKeyUsageVerifyHash alg = .success)
    {size : Nat} (nonempty : size ≠ 0)
    (verified : verifyHashWithKey (lengthEnv lengths build attributes) attributes
      (List.replicate wolfpsaMldsaSeedSize 0) alg (List.replicate n 0) (.null 0)
        (List.replicate size 0) = .ok ()) :
    (zeroHashCall true alg n size).status (lengthEnv lengths build attributes) = .success := by
  refine statusOf_success_iff.mpr ⟨(), ?_⟩
  simp only [psaVerifyHash, wolfpsaVerifyHashWorker, except_bind_ok_iff, require_ok_iff,
    requireStatus_ok_iff, wolfpsaAsymmetricCheckKey_ok_iff, exists_const]
  refine ⟨by simp [InBuf.isNull], by simp [InBuf.isNull], _, ⟨rfl, admitted⟩, ?_, rfl, verified⟩
  simpa [InBuf.length] using nonempty

/-- Every ECDSA signature request the back end takes succeeds. -/
theorem signHash_ecc_open (takes : eccTakes build false attributes alg = true)
    (fits : n ≤ uint32Max) (admits : lengths.ecc n = true) {size : Nat}
    (room : psaBitsToBytes attributes.bits.toNat * 2 ≤ size)
    (output : wolfpsaSignOutputSize attributes.type attributes.bits.toNat ≤ size) :
    ∃ sig, signHashWithKey (lengthEnv lengths build attributes) attributes
      (List.replicate wolfpsaMldsaSeedSize 0) alg (List.replicate n 0) (.null 0) ⟨false, size⟩ =
        .ok sig := by
  simp only [eccTakes, Bool.false_eq_true, if_false, Bool.and_eq_true] at takes
  obtain ⟨⟨ecdsa, known⟩, pair, hashType⟩ := takes
  obtain ⟨ecc, notMlDsa, notRsa, notHashBased⟩ :=
    ecc_type_facts (show (psaKeyTypeIsEccPublicKey attributes.type ||
      psaKeyTypeIsEccKeyPair attributes.type) = true by simp [pair])
  obtain ⟨-, notEdwards, -⟩ := curve_facts known
  obtain ⟨curve, curveId⟩ := Option.isSome_iff_exists.mp known
  unfold signHashWithKey
  simp only [notMlDsa, isSignHash_of_ecdsa ecdsa, notHashBased, Bool.not_true, Bool.false_eq_true,
    if_false, Nat.not_lt.mpr output, decide_false, Bool.and_false]
  unfold signHashDispatch
  simp only [notRsa, beq_eq_false_iff_ne.mpr notEdwards, ecc, Bool.false_eq_true, if_false, if_true]
  simp only [psaAsymmetricSignEcc, except_bind_ok_iff, require_ok_iff, exists_const,
    requireCurve_ok_iff, wcCall_ok_iff]
  have signer : eccSetDeterministic (lengthEnv lengths build attributes).ecc alg () = .ok () := by
    unfold eccSetDeterministic
    split
    · rename_i asked
      rw [asked] at hashType
      obtain ⟨chosen, found⟩ := Option.isSome_iff_exists.mp (by simpa using hashType)
      rw [found]
      rfl
    · rfl
  have signs : (lengthEnv lengths build attributes).ecc.signHash (List.replicate n 0) () = .ok [] :=
    if_pos (by simpa using admits)
  exact ⟨_, pair, by simp [ecdsa], rfl, curve, curveId, replicate_fits fits (by decide), (), rfl,
    (), rfl, (), rfl, by simpa using room, (), signer, rfl, [], signs, rfl, ([], []), rfl, rfl, rfl⟩

/-- Every ECDSA verification request the back end takes succeeds. -/
theorem verifyHash_ecc_open (takes : eccTakes build true attributes alg = true)
    (fits : n ≤ uint32Max) (admits : lengths.ecc n = true) :
    verifyHashWithKey (lengthEnv lengths build attributes) attributes
      (List.replicate wolfpsaMldsaSeedSize 0) alg (List.replicate n 0) (.null 0)
      (List.replicate (psaBitsToBytes attributes.bits.toNat * 2) 0) = .ok () := by
  simp only [eccTakes, if_true, Bool.and_eq_true] at takes
  obtain ⟨⟨ecdsa, known⟩, type⟩ := takes
  obtain ⟨ecc, notMlDsa, notRsa, notHashBased⟩ := ecc_type_facts type
  obtain ⟨-, notPair, notSingle⟩ := curve_facts known
  obtain ⟨curve, curveId⟩ := Option.isSome_iff_exists.mp known
  unfold verifyHashWithKey
  simp only [notMlDsa, isSignHash_of_ecdsa ecdsa, notHashBased, Bool.not_true, Bool.false_eq_true,
    if_false]
  unfold verifyHashDispatch
  simp only [notRsa, beq_eq_false_iff_ne.mpr notPair, beq_eq_false_iff_ne.mpr notSingle, ecc,
    Bool.or_self, Bool.false_eq_true, if_false, if_true]
  simp only [psaAsymmetricVerifyEcc, except_bind_ok_iff, require_ok_iff, exists_const,
    requireCurve_ok_iff, wcCall_ok_iff, verdict_ok_iff]
  have imported : (if psaKeyTypeIsEccPublicKey attributes.type = true then
      (lengthEnv lengths build attributes).ecc.importX963
        (List.replicate wolfpsaMldsaSeedSize 0) curve
      else (lengthEnv lengths build attributes).ecc.importPrivateKey
        (List.replicate wolfpsaMldsaSeedSize 0) curve >>=
          (lengthEnv lengths build attributes).ecc.makePub) = .ok () := by
    split
    · rfl
    · rfl
  have verified : (lengthEnv lengths build attributes).ecc.verifyHash [] (List.replicate n 0) () =
      .ok true := by
    simpa [lengthEnv] using admits
  exact ⟨type, by simp [ecdsa], curve, curveId, replicate_fits fits (by decide), (), rfl, (),
    imported, by simp, rfl, [], rfl, true, verified, rfl⟩

/-- What `mldsaTakes` says of the request. -/
theorem mldsaTakes_some {verifies : Bool} {hash : MlDsaHash}
    (takes : mldsaTakes verifies attributes alg = some hash) :
    ∃ level, mldsaBitsToLevel attributes.bits.toNat = some level ∧
      mldsaPsaHashToWc (psaAlgGetHash alg) = some hash ∧
      if verifies then
        (attributes.type = psaKeyTypeMlDsaPublicKey ∨ attributes.type = psaKeyTypeMlDsaKeyPair) ∧
          (psaAlgIsHashMlDsa alg || psaAlgIsDeterministicHashMlDsa alg) = true
      else attributes.type = psaKeyTypeMlDsaKeyPair ∧
        (psaAlgIsHedgedHashMlDsa alg || psaAlgIsDeterministicHashMlDsa alg) = true := by
  unfold mldsaTakes at takes
  rw [Option.ite_none_right_eq_some, Bool.and_eq_true, Option.isSome_iff_exists] at takes
  obtain ⟨⟨⟨level, found⟩, request⟩, named⟩ := takes
  refine ⟨level, found, named, ?_⟩
  cases verifies with
  | false => simpa [Bool.and_eq_true] using request
  | true => simpa [Bool.and_eq_true] using request

/-- Every HashML-DSA signature request the back end takes succeeds. -/
theorem signHash_mldsa_open {hash : MlDsaHash}
    (takes : mldsaTakes false attributes alg = some hash) (fits : n ≤ uint32Max)
    (admits : lengths.mldsa hash n = true) {size : Nat} (small : size ≤ uint32Max) :
    ∃ sig, signHashWithKey (lengthEnv lengths build attributes) attributes
      (List.replicate wolfpsaMldsaSeedSize 0) alg (List.replicate n 0) (.null 0) ⟨false, size⟩ =
        .ok sig := by
  obtain ⟨level, found, named, request⟩ := mldsaTakes_some takes
  simp only [Bool.false_eq_true, if_false] at request
  obtain ⟨type, family⟩ := request
  have mldsa : psaKeyTypeIsMlDsa psaKeyTypeMlDsaKeyPair = true := by decide
  have hashFamily := hashMlDsa_of_hedged family
  have fresh : mldsaKeyInit (lengthEnv lengths build attributes).mldsa attributes.bits.toNat =
      .ok () := by
    unfold mldsaKeyInit
    rw [found]
    rfl
  have sized : fitWord32 [(List.replicate n (0 : Byte)).length, size] = true := by
    refine fitWord32_iff.mpr ?_
    simp [fits, small]
  refine ⟨[], ?_⟩
  unfold signHashWithKey
  simp only [type, mldsa, not_mlDsa_of_hashMlDsa hashFamily, hashFamily, bne_self_eq_false,
    Bool.false_eq_true, if_false, if_true]
  simp only [wolfpsaMldsaSign, except_bind_ok_iff, require_ok_iff, exists_const, wcCall_ok_iff,
    Bool.not_true, Bool.false_eq_true, if_false]
  refine ⟨rfl, rfl, sized, (), fresh, (), rfl, 0, rfl, by simp, ?_⟩
  split
  · simp only [except_bind_ok_iff, mldsaHash_ok_iff, wcCall_ok_iff]
    exact ⟨hash, named, (), rfl, if_pos (by simpa using admits)⟩
  · rename_i notHedged
    have deterministic : psaAlgIsDeterministicHashMlDsa alg = true := by simpa [notHedged] using family
    simp only [deterministic, if_true, except_bind_ok_iff, mldsaHash_ok_iff, wcCall_ok_iff]
    exact ⟨hash, named, if_pos (by simpa using admits)⟩

/-- Every HashML-DSA verification request the back end takes succeeds. -/
theorem verifyHash_mldsa_open {hash : MlDsaHash}
    (takes : mldsaTakes true attributes alg = some hash) (fits : n ≤ uint32Max)
    (admits : lengths.mldsa hash n = true) {size : Nat} (small : size ≤ uint32Max) :
    verifyHashWithKey (lengthEnv lengths build attributes) attributes
      (List.replicate wolfpsaMldsaSeedSize 0) alg (List.replicate n 0) (.null 0)
      (List.replicate size 0) = .ok () := by
  obtain ⟨level, found, named, request⟩ := mldsaTakes_some takes
  simp only [if_true] at request
  obtain ⟨type, family⟩ := request
  have mldsa : psaKeyTypeIsMlDsa attributes.type = true := by
    obtain single | pair := type
    · rw [single]
      decide
    · rw [pair]
      decide
  have fresh : mldsaKeyInit (lengthEnv lengths build attributes).mldsa attributes.bits.toNat =
      .ok () := by
    unfold mldsaKeyInit
    rw [found]
    rfl
  have loaded : mldsaVerifyKey (lengthEnv lengths build attributes).mldsa attributes.type ()
      (List.replicate wolfpsaMldsaSeedSize 0) = .ok () := by
    obtain single | pair := type
    · rw [single]
      rfl
    · rw [pair]
      rfl
  have sized : fitWord32 [(List.replicate wolfpsaMldsaSeedSize (0 : Byte)).length,
      (List.replicate n (0 : Byte)).length, (List.replicate size (0 : Byte)).length] = true := by
    refine fitWord32_iff.mpr ?_
    simp only [List.length_replicate, List.mem_cons, List.not_mem_nil, or_false, forall_eq_or_imp,
      forall_eq]
    exact ⟨by decide, fits, small⟩
  unfold verifyHashWithKey
  simp only [mldsa, not_mlDsa_of_hashMlDsa family, family, Bool.false_eq_true, if_false, if_true]
  simp only [wolfpsaMldsaVerify, family, except_bind_ok_iff, require_ok_iff, exists_const,
    wcCall_ok_iff, verdict_ok_iff, mldsaHash_ok_iff, Bool.not_true, Bool.false_eq_true, if_false,
    if_true]
  refine ⟨rfl, sized, (), fresh, (), loaded, hash, named, true, ?_, rfl⟩
  simpa [lengthEnv] using admits

end Open

/-- Where a request passes to wolfCrypt unchecked, some call for it succeeds. -/
theorem unchecked_call_succeeds {lengths : WcDigestLengths} {build : EccBuild} {verifies : Bool}
    {attributes : KeyAttributes} {alg : Algorithm} {n : Nat}
    (admitted : wolfpsaAsymmetricCheckAttributes attributes (hashUsage verifies) alg = .success)
    (open_ : goesUnchecked lengths build verifies attributes alg n) :
    ∃ size, (zeroHashCall verifies alg n size).status (lengthEnv lengths build attributes) =
      .success := by
  obtain ⟨fits, ⟨takes, admits⟩ | ⟨hash, takes, admits⟩⟩ := open_
  · cases verifies with
    | false =>
      refine ⟨max (psaBitsToBytes attributes.bits.toNat * 2)
        (wolfpsaSignOutputSize attributes.type attributes.bits.toNat), ?_⟩
      exact zeroSign_success admitted
        (signHash_ecc_open takes fits admits (Nat.le_max_left _ _) (Nat.le_max_right _ _))
    | true =>
      refine ⟨_, zeroVerify_success admitted ?_ (verifyHash_ecc_open takes fits admits)⟩
      simp only [eccTakes, Bool.and_eq_true] at takes
      obtain ⟨positive, -⟩ := curve_facts takes.1.2
      unfold psaBitsToBytes
      omega
  · cases verifies with
    | false =>
      exact ⟨0, zeroSign_success admitted (signHash_mldsa_open takes fits admits (by decide))⟩
    | true =>
      exact ⟨1, zeroVerify_success admitted (by decide)
        (verifyHash_mldsa_open takes fits admits (by decide))⟩

/-- The rule is kept for a request exactly where the RSA or Edwards check, or the policy, stands
before wolfCrypt, or where the request obeys the rule of itself. -/
theorem hash_binding_iff (lengths : WcDigestLengths) (build : EccBuild) (verifies : Bool)
    (attributes : KeyAttributes) (alg : Algorithm) (n : Nat) :
    HashBinds lengths build verifies attributes alg n ↔
      (wolfpsaAsymmetricCheckAttributes attributes (hashUsage verifies) alg = .success →
        goesUnchecked lengths build verifies attributes alg n → HashBound alg n) := by
  constructor
  · intro binds admitted open_
    obtain ⟨size, success⟩ := unchecked_call_succeeds admitted open_
    refine binds _ rfl (lengthEnv_respects lengths build attributes) (zeroHashCall verifies alg n size)
      ?_ ?_ ?_ ⟨_, rfl⟩ success
    · cases verifies <;> rfl
    · cases verifies <;> rfl
    · cases verifies <;> simp [zeroHashCall, HashCall.hashLength, InBuf.length]
  · rintro condition env rfl respects call rfl rfl rfl ⟨keyData, found⟩ success
    obtain ⟨admitted, bound | open_⟩ := hashCall_success respects found success
    · exact bound
    · exact condition admitted open_

/-- A P-256 key pair for `PSA_ALG_ECDSA(PSA_ALG_SHA_256)`. -/
def p256Attributes : KeyAttributes :=
  { psaKeyAttributesInit with
    type := psaKeyTypeEccKeyPair psaEccFamilySecpR1
    bits := 256
    usage := psaKeyUsageSignHash
    alg := psaAlgEcdsa psaAlgSha256 }

/-- ECDSA with SHA-256 signs a hash of 48 bytes. -/
theorem ecdsa_sha256_signs_48_bytes :
    (HashCall.signHash 1 (psaAlgEcdsa psaAlgSha256) (.data (List.replicate 48 0)) ⟨false, 64⟩
        false).status
      (acceptingEnv ⟨false, false, false, false, true, true⟩ p256Attributes
        (List.replicate 32 1)) = .success ∧
      ¬ HashBound (psaAlgEcdsa psaAlgSha256) 48 := by
  constructor
  · rfl
  · decide

end WolfPSA.Guarantees
