import WolfPSA.Guarantees.KdfUsage
import WolfPSA.Source.KeyAgreement
import WolfPSA.Source.KeyDerivationMoves

/-!
# The key-agreement barrier

A key permitted for `PSA_ALG_KEY_AGREEMENT(PSA_ALG_ECDH, F)` has its shared secret computed behind
one predicate, which compares base and KDF, so the secret reaches derivations by `F` and nothing
else: two runs that differ in nothing but the secrets of that key agree on all that is not derived
by `F`. The predicate of `psa_key_derivation_input_key` compares the KDF alone, through a mask that
drops `PSA_ALG_KEY_DERIVATION_STRETCHING_FLAG`, and `psa_key_derivation_verify_key` has none.
-/

namespace WolfPSA.Guarantees
open Lib Source

variable {Hmac Cmac : Type}

def psaAlgKeyDerivationStretchingFlag : Algorithm := 0x00800000

/-- A key derivation algorithm other than the raw one, with the fields it shares with the key
agreement algorithm left to that. -/
structure RealKdf (F : Algorithm) : Prop where
  derivation : psaAlgIsKeyDerivation F = true
  encoded : F &&& 0x007f0000#32 = 0#32
  named : F ≠ psaAlgCategoryKeyDerivation

/-- Every algorithm that `psa_key_derivation_setup` takes by itself is one, the raw one apart. -/
theorem realKdf_of_setup {env : KdfEnv Hmac Cmac} {F : Algorithm} {ctx : KdfCtx}
    (created : kdfSetupCtx env F = .ok ctx) (derivation : psaAlgIsKeyDerivation F = true)
    (named : F ≠ psaAlgCategoryKeyDerivation) : RealKdf F := by
  have family {base : Algorithm} (clear : base &&& 0x007f0000#32 = 0#32)
      (member : isHashFamily base F = true) : F &&& 0x007f0000#32 = 0#32 := by
    rw [isHashFamily, beq_iff_eq] at member
    rw [← clear, ← member, psaAlgHashMask, BitVec.and_assoc]
    rfl
  refine ⟨derivation, ?_, named⟩
  have alone : psaAlgIsKeyAgreement F = false := by
    rw [psaAlgIsKeyDerivation, beq_iff_eq] at derivation
    rw [psaAlgIsKeyAgreement, derivation]
    rfl
  unfold kdfSetupCtx at created
  simp only [derivation, alone, Bool.or_false, Bool.not_true, Bool.false_eq_true, if_false,
    Bool.false_and] at created
  split at created
  · cases created
  · rename_i supported
    simp only [psaAlgIsAnyHkdf, psaAlgIsHkdf, psaAlgIsHkdfExtract, psaAlgIsHkdfExpand,
      psaAlgIsTls12Prf, psaAlgIsTls12PskToMs, psaAlgIsPbkdf2, psaAlgIsPbkdf2Hmac,
      psaAlgIsSp800_108CounterHmac, Bool.not_eq_true', Bool.not_eq_false, Bool.or_eq_true,
      beq_iff_eq, named, or_false] at supported
    rcases supported with (((((((m | m) | m) | m) | m) | m) | m) | (m | rfl)) | rfl
    iterate 8 exact family (by decide) m
    · decide
    · decide

/-! ## The policy -/

private theorem or_absorb (x y : Algorithm) : x ||| (x ||| y) ||| x = x ||| y := by
  rw [← BitVec.or_assoc, BitVec.or_self, BitVec.or_assoc, BitVec.or_comm y x, ← BitVec.or_assoc,
    BitVec.or_self]

section

variable {F : Algorithm}

theorem RealKdf.fields (real : RealKdf F) :
    F = psaAlgCategoryKeyDerivation ||| F &&& 0x8080ffff#32 := by
  have category : F &&& psaAlgCategoryMask = psaAlgCategoryKeyDerivation := by
    simpa [psaAlgIsKeyDerivation] using real.derivation
  calc
    F = F &&& psaAlgCategoryMask ||| (F &&& 0x007f0000#32 ||| F &&& 0x8080ffff#32) := by
      rw [← BitVec.and_or_distrib_left, ← BitVec.and_or_distrib_left]
      exact BitVec.and_allOnes.symm
    _ = psaAlgCategoryKeyDerivation ||| F &&& 0x8080ffff#32 := by
      rw [category, real.encoded, BitVec.zero_or]

theorem isKeyAgreement_policy (real : RealKdf F) :
    psaAlgIsKeyAgreement (psaAlgKeyAgreement psaAlgEcdh F) = true := by
  rw [real.fields]
  simp [psaAlgIsKeyAgreement, psaAlgKeyAgreement, psaAlgEcdh, psaAlgCategoryMask,
    psaAlgCategoryKeyAgreement, psaAlgCategoryKeyDerivation, BitVec.and_or_distrib_right,
    BitVec.and_assoc]

/-- The KDF read back from the policy has lost the stretching flag. -/
theorem getKdf_policy (real : RealKdf F) :
    psaAlgKeyAgreementGetKdf (psaAlgKeyAgreement psaAlgEcdh F) =
      F &&& ~~~psaAlgKeyDerivationStretchingFlag := by
  rw [real.fields]
  simp [psaAlgKeyAgreementGetKdf, psaAlgKeyAgreement, psaAlgEcdh, psaAlgKeyDerivationMask,
    psaAlgKeyDerivationStretchingFlag, psaAlgCategoryKeyDerivation, BitVec.and_or_distrib_right,
    BitVec.and_assoc, or_absorb]

/-- The base algorithm of the policy is ECDH only if the flag was not set. -/
theorem getKdf_of_base (real : RealKdf F)
    (base : psaAlgKeyAgreementGetBase (psaAlgKeyAgreement psaAlgEcdh F) = psaAlgEcdh) :
    psaAlgKeyAgreementGetKdf (psaAlgKeyAgreement psaAlgEcdh F) = F := by
  have high : F &&& 0x80800000#32 = 0#32 := by
    have masked := congrArg (· &&& 0x80800000#32) base
    simpa [psaAlgKeyAgreementGetBase, psaAlgKeyAgreement, psaAlgEcdh, psaAlgKeyAgreementMask,
      psaAlgCategoryKeyAgreement, BitVec.and_or_distrib_right, BitVec.and_assoc] using masked
  have clear : F &&& psaAlgKeyDerivationStretchingFlag = 0#32 := by
    have masked := congrArg (· &&& psaAlgKeyDerivationStretchingFlag) high
    simpa [psaAlgKeyDerivationStretchingFlag, BitVec.and_assoc] using masked
  calc
    psaAlgKeyAgreementGetKdf (psaAlgKeyAgreement psaAlgEcdh F)
      = F &&& ~~~psaAlgKeyDerivationStretchingFlag ||| F &&& psaAlgKeyDerivationStretchingFlag := by
        rw [getKdf_policy real, clear, BitVec.or_zero]
    _ = F := by
      rw [← BitVec.and_or_distrib_left]
      exact BitVec.and_allOnes

/-- The KDF of an agreement algorithm survives being joined to ECDH again. -/
theorem getKdf_rejoined (alg : Algorithm) :
    psaAlgKeyAgreementGetKdf (psaAlgKeyAgreement psaAlgEcdh (psaAlgKeyAgreementGetKdf alg)) =
      psaAlgKeyAgreementGetKdf alg := by
  simp only [psaAlgKeyAgreementGetKdf, BitVec.or_comm (alg &&& psaAlgKeyDerivationMask)]
  simp [psaAlgKeyAgreement, psaAlgEcdh, psaAlgKeyDerivationMask, psaAlgCategoryKeyDerivation,
    BitVec.and_or_distrib_right, BitVec.and_assoc, or_absorb]

/-- The key is permitted for agreement into `F` and nothing else, and has no second algorithm. -/
def OnlyInto (F : Algorithm) (K : KeyId) (getKeyData : KeyLookup) : Prop :=
  ∀ attributes data, getKeyData K = .ok (attributes, data) →
    attributes.alg = psaAlgKeyAgreement psaAlgEcdh F ∧ attributes.alg2 = psaAlgNone

/-- Asked for a signature algorithm, an agreement policy permits nothing but itself. -/
theorem signAlgPermitted_agreement {keyAlg alg : Algorithm}
    (agrees : psaAlgIsKeyAgreement keyAlg = true)
    (permitted : wolfpsaSignAlgPermitted keyAlg alg psaKeyUsageDerive = true) :
    psaAlgIsKeyAgreement alg = true := by
  have sameCategory (same : keyAlg &&& ~~~psaAlgHashMask = alg &&& ~~~psaAlgHashMask) :
      psaAlgIsKeyAgreement alg = true := by
    have masked := congrArg (· &&& psaAlgCategoryMask) same
    have inside : ~~~psaAlgHashMask &&& psaAlgCategoryMask = psaAlgCategoryMask := by decide
    simp only [BitVec.and_assoc, inside] at masked
    rwa [psaAlgIsKeyAgreement, ← masked]
  unfold wolfpsaSignAlgPermitted at permitted
  split_ifs at permitted with equal wildcard verifies
  · rwa [← beq_iff_eq.mp equal]
  · simp only [Bool.and_eq_true, beq_iff_eq] at wildcard
    exact sameCategory wildcard.2
  -- a derivation asks for no verify usage
  · exact absurd verifies (by decide)
  · exact absurd verifies (by decide)

/-- Both predicates of the policy together: a request on base ECDH is an agreement into `F`. -/
theorem permitted_into (real : RealKdf F) {attributes : KeyAttributes} {alg : Algorithm}
    (policy : attributes.alg = psaAlgKeyAgreement psaAlgEcdh F ∧ attributes.alg2 = psaAlgNone)
    (base : psaAlgKeyAgreementGetBase alg = psaAlgEcdh)
    (admitted : wolfpsaAsymmetricCheckAttributes attributes psaKeyUsageDerive alg = .success) :
    psaAlgKeyAgreementGetKdf alg = F := by
  have agrees := isKeyAgreement_policy real
  have permitted : wolfpsaAsymmetricAlgPermitted (psaAlgKeyAgreement psaAlgEcdh F) alg
      psaKeyUsageDerive = true := by
    unfold wolfpsaAsymmetricCheckAttributes at admitted
    rw [policy.1, policy.2] at admitted
    split at admitted
    · cases admitted
    split at admitted
    · cases admitted
    · rename_i either
      simpa [wolfpsaAsymmetricAlgPermitted] using either
  unfold wolfpsaAsymmetricAlgPermitted at permitted
  split at permitted
  · cases permitted
  split at permitted
  · unfold wolfpsaKeyAgreementAlgPermitted at permitted
    split at permitted
    · cases permitted
    rename_i sameBase
    simp only [base, bne_iff_ne, ne_eq, not_not] at sameBase
    have kdf := getKdf_of_base real sameBase
    have derives : psaAlgIsRawKeyAgreement (psaAlgKeyAgreement psaAlgEcdh F) = false := by
      simpa [psaAlgIsRawKeyAgreement, agrees, kdf] using real.named
    rw [derives, if_neg (by decide), kdf, beq_iff_eq] at permitted
    exact permitted.symm
  · rename_i separate
    have requested := signAlgPermitted_agreement agrees permitted
    simp [requested, agrees] at separate

/-- Asked for anything but an agreement into `F`, the shared secret is not computed: the refusal
does not depend on wolfCrypt, on the peer or on the room for the secret. -/
theorem wolfpsaKeyAgreementSecret_barred (real : RealKdf F) {K : KeyId} {getKeyData : KeyLookup}
    (policy : OnlyInto F K getKeyData) {alg : Algorithm}
    (elsewhere : psaAlgKeyAgreementGetKdf alg ≠ F) :
    ∃ status, ∀ wc peerKey n,
      wolfpsaKeyAgreementSecret getKeyData wc alg K peerKey n = .error status := by
  by_cases base : psaAlgKeyAgreementGetBase alg = psaAlgEcdh
  · cases checked : wolfpsaAsymmetricCheckKey getKeyData K psaKeyUsageDerive alg with
    | error status =>
      refine ⟨status, fun wc peerKey n => ?_⟩
      unfold wolfpsaKeyAgreementSecret
      rw [base, checked]
      rfl
    | ok found =>
      obtain ⟨looked, admitted⟩ := wolfpsaAsymmetricCheckKey_ok_iff.mp checked
      exact absurd (permitted_into real (policy found.1 found.2 looked) base admitted) elsewhere
  · refine ⟨⟨.notSupported, failing⟩, fun wc peerKey n => ?_⟩
    have refused : (psaAlgKeyAgreementGetBase alg == psaAlgEcdh) = false := by simpa using base
    unfold wolfpsaKeyAgreementSecret
    rw [refused]
    rfl

end

/-! ## The algorithm of an operation -/

/-- What a setup fixes for the life of an operation. -/
structure KdfKind where
  alg : Algorithm
  kaAlg : Algorithm
  isKeyAgreement : Bool
  isRawKdf : Bool

def kdfKind (ctx : KdfCtx) : KdfKind := ⟨ctx.alg, ctx.kaAlg, ctx.isKeyAgreement, ctx.isRawKdf⟩

@[simp] theorem kdfKind_done (ctx : KdfCtx) (status : Status) :
    kdfKind (wolfpsaKdfDone ctx status) = kdfKind ctx := by
  unfold wolfpsaKdfDone
  split <;> rfl

theorem kdfKind_outputBytes (env : KdfEnv Hmac Cmac) (ctx : KdfCtx) (output : OutBuf) :
    kdfKind (wolfpsaKdfOutputBytes env ctx output).2 = kdfKind ctx := by
  have snapped : kdfKind (kdfSnapshotL ctx) = kdfKind ctx := by
    rw [kdfSnapshotL_eq]
    rfl
  have reserves (c : KdfCtx) (n : Nat) :
      kdfKind (wolfpsaKdfRequireOutput c n).2 = kdfKind c := by
    unfold wolfpsaKdfRequireOutput
    split_ifs <;> rfl
  unfold wolfpsaKdfOutputBytes
  split
  · rfl
  split
  · have reserved := (reserves (kdfSnapshotL ctx) output.size).trans snapped
    dsimp only
    split
    · rename_i started required
      rw [required] at reserved
      split
      · exact reserved
      split
      · exact reserved
      · rename_i cached filled
        have kept : kdfKind cached = kdfKind ctx := by
          rcases kdfFillCache_ok filled with rfl | ⟨-, -, -, cache, -, rfl⟩
          · exact reserved
          · exact reserved
        split
        · exact kept
        · exact kept
    · rename_i required
      rw [required] at reserved
      exact reserved
  · rfl

/-- No call on an active operation changes its kind. -/
theorem kdfMove_kind {e : KdfEvent Hmac Cmac} {ctx ctx' : KdfCtx} {result : KdfResult}
    (moved : KdfMove e ctx result ctx') : kdfKind ctx' = kdfKind ctx := by
  have output {n : Nat} {answer : Except KdfFail Bytes} {ctx₁ : KdfCtx}
      (ran : wolfpsaKdfOutputBytes e.env ctx ⟨false, n⟩ = (answer, ctx₁)) :
      kdfKind ctx₁ = kdfKind ctx := by
    have kept := kdfKind_outputBytes e.env ctx ⟨false, n⟩
    rwa [ran] at kept
  cases moved with
  | refused => exact kdfKind_done ctx _
  | kept => rfl
  | lowered => rfl
  | input => rfl
  | cost => rfl
  | produced ran => rw [kdfKind_done, output ran]
  | failed ran => rw [kdfKind_done, output ran]
  | hung ran => exact output ran

/-- The kinds that a setup makes. -/
structure KindMade (ctx : KdfCtx) : Prop where
  agreement : ctx.isKeyAgreement = true → ctx.kaAlg = psaAlgEcdh ∧
    psaAlgKeyAgreementGetKdf (psaAlgKeyAgreement ctx.kaAlg ctx.alg) = ctx.alg
  plain : ctx.isKeyAgreement = false → psaAlgIsKeyAgreement ctx.alg = false
  raw : ctx.isRawKdf = true → ctx.alg = psaAlgCategoryKeyDerivation

theorem KindMade.of_kind {ctx ctx' : KdfCtx} (made : KindMade ctx)
    (same : kdfKind ctx' = kdfKind ctx) : KindMade ctx' := by
  simp only [kdfKind, KdfKind.mk.injEq] at same
  obtain ⟨alg, kaAlg, isKeyAgreement, isRawKdf⟩ := same
  refine ⟨fun agrees => ?_, fun plain => ?_, fun raw => ?_⟩
  · rw [kaAlg, alg]
    exact made.agreement (isKeyAgreement ▸ agrees)
  · rw [alg]
    exact made.plain (isKeyAgreement ▸ plain)
  · rw [alg]
    exact made.raw (isRawKdf ▸ raw)

/-- A setup splits an agreement algorithm and takes any other as it is. -/
theorem kdfSetupCtx_kind {env : KdfEnv Hmac Cmac} {alg : Algorithm} {ctx : KdfCtx}
    (created : kdfSetupCtx env alg = .ok ctx) :
    (psaAlgIsKeyAgreement alg = true → psaAlgKeyAgreementGetBase alg = psaAlgEcdh) ∧
      kdfKind ctx =
        if psaAlgIsKeyAgreement alg then
          ⟨psaAlgKeyAgreementGetKdf alg, psaAlgKeyAgreementGetBase alg, true,
            psaAlgKeyAgreementGetKdf alg == psaAlgCategoryKeyDerivation⟩
        else ⟨alg, 0, false, false⟩ := by
  unfold kdfSetupCtx at created
  split at created
  · cases created
  split at created
  · cases created
  rename_i base
  extract_lets kdfAlg hashed at created
  split at created
  · cases created
  split at created
  · cases created
  split at created
  · cases created
  split at created
  · cases created
  · cases created
    cases agrees : psaAlgIsKeyAgreement alg with
    | true => exact ⟨fun _ => by simpa [agrees] using base, by simp [kdfKind, kdfAlg, agrees]⟩
    | false => exact ⟨by simp, by simp [kdfKind, kdfAlg, agrees]⟩

theorem kdfSetupCtx_made {env : KdfEnv Hmac Cmac} {alg : Algorithm} {ctx : KdfCtx}
    (created : kdfSetupCtx env alg = .ok ctx) : KindMade ctx := by
  obtain ⟨base, kind⟩ := kdfSetupCtx_kind created
  cases requested : psaAlgIsKeyAgreement alg with
  | true =>
    rw [requested, if_pos rfl] at kind
    simp only [kdfKind, KdfKind.mk.injEq] at kind
    obtain ⟨kdf, kaAlg, agrees, -⟩ := kind
    refine ⟨fun _ => ?_, fun plain => ?_, (kdfSetupCtx_ok created).raw⟩
    · rw [kaAlg, kdf, base requested]
      exact ⟨rfl, getKdf_rejoined _⟩
    · rw [agrees] at plain
      cases plain
  | false =>
    rw [requested, if_neg (by decide)] at kind
    simp only [kdfKind, KdfKind.mk.injEq] at kind
    obtain ⟨same, -, plain, -⟩ := kind
    refine ⟨fun agrees => ?_, fun _ => ?_, (kdfSetupCtx_ok created).raw⟩
    · rw [plain] at agrees
      cases agrees
    · rw [same]
      exact requested

/-- A call on an active operation ends it or keeps its kind. -/
theorem kdfStep_active (e : KdfEvent Hmac Cmac) (ctx : KdfCtx) :
    e.call = .abort ∧ (kdfStep (some ctx) e).2 = none ∨
      e.call ≠ .abort ∧ ∃ ctx', (kdfStep (some ctx) e).2 = some ctx' ∧ kdfKind ctx' = kdfKind ctx := by
  by_cases running : e.call = .abort
  · refine .inl ⟨running, ?_⟩
    unfold kdfStep
    rw [running]
    rfl
  · refine .inr ⟨running, ?_⟩
    cases poisoned : ctx.errorState with
    | true =>
      rw [kdfStep_errored poisoned running]
      exact ⟨ctx, rfl, rfl⟩
    | false =>
      obtain ⟨result, ctx', ran, moved⟩ := kdfStep_move poisoned running
      rw [ran]
      exact ⟨ctx', rfl, kdfMove_kind moved⟩

/-- The operation, if it is active, was made by a setup. -/
def Made (operation : KdfOperation) : Prop := ∀ ctx, operation = some ctx → KindMade ctx

theorem made_none : Made none := by
  intro ctx active
  cases active

theorem made_some {ctx : KdfCtx} (made : KindMade ctx) : Made (some ctx) := by
  intro ctx' same
  cases same
  exact made

/-- Without a setup, an inactive operation stays so. -/
theorem kdfStep_inactive (e : KdfEvent Hmac Cmac) :
    (kdfStep none e).2 = none ∨
      ∃ alg ctx, e.call = .setup alg ∧ kdfSetupCtx e.env alg = .ok ctx ∧
        (kdfStep none e).2 = some ctx := by
  unfold kdfStep
  cases call : e.call with
  | setup alg =>
    dsimp only [psaKeyDerivationSetup]
    cases created : kdfSetupCtx e.env alg with
    | error status => exact .inl rfl
    | ok ctx => exact .inr ⟨alg, ctx, rfl, created, rfl⟩
  | _ => exact .inl rfl

theorem kdfStep_made {operation : KdfOperation} (made : Made operation) (e : KdfEvent Hmac Cmac) :
    Made (kdfStep operation e).2 := by
  cases operation with
  | none =>
    rcases kdfStep_inactive e with ended | ⟨alg, ctx, -, created, started⟩
    · rw [ended]
      exact made_none
    · rw [started]
      exact made_some (kdfSetupCtx_made created)
  | some ctx =>
    rcases kdfStep_active e ctx with ⟨-, ended⟩ | ⟨-, ctx', kept, kind⟩
    · rw [ended]
      exact made_none
    · rw [kept]
      exact made_some ((made ctx rfl).of_kind kind)

/-! ## One derivation call -/

section

variable {F : Algorithm} {K : KeyId} {env₁ env₂ : AgreeEnv Hmac Cmac}

/-- Only `psa_key_derivation_key_agreement` reads the shared secret. -/
theorem kdfStep_secret_unread (same : env₂.kdf = env₁.kdf) (operation : KdfOperation)
    {call : KdfCall} (unread : ∀ step key peerKey, call ≠ .keyAgreement step key peerKey) :
    kdfStep operation ⟨env₂.kdfEnv, call⟩ = kdfStep operation ⟨env₁.kdfEnv, call⟩ := by
  unfold AgreeEnv.kdfEnv
  rw [same]
  cases call with
  | keyAgreement step key peerKey => exact absurd rfl (unread step key peerKey)
  | _ => rfl

/-- The checks before the shared secret end the call or ask for the secret of one size. -/
theorem kdfAgreedSecret_route (env : KdfEnv Hmac Cmac) (ctx : KdfCtx) (step : KdfStep)
    (privateKey : KeyId) (peerKey : InBuf) :
    (∃ failure, ∀ secret, kdfAgreedSecret { env with keyAgreementSecret := secret } ctx step
        privateKey peerKey = .error failure) ∨
      ∃ n, ∀ secret, kdfAgreedSecret { env with keyAgreementSecret := secret } ctx step privateKey
        peerKey = secret (psaAlgKeyAgreement ctx.kaAlg ctx.alg) privateKey peerKey n := by
  unfold kdfAgreedSecret
  dsimp only
  split_ifs
  iterate 4 exact .inl ⟨_, fun _ => rfl⟩
  · cases env.getKeyAttributes privateKey with
    | error status => exact .inl ⟨status, fun _ => rfl⟩
    | ok attributes =>
      dsimp only
      split_ifs
      iterate 4 exact .inl ⟨_, fun _ => rfl⟩
  · cases env.getKeyAttributes privateKey with
    | error status => exact .inl ⟨status, fun _ => rfl⟩
    | ok attributes =>
      dsimp only
      split_ifs
      iterate 3 exact .inl ⟨_, fun _ => rfl⟩
      exact .inr ⟨_, fun _ => rfl⟩

/-- Outside `F`, the shared secret of the key is refused whatever wolfCrypt would answer. -/
theorem kdfAgreedSecret_barred (real : RealKdf F) (policy : OnlyInto F K env₁.kdf.getKeyData)
    {ctx : KdfCtx} (made : KindMade ctx) (elsewhere : ctx.alg ≠ F) (step : KdfStep)
    (peerKey : InBuf) :
    ∃ status, ∀ env : AgreeEnv Hmac Cmac, env.kdf = env₁.kdf →
      kdfAgreedSecret env.kdfEnv ctx step K peerKey = .error status := by
  cases agrees : ctx.isKeyAgreement with
  | false =>
    refine ⟨⟨.invalidArgument, failing⟩, fun env same => ?_⟩
    simp [kdfAgreedSecret, agrees]
  | true =>
    obtain ⟨-, kdf⟩ := made.agreement agrees
    have other : psaAlgKeyAgreementGetKdf (psaAlgKeyAgreement ctx.kaAlg ctx.alg) ≠ F := by rwa [kdf]
    obtain ⟨status, barred⟩ := wolfpsaKeyAgreementSecret_barred real policy other
    rcases kdfAgreedSecret_route env₁.kdf ctx step K peerKey with ⟨failure, refused⟩ | ⟨n, asked⟩
    · refine ⟨failure, fun env same => ?_⟩
      unfold AgreeEnv.kdfEnv
      rw [same, refused]
    · refine ⟨status, fun env same => ?_⟩
      unfold AgreeEnv.kdfEnv
      rw [same, asked, barred]

theorem kdfStep_keyAgreement_barred (real : RealKdf F) (policy : OnlyInto F K env₁.kdf.getKeyData)
    {operation : KdfOperation} (made : Made operation)
    (elsewhere : ∀ ctx, operation = some ctx → ctx.alg ≠ F) (step : KdfStep) (peerKey : InBuf) :
    ∃ answer, answer.1.status ≠ some .success ∧ ∀ env : AgreeEnv Hmac Cmac, env.kdf = env₁.kdf →
      kdfStep operation ⟨env.kdfEnv, .keyAgreement step K peerKey⟩ = answer := by
  cases operation with
  | none => exact ⟨(.ofStatus .badState, none), by simp [KdfResult.ofStatus], fun env _ => rfl⟩
  | some ctx =>
    cases poisoned : ctx.errorState with
    | true =>
      refine ⟨(.ofStatus .badState, some ctx), by simp [KdfResult.ofStatus], fun env _ => ?_⟩
      exact kdfStep_errored poisoned (by simp)
    | false =>
      obtain ⟨status, refused⟩ := kdfAgreedSecret_barred real policy (made ctx rfl)
        (elsewhere ctx rfl) step peerKey
      refine ⟨(.ofStatus status.val, some (wolfpsaKdfDone ctx status.val)), ?_, fun env same => ?_⟩
      · simpa [KdfResult.ofStatus] using status.property
      · unfold kdfStep psaKeyDerivationKeyAgreement kdfGuarded wolfpsaKdfKeyAgreement
        dsimp only
        rw [if_neg (by simp [poisoned]), refused env same]

/-- A call on an operation that does not derive by `F` goes the same way for all secrets of the
key. -/
theorem kdfStep_outside (real : RealKdf F) (policy : OnlyInto F K env₁.kdf.getKeyData)
    (same : env₂.kdf = env₁.kdf) {operation : KdfOperation} (made : Made operation)
    (elsewhere : ∀ ctx, operation = some ctx → ctx.alg ≠ F) {call : KdfCall}
    (wc : (∀ step peerKey, call ≠ .keyAgreement step K peerKey) → env₂.wc = env₁.wc) :
    kdfStep operation ⟨env₂.kdfEnv, call⟩ = kdfStep operation ⟨env₁.kdfEnv, call⟩ := by
  by_cases agreement : ∃ step peerKey, call = .keyAgreement step K peerKey
  · obtain ⟨step, peerKey, rfl⟩ := agreement
    obtain ⟨answer, -, always⟩ := kdfStep_keyAgreement_barred real policy made elsewhere step peerKey
    rw [always env₂ same, always env₁ rfl]
  · have sameWc := wc fun step peerKey this => agreement ⟨step, peerKey, this⟩
    unfold AgreeEnv.kdfEnv
    rw [same, sameWc]

/-! ## `psa_key_agreement` -/

/-- The operation is not active, or derives by something other than `F`. -/
def Outside (F : Algorithm) (operation : KdfOperation) : Prop :=
  Made operation ∧ ∀ ctx, operation = some ctx → ctx.alg ≠ F

theorem kdfThen_failed (env : KdfEnv Hmac Cmac) (condition : Bool) (call : KdfCall)
    {before : KdfResult × KdfOperation} (failed : before.1.status ≠ some .success) :
    kdfThen env condition call before = before :=
  if_neg fun passed => failed passed.1

theorem Outside.kdfStep {operation : KdfOperation} (outside : Outside F operation)
    {e : KdfEvent Hmac Cmac} (running : ∀ alg, e.call ≠ .setup alg) :
    Outside F (kdfStep operation e).2 := by
  refine ⟨kdfStep_made outside.1 e, fun ctx' after => ?_⟩
  cases operation with
  | none =>
    rcases kdfStep_inactive e with ended | ⟨alg, ctx, call, -⟩
    · rw [ended] at after
      cases after
    · exact absurd call (running alg)
  | some ctx =>
    rcases kdfStep_active e ctx with ⟨-, ended⟩ | ⟨-, ctx₁, kept, kind⟩
    · rw [ended] at after
      cases after
    · obtain rfl : ctx₁ = ctx' := Option.some.inj (kept.symm.trans after)
      have alg : ctx₁.alg = ctx.alg := congrArg KdfKind.alg kind
      rw [alg]
      exact outside.2 ctx rfl

theorem kdfThen_secret_unread (same : env₂.kdf = env₁.kdf) (condition : Bool) {call : KdfCall}
    (unread : ∀ step key peerKey, call ≠ .keyAgreement step key peerKey)
    (before : KdfResult × KdfOperation) :
    kdfThen env₂.kdfEnv condition call before = kdfThen env₁.kdfEnv condition call before := by
  unfold kdfThen
  rw [kdfStep_secret_unread same before.2 unread]

theorem Outside.kdfThen {env : KdfEnv Hmac Cmac} {condition : Bool} {call : KdfCall}
    {before : KdfResult × KdfOperation} (outside : Outside F before.2)
    (running : ∀ alg, call ≠ .setup alg) :
    Outside F (kdfThen env condition call before).2 := by
  unfold Source.kdfThen
  split
  · exact outside.kdfStep running
  · exact outside

/-- The derivation inside `psa_key_agreement` fails for the key, and in the same way whatever the
secret, unless it is by `F`. -/
theorem wolfpsaKeyAgreementKdf_barred (real : RealKdf F)
    (policy : OnlyInto F K env₁.kdf.getKeyData) {alg : Algorithm}
    (agrees : psaAlgIsKeyAgreement alg = true) (elsewhere : psaAlgKeyAgreementGetKdf alg ≠ F)
    (peerKey : InBuf) (attributes : KeyAttributes) :
    ∃ result : KdfResult, result.status ≠ some .success ∧
      ∀ env : AgreeEnv Hmac Cmac, env.kdf = env₁.kdf →
        wolfpsaKeyAgreementKdf env.kdfEnv K peerKey alg attributes = result := by
  let started := kdfStep none ⟨env₁.kdfEnv, .setup alg⟩
  let kdfAlg := psaAlgKeyAgreementGetKdf alg
  let salted := kdfThen env₁.kdfEnv (psaAlgIsHkdf kdfAlg || psaAlgIsHkdfExtract kdfAlg)
    (.inputBytes .salt (.null 0)) started
  have outside : Outside F started.2 := by
    refine ⟨kdfStep_made made_none _, fun ctx active => ?_⟩
    rcases kdfStep_inactive ⟨env₁.kdfEnv, .setup alg⟩ with ended | ⟨alg', ctx', call, created, kept⟩
    · cases ended.symm.trans active
    · cases call
      obtain rfl : ctx' = ctx := Option.some.inj (kept.symm.trans active)
      have kind := (kdfSetupCtx_kind created).2
      rw [agrees, if_pos rfl] at kind
      have same : ctx'.alg = psaAlgKeyAgreementGetKdf alg := congrArg KdfKind.alg kind
      rwa [same]
  have saltedOutside : Outside F salted.2 := outside.kdfThen (by simp)
  obtain ⟨answer, refused, always⟩ := kdfStep_keyAgreement_barred real policy saltedOutside.1
    saltedOutside.2 .secret peerKey
  -- the agreement is refused, or an earlier call was
  obtain ⟨agreed, failed, reached⟩ : ∃ agreed : KdfResult × KdfOperation,
      agreed.1.status ≠ some .success ∧ ∀ env : AgreeEnv Hmac Cmac, env.kdf = env₁.kdf →
        kdfThen env.kdfEnv true (.keyAgreement .secret K peerKey) salted = agreed := by
    by_cases ready : salted.1.status = some .success
    · refine ⟨answer, refused, fun env same => ?_⟩
      unfold Source.kdfThen
      rw [if_pos ⟨ready, rfl⟩, always env same]
    · exact ⟨salted, ready, fun env same => kdfThen_failed _ _ _ ready⟩
  refine ⟨agreed.1, failed, fun env same => ?_⟩
  have prior : kdfThen env.kdfEnv (psaAlgIsHkdf (psaAlgKeyAgreementGetKdf alg) ||
      psaAlgIsHkdfExtract (psaAlgKeyAgreementGetKdf alg)) (.inputBytes .salt (.null 0))
      (kdfStep none ⟨env.kdfEnv, .setup alg⟩) = salted := by
    rw [kdfStep_secret_unread same none (by simp), kdfThen_secret_unread same _ (by simp)]
  unfold wolfpsaKeyAgreementKdf
  dsimp only
  rw [prior, reached env same, kdfThen_failed _ _ _ failed, kdfThen_failed _ _ _ failed]

/-- The raw branch of `psa_key_agreement` refuses the key. -/
theorem rawAgreementKey_barred (real : RealKdf F) (policy : OnlyInto F K env₁.kdf.getKeyData)
    {alg : Algorithm} (elsewhere : psaAlgKeyAgreementGetKdf alg ≠ F) (peerKey : InBuf)
    (attributes : KeyAttributes) :
    ∃ status, ∀ env : AgreeEnv Hmac Cmac, env.kdf = env₁.kdf → env.alloc = env₁.alloc →
      rawAgreementKey env K peerKey alg attributes = .error status := by
  obtain ⟨status, barred⟩ := wolfpsaKeyAgreementSecret_barred real policy elsewhere
  have sameAnswer (env : AgreeEnv Hmac Cmac) (same : env.kdf = env₁.kdf)
      (alloc : env.alloc = env₁.alloc) : rawAgreementKey env K peerKey alg attributes =
        rawAgreementKey env₁ K peerKey alg attributes := by
    unfold rawAgreementKey
    simp only [same, alloc, barred]
  cases refused : rawAgreementKey env₁ K peerKey alg attributes with
  | error failure =>
    exact ⟨failure, fun env same alloc => (sameAnswer env same alloc).trans refused⟩
  | ok imported =>
    unfold rawAgreementKey at refused
    obtain ⟨-, -, refused⟩ := except_bind_ok refused
    obtain ⟨privAttr, -, refused⟩ := except_bind_ok refused
    obtain ⟨-, -, refused⟩ := except_bind_ok refused
    obtain ⟨-, -, refused⟩ := except_bind_ok refused
    obtain ⟨secret, agreed, -⟩ := except_bind_ok refused
    rw [barred] at agreed
    cases agreed

theorem raw_elsewhere (real : RealKdf F) {alg : Algorithm}
    (raw : psaAlgIsRawKeyAgreement alg = true) : psaAlgKeyAgreementGetKdf alg ≠ F := by
  simp only [psaAlgIsRawKeyAgreement, Bool.and_eq_true, beq_iff_eq] at raw
  rw [raw.2]
  exact fun same => real.named same.symm

/-- `psa_key_agreement` refuses the key unless it derives by `F`. -/
theorem psaKeyAgreement_barred (real : RealKdf F) (policy : OnlyInto F K env₁.kdf.getKeyData)
    {alg : Algorithm}
    (elsewhere : ¬ (psaAlgIsRawKeyAgreement alg = false ∧ psaAlgKeyAgreementGetKdf alg = F))
    (peerKey : InBuf) (attributes : Option KeyAttributes) :
    ∃ result : KdfResult, result.status ≠ some .success ∧ ∀ env : AgreeEnv Hmac Cmac,
      env.kdf = env₁.kdf → env.alloc = env₁.alloc →
        psaKeyAgreement env K peerKey alg attributes = result := by
  cases attributes with
  | none => exact ⟨.ofStatus .invalidArgument, by simp [KdfResult.ofStatus], fun _ _ _ => rfl⟩
  | some attributes =>
    cases agrees : psaAlgIsKeyAgreement alg with
    | false =>
      refine ⟨.ofStatus .notSupported, by simp [KdfResult.ofStatus], fun env _ _ => ?_⟩
      simp [psaKeyAgreement, agrees]
    | true =>
      cases raw : psaAlgIsRawKeyAgreement alg with
      | false =>
        obtain ⟨result, failed, always⟩ := wolfpsaKeyAgreementKdf_barred real policy agrees
          (fun into => elsewhere ⟨raw, into⟩) peerKey attributes
        refine ⟨result, failed, fun env same _ => ?_⟩
        simp [psaKeyAgreement, agrees, raw, always env same]
      | true =>
        obtain ⟨status, always⟩ := rawAgreementKey_barred real policy (raw_elsewhere real raw)
          peerKey attributes
        refine ⟨.ofStatus status.val, by simpa [KdfResult.ofStatus] using status.property,
          fun env same alloc => ?_⟩
        simp [psaKeyAgreement, agrees, raw, always env same alloc]

/-- `psa_raw_key_agreement` always refuses the key. -/
theorem psaRawKeyAgreement_barred (real : RealKdf F) (policy : OnlyInto F K env₁.kdf.getKeyData)
    (alg : Algorithm) (peerKey : InBuf) (output : OutBuf) (lengthIsNull : Bool) :
    ∃ status, ∀ env : AgreeEnv Hmac Cmac, env.kdf = env₁.kdf →
      psaRawKeyAgreement env alg K peerKey output lengthIsNull = .error status := by
  unfold psaRawKeyAgreement
  cases require (!(lengthIsNull || (output.isNull && output.size != 0))) .invalidArgument with
  | error status => exact ⟨status, fun _ _ => rfl⟩
  | ok _ =>
    cases raw : psaAlgIsRawKeyAgreement alg with
    | false => exact ⟨⟨.invalidArgument, failing⟩, fun _ _ => rfl⟩
    | true =>
      obtain ⟨status, barred⟩ := wolfpsaKeyAgreementSecret_barred real policy
        (raw_elsewhere real raw)
      exact ⟨status, fun env same => by rw [same]; exact barred _ _ _⟩

end

/-! ## Two runs -/

/-- The call makes an agreement with the key. -/
def AgreesWith (K : KeyId) : AgreementCall → Prop
  | .rawKeyAgreement _ privateKey _ _ _ => privateKey = K
  | .keyAgreement privateKey _ _ _ => privateKey = K
  | .derivation _ (.keyAgreement _ privateKey _) => privateKey = K
  | .derivation _ _ => False

/-- The two calls meet the same, but for the shared secrets of the key: where one is asked for,
wolfCrypt may answer anything. -/
structure SameButSecret (K : KeyId) (e₁ e₂ : AgreementEvent Hmac Cmac) : Prop where
  call : e₂.call = e₁.call
  kdf : e₂.env.kdf = e₁.env.kdf
  alloc : e₂.env.alloc = e₁.env.alloc
  wc : ¬ AgreesWith K e₁.call → e₂.env.wc = e₁.env.wc

/-- The call works in a derivation whose KDF is `F`. -/
def GoesInto (F : Algorithm) (s : AgreementState) : AgreementCall → Prop
  | .rawKeyAgreement _ _ _ _ _ => False
  | .keyAgreement _ _ alg _ =>
    psaAlgIsRawKeyAgreement alg = false ∧ psaAlgKeyAgreementGetKdf alg = F
  | .derivation op _ => ∃ ctx, s op = some ctx ∧ ctx.alg = F ∧ ctx.isRawKdf = false

/-- Operations that differ in nothing, or in what was put into a derivation by `F`. -/
inductive Indistinct (F : Algorithm) : KdfOperation → KdfOperation → Prop
  | same {operation : KdfOperation} (made : Made operation) : Indistinct F operation operation
  | into {ctx₁ ctx₂ : KdfCtx} (made₁ : KindMade ctx₁) (made₂ : KindMade ctx₂)
      (alg₁ : ctx₁.alg = F) (alg₂ : ctx₂.alg = F) : Indistinct F (some ctx₁) (some ctx₂)

section

variable {F : Algorithm} {K : KeyId} {env₁ env₂ : AgreeEnv Hmac Cmac}

/-- Two operations by `F` stay so, whatever the two calls meet. -/
theorem kdfStep_into {ctx₁ ctx₂ : KdfCtx} (made₁ : KindMade ctx₁) (made₂ : KindMade ctx₂)
    (alg₁ : ctx₁.alg = F) (alg₂ : ctx₂.alg = F) (call : KdfCall) (d₁ d₂ : KdfEnv Hmac Cmac) :
    Indistinct F (kdfStep (some ctx₁) ⟨d₁, call⟩).2 (kdfStep (some ctx₂) ⟨d₂, call⟩).2 := by
  rcases kdfStep_active ⟨d₁, call⟩ ctx₁ with ⟨abort, ended₁⟩ | ⟨running, c₁, kept₁, kind₁⟩ <;>
    rcases kdfStep_active ⟨d₂, call⟩ ctx₂ with ⟨abort', ended₂⟩ | ⟨running', c₂, kept₂, kind₂⟩
  · rw [ended₁, ended₂]
    exact .same made_none
  · exact absurd abort running'
  · exact absurd abort' running
  · rw [kept₁, kept₂]
    exact .into (made₁.of_kind kind₁) (made₂.of_kind kind₂)
      ((congrArg KdfKind.alg kind₁).trans alg₁) ((congrArg KdfKind.alg kind₂).trans alg₂)

theorem kdfStep_indistinct (real : RealKdf F) (policy : OnlyInto F K env₁.kdf.getKeyData)
    (same : env₂.kdf = env₁.kdf) {o₁ o₂ : KdfOperation} (related : Indistinct F o₁ o₂)
    {call : KdfCall}
    (wc : (∀ step peerKey, call ≠ .keyAgreement step K peerKey) → env₂.wc = env₁.wc) :
    Indistinct F (kdfStep o₁ ⟨env₁.kdfEnv, call⟩).2 (kdfStep o₂ ⟨env₂.kdfEnv, call⟩).2 ∧
      ((∀ ctx, o₁ = some ctx → ctx.alg ≠ F) →
        (kdfStep o₂ ⟨env₂.kdfEnv, call⟩).1 = (kdfStep o₁ ⟨env₁.kdfEnv, call⟩).1) := by
  cases related with
  | same made =>
    by_cases into : ∃ ctx, o₁ = some ctx ∧ ctx.alg = F
    · obtain ⟨ctx, rfl, alg⟩ := into
      refine ⟨?_, fun elsewhere => absurd alg (elsewhere ctx rfl)⟩
      exact kdfStep_into (made ctx rfl) (made ctx rfl) alg alg call _ _
    · have elsewhere (ctx : KdfCtx) (active : o₁ = some ctx) : ctx.alg ≠ F :=
        fun alg => into ⟨ctx, active, alg⟩
      rw [kdfStep_outside real policy same made elsewhere wc]
      exact ⟨.same (kdfStep_made made _), fun _ => rfl⟩
  | @into ctx₁ ctx₂ made₁ made₂ alg₁ alg₂ =>
    refine ⟨?_, fun elsewhere => absurd alg₁ (elsewhere ctx₁ rfl)⟩
    exact kdfStep_into made₁ made₂ alg₁ alg₂ call _ _

theorem Indistinct.made {o₁ o₂ : KdfOperation} (related : Indistinct F o₁ o₂) : Made o₁ := by
  cases related with
  | same made => exact made
  | into made₁ => exact made_some made₁

theorem not_raw_of_alg (real : RealKdf F) {ctx : KdfCtx} (made : KindMade ctx)
    (alg : ctx.alg = F) : ctx.isRawKdf = false := by
  cases raw : ctx.isRawKdf with
  | false => rfl
  | true => exact absurd (alg.symm.trans (made.raw raw)) real.named

theorem Indistinct.split (real : RealKdf F) {o₁ o₂ : KdfOperation} (related : Indistinct F o₁ o₂) :
    o₂ = o₁ ∨ ∃ ctx₁ ctx₂, o₁ = some ctx₁ ∧ o₂ = some ctx₂ ∧ ctx₁.alg = F ∧ ctx₂.alg = F ∧
      ctx₁.isRawKdf = false ∧ ctx₂.isRawKdf = false := by
  cases related with
  | same => exact .inl rfl
  | @into ctx₁ ctx₂ made₁ made₂ alg₁ alg₂ =>
    exact .inr ⟨ctx₁, ctx₂, rfl, rfl, alg₁, alg₂, not_raw_of_alg real made₁ alg₁,
      not_raw_of_alg real made₂ alg₂⟩

theorem SameButSecret.eq {e₁ e₂ : AgreementEvent Hmac Cmac} (same : SameButSecret K e₁ e₂)
    (apart : ¬ AgreesWith K e₁.call) : e₂ = e₁ := by
  obtain ⟨⟨kdf₁, wc₁, alloc₁⟩, call₁⟩ := e₁
  obtain ⟨⟨kdf₂, wc₂, alloc₂⟩, call₂⟩ := e₂
  obtain rfl := same.call
  obtain rfl := same.kdf
  obtain rfl := same.alloc
  obtain rfl := same.wc apart
  rfl

/-- One pair of calls: the operations stay indistinct outside `F`, and so does the answer. -/
theorem agreementStep_indistinct (real : RealKdf F) {e₁ e₂ : AgreementEvent Hmac Cmac}
    (policy : OnlyInto F K e₁.env.kdf.getKeyData) (same : SameButSecret K e₁ e₂)
    {s₁ s₂ : AgreementState} (related : ∀ op, Indistinct F (s₁ op) (s₂ op)) :
    (∀ op, Indistinct F ((agreementStep s₁ e₁).2 op) ((agreementStep s₂ e₂).2 op)) ∧
      (¬ GoesInto F s₁ e₁.call → (agreementStep s₂ e₂).1 = (agreementStep s₁ e₁).1) := by
  obtain ⟨env₁, call⟩ := e₁
  obtain ⟨env₂, call₂⟩ := e₂
  obtain rfl : call₂ = call := same.call
  cases call₂ with
  | rawKeyAgreement alg privateKey peerKey output lengthIsNull =>
    refine ⟨related, fun _ => ?_⟩
    by_cases key : privateKey = K
    · obtain ⟨status, always⟩ := psaRawKeyAgreement_barred real policy alg peerKey output lengthIsNull
      subst key
      simp only [agreementStep, always env₁ rfl, always env₂ same.kdf]
    · cases same.eq key
      rfl
  | keyAgreement privateKey peerKey alg attributes =>
    refine ⟨related, fun elsewhere => ?_⟩
    by_cases key : privateKey = K
    · obtain ⟨result, -, always⟩ := psaKeyAgreement_barred real policy elsewhere peerKey attributes
      subst key
      simp only [agreementStep, always env₁ rfl rfl, always env₂ same.kdf same.alloc]
    · cases same.eq key
      rfl
  | derivation op call =>
    have wc (apart : ∀ step peerKey, call ≠ .keyAgreement step K peerKey) :
        env₂.wc = env₁.wc := by
      refine same.wc ?_
      cases call with
      | keyAgreement step privateKey peerKey =>
        rintro rfl
        exact apart step peerKey rfl
      | _ => exact id
    obtain ⟨kept, equal⟩ := kdfStep_indistinct real policy same.kdf (related op) wc
    refine ⟨fun op' => ?_, fun elsewhere => equal fun ctx active alg => elsewhere ?_⟩
    · by_cases here : op' = op
      · subst here
        simpa [agreementStep] using kept
      · simpa [agreementStep, here] using related op'
    · exact ⟨ctx, active, alg, not_raw_of_alg real ((related op).made ctx active) alg⟩

/-! ## Uses of the key -/

/-- The call names the key. -/
def UsesKey (K : KeyId) : AgreementCall → Prop
  | .rawKeyAgreement _ privateKey _ _ _ => privateKey = K
  | .keyAgreement privateKey _ _ _ => privateKey = K
  | .derivation _ (.keyAgreement _ privateKey _) => privateKey = K
  | .derivation _ (.inputKey _ key) => key = K
  | .derivation _ (.verifyKey expected) => expected = K
  | .derivation _ _ => False

/-- The uses that are not held to `F`: the key itself, not its secret, given to an agreement
operation whose KDF is `F` without the stretching flag, or compared with the output of another
KDF. -/
def Strays (F : Algorithm) (s : AgreementState) : AgreementCall → Prop
  | .derivation op (.inputKey _ _) => ∃ ctx, s op = some ctx ∧ ctx.isKeyAgreement = true ∧
      ctx.alg = F &&& ~~~psaAlgKeyDerivationStretchingFlag ∧ ctx.alg ≠ F
  | .derivation op (.verifyKey _) => ∃ ctx, s op = some ctx ∧ ctx.alg ≠ F
  | _ => False

/-- The algorithm check that a successful `psa_key_derivation_input_key` has passed. -/
theorem psaKeyDerivationInputKey_permitted {env : KdfEnv Hmac Cmac} {operation : KdfOperation}
    {step : KdfStep} {key : KeyId}
    (success : (psaKeyDerivationInputKey env operation step key).1.status = some .success) :
    ∃ ctx attributes data, operation = some ctx ∧ env.getKeyData key = .ok (attributes, data) ∧
      (wolfpsaKdfKeyAlgPermitted ctx attributes.alg = true ∨
        wolfpsaKdfKeyAlgPermitted ctx attributes.alg2 = true) := by
  cases operation with
  | none => cases success
  | some ctx =>
    unfold psaKeyDerivationInputKey kdfGuarded at success
    dsimp only at success
    split at success
    · cases success
    have answered : (wolfpsaKdfInputKey env ctx step key).1 = .success := Option.some.inj success
    unfold wolfpsaKdfInputKey at answered
    split at answered
    · rename_i status _
      exact absurd answered status.property
    rename_i attributes data found
    refine ⟨ctx, attributes, data, rfl, found, ?_⟩
    split at answered
    · rename_i checked
      unfold kdfInputKeyCheck at checked
      split at checked
      · split_ifs at checked with usage type alg
        simp only [Bool.and_eq_true, Bool.not_eq_true', not_and_or, Bool.not_eq_false] at alg
        exact alg
      · rename_i refused
        exact absurd checked refused
    · rename_i refused
      exact absurd answered refused

/-- A key that got into a derivation by the permission of its policy is in a derivation by `F`
without the stretching flag. -/
theorem wolfpsaKdfKeyAlgPermitted_policy (real : RealKdf F) {ctx : KdfCtx} (made : KindMade ctx)
    (permitted : wolfpsaKdfKeyAlgPermitted ctx (psaAlgKeyAgreement psaAlgEcdh F) = true) :
    ctx.isKeyAgreement = true ∧ ctx.alg = F &&& ~~~psaAlgKeyDerivationStretchingFlag := by
  have agrees := isKeyAgreement_policy real
  unfold wolfpsaKdfKeyAlgPermitted at permitted
  split at permitted
  · cases permitted
  split at permitted
  · rename_i agreement
    simp only [Bool.and_eq_true, beq_iff_eq] at permitted
    exact ⟨agreement, permitted.2.symm.trans (getKdf_policy real)⟩
  · rename_i plain
    have other := made.plain (by simpa using plain)
    rw [← beq_iff_eq.mp permitted, agrees] at other
    cases other

/-- A successful use of the key goes into a derivation by `F`, unless it is one of the two that are
not held to it. -/
theorem agreementStep_success (real : RealKdf F) {e : AgreementEvent Hmac Cmac}
    (policy : OnlyInto F K e.env.kdf.getKeyData) {s : AgreementState} (made : ∀ op, Made (s op))
    (uses : UsesKey K e.call) (success : (agreementStep s e).1.status = some .success) :
    GoesInto F s e.call ↔ ¬ Strays F s e.call := by
  obtain ⟨env, call⟩ := e
  cases call with
  | rawKeyAgreement alg privateKey peerKey output lengthIsNull =>
    obtain rfl : privateKey = K := uses
    obtain ⟨status, always⟩ := psaRawKeyAgreement_barred real policy alg peerKey output lengthIsNull
    simp only [agreementStep, always env rfl, agreementResult] at success
    exact absurd (Option.some.inj success) status.property
  | keyAgreement privateKey peerKey alg attributes =>
    obtain rfl : privateKey = K := uses
    refine iff_of_true ?_ id
    by_contra elsewhere
    obtain ⟨result, failed, always⟩ := psaKeyAgreement_barred real policy elsewhere peerKey attributes
    simp only [agreementStep, always env rfl rfl] at success
    exact failed success
  | derivation op call =>
    have into {ctx : KdfCtx} (active : s op = some ctx) :
        GoesInto F s (.derivation op call) ↔ ctx.alg = F := by
      constructor
      · rintro ⟨ctx', active', alg, -⟩
        cases active.symm.trans active'
        exact alg
      · intro alg
        exact ⟨ctx, active, alg, not_raw_of_alg real (made op ctx active) alg⟩
    cases call with
    | keyAgreement step privateKey peerKey =>
      obtain rfl : privateKey = K := uses
      refine iff_of_true ?_ id
      by_contra outside
      obtain ⟨answer, failed, always⟩ := kdfStep_keyAgreement_barred real policy (made op)
        (fun ctx active alg => outside ((into active).mpr alg)) step peerKey
      simp only [agreementStep, always env rfl] at success
      exact failed success
    | inputKey step key =>
      obtain rfl : key = K := uses
      obtain ⟨ctx, attributes, data, active, found, permitted⟩ :=
        psaKeyDerivationInputKey_permitted success
      obtain ⟨alg, alg2⟩ := policy attributes data found
      rw [alg, alg2] at permitted
      obtain ⟨agreement, kdf⟩ := wolfpsaKdfKeyAlgPermitted_policy real (made op ctx active)
        (permitted.resolve_right (by simp [wolfpsaKdfKeyAlgPermitted]))
      rw [into active]
      constructor
      · rintro same ⟨ctx', active', -, -, differs⟩
        cases active.symm.trans active'
        exact differs same
      · intro held
        by_contra differs
        exact held ⟨ctx, active, agreement, kdf, differs⟩
    | verifyKey expected =>
      cases active : s op with
      | none =>
        simp only [agreementStep, active] at success
        cases success
      | some ctx =>
        rw [into active]
        constructor
        · rintro same ⟨ctx', active', differs⟩
          cases active.symm.trans active'
          exact differs same
        · intro held
          by_contra differs
          exact held ⟨ctx, active, differs⟩
    | _ => exact absurd uses id

end

/-! ## An X25519 key and a derivation key under agreement policies -/

/-- The private key `00 01 .. 1f`. -/
def samplePrivate : Bytes := (List.range 32).map (BitVec.ofNat 8)

/-- The base point of Curve25519. -/
def samplePeer : Bytes := 9 :: List.replicate 31 0

/-- X25519 of `samplePrivate` and `samplePeer`. -/
def sampleShared : Bytes :=
  [0x8f, 0x40, 0xc5, 0xad, 0xb6, 0x8f, 0x25, 0x62, 0x4a, 0xe5, 0xb2, 0x14, 0xea, 0x76, 0x7a, 0x6e,
    0xc9, 0x4d, 0x82, 0x9d, 0x3d, 0x7b, 0x5e, 0x1a, 0xd1, 0xba, 0x6f, 0x3e, 0x21, 0x38, 0x28, 0x5f]

/-- X25519 restricted to the sample keys. -/
def sampleX25519 : WcMontgomery where
  Key := Bytes
  init := .ok ()
  setRng := .ok ()
  importPrivate := fun data => .ok data
  importPublic := fun data => .ok data
  sharedSecret := fun priv pub n =>
    if priv = samplePrivate ∧ pub = samplePeer ∧ 32 ≤ n then .ok sampleShared else .error .other

def sampleWcAgree : WcAgree where
  build := ⟨true, true, true, true, true, true⟩
  ecdh := {
    Key := Unit
    init := .error .other
    initRng := .error .other
    importPrivateKey := fun _ _ => .error .other
    setRng := fun _ => .error .other
    makePub := fun _ => .error .other
    importX963 := fun _ _ => .error .other
    sharedSecret := fun _ _ _ => .error .other }
  x25519 := sampleX25519
  x448 := {
    Key := Unit
    init := .error .other
    setRng := .error .other
    importPrivate := fun _ => .error .other
    importPublic := fun _ => .error .other
    sharedSecret := fun _ _ _ => .error .other }

/-- A store whose one key has the given attributes and data. -/
def sampleAgreeEnv (attributes : KeyAttributes) (data : Bytes) : AgreeEnv Unit Unit where
  kdf := { sampleKdfEnv psaKeyUsageDerive with
    getKeyData := fun _ => .ok (attributes, data)
    getKeyAttributes := fun _ => .ok attributes }
  wc := sampleWcAgree
  alloc := true

/-- An X25519 key pair for agreement into HKDF-SHA-256. -/
def sampleAgreementKey : KeyAttributes :=
  ⟨psaKeyTypeEccKeyPairBase ||| 0x41, 255, psaKeyLifetimeVolatile, psaKeyUsageDerive,
    psaAlgKeyAgreement psaAlgEcdh sampleKdfAlg, psaAlgNone, psaKeyIdVendorMin⟩

theorem realKdf_sample : RealKdf sampleKdfAlg := ⟨by decide, by decide, by decide⟩

/-- PBKDF2-HMAC-SHA-256. -/
def samplePbkdf2Alg : Algorithm := psaAlgPbkdf2HmacBase ||| psaAlgSha256 &&& psaAlgHashMask

/-- A derivation key for agreement into PBKDF2-HMAC-SHA-256. -/
def stretchedKey : KeyAttributes :=
  ⟨psaKeyTypeDerive, 128, psaKeyLifetimeVolatile, psaKeyUsageDerive,
    psaAlgKeyAgreement psaAlgEcdh samplePbkdf2Alg, psaAlgNone, psaKeyIdVendorMin⟩

end WolfPSA.Guarantees
