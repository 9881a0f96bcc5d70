import WolfPSA.Lib.Trace
import WolfPSA.Source.KeyDerivationOutput

/-!
# Which keys a derived output comes from

Over every run of calls on one key-derivation operation, with any keys and policies. The permission
to store the output as a key (`can_output_key`) follows the secret: a secret or password that came
in as bytes never leads to a stored key. `psa_key_derivation_output_bytes` makes no such check, so a
key that may only verify a derivation is kept from the output only by the caller.
-/

namespace WolfPSA.Guarantees
open Lib Source

variable {Hmac Cmac : Type}

abbrev KdfHistory (Hmac Cmac : Type) := History (KdfEvent Hmac Cmac) KdfResult

def kdfSucceeded (r : KdfResult) : Bool := r.status == some .success

def isKdfSetup : KdfCall → Bool
  | .setup _ => true
  | _ => false

/-- The successful calls since the last successful setup, most recent first. -/
def sinceSetup : KdfHistory Hmac Cmac → List (KdfEvent Hmac Cmac)
  | [] => []
  | (e, r) :: older =>
    if kdfSucceeded r then if isKdfSetup e.call then [] else e :: sinceSetup older
    else sinceSetup older

/-- A key the call fed into the operation satisfies `p` on its usage flags, as the look-up of that
call found them. -/
def FedKeyUsage (p : KeyUsage → Prop) (e : KdfEvent Hmac Cmac) : Prop :=
  match e.call with
  | .inputKey _ key =>
    ∃ attributes keyData, e.env.getKeyData key = .ok (attributes, keyData) ∧ p attributes.usage
  | .keyAgreement _ key _ =>
    ∃ attributes, e.env.getKeyAttributes key = .ok attributes ∧ p attributes.usage
  | _ => True

/-- The secret or password step a call supplies. -/
def secretStep : KdfCall → Option KdfStep
  | .inputBytes step _ | .inputKey step _ | .keyAgreement step _ _ =>
    if step = .secret ∨ step = .password then some step else none
  | _ => none

/-- The secret came from a DERIVE key through `input_key`, or from a key agreement. -/
def SecretFromKey (e : KdfEvent Hmac Cmac) : Prop :=
  match e.call with
  | .inputKey _ key =>
    ∃ attributes keyData, e.env.getKeyData key = .ok (attributes, keyData) ∧
      usageDerive attributes.usage = true
  | .keyAgreement _ _ _ => True
  | _ => False

/-- What the usage flags promise about the two output calls. -/
def OutputRespectsUsage (e : KdfEvent Hmac Cmac) (r : KdfResult)
    (older : KdfHistory Hmac Cmac) : Prop :=
  r.status = some .success →
    match e.call with
    | .outputBytes _ =>
      ∀ input ∈ sinceSetup older, FedKeyUsage (fun usage => usageDerive usage = true) input
    | .outputKey _ _ =>
      (∃ input ∈ sinceSetup older, (secretStep input.call).isSome) ∧
        ∀ input ∈ sinceSetup older, (secretStep input.call).isSome → SecretFromKey input
    | _ => True

/-- The caller does not ask for output bytes from an operation into which it put a key that has
`PSA_KEY_USAGE_VERIFY_DERIVATION` without `PSA_KEY_USAGE_DERIVE`. -/
def NoBytesFromVerifyOnlyKey (e : KdfEvent Hmac Cmac) (_ : KdfResult)
    (older : KdfHistory Hmac Cmac) : Prop :=
  ∀ output, e.call = .outputBytes output → ∀ input ∈ sinceSetup older, ∀ step key,
    input.call = .inputKey step key → ∀ attributes keyData,
      input.env.getKeyData key = .ok (attributes, keyData) →
        attributes.usage &&& psaKeyUsageVerifyDerivation ≠ 0 → usageDerive attributes.usage = true

/-! ## Accepted inputs -/

theorem not_pbkdf2_of_family {base alg : Algorithm} (h : isHashFamily base alg = true)
    (hmac : base ≠ psaAlgPbkdf2HmacBase) (cmac : base ≠ psaAlgPbkdf2AesCmacPrf128) :
    psaAlgIsPbkdf2 alg = false := by
  simp only [psaAlgIsPbkdf2, Bool.or_eq_false_iff, beq_eq_false_iff_ne]
  constructor
  · by_contra member
    exact hmac (isHashFamily_unique h (by simpa [psaAlgIsPbkdf2Hmac] using member))
  · rintro rfl
    exact cmac (isHashFamily_unique h (by decide))

theorem not_pbkdf2_of_anyHkdf {alg : Algorithm} (h : psaAlgIsAnyHkdf alg = true) :
    psaAlgIsPbkdf2 alg = false := by
  simp only [psaAlgIsAnyHkdf, Bool.or_eq_true] at h
  rcases h with (h | h) | h
  all_goals exact not_pbkdf2_of_family h (by decide) (by decide)

/-- An accepted secret or password is the first of its step, and which of the two an operation
takes is fixed by its algorithm. -/
theorem validateStep_secret {wc : WcKdf Hmac Cmac} {ctx : KdfCtx} {step : KdfStep} {n : Nat}
    (raw : ctx.isRawKdf = true → psaAlgIsPbkdf2 ctx.alg = false)
    (accepted : wolfpsaKdfValidateStep wc ctx step n = .success) :
    (step = .secret → ctx.isSet .secret = false ∧ psaAlgIsPbkdf2 ctx.alg = false) ∧
      (step = .password → ctx.isSet .password = false ∧ psaAlgIsPbkdf2 ctx.alg = true) := by
  unfold wolfpsaKdfValidateStep at accepted
  split at accepted
  · cases accepted
  split at accepted
  · cases accepted
  split at accepted
  · cases accepted
  rename_i single
  have fresh : step = .secret ∨ step = .password → ctx.isSet step = false := by
    rintro (rfl | rfl) <;> simpa using single
  split at accepted
  · rename_i isRaw
    constructor
    · rintro rfl
      exact ⟨fresh (.inl rfl), raw isRaw⟩
    · rintro rfl
      simp at accepted
  split at accepted
  · rename_i hkdf
    constructor
    · rintro rfl
      exact ⟨fresh (.inl rfl), not_pbkdf2_of_anyHkdf hkdf⟩
    · rintro rfl
      simp [validateHkdfStep] at accepted
  split at accepted
  · rename_i prf
    constructor
    · rintro rfl
      exact ⟨fresh (.inl rfl), not_pbkdf2_of_family prf (by decide) (by decide)⟩
    · rintro rfl
      simp at accepted
  split at accepted
  · rename_i psk
    constructor
    · rintro rfl
      exact ⟨fresh (.inl rfl), not_pbkdf2_of_family psk (by decide) (by decide)⟩
    · rintro rfl
      simp [validatePskToMsStep] at accepted
  split at accepted
  · rename_i pbkdf2
    constructor
    · rintro rfl
      simp at accepted
    · rintro rfl
      exact ⟨fresh (.inr rfl), pbkdf2⟩
  rename_i notPbkdf2
  split at accepted
  · constructor
    · rintro rfl
      exact ⟨fresh (.inl rfl), by simpa using notPbkdf2⟩
    · rintro rfl
      simp at accepted
  · cases accepted

/-- `wolfpsa_kdf_input_bytes` either refuses and changes nothing, or accepts the step. -/
theorem wolfpsaKdfInputBytes_cases (env : KdfEnv Hmac Cmac) (ctx : KdfCtx) (step : KdfStep)
    (data : InBuf) :
    ((wolfpsaKdfInputBytes env ctx step data).1 ≠ .success ∧
        (wolfpsaKdfInputBytes env ctx step data).2 = ctx) ∨
      (wolfpsaKdfValidateStep env.wc ctx step data.length = .success ∧
        (wolfpsaKdfInputBytes env ctx step data).1 = .success ∧
        ∃ inputs, (wolfpsaKdfInputBytes env ctx step data).2 =
          { ctx with inputs := inputs, stepsSet := step :: ctx.stepsSet }) := by
  unfold wolfpsaKdfInputBytes
  split
  · rename_i valid
    split
    · exact .inl ⟨by simp, rfl⟩
    split
    · rename_i status refused
      refine .inl ⟨?_, rfl⟩
      rintro rfl
      unfold wolfpsaKdfAppend at refused
      split_ifs at refused <;> simp at refused
    · exact .inr ⟨valid, rfl, _, rfl⟩
  · rename_i status invalid
    exact .inl ⟨invalid, rfl⟩

/-- An input call either refuses and changes nothing, or adds its step; it grants the output of a
key only for a secret that came from a key. -/
def InputEffect (e : KdfEvent Hmac Cmac) (ctx : KdfCtx) (step : KdfStep)
    (r : Status × KdfCtx) : Prop :=
  (r.1 ≠ .success ∧ r.2 = ctx) ∨
    (r.1 = .success ∧ (∃ n, wolfpsaKdfValidateStep e.env.wc ctx step n = .success) ∧
      ∃ inputs granted, r.2 = { ctx with
          inputs := inputs, stepsSet := step :: ctx.stepsSet, canOutputKey := granted } ∧
        (granted = ctx.canOutputKey ∨ SecretFromKey e ∧ (step = .secret ∨ step = .password)))

theorem inputBytes_effect (e : KdfEvent Hmac Cmac) (ctx : KdfCtx) (step : KdfStep)
    (data : InBuf) : InputEffect e ctx step (wolfpsaKdfInputBytes e.env ctx step data) := by
  rcases wolfpsaKdfInputBytes_cases e.env ctx step data with refused | ⟨valid, done, inputs, after⟩
  · exact .inl refused
  · exact .inr ⟨done, ⟨_, valid⟩, inputs, ctx.canOutputKey, after, .inl rfl⟩

theorem inputKey_effect (e : KdfEvent Hmac Cmac) (ctx : KdfCtx) {step : KdfStep} {key : KeyId}
    (call : e.call = .inputKey step key) :
    InputEffect e ctx step (wolfpsaKdfInputKey e.env ctx step key) := by
  unfold wolfpsaKdfInputKey
  split
  · rename_i status missing
    exact .inl ⟨status.property, rfl⟩
  rename_i attributes keyData found
  split
  · dsimp only
    split
    · rename_i granted
      obtain ⟨done, derive, isSecret⟩ := granted
      rcases wolfpsaKdfInputBytes_cases e.env ctx step (.data keyData) with
        ⟨refused, -⟩ | ⟨valid, -, inputs, after⟩
      · exact absurd done refused
      · refine .inr ⟨done, ⟨_, valid⟩, inputs, true, by rw [after], .inr ⟨?_, isSecret⟩⟩
        simp only [SecretFromKey, call]
        exact ⟨attributes, keyData, found, derive⟩
    · exact inputBytes_effect e ctx step _
  · rename_i status refused
    exact .inl ⟨refused, rfl⟩

theorem keyAgreement_effect (e : KdfEvent Hmac Cmac) (ctx : KdfCtx) {step : KdfStep}
    {key : KeyId} {peer : InBuf} (call : e.call = .keyAgreement step key peer) :
    InputEffect e ctx step (wolfpsaKdfKeyAgreement e.env ctx step key peer) := by
  unfold wolfpsaKdfKeyAgreement
  split
  · rename_i status refused
    exact .inl ⟨status.property, rfl⟩
  rename_i secret agreed
  dsimp only
  split
  · rename_i granted
    obtain ⟨done, isSecret⟩ := granted
    rcases wolfpsaKdfInputBytes_cases e.env ctx step (.data secret) with
      ⟨refused, -⟩ | ⟨valid, -, inputs, after⟩
    · exact absurd done refused
    · refine .inr ⟨done, ⟨_, valid⟩, inputs, true, by rw [after], .inr ⟨?_, .inl isSecret⟩⟩
      simp only [SecretFromKey, call]
  · exact inputBytes_effect e ctx step _

/-! ## One call -/

/-- The call supplied a secret or password and the operation accepted it. -/
def acceptedSecret (e : KdfEvent Hmac Cmac) (r : KdfResult) : Bool :=
  kdfSucceeded r && (secretStep e.call).isSome

/-- A context as a setup leaves it. -/
structure FreshCtx (ctx : KdfCtx) : Prop where
  stepsSet : ctx.stepsSet = []
  canOutputKey : ctx.canOutputKey = false
  raw : ctx.isRawKdf = true → psaAlgIsPbkdf2 ctx.alg = false

/-- The context after an accepted secret. -/
structure SecretAdded (e : KdfEvent Hmac Cmac) (ctx ctx' : KdfCtx) (step : KdfStep) : Prop where
  isSecret : step = .secret ∨ step = .password
  valid : ∃ n, wolfpsaKdfValidateStep e.env.wc ctx step n = .success
  alg : ctx'.alg = ctx.alg
  isRawKdf : ctx'.isRawKdf = ctx.isRawKdf
  stepsSet : ctx'.stepsSet = step :: ctx.stepsSet
  granted : ctx'.canOutputKey = ctx.canOutputKey ∨ SecretFromKey e

/-- Why an operation is active after a call. -/
inductive ActiveAfter (e : KdfEvent Hmac Cmac) (r : KdfResult) (operation : KdfOperation)
    (ctx' : KdfCtx) : Prop
  | setup (isSetup : isKdfSetup e.call = true) (done : kdfSucceeded r = true)
      (fresh : FreshCtx ctx')
  | kept (ctx : KdfCtx) (before : operation = some ctx)
      (noSetup : isKdfSetup e.call = true → kdfSucceeded r = false)
      (noSecret : acceptedSecret e r = false) (same : SameSecrets ctx ctx')
  | secret (ctx : KdfCtx) (step : KdfStep) (before : operation = some ctx)
      (noSetup : isKdfSetup e.call = false) (done : kdfSucceeded r = true)
      (supplied : secretStep e.call = some step) (added : SecretAdded e ctx ctx' step)

theorem kdfSetupCtx_fresh {env : KdfEnv Hmac Cmac} {alg : Algorithm} {ctx : KdfCtx}
    (success : kdfSetupCtx env alg = .ok ctx) : FreshCtx ctx := by
  unfold kdfSetupCtx at success
  split at success
  · cases success
  split at success
  · cases success
  extract_lets kdfAlg hashed at success
  split at success
  · cases success
  split at success
  · cases success
  split at success
  · cases success
  split at success
  · cases success
  · cases success
    refine ⟨rfl, rfl, ?_⟩
    intro raw
    simp only [Bool.and_eq_true, beq_iff_eq] at raw
    have none : psaAlgIsPbkdf2 psaAlgCategoryKeyDerivation = false := by decide
    simpa [raw.2] using none

/-- The three ways out of an input call on an active operation. -/
theorem kdfGuarded_input {e : KdfEvent Hmac Cmac} {operation : KdfOperation} {ctx' : KdfCtx}
    {step : KdfStep} {body : KdfCtx → Status × KdfCtx}
    (noSetup : isKdfSetup e.call = false)
    (supplied : secretStep e.call = if step = .secret ∨ step = .password then some step else none)
    (effect : ∀ ctx, InputEffect e ctx step (body ctx))
    (after : (kdfGuarded operation body).2 = some ctx') :
    ActiveAfter e (kdfGuarded operation body).1 operation ctx' := by
  cases operation with
  | none => cases after
  | some ctx =>
    simp only [kdfGuarded] at after ⊢
    by_cases poisoned : ctx.errorState = true
    · simp only [poisoned, if_true] at after ⊢
      cases after
      exact .kept ctx' rfl (by simp [noSetup]) (by simp [acceptedSecret, kdfSucceeded,
        KdfResult.ofStatus]) (.refl _)
    · simp only [poisoned] at after ⊢
      cases after
      rcases effect ctx with ⟨refused, unchanged⟩ | ⟨done, valid, inputs, granted, updated, why⟩
      · refine .kept ctx rfl (by simp [noSetup]) ?_ ?_
        · simp [acceptedSecret, kdfSucceeded, KdfResult.ofStatus, refused]
        · rw [unchanged]
          exact wolfpsaKdfDone_same ctx _
      · have settled : wolfpsaKdfDone (body ctx).2 (body ctx).1 = (body ctx).2 := by
          simp [wolfpsaKdfDone, done]
        rw [settled, updated, done]
        by_cases isSecret : step = .secret ∨ step = .password
        · rw [if_pos isSecret] at supplied
          refine .secret ctx step rfl noSetup (by simp [kdfSucceeded, KdfResult.ofStatus])
            supplied ⟨isSecret, valid, rfl, rfl, rfl, ?_⟩
          rcases why with unchanged | ⟨fromKey, -⟩
          · exact .inl unchanged
          · exact .inr fromKey
        · rw [if_neg isSecret] at supplied
          refine .kept ctx rfl (by simp [noSetup]) (by simp [acceptedSecret, supplied]) ?_
          rw [not_or] at isSecret
          rcases why with unchanged | ⟨-, is⟩
          · refine ⟨rfl, rfl, ?_, ?_, unchanged⟩
            · simp [KdfCtx.isSet, Ne.symm isSecret.1]
            · simp [KdfCtx.isSet, Ne.symm isSecret.2]
          · exact absurd is (by simp [isSecret])

private theorem activeAfter_kept {e : KdfEvent Hmac Cmac} {r : KdfResult}
    {operation operation' : KdfOperation} {ctx' : KdfCtx} (noSetup : isKdfSetup e.call = false)
    (noSecret : secretStep e.call = none) (keeps : KeepsSecrets operation operation')
    (after : operation' = some ctx') : ActiveAfter e r operation ctx' := by
  obtain ⟨ctx, before, same⟩ := keeps ctx' after
  exact .kept ctx before (by simp [noSetup]) (by simp [acceptedSecret, noSecret]) same

/-- The one statement about a step every invariant of the run is derived from. -/
theorem kdfStep_activeAfter {operation : KdfOperation} {e : KdfEvent Hmac Cmac} {ctx' : KdfCtx}
    (after : (kdfStep operation e).2 = some ctx') :
    ActiveAfter e (kdfStep operation e).1 operation ctx' := by
  obtain ⟨env, call⟩ := e
  cases call with
  | setup alg =>
    simp only [kdfStep, psaKeyDerivationSetup] at after ⊢
    cases operation with
    | some ctx =>
      cases after
      exact .kept ctx' rfl (by simp [kdfSucceeded, KdfResult.ofStatus])
        (by simp [acceptedSecret, secretStep]) (.refl _)
    | none =>
      dsimp only at after ⊢
      split at after
      · cases after
      · rename_i ctx created
        cases after
        exact .setup rfl (by simp [kdfSucceeded, KdfResult.ofStatus])
          (kdfSetupCtx_fresh created)
  | setCapacity capacity =>
    exact activeAfter_kept rfl rfl (psaKeyDerivationSetCapacity_keeps env operation capacity) after
  | inputBytes step data =>
    exact kdfGuarded_input rfl rfl (fun ctx => inputBytes_effect ⟨env, _⟩ ctx step data) after
  | inputKey step key =>
    exact kdfGuarded_input rfl rfl (fun ctx => inputKey_effect ⟨env, .inputKey step key⟩ ctx rfl)
      after
  | inputInteger step value =>
    exact activeAfter_kept rfl rfl (psaKeyDerivationInputInteger_keeps operation step value) after
  | keyAgreement step key peer =>
    exact kdfGuarded_input rfl rfl
      (fun ctx => keyAgreement_effect ⟨env, .keyAgreement step key peer⟩ ctx rfl) after
  | outputBytes output =>
    exact activeAfter_kept rfl rfl (psaKeyDerivationOutputBytes_keeps env operation output) after
  | outputKey attributes keyNull =>
    exact activeAfter_kept rfl rfl
      (psaKeyDerivationOutputKey_keeps env operation attributes keyNull) after
  | verifyBytes expected =>
    exact activeAfter_kept rfl rfl (psaKeyDerivationVerifyBytes_keeps env operation expected) after
  | verifyKey expected =>
    exact activeAfter_kept rfl rfl (psaKeyDerivationVerifyKey_keeps env operation expected) after
  | abort => cases after

/-- A key that was fed in has DERIVE or VERIFY_DERIVATION; the key of an agreement has DERIVE. -/
def FedPermitted (e : KdfEvent Hmac Cmac) : Prop :=
  match e.call with
  | .inputKey _ _ => FedKeyUsage
      (fun usage => usage &&& (psaKeyUsageDerive ||| psaKeyUsageVerifyDerivation) ≠ 0) e
  | _ => FedKeyUsage (fun usage => usageDerive usage = true) e

private theorem kdfGuarded_success {operation : KdfOperation} {body : KdfCtx → Status × KdfCtx}
    (success : (kdfGuarded operation body).1.status = some .success) :
    ∃ ctx, operation = some ctx ∧ (body ctx).1 = .success := by
  cases operation with
  | none => simp [kdfGuarded, KdfResult.ofStatus] at success
  | some ctx =>
    simp only [kdfGuarded] at success
    split at success
    · simp [KdfResult.ofStatus] at success
    · exact ⟨ctx, rfl, by simpa [KdfResult.ofStatus] using success⟩

theorem inputKey_success_usage {env : KdfEnv Hmac Cmac} {ctx : KdfCtx} {step : KdfStep}
    {key : KeyId} (success : (wolfpsaKdfInputKey env ctx step key).1 = .success) :
    ∃ attributes keyData, env.getKeyData key = .ok (attributes, keyData) ∧
      attributes.usage &&& (psaKeyUsageDerive ||| psaKeyUsageVerifyDerivation) ≠ 0 := by
  unfold wolfpsaKdfInputKey at success
  split at success
  · rename_i status missing
    exact absurd success status.property
  rename_i attributes keyData found
  split at success
  · rename_i checked
    refine ⟨attributes, keyData, found, ?_⟩
    intro without
    unfold kdfInputKeyCheck at checked
    split at checked
    · simp [without] at checked
    · rename_i invalid
      exact invalid checked
  · rename_i status refused
    exact absurd success refused

theorem keyAgreement_success_usage {env : KdfEnv Hmac Cmac} {ctx : KdfCtx} {step : KdfStep}
    {key : KeyId} {peer : InBuf}
    (success : (wolfpsaKdfKeyAgreement env ctx step key peer).1 = .success) :
    ∃ attributes, env.getKeyAttributes key = .ok attributes ∧
      usageDerive attributes.usage = true := by
  unfold wolfpsaKdfKeyAgreement at success
  split at success
  · rename_i status refused
    exact absurd success status.property
  rename_i secret agreed
  unfold kdfAgreedSecret at agreed
  split at agreed
  · cases agreed
  split at agreed
  · cases agreed
  split at agreed
  · cases agreed
  split at agreed
  · cases agreed
  split at agreed
  · cases agreed
  rename_i attributes found
  refine ⟨attributes, found, ?_⟩
  dsimp only at agreed
  split at agreed
  · cases agreed
  · rename_i derive
    simpa using derive

theorem kdfStep_fedPermitted {operation : KdfOperation} {e : KdfEvent Hmac Cmac}
    (success : (kdfStep operation e).1.status = some .success) : FedPermitted e := by
  obtain ⟨env, call⟩ := e
  cases call with
  | inputKey step key =>
    obtain ⟨ctx, -, done⟩ := kdfGuarded_success success
    exact inputKey_success_usage done
  | keyAgreement step key peer =>
    obtain ⟨ctx, -, done⟩ := kdfGuarded_success success
    exact keyAgreement_success_usage done
  | _ => trivial

/-- `psa_key_derivation_output_key` succeeds only where the permission flag is set. -/
theorem outputKey_success_granted {env : KdfEnv Hmac Cmac} {operation : KdfOperation}
    {attributes : Option KeyAttributes} {keyNull : Bool}
    (success : (psaKeyDerivationOutputKey env operation attributes keyNull).1.status =
      some .success) :
    ∃ ctx, operation = some ctx ∧ ctx.canOutputKey = true := by
  cases operation with
  | none => simp [psaKeyDerivationOutputKey, KdfResult.ofStatus] at success
  | some ctx =>
    refine ⟨ctx, rfl, ?_⟩
    by_contra refused
    simp only [psaKeyDerivationOutputKey] at success
    split at success
    · simp [KdfResult.ofStatus] at success
    cases attributes with
    | none => simp [KdfResult.ofStatus] at success
    | some attrs =>
      dsimp only at success
      split_ifs at success <;> simp_all [KdfResult.ofStatus]

/-! ## Every run -/

/-- The secret inputs of the history and the context agree. -/
structure SecretsTracked (h : KdfHistory Hmac Cmac) (ctx : KdfCtx) : Prop where
  /-- every accepted secret is marked in the context -/
  marked : ∀ input ∈ sinceSetup h, ∀ step, secretStep input.call = some step → ctx.isSet step = true
  secretAlg : ctx.isSet .secret = true → psaAlgIsPbkdf2 ctx.alg = false
  passwordAlg : ctx.isSet .password = true → psaAlgIsPbkdf2 ctx.alg = true
  raw : ctx.isRawKdf = true → psaAlgIsPbkdf2 ctx.alg = false
  granted : ctx.canOutputKey = true →
    (∃ input ∈ sinceSetup h, (secretStep input.call).isSome) ∧
      ∀ input ∈ sinceSetup h, (secretStep input.call).isSome → SecretFromKey input

/-- The invariant of a run: accepted keys carry a derivation usage, and the context of an active
operation agrees with the history of its secret inputs. -/
def KdfTracked (h : KdfHistory Hmac Cmac) (operation : KdfOperation) : Prop :=
  (∀ input ∈ sinceSetup h, FedPermitted input) ∧
    ∀ ctx, operation = some ctx → SecretsTracked h ctx

private theorem secretStep_eq {call : KdfCall} {step : KdfStep}
    (supplied : secretStep call = some step) : step = .secret ∨ step = .password := by
  unfold secretStep at supplied
  split at supplied
  all_goals try split at supplied
  all_goals first | cases supplied; assumption | cases supplied

/-- Before an accepted secret no secret had been accepted: the step is single-use, and an algorithm
takes a secret or a password but not both. -/
theorem no_secret_before {h : KdfHistory Hmac Cmac} {e : KdfEvent Hmac Cmac} {ctx ctx' : KdfCtx}
    {step : KdfStep} (tracked : SecretsTracked h ctx) (added : SecretAdded e ctx ctx' step) :
    ∀ input ∈ sinceSetup h, secretStep input.call = none := by
  intro input member
  by_contra supplied
  obtain ⟨earlier, supplied⟩ := Option.ne_none_iff_exists'.mp supplied
  have set := tracked.marked input member earlier supplied
  obtain ⟨n, valid⟩ := added.valid
  have rules := validateStep_secret tracked.raw valid
  rcases secretStep_eq supplied with rfl | rfl <;> rcases added.isSecret with rfl | rfl
  · simp [(rules.1 rfl).1] at set
  · have notPbkdf2 := tracked.secretAlg set
    simp [(rules.2 rfl).2] at notPbkdf2
  · have pbkdf2 := tracked.passwordAlg set
    simp [(rules.1 rfl).2] at pbkdf2
  · simp [(rules.2 rfl).1] at set

private theorem secretsTracked_added {h : KdfHistory Hmac Cmac} {e : KdfEvent Hmac Cmac}
    {ctx ctx' : KdfCtx} {step : KdfStep} (tracked : SecretsTracked h ctx)
    (supplied : secretStep e.call = some step) (added : SecretAdded e ctx ctx' step)
    {h' : KdfHistory Hmac Cmac} (grown : sinceSetup h' = e :: sinceSetup h) :
    SecretsTracked h' ctx' := by
  have first := no_secret_before tracked added
  obtain ⟨n, valid⟩ := added.valid
  have rules := validateStep_secret tracked.raw valid
  have isSet : ∀ s, ctx'.isSet s = (s == step || ctx.isSet s) := by
    intro s
    unfold KdfCtx.isSet
    rw [added.stepsSet, List.contains_cons]
  refine ⟨?_, ?_, ?_, ?_, ?_⟩
  · intro input member s supplies
    rw [grown, List.mem_cons] at member
    rcases member with rfl | earlier
    · rw [supplied] at supplies
      cases supplies
      simp [isSet]
    · simp [first input earlier] at supplies
  · intro set
    rw [added.alg]
    rcases added.isSecret with rfl | rfl
    · exact (rules.1 rfl).2
    · exact tracked.secretAlg (by simpa [isSet] using set)
  · intro set
    rw [added.alg]
    rcases added.isSecret with rfl | rfl
    · exact tracked.passwordAlg (by simpa [isSet] using set)
    · exact (rules.2 rfl).2
  · intro isRaw
    rw [added.alg]
    exact tracked.raw (by rwa [added.isRawKdf] at isRaw)
  · intro may
    rcases added.granted with unchanged | fromKey
    · -- a permission already there would need an earlier secret
      obtain ⟨⟨input, earlier, is⟩, -⟩ := tracked.granted (by rwa [unchanged] at may)
      simp [first input earlier] at is
    · rw [grown]
      refine ⟨⟨e, by simp, by simp [supplied]⟩, ?_⟩
      intro input member is
      rcases List.mem_cons.mp member with rfl | earlier
      · exact fromKey
      · simp [first input earlier] at is

private theorem secretsTracked_kept {h : KdfHistory Hmac Cmac} {e : KdfEvent Hmac Cmac}
    {r : KdfResult} {ctx ctx' : KdfCtx} (tracked : SecretsTracked h ctx)
    (noSetup : isKdfSetup e.call = true → kdfSucceeded r = false)
    (noSecret : acceptedSecret e r = false) (same : SameSecrets ctx ctx') :
    SecretsTracked ((e, r) :: h) ctx' := by
  have members : ∀ input ∈ sinceSetup ((e, r) :: h), (secretStep input.call).isSome →
      input ∈ sinceSetup h := by
    intro input member is
    simp only [sinceSetup] at member
    split at member
    · split at member
      · simp at member
      · rename_i ok _
        rcases List.mem_cons.mp member with rfl | earlier
        · simp [acceptedSecret, ok, Option.isSome_iff_ne_none.mp is] at noSecret
        · exact earlier
    · exact member
  have later : ∀ input ∈ sinceSetup h, input ∈ sinceSetup ((e, r) :: h) := by
    intro input member
    simp only [sinceSetup]
    split
    · split
      · rename_i ok isSetup
        simp [noSetup isSetup] at ok
      · exact List.mem_cons_of_mem _ member
    · exact member
  have secretSame : ∀ s, s = .secret ∨ s = .password → ctx'.isSet s = ctx.isSet s := by
    rintro s (rfl | rfl)
    · exact same.secretSet
    · exact same.passwordSet
  refine ⟨?_, ?_, ?_, ?_, ?_⟩
  · intro input member s supplies
    rw [secretSame s (secretStep_eq supplies)]
    exact tracked.marked input (members input member (by simp [supplies])) s supplies
  · intro set
    rw [same.alg]
    exact tracked.secretAlg (by rwa [same.secretSet] at set)
  · intro set
    rw [same.alg]
    exact tracked.passwordAlg (by rwa [same.passwordSet] at set)
  · intro isRaw
    rw [same.alg]
    exact tracked.raw (by rwa [same.isRawKdf] at isRaw)
  · intro may
    obtain ⟨⟨input, member, is⟩, all⟩ := tracked.granted (by rwa [same.canOutputKey] at may)
    exact ⟨⟨input, later input member, is⟩,
      fun input member is => all input (members input member is) is⟩

theorem kdfStep_tracked {h : KdfHistory Hmac Cmac} {operation : KdfOperation}
    (before : KdfTracked h operation) (e : KdfEvent Hmac Cmac) :
    KdfTracked ((e, (kdfStep operation e).1) :: h) (kdfStep operation e).2 := by
  obtain ⟨permitted, tracked⟩ := before
  refine ⟨?_, ?_⟩
  · intro input member
    simp only [sinceSetup] at member
    split at member
    · rename_i ok
      split at member
      · simp at member
      · rcases List.mem_cons.mp member with rfl | earlier
        · exact kdfStep_fedPermitted (by simpa [kdfSucceeded] using ok)
        · exact permitted input earlier
    · exact permitted input member
  · intro ctx' after
    rcases kdfStep_activeAfter after with
      ⟨isSetup, done, fresh⟩ | ⟨ctx, was, noSetup, noSecret, same⟩ |
      ⟨ctx, step, was, noSetup, done, supplied, added⟩
    · have nothing : sinceSetup ((e, (kdfStep operation e).1) :: h) = [] := by
        simp [sinceSetup, done, isSetup]
      refine ⟨?_, ?_, ?_, fresh.raw, ?_⟩
      · simp [nothing]
      · simp [KdfCtx.isSet, fresh.stepsSet]
      · simp [KdfCtx.isSet, fresh.stepsSet]
      · simp [fresh.canOutputKey]
    · exact secretsTracked_kept (tracked ctx was) noSetup noSecret same
    · exact secretsTracked_added (tracked ctx was) supplied added
        (by simp [sinceSetup, done, noSetup])

private theorem derive_of_not_verifyOnly {usage : KeyUsage}
    (one : usage &&& (psaKeyUsageDerive ||| psaKeyUsageVerifyDerivation) ≠ 0)
    (both : usage &&& psaKeyUsageVerifyDerivation ≠ 0 → usageDerive usage = true) :
    usageDerive usage = true := by
  by_cases verify : usage &&& psaKeyUsageVerifyDerivation = 0
  · simp only [usageDerive, bne_iff_ne, ne_eq]
    intro derive
    rw [BitVec.and_or_distrib_left, derive, verify] at one
    simp at one
  · exact both verify

/-- In every run on one operation: a stored key comes from a secret that a DERIVE key or a key
agreement supplied, never from bytes; and where no verify-only key is asked for output bytes, every
key behind the output bytes has DERIVE. -/
theorem kdf_output_respects_usage (events : List (KdfEvent Hmac Cmac))
    (condition : Throughout NoBytesFromVerifyOnlyKey (run kdfStep none events).1) :
    Throughout OutputRespectsUsage (run kdfStep none events).1 := by
  refine run_throughout KdfTracked ?_ ?_ events condition
  · exact ⟨by simp [sinceSetup], by simp⟩
  · intro h operation e before allowed
    refine ⟨kdfStep_tracked before e, ?_⟩
    intro success
    obtain ⟨permitted, tracked⟩ := before
    obtain ⟨env, call⟩ := e
    cases call with
    | outputBytes output =>
      intro input member
      have fed := permitted input member
      have asked := allowed output rfl input member
      obtain ⟨env', call'⟩ := input
      cases call' with
      | inputKey step key =>
        obtain ⟨attributes, keyData, found, one⟩ := fed
        exact ⟨attributes, keyData, found,
          derive_of_not_verifyOnly one (asked step key rfl attributes keyData found)⟩
      | keyAgreement step key peer => exact fed
      | _ => trivial
    | outputKey attributes keyNull =>
      obtain ⟨ctx, was, may⟩ := outputKey_success_granted success
      exact (tracked ctx was).granted may
    | _ => trivial

/-! ## Output from a verify-only key -/

/-- The key bytes `00 01 .. 0f`. -/
def sampleSecret : Bytes := (List.range 16).map (BitVec.ofNat 8)

/-- HKDF-Extract with SHA-256 of `sampleSecret` under the empty salt. -/
def samplePrk : Bytes :=
  [0xd9, 0x26, 0x95, 0x2c, 0xa8, 0xb7, 0xec, 0x4a,
    0x95, 0x94, 0x1d, 0x1a, 0xda, 0x3a, 0x52, 0x03,
    0xce, 0xff, 0x8c, 0xce, 0xee, 0x34, 0xf5, 0x74,
    0xd2, 0x39, 0x09, 0xeb, 0x31, 0x4c, 0x40, 0xc0]

/-- The first 32 bytes of HKDF-Expand of `samplePrk` under the empty info. -/
def sampleOkm : Bytes :=
  [0x4e, 0x24, 0x18, 0x5f, 0x0c, 0xf7, 0xd7, 0x41,
    0x3c, 0xcb, 0xe2, 0xba, 0x72, 0xd3, 0x8d, 0xfc,
    0x4b, 0xcd, 0x6c, 0x86, 0xd0, 0xa1, 0xed, 0x59,
    0xad, 0xba, 0x67, 0xdc, 0x9c, 0x99, 0xf7, 0xe0]

/-- HKDF-SHA-256 restricted to the inputs of the runs below. -/
def sampleWcKdf : WcKdf Unit Unit where
  mac := {
    hmacInit := .error .other
    hmacSetKey := fun _ _ _ => .error .other
    hmacUpdate := fun _ _ => .error .other
    hmacFinal := fun _ => .error .other
    initCmac := fun _ => .error .other
    cmacUpdate := fun _ _ => .error .other
    cmacFinal := fun _ _ => .error .other }
  hashGetDigestSize := fun hash => if hash = .sha256 then 32 else 0
  hkdfExtract := fun hash salt secret =>
    if hash = .sha256 ∧ salt = [] ∧ secret = sampleSecret then .ok samplePrk else .error .other
  hkdfExpand := fun hash prk info length =>
    if hash = .sha256 ∧ prk = samplePrk ∧ info = [] ∧ length = 32 then .ok sampleOkm
    else .error .other
  prfTls := fun _ _ _ _ _ => .error .other
  pbkdf2 := fun _ _ _ _ _ => .error .other

def sampleKdfAlg : Algorithm := psaAlgHkdfBase ||| psaAlgSha256 &&& psaAlgHashMask

/-- A store whose one key is a derivation key with the given usage flags. -/
def sampleKdfEnv (usage : KeyUsage) : KdfEnv Unit Unit where
  getKeyData := fun _ => .ok (⟨psaKeyTypeDerive, 128, psaKeyLifetimeVolatile, usage, sampleKdfAlg,
    psaAlgNone, psaKeyIdVendorMin⟩, sampleSecret)
  getKeyAttributes := fun _ => .ok ⟨psaKeyTypeDerive, 128, psaKeyLifetimeVolatile, usage,
    sampleKdfAlg, psaAlgNone, psaKeyIdVendorMin⟩
  keyAgreementSecret := fun _ _ _ _ => .error ⟨.notSupported, failing⟩
  importKey := fun _ _ => (.success, psaKeyIdVendorMin + 1)
  alloc := fun _ => true
  wc := sampleWcKdf

/-- HKDF over 32 bytes with its secret from the sample key. -/
def hkdfRun (usage : KeyUsage) : List (KdfEvent Unit Unit) :=
  [.setup sampleKdfAlg, .setCapacity 32, .inputKey .secret psaKeyIdVendorMin,
    .inputBytes .info (.data []), .outputBytes ⟨false, 32⟩].map (⟨sampleKdfEnv usage, ·⟩)

theorem kdf_output_respects_usage_derive :
    Throughout OutputRespectsUsage (run kdfStep none (hkdfRun psaKeyUsageDerive)).1 := by
  refine kdf_output_respects_usage (hkdfRun psaKeyUsageDerive) ?_
  refine throughout_cons.mpr ⟨?_, ?_⟩
  · intro output _ input member step key call attributes keyData found _
    change input ∈ [⟨sampleKdfEnv psaKeyUsageDerive, .inputBytes .info (.data [])⟩,
      ⟨sampleKdfEnv psaKeyUsageDerive, .inputKey .secret psaKeyIdVendorMin⟩,
      ⟨sampleKdfEnv psaKeyUsageDerive, .setCapacity 32⟩] at member
    simp only [List.mem_cons, List.not_mem_nil, or_false] at member
    rcases member with rfl | rfl | rfl
    · cases call
    · cases call
      cases found
      decide
    · cases call
  · iterate 4 refine throughout_cons.mpr ⟨by rintro _ ⟨⟩, ?_⟩
    exact throughout_nil _

/-- A key whose only usage is VERIFY_DERIVATION yields 32 output bytes. -/
theorem verify_only_key_derives_bytes :
    (run kdfStep none (hkdfRun psaKeyUsageVerifyDerivation)).1.map Prod.snd =
        [⟨some .success, sampleOkm, psaKeyIdNull⟩, .ofStatus .success, .ofStatus .success,
          .ofStatus .success, .ofStatus .success] ∧
      usageDerive psaKeyUsageVerifyDerivation = false ∧
      ¬ Throughout OutputRespectsUsage
        (run kdfStep none (hkdfRun psaKeyUsageVerifyDerivation)).1 := by
  refine ⟨by decide, by decide, ?_⟩
  intro respected
  have fed := (throughout_cons.mp respected).1 (by decide)
    ⟨sampleKdfEnv psaKeyUsageVerifyDerivation, .inputKey .secret psaKeyIdVendorMin⟩
    (.tail _ (.head _))
  obtain ⟨attributes, keyData, found, derive⟩ := fed
  cases found
  revert derive
  decide

end WolfPSA.Guarantees
