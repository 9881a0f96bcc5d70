import WolfPSA.Source.Mac

/-!
# Key derivation: context and inputs

Embedding of `src/psa_key_derivation.c:60-1065`: the operation context, the step rules of
`wolfpsa_kdf_validate_step` and the input calls. The build has HKDF, the TLS PRF, PBKDF2, HMAC and
CMAC, as in `user_settings.h`. Key look-ups, allocations and the shared secret of a key agreement
are answers of the environment.
-/

namespace WolfPSA.Source

/-- `psa_key_derivation_step_t`: the named steps, the value zero, and any other value. -/
inductive KdfStep where
  | zero | secret | password | otherSecret | label | context | salt | info | seed | cost | other
  deriving DecidableEq, Repr

/-- `wolfpsa_kdf_step_mask` is non-zero exactly for the named steps. -/
def KdfStep.hasMask : KdfStep → Bool
  | zero | other => false
  | _ => true

/-- `PSA_KEY_DERIVATION_UNLIMITED_CAPACITY`. -/
def psaKeyDerivationUnlimitedCapacity : Nat := sizeMax

/-- `PSA_TLS12_PSK_TO_MS_PSK_MAX_SIZE`. -/
def psaTls12PskToMsPskMaxSize : Nat := 128

def uint16Max : Nat := 2 ^ 16 - 1

/-- `wolfpsa_kdf_ctx_t`. The buffers `secret`, `other_secret`, `salt`, `info`, `label`, `context`,
`seed` and `password` are `inputs` at their step; `stepsSet` lists the steps of `steps_set`. -/
structure KdfCtx where
  alg : Algorithm
  kaAlg : Algorithm
  capacity : Nat
  outputOffset : Nat
  stepsSet : List KdfStep
  inputs : KdfStep → Bytes
  cost : Nat
  sp800_108LBytes : Nat
  isKeyAgreement : Bool
  isRawKdf : Bool
  outputStarted : Bool
  canOutputKey : Bool
  errorState : Bool
  outputCache : Option Bytes

namespace KdfCtx

/-- `(ctx->steps_set & mask) != 0`. -/
def isSet (ctx : KdfCtx) (step : KdfStep) : Bool := ctx.stepsSet.contains step

end KdfCtx

/-- The allocations of `psa_key_derivation.c`; a call meets each at most once. -/
inductive KdfSite where
  | ctx | append | agreedSecret | premaster | cmac | blockInput | outputCache | fullOutput
  | keyBuffer | verifyBuffer
  deriving DecidableEq, Repr

/-- The wolfCrypt calls of the derivation back ends. -/
structure WcKdf (Hmac Cmac : Type) where
  mac : WcMac Hmac Cmac
  /-- `wc_HashGetDigestSize`, 0 for a negative answer. -/
  hashGetDigestSize : WcHashType → Nat
  hkdfExtract : WcHashType → (salt secret : Bytes) → Except WcError Bytes
  hkdfExpand : WcHashType → (prk info : Bytes) → (length : Nat) → Except WcError Bytes
  prfTls : WcHashType → (secret label seed : Bytes) → (length : Nat) → Except WcError Bytes
  pbkdf2 : WcHashType → (password salt : Bytes) → (cost length : Nat) → Except WcError Bytes

/-- What one derivation call meets outside `psa_key_derivation.c`. -/
structure KdfEnv (Hmac Cmac : Type) where
  getKeyData : KeyLookup
  getKeyAttributes : KeyId → Except Failure KeyAttributes
  /-- `wolfpsa_key_agreement_secret` on algorithm, private key, peer key and output size. -/
  keyAgreementSecret : Algorithm → KeyId → InBuf → Nat → Except Failure Bytes
  importKey : KeyAttributes → Bytes → Status × KeyId
  alloc : KdfSite → Bool
  wc : WcKdf Hmac Cmac

variable {Hmac Cmac : Type}

/-- `wolfpsa_hash_type_from_alg` of `psa_key_derivation.c`: SHA-1 and the SHA-2 family. -/
def wolfpsaKdfHashTypeFromAlg (alg : Algorithm) : Option WcHashType :=
  let hash :=
    if psaAlgIsAnyHkdf alg || psaAlgIsTls12Prf alg || psaAlgIsTls12PskToMs alg ||
        psaAlgIsPbkdf2Hmac alg then psaAlgHmacGetHash alg
    else if psaAlgIsSp800_108CounterHmac alg then
      if alg &&& psaAlgHashMask == 0 then psaAlgNone else psaAlgHmacGetHash alg
    else 0
  if hash == psaAlgSha1 then some .sha
  else if hash == psaAlgSha224 then some .sha224
  else if hash == psaAlgSha256 then some .sha256
  else if hash == psaAlgSha384 then some .sha384
  else if hash == psaAlgSha512 then some .sha512
  else if hash == psaAlgSha512_224 then some .sha512_224
  else if hash == psaAlgSha512_256 then some .sha512_256
  else none

/-- `wc_HashGetDigestSize(wolfpsa_hash_type_from_alg(alg))`. -/
def kdfHashLen (wc : WcKdf Hmac Cmac) (alg : Algorithm) : Nat :=
  match wolfpsaKdfHashTypeFromAlg alg with
  | some hash => wc.hashGetDigestSize hash
  | none => 0

/-! ## Step rules -/

/-- The HKDF arm of `wolfpsa_kdf_validate_step`. -/
def validateHkdfStep (wc : WcKdf Hmac Cmac) (ctx : KdfCtx) (step : KdfStep) (dataLength : Nat) :
    Status :=
  if step == .otherSecret || step == .label || step == .seed || step == .password ||
      step == .cost then .invalidArgument
  else if psaAlgIsHkdfExtract ctx.alg && step == .info then .invalidArgument
  else if psaAlgIsHkdfExtract ctx.alg && step == .salt then
    if ctx.isSet .secret then .badState else .success
  else if psaAlgIsHkdfExtract ctx.alg && step == .secret then
    if !ctx.isSet .salt then .badState else .success
  else if psaAlgIsHkdfExpand ctx.alg then
    if step == .salt then .invalidArgument
    else if step == .secret then
      if ctx.stepsSet ≠ [] then .badState
      else if kdfHashLen wc ctx.alg == 0 || dataLength != kdfHashLen wc ctx.alg then
        .invalidArgument
      else .success
    else if step == .info then
      if !ctx.isSet .secret then .badState else .success
    else .invalidArgument
  else if psaAlgIsHkdf ctx.alg && step == .salt then
    if ctx.isSet .secret then .badState else .success
  else if psaAlgIsHkdf ctx.alg && (step == .secret || step == .info) then .success
  else .invalidArgument

/-- The TLS 1.2 PSK-to-MS arm of `wolfpsa_kdf_validate_step`. -/
def validatePskToMsStep (ctx : KdfCtx) (step : KdfStep) (dataLength : Nat) : Status :=
  if step != .secret && step != .otherSecret && step != .seed then .invalidArgument
  else if step == .secret && !ctx.isSet .seed then .badState
  else if step == .secret && decide (dataLength > psaTls12PskToMsPskMaxSize) then .invalidArgument
  else if step == .otherSecret && !ctx.isSet .seed then .badState
  else if step == .otherSecret && decide (dataLength > uint16Max) then .invalidArgument
  else .success

/-- `wolfpsa_kdf_validate_step` on an existing context. -/
def wolfpsaKdfValidateStep (wc : WcKdf Hmac Cmac) (ctx : KdfCtx) (step : KdfStep)
    (dataLength : Nat) : Status :=
  if ctx.outputStarted then .badState
  else if step == .zero then .invalidArgument
  else if !(psaAlgIsPbkdf2 ctx.alg && step == .salt) && ctx.isSet step then .badState
  else if ctx.isRawKdf then
    if step != .secret then .invalidArgument else .success
  else if psaAlgIsAnyHkdf ctx.alg then validateHkdfStep wc ctx step dataLength
  else if psaAlgIsTls12Prf ctx.alg then
    if step != .secret && step != .label && step != .seed then .invalidArgument else .success
  else if psaAlgIsTls12PskToMs ctx.alg then validatePskToMsStep ctx step dataLength
  else if psaAlgIsPbkdf2 ctx.alg then
    if step != .password && step != .salt then .invalidArgument else .success
  else if psaAlgIsSp800_108CounterHmac ctx.alg || ctx.alg == psaAlgSp800_108CounterCmac then
    if step != .secret && step != .label && step != .context then .invalidArgument else .success
  else .notSupported

/-! ## Error state -/

/-- `wolfpsa_kdf_done`: every failure but the two exempt ones poisons the operation. -/
def wolfpsaKdfDone (ctx : KdfCtx) (status : Status) : KdfCtx :=
  if status ≠ .success ∧ status ≠ .invalidSignature ∧ status ≠ .invalidHandle then
    { ctx with errorState := true }
  else ctx

/-! ## Setup and capacity -/

/-- The capacity `psa_key_derivation_setup` starts with; `none` when the hash is unavailable. -/
def kdfInitialCapacity (wc : WcKdf Hmac Cmac) (kdfAlg : Algorithm) : Option Nat :=
  if psaAlgIsAnyHkdf kdfAlg then
    let hashLen := kdfHashLen wc kdfAlg
    if hashLen == 0 then none
    else if psaAlgIsHkdfExtract kdfAlg then some hashLen
    else some (255 * hashLen)
  else if psaAlgIsSp800_108CounterHmac kdfAlg || kdfAlg == psaAlgSp800_108CounterCmac then
    some 0x1fffffff
  else some psaKeyDerivationUnlimitedCapacity

/-- `psa_key_derivation_setup` on an inactive operation: the new context or the refusal. -/
def kdfSetupCtx (env : KdfEnv Hmac Cmac) (alg : Algorithm) : Except Status KdfCtx :=
  if !(psaAlgIsKeyDerivation alg || psaAlgIsKeyAgreement alg) then .error .invalidArgument
  else if psaAlgIsKeyAgreement alg && psaAlgKeyAgreementGetBase alg != psaAlgEcdh then
    .error .notSupported
  else
    let kdfAlg := if psaAlgIsKeyAgreement alg then psaAlgKeyAgreementGetKdf alg else alg
    let hashed := psaAlgIsAnyHkdf kdfAlg || psaAlgIsTls12Prf kdfAlg ||
      psaAlgIsTls12PskToMs kdfAlg || psaAlgIsPbkdf2Hmac kdfAlg ||
      psaAlgIsSp800_108CounterHmac kdfAlg
    if !(hashed || psaAlgIsPbkdf2 kdfAlg || kdfAlg == psaAlgSp800_108CounterCmac ||
        kdfAlg == psaAlgCategoryKeyDerivation) then .error .notSupported
    else if hashed && wolfpsaKdfHashTypeFromAlg kdfAlg == none then .error .notSupported
    else if !env.alloc .ctx then .error .insufficientMemory
    else
      match kdfInitialCapacity env.wc kdfAlg with
      | none => .error .notSupported
      | some capacity =>
        .ok {
          alg := kdfAlg
          kaAlg := if psaAlgIsKeyAgreement alg then psaAlgKeyAgreementGetBase alg else 0
          capacity := capacity
          outputOffset := 0
          stepsSet := []
          inputs := fun _ => []
          cost := 0
          sp800_108LBytes := 0
          isKeyAgreement := psaAlgIsKeyAgreement alg
          isRawKdf := psaAlgIsKeyAgreement alg && kdfAlg == psaAlgCategoryKeyDerivation
          outputStarted := false
          canOutputKey := false
          errorState := false
          outputCache := none }

/-- `wolfpsa_kdf_set_capacity`. -/
def wolfpsaKdfSetCapacity (wc : WcKdf Hmac Cmac) (ctx : KdfCtx) (capacity : Nat) :
    Status × KdfCtx :=
  let hashLen := kdfHashLen wc ctx.alg
  if psaAlgIsAnyHkdf ctx.alg && hashLen == 0 then (.notSupported, ctx)
  else if psaAlgIsAnyHkdf ctx.alg && psaAlgIsHkdfExtract ctx.alg && decide (capacity > hashLen) then
    (.invalidArgument, ctx)
  else if psaAlgIsAnyHkdf ctx.alg && !psaAlgIsHkdfExtract ctx.alg &&
      decide (capacity > 255 * hashLen) then (.invalidArgument, ctx)
  else if capacity > ctx.capacity then (.invalidArgument, ctx)
  else (.success, { ctx with capacity := capacity })

/-! ## Inputs -/

/-- `wolfpsa_kdf_append` on one buffer of the context. -/
def wolfpsaKdfAppend (env : KdfEnv Hmac Cmac) (buf : Bytes) (data : InBuf) :
    Except Status Bytes :=
  if data.isNull && decide (data.length > 0) then .error .invalidArgument
  else if data.length == 0 then .ok buf
  else if buf.length + data.length > sizeMax then .error .insufficientMemory
  else if !env.alloc .append then .error .insufficientMemory
  else .ok (buf ++ data.bytes)

/-- `wolfpsa_kdf_input_bytes`. The `switch` has no arm for the cost. -/
def wolfpsaKdfInputBytes (env : KdfEnv Hmac Cmac) (ctx : KdfCtx) (step : KdfStep)
    (data : InBuf) : Status × KdfCtx :=
  match wolfpsaKdfValidateStep env.wc ctx step data.length with
  | .success =>
    if !step.hasMask || step == .cost then (.invalidArgument, ctx)
    else
      match wolfpsaKdfAppend env (ctx.inputs step) data with
      | .error status => (status, ctx)
      | .ok buf => (.success, { ctx with
          inputs := Function.update ctx.inputs step buf
          stepsSet := step :: ctx.stepsSet })
  | status => (status, ctx)

/-- `wolfpsa_kdf_input_integer`. -/
def wolfpsaKdfInputInteger (ctx : KdfCtx) (step : KdfStep) (value : Nat) : Status × KdfCtx :=
  if ctx.outputStarted then (.badState, ctx)
  else if step != .cost then (.invalidArgument, ctx)
  else if !psaAlgIsPbkdf2 ctx.alg then (.invalidArgument, ctx)
  else if ctx.isSet .cost then (.badState, ctx)
  else if value == 0 then (.invalidArgument, ctx)
  else if value > uint32Max then (.notSupported, ctx)
  else (.success, { ctx with cost := value, stepsSet := .cost :: ctx.stepsSet })

/-- `wolfpsa_kdf_key_inputs`: the key types each step takes. -/
def wolfpsaKdfKeyInputs : List (KdfStep × KeyType) :=
  [(.secret, psaKeyTypeDerive), (.otherSecret, psaKeyTypeDerive),
    (.password, psaKeyTypePassword), (.password, psaKeyTypeDerive),
    (.salt, psaKeyTypeRawData), (.info, psaKeyTypeRawData), (.label, psaKeyTypeRawData),
    (.context, psaKeyTypeRawData), (.seed, psaKeyTypeRawData)]

/-- `wolfpsa_kdf_key_type_ok`. -/
def wolfpsaKdfKeyTypeOk (alg : Algorithm) (step : KdfStep) (type : KeyType) : Bool :=
  (step == .secret && (type == psaKeyTypeHmac && psaAlgIsSp800_108CounterHmac alg ||
    type == psaKeyTypeAes && alg == psaAlgSp800_108CounterCmac)) ||
  wolfpsaKdfKeyInputs.contains (step, type)

/-- `wolfpsa_kdf_key_alg_permitted`. -/
def wolfpsaKdfKeyAlgPermitted (ctx : KdfCtx) (keyAlg : Algorithm) : Bool :=
  if keyAlg == psaAlgNone then false
  else if ctx.isKeyAgreement then
    psaAlgIsKeyAgreement keyAlg && psaAlgKeyAgreementGetKdf keyAlg == ctx.alg
  else keyAlg == ctx.alg

/-- `usage & PSA_KEY_USAGE_DERIVE` as a condition. -/
def usageDerive (usage : KeyUsage) : Bool := usage &&& psaKeyUsageDerive != 0

/-- The checks of `wolfpsa_kdf_input_key` on the key it read. -/
def kdfInputKeyCheck (env : KdfEnv Hmac Cmac) (ctx : KdfCtx) (step : KdfStep)
    (attributes : KeyAttributes) (keyData : Bytes) : Status :=
  match wolfpsaKdfValidateStep env.wc ctx step keyData.length with
  | .success =>
    if attributes.usage &&& (psaKeyUsageDerive ||| psaKeyUsageVerifyDerivation) == 0 then
      .notPermitted
    else if !wolfpsaKdfKeyTypeOk ctx.alg step attributes.type then .invalidArgument
    else if !wolfpsaKdfKeyAlgPermitted ctx attributes.alg &&
        !wolfpsaKdfKeyAlgPermitted ctx attributes.alg2 then .notPermitted
    else .success
  | status => status

/-- `wolfpsa_kdf_input_key`: only a secret or password from a DERIVE key permits `output_key`. -/
def wolfpsaKdfInputKey (env : KdfEnv Hmac Cmac) (ctx : KdfCtx) (step : KdfStep) (key : KeyId) :
    Status × KdfCtx :=
  match env.getKeyData key with
  | .error status => (status.val, ctx)
  | .ok (attributes, keyData) =>
    match kdfInputKeyCheck env ctx step attributes keyData with
    | .success =>
      let r := wolfpsaKdfInputBytes env ctx step (.data keyData)
      if r.1 = .success ∧ usageDerive attributes.usage = true ∧
          (step = .secret ∨ step = .password) then
        (r.1, { r.2 with canOutputKey := true })
      else r
    | status => (status, ctx)

/-- The checks of `wolfpsa_kdf_key_agreement` up to the shared secret, which it returns. -/
def kdfAgreedSecret (env : KdfEnv Hmac Cmac) (ctx : KdfCtx) (step : KdfStep) (privateKey : KeyId)
    (peerKey : InBuf) : Except Failure Bytes :=
  if !ctx.isKeyAgreement then .error ⟨.invalidArgument, failing⟩
  else if ctx.outputStarted then .error ⟨.badState, failing⟩
  else if step != .secret && step != .otherSecret then .error ⟨.invalidArgument, failing⟩
  else if step == .otherSecret && !psaAlgIsTls12PskToMs ctx.alg then .error ⟨.invalidArgument, failing⟩
  else
    match env.getKeyAttributes privateKey with
    | .error status => .error status
    | .ok attributes =>
      let secretLen := psaRawKeyAgreementOutputSize attributes.type attributes.bits
      if !usageDerive attributes.usage then .error ⟨.notPermitted, failing⟩
      else if !psaKeyTypeIsKeyPair attributes.type then .error ⟨.invalidArgument, failing⟩
      else if secretLen == 0 then .error ⟨.notSupported, failing⟩
      else if !env.alloc .agreedSecret then .error ⟨.insufficientMemory, failing⟩
      else
        env.keyAgreementSecret (psaAlgKeyAgreement ctx.kaAlg ctx.alg) privateKey peerKey secretLen

/-- `wolfpsa_kdf_key_agreement`. -/
def wolfpsaKdfKeyAgreement (env : KdfEnv Hmac Cmac) (ctx : KdfCtx) (step : KdfStep)
    (privateKey : KeyId) (peerKey : InBuf) : Status × KdfCtx :=
  match kdfAgreedSecret env ctx step privateKey peerKey with
  | .error status => (status.val, ctx)
  | .ok secret =>
    let r := wolfpsaKdfInputBytes env ctx step (.data secret)
    if r.1 = .success ∧ step = .secret then (r.1, { r.2 with canOutputKey := true }) else r

end WolfPSA.Source
