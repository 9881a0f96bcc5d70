import WolfPSA.Source.Signatures

/-!
# Signature entry points

Embedding of the signature workers of `src/psa_asymmetric_api.c`: `psa_sign_hash`,
`psa_verify_hash`, `psa_verify_message`, `psa_sign_message` and their with-context forms. The key
look-up is answered by the environment, as is `psa_hash_compute`; the back ends are those of
`Source/Signatures`.
-/

namespace WolfPSA.Source

/-- What a signature call meets: the build, the key store and wolfCrypt. -/
structure SignEnv where
  build : EccBuild
  getKeyData : KeyLookup
  hashCompute : Algorithm → Bytes → Except Failure Bytes
  rsa : WcRsa
  ecc : WcEcc
  ed25519 : WcEd
  ed448 : WcEd
  mldsa : WcMlDsa
  lms : WcLms
  xmss : WcXmss

/-- A status that ends the call unless it is `PSA_SUCCESS`. -/
def requireStatus (status : Status) : Except Failure Unit :=
  if fails : status ≠ .success then refuse status fails else .ok ()

@[simp] theorem requireStatus_ok_iff {status : Status} {u : Unit} :
    requireStatus status = .ok u ↔ status = .success := by
  unfold requireStatus refuse
  split <;> simp_all

/-- `wolfpsa_asymmetric_check_key`. -/
def wolfpsaAsymmetricCheckKey (getKeyData : KeyLookup) (key : KeyId) (usage : KeyUsage)
    (alg : Algorithm) : Except Failure (KeyAttributes × Bytes) := do
  let found ← getKeyData key
  requireStatus (wolfpsaAsymmetricCheckAttributes found.1 usage alg)
  return found

/-- `wolfpsa_check_context`. -/
def wolfpsaCheckContext (alg : Algorithm) (contextLength : Nat) : Status :=
  if contextLength > 255 then .invalidArgument
  else if contextLength == 0 then .success
  else if alg == psaAlgEddsaCtx || alg == psaAlgEd25519ph || alg == psaAlgEd448ph then .success
  else if psaAlgIsMlDsa alg || psaAlgIsHashMlDsa alg || psaAlgIsDeterministicHashMlDsa alg then
    .success
  else .invalidArgument

/-- `PSA_SIGN_OUTPUT_SIZE`, through `wolfpsa_sign_output_size`. -/
def wolfpsaSignOutputSize (type : KeyType) (bits : Nat) : Nat :=
  if psaKeyTypeIsRsa type then psaBitsToBytes bits
  else if psaKeyTypeIsEcc type then if bits == 448 then 114 else psaBitsToBytes bits * 2
  else if psaKeyTypeIsMlDsa type then
    if bits == 128 then 2420 else if bits == 192 then 3309 else if bits == 256 then 4627 else 0
  else 0

/-- The stateful hash-based key types, which only verify messages. -/
def isHashBasedKey (type : KeyType) : Bool :=
  type == psaKeyTypeLmsPublicKey || type == psaKeyTypeHssPublicKey ||
    type == psaKeyTypeXmssPublicKey || type == psaKeyTypeXmssMtPublicKey

theorem wolfpsaAsymmetricCheckKey_ok_iff {getKeyData : KeyLookup} {key : KeyId} {usage : KeyUsage}
    {alg : Algorithm} {found : KeyAttributes × Bytes} :
    wolfpsaAsymmetricCheckKey getKeyData key usage alg = .ok found ↔
      getKeyData key = .ok found ∧
        wolfpsaAsymmetricCheckAttributes found.1 usage alg = .success := by
  simp only [wolfpsaAsymmetricCheckKey, except_bind_ok_iff, requireStatus_ok_iff, exists_const]
  constructor
  · rintro ⟨_, looked, admitted, same⟩
    cases same
    exact ⟨looked, admitted⟩
  · rintro ⟨looked, admitted⟩
    exact ⟨found, looked, admitted, rfl⟩

/-! ## Signing a hash -/

/-- The dispatch of `wolfpsa_sign_hash_worker` behind the ML-DSA branch. -/
def signHashDispatch (env : SignEnv) (attributes : KeyAttributes) (keyData : Bytes)
    (alg : Algorithm) (hash : Bytes) (context : InBuf) (signature : OutBuf) :
    Except Failure Bytes :=
  let type := attributes.type
  let bits := attributes.bits.toNat
  if psaKeyTypeIsRsa type then psaAsymmetricSignRsa env.rsa type keyData alg hash signature
  else if type == psaKeyTypeEccKeyPair psaEccFamilyTwistedEdwards then
    if bits == 255 then signEddsa ed25519 env.ed25519 type bits keyData alg hash signature context
    else if bits == 448 then signEddsa ed448 env.ed448 type bits keyData alg hash signature context
    else refuse .notSupported
  else if psaKeyTypeIsEcc type then
    psaAsymmetricSignEcc env.build env.ecc type bits keyData alg hash signature
  else refuse .notSupported

/-- The part of `wolfpsa_sign_hash_worker` behind the key and context checks. -/
def signHashWithKey (env : SignEnv) (attributes : KeyAttributes) (keyData : Bytes)
    (alg : Algorithm) (hash : Bytes) (context : InBuf) (signature : OutBuf) :
    Except Failure Bytes :=
  let type := attributes.type
  let bits := attributes.bits.toNat
  if psaKeyTypeIsMlDsa type then
    if psaAlgIsMlDsa alg then refuse .invalidArgument
    else if psaAlgIsHashMlDsa alg || psaAlgIsDeterministicHashMlDsa alg then
      if type != psaKeyTypeMlDsaKeyPair then refuse .invalidArgument
      else wolfpsaMldsaSign env.mldsa bits keyData alg context hash true signature
    else refuse .invalidArgument
  else if !psaAlgIsSignHash alg then refuse .invalidArgument
  else if isHashBasedKey type then refuse .invalidArgument
  else
    let sigSize := wolfpsaSignOutputSize type bits
    if sigSize != 0 && decide (signature.size < sigSize) then refuse .bufferTooSmall
    else signHashDispatch env attributes keyData alg hash context signature

/-- `wolfpsa_sign_hash_worker`; `lengthIsNull` is a NULL `signature_length` pointer. -/
def wolfpsaSignHashWorker (env : SignEnv) (key : KeyId) (alg : Algorithm) (hash context : InBuf)
    (signature : OutBuf) (lengthIsNull : Bool) : Except Failure Bytes := do
  require (!lengthIsNull) .invalidArgument
  require (!hash.isNull) .invalidArgument
  require (!(signature.isNull && signature.size != 0)) .invalidArgument
  let found ← wolfpsaAsymmetricCheckKey env.getKeyData key psaKeyUsageSignHash alg
  requireStatus (wolfpsaCheckContext alg context.length)
  signHashWithKey env found.1 found.2 alg hash.bytes context signature

/-- `psa_sign_hash`. -/
def psaSignHash (env : SignEnv) (key : KeyId) (alg : Algorithm) (hash : InBuf)
    (signature : OutBuf) (lengthIsNull : Bool) : Except Failure Bytes :=
  wolfpsaSignHashWorker env key alg hash (.null 0) signature lengthIsNull

/-- `psa_sign_hash_with_context`. -/
def psaSignHashWithContext (env : SignEnv) (key : KeyId) (alg : Algorithm) (hash context : InBuf)
    (signature : OutBuf) (lengthIsNull : Bool) : Except Failure Bytes :=
  wolfpsaSignHashWorker env key alg hash context signature lengthIsNull

/-! ## Verifying a hash -/

/-- The dispatch shared by `wolfpsa_verify_hash_worker` and `wolfpsa_verify_message_worker`. -/
def verifyHashDispatch (env : SignEnv) (attributes : KeyAttributes) (keyData : Bytes)
    (alg : Algorithm) (hash : Bytes) (context : InBuf) (signature : Bytes) : Except Failure Unit :=
  let type := attributes.type
  let bits := attributes.bits.toNat
  if psaKeyTypeIsRsa type then psaAsymmetricVerifyRsa env.rsa type keyData alg hash signature
  else if type == psaKeyTypeEccKeyPair psaEccFamilyTwistedEdwards ||
      type == psaKeyTypeEccPublicKey psaEccFamilyTwistedEdwards then
    if bits == 255 then verifyEddsa ed25519 env.ed25519 type bits keyData alg hash signature context
    else if bits == 448 then
      verifyEddsa ed448 env.ed448 type bits keyData alg hash signature context
    else refuse .notSupported
  else if psaKeyTypeIsEcc type then
    psaAsymmetricVerifyEcc env.build env.ecc type bits keyData alg hash signature
  else refuse .notSupported

/-- The part of `wolfpsa_verify_hash_worker` behind the key and context checks. -/
def verifyHashWithKey (env : SignEnv) (attributes : KeyAttributes) (keyData : Bytes)
    (alg : Algorithm) (hash : Bytes) (context : InBuf) (signature : Bytes) : Except Failure Unit :=
  let type := attributes.type
  if psaKeyTypeIsMlDsa type then
    if psaAlgIsMlDsa alg then refuse .invalidArgument
    else if psaAlgIsHashMlDsa alg || psaAlgIsDeterministicHashMlDsa alg then
      wolfpsaMldsaVerify env.mldsa attributes.bits.toNat type keyData alg context hash true signature
    else refuse .invalidArgument
  else if !psaAlgIsSignHash alg then refuse .invalidArgument
  else if isHashBasedKey type then refuse .invalidArgument
  else verifyHashDispatch env attributes keyData alg hash context signature

/-- `wolfpsa_verify_hash_worker`. -/
def wolfpsaVerifyHashWorker (env : SignEnv) (key : KeyId) (alg : Algorithm)
    (hash context signature : InBuf) : Except Failure Unit := do
  require (!(hash.isNull && hash.length != 0)) .invalidArgument
  require (!(signature.isNull && signature.length != 0)) .invalidArgument
  let found ← wolfpsaAsymmetricCheckKey env.getKeyData key psaKeyUsageVerifyHash alg
  require (signature.length != 0) .invalidSignature
  requireStatus (wolfpsaCheckContext alg context.length)
  verifyHashWithKey env found.1 found.2 alg hash.bytes context signature.bytes

/-- `psa_verify_hash`. -/
def psaVerifyHash (env : SignEnv) (key : KeyId) (alg : Algorithm) (hash signature : InBuf) :
    Except Failure Unit :=
  wolfpsaVerifyHashWorker env key alg hash (.null 0) signature

/-- `psa_verify_hash_with_context`. -/
def psaVerifyHashWithContext (env : SignEnv) (key : KeyId) (alg : Algorithm)
    (hash context signature : InBuf) : Except Failure Unit :=
  wolfpsaVerifyHashWorker env key alg hash context signature

/-! ## Verifying a message -/

/-- The hash step of `wolfpsa_verify_message_worker`. -/
def messageHash (env : SignEnv) (alg : Algorithm) (input : Bytes) : Except Failure Bytes :=
  if alg == psaAlgRsaPkcs1v15SignRaw then
    if input.length > wolfpsaHashMaxSize then refuse .invalidArgument else .ok input
  else if psaAlgSignGetHash alg == 0 then refuse .notSupported
  else env.hashCompute (psaAlgSignGetHash alg) input

/-- The ML-DSA branch of `wolfpsa_verify_message_worker`. -/
def verifyMessageMldsa (env : SignEnv) (attributes : KeyAttributes) (keyData : Bytes)
    (alg : Algorithm) (input : Bytes) (context : InBuf) (signature : Bytes) :
    Except Failure Unit :=
  let bits := attributes.bits.toNat
  if !psaAlgIsMlDsa alg && !psaAlgIsHashMlDsa alg && !psaAlgIsDeterministicHashMlDsa alg then
    refuse .invalidArgument
  else if psaAlgIsMlDsa alg then
    wolfpsaMldsaVerify env.mldsa bits attributes.type keyData alg context input false signature
  else do
    let hash ← env.hashCompute (psaAlgGetHash alg) input
    wolfpsaMldsaVerify env.mldsa bits attributes.type keyData alg context hash true signature

/-- The hash-based branch: each key type takes its own algorithm only. -/
def verifyMessageHashBased (env : SignEnv) (type : KeyType) (keyData : Bytes) (alg : Algorithm)
    (input signature : Bytes) : Except Failure Unit :=
  if type == psaKeyTypeLmsPublicKey then do
    require (alg == psaAlgLms) .invalidArgument
    wolfpsaLmsVerify env.lms keyData input signature
  else if type == psaKeyTypeHssPublicKey then do
    require (alg == psaAlgHss) .invalidArgument
    wolfpsaLmsVerify env.lms keyData input signature
  else if type == psaKeyTypeXmssPublicKey then do
    require (alg == psaAlgXmss) .invalidArgument
    wolfpsaXmssVerify env.xmss keyData input signature
  else do
    require (alg == psaAlgXmssMt) .invalidArgument
    wolfpsaXmssVerify env.xmss keyData input signature

/-- The part of `wolfpsa_verify_message_worker` behind the key and context checks. -/
def verifyMessageWithKey (env : SignEnv) (attributes : KeyAttributes) (keyData : Bytes)
    (alg : Algorithm) (input : Bytes) (context : InBuf) (signature : Bytes) :
    Except Failure Unit :=
  let type := attributes.type
  let bits := attributes.bits.toNat
  if psaKeyTypeIsMlDsa type then
    verifyMessageMldsa env attributes keyData alg input context signature
  else if isHashBasedKey type then verifyMessageHashBased env type keyData alg input signature
  else if (alg == psaAlgPureEddsa || alg == psaAlgEddsaCtx) &&
      (type == psaKeyTypeEccKeyPair psaEccFamilyTwistedEdwards ||
        type == psaKeyTypeEccPublicKey psaEccFamilyTwistedEdwards) then
    if bits == 255 then
      verifyEddsa ed25519 env.ed25519 type bits keyData alg input signature context
    else if bits == 448 then
      verifyEddsa ed448 env.ed448 type bits keyData alg input signature context
    else refuse .notSupported
  else do
    let hash ← messageHash env alg input
    verifyHashDispatch env attributes keyData alg hash context signature

/-- `wolfpsa_verify_message_worker`. -/
def wolfpsaVerifyMessageWorker (env : SignEnv) (key : KeyId) (alg : Algorithm)
    (input context signature : InBuf) : Except Failure Unit := do
  require (!(input.isNull && input.length != 0)) .invalidArgument
  require (!(signature.isNull && signature.length != 0)) .invalidArgument
  let found ← wolfpsaAsymmetricCheckKey env.getKeyData key psaKeyUsageVerifyMessage alg
  require (signature.length != 0) .invalidSignature
  requireStatus (wolfpsaCheckContext alg context.length)
  verifyMessageWithKey env found.1 found.2 alg input.bytes context signature.bytes

/-- `psa_verify_message`. -/
def psaVerifyMessage (env : SignEnv) (key : KeyId) (alg : Algorithm) (input signature : InBuf) :
    Except Failure Unit :=
  wolfpsaVerifyMessageWorker env key alg input (.null 0) signature

/-- What a hash-based verification asks of the request before it looks at the signature. -/
structure HashBasedRequest (attributes : KeyAttributes) (alg : Algorithm)
    (input signature : InBuf) : Prop where
  admitted : wolfpsaAsymmetricCheckAttributes attributes psaKeyUsageVerifyMessage alg = .success
  input_readable : (!(input.isNull && input.length != 0)) = true
  signature_readable : (!(signature.isNull && signature.length != 0)) = true
  signature_nonempty : (signature.length != 0) = true

theorem psaVerifyMessage_hashBased_ok_iff {env : SignEnv} {key : KeyId}
    {attributes : KeyAttributes} {pub : Bytes} (found : env.getKeyData key = .ok (attributes, pub))
    (hashBased : isHashBasedKey attributes.type = true) (alg : Algorithm)
    (input signature : InBuf) :
    psaVerifyMessage env key alg input signature = .ok () ↔
      HashBasedRequest attributes alg input signature ∧
        verifyMessageHashBased env attributes.type pub alg input.bytes signature.bytes = .ok () := by
  have notMlDsa : psaKeyTypeIsMlDsa attributes.type = false := by
    simp only [isHashBasedKey, Bool.or_eq_true, beq_iff_eq] at hashBased
    rcases hashBased with ((type | type) | type) | type
    all_goals
      rw [type]
      rfl
  have context : wolfpsaCheckContext alg (InBuf.length (.null 0)) = .success := rfl
  have reach (context : InBuf) : verifyMessageWithKey env attributes pub alg input.bytes context
      signature.bytes = verifyMessageHashBased env attributes.type pub alg input.bytes
        signature.bytes := by
    unfold verifyMessageWithKey
    dsimp only
    rw [notMlDsa, hashBased]
    rfl
  simp only [psaVerifyMessage, wolfpsaVerifyMessageWorker, except_bind_ok_iff, require_ok_iff,
    requireStatus_ok_iff, wolfpsaAsymmetricCheckKey_ok_iff, found, Except.ok.injEq, exists_const]
  constructor
  · rintro ⟨readable, signed, _, ⟨rfl, admitted⟩, nonempty, -, run⟩
    rw [reach] at run
    exact ⟨⟨admitted, readable, signed, nonempty⟩, run⟩
  · rintro ⟨request, run⟩
    refine ⟨request.input_readable, request.signature_readable, _, ⟨rfl, request.admitted⟩,
      request.signature_nonempty, context, ?_⟩
    rw [reach]
    exact run

/-- `psa_verify_message_with_context`. -/
def psaVerifyMessageWithContext (env : SignEnv) (key : KeyId) (alg : Algorithm)
    (input context signature : InBuf) : Except Failure Unit :=
  wolfpsaVerifyMessageWorker env key alg input context signature

/-! ## Signing a message

The hash step is `messageHash`, the dispatch behind it that of `psa_sign_hash`. -/

/-- The ML-DSA branch of `wolfpsa_sign_message_worker`. -/
def signMessageMldsa (env : SignEnv) (attributes : KeyAttributes) (keyData : Bytes)
    (alg : Algorithm) (input : Bytes) (context : InBuf) (signature : OutBuf) :
    Except Failure Bytes :=
  let bits := attributes.bits.toNat
  if !psaAlgIsMlDsa alg && !psaAlgIsHashMlDsa alg && !psaAlgIsDeterministicHashMlDsa alg then
    refuse .invalidArgument
  else if attributes.type != psaKeyTypeMlDsaKeyPair then refuse .invalidArgument
  else if psaAlgIsMlDsa alg then
    wolfpsaMldsaSign env.mldsa bits keyData alg context input false signature
  else do
    let hash ← env.hashCompute (psaAlgGetHash alg) input
    wolfpsaMldsaSign env.mldsa bits keyData alg context hash true signature

/-- The part of `wolfpsa_sign_message_worker` behind the key and context checks. -/
def signMessageWithKey (env : SignEnv) (attributes : KeyAttributes) (keyData : Bytes)
    (alg : Algorithm) (input : Bytes) (context : InBuf) (signature : OutBuf) :
    Except Failure Bytes :=
  let type := attributes.type
  let bits := attributes.bits.toNat
  let sigSize := wolfpsaSignOutputSize type bits
  if sigSize != 0 && decide (signature.size < sigSize) then refuse .bufferTooSmall
  else if psaKeyTypeIsMlDsa type then
    signMessageMldsa env attributes keyData alg input context signature
  else if isHashBasedKey type then refuse .invalidArgument
  else if (alg == psaAlgPureEddsa || alg == psaAlgEddsaCtx) &&
      type == psaKeyTypeEccKeyPair psaEccFamilyTwistedEdwards then
    if bits == 255 then signEddsa ed25519 env.ed25519 type bits keyData alg input signature context
    else if bits == 448 then signEddsa ed448 env.ed448 type bits keyData alg input signature context
    else refuse .notSupported
  else do
    let hash ← messageHash env alg input
    signHashDispatch env attributes keyData alg hash context signature

/-- `wolfpsa_sign_message_worker`. A NULL input is refused even with no length. -/
def wolfpsaSignMessageWorker (env : SignEnv) (key : KeyId) (alg : Algorithm) (input context : InBuf)
    (signature : OutBuf) (lengthIsNull : Bool) : Except Failure Bytes := do
  require (!lengthIsNull) .invalidArgument
  require (!input.isNull) .invalidArgument
  require (!(signature.isNull && signature.size != 0)) .invalidArgument
  let found ← wolfpsaAsymmetricCheckKey env.getKeyData key psaKeyUsageSignMessage alg
  requireStatus (wolfpsaCheckContext alg context.length)
  signMessageWithKey env found.1 found.2 alg input.bytes context signature

/-- `psa_sign_message`. -/
def psaSignMessage (env : SignEnv) (key : KeyId) (alg : Algorithm) (input : InBuf)
    (signature : OutBuf) (lengthIsNull : Bool) : Except Failure Bytes :=
  wolfpsaSignMessageWorker env key alg input (.null 0) signature lengthIsNull

/-- `psa_sign_message_with_context`. -/
def psaSignMessageWithContext (env : SignEnv) (key : KeyId) (alg : Algorithm) (input context : InBuf)
    (signature : OutBuf) (lengthIsNull : Bool) : Except Failure Bytes :=
  wolfpsaSignMessageWorker env key alg input context signature lengthIsNull

/-! ## A wolfCrypt that accepts

Where a statement has to exhibit a call that succeeds, wolfCrypt answers every call with success. -/

def acceptingRsa : WcRsa where
  Key := Unit
  init := .ok ()
  initRng := .ok ()
  privateKeyDecode _ := .ok ()
  publicKeyDecode _ := .ok ()
  encryptSize _ := 0
  maxDigestSize := 64
  alloc := true
  getCtcHashOid _ := some 1
  encodeSignature hash _ := hash
  sslSign _ _ _ := .ok []
  sslVerify _ _ _ := .ok []
  pssSign _ _ _ _ _ := .ok []
  pssVerify _ _ _ _ _ := .ok []
  pssCheckPadding _ _ _ _ _ := true

def acceptingEcc : WcEcc where
  Key := Unit
  init := .ok ()
  initRng := .ok ()
  importPrivateKey _ _ := .ok ()
  importX963 _ _ := .ok ()
  makePub _ := .ok ()
  setDeterministic _ _ := .ok ()
  sigSize _ := 0
  alloc _ := true
  signHash _ _ := .ok []
  sigToRs _ _ := .ok ([], [])
  rsRawToSig _ _ := .ok []
  verifyHash _ _ _ := .ok true

def acceptingEd : WcEd where
  Key := Unit
  init := .ok ()
  importPrivateOnly _ := .ok ()
  makePublic _ := .ok ()
  importPublic _ := .ok ()
  phSignHash _ _ _ _ := .ok []
  signMsg _ _ _ _ _ := .ok []
  phVerifyHash _ _ _ _ := .ok true
  verifyMsg _ _ _ _ _ := .ok true

def acceptingMlDsa : WcMlDsa where
  Key := Unit
  init := .ok ()
  setParams _ _ := .ok ()
  makeKeyFromSeed _ _ := .ok ()
  importPubRaw _ _ := .ok ()
  sigSize _ := .ok 0
  initRng := .ok ()
  signCtx _ _ _ _ := .ok []
  signCtxWithSeed _ _ _ _ := .ok []
  signCtxHash _ _ _ _ _ := .ok []
  signCtxHashWithSeed _ _ _ _ _ := .ok []
  verifyCtx _ _ _ _ := .ok true
  verifyCtxHash _ _ _ _ _ := .ok true

def acceptingLms : WcLms := ⟨Unit, .ok (), fun _ => .ok (), fun _ _ _ _ => .ok ()⟩

def acceptingXmss : WcXmss := ⟨Unit, fun _ => .ok (), fun _ _ => .ok (), fun _ _ _ _ => .ok ()⟩

/-- A store that holds one key under every identifier, and the accepting wolfCrypt. -/
def acceptingEnv (build : EccBuild) (attributes : KeyAttributes) (keyData : Bytes) : SignEnv where
  build := build
  getKeyData _ := .ok (attributes, keyData)
  hashCompute _ _ := .ok []
  rsa := acceptingRsa
  ecc := acceptingEcc
  ed25519 := acceptingEd
  ed448 := acceptingEd
  mldsa := acceptingMlDsa
  lms := acceptingLms
  xmss := acceptingXmss

end WolfPSA.Source
