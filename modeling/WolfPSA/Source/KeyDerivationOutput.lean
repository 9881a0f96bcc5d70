import WolfPSA.Source.KeyDerivation

/-!
# Key derivation: back ends and outputs

Embedding of `src/psa_key_derivation.c:1067-2217`: the derivation back ends over wolfCrypt's
primitives, the output bookkeeping with its cache, and the public calls on one operation.
-/

namespace WolfPSA.Source

variable {Hmac Cmac : Type}

/-- A back end that delivers no bytes: it reports a status, or its loop never ends. -/
inductive KdfFail where
  | status (s : Status)
  | hangs
  deriving DecidableEq, Repr

def KdfFail.ofWc (e : WcError) : KdfFail := .status (wcErrorToPsaStatus e)

/-- The bytes of a wolfCrypt call, its error as a status. -/
def ofWcResult {α : Type} : Except WcError α → Except KdfFail α
  | .error e => .error (.ofWc e)
  | .ok a => .ok a

def isWord32 (length : Nat) : Bool := wolfpsaCheckWord32Length length == .success

/-- A 32-bit word, most significant byte first. -/
def be32 (n : Nat) : Bytes :=
  [BitVec.ofNat 8 (n >>> 24), BitVec.ofNat 8 (n >>> 16), BitVec.ofNat 8 (n >>> 8), BitVec.ofNat 8 n]

/-- A 16-bit length, most significant byte first. -/
def be16 (n : Nat) : Bytes := [BitVec.ofNat 8 (n >>> 8), BitVec.ofNat 8 n]

/-! ## Back ends -/

/-- `wolfpsa_kdf_hkdf`. -/
def wolfpsaKdfHkdf (wc : WcKdf Hmac Cmac) (ctx : KdfCtx) (outputLength : Nat) :
    Except KdfFail Bytes :=
  match wolfpsaKdfHashTypeFromAlg ctx.alg with
  | none => .error (.status .notSupported)
  | some hash =>
    let hashLen := wc.hashGetDigestSize hash
    let salt := ctx.inputs .salt
    let secret := ctx.inputs .secret
    let info := ctx.inputs .info
    if psaAlgIsHkdfExtract ctx.alg then
      if hashLen == 0 || decide (hashLen > psaMacMaxSize) then .error (.status .notSupported)
      else if !isWord32 salt.length || !isWord32 secret.length then
        .error (.status .invalidArgument)
      else if outputLength > hashLen then .error (.status .invalidArgument)
      else do
        let prk ← ofWcResult (wc.hkdfExtract hash salt secret)
        return prk.take outputLength
    else if psaAlgIsHkdfExpand ctx.alg then
      if !isWord32 secret.length || !isWord32 info.length || !isWord32 outputLength then
        .error (.status .invalidArgument)
      else ofWcResult (wc.hkdfExpand hash secret info outputLength)
    else if psaAlgIsHkdf ctx.alg then
      if hashLen == 0 || decide (hashLen > psaMacMaxSize) then .error (.status .notSupported)
      else if !isWord32 salt.length || !isWord32 secret.length || !isWord32 info.length ||
          !isWord32 outputLength then .error (.status .invalidArgument)
      else do
        let prk ← ofWcResult (wc.hkdfExtract hash salt secret)
        ofWcResult (wc.hkdfExpand hash (prk.take hashLen) info outputLength)
    else .error (.status .notSupported)

/-- `wolfpsa_prf_mac_from_alg`: only SHA-256, SHA-384 and SHA-512 have a PRF MAC. -/
def wolfpsaPrfMacFromAlg (alg : Algorithm) : Option WcHashType :=
  match wolfpsaKdfHashTypeFromAlg alg with
  | some .sha256 => some .sha256
  | some .sha384 => some .sha384
  | some .sha512 => some .sha512
  | _ => none

/-- `wolfpsa_kdf_tls12_prf`. -/
def wolfpsaKdfTls12Prf (wc : WcKdf Hmac Cmac) (ctx : KdfCtx) (outputLength : Nat) :
    Except KdfFail Bytes :=
  match wolfpsaPrfMacFromAlg ctx.alg with
  | none => .error (.status .notSupported)
  | some mac =>
    if !isWord32 outputLength || !isWord32 (ctx.inputs .secret).length ||
        !isWord32 (ctx.inputs .label).length || !isWord32 (ctx.inputs .seed).length then
      .error (.status .invalidArgument)
    else ofWcResult (wc.prfTls mac (ctx.inputs .secret) (ctx.inputs .label) (ctx.inputs .seed)
      outputLength)

/-- The bytes of `"master secret"`. -/
def masterSecretLabel : Bytes :=
  [0x6d, 0x61, 0x73, 0x74, 0x65, 0x72, 0x20, 0x73, 0x65, 0x63, 0x72, 0x65, 0x74]

/-- The other secret of the premaster: zeros as long as the secret when the step was not given. -/
def pskOtherSecret (ctx : KdfCtx) : Bytes :=
  if ctx.isSet .otherSecret then ctx.inputs .otherSecret
  else List.replicate (ctx.inputs .secret).length 0

/-- `wolfpsa_kdf_tls12_psk_to_ms`. -/
def wolfpsaKdfTls12PskToMs (env : KdfEnv Hmac Cmac) (ctx : KdfCtx) (outputLength : Nat) :
    Except KdfFail Bytes :=
  match wolfpsaPrfMacFromAlg ctx.alg with
  | none => .error (.status .notSupported)
  | some mac =>
    let other := pskOtherSecret ctx
    let secret := ctx.inputs .secret
    if decide (other.length > uint16Max) || decide (secret.length > uint16Max) then
      .error (.status .invalidArgument)
    else if !isWord32 outputLength || !isWord32 (2 + secret.length + 2 + other.length) ||
        !isWord32 (ctx.inputs .seed).length then .error (.status .invalidArgument)
    else if !env.alloc .premaster then .error (.status .insufficientMemory)
    else
      let premaster := be16 other.length ++ other ++ be16 secret.length ++ secret
      ofWcResult (env.wc.prfTls mac premaster masterSecretLabel (ctx.inputs .seed) outputLength)

/-- `WC_AES_BLOCK_SIZE`. -/
def wcAesBlockSize : Nat := 16

/-- One CMAC over the given pieces; a tag that is not one block long is refused. -/
def kdfCmac (wc : WcMac Hmac Cmac) (key : Bytes) (pieces : List Bytes) : Except KdfFail Bytes :=
  do
    let fresh ← ofWcResult (wc.initCmac key)
    let fed ← ofWcResult (pieces.foldlM wc.cmacUpdate fresh)
    let tag ← ofWcResult (wc.cmacFinal fed wcAesBlockSize)
    if tag.length ≠ wcAesBlockSize then .error (.status .notSupported) else return tag

/-- The inner loop of PBKDF2: `n` further iterations from `u` into the accumulator `t`. -/
def pbkdf2CmacIterate (wc : WcMac Hmac Cmac) (key : Bytes) :
    Nat → (u t : Bytes) → Except KdfFail Bytes
  | 0, _, t => .ok t
  | n + 1, u, t => do
    let u' ← kdfCmac wc key [u]
    pbkdf2CmacIterate wc key n u' (List.zipWith (· ^^^ ·) t u')

/-- One block of PBKDF2 for counter `i`. -/
def pbkdf2CmacBlock (wc : WcMac Hmac Cmac) (key salt : Bytes) (cost i : Nat) :
    Except KdfFail Bytes := do
  let u ← kdfCmac wc key [salt ++ be32 i]
  pbkdf2CmacIterate wc key (cost - 1) u u

/-- `n` blocks of PBKDF2 from counter `i`. -/
def pbkdf2CmacBlocks (wc : WcMac Hmac Cmac) (key salt : Bytes) (cost : Nat) :
    Nat → Nat → Except KdfFail Bytes
  | 0, _ => .ok []
  | n + 1, i => do
    let t ← pbkdf2CmacBlock wc key salt cost i
    let rest ← pbkdf2CmacBlocks wc key salt cost n (i + 1)
    return t ++ rest

/-- RFC 4615 step 1: a 16-byte password is the key, any other is normalised under the zero key. -/
def pbkdf2CmacKey (wc : WcMac Hmac Cmac) (password : Bytes) : Except KdfFail Bytes :=
  if password.length == wcAesBlockSize then .ok password
  else kdfCmac wc (List.replicate wcAesBlockSize 0) [password]

/-- The CMAC arm of `wolfpsa_kdf_pbkdf2`. The block counter is a 32-bit word compared with a
`size_t` bound: no word exceeds `2^32 - 1`, so from that many blocks on the loop runs through all
counters, over and over. -/
def kdfPbkdf2Cmac (env : KdfEnv Hmac Cmac) (ctx : KdfCtx) (outputLength : Nat) :
    Except KdfFail Bytes :=
  let password := ctx.inputs .password
  let salt := ctx.inputs .salt
  if !isWord32 password.length then .error (.status .invalidArgument)
  else if !env.alloc .cmac then .error (.status .insufficientMemory)
  else do
    let key ← pbkdf2CmacKey env.wc.mac password
    if !isWord32 (salt.length + 4) then .error (.status .invalidArgument)
    else if !env.alloc .blockInput then .error (.status .insufficientMemory)
    else
      let blocks := (outputLength + wcAesBlockSize - 1) % (sizeMax + 1) / wcAesBlockSize
      if blocks ≥ uint32Max then
        let _ ← pbkdf2CmacBlocks env.wc.mac key salt ctx.cost (uint32Max + 1) 1
        .error .hangs
      else
        let stream ← pbkdf2CmacBlocks env.wc.mac key salt ctx.cost blocks 1
        return stream.take outputLength

/-- `wolfpsa_kdf_pbkdf2`. -/
def wolfpsaKdfPbkdf2 (env : KdfEnv Hmac Cmac) (ctx : KdfCtx) (outputLength : Nat) :
    Except KdfFail Bytes :=
  if psaAlgIsPbkdf2Hmac ctx.alg then
    match wolfpsaKdfHashTypeFromAlg ctx.alg with
    | none => .error (.status .notSupported)
    | some hash =>
      if decide ((ctx.inputs .password).length > intMax) ||
          decide ((ctx.inputs .salt).length > intMax) || decide (ctx.cost > intMax) ||
          decide (outputLength > intMax) then .error (.status .invalidArgument)
      else ofWcResult (env.wc.pbkdf2 hash (ctx.inputs .password) (ctx.inputs .salt) ctx.cost
        outputLength)
  else if ctx.alg == psaAlgPbkdf2AesCmacPrf128 then kdfPbkdf2Cmac env ctx outputLength
  else .error (.status .notSupported)

/-- `[L]_4`: the low 32 bits of the total output length in bits. -/
def sp800_108LBuf (ctx : KdfCtx) : Bytes := be32 (ctx.sp800_108LBytes * 8 % 2 ^ 32)

/-- `Label || 0x00 || Context || [L]_4` in the pieces the MAC is fed; empty ones are left out. -/
def sp800_108Pieces (ctx : KdfCtx) : List Bytes :=
  (if (ctx.inputs .label).length > 0 then [ctx.inputs .label] else []) ++ [[0x00]] ++
    (if (ctx.inputs .context).length > 0 then [ctx.inputs .context] else []) ++
    [sp800_108LBuf ctx]

/-- One HMAC over the given pieces. -/
def kdfHmac (wc : WcMac Hmac Cmac) (hash : WcHashType) (key : Bytes) (pieces : List Bytes) :
    Except KdfFail Bytes := do
  let fresh ← ofWcResult wc.hmacInit
  let keyed ← ofWcResult (wc.hmacSetKey fresh hash key)
  let fed ← ofWcResult (pieces.foldlM wc.hmacUpdate keyed)
  ofWcResult (wc.hmacFinal fed)

/-- The counter loop of both SP 800-108 variants: blocks of `blockLen` bytes for counters
`counter`, `counter + 1`, .. (mod `2^32`) until `remaining` bytes are there. `fuel` bounds the
iterations; each delivers at least one byte. -/
def sp800_108Loop (block : Nat → Except KdfFail Bytes) (blockLen : Nat) :
    (fuel counter remaining : Nat) → Except KdfFail Bytes
  | 0, _, _ => .ok []
  | fuel + 1, counter, remaining =>
    if remaining == 0 then .ok []
    else do
      let k ← block counter
      let rest ← sp800_108Loop block blockLen fuel ((counter + 1) % 2 ^ 32) (remaining - blockLen)
      return k.take (min blockLen remaining) ++ rest

/-- `wolfpsa_kdf_sp800_108_hmac`. -/
def wolfpsaKdfSp800_108Hmac (wc : WcKdf Hmac Cmac) (ctx : KdfCtx) (outputLength : Nat) :
    Except KdfFail Bytes :=
  match wolfpsaKdfHashTypeFromAlg ctx.alg with
  | none => .error (.status .notSupported)
  | some hash =>
    let hmacLen := wc.hashGetDigestSize hash
    if hmacLen == 0 || decide (hmacLen > psaMacMaxSize) then .error (.status .notSupported)
    else if (ctx.inputs .secret).length > intMax then .error (.status .invalidArgument)
    else if !isWord32 (ctx.inputs .label).length || !isWord32 (ctx.inputs .context).length then
      .error (.status .invalidArgument)
    else
      sp800_108Loop (fun i => kdfHmac wc.mac hash (ctx.inputs .secret)
        (be32 i :: sp800_108Pieces ctx)) hmacLen outputLength 1 outputLength

/-- `wolfpsa_kdf_sp800_108_cmac`. -/
def wolfpsaKdfSp800_108Cmac (env : KdfEnv Hmac Cmac) (ctx : KdfCtx) (outputLength : Nat) :
    Except KdfFail Bytes :=
  let secret := ctx.inputs .secret
  if secret.length != 16 && secret.length != 24 && secret.length != 32 then
    .error (.status .invalidArgument)
  else if !isWord32 secret.length then .error (.status .invalidArgument)
  else if !isWord32 (ctx.inputs .label).length || !isWord32 (ctx.inputs .context).length then
    .error (.status .invalidArgument)
  else if !env.alloc .cmac then .error (.status .insufficientMemory)
  else do
    let k0 ← kdfCmac env.wc.mac secret (sp800_108Pieces ctx)
    sp800_108Loop (fun i => kdfCmac env.wc.mac secret (be32 i :: sp800_108Pieces ctx ++ [k0]))
      wcAesBlockSize outputLength 1 outputLength

/-- `wolfpsa_kdf_compute_output`. -/
def wolfpsaKdfComputeOutput (env : KdfEnv Hmac Cmac) (ctx : KdfCtx) (outputLength : Nat) :
    Except KdfFail Bytes :=
  if ctx.isRawKdf then .ok ((ctx.inputs .secret).take outputLength)
  else if psaAlgIsAnyHkdf ctx.alg then wolfpsaKdfHkdf env.wc ctx outputLength
  else if psaAlgIsTls12Prf ctx.alg then wolfpsaKdfTls12Prf env.wc ctx outputLength
  else if psaAlgIsTls12PskToMs ctx.alg then wolfpsaKdfTls12PskToMs env ctx outputLength
  else if psaAlgIsPbkdf2 ctx.alg then wolfpsaKdfPbkdf2 env ctx outputLength
  else if psaAlgIsSp800_108CounterHmac ctx.alg then
    wolfpsaKdfSp800_108Hmac env.wc ctx outputLength
  else if ctx.alg == psaAlgSp800_108CounterCmac then wolfpsaKdfSp800_108Cmac env ctx outputLength
  else .error (.status .notSupported)

/-! ## Outputs -/

/-- The mandatory-input checks of `wolfpsa_kdf_output_bytes`. -/
def kdfInputsComplete (ctx : KdfCtx) (outputLength : Nat) : Status :=
  if ctx.isRawKdf then
    if !ctx.isSet .secret || decide (ctx.outputOffset > (ctx.inputs .secret).length) ||
        decide (outputLength > (ctx.inputs .secret).length - ctx.outputOffset) then
      .insufficientData
    else .success
  else if psaAlgIsAnyHkdf ctx.alg then
    if psaAlgIsHkdfExtract ctx.alg then
      if !ctx.isSet .salt || !ctx.isSet .secret then .badState else .success
    else if !ctx.isSet .secret || !ctx.isSet .info then .badState else .success
  else if psaAlgIsTls12Prf ctx.alg then
    if !ctx.isSet .secret || !ctx.isSet .label || !ctx.isSet .seed then .badState else .success
  else if psaAlgIsTls12PskToMs ctx.alg then
    if !ctx.isSet .secret || !ctx.isSet .seed then .badState else .success
  else if psaAlgIsPbkdf2 ctx.alg then
    if !ctx.isSet .password || !ctx.isSet .salt || !ctx.isSet .cost then .badState else .success
  else if psaAlgIsSp800_108CounterHmac ctx.alg || ctx.alg == psaAlgSp800_108CounterCmac then
    if !ctx.isSet .secret then .badState else .success
  else .success

/-- The snapshot of `L` on the first output call of an SP 800-108 derivation. -/
def kdfSnapshotL (ctx : KdfCtx) : KdfCtx :=
  if !ctx.isRawKdf && (psaAlgIsSp800_108CounterHmac ctx.alg ||
      ctx.alg == psaAlgSp800_108CounterCmac) && !ctx.outputStarted then
    { ctx with sp800_108LBytes := ctx.capacity }
  else ctx

/-- `wolfpsa_kdf_require_output`. -/
def wolfpsaKdfRequireOutput (ctx : KdfCtx) (outputLength : Nat) : Status × KdfCtx :=
  if ctx.capacity == psaKeyDerivationUnlimitedCapacity then (.success, ctx)
  else if ctx.capacity < outputLength then (.insufficientData, { ctx with capacity := 0 })
  else (.success, { ctx with capacity := ctx.capacity - outputLength })

/-- `WOLFPSA_KDF_MAX_CACHE_BYTES`. -/
def wolfpsaKdfMaxCacheBytes : Nat := 64 * 1024

/-- The cache after the first output call: filled when the whole remaining stream is small. -/
def kdfFillCache (env : KdfEnv Hmac Cmac) (ctx : KdfCtx) (outputLength : Nat) :
    Except KdfFail KdfCtx :=
  if ctx.outputCache.isNone && !ctx.isRawKdf &&
      ctx.capacity != psaKeyDerivationUnlimitedCapacity && ctx.outputOffset == 0 &&
      decide (outputLength + ctx.capacity ≤ wolfpsaKdfMaxCacheBytes) then
    if !env.alloc .outputCache then .error (.status .insufficientMemory)
    else do
      let cache ← wolfpsaKdfComputeOutput env ctx (outputLength + ctx.capacity)
      return { ctx with outputCache := some cache }
  else .ok ctx

/-- The bytes an output call delivers from a context whose cache is settled. -/
def kdfDeliver (env : KdfEnv Hmac Cmac) (ctx : KdfCtx) (outputLength : Nat) :
    Except KdfFail Bytes :=
  match ctx.outputCache with
  | some cache =>
    if ctx.outputOffset + outputLength > cache.length then .error (.status .insufficientData)
    else .ok ((cache.drop ctx.outputOffset).take outputLength)
  | none =>
    if ctx.outputOffset == 0 then wolfpsaKdfComputeOutput env ctx outputLength
    else if !env.alloc .fullOutput then .error (.status .insufficientMemory)
    else do
      let full ← wolfpsaKdfComputeOutput env ctx (ctx.outputOffset + outputLength)
      return (full.drop ctx.outputOffset).take outputLength

/-- `wolfpsa_kdf_output_bytes`. A refusal can already have moved the capacity, the snapshot of `L`
and the output mark. -/
def wolfpsaKdfOutputBytes (env : KdfEnv Hmac Cmac) (ctx : KdfCtx) (output : OutBuf) :
    Except KdfFail Bytes × KdfCtx :=
  if output.isNull then (.error (.status .badState), ctx)
  else
    match kdfInputsComplete ctx output.size with
    | .success =>
      let snapped := kdfSnapshotL ctx
      match wolfpsaKdfRequireOutput snapped output.size with
      | (.success, reserved) =>
        let started := { reserved with outputStarted := true }
        if started.outputOffset + output.size > sizeMax then
          (.error (.status .invalidArgument), started)
        else
          match kdfFillCache env started output.size with
          | .error fail => (.error fail, started)
          | .ok cached =>
            match kdfDeliver env cached output.size with
            | .error fail => (.error fail, cached)
            | .ok bytes =>
              (.ok bytes, { cached with outputOffset := cached.outputOffset + output.size })
      | (status, reserved) => (.error (.status status), reserved)
    | status => (.error (.status status), ctx)

/-! ## Public calls on one operation -/

/-- What a derivation call hands back. `status` is `none` when the call never returns. -/
structure KdfResult where
  status : Option Status
  bytes : Bytes
  key : KeyId
  deriving DecidableEq, Repr

def KdfResult.ofStatus (status : Status) : KdfResult := ⟨some status, [], psaKeyIdNull⟩

abbrev KdfOperation := Option KdfCtx

/-- `wolfpsa_kdf_check_state` and `wolfpsa_kdf_done` around an inner call. -/
def kdfGuarded (operation : KdfOperation) (body : KdfCtx → Status × KdfCtx) :
    KdfResult × KdfOperation :=
  match operation with
  | none => (.ofStatus .badState, none)
  | some ctx =>
    if ctx.errorState then (.ofStatus .badState, some ctx)
    else
      let r := body ctx
      (.ofStatus r.1, some (wolfpsaKdfDone r.2 r.1))

/-- `psa_key_derivation_setup`. -/
def psaKeyDerivationSetup (env : KdfEnv Hmac Cmac) (operation : KdfOperation) (alg : Algorithm) :
    KdfResult × KdfOperation :=
  match operation with
  | some ctx => (.ofStatus .badState, some ctx)
  | none =>
    match kdfSetupCtx env alg with
    | .error status => (.ofStatus status, none)
    | .ok ctx => (.ofStatus .success, some ctx)

/-- `psa_key_derivation_abort`. -/
def psaKeyDerivationAbort (_operation : KdfOperation) : KdfResult × KdfOperation :=
  (.ofStatus .success, none)

/-- `psa_key_derivation_set_capacity`: a capacity refused as an argument leaves the operation
valid. -/
def psaKeyDerivationSetCapacity (env : KdfEnv Hmac Cmac) (operation : KdfOperation)
    (capacity : Nat) : KdfResult × KdfOperation :=
  match operation with
  | none => (.ofStatus .badState, none)
  | some ctx =>
    if ctx.errorState then (.ofStatus .badState, some ctx)
    else
      let r := wolfpsaKdfSetCapacity env.wc ctx capacity
      if r.1 = .invalidArgument then (.ofStatus r.1, some r.2)
      else (.ofStatus r.1, some (wolfpsaKdfDone r.2 r.1))

def psaKeyDerivationInputBytes (env : KdfEnv Hmac Cmac) (operation : KdfOperation)
    (step : KdfStep) (data : InBuf) : KdfResult × KdfOperation :=
  kdfGuarded operation fun ctx => wolfpsaKdfInputBytes env ctx step data

def psaKeyDerivationInputInteger (operation : KdfOperation) (step : KdfStep) (value : Nat) :
    KdfResult × KdfOperation :=
  kdfGuarded operation fun ctx => wolfpsaKdfInputInteger ctx step value

def psaKeyDerivationInputKey (env : KdfEnv Hmac Cmac) (operation : KdfOperation)
    (step : KdfStep) (key : KeyId) : KdfResult × KdfOperation :=
  kdfGuarded operation fun ctx => wolfpsaKdfInputKey env ctx step key

def psaKeyDerivationKeyAgreement (env : KdfEnv Hmac Cmac) (operation : KdfOperation)
    (step : KdfStep) (privateKey : KeyId) (peerKey : InBuf) : KdfResult × KdfOperation :=
  kdfGuarded operation fun ctx => wolfpsaKdfKeyAgreement env ctx step privateKey peerKey

/-- `psa_key_derivation_output_bytes`. -/
def psaKeyDerivationOutputBytes (env : KdfEnv Hmac Cmac) (operation : KdfOperation)
    (output : OutBuf) : KdfResult × KdfOperation :=
  match operation with
  | none => (.ofStatus .badState, none)
  | some ctx =>
    if ctx.errorState then (.ofStatus .badState, some ctx)
    else
      match wolfpsaKdfOutputBytes env ctx output with
      | (.ok bytes, ctx') => (⟨some .success, bytes, psaKeyIdNull⟩, some ctx')
      | (.error (.status status), ctx') => (.ofStatus status, some (wolfpsaKdfDone ctx' status))
      | (.error .hangs, ctx') => (⟨none, [], psaKeyIdNull⟩, some ctx')

/-- `wolfpsa_kdf_done` on the operation an inner public call left behind. -/
def kdfDoneAfter (inner : KdfResult × KdfOperation) : KdfResult × KdfOperation :=
  match inner.1.status with
  | none => inner
  | some status => (inner.1, inner.2.map fun ctx => wolfpsaKdfDone ctx status)

/-- `psa_key_derivation_output_key`. -/
def psaKeyDerivationOutputKey (env : KdfEnv Hmac Cmac) (operation : KdfOperation)
    (attributes : Option KeyAttributes) (keyNull : Bool) : KdfResult × KdfOperation :=
  match operation with
  | none => (.ofStatus .badState, none)
  | some ctx =>
    if ctx.errorState then (.ofStatus .badState, some ctx)
    else
      let refuse (status : Status) : KdfResult × KdfOperation :=
        (.ofStatus status, some (wolfpsaKdfDone ctx status))
      match attributes with
      | none => refuse .invalidArgument
      | some attrs =>
        let keyLen := psaBitsToBytes attrs.bits.toNat
        if keyNull then refuse .invalidArgument
        else if keyLen == 0 then refuse .invalidArgument
        else if !ctx.canOutputKey then refuse .notPermitted
        else if !psaKeyTypeIsUnstructured attrs.type then refuse .invalidArgument
        else if !env.alloc .keyBuffer then refuse .insufficientMemory
        else
          let derived := psaKeyDerivationOutputBytes env (some ctx) ⟨false, keyLen⟩
          if derived.1.status = some .success then
            -- the key buffer has `key_len` bytes
            let imported := env.importKey attrs (derived.1.bytes.take keyLen)
            kdfDoneAfter (⟨some imported.1, [], imported.2⟩, derived.2)
          else kdfDoneAfter (⟨derived.1.status, [], psaKeyIdNull⟩, derived.2)

/-- `wolfpsa_kdf_verify_bytes`. -/
def wolfpsaKdfVerifyBytes (env : KdfEnv Hmac Cmac) (operation : KdfOperation)
    (expected : InBuf) : KdfResult × KdfOperation :=
  match expected with
  | .null _ => (.ofStatus .invalidArgument, operation)
  | .data bytes =>
    if bytes.length > intMax then (.ofStatus .invalidArgument, operation)
    else if bytes.length == 0 then
      let derived := psaKeyDerivationOutputBytes env operation ⟨false, 0⟩
      (⟨derived.1.status, [], psaKeyIdNull⟩, derived.2)
    else if !env.alloc .verifyBuffer then (.ofStatus .insufficientMemory, operation)
    else
      let derived := psaKeyDerivationOutputBytes env operation ⟨false, bytes.length⟩
      if derived.1.status = some .success then
        if derived.1.bytes = bytes then (.ofStatus .success, derived.2)
        else (.ofStatus .invalidSignature, derived.2)
      else (⟨derived.1.status, [], psaKeyIdNull⟩, derived.2)

/-- `psa_key_derivation_verify_bytes`. -/
def psaKeyDerivationVerifyBytes (env : KdfEnv Hmac Cmac) (operation : KdfOperation)
    (expected : InBuf) : KdfResult × KdfOperation :=
  match operation with
  | none => (.ofStatus .badState, none)
  | some ctx =>
    if ctx.errorState then (.ofStatus .badState, some ctx)
    else kdfDoneAfter (wolfpsaKdfVerifyBytes env (some ctx) expected)

/-- The checks of `wolfpsa_kdf_verify_key` on the attributes of the expected key. -/
def kdfVerifyKeyCheck (ctx : KdfCtx) (attributes : KeyAttributes) : Status :=
  if attributes.usage &&& psaKeyUsageVerifyDerivation == 0 then .notPermitted
  else if psaAlgIsPbkdf2 ctx.alg && attributes.type != psaKeyTypePasswordHash then
    .invalidArgument
  else if !psaAlgIsPbkdf2 ctx.alg && attributes.type != psaKeyTypeRawData then .invalidArgument
  else .success

/-- `psa_key_derivation_verify_key`. -/
def psaKeyDerivationVerifyKey (env : KdfEnv Hmac Cmac) (operation : KdfOperation)
    (expected : KeyId) : KdfResult × KdfOperation :=
  match operation with
  | none => (.ofStatus .badState, none)
  | some ctx =>
    if ctx.errorState then (.ofStatus .badState, some ctx)
    else
      let refuse (status : Status) : KdfResult × KdfOperation :=
        (.ofStatus status, some (wolfpsaKdfDone ctx status))
      match env.getKeyAttributes expected with
      | .error status => refuse status.val
      | .ok attributes =>
        match kdfVerifyKeyCheck ctx attributes with
        | .success =>
          match env.getKeyData expected with
          | .error status => refuse status.val
          | .ok (_, data) =>
            kdfDoneAfter (psaKeyDerivationVerifyBytes env (some ctx) (.data data))
        | status => refuse status

/-! ## What an output call leaves alone -/

/-- Two contexts with the same algorithm, secret inputs and permission to output a key. -/
structure SameSecrets (ctx ctx' : KdfCtx) : Prop where
  alg : ctx'.alg = ctx.alg
  isRawKdf : ctx'.isRawKdf = ctx.isRawKdf
  secretSet : ctx'.isSet .secret = ctx.isSet .secret
  passwordSet : ctx'.isSet .password = ctx.isSet .password
  canOutputKey : ctx'.canOutputKey = ctx.canOutputKey

@[refl] theorem SameSecrets.refl (ctx : KdfCtx) : SameSecrets ctx ctx := ⟨rfl, rfl, rfl, rfl, rfl⟩

theorem SameSecrets.trans {a b c : KdfCtx} (h₁ : SameSecrets a b) (h₂ : SameSecrets b c) :
    SameSecrets a c :=
  ⟨h₂.alg.trans h₁.alg, h₂.isRawKdf.trans h₁.isRawKdf, h₂.secretSet.trans h₁.secretSet,
    h₂.passwordSet.trans h₁.passwordSet, h₂.canOutputKey.trans h₁.canOutputKey⟩

theorem wolfpsaKdfDone_same (ctx : KdfCtx) (status : Status) :
    SameSecrets ctx (wolfpsaKdfDone ctx status) := by
  unfold wolfpsaKdfDone
  split
  · exact ⟨rfl, rfl, rfl, rfl, rfl⟩
  · rfl

theorem wolfpsaKdfSetCapacity_same (wc : WcKdf Hmac Cmac) (ctx : KdfCtx) (capacity : Nat) :
    SameSecrets ctx (wolfpsaKdfSetCapacity wc ctx capacity).2 := by
  unfold wolfpsaKdfSetCapacity
  dsimp only
  split_ifs <;> exact ⟨rfl, rfl, rfl, rfl, rfl⟩

theorem kdfSnapshotL_same (ctx : KdfCtx) : SameSecrets ctx (kdfSnapshotL ctx) := by
  unfold kdfSnapshotL
  split <;> exact ⟨rfl, rfl, rfl, rfl, rfl⟩

theorem wolfpsaKdfRequireOutput_same (ctx : KdfCtx) (outputLength : Nat) :
    SameSecrets ctx (wolfpsaKdfRequireOutput ctx outputLength).2 := by
  unfold wolfpsaKdfRequireOutput
  split_ifs <;> exact ⟨rfl, rfl, rfl, rfl, rfl⟩

theorem kdfFillCache_same {env : KdfEnv Hmac Cmac} {ctx cached : KdfCtx} {outputLength : Nat}
    (filled : kdfFillCache env ctx outputLength = .ok cached) : SameSecrets ctx cached := by
  unfold kdfFillCache at filled
  split at filled
  · split at filled
    · cases filled
    · cases computed : wolfpsaKdfComputeOutput env ctx (outputLength + ctx.capacity) with
      | error fail => simp [computed, bind, Except.bind] at filled
      | ok cache =>
        simp only [computed, bind, Except.bind, pure, Except.pure, Except.ok.injEq] at filled
        subst filled
        exact ⟨rfl, rfl, rfl, rfl, rfl⟩
  · cases filled
    rfl

theorem wolfpsaKdfOutputBytes_same (env : KdfEnv Hmac Cmac) (ctx : KdfCtx) (output : OutBuf) :
    SameSecrets ctx (wolfpsaKdfOutputBytes env ctx output).2 := by
  unfold wolfpsaKdfOutputBytes
  split
  · rfl
  split
  · have reserved := (kdfSnapshotL_same ctx).trans
      (wolfpsaKdfRequireOutput_same (kdfSnapshotL ctx) output.size)
    dsimp only
    split
    · rename_i started required
      rw [required] at reserved
      have marked : SameSecrets ctx { started with outputStarted := true } :=
        reserved.trans ⟨rfl, rfl, rfl, rfl, rfl⟩
      split
      · exact marked
      split
      · exact marked
      · rename_i cached filled
        have kept := marked.trans (kdfFillCache_same filled)
        split
        · exact kept
        · exact kept.trans ⟨rfl, rfl, rfl, rfl, rfl⟩
    · rename_i status refused _ required
      rw [required] at reserved
      exact reserved
  · rfl

/-- The operation after a call is the one before it up to `SameSecrets`. -/
def KeepsSecrets (operation operation' : KdfOperation) : Prop :=
  ∀ ctx', operation' = some ctx' → ∃ ctx, operation = some ctx ∧ SameSecrets ctx ctx'

theorem psaKeyDerivationOutputBytes_keeps (env : KdfEnv Hmac Cmac) (operation : KdfOperation)
    (output : OutBuf) :
    KeepsSecrets operation (psaKeyDerivationOutputBytes env operation output).2 := by
  intro ctx' after
  cases operation with
  | none => cases after
  | some ctx =>
    refine ⟨ctx, rfl, ?_⟩
    have kept := wolfpsaKdfOutputBytes_same env ctx output
    simp only [psaKeyDerivationOutputBytes] at after
    split at after
    · cases after
      rfl
    · split at after
      all_goals
        rename_i outcome
        rw [outcome] at kept
        cases after
      · exact kept
      · exact kept.trans (wolfpsaKdfDone_same _ _)
      · exact kept

theorem kdfDoneAfter_keeps {operation : KdfOperation} {inner : KdfResult × KdfOperation}
    (kept : KeepsSecrets operation inner.2) : KeepsSecrets operation (kdfDoneAfter inner).2 := by
  intro ctx' after
  unfold kdfDoneAfter at after
  split at after
  · exact kept ctx' after
  · obtain ⟨mid, present, rfl⟩ := Option.map_eq_some_iff.mp after
    obtain ⟨ctx, before, same⟩ := kept mid present
    exact ⟨ctx, before, same.trans (wolfpsaKdfDone_same _ _)⟩

theorem keepsSecrets_done (ctx : KdfCtx) (status : Status) :
    KeepsSecrets (some ctx) (some (wolfpsaKdfDone ctx status)) := by
  intro ctx' after
  cases after
  exact ⟨ctx, rfl, wolfpsaKdfDone_same ctx status⟩

theorem keepsSecrets_refl (operation : KdfOperation) : KeepsSecrets operation operation :=
  fun ctx' after => ⟨ctx', after, .refl ctx'⟩

theorem psaKeyDerivationOutputKey_keeps (env : KdfEnv Hmac Cmac) (operation : KdfOperation)
    (attributes : Option KeyAttributes) (keyNull : Bool) :
    KeepsSecrets operation (psaKeyDerivationOutputKey env operation attributes keyNull).2 := by
  cases operation with
  | none => exact keepsSecrets_refl none
  | some ctx =>
    simp only [psaKeyDerivationOutputKey]
    split
    · exact keepsSecrets_refl _
    cases attributes with
    | none => exact keepsSecrets_done ctx _
    | some attrs =>
      dsimp only
      split_ifs
      iterate 5 exact keepsSecrets_done ctx _
      · exact kdfDoneAfter_keeps (psaKeyDerivationOutputBytes_keeps env (some ctx) _)
      · exact kdfDoneAfter_keeps (psaKeyDerivationOutputBytes_keeps env (some ctx) _)

theorem wolfpsaKdfVerifyBytes_keeps (env : KdfEnv Hmac Cmac) (operation : KdfOperation)
    (expected : InBuf) :
    KeepsSecrets operation (wolfpsaKdfVerifyBytes env operation expected).2 := by
  cases expected with
  | null n => exact keepsSecrets_refl operation
  | data bytes =>
    simp only [wolfpsaKdfVerifyBytes]
    split_ifs
    · exact keepsSecrets_refl operation
    · exact psaKeyDerivationOutputBytes_keeps env operation _
    · exact keepsSecrets_refl operation
    all_goals exact psaKeyDerivationOutputBytes_keeps env operation _

theorem psaKeyDerivationVerifyBytes_keeps (env : KdfEnv Hmac Cmac) (operation : KdfOperation)
    (expected : InBuf) :
    KeepsSecrets operation (psaKeyDerivationVerifyBytes env operation expected).2 := by
  cases operation with
  | none => exact keepsSecrets_refl none
  | some ctx =>
    simp only [psaKeyDerivationVerifyBytes]
    split
    · exact keepsSecrets_refl _
    · exact kdfDoneAfter_keeps (wolfpsaKdfVerifyBytes_keeps env (some ctx) expected)

theorem psaKeyDerivationVerifyKey_keeps (env : KdfEnv Hmac Cmac) (operation : KdfOperation)
    (expected : KeyId) :
    KeepsSecrets operation (psaKeyDerivationVerifyKey env operation expected).2 := by
  cases operation with
  | none => exact keepsSecrets_refl none
  | some ctx =>
    simp only [psaKeyDerivationVerifyKey]
    split
    · exact keepsSecrets_refl _
    split
    · exact keepsSecrets_done ctx _
    split
    · split
      · exact keepsSecrets_done ctx _
      · exact kdfDoneAfter_keeps (psaKeyDerivationVerifyBytes_keeps env (some ctx) _)
    · exact keepsSecrets_done ctx _

theorem psaKeyDerivationSetCapacity_keeps (env : KdfEnv Hmac Cmac) (operation : KdfOperation)
    (capacity : Nat) :
    KeepsSecrets operation (psaKeyDerivationSetCapacity env operation capacity).2 := by
  cases operation with
  | none => exact keepsSecrets_refl none
  | some ctx =>
    have kept := wolfpsaKdfSetCapacity_same env.wc ctx capacity
    simp only [psaKeyDerivationSetCapacity]
    split_ifs
    · exact keepsSecrets_refl _
    all_goals
      intro ctx' after
      cases after
      first
        | exact ⟨ctx, rfl, kept⟩
        | exact ⟨ctx, rfl, kept.trans (wolfpsaKdfDone_same _ _)⟩

theorem psaKeyDerivationInputInteger_keeps (operation : KdfOperation) (step : KdfStep)
    (value : Nat) :
    KeepsSecrets operation (psaKeyDerivationInputInteger operation step value).2 := by
  cases operation with
  | none => exact keepsSecrets_refl none
  | some ctx =>
    have kept : SameSecrets ctx (wolfpsaKdfInputInteger ctx step value).2 := by
      unfold wolfpsaKdfInputInteger
      split_ifs
      iterate 6 rfl
      exact ⟨rfl, rfl, by simp [KdfCtx.isSet], by simp [KdfCtx.isSet], rfl⟩
    intro ctx' after
    simp only [psaKeyDerivationInputInteger, kdfGuarded] at after
    split at after
    · cases after
      exact ⟨_, rfl, .refl _⟩
    · cases after
      exact ⟨ctx, rfl, kept.trans (wolfpsaKdfDone_same _ _)⟩

/-! ## Sequences of calls -/

inductive KdfCall where
  | setup (alg : Algorithm)
  | setCapacity (capacity : Nat)
  | inputBytes (step : KdfStep) (data : InBuf)
  | inputKey (step : KdfStep) (key : KeyId)
  | inputInteger (step : KdfStep) (value : Nat)
  | keyAgreement (step : KdfStep) (privateKey : KeyId) (peerKey : InBuf)
  | outputBytes (output : OutBuf)
  | outputKey (attributes : Option KeyAttributes) (keyNull : Bool)
  | verifyBytes (expected : InBuf)
  | verifyKey (expected : KeyId)
  | abort
  deriving DecidableEq

/-- A call together with the environment it meets. -/
structure KdfEvent (Hmac Cmac : Type) where
  env : KdfEnv Hmac Cmac
  call : KdfCall

/-- One call on the operation. -/
def kdfStep (operation : KdfOperation) (e : KdfEvent Hmac Cmac) : KdfResult × KdfOperation :=
  match e.call with
  | .setup alg => psaKeyDerivationSetup e.env operation alg
  | .setCapacity capacity => psaKeyDerivationSetCapacity e.env operation capacity
  | .inputBytes step data => psaKeyDerivationInputBytes e.env operation step data
  | .inputKey step key => psaKeyDerivationInputKey e.env operation step key
  | .inputInteger step value => psaKeyDerivationInputInteger operation step value
  | .keyAgreement step privateKey peerKey =>
    psaKeyDerivationKeyAgreement e.env operation step privateKey peerKey
  | .outputBytes output => psaKeyDerivationOutputBytes e.env operation output
  | .outputKey attributes keyNull => psaKeyDerivationOutputKey e.env operation attributes keyNull
  | .verifyBytes expected => psaKeyDerivationVerifyBytes e.env operation expected
  | .verifyKey expected => psaKeyDerivationVerifyKey e.env operation expected
  | .abort => psaKeyDerivationAbort operation

end WolfPSA.Source
