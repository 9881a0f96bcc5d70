import WolfPSA.Lib.Streams
import WolfPSA.Source.AeadCcm
import WolfPSA.Source.PolicyReadings

/-!
# Authenticated encryption operations

Embedding of the multipart interface of `src/psa_aead.c` and of `src/psa_chacha20_poly1305.c`, in a build
with streaming GCM and CCM and with ChaCha20-Poly1305. An operation object holds an optional context; the
environment of a call answers the key look-up, the allocations, the random generator and every wolfCrypt
call. `nonce` with `nonce_length` and `aad` with `aad_length` are one list each; `input_length` counts
streamed input too and stands beside the buffered `input`.
-/

namespace WolfPSA.Source
open Lib

def psaAeadNonceMaxSize : Nat := 24

/-- `PSA_AEAD_NONCE_LENGTH`. -/
def psaAeadNonceLength (keyType : KeyType) (alg : Algorithm) : Nat :=
  if psaBlockCipherBlockLength keyType = 16 then
    if psaAlgAeadEqual alg psaAlgCcm then 13 else if psaAlgAeadEqual alg psaAlgGcm then 12 else 0
  else if keyType == psaKeyTypeChacha20 && psaAlgAeadEqual alg psaAlgChacha20Poly1305 then 12
  else if keyType == psaKeyTypeXchacha20 && psaAlgAeadEqual alg psaAlgXchacha20Poly1305 then 24
  else if keyType == psaKeyTypeAscon && psaAlgAeadEqual alg psaAlgAsconAead128 then 16
  else 0

/-! ## wolfCrypt -/

/-- The wolfCrypt calls of the AEAD driver over its opaque objects. The flag of a call is the direction,
true for encryption. -/
structure WcAead (Aes ChaCha : Type) where
  aesZero : Aes
  chachaZero : ChaCha
  aesInit : Except WcError Aes
  gcmInit : Bool → Aes → (key nonce : Bytes) → Except WcError Aes
  /-- The additional data is given with the first update only. -/
  gcmUpdate : Bool → Aes → (input : Bytes) → (aad : Option Bytes) → Except WcError (Bytes × Aes)
  gcmEncryptFinal : Aes → (tagLength : Nat) → Except WcError Bytes
  gcmDecryptFinal : Aes → (tag : Bytes) → Except WcError Unit
  aesSetKeyDirect : Aes → (key : Bytes) → Except WcError Aes
  aesEncryptDirect : Aes → Bytes → Except WcError Bytes
  chachaInit : (key nonce : Bytes) → Bool → Except WcError ChaCha
  chachaUpdateAad : ChaCha → Bytes → Except WcError ChaCha
  chachaUpdateData : ChaCha → Bytes → Except WcError (Bytes × ChaCha)
  chachaFinal : ChaCha → Except WcError Bytes
  chachaCheckTag : (computed tag : Bytes) → Except WcError Unit
  /-- `wolfpsa_aes_new`. -/
  aesNew : Except WcError Aes
  gcmSetKey : Aes → (key : Bytes) → Except WcError Aes
  gcmEncrypt : Aes → (input nonce aad : Bytes) → (tagLength : Nat) → Except WcError (Bytes × Bytes)
  gcmDecrypt : Aes → (input nonce aad tag : Bytes) → Except WcError Bytes
  ccmSetKey : Aes → (key : Bytes) → Except WcError Aes
  ccmEncrypt : Aes → (input nonce aad : Bytes) → (tagLength : Nat) → Except WcError (Bytes × Bytes)
  ccmDecrypt : Aes → (input nonce aad tag : Bytes) → Except WcError Bytes
  chachaEncrypt : (key nonce aad input : Bytes) → Except WcError (Bytes × Bytes)
  chachaDecrypt : (key nonce aad input tag : Bytes) → Except WcError Bytes

/-- `wolfpsa_aead_ctx_t`. -/
structure AeadCtx (Aes ChaCha : Type) where
  alg : Algorithm
  keyType : KeyType
  keyBits : BitVec 16
  encrypts : Bool
  key : Bytes
  nonce : Bytes
  aad : Bytes
  input : Bytes
  inputLength : Nat
  adExpected : BitVec 64
  plaintextExpected : BitVec 64
  tagLength : Nat
  lengthsSet : Bool
  adStarted : Bool
  bodyStarted : Bool
  streaming : Bool
  aes : Aes
  chacha : ChaCha
  ccm : CcmState
  deriving DecidableEq

/-- What one call meets outside `psa_aead.c`. -/
structure AeadEnv (Aes ChaCha : Type) where
  getKeyData : KeyLookup
  ctxAlloc : Bool
  keyAlloc : Bool
  /-- Whether `XMALLOC` of a data buffer of the given size succeeds. -/
  bufferAlloc : Nat → Bool
  /-- The bytes of `psa_generate_random`. -/
  random : Except Failure (Nat → Byte)
  sizes : AeadTagSizes
  wc : WcAead Aes ChaCha

variable {Aes ChaCha : Type}

/-! ## Setup -/

/-- A check that hands on its own status. -/
def ensure (status : Status) : Except Failure Unit :=
  if failed : status ≠ .success then .error ⟨status, failed⟩ else .ok ()

theorem ensure_bind_ok_iff {α : Type} {status : Status} {next : Except Failure α} {a : α} :
    (ensure status >>= fun _ => next) = .ok a ↔ status = .success ∧ next = .ok a := by
  unfold ensure
  split
  · rename_i failed
    exact ⟨nofun, fun both => absurd both.1 failed⟩
  · rename_i passed
    exact ⟨fun same => ⟨not_not.mp passed, same⟩, fun both => both.2⟩

/-- The body of `wolfpsa_aead_setup` past the inactive-operation check. -/
def aeadSetupCtx (env : AeadEnv Aes ChaCha) (key : KeyId) (alg : Algorithm) (usage : KeyUsage) :
    Except Failure (AeadCtx Aes ChaCha) := do
  ensure (aeadSetupGate alg)
  let (attributes, keyData) ← env.getKeyData key
  ensure (wolfpsaAeadCheckAttributes attributes usage alg)
  require env.ctxAlloc .insufficientMemory
  ensure (aeadSetupTagLength env.sizes alg)
  require env.keyAlloc .insufficientMemory
  return {
    alg := alg
    keyType := attributes.type
    keyBits := attributes.bits
    encrypts := usage == psaKeyUsageEncrypt
    key := keyData
    nonce := []
    aad := []
    input := []
    inputLength := 0
    adExpected := 0
    plaintextExpected := 0
    tagLength := psaAlgAeadGetTagLength alg
    lengthsSet := false
    adStarted := false
    bodyStarted := false
    streaming := false
    aes := env.wc.aesZero
    chacha := env.wc.chachaZero
    ccm := ccmZero }

/-- `wolfpsa_aead_setup`: status and the operation after the call. -/
def wolfpsaAeadSetup (env : AeadEnv Aes ChaCha) (operation : Option (AeadCtx Aes ChaCha))
    (key : KeyId) (alg : Algorithm) (usage : KeyUsage) : Status × Option (AeadCtx Aes ChaCha) :=
  match operation with
  | some ctx => (.badState, some ctx)
  | none =>
    match aeadSetupCtx env key alg usage with
    | .error status => (status.val, none)
    | .ok ctx => (.success, some ctx)

def psaAeadEncryptSetup (env : AeadEnv Aes ChaCha) (operation : Option (AeadCtx Aes ChaCha))
    (key : KeyId) (alg : Algorithm) : Status × Option (AeadCtx Aes ChaCha) :=
  wolfpsaAeadSetup env operation key alg psaKeyUsageEncrypt

def psaAeadDecryptSetup (env : AeadEnv Aes ChaCha) (operation : Option (AeadCtx Aes ChaCha))
    (key : KeyId) (alg : Algorithm) : Status × Option (AeadCtx Aes ChaCha) :=
  wolfpsaAeadSetup env operation key alg psaKeyUsageDecrypt

/-! ## Lengths and nonce -/

/-- `wolfpsa_aead_lengths_missing`. -/
def wolfpsaAeadLengthsMissing (ctx : AeadCtx Aes ChaCha) : Bool :=
  psaAlgAeadEqual ctx.alg psaAlgCcm && !ctx.lengthsSet

/-- `wolfpsa_aead_limits`: an algorithm with the most additional data and the most plaintext. -/
def wolfpsaAeadLimits : List (Algorithm × BitVec 64 × BitVec 64) :=
  [(psaAlgGcm, 0x1FFFFFFFFFFFFFFF, 0xFFFFFFFE0),
    (psaAlgChacha20Poly1305, 0xFFFFFFFFFFFFFFFF, 0x3FFFFFFFC0)]

/-- CCM encodes the plaintext length in `15 - nonce_length` bytes; a nonce length of zero stands for no
nonce yet. -/
def ccmLengthTooLong (alg : Algorithm) (nonceLength plaintextLength : BitVec 64) : Bool :=
  let lenSize := 15 - nonceLength
  psaAlgAeadEqual alg psaAlgCcm && nonceLength != 0 &&
    (decide (lenSize < 8) && plaintextLength >>> (8 * lenSize.toNat) != 0)

/-- `wolfpsa_aead_check_lengths`. -/
def wolfpsaAeadCheckLengths (alg : Algorithm) (nonceLength adLength plaintextLength : BitVec 64) :
    Status :=
  if ccmLengthTooLong alg nonceLength plaintextLength then .invalidArgument
  else if wolfpsaAeadLimits.any fun limit => psaAlgAeadEqual alg limit.1 &&
      (decide (adLength > limit.2.1) || decide (plaintextLength > limit.2.2)) then .invalidArgument
  else if wolfpsaCheckWord32Length adLength.toNat ≠ .success ∨
      (!psaAlgAeadEqual alg psaAlgCcm ∧
        wolfpsaCheckWord32Length plaintextLength.toNat ≠ .success) then .notSupported
  else .success

/-- `psa_aead_set_lengths` on a context; the caller aborts when it fails. -/
def aeadSetLengths (ctx : AeadCtx Aes ChaCha) (adLength plaintextLength : BitVec 64) :
    Except Failure (AeadCtx Aes ChaCha) := do
  require (!(ctx.lengthsSet || ctx.adStarted || ctx.bodyStarted)) .badState
  ensure (wolfpsaAeadCheckLengths ctx.alg (BitVec.ofNat 64 ctx.nonce.length) adLength plaintextLength)
  return { ctx with adExpected := adLength, plaintextExpected := plaintextLength, lengthsSet := true }

/-- `psa_aead_set_lengths`. -/
def psaAeadSetLengths (operation : Option (AeadCtx Aes ChaCha)) (adLength plaintextLength : BitVec 64) :
    Status × Option (AeadCtx Aes ChaCha) :=
  match operation with
  | none => (.badState, none)
  | some ctx =>
    match aeadSetLengths ctx adLength plaintextLength with
    | .error status => (status.val, none)
    | .ok ctx => (.success, some ctx)

/-- The nonce lengths that `psa_aead_set_nonce` takes for an algorithm. -/
def aeadNonceLengthStatus (ctx : AeadCtx Aes ChaCha) (nonceLength : Nat) : Status :=
  if psaAlgAeadEqual ctx.alg psaAlgGcm then
    if nonceLength = 0 then .invalidArgument
    else if nonceLength < 12 ∨ nonceLength > psaAeadNonceMaxSize then .notSupported
    else .success
  else if psaAlgAeadEqual ctx.alg psaAlgCcm then
    if nonceLength < 7 ∨ nonceLength > 13 then .invalidArgument else .success
  else if psaAeadNonceLength ctx.keyType ctx.alg = 0 ∨
      nonceLength ≠ psaAeadNonceLength ctx.keyType ctx.alg then .invalidArgument
  else .success

/-- The lengths, when they are set, with the nonce that is about to be. -/
def aeadNonceFitsLengths (ctx : AeadCtx Aes ChaCha) (nonceLength : Nat) : Status :=
  if ctx.lengthsSet then
    wolfpsaAeadCheckLengths ctx.alg (BitVec.ofNat 64 nonceLength) ctx.adExpected ctx.plaintextExpected
  else .success

/-- `psa_aead_set_nonce` on a context; a failure leaves the context as it was. -/
def aeadSetNonce (ctx : AeadCtx Aes ChaCha) (nonce : InBuf) : Except Failure (AeadCtx Aes ChaCha) := do
  require (!nonce.isNull) .invalidArgument
  require (ctx.nonce.length == 0) .badState
  ensure (aeadNonceLengthStatus ctx nonce.length)
  ensure (aeadNonceFitsLengths ctx nonce.length)
  return { ctx with nonce := nonce.bytes }

/-- `psa_aead_set_nonce`. -/
def psaAeadSetNonce (operation : Option (AeadCtx Aes ChaCha)) (nonce : InBuf) :
    Status × Option (AeadCtx Aes ChaCha) :=
  match operation with
  | none => (.badState, none)
  | some ctx =>
    match aeadSetNonce ctx nonce with
    | .error status => (status.val, some ctx)
    | .ok ctx => (.success, some ctx)

/-- What an AEAD call hands back: its status, the bytes it has written and, from `psa_aead_finish`, the
tag. -/
structure AeadResult where
  status : Status
  output : Bytes
  tag : Bytes
  deriving DecidableEq, Repr

/-- `psa_aead_generate_nonce` on a context: the nonce and the context after. -/
def aeadGenerateNonce (env : AeadEnv Aes ChaCha) (ctx : AeadCtx Aes ChaCha) (nonce : OutBuf)
    (nonceLengthNull : Bool) : Except Failure (Bytes × AeadCtx Aes ChaCha) := do
  require (!(nonceLengthNull || (nonce.isNull && nonce.size != 0))) .invalidArgument
  require ctx.encrypts .badState
  require (ctx.nonce.length == 0) .badState
  let expected := psaAeadNonceLength ctx.keyType ctx.alg
  require (expected != 0 && decide (expected ≤ nonce.size)) .bufferTooSmall
  let stream ← env.random
  let ctx ← aeadSetNonce ctx (.data (firstN stream expected))
  return (firstN stream expected, ctx)

/-- `psa_aead_generate_nonce`. -/
def psaAeadGenerateNonce (env : AeadEnv Aes ChaCha) (operation : Option (AeadCtx Aes ChaCha))
    (nonce : OutBuf) (nonceLengthNull : Bool) : AeadResult × Option (AeadCtx Aes ChaCha) :=
  match operation with
  | none => (⟨.badState, [], []⟩, none)
  | some ctx =>
    match aeadGenerateNonce env ctx nonce nonceLengthNull with
    | .error status => (⟨status.val, [], []⟩, some ctx)
    | .ok (bytes, ctx) => (⟨.success, bytes, []⟩, some ctx)

/-! ## Additional data -/

/-- `wolfpsa_aead_append` to a buffer of an operation. -/
def wolfpsaAeadAppend (bufferAlloc : Nat → Bool) (buffer : Bytes) (data : InBuf) :
    Except Failure Bytes := do
  require (!(data.isNull && decide (data.length > 0))) .invalidArgument
  if data.length = 0 then return buffer
  require (decide (buffer.length ≤ sizeMax - data.length)) .insufficientMemory
  require (bufferAlloc (buffer.length + data.length)) .insufficientMemory
  return buffer ++ data.bytes

/-- The part of `psa_aead_update_ad` whose failures abort the operation. -/
def aeadAppendAad (env : AeadEnv Aes ChaCha) (ctx : AeadCtx Aes ChaCha) (input : InBuf) :
    Except Failure (AeadCtx Aes ChaCha) := do
  require (!(ctx.lengthsSet && (decide (input.length > sizeMax - ctx.aad.length) ||
    decide (ctx.aad.length + input.length > ctx.adExpected.toNat)))) .invalidArgument
  require (!(decide (input.length > sizeMax - ctx.aad.length) ||
    wolfpsaCheckWord32Length (ctx.aad.length + input.length) != .success)) .invalidArgument
  let aad ← wolfpsaAeadAppend env.bufferAlloc ctx.aad input
  return { ctx with aad := aad, adStarted := true }

/-- `psa_aead_update_ad`. -/
def psaAeadUpdateAd (env : AeadEnv Aes ChaCha) (operation : Option (AeadCtx Aes ChaCha))
    (input : InBuf) : Status × Option (AeadCtx Aes ChaCha) :=
  match operation with
  | none => (.badState, none)
  | some ctx =>
    if ctx.bodyStarted then (.badState, none)
    else if ctx.nonce.length = 0 ∨ wolfpsaAeadLengthsMissing ctx then (.badState, some ctx)
    else if input.length = 0 then (.success, some { ctx with adStarted := true })
    else
      match aeadAppendAad env ctx input with
      | .error status => (status.val, none)
      | .ok ctx => (.success, some ctx)

/-! ## Streaming -/

/-- `wolfpsa_aead_ccm_init`. -/
def wolfpsaAeadCcmInit (wc : WcAead Aes ChaCha) (ctx : AeadCtx Aes ChaCha) :
    Except Failure (AeadCtx Aes ChaCha) := do
  require (decide (7 ≤ ctx.nonce.length) && decide (ctx.nonce.length ≤ 13)) .invalidArgument
  let fresh ← wcCall wc.aesInit
  let aes ← wcCall (wc.aesSetKeyDirect fresh ctx.key)
  let ccm ← ccmStart (wc.aesEncryptDirect aes) ctx.nonce ctx.aad ctx.tagLength
    ctx.plaintextExpected.toNat
  return { ctx with aes := aes, ccm := ccm }

/-- The GCM object of the first update. -/
def gcmFirst (wc : WcAead Aes ChaCha) (ctx : AeadCtx Aes ChaCha) : Except Failure Aes :=
  if ctx.streaming then .ok ctx.aes
  else do
    let fresh ← wcCall wc.aesInit
    wcCall (wc.gcmInit ctx.encrypts fresh ctx.key ctx.nonce)

/-- The ChaCha20-Poly1305 object of the first update, with the additional data. -/
def chachaFirst (wc : WcAead Aes ChaCha) (ctx : AeadCtx Aes ChaCha) : Except Failure ChaCha :=
  if ctx.streaming then .ok ctx.chacha
  else do
    let fresh ← wcCall (wc.chachaInit ctx.key ctx.nonce ctx.encrypts)
    if ctx.aad.length > 0 then wcCall (wc.chachaUpdateAad fresh ctx.aad) else .ok fresh

/-- The CCM state of the first update. -/
def ccmFirst (wc : WcAead Aes ChaCha) (ctx : AeadCtx Aes ChaCha) : Except Failure (AeadCtx Aes ChaCha) :=
  if ctx.streaming then .ok ctx else wolfpsaAeadCcmInit wc ctx

/-- `wolfpsa_aead_stream_update`: the output and the context after. -/
def wolfpsaAeadStreamUpdate (wc : WcAead Aes ChaCha) (ctx : AeadCtx Aes ChaCha) (input : Bytes) :
    Except Failure (Bytes × AeadCtx Aes ChaCha) :=
  if psaAlgAeadEqual ctx.alg psaAlgGcm then do
    let aes ← gcmFirst wc ctx
    let (output, aes) ← wcCall (wc.gcmUpdate ctx.encrypts aes input
      (if ctx.streaming then none else some ctx.aad))
    return (output, { ctx with aes := aes })
  else if psaAlgAeadEqual ctx.alg psaAlgChacha20Poly1305 then do
    let chacha ← chachaFirst wc ctx
    let (output, chacha) ← wcCall (wc.chachaUpdateData chacha input)
    return (output, { ctx with chacha := chacha })
  else if psaAlgAeadEqual ctx.alg psaAlgCcm then do
    let ctx ← ccmFirst wc ctx
    let (output, ccm) ← wolfpsaAeadCcmUpdate (wc.aesEncryptDirect ctx.aes) ctx.encrypts ctx.ccm input
    return (output, { ctx with ccm := ccm })
  else refuse .notSupported

/-- The tag of a streamed encryption. -/
def aeadStreamTag (wc : WcAead Aes ChaCha) (ctx : AeadCtx Aes ChaCha) : Except Failure Bytes :=
  if psaAlgAeadEqual ctx.alg psaAlgGcm then wcCall (wc.gcmEncryptFinal ctx.aes ctx.tagLength)
  else if psaAlgAeadEqual ctx.alg psaAlgChacha20Poly1305 then do
    let computed ← wcCall (wc.chachaFinal ctx.chacha)
    return computed.take ctx.tagLength
  else if psaAlgAeadEqual ctx.alg psaAlgCcm then
    wolfpsaAeadCcmFinish (wc.aesEncryptDirect ctx.aes) ctx.ccm ctx.nonce ctx.tagLength
  else refuse .notSupported

/-- The tag of a streamed decryption against the given one. -/
def aeadStreamCheck (wc : WcAead Aes ChaCha) (ctx : AeadCtx Aes ChaCha) (tag : Bytes) :
    Except Failure Unit :=
  if psaAlgAeadEqual ctx.alg psaAlgGcm then wcCall (wc.gcmDecryptFinal ctx.aes tag)
  else if psaAlgAeadEqual ctx.alg psaAlgChacha20Poly1305 then do
    let computed ← wcCall (wc.chachaFinal ctx.chacha)
    (wc.chachaCheckTag computed tag).mapError fun _ => ⟨.invalidSignature, failing⟩
  else if psaAlgAeadEqual ctx.alg psaAlgCcm then do
    let computed ← wolfpsaAeadCcmFinish (wc.aesEncryptDirect ctx.aes) ctx.ccm ctx.nonce ctx.tagLength
    require (computed == tag) .invalidSignature
  else refuse .notSupported

/-! ## Payload -/

/-- The payload of an update without an output buffer: it is buffered. -/
def aeadBuffer (env : AeadEnv Aes ChaCha) (ctx : AeadCtx Aes ChaCha) (input : InBuf) :
    Except Failure (Bytes × AeadCtx Aes ChaCha) := do
  require (!ctx.streaming) .badState
  let buffered ← wolfpsaAeadAppend env.bufferAlloc ctx.input input
  return ([], { ctx with input := buffered, inputLength := ctx.inputLength + input.length })

/-- The payload of an update with an output buffer: it is streamed. -/
def aeadStream (env : AeadEnv Aes ChaCha) (ctx : AeadCtx Aes ChaCha) (input : InBuf)
    (outputSize : Nat) : Except Failure (Bytes × AeadCtx Aes ChaCha) := do
  require ctx.input.isEmpty .badState
  require (decide (input.length ≤ outputSize)) .bufferTooSmall
  require (wolfpsaCheckWord32Length input.length == .success) .invalidArgument
  let (output, ctx) ← wolfpsaAeadStreamUpdate env.wc ctx input.bytes
  return (output, { ctx with streaming := true, inputLength := ctx.inputLength + input.length })

/-- The part of `psa_aead_update` whose failures abort the operation. -/
def aeadUpdate (env : AeadEnv Aes ChaCha) (ctx : AeadCtx Aes ChaCha) (input : InBuf)
    (output : OutBuf) : Except Failure (Bytes × AeadCtx Aes ChaCha) := do
  require (!(ctx.lengthsSet && ctx.aad.length != ctx.adExpected.toNat)) .invalidArgument
  require (!(ctx.lengthsSet && (decide (input.length > sizeMax - ctx.inputLength) ||
    decide (ctx.inputLength + input.length > ctx.plaintextExpected.toNat)))) .invalidArgument
  require (!(input.isNull && decide (input.length > 0))) .invalidArgument
  if input.length = 0 then return ([], { ctx with bodyStarted := true })
  else if output.isNull then aeadBuffer env { ctx with bodyStarted := true } input
  else aeadStream env { ctx with bodyStarted := true } input output.size

/-- `psa_aead_update`. -/
def psaAeadUpdate (env : AeadEnv Aes ChaCha) (operation : Option (AeadCtx Aes ChaCha)) (input : InBuf)
    (output : OutBuf) (outputLengthNull : Bool) : AeadResult × Option (AeadCtx Aes ChaCha) :=
  match operation with
  | none => (⟨.badState, [], []⟩, none)
  | some ctx =>
    if outputLengthNull then (⟨.invalidArgument, [], []⟩, some ctx)
    else if wolfpsaAeadLengthsMissing ctx then (⟨.badState, [], []⟩, some ctx)
    else if ctx.nonce.length = 0 then (⟨.badState, [], []⟩, some ctx)
    else
      match aeadUpdate env ctx input output with
      | .error status => (⟨status.val, [], []⟩, none)
      | .ok (bytes, ctx) => (⟨.success, bytes, []⟩, some ctx)

/-! ## ChaCha20-Poly1305 in one shot -/

/-- The checks that `psa_chacha20_poly1305_encrypt` and `psa_chacha20_poly1305_decrypt` share; the key and
the nonce of an operation are never null. -/
def chachaOneShotChecks (alg : Algorithm) (key nonce : Bytes) : Except Failure Unit := do
  require (key.length == 32) .invalidArgument
  require (alg == psaAlgChacha20Poly1305) .notSupported
  require (nonce.length == 12) .invalidArgument

/-- `psa_chacha20_poly1305_encrypt`: the ciphertext with the tag behind it. -/
def psaChacha20Poly1305Encrypt (wc : WcAead Aes ChaCha) (alg : Algorithm)
    (key nonce aad plaintext : Bytes) (ciphertextSize : Nat) : Except Failure Bytes := do
  chachaOneShotChecks alg key nonce
  require (wolfpsaCheckWord32Length aad.length == .success &&
    wolfpsaCheckWord32Length plaintext.length == .success) .invalidArgument
  require (decide (plaintext.length ≤ sizeMax - 16)) .bufferTooSmall
  require (decide (plaintext.length + 16 ≤ ciphertextSize)) .bufferTooSmall
  let (ciphertext, tag) ← wcCall (wc.chachaEncrypt key nonce aad plaintext)
  return ciphertext ++ tag

/-- `psa_chacha20_poly1305_decrypt` of a ciphertext with its tag behind it. -/
def psaChacha20Poly1305Decrypt (wc : WcAead Aes ChaCha) (alg : Algorithm)
    (key nonce aad ciphertext : Bytes) (plaintextSize : Nat) : Except Failure Bytes := do
  chachaOneShotChecks alg key nonce
  require (decide (16 ≤ ciphertext.length)) .invalidArgument
  require (wolfpsaCheckWord32Length aad.length == .success &&
    wolfpsaCheckWord32Length (ciphertext.length - 16) == .success) .invalidArgument
  require (decide (ciphertext.length - 16 ≤ plaintextSize)) .bufferTooSmall
  wcCall (wc.chachaDecrypt key nonce aad (ciphertext.take (ciphertext.length - 16))
    (ciphertext.drop (ciphertext.length - 16)))

/-! ## Finish and verify -/

/-- The declared lengths against what the operation has taken in. -/
def aeadTotalsDiffer (ctx : AeadCtx Aes ChaCha) : Bool :=
  ctx.lengthsSet && (ctx.aad.length != ctx.adExpected.toNat ||
    ctx.inputLength != ctx.plaintextExpected.toNat)

/-- The buffered payload of `wolfpsa_aead_encrypt_final` through a one-shot call: ciphertext and tag. -/
def aeadEncryptBuffered (env : AeadEnv Aes ChaCha) (ctx : AeadCtx Aes ChaCha) :
    Except Failure (Bytes × Bytes) :=
  if psaAlgAeadEqual ctx.alg psaAlgGcm then do
    let fresh ← wcCall env.wc.aesNew
    let aes ← wcCall (env.wc.gcmSetKey fresh ctx.key)
    wcCall (env.wc.gcmEncrypt aes ctx.input ctx.nonce ctx.aad ctx.tagLength)
  else if psaAlgAeadEqual ctx.alg psaAlgCcm then do
    require (env.sizes.ccmCheckTagSize ctx.tagLength) .notSupported
    let fresh ← wcCall env.wc.aesNew
    let aes ← wcCall (env.wc.ccmSetKey fresh ctx.key)
    wcCall (env.wc.ccmEncrypt aes ctx.input ctx.nonce ctx.aad ctx.tagLength)
  else if psaAlgAeadEqual ctx.alg psaAlgChacha20Poly1305 then do
    require (env.bufferAlloc (ctx.input.length + ctx.tagLength)) .insufficientMemory
    let whole ← psaChacha20Poly1305Encrypt env.wc ctx.alg ctx.key ctx.nonce ctx.aad ctx.input
      (ctx.input.length + ctx.tagLength)
    require (decide (ctx.input.length + ctx.tagLength ≤ whole.length)) .genericError
    return (whole.take ctx.input.length, (whole.drop ctx.input.length).take ctx.tagLength)
  else refuse .notSupported

/-- `wolfpsa_aead_encrypt_final`: ciphertext and tag. -/
def wolfpsaAeadEncryptFinal (env : AeadEnv Aes ChaCha) (ctx : AeadCtx Aes ChaCha)
    (ciphertext tag : OutBuf) (lengthNull : Bool) : Except Failure (Bytes × Bytes) := do
  require (!(lengthNull || (tag.isNull && tag.size != 0))) .invalidArgument
  require (!(ciphertext.isNull && ciphertext.size != 0)) .invalidArgument
  require (!(ctx.nonce.length == 0 || wolfpsaAeadLengthsMissing ctx)) .badState
  require (!aeadTotalsDiffer ctx) .invalidArgument
  if ctx.streaming then
    require (decide (ctx.tagLength ≤ tag.size)) .bufferTooSmall
    let bytes ← aeadStreamTag env.wc ctx
    return ([], bytes)
  require (!(psaAlgAeadEqual ctx.alg psaAlgChacha20Poly1305 &&
    decide (ctx.inputLength > sizeMax - ctx.tagLength))) .bufferTooSmall
  require (decide (ctx.inputLength ≤ ciphertext.size)) .bufferTooSmall
  require (decide (ctx.tagLength ≤ tag.size)) .bufferTooSmall
  require (wolfpsaCheckWord32Length ctx.inputLength == .success &&
    wolfpsaCheckWord32Length ctx.aad.length == .success) .invalidArgument
  aeadEncryptBuffered env ctx

/-- Every failure of the ChaCha20-Poly1305 decryption is reported as a wrong signature. -/
def asInvalidSignature {α : Type} (result : Except Failure α) : Except Failure α :=
  result.mapError fun _ => ⟨.invalidSignature, failing⟩

/-- The buffered payload of `wolfpsa_aead_decrypt_final` through a one-shot call. -/
def aeadDecryptBuffered (env : AeadEnv Aes ChaCha) (ctx : AeadCtx Aes ChaCha) (tag : Bytes)
    (plaintextSize : Nat) : Except Failure Bytes :=
  if psaAlgAeadEqual ctx.alg psaAlgGcm then do
    let fresh ← wcCall env.wc.aesNew
    let aes ← wcCall (env.wc.gcmSetKey fresh ctx.key)
    wcCall (env.wc.gcmDecrypt aes ctx.input ctx.nonce ctx.aad tag)
  else if psaAlgAeadEqual ctx.alg psaAlgCcm then do
    require (env.sizes.ccmCheckTagSize tag.length) .invalidSignature
    let fresh ← wcCall env.wc.aesNew
    let aes ← wcCall (env.wc.ccmSetKey fresh ctx.key)
    wcCall (env.wc.ccmDecrypt aes ctx.input ctx.nonce ctx.aad tag)
  else if psaAlgAeadEqual ctx.alg psaAlgChacha20Poly1305 then do
    require (decide (ctx.inputLength ≤ sizeMax - tag.length)) .invalidArgument
    require (env.bufferAlloc (ctx.input.length + tag.length)) .insufficientMemory
    asInvalidSignature (psaChacha20Poly1305Decrypt env.wc ctx.alg ctx.key ctx.nonce ctx.aad
      (ctx.input ++ tag) plaintextSize)
  else refuse .notSupported

/-- `wolfpsa_aead_decrypt_final`: the plaintext. -/
def wolfpsaAeadDecryptFinal (env : AeadEnv Aes ChaCha) (ctx : AeadCtx Aes ChaCha) (plaintext : OutBuf)
    (tag : InBuf) (lengthNull : Bool) : Except Failure Bytes := do
  require (!(lengthNull || (tag.isNull && tag.length != 0))) .invalidArgument
  require (!(plaintext.isNull && plaintext.size != 0)) .invalidArgument
  require (!(ctx.nonce.length == 0 || wolfpsaAeadLengthsMissing ctx)) .badState
  require (!aeadTotalsDiffer ctx) .invalidArgument
  require (tag.length == ctx.tagLength) .invalidSignature
  if ctx.streaming then
    aeadStreamCheck env.wc ctx tag.bytes
    return []
  require (decide (ctx.inputLength ≤ plaintext.size)) .bufferTooSmall
  require (wolfpsaCheckWord32Length ctx.inputLength == .success &&
    wolfpsaCheckWord32Length ctx.aad.length == .success) .invalidArgument
  aeadDecryptBuffered env ctx tag.bytes plaintext.size

/-- `psa_aead_finish`: it ends the operation, but for one of the other direction. -/
def psaAeadFinish (env : AeadEnv Aes ChaCha) (operation : Option (AeadCtx Aes ChaCha))
    (ciphertext tag : OutBuf) (lengthNull : Bool) : AeadResult × Option (AeadCtx Aes ChaCha) :=
  match operation with
  | none => (⟨.badState, [], []⟩, none)
  | some ctx =>
    if ctx.encrypts then
      match wolfpsaAeadEncryptFinal env ctx ciphertext tag lengthNull with
      | .error status => (⟨status.val, [], []⟩, none)
      | .ok (bytes, computed) => (⟨.success, bytes, computed⟩, none)
    else (⟨.badState, [], []⟩, some ctx)

/-- `psa_aead_verify`: it ends the operation, but for one of the other direction. -/
def psaAeadVerify (env : AeadEnv Aes ChaCha) (operation : Option (AeadCtx Aes ChaCha))
    (plaintext : OutBuf) (tag : InBuf) (lengthNull : Bool) :
    AeadResult × Option (AeadCtx Aes ChaCha) :=
  match operation with
  | none => (⟨.badState, [], []⟩, none)
  | some ctx =>
    if ctx.encrypts then (⟨.badState, [], []⟩, some ctx)
    else
      match wolfpsaAeadDecryptFinal env ctx plaintext tag lengthNull with
      | .error status => (⟨status.val, [], []⟩, none)
      | .ok bytes => (⟨.success, bytes, []⟩, none)

/-- `psa_aead_abort`. -/
def psaAeadAbort (_operation : Option (AeadCtx Aes ChaCha)) : Status × Option (AeadCtx Aes ChaCha) :=
  (.success, none)

/-! ## Calls of an application -/

inductive AeadCall where
  | encryptSetup (op : Nat) (key : KeyId) (alg : Algorithm)
  | decryptSetup (op : Nat) (key : KeyId) (alg : Algorithm)
  | setNonce (op : Nat) (nonce : InBuf)
  | generateNonce (op : Nat) (nonce : OutBuf) (nonceLengthNull : Bool)
  | setLengths (op : Nat) (adLength plaintextLength : BitVec 64)
  | updateAd (op : Nat) (input : InBuf)
  | update (op : Nat) (input : InBuf) (output : OutBuf) (outputLengthNull : Bool)
  | finish (op : Nat) (ciphertext tag : OutBuf) (lengthNull : Bool)
  | verify (op : Nat) (plaintext : OutBuf) (tag : InBuf) (lengthNull : Bool)
  | abort (op : Nat)
  deriving DecidableEq

def AeadCall.op : AeadCall → Nat
  | encryptSetup op _ _ | decryptSetup op _ _ | setNonce op _ | generateNonce op _ _
  | setLengths op _ _ | updateAd op _ | update op _ _ _ | finish op _ _ _ | verify op _ _ _
  | abort op => op

/-- A call together with the environment it meets. -/
structure AeadEvent (Aes ChaCha : Type) where
  env : AeadEnv Aes ChaCha
  call : AeadCall

/-- All operation objects of the application. -/
abbrev AeadState (Aes ChaCha : Type) := Nat → Option (AeadCtx Aes ChaCha)

def aeadInit : AeadState Aes ChaCha := fun _ => none

/-- The call applied to its operation object. -/
def aeadCall (env : AeadEnv Aes ChaCha) (operation : Option (AeadCtx Aes ChaCha)) :
    AeadCall → AeadResult × Option (AeadCtx Aes ChaCha)
  | .encryptSetup _ key alg =>
    let r := psaAeadEncryptSetup env operation key alg
    (⟨r.1, [], []⟩, r.2)
  | .decryptSetup _ key alg =>
    let r := psaAeadDecryptSetup env operation key alg
    (⟨r.1, [], []⟩, r.2)
  | .setNonce _ nonce =>
    let r := psaAeadSetNonce operation nonce
    (⟨r.1, [], []⟩, r.2)
  | .generateNonce _ nonce nonceLengthNull =>
    psaAeadGenerateNonce env operation nonce nonceLengthNull
  | .setLengths _ adLength plaintextLength =>
    let r := psaAeadSetLengths operation adLength plaintextLength
    (⟨r.1, [], []⟩, r.2)
  | .updateAd _ input =>
    let r := psaAeadUpdateAd env operation input
    (⟨r.1, [], []⟩, r.2)
  | .update _ input output outputLengthNull =>
    psaAeadUpdate env operation input output outputLengthNull
  | .finish _ ciphertext tag lengthNull => psaAeadFinish env operation ciphertext tag lengthNull
  | .verify _ plaintext tag lengthNull => psaAeadVerify env operation plaintext tag lengthNull
  | .abort _ =>
    let r := psaAeadAbort operation
    (⟨r.1, [], []⟩, r.2)

def aeadStep (s : AeadState Aes ChaCha) (e : AeadEvent Aes ChaCha) :
    AeadResult × AeadState Aes ChaCha :=
  let r := aeadCall e.env (s e.call.op) e.call
  (r.1, Function.update s e.call.op r.2)

/-! ## What a call can do -/

theorem aeadSetLengths_ok_iff {ctx ctx' : AeadCtx Aes ChaCha} {adLength plaintextLength : BitVec 64} :
    aeadSetLengths ctx adLength plaintextLength = .ok ctx' ↔
      (ctx.lengthsSet = false ∧ ctx.adStarted = false ∧ ctx.bodyStarted = false) ∧
      wolfpsaAeadCheckLengths ctx.alg (BitVec.ofNat 64 ctx.nonce.length) adLength plaintextLength =
        .success ∧
      ctx' = { ctx with
        adExpected := adLength, plaintextExpected := plaintextLength, lengthsSet := true } := by
  unfold aeadSetLengths
  simp only [require_bind_ok_iff, ensure_bind_ok_iff, Bool.not_eq_true', Bool.or_eq_false_iff, and_assoc]
  exact and_congr_right fun _ => and_congr_right fun _ => and_congr_right fun _ =>
    and_congr_right fun _ => ⟨fun same => (Except.ok.inj same).symm, fun same => congrArg _ same.symm⟩

theorem aeadSetNonce_ok_iff {ctx ctx' : AeadCtx Aes ChaCha} {nonce : InBuf} :
    aeadSetNonce ctx nonce = .ok ctx' ↔
      nonce.isNull = false ∧ ctx.nonce.length = 0 ∧
      aeadNonceLengthStatus ctx nonce.length = .success ∧
      aeadNonceFitsLengths ctx nonce.length = .success ∧
      ctx' = { ctx with nonce := nonce.bytes } := by
  unfold aeadSetNonce
  simp only [require_bind_ok_iff, ensure_bind_ok_iff, Bool.not_eq_true', beq_iff_eq]
  exact and_congr_right fun _ => and_congr_right fun _ => and_congr_right fun _ =>
    and_congr_right fun _ => ⟨fun same => (Except.ok.inj same).symm, fun same => congrArg _ same.symm⟩

/-- The guards of `psa_aead_update` on the declared lengths. -/
structure WithinLengths (ctx : AeadCtx Aes ChaCha) (inputLength : Nat) : Prop where
  ad : ctx.lengthsSet = true → ctx.aad.length = ctx.adExpected.toNat
  payload : ctx.lengthsSet = true → ctx.inputLength + inputLength ≤ ctx.plaintextExpected.toNat

/-- What `psa_aead_update` does with its input: nothing, buffer it or stream it. -/
inductive AeadTaken (env : AeadEnv Aes ChaCha) (ctx : AeadCtx Aes ChaCha) (input : InBuf)
    (output : OutBuf) : Bytes → AeadCtx Aes ChaCha → Prop
  | nothing (empty : input.bytes = []) : AeadTaken env ctx input output [] { ctx with bodyStarted := true }
  | buffered (some : input.bytes ≠ []) (null : output.isNull = true) (whole : ctx.streaming = false) :
      AeadTaken env ctx input output [] { ctx with
        bodyStarted := true, input := ctx.input ++ input.bytes,
        inputLength := ctx.inputLength + input.bytes.length }
  | streamed {bytes moved} (some : input.bytes ≠ []) (given : output.isNull = false)
      (unbuffered : ctx.input = []) (word : wolfpsaCheckWord32Length input.bytes.length = .success)
      (updated : wolfpsaAeadStreamUpdate env.wc { ctx with bodyStarted := true } input.bytes =
        .ok (bytes, moved)) :
      AeadTaken env ctx input output bytes { moved with
        streaming := true, inputLength := moved.inputLength + input.bytes.length }

private theorem InBuf.bytes_of_readable {input : InBuf}
    (readable : (!(input.isNull && decide (input.length > 0))) = true) :
    input.bytes.length = input.length := by
  cases input with
  | null n =>
    have zero : n = 0 := by simpa [InBuf.isNull, InBuf.length] using readable
    rw [zero]
    rfl
  | data bytes => rfl

theorem wolfpsaAeadAppend_ok {bufferAlloc : Nat → Bool} {buffer appended : Bytes} {data : InBuf}
    (done : wolfpsaAeadAppend bufferAlloc buffer data = .ok appended) :
    appended = buffer ++ data.bytes := by
  unfold wolfpsaAeadAppend at done
  obtain ⟨readable, done⟩ := require_bind_ok_iff.mp done
  split_ifs at done with empty
  · cases done
    rw [List.eq_nil_of_length_eq_zero ((InBuf.bytes_of_readable readable).trans empty), List.append_nil]
  · simp only [require_bind_ok_iff] at done
    obtain ⟨-, -, done⟩ := done
    cases done
    rfl

theorem aeadUpdate_taken {env : AeadEnv Aes ChaCha} {ctx ctx' : AeadCtx Aes ChaCha} {input : InBuf}
    {output : OutBuf} {bytes : Bytes} (taken : aeadUpdate env ctx input output = .ok (bytes, ctx')) :
    WithinLengths ctx input.bytes.length ∧ AeadTaken env ctx input output bytes ctx' := by
  unfold aeadUpdate at taken
  obtain ⟨adTotal, taken⟩ := require_bind_ok_iff.mp taken
  obtain ⟨payloadTotal, taken⟩ := require_bind_ok_iff.mp taken
  obtain ⟨readable, taken⟩ := require_bind_ok_iff.mp taken
  have length := InBuf.bytes_of_readable readable
  have within : WithinLengths ctx input.bytes.length := by
    constructor
    · intro set
      simpa [set] using adTotal
    · intro set
      simp only [set, Bool.true_and, Bool.not_eq_true', Bool.or_eq_false_iff, decide_eq_false_iff_not]
        at payloadTotal
      omega
  refine ⟨within, ?_⟩
  split_ifs at taken with empty null
  · cases taken
    exact .nothing (List.eq_nil_of_length_eq_zero (length.trans empty))
  · have some : input.bytes ≠ [] := fun none => empty (by rw [← length, none]; rfl)
    unfold aeadBuffer at taken
    obtain ⟨whole, taken⟩ := require_bind_ok_iff.mp taken
    obtain ⟨appended, done, taken⟩ := except_bind_ok taken
    cases taken
    rw [wolfpsaAeadAppend_ok done, ← length]
    exact .buffered some null (by simpa using whole)
  · have some : input.bytes ≠ [] := fun none => empty (by rw [← length, none]; rfl)
    unfold aeadStream at taken
    obtain ⟨unbuffered, taken⟩ := require_bind_ok_iff.mp taken
    obtain ⟨-, taken⟩ := require_bind_ok_iff.mp taken
    obtain ⟨word, taken⟩ := require_bind_ok_iff.mp taken
    obtain ⟨⟨streamed, moved⟩, updated, taken⟩ := except_bind_ok taken
    cases taken
    rw [← length] at word ⊢
    exact .streamed some (Bool.eq_false_iff.mpr null) (List.isEmpty_iff.mp unbuffered)
      (beq_iff_eq.mp word) updated

/-- Streaming moves the wolfCrypt objects and the CCM state, and no other field. -/
theorem wolfpsaAeadStreamUpdate_frame {wc : WcAead Aes ChaCha} {ctx ctx' : AeadCtx Aes ChaCha}
    {input output : Bytes} (updated : wolfpsaAeadStreamUpdate wc ctx input = .ok (output, ctx')) :
    ∃ aes chacha ccm, ctx' = { ctx with aes := aes, chacha := chacha, ccm := ccm } := by
  unfold wolfpsaAeadStreamUpdate at updated
  split at updated
  · obtain ⟨aes, -, updated⟩ := except_bind_ok updated
    obtain ⟨⟨bytes, moved⟩, -, updated⟩ := except_bind_ok updated
    cases updated
    exact ⟨moved, ctx.chacha, ctx.ccm, rfl⟩
  split at updated
  · obtain ⟨chacha, -, updated⟩ := except_bind_ok updated
    obtain ⟨⟨bytes, moved⟩, -, updated⟩ := except_bind_ok updated
    cases updated
    exact ⟨ctx.aes, moved, ctx.ccm, rfl⟩
  split at updated
  · obtain ⟨first, started, updated⟩ := except_bind_ok updated
    obtain ⟨⟨bytes, moved⟩, -, updated⟩ := except_bind_ok updated
    cases updated
    unfold ccmFirst at started
    split_ifs at started
    · cases started
      exact ⟨ctx.aes, ctx.chacha, moved, rfl⟩
    · unfold wolfpsaAeadCcmInit at started
      obtain ⟨-, started⟩ := require_bind_ok_iff.mp started
      obtain ⟨fresh, -, started⟩ := except_bind_ok started
      obtain ⟨aes, -, started⟩ := except_bind_ok started
      obtain ⟨ccm, -, started⟩ := except_bind_ok started
      cases started
      exact ⟨aes, ctx.chacha, moved, rfl⟩
  · cases updated

theorem aeadAppendAad_ok {env : AeadEnv Aes ChaCha} {ctx ctx' : AeadCtx Aes ChaCha} {input : InBuf}
    (appended : aeadAppendAad env ctx input = .ok ctx') :
    (ctx.lengthsSet = true → (ctx.aad ++ input.bytes).length ≤ ctx.adExpected.toNat) ∧
    ctx' = { ctx with aad := ctx.aad ++ input.bytes, adStarted := true } := by
  unfold aeadAppendAad at appended
  obtain ⟨within, appended⟩ := require_bind_ok_iff.mp appended
  obtain ⟨-, appended⟩ := require_bind_ok_iff.mp appended
  obtain ⟨aad, done, appended⟩ := except_bind_ok appended
  cases appended
  rw [wolfpsaAeadAppend_ok done]
  refine ⟨fun set => ?_, rfl⟩
  have length : input.bytes.length ≤ input.length := by
    cases input with
    | null n => exact Nat.zero_le n
    | data bytes => exact Nat.le_refl _
  simp only [set, Bool.true_and, Bool.not_eq_true', Bool.or_eq_false_iff, decide_eq_false_iff_not]
    at within
  rw [List.length_append]
  omega

/-- A call with its result and the operation before and after it. A refused call ends the operation or
leaves it as it was. -/
inductive AeadAnswer (env : AeadEnv Aes ChaCha) :
    AeadCall → AeadResult → Option (AeadCtx Aes ChaCha) → Option (AeadCtx Aes ChaCha) → Prop
  | ended {call operation} (status : Failure) : AeadAnswer env call ⟨status.val, [], []⟩ operation none
  | kept {call operation} (status : Failure) :
      AeadAnswer env call ⟨status.val, [], []⟩ operation operation
  | encryptSetup {op key alg ctx} (granted : aeadSetupCtx env key alg psaKeyUsageEncrypt = .ok ctx) :
      AeadAnswer env (.encryptSetup op key alg) ⟨.success, [], []⟩ none (some ctx)
  | decryptSetup {op key alg ctx} (granted : aeadSetupCtx env key alg psaKeyUsageDecrypt = .ok ctx) :
      AeadAnswer env (.decryptSetup op key alg) ⟨.success, [], []⟩ none (some ctx)
  | setNonce {op nonce ctx ctx'} (accepted : aeadSetNonce ctx nonce = .ok ctx') :
      AeadAnswer env (.setNonce op nonce) ⟨.success, [], []⟩ (some ctx) (some ctx')
  | generateNonce {op nonce lengthNull bytes ctx ctx'}
      (accepted : aeadSetNonce ctx (.data bytes) = .ok ctx') :
      AeadAnswer env (.generateNonce op nonce lengthNull) ⟨.success, bytes, []⟩ (some ctx) (some ctx')
  | setLengths {op adLength plaintextLength ctx ctx'}
      (accepted : aeadSetLengths ctx adLength plaintextLength = .ok ctx') :
      AeadAnswer env (.setLengths op adLength plaintextLength) ⟨.success, [], []⟩ (some ctx) (some ctx')
  | emptyAd {op ctx} {input : InBuf} (early : ctx.bodyStarted = false) (empty : input.length = 0) :
      AeadAnswer env (.updateAd op input) ⟨.success, [], []⟩ (some ctx) (some { ctx with adStarted := true })
  | updateAd {op input ctx ctx'} (early : ctx.bodyStarted = false)
      (appended : aeadAppendAad env ctx input = .ok ctx') :
      AeadAnswer env (.updateAd op input) ⟨.success, [], []⟩ (some ctx) (some ctx')
  | update {op input output bytes ctx ctx'} (declared : wolfpsaAeadLengthsMissing ctx = false)
      (nonce : ctx.nonce.length ≠ 0) (taken : aeadUpdate env ctx input output = .ok (bytes, ctx')) :
      AeadAnswer env (.update op input output false) ⟨.success, bytes, []⟩ (some ctx) (some ctx')
  | finish {op ciphertext tag lengthNull bytes computed ctx} (encrypts : ctx.encrypts = true)
      (sealed : wolfpsaAeadEncryptFinal env ctx ciphertext tag lengthNull = .ok (bytes, computed)) :
      AeadAnswer env (.finish op ciphertext tag lengthNull) ⟨.success, bytes, computed⟩ (some ctx) none
  | verify {op plaintext tag lengthNull bytes ctx} (decrypts : ctx.encrypts = false)
      (opened : wolfpsaAeadDecryptFinal env ctx plaintext tag lengthNull = .ok bytes) :
      AeadAnswer env (.verify op plaintext tag lengthNull) ⟨.success, bytes, []⟩ (some ctx) none
  | abort {op operation} : AeadAnswer env (.abort op) ⟨.success, [], []⟩ operation none

private theorem encryptSetup_answer (env : AeadEnv Aes ChaCha)
    (operation : Option (AeadCtx Aes ChaCha)) (op : Nat) (key : KeyId) (alg : Algorithm) :
    AeadAnswer env (.encryptSetup op key alg) (aeadCall env operation (.encryptSetup op key alg)).1 operation
      (aeadCall env operation (.encryptSetup op key alg)).2 := by
  cases operation with
  | some ctx => exact .kept ⟨.badState, failing⟩
  | none =>
    dsimp only [aeadCall, psaAeadEncryptSetup, wolfpsaAeadSetup]
    cases granted : aeadSetupCtx env key alg psaKeyUsageEncrypt with
    | error status => exact .ended status
    | ok ctx => exact .encryptSetup granted

private theorem decryptSetup_answer (env : AeadEnv Aes ChaCha)
    (operation : Option (AeadCtx Aes ChaCha)) (op : Nat) (key : KeyId) (alg : Algorithm) :
    AeadAnswer env (.decryptSetup op key alg) (aeadCall env operation (.decryptSetup op key alg)).1 operation
      (aeadCall env operation (.decryptSetup op key alg)).2 := by
  cases operation with
  | some ctx => exact .kept ⟨.badState, failing⟩
  | none =>
    dsimp only [aeadCall, psaAeadDecryptSetup, wolfpsaAeadSetup]
    cases granted : aeadSetupCtx env key alg psaKeyUsageDecrypt with
    | error status => exact .ended status
    | ok ctx => exact .decryptSetup granted

private theorem generateNonce_answer (env : AeadEnv Aes ChaCha) (ctx : AeadCtx Aes ChaCha) (op : Nat)
    (nonce : OutBuf) (lengthNull : Bool) :
    AeadAnswer env (.generateNonce op nonce lengthNull)
      (psaAeadGenerateNonce env (some ctx) nonce lengthNull).1 (some ctx)
      (psaAeadGenerateNonce env (some ctx) nonce lengthNull).2 := by
  unfold psaAeadGenerateNonce
  dsimp only
  cases generated : aeadGenerateNonce env ctx nonce lengthNull with
  | error status => exact .kept status
  | ok result =>
    unfold aeadGenerateNonce at generated
    simp only [require_bind_ok_iff] at generated
    obtain ⟨-, -, -, -, generated⟩ := generated
    obtain ⟨stream, -, generated⟩ := except_bind_ok generated
    obtain ⟨ctx', accepted, ended⟩ := except_bind_ok generated
    cases ended
    exact .generateNonce accepted

private theorem updateAd_answer (env : AeadEnv Aes ChaCha) (ctx : AeadCtx Aes ChaCha) (op : Nat)
    (input : InBuf) :
    AeadAnswer env (.updateAd op input) ⟨(psaAeadUpdateAd env (some ctx) input).1, [], []⟩ (some ctx)
      (psaAeadUpdateAd env (some ctx) input).2 := by
  unfold psaAeadUpdateAd
  dsimp only
  split_ifs with started missing empty
  · exact .ended ⟨.badState, failing⟩
  · exact .kept ⟨.badState, failing⟩
  · exact .emptyAd (Bool.eq_false_iff.mpr started) empty
  · cases appended : aeadAppendAad env ctx input with
    | error status => exact .ended status
    | ok ctx' => exact .updateAd (Bool.eq_false_iff.mpr started) appended

private theorem update_answer (env : AeadEnv Aes ChaCha) (ctx : AeadCtx Aes ChaCha) (op : Nat)
    (input : InBuf) (output : OutBuf) (lengthNull : Bool) :
    AeadAnswer env (.update op input output lengthNull)
      (psaAeadUpdate env (some ctx) input output lengthNull).1 (some ctx)
      (psaAeadUpdate env (some ctx) input output lengthNull).2 := by
  unfold psaAeadUpdate
  dsimp only
  split_ifs with null missing unset
  · exact .kept ⟨.invalidArgument, failing⟩
  · exact .kept ⟨.badState, failing⟩
  · exact .kept ⟨.badState, failing⟩
  · cases Bool.eq_false_iff.mpr null
    cases taken : aeadUpdate env ctx input output with
    | error status => exact .ended status
    | ok result => exact .update (Bool.eq_false_iff.mpr missing) unset taken

theorem aeadCall_answer (env : AeadEnv Aes ChaCha) (operation : Option (AeadCtx Aes ChaCha))
    (call : AeadCall) :
    AeadAnswer env call (aeadCall env operation call).1 operation (aeadCall env operation call).2 := by
  cases call with
  | encryptSetup op key alg => exact encryptSetup_answer env operation op key alg
  | decryptSetup op key alg => exact decryptSetup_answer env operation op key alg
  | setNonce op nonce =>
    cases operation with
    | none => exact .kept ⟨.badState, failing⟩
    | some ctx =>
      dsimp only [aeadCall, psaAeadSetNonce]
      cases accepted : aeadSetNonce ctx nonce with
      | error status => exact .kept status
      | ok ctx' => exact .setNonce accepted
  | generateNonce op nonce lengthNull =>
    cases operation with
    | none => exact .kept ⟨.badState, failing⟩
    | some ctx => exact generateNonce_answer env ctx op nonce lengthNull
  | setLengths op adLength plaintextLength =>
    cases operation with
    | none => exact .kept ⟨.badState, failing⟩
    | some ctx =>
      dsimp only [aeadCall, psaAeadSetLengths]
      cases accepted : aeadSetLengths ctx adLength plaintextLength with
      | error status => exact .ended status
      | ok ctx' => exact .setLengths accepted
  | updateAd op input =>
    cases operation with
    | none => exact .kept ⟨.badState, failing⟩
    | some ctx => exact updateAd_answer env ctx op input
  | update op input output lengthNull =>
    cases operation with
    | none => exact .kept ⟨.badState, failing⟩
    | some ctx => exact update_answer env ctx op input output lengthNull
  | finish op ciphertext tag lengthNull =>
    cases operation with
    | none => exact .kept ⟨.badState, failing⟩
    | some ctx =>
      dsimp only [aeadCall, psaAeadFinish]
      split_ifs with encrypts
      · cases sealed : wolfpsaAeadEncryptFinal env ctx ciphertext tag lengthNull with
        | error status => exact .ended status
        | ok result => exact .finish encrypts sealed
      · exact .kept ⟨.badState, failing⟩
  | verify op plaintext tag lengthNull =>
    cases operation with
    | none => exact .kept ⟨.badState, failing⟩
    | some ctx =>
      dsimp only [aeadCall, psaAeadVerify]
      split_ifs with encrypts
      · exact .kept ⟨.badState, failing⟩
      · cases opened : wolfpsaAeadDecryptFinal env ctx plaintext tag lengthNull with
        | error status => exact .ended status
        | ok bytes => exact .verify (Bool.eq_false_iff.mpr encrypts) opened
  | abort op => exact .abort

end WolfPSA.Source
