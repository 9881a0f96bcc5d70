import WolfPSA.Lib.Streams
import WolfPSA.Source.PolicyReadings

/-!
# Unauthenticated cipher operations

Embedding of the multipart interface of `src/psa_cipher.c`. As for MACs, an operation object holds an
optional context and the environment of a call answers the key look-up, the allocation, the random
generator and every wolfCrypt call. Builds with AES in ECB, CTR, CFB and OFB, with triple DES and with
ChaCha20, as `user_settings.h` selects. `partial` and `partial_len` are one list.
-/

namespace WolfPSA.Source
open Lib

/-! ## Algorithms -/

def psaAlgStreamCipher : Algorithm := 0x04800100
def psaAlgCtr : Algorithm := 0x04c01000
def psaAlgCfb : Algorithm := 0x04c01100
def psaAlgOfb : Algorithm := 0x04c01200
def psaAlgEcbNoPadding : Algorithm := 0x04404400
def psaAlgCbcNoPadding : Algorithm := 0x04404000
def psaAlgCbcPkcs7 : Algorithm := 0x04404100

def psaAlgIsCipher (alg : Algorithm) : Bool := alg &&& psaAlgCategoryMask == psaAlgCategoryCipher

def aesBlockSize : Nat := 16
def desBlockSize : Nat := 8
def chachaMaxKeySz : Nat := 32
def wolfpsaChacha20IvBytes : Nat := 12

/-- `wolfpsa_cipher_check_alg`. -/
def wolfpsaCipherCheckAlg (alg : Algorithm) : Status :=
  if !psaAlgIsCipher alg then .notSupported
  else if [psaAlgCbcNoPadding, psaAlgCbcPkcs7, psaAlgEcbNoPadding, psaAlgCtr, psaAlgCcmStarNoTag,
      psaAlgCfb, psaAlgOfb, psaAlgStreamCipher].contains alg then .success
  else .notSupported

/-- `wolfpsa_cipher_block_size`. -/
def wolfpsaCipherBlockSize (keyType : KeyType) : Nat :=
  if keyType == psaKeyTypeDes then desBlockSize else aesBlockSize

/-- `wolfpsa_cipher_iv_length`; zero for an algorithm without an IV. -/
def wolfpsaCipherIvLength (alg : Algorithm) (keyType : KeyType) : Nat :=
  if [psaAlgCbcNoPadding, psaAlgCbcPkcs7, psaAlgCtr, psaAlgCfb, psaAlgOfb].contains alg then
    wolfpsaCipherBlockSize keyType
  else if alg == psaAlgStreamCipher then wolfpsaChacha20IvBytes
  else if alg == psaAlgCcmStarNoTag then 13
  else 0

/-! ## wolfCrypt -/

/-- `AES_ENCRYPTION` and `AES_DECRYPTION`. -/
inductive CipherDirection where
  | encryption
  | decryption
  deriving DecidableEq, Repr

/-- The calls of wolfCrypt on a block cipher object: the bytes written and the object after. -/
structure BlockCalls (Obj : Type) where
  setIV : Obj → Bytes → Except WcError Obj
  cbcEncrypt : Obj → Bytes → Except WcError (Bytes × Obj)
  cbcDecrypt : Obj → Bytes → Except WcError (Bytes × Obj)
  ecbEncrypt : Obj → Bytes → Except WcError (Bytes × Obj)
  ecbDecrypt : Obj → Bytes → Except WcError (Bytes × Obj)

/-- The CBC call of a direction. -/
def BlockCalls.cbc {Obj : Type} (calls : BlockCalls Obj) :
    CipherDirection → Obj → Bytes → Except WcError (Bytes × Obj)
  | .encryption => calls.cbcEncrypt
  | .decryption => calls.cbcDecrypt

/-- The ECB call of a direction. -/
def BlockCalls.ecb {Obj : Type} (calls : BlockCalls Obj) :
    CipherDirection → Obj → Bytes → Except WcError (Bytes × Obj)
  | .encryption => calls.ecbEncrypt
  | .decryption => calls.ecbDecrypt

/-- The wolfCrypt calls of the cipher driver over its opaque objects, with the objects as the
`XMEMSET` of a new context leaves them. -/
structure WcCipher (Aes Des3 ChaCha : Type) where
  aesZero : Aes
  des3Zero : Des3
  chachaZero : ChaCha
  aesInit : Except WcError Aes
  aesSetKey : Aes → (key iv : Bytes) → CipherDirection → Except WcError Aes
  aesCtrSetKey : Aes → (key iv : Bytes) → CipherDirection → Except WcError Aes
  aes : BlockCalls Aes
  aesCtrEncrypt : Aes → Bytes → Except WcError (Bytes × Aes)
  aesCfbEncrypt : Aes → Bytes → Except WcError (Bytes × Aes)
  aesCfbDecrypt : Aes → Bytes → Except WcError (Bytes × Aes)
  aesOfbEncrypt : Aes → Bytes → Except WcError (Bytes × Aes)
  aesOfbDecrypt : Aes → Bytes → Except WcError (Bytes × Aes)
  des3Init : Except WcError Des3
  des3SetKey : Des3 → (key iv : Bytes) → CipherDirection → Except WcError Des3
  des3 : BlockCalls Des3
  chachaSetKey : ChaCha → Bytes → Except WcError ChaCha
  chachaSetIV : ChaCha → Bytes → Except WcError ChaCha
  chachaProcess : ChaCha → Bytes → Except WcError (Bytes × ChaCha)

/-- `wolfpsa_cipher_ctx_t`. -/
structure CipherCtx (Aes Des3 ChaCha : Type) where
  alg : Algorithm
  keyType : KeyType
  keyBits : BitVec 16
  direction : CipherDirection
  ivSet : Bool
  ivAttempted : Bool
  isChacha : Bool
  isDes3 : Bool
  blockSize : Nat
  iv : Bytes
  partialBlock : Bytes
  aes : Aes
  des3 : Des3
  chacha : ChaCha

/-- What one call meets outside `psa_cipher.c`. -/
structure CipherEnv (Aes Des3 ChaCha : Type) where
  getKeyData : KeyLookup
  ctxAlloc : Bool
  /-- The bytes of `psa_generate_random`. -/
  random : Except Failure (Nat → Byte)
  wc : WcCipher Aes Des3 ChaCha

variable {Aes Des3 ChaCha : Type}

/-! ## Setup -/

/-- `wolfpsa_cipher_check_key`. -/
def wolfpsaCipherCheckKey (getKeyData : KeyLookup) (key : KeyId) (usage : KeyUsage)
    (alg : Algorithm) : Except Failure (KeyAttributes × Bytes) := do
  let (attributes, keyData) ← getKeyData key
  if alg == psaAlgStreamCipher then require (attributes.type == psaKeyTypeChacha20) .notSupported
  else if attributes.type == psaKeyTypeDes then
    require ([psaAlgCbcNoPadding, psaAlgEcbNoPadding, psaAlgCbcPkcs7].contains alg) .notSupported
  else require (attributes.type == psaKeyTypeAes) .notSupported
  require (hasUsage attributes.usage usage) .notPermitted
  require (wolfpsaKeyPermitsAlg attributes alg) .notPermitted
  if attributes.type == psaKeyTypeChacha20 then
    require (keyData.length == chachaMaxKeySz) .invalidArgument
    require (attributes.bits == 256) .invalidArgument
  else if attributes.type == psaKeyTypeDes then
    require (keyData.length != 16) .notSupported
    require (keyData.length == 24) .invalidArgument
    require (attributes.bits == BitVec.ofNat 16 (keyData.length * 8)) .invalidArgument
  else
    require ([16, 24, 32].contains keyData.length) .invalidArgument
    require ([128, 192, 256].contains attributes.bits) .invalidArgument
  return (attributes, keyData)

/-- The direction of the AES key schedule: the decryption schedule serves only the modes that run the
block cipher backwards. -/
def aesKeyDirection (alg : Algorithm) : CipherDirection → CipherDirection
  | .encryption => .encryption
  | .decryption =>
    if [psaAlgCtr, psaAlgCcmStarNoTag, psaAlgOfb, psaAlgCfb].contains alg then .encryption
    else .decryption

def aesSetKeyFor (wc : WcCipher Aes Des3 ChaCha) (alg : Algorithm) (direction : CipherDirection)
    (fresh : Aes) (key iv : Bytes) : Except WcError Aes :=
  if alg == psaAlgCtr then wc.aesCtrSetKey fresh key iv .encryption
  else wc.aesSetKey fresh key iv (aesKeyDirection alg direction)

/-- The key of a new context: `ret` of the setup calls with the object it belongs to. -/
def cipherSetKey (wc : WcCipher Aes Des3 ChaCha) (ctx : CipherCtx Aes Des3 ChaCha) (key : Bytes) :
    Except WcError (CipherCtx Aes Des3 ChaCha) :=
  if ctx.isChacha then do
    let keyed ← wc.chachaSetKey ctx.chacha key
    return { ctx with chacha := keyed }
  else if ctx.isDes3 then do
    let fresh ← wc.des3Init
    let keyed ← wc.des3SetKey fresh (key.take 24) ctx.iv ctx.direction
    return { ctx with des3 := keyed }
  else do
    let fresh ← wc.aesInit
    let keyed ← aesSetKeyFor wc ctx.alg ctx.direction fresh key ctx.iv
    return { ctx with aes := keyed }

/-- The context of a new operation before its key is set. -/
def newCipherCtx (wc : WcCipher Aes Des3 ChaCha) (attributes : KeyAttributes) (alg : Algorithm)
    (direction : CipherDirection) : CipherCtx Aes Des3 ChaCha where
  alg := alg
  keyType := attributes.type
  keyBits := attributes.bits
  direction := direction
  ivSet := false
  ivAttempted := false
  isChacha := alg == psaAlgStreamCipher
  isDes3 := attributes.type == psaKeyTypeDes
  blockSize := wolfpsaCipherBlockSize attributes.type
  iv := List.replicate aesBlockSize 0
  partialBlock := []
  aes := wc.aesZero
  des3 := wc.des3Zero
  chacha := wc.chachaZero

/-- The body the two setups share, past the inactive-operation check. -/
def cipherSetupCtx (env : CipherEnv Aes Des3 ChaCha) (key : KeyId) (alg : Algorithm)
    (usage : KeyUsage) (direction : CipherDirection) :
    Except Failure (CipherCtx Aes Des3 ChaCha) := do
  require (wolfpsaCipherCheckAlg alg == .success) .notSupported
  let (attributes, keyData) ← wolfpsaCipherCheckKey env.getKeyData key usage alg
  require env.ctxAlloc .insufficientMemory
  require (wolfpsaCheckWord32Length keyData.length == .success) .invalidArgument
  wcCall (cipherSetKey env.wc (newCipherCtx env.wc attributes alg direction) keyData)

/-- A setup: status and the operation after the call. -/
def cipherSetup (env : CipherEnv Aes Des3 ChaCha) (operation : Option (CipherCtx Aes Des3 ChaCha))
    (key : KeyId) (alg : Algorithm) (usage : KeyUsage) (direction : CipherDirection) :
    Status × Option (CipherCtx Aes Des3 ChaCha) :=
  match operation with
  | some ctx => (.badState, some ctx)
  | none =>
    match cipherSetupCtx env key alg usage direction with
    | .error status => (status.val, none)
    | .ok ctx => (.success, some ctx)

def psaCipherEncryptSetup (env : CipherEnv Aes Des3 ChaCha)
    (operation : Option (CipherCtx Aes Des3 ChaCha)) (key : KeyId) (alg : Algorithm) :
    Status × Option (CipherCtx Aes Des3 ChaCha) :=
  cipherSetup env operation key alg psaKeyUsageEncrypt .encryption

def psaCipherDecryptSetup (env : CipherEnv Aes Des3 ChaCha)
    (operation : Option (CipherCtx Aes Des3 ChaCha)) (key : KeyId) (alg : Algorithm) :
    Status × Option (CipherCtx Aes Des3 ChaCha) :=
  cipherSetup env operation key alg psaKeyUsageDecrypt .decryption

/-! ## Initialisation vectors -/

/-- `wolfpsa_cipher_set_iv` on a context. Its callers abort the operation when it fails, so the
context a failure leaves is not kept. -/
def wolfpsaCipherSetIv (wc : WcCipher Aes Des3 ChaCha) (ctx : CipherCtx Aes Des3 ChaCha)
    (iv : InBuf) : Except Failure (CipherCtx Aes Des3 ChaCha) := do
  require (!ctx.ivAttempted) .badState
  require (wolfpsaCipherIvLength ctx.alg ctx.keyType != 0) .badState
  require (!iv.isNull) .invalidArgument
  if ctx.alg == psaAlgStreamCipher then
    require (iv.length == wolfpsaChacha20IvBytes) .invalidArgument
    let chacha ← wcCall (wc.chachaSetIV ctx.chacha iv.bytes)
    return { ctx with ivAttempted := true, chacha := chacha, ivSet := true }
  else if ctx.alg == psaAlgCcmStarNoTag then
    require (iv.length == 13) .invalidArgument
    let counter := [0x01] ++ iv.bytes ++ [0x00, 0x01]
    let aes ← wcCall (wc.aes.setIV ctx.aes counter)
    return { ctx with ivAttempted := true, iv := counter, aes := aes, ivSet := true }
  else
    require (iv.length == wolfpsaCipherBlockSize ctx.keyType) .invalidArgument
    -- the IV buffer has `AES_BLOCK_SIZE` bytes, a DES IV replaces the first of them
    let buffer := iv.bytes ++ ctx.iv.drop iv.length
    if ctx.isDes3 then
      let des3 ← wcCall (wc.des3.setIV ctx.des3 (buffer.take desBlockSize))
      return { ctx with ivAttempted := true, iv := buffer, des3 := des3, ivSet := true }
    else
      let aes ← wcCall (wc.aes.setIV ctx.aes buffer)
      return { ctx with ivAttempted := true, iv := buffer, aes := aes, ivSet := true }

/-- `psa_cipher_set_iv`. -/
def psaCipherSetIv (env : CipherEnv Aes Des3 ChaCha) (operation : Option (CipherCtx Aes Des3 ChaCha))
    (iv : InBuf) : Status × Option (CipherCtx Aes Des3 ChaCha) :=
  match operation with
  | none => (.badState, none)
  | some ctx =>
    match wolfpsaCipherSetIv env.wc ctx iv with
    | .error status => (status.val, none)
    | .ok ctx => (.success, some ctx)

/-- `wolfpsa_cipher_generate_iv` on a context: the IV and the context after. -/
def wolfpsaCipherGenerateIv (env : CipherEnv Aes Des3 ChaCha) (ctx : CipherCtx Aes Des3 ChaCha)
    (iv : OutBuf) (ivLengthNull : Bool) : Except Failure (Bytes × CipherCtx Aes Des3 ChaCha) := do
  require (!ctx.ivAttempted) .badState
  require (ctx.direction == .encryption) .badState
  let expected := wolfpsaCipherIvLength ctx.alg ctx.keyType
  require (expected != 0) .badState
  require (!ivLengthNull && !(iv.isNull && iv.size != 0)) .invalidArgument
  require (decide (expected ≤ iv.size)) .bufferTooSmall
  let stream ← env.random
  let ctx ← wolfpsaCipherSetIv env.wc ctx (.data (firstN stream expected))
  return (firstN stream expected, ctx)

/-- What a cipher call hands back: its status and the bytes it has written. -/
structure CipherResult where
  status : Status
  output : Bytes
  deriving DecidableEq, Repr

/-- A call that aborts the operation when it fails. -/
def cipherEnds (result : Except Failure (Bytes × Option (CipherCtx Aes Des3 ChaCha))) :
    CipherResult × Option (CipherCtx Aes Des3 ChaCha) :=
  match result with
  | .error status => (⟨status.val, []⟩, none)
  | .ok (output, operation) => (⟨.success, output⟩, operation)

/-- `psa_cipher_generate_iv`. -/
def psaCipherGenerateIv (env : CipherEnv Aes Des3 ChaCha)
    (operation : Option (CipherCtx Aes Des3 ChaCha)) (iv : OutBuf) (ivLengthNull : Bool) :
    CipherResult × Option (CipherCtx Aes Des3 ChaCha) :=
  match operation with
  | none => (⟨.badState, []⟩, none)
  | some ctx => cipherEnds do
      let (output, ctx) ← wolfpsaCipherGenerateIv env ctx iv ivLengthNull
      return (output, some ctx)

/-! ## Input

The block modes keep the input that does not fill a block. Their calls differ in the cipher object and
the direction only. -/

/-- One of the wolfCrypt calls on whole blocks, with the context that holds the object. -/
abbrev BlockCall (Aes Des3 ChaCha : Type) :=
  CipherCtx Aes Des3 ChaCha → Bytes → Except WcError (Bytes × CipherCtx Aes Des3 ChaCha)

/-- The call on the object the context has a key for. -/
def callBlocks (des3 : Des3 → Bytes → Except WcError (Bytes × Des3))
    (aes : Aes → Bytes → Except WcError (Bytes × Aes)) : BlockCall Aes Des3 ChaCha := fun ctx input =>
  if ctx.isDes3 then do
    let (output, des3) ← des3 ctx.des3 input
    return (output, { ctx with des3 := des3 })
  else do
    let (output, aes) ← aes ctx.aes input
    return (output, { ctx with aes := aes })

def cipherCbc (wc : WcCipher Aes Des3 ChaCha) (direction : CipherDirection) :
    BlockCall Aes Des3 ChaCha :=
  callBlocks (wc.des3.cbc direction) (wc.aes.cbc direction)

def cipherEcb (wc : WcCipher Aes Des3 ChaCha) (direction : CipherDirection) :
    BlockCall Aes Des3 ChaCha :=
  callBlocks (wc.des3.ecb direction) (wc.aes.ecb direction)

/-- Input that only adds to the partial block. -/
def keepInput (ctx : CipherCtx Aes Des3 ChaCha) (input : Bytes) : CipherCtx Aes Des3 ChaCha :=
  { ctx with partialBlock := ctx.partialBlock ++ input }

/-- The partial block filled up from the input: the output, the context and the input left. -/
def fillPartialBlock (call : BlockCall Aes Des3 ChaCha) (ctx : CipherCtx Aes Des3 ChaCha)
    (input : Bytes) : Except Failure (Bytes × CipherCtx Aes Des3 ChaCha × Bytes) :=
  if ctx.partialBlock.length > 0 then do
    let needed := ctx.blockSize - ctx.partialBlock.length
    let (output, ctx) ← wcCall (call ctx (ctx.partialBlock ++ input.take needed))
    return (output, { ctx with partialBlock := [] }, input.drop needed)
  else .ok ([], ctx, input)

/-- The whole blocks at the front of the input. -/
def wholeBlocks (call : BlockCall Aes Des3 ChaCha) (ctx : CipherCtx Aes Des3 ChaCha)
    (input : Bytes) (length : Nat) : Except Failure (Bytes × CipherCtx Aes Des3 ChaCha) :=
  if length > 0 then wcCall (call ctx (input.take length)) else .ok ([], ctx)

/-- The input after the last full block becomes the partial block. -/
def keepRest (ctx : CipherCtx Aes Des3 ChaCha) (rest : Bytes) : CipherCtx Aes Des3 ChaCha :=
  if rest.length > 0 then { ctx with partialBlock := rest } else ctx

/-- The input that is held back, at most one block of it. -/
def holdBack (ctx : CipherCtx Aes Des3 ChaCha) (rest : Bytes) : CipherCtx Aes Des3 ChaCha :=
  if rest.length ≥ ctx.blockSize then { ctx with partialBlock := rest.take ctx.blockSize }
  else keepRest ctx rest

/-- The input behind the partial block: its full blocks are processed and the rest is kept. -/
def updateRest (call : BlockCall Aes Des3 ChaCha) (ctx : CipherCtx Aes Des3 ChaCha)
    (first input : Bytes) : Except Failure (Bytes × CipherCtx Aes Des3 ChaCha) :=
  if input.length > 0 then do
    let fullBlocks := input.length / ctx.blockSize * ctx.blockSize
    let (second, ctx) ← wholeBlocks call ctx input fullBlocks
    return (first ++ second, keepRest ctx (input.drop fullBlocks))
  else .ok (first, ctx)

/-- The buffering of `psa_cipher_update` for CBC without padding, for ECB and for CBC encryption with
padding: every full block is processed. -/
def updateBlocks (call : BlockCall Aes Des3 ChaCha) (ctx : CipherCtx Aes Des3 ChaCha) (input : Bytes)
    (outputSize : Nat) : Except Failure (Bytes × CipherCtx Aes Des3 ChaCha) := do
  let blocks := (ctx.partialBlock.length + input.length) / ctx.blockSize
  require (decide (blocks * ctx.blockSize ≤ outputSize)) .bufferTooSmall
  if blocks = 0 then return ([], keepInput ctx input)
  let (first, ctx, input) ← fillPartialBlock call ctx input
  updateRest call ctx first input

/-- The buffering of CBC decryption with padding: the last block is held back, since only
`psa_cipher_finish` can tell its padding from its text. -/
def updateHeldBack (call : BlockCall Aes Des3 ChaCha) (ctx : CipherCtx Aes Des3 ChaCha)
    (input : Bytes) (outputSize : Nat) : Except Failure (Bytes × CipherCtx Aes Des3 ChaCha) := do
  let total := ctx.partialBlock.length + input.length
  if total < ctx.blockSize then return ([], keepInput ctx input)
  let processLen := (total - 1) / ctx.blockSize * ctx.blockSize
  if processLen = 0 then return ([], keepInput ctx input)
  require (decide (processLen ≤ outputSize)) .bufferTooSmall
  let held := ctx.partialBlock.length
  let (first, ctx, input) ← fillPartialBlock call ctx input
  let fullBlocks := processLen - if held > 0 then ctx.blockSize else 0
  let (second, ctx) ← wholeBlocks call ctx input fullBlocks
  return (first ++ second, holdBack ctx (input.drop fullBlocks))

/-- The modes that write as many bytes as they read, with the AES object of the context. -/
def updateAesStream (call : Aes → Bytes → Except WcError (Bytes × Aes))
    (ctx : CipherCtx Aes Des3 ChaCha) (input : Bytes) (outputSize : Nat) :
    Except Failure (Bytes × CipherCtx Aes Des3 ChaCha) := do
  require ctx.ivSet .badState
  require (decide (input.length ≤ outputSize)) .bufferTooSmall
  let (output, aes) ← wcCall (call ctx.aes input)
  return (output, { ctx with aes := aes })

/-- The same for ChaCha20. -/
def updateChacha (wc : WcCipher Aes Des3 ChaCha) (ctx : CipherCtx Aes Des3 ChaCha) (input : Bytes)
    (outputSize : Nat) : Except Failure (Bytes × CipherCtx Aes Des3 ChaCha) := do
  require ctx.ivSet .badState
  require (decide (input.length ≤ outputSize)) .bufferTooSmall
  let (output, chacha) ← wcCall (wc.chachaProcess ctx.chacha input)
  return (output, { ctx with chacha := chacha })

/-- The algorithms of which `psa_cipher_update` writes blocks before it has read all of the input. -/
def isBlockMode (alg : Algorithm) : Bool :=
  [psaAlgCbcNoPadding, psaAlgCbcPkcs7, psaAlgEcbNoPadding].contains alg

/-- The branch of `psa_cipher_update` for the algorithm of the context, on input that is not empty. -/
def updateInput (wc : WcCipher Aes Des3 ChaCha) (ctx : CipherCtx Aes Des3 ChaCha) (input : Bytes)
    (outputSize : Nat) : Except Failure (Bytes × CipherCtx Aes Des3 ChaCha) :=
  if ctx.alg = psaAlgCbcNoPadding then do
    require ctx.ivSet .badState
    updateBlocks (cipherCbc wc ctx.direction) ctx input outputSize
  else if ctx.alg = psaAlgCbcPkcs7 then do
    require ctx.ivSet .badState
    match ctx.direction with
    | .encryption => updateBlocks (cipherCbc wc .encryption) ctx input outputSize
    | .decryption => updateHeldBack (cipherCbc wc .decryption) ctx input outputSize
  else if ctx.alg = psaAlgCcmStarNoTag then updateAesStream wc.aesCtrEncrypt ctx input outputSize
  else if ctx.alg = psaAlgEcbNoPadding then
    updateBlocks (cipherEcb wc ctx.direction) ctx input outputSize
  else if ctx.alg = psaAlgCtr then updateAesStream wc.aesCtrEncrypt ctx input outputSize
  else if ctx.alg = psaAlgCfb then
    match ctx.direction with
    | .encryption => updateAesStream wc.aesCfbEncrypt ctx input outputSize
    | .decryption => updateAesStream wc.aesCfbDecrypt ctx input outputSize
  else if ctx.alg = psaAlgOfb then
    match ctx.direction with
    | .encryption => updateAesStream wc.aesOfbEncrypt ctx input outputSize
    | .decryption => updateAesStream wc.aesOfbDecrypt ctx input outputSize
  else if ctx.alg = psaAlgStreamCipher then updateChacha wc ctx input outputSize
  else refuse .notSupported

/-- `psa_cipher_update` on a context. `overlap` is the comparison of the two address ranges. -/
def cipherUpdate (wc : WcCipher Aes Des3 ChaCha) (ctx : CipherCtx Aes Des3 ChaCha) (input : InBuf)
    (output : OutBuf) (overlap : Bool) : Except Failure (Bytes × CipherCtx Aes Des3 ChaCha) := do
  require (!(input.isNull && decide (input.length > 0))) .invalidArgument
  require (!(output.isNull && decide (output.size > 0))) .invalidArgument
  require (wolfpsaCheckWord32Length input.length == .success) .invalidArgument
  require (!(isBlockMode ctx.alg && !input.isNull && !output.isNull && decide (input.length > 0) &&
    decide (output.size > 0) && overlap)) .notSupported
  if input.length = 0 then return ([], ctx)
  updateInput wc ctx input.bytes output.size

/-- `psa_cipher_update`. -/
def psaCipherUpdate (env : CipherEnv Aes Des3 ChaCha)
    (operation : Option (CipherCtx Aes Des3 ChaCha)) (input : InBuf) (output : OutBuf)
    (overlap outputLengthNull : Bool) : CipherResult × Option (CipherCtx Aes Des3 ChaCha) :=
  if outputLengthNull then (⟨.invalidArgument, []⟩, none)
  else
    match operation with
    | none => (⟨.badState, []⟩, none)
    | some ctx => cipherEnds do
        let (bytes, ctx) ← cipherUpdate env.wc ctx input output overlap
        return (bytes, some ctx)

/-! ## The end of an operation -/

/-- The padding test of `psa_cipher_finish`: the last byte counts the bytes that repeat it. -/
def pkcs7Invalid (blockSize : Nat) (block : Bytes) : Bool :=
  let padLen := (block.getD (blockSize - 1) 0).toNat
  padLen == 0 || decide (padLen > blockSize) ||
    (List.range blockSize).any fun i =>
      decide (i < padLen) && block.getD (blockSize - 1 - i) 0 != BitVec.ofNat 8 padLen

/-- The padded last block of CBC encryption. -/
def finishPadded (wc : WcCipher Aes Des3 ChaCha) (ctx : CipherCtx Aes Des3 ChaCha)
    (outputSize : Nat) : Except Failure Bytes := do
  -- the guard on a residue of a full block
  require (decide (ctx.partialBlock.length < ctx.blockSize)) .badState
  let padLen := ctx.blockSize - ctx.partialBlock.length
  require (decide (ctx.blockSize ≤ outputSize)) .bufferTooSmall
  let (output, _) ← wcCall (cipherCbc wc .encryption ctx
    (ctx.partialBlock ++ List.replicate padLen (BitVec.ofNat 8 padLen)))
  return output

/-- The last block of CBC decryption without its padding. -/
def finishUnpadded (wc : WcCipher Aes Des3 ChaCha) (ctx : CipherCtx Aes Des3 ChaCha)
    (outputSize : Nat) : Except Failure Bytes := do
  require (ctx.partialBlock.length == ctx.blockSize) .invalidPadding
  let (block, _) ← wcCall (cipherCbc wc .decryption ctx ctx.partialBlock)
  require (!pkcs7Invalid ctx.blockSize block) .invalidPadding
  let plainLen := ctx.blockSize - (block.getD (ctx.blockSize - 1) 0).toNat
  require (decide (plainLen ≤ outputSize)) .bufferTooSmall
  return block.take plainLen

/-- `psa_cipher_finish` on a context. Only the padding branch asks for the IV. -/
def cipherFinish (wc : WcCipher Aes Des3 ChaCha) (ctx : CipherCtx Aes Des3 ChaCha)
    (output : OutBuf) : Except Failure Bytes := do
  require (!(output.isNull && decide (output.size > 0))) .invalidArgument
  if ctx.alg = psaAlgCbcPkcs7 then
    require ctx.ivSet .badState
    match ctx.direction with
    | .encryption => finishPadded wc ctx output.size
    | .decryption => finishUnpadded wc ctx output.size
  else
    require (!((ctx.alg == psaAlgCbcNoPadding || ctx.alg == psaAlgEcbNoPadding) &&
      decide (ctx.partialBlock.length > 0))) .invalidArgument
    return []

/-- `psa_cipher_finish`. -/
def psaCipherFinish (env : CipherEnv Aes Des3 ChaCha)
    (operation : Option (CipherCtx Aes Des3 ChaCha)) (output : OutBuf) (outputLengthNull : Bool) :
    CipherResult × Option (CipherCtx Aes Des3 ChaCha) :=
  if outputLengthNull then (⟨.invalidArgument, []⟩, none)
  else
    match operation with
    | none => (⟨.badState, []⟩, none)
    | some ctx => cipherEnds do
        let bytes ← cipherFinish env.wc ctx output
        return (bytes, none)

/-- `psa_cipher_abort`. -/
def psaCipherAbort (_operation : Option (CipherCtx Aes Des3 ChaCha)) :
    Status × Option (CipherCtx Aes Des3 ChaCha) := (.success, none)

/-! ## What the calls leave -/

/-- The algorithms that need an IV. -/
def algNeedsIv (alg : Algorithm) : Bool :=
  [psaAlgCbcNoPadding, psaAlgCbcPkcs7, psaAlgCtr, psaAlgCfb, psaAlgOfb, psaAlgStreamCipher,
    psaAlgCcmStarNoTag].contains alg

theorem wolfpsaCipherBlockSize_pos (keyType : KeyType) : 0 < wolfpsaCipherBlockSize keyType := by
  unfold wolfpsaCipherBlockSize
  split <;> decide

theorem wolfpsaCipherIvLength_ne_zero {alg : Algorithm} {keyType : KeyType} :
    wolfpsaCipherIvLength alg keyType ≠ 0 ↔ algNeedsIv alg = true := by
  have positive := wolfpsaCipherBlockSize_pos keyType
  unfold wolfpsaCipherIvLength algNeedsIv
  split
  · rename_i listed
    simp only [List.contains_cons, Bool.or_eq_true] at listed ⊢
    constructor
    · intro _
      tauto
    · intro _
      omega
  split
  · rename_i stream
    simp [beq_iff_eq.mp stream, wolfpsaChacha20IvBytes]
  split
  · rename_i star
    simp [beq_iff_eq.mp star]
  · rename_i others stream star
    simp only [List.contains_cons, Bool.or_eq_true] at others
    simp only [List.contains_cons, Bool.or_eq_true]
    tauto

/-- What input changes of a context: the partial block and the objects. -/
def FeedsOnly (ctx ctx' : CipherCtx Aes Des3 ChaCha) : Prop :=
  ∃ partialBlock aes des3 chacha, ctx' =
    { ctx with partialBlock := partialBlock, aes := aes, des3 := des3, chacha := chacha }

namespace FeedsOnly

variable {ctx ctx' ctx'' : CipherCtx Aes Des3 ChaCha}

protected theorem refl (ctx : CipherCtx Aes Des3 ChaCha) : FeedsOnly ctx ctx := ⟨_, _, _, _, rfl⟩

protected theorem trans (first : FeedsOnly ctx ctx') (second : FeedsOnly ctx' ctx'') :
    FeedsOnly ctx ctx'' := by
  obtain ⟨_, _, _, _, rfl⟩ := first
  obtain ⟨_, _, _, _, rfl⟩ := second
  exact ⟨_, _, _, _, rfl⟩

theorem setPartial (fed : FeedsOnly ctx ctx') (block : Bytes) :
    FeedsOnly ctx { ctx' with partialBlock := block } := by
  obtain ⟨_, _, _, _, rfl⟩ := fed
  exact ⟨_, _, _, _, rfl⟩

theorem keepRest (fed : FeedsOnly ctx ctx') (rest : Bytes) :
    FeedsOnly ctx (keepRest ctx' rest) := by
  unfold Source.keepRest
  split
  · exact fed.setPartial rest
  · exact fed

theorem holdBack (fed : FeedsOnly ctx ctx') (rest : Bytes) :
    FeedsOnly ctx (holdBack ctx' rest) := by
  unfold Source.holdBack
  split
  · exact fed.setPartial _
  · exact fed.keepRest rest

end FeedsOnly

/-- A block call that only moves the objects. -/
def CallFeeds (call : BlockCall Aes Des3 ChaCha) : Prop :=
  ∀ {ctx ctx' input output}, call ctx input = .ok (output, ctx') → FeedsOnly ctx ctx'

section

variable {wc : WcCipher Aes Des3 ChaCha} {ctx ctx' : CipherCtx Aes Des3 ChaCha}

theorem callBlocks_feeds (des3 : Des3 → Bytes → Except WcError (Bytes × Des3))
    (aes : Aes → Bytes → Except WcError (Bytes × Aes)) :
    CallFeeds (callBlocks des3 aes : BlockCall Aes Des3 ChaCha) := by
  intro ctx ctx' input output called
  unfold callBlocks at called
  split at called
  · obtain ⟨⟨_, des3⟩, -, ended⟩ := except_bind_ok called
    cases ended
    exact ⟨_, _, _, _, rfl⟩
  · obtain ⟨⟨_, aes⟩, -, ended⟩ := except_bind_ok called
    cases ended
    exact ⟨_, _, _, _, rfl⟩

theorem fillPartialBlock_feeds {call : BlockCall Aes Des3 ChaCha} (feeds : CallFeeds call)
    {input output rest : Bytes}
    (filled : fillPartialBlock call ctx input = .ok (output, ctx', rest)) : FeedsOnly ctx ctx' := by
  unfold fillPartialBlock at filled
  split at filled
  · obtain ⟨⟨_, moved⟩, called, ended⟩ := except_bind_ok filled
    cases ended
    exact (feeds (wcCall_ok_iff.mp called)).setPartial []
  · cases filled
    exact .refl _

theorem wholeBlocks_feeds {call : BlockCall Aes Des3 ChaCha} (feeds : CallFeeds call)
    {input output : Bytes} {length : Nat}
    (processed : wholeBlocks call ctx input length = .ok (output, ctx')) : FeedsOnly ctx ctx' := by
  unfold wholeBlocks at processed
  split at processed
  · exact feeds (wcCall_ok_iff.mp processed)
  · cases processed
    exact .refl _

theorem updateBlocks_feeds {call : BlockCall Aes Des3 ChaCha} (feeds : CallFeeds call)
    {input output : Bytes} {size : Nat} (updated : updateBlocks call ctx input size = .ok (output, ctx')) :
    FeedsOnly ctx ctx' := by
  unfold updateBlocks at updated
  obtain ⟨-, -, updated⟩ := except_bind_ok updated
  split at updated
  · cases updated
    exact (FeedsOnly.refl ctx).setPartial _
  obtain ⟨⟨first, ctx₁, rest⟩, filled, updated⟩ := except_bind_ok updated
  have start := fillPartialBlock_feeds feeds filled
  dsimp only at updated
  unfold updateRest at updated
  split at updated
  · obtain ⟨⟨second, ctx₂⟩, processed, updated⟩ := except_bind_ok updated
    cases updated
    exact (start.trans (wholeBlocks_feeds feeds processed)).keepRest _
  · cases updated
    exact start

theorem updateHeldBack_feeds {call : BlockCall Aes Des3 ChaCha} (feeds : CallFeeds call)
    {input output : Bytes} {size : Nat}
    (updated : updateHeldBack call ctx input size = .ok (output, ctx')) : FeedsOnly ctx ctx' := by
  unfold updateHeldBack at updated
  dsimp only at updated
  split at updated
  · cases updated
    exact (FeedsOnly.refl ctx).setPartial _
  split at updated
  · cases updated
    exact (FeedsOnly.refl ctx).setPartial _
  obtain ⟨-, -, updated⟩ := except_bind_ok updated
  obtain ⟨⟨first, ctx₁, rest⟩, filled, updated⟩ := except_bind_ok updated
  have start := fillPartialBlock_feeds feeds filled
  obtain ⟨⟨second, ctx₂⟩, processed, updated⟩ := except_bind_ok updated
  cases updated
  exact (start.trans (wholeBlocks_feeds feeds processed)).holdBack _

theorem updateAesStream_ok {call : Aes → Bytes → Except WcError (Bytes × Aes)}
    {input output : Bytes} {size : Nat}
    (updated : updateAesStream call ctx input size = .ok (output, ctx')) :
    FeedsOnly ctx ctx' ∧ ctx.ivSet = true := by
  unfold updateAesStream at updated
  obtain ⟨_, given, updated⟩ := except_bind_ok updated
  obtain ⟨-, -, updated⟩ := except_bind_ok updated
  obtain ⟨⟨_, aes⟩, -, ended⟩ := except_bind_ok updated
  cases ended
  exact ⟨⟨_, _, _, _, rfl⟩, require_ok_iff.mp given⟩

theorem updateChacha_ok {input output : Bytes} {size : Nat}
    (updated : updateChacha wc ctx input size = .ok (output, ctx')) :
    FeedsOnly ctx ctx' ∧ ctx.ivSet = true := by
  unfold updateChacha at updated
  obtain ⟨_, given, updated⟩ := except_bind_ok updated
  obtain ⟨-, -, updated⟩ := except_bind_ok updated
  obtain ⟨⟨_, chacha⟩, -, ended⟩ := except_bind_ok updated
  cases ended
  exact ⟨⟨_, _, _, _, rfl⟩, require_ok_iff.mp given⟩

/-- Input is accepted only with the IV the algorithm needs. -/
theorem updateInput_ok {input output : Bytes} {size : Nat}
    (updated : updateInput wc ctx input size = .ok (output, ctx')) :
    FeedsOnly ctx ctx' ∧ (algNeedsIv ctx.alg = true → ctx.ivSet = true) := by
  unfold updateInput at updated
  split_ifs at updated with cbc pkcs7 star ecb ctr cfb ofb stream
  · obtain ⟨_, given, updated⟩ := except_bind_ok updated
    exact ⟨updateBlocks_feeds (callBlocks_feeds _ _) updated, fun _ => require_ok_iff.mp given⟩
  · obtain ⟨_, given, updated⟩ := except_bind_ok updated
    refine ⟨?_, fun _ => require_ok_iff.mp given⟩
    split at updated
    · exact updateBlocks_feeds (callBlocks_feeds _ _) updated
    · exact updateHeldBack_feeds (callBlocks_feeds _ _) updated
  · obtain ⟨feeds, given⟩ := updateAesStream_ok updated
    exact ⟨feeds, fun _ => given⟩
  · refine ⟨updateBlocks_feeds (callBlocks_feeds _ _) updated, fun needs => ?_⟩
    rw [ecb] at needs
    exact absurd needs (by decide)
  · obtain ⟨feeds, given⟩ := updateAesStream_ok updated
    exact ⟨feeds, fun _ => given⟩
  · split at updated
    · obtain ⟨feeds, given⟩ := updateAesStream_ok updated
      exact ⟨feeds, fun _ => given⟩
    · obtain ⟨feeds, given⟩ := updateAesStream_ok updated
      exact ⟨feeds, fun _ => given⟩
  · split at updated
    · obtain ⟨feeds, given⟩ := updateAesStream_ok updated
      exact ⟨feeds, fun _ => given⟩
    · obtain ⟨feeds, given⟩ := updateAesStream_ok updated
      exact ⟨feeds, fun _ => given⟩
  · obtain ⟨feeds, given⟩ := updateChacha_ok updated
    exact ⟨feeds, fun _ => given⟩
  · cases updated

theorem cipherUpdate_ok {input : InBuf} {output : OutBuf} {overlap : Bool} {bytes : Bytes}
    (updated : cipherUpdate wc ctx input output overlap = .ok (bytes, ctx')) :
    (input.length = 0 ∧ ctx' = ctx ∧ bytes = []) ∨
      (0 < input.length ∧ updateInput wc ctx input.bytes output.size = .ok (bytes, ctx')) := by
  unfold cipherUpdate at updated
  obtain ⟨-, -, updated⟩ := except_bind_ok updated
  obtain ⟨-, -, updated⟩ := except_bind_ok updated
  obtain ⟨-, -, updated⟩ := except_bind_ok updated
  obtain ⟨-, -, updated⟩ := except_bind_ok updated
  split at updated
  · rename_i empty
    cases updated
    exact .inl ⟨empty, rfl, rfl⟩
  · exact .inr ⟨by omega, updated⟩

end

/-- The checks on a key hand on what the look-up found. -/
theorem wolfpsaCipherCheckKey_ok {getKeyData : KeyLookup} {key : KeyId} {usage : KeyUsage}
    {alg : Algorithm} {found : KeyAttributes × Bytes}
    (checked : wolfpsaCipherCheckKey getKeyData key usage alg = .ok found) :
    getKeyData key = .ok found := by
  unfold wolfpsaCipherCheckKey at checked
  obtain ⟨⟨attributes, keyData⟩, looked, checked⟩ := except_bind_ok checked
  have same : (pure (attributes, keyData) : Except Failure _) = .ok found := by
    dsimp only at checked
    split_ifs at checked
    all_goals
      simp only [require_bind_ok_iff] at checked
      simp only [checked]
  rw [looked]
  exact same

/-- What a new operation starts with. -/
theorem cipherSetupCtx_ok {env : CipherEnv Aes Des3 ChaCha} {key : KeyId} {alg : Algorithm}
    {usage : KeyUsage} {direction : CipherDirection} {ctx : CipherCtx Aes Des3 ChaCha}
    (granted : cipherSetupCtx env key alg usage direction = .ok ctx) :
    ∃ attributes data, wolfpsaCipherCheckAlg alg = .success ∧
      wolfpsaCipherCheckKey env.getKeyData key usage alg = .ok (attributes, data) ∧
      FeedsOnly (newCipherCtx env.wc attributes alg direction) ctx ∧ ctx.partialBlock = [] := by
  unfold cipherSetupCtx at granted
  obtain ⟨known, granted⟩ := require_bind_ok_iff.mp granted
  obtain ⟨⟨attributes, keyData⟩, checked, granted⟩ := except_bind_ok granted
  obtain ⟨-, -, granted⟩ := except_bind_ok granted
  obtain ⟨-, -, granted⟩ := except_bind_ok granted
  have keyed := wcCall_ok_iff.mp granted
  unfold cipherSetKey at keyed
  refine ⟨attributes, keyData, beq_iff_eq.mp known, checked, ?_⟩
  split at keyed
  · obtain ⟨_, -, ended⟩ := except_bind_ok keyed
    cases ended
    exact ⟨⟨_, _, _, _, rfl⟩, rfl⟩
  split at keyed
  · obtain ⟨_, -, keyed⟩ := except_bind_ok keyed
    obtain ⟨_, -, ended⟩ := except_bind_ok keyed
    cases ended
    exact ⟨⟨_, _, _, _, rfl⟩, rfl⟩
  · obtain ⟨_, -, keyed⟩ := except_bind_ok keyed
    obtain ⟨_, -, ended⟩ := except_bind_ok keyed
    cases ended
    exact ⟨⟨_, _, _, _, rfl⟩, rfl⟩

/-- What an accepted IV changes, and when it is accepted. -/
theorem wolfpsaCipherSetIv_ok {wc : WcCipher Aes Des3 ChaCha} {ctx ctx' : CipherCtx Aes Des3 ChaCha}
    {iv : InBuf} (accepted : wolfpsaCipherSetIv wc ctx iv = .ok ctx') :
    ctx.ivAttempted = false ∧ algNeedsIv ctx.alg = true ∧
      ∃ buffer aes des3 chacha, ctx' = { ctx with
        ivAttempted := true, ivSet := true, iv := buffer, aes := aes, des3 := des3,
        chacha := chacha } := by
  unfold wolfpsaCipherSetIv at accepted
  obtain ⟨_, fresh, accepted⟩ := except_bind_ok accepted
  obtain ⟨_, needs, accepted⟩ := except_bind_ok accepted
  obtain ⟨-, -, accepted⟩ := except_bind_ok accepted
  refine ⟨by simpa using fresh, ?_, ?_⟩
  · have length := require_ok_iff.mp needs
    exact wolfpsaCipherIvLength_ne_zero.mp (by simpa using length)
  split at accepted
  · obtain ⟨-, -, accepted⟩ := except_bind_ok accepted
    obtain ⟨_, -, ended⟩ := except_bind_ok accepted
    cases ended
    exact ⟨_, _, _, _, rfl⟩
  split at accepted
  · obtain ⟨-, -, accepted⟩ := except_bind_ok accepted
    obtain ⟨_, -, ended⟩ := except_bind_ok accepted
    cases ended
    exact ⟨_, _, _, _, rfl⟩
  · obtain ⟨-, -, accepted⟩ := except_bind_ok accepted
    split at accepted
    · obtain ⟨_, -, ended⟩ := except_bind_ok accepted
      cases ended
      exact ⟨_, _, _, _, rfl⟩
    · obtain ⟨_, -, ended⟩ := except_bind_ok accepted
      cases ended
      exact ⟨_, _, _, _, rfl⟩

theorem wolfpsaCipherGenerateIv_ok {env : CipherEnv Aes Des3 ChaCha}
    {ctx ctx' : CipherCtx Aes Des3 ChaCha} {iv : OutBuf} {ivLengthNull : Bool} {bytes : Bytes}
    (generated : wolfpsaCipherGenerateIv env ctx iv ivLengthNull = .ok (bytes, ctx')) :
    ctx.direction = .encryption ∧ wolfpsaCipherSetIv env.wc ctx (.data bytes) = .ok ctx' := by
  unfold wolfpsaCipherGenerateIv at generated
  obtain ⟨-, -, generated⟩ := except_bind_ok generated
  obtain ⟨_, encrypts, generated⟩ := except_bind_ok generated
  obtain ⟨-, -, generated⟩ := except_bind_ok generated
  obtain ⟨-, -, generated⟩ := except_bind_ok generated
  obtain ⟨-, -, generated⟩ := except_bind_ok generated
  obtain ⟨stream, -, generated⟩ := except_bind_ok generated
  obtain ⟨moved, accepted, ended⟩ := except_bind_ok generated
  cases ended
  exact ⟨by simpa using encrypts, accepted⟩

/-! ## Sequences of calls -/

/-- One call of the cipher interface; operations are numbered. -/
inductive CipherCall where
  | encryptSetup (op : Nat) (key : KeyId) (alg : Algorithm)
  | decryptSetup (op : Nat) (key : KeyId) (alg : Algorithm)
  | setIv (op : Nat) (iv : InBuf)
  | generateIv (op : Nat) (iv : OutBuf) (ivLengthNull : Bool)
  | update (op : Nat) (input : InBuf) (output : OutBuf) (overlap outputLengthNull : Bool)
  | finish (op : Nat) (output : OutBuf) (outputLengthNull : Bool)
  | abort (op : Nat)
  deriving DecidableEq

def CipherCall.op : CipherCall → Nat
  | encryptSetup op _ _ | decryptSetup op _ _ | setIv op _ | generateIv op _ _ | update op _ _ _ _
  | finish op _ _ | abort op => op

/-- A call together with the environment it meets. -/
structure CipherEvent (Aes Des3 ChaCha : Type) where
  env : CipherEnv Aes Des3 ChaCha
  call : CipherCall

/-- All operation objects of the application. -/
abbrev CipherState (Aes Des3 ChaCha : Type) := Nat → Option (CipherCtx Aes Des3 ChaCha)

def cipherInit : CipherState Aes Des3 ChaCha := fun _ => none

/-- The call applied to its operation object. -/
def cipherCall (env : CipherEnv Aes Des3 ChaCha) (operation : Option (CipherCtx Aes Des3 ChaCha)) :
    CipherCall → CipherResult × Option (CipherCtx Aes Des3 ChaCha)
  | .encryptSetup _ key alg =>
    let r := psaCipherEncryptSetup env operation key alg
    (⟨r.1, []⟩, r.2)
  | .decryptSetup _ key alg =>
    let r := psaCipherDecryptSetup env operation key alg
    (⟨r.1, []⟩, r.2)
  | .setIv _ iv =>
    let r := psaCipherSetIv env operation iv
    (⟨r.1, []⟩, r.2)
  | .generateIv _ iv ivLengthNull => psaCipherGenerateIv env operation iv ivLengthNull
  | .update _ input output overlap outputLengthNull =>
    psaCipherUpdate env operation input output overlap outputLengthNull
  | .finish _ output outputLengthNull => psaCipherFinish env operation output outputLengthNull
  | .abort _ =>
    let r := psaCipherAbort operation
    (⟨r.1, []⟩, r.2)

def cipherStep (s : CipherState Aes Des3 ChaCha) (e : CipherEvent Aes Des3 ChaCha) :
    CipherResult × CipherState Aes Des3 ChaCha :=
  let r := cipherCall e.env (s e.call.op) e.call
  (r.1, Function.update s e.call.op r.2)

theorem cipherEnds_some {result : Except Failure (Bytes × Option (CipherCtx Aes Des3 ChaCha))}
    {ctx : CipherCtx Aes Des3 ChaCha} (active : (cipherEnds result).2 = some ctx) :
    (cipherEnds result).1.status = .success ∧ ∃ output, result = .ok (output, some ctx) := by
  match result with
  | .error status => cases active
  | .ok (output, operation) =>
    have same : operation = some ctx := active
    exact ⟨rfl, output, by rw [same]⟩

/-- Where the context of an operation that is active after a call comes from. -/
inductive ContextFrom (env : CipherEnv Aes Des3 ChaCha) :
    Option (CipherCtx Aes Des3 ChaCha) → CipherCtx Aes Des3 ChaCha → Prop
  | kept {ctx} : ContextFrom env (some ctx) ctx
  | setup {key alg usage direction ctx'}
      (granted : cipherSetupCtx env key alg usage direction = .ok ctx') : ContextFrom env none ctx'
  | iv {ctx ctx' given} (accepted : wolfpsaCipherSetIv env.wc ctx given = .ok ctx') :
      ContextFrom env (some ctx) ctx'
  | input {ctx ctx' input output overlap bytes}
      (updated : cipherUpdate env.wc ctx input output overlap = .ok (bytes, ctx')) :
      ContextFrom env (some ctx) ctx'

private theorem cipherSetup_contextFrom {env : CipherEnv Aes Des3 ChaCha}
    {operation : Option (CipherCtx Aes Des3 ChaCha)} {key : KeyId} {alg : Algorithm} {usage : KeyUsage}
    {direction : CipherDirection} {ctx' : CipherCtx Aes Des3 ChaCha}
    (active : (cipherSetup env operation key alg usage direction).2 = some ctx') :
    ContextFrom env operation ctx' := by
  unfold cipherSetup at active
  cases operation with
  | some ctx =>
    cases active
    exact .kept
  | none =>
    dsimp only at active
    cases granted : cipherSetupCtx env key alg usage direction with
    | error status =>
      rw [granted] at active
      cases active
    | ok ctx =>
      rw [granted] at active
      cases active
      exact .setup granted

theorem cipherCall_contextFrom {env : CipherEnv Aes Des3 ChaCha}
    {operation : Option (CipherCtx Aes Des3 ChaCha)} {call : CipherCall}
    {ctx' : CipherCtx Aes Des3 ChaCha} (active : (cipherCall env operation call).2 = some ctx') :
    ContextFrom env operation ctx' := by
  cases call with
  | encryptSetup op key alg => exact cipherSetup_contextFrom active
  | decryptSetup op key alg => exact cipherSetup_contextFrom active
  | setIv op iv =>
    cases operation with
    | none => cases active
    | some ctx =>
      dsimp only [cipherCall, psaCipherSetIv] at active
      cases accepted : wolfpsaCipherSetIv env.wc ctx iv with
      | error status =>
        rw [accepted] at active
        cases active
      | ok moved =>
        rw [accepted] at active
        cases active
        exact .iv accepted
  | generateIv op iv ivLengthNull =>
    cases operation with
    | none => cases active
    | some ctx =>
      obtain ⟨-, output, result⟩ := cipherEnds_some active
      obtain ⟨⟨bytes, moved⟩, generated, ended⟩ := except_bind_ok result
      cases ended
      exact .iv (wolfpsaCipherGenerateIv_ok generated).2
  | update op input output overlap outputLengthNull =>
    cases outputLengthNull with
    | true => cases active
    | false =>
      cases operation with
      | none => cases active
      | some ctx =>
        obtain ⟨-, output, result⟩ := cipherEnds_some active
        obtain ⟨⟨bytes, moved⟩, updated, ended⟩ := except_bind_ok result
        cases ended
        exact .input updated
  | finish op output outputLengthNull =>
    cases outputLengthNull with
    | true => cases active
    | false =>
      cases operation with
      | none => cases active
      | some ctx =>
        obtain ⟨-, output, result⟩ := cipherEnds_some active
        obtain ⟨bytes, -, ended⟩ := except_bind_ok result
        cases ended
  | abort op => cases active

end WolfPSA.Source
