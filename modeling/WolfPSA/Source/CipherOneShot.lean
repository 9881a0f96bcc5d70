import WolfPSA.Source.Cipher

/-!
# One-shot encryption and decryption

Embedding of `psa_cipher_encrypt` and `psa_cipher_decrypt` of `src/psa_cipher.c`, and of the cipher output
sizes of `wolfpsa/psa/crypto_sizes.h`. The operation of a one-shot call is its own, so it is a context that
is handed on.
-/

namespace WolfPSA.Source

variable {Aes Des3 ChaCha : Type}

/-! ## Output sizes -/

def psaAlgXts : Algorithm := 0x0440ff00

/-- `PSA_ROUND_UP_TO_MULTIPLE` in `size_t`. -/
def psaRoundUpToMultiple (blockSize length : Nat) : Nat :=
  (length + blockSize - 1) % 2 ^ 64 / blockSize * blockSize

/-- `PSA_CIPHER_IV_LENGTH`. -/
def psaCipherIvLength (keyType : KeyType) (alg : Algorithm) : Nat :=
  if psaBlockCipherBlockLength keyType > 1 ∧ [psaAlgCtr, psaAlgCfb, psaAlgOfb, psaAlgXts,
      psaAlgCbcNoPadding, psaAlgCbcPkcs7].contains alg then psaBlockCipherBlockLength keyType
  else if keyType == psaKeyTypeChacha20 && alg == psaAlgStreamCipher then 12
  else if alg == psaAlgCcmStarNoTag then 13
  else 0

/-- `PSA_CIPHER_ENCRYPT_OUTPUT_SIZE`. -/
def psaCipherEncryptOutputSize (keyType : KeyType) (alg : Algorithm) (inputLength : Nat) : Nat :=
  if alg == psaAlgCbcPkcs7 then
    if psaBlockCipherBlockLength keyType ≠ 0 then
      (psaRoundUpToMultiple (psaBlockCipherBlockLength keyType) (inputLength + 1) +
        psaCipherIvLength keyType alg) % 2 ^ 64
    else 0
  else if psaAlgIsCipher alg then (inputLength + psaCipherIvLength keyType alg) % 2 ^ 64
  else 0

/-- `PSA_CIPHER_DECRYPT_OUTPUT_SIZE`. -/
def psaCipherDecryptOutputSize (keyType : KeyType) (alg : Algorithm) (inputLength : Nat) : Nat :=
  if psaAlgIsCipher alg && keyType &&& psaKeyTypeCategoryMask == psaKeyTypeCategorySymmetric then
    inputLength
  else 0

/-- `PSA_CIPHER_UPDATE_OUTPUT_SIZE`. -/
def psaCipherUpdateOutputSize (keyType : KeyType) (alg : Algorithm) (inputLength : Nat) : Nat :=
  if psaAlgIsCipher alg then
    if psaBlockCipherBlockLength keyType ≠ 0 then
      if alg == psaAlgCbcPkcs7 || alg == psaAlgCbcNoPadding || alg == psaAlgEcbNoPadding then
        psaRoundUpToMultiple (psaBlockCipherBlockLength keyType) inputLength
      else inputLength
    else 0
  else 0

/-- `PSA_CIPHER_FINISH_OUTPUT_SIZE`. -/
def psaCipherFinishOutputSize (keyType : KeyType) (alg : Algorithm) : Nat :=
  if psaAlgIsCipher alg then
    if alg == psaAlgCbcPkcs7 then psaBlockCipherBlockLength keyType else 0
  else 0

/-! ## Calls -/

/-- The comparison of the two declared ranges of a one-shot call. -/
def rangesOverlap (input : InBuf) (output : OutBuf) (overlap : Bool) : Bool :=
  !input.isNull && !output.isNull && decide (input.length > 0) && decide (output.size > 0) && overlap

/-- The IV that `psa_cipher_encrypt` generates, when the algorithm has one. -/
def oneShotGenerateIv (env : CipherEnv Aes Des3 ChaCha) (ctx : CipherCtx Aes Des3 ChaCha)
    (outputSize : Nat) : Except Failure (Bytes × CipherCtx Aes Des3 ChaCha) :=
  let ivLen := wolfpsaCipherIvLength ctx.alg ctx.keyType
  if ivLen ≠ 0 then do
    require (decide (ivLen ≤ outputSize)) .bufferTooSmall
    wolfpsaCipherGenerateIv env ctx ⟨false, aesBlockSize⟩ false
  else .ok ([], ctx)

/-- The body of `psa_cipher_encrypt`. -/
def cipherEncryptOneShot (env : CipherEnv Aes Des3 ChaCha) (key : KeyId) (alg : Algorithm)
    (input : InBuf) (output : OutBuf) (overlap outputLengthNull : Bool) : Except Failure Bytes := do
  require (!outputLengthNull) .invalidArgument
  require (!(output.isNull && decide (output.size > 0))) .invalidArgument
  require (!rangesOverlap input output overlap) .notSupported
  let ctx ← cipherSetupCtx env key alg psaKeyUsageEncrypt .encryption
  let (iv, ctx) ← oneShotGenerateIv env ctx output.size
  let (body, ctx) ← cipherUpdate env.wc ctx input ⟨output.isNull, output.size - iv.length⟩ false
  let last ← cipherFinish env.wc ctx ⟨output.isNull, output.size - iv.length - body.length⟩
  return iv ++ body ++ last

/-- The IV at the front of the input of `psa_cipher_decrypt`, when the algorithm has one: the context and
the input left. -/
def oneShotTakeIv (env : CipherEnv Aes Des3 ChaCha) (ctx : CipherCtx Aes Des3 ChaCha) (input : InBuf) :
    Except Failure (CipherCtx Aes Des3 ChaCha × InBuf) :=
  let ivLen := wolfpsaCipherIvLength ctx.alg ctx.keyType
  if ivLen ≠ 0 then do
    require (decide (ivLen ≤ input.length)) .invalidArgument
    let ctx ← wolfpsaCipherSetIv env.wc ctx (.data (input.bytes.take ivLen))
    return (ctx, .data (input.bytes.drop ivLen))
  else .ok (ctx, input)

/-- The body of `psa_cipher_decrypt`. -/
def cipherDecryptOneShot (env : CipherEnv Aes Des3 ChaCha) (key : KeyId) (alg : Algorithm)
    (input : InBuf) (output : OutBuf) (overlap outputLengthNull : Bool) : Except Failure Bytes := do
  require (!outputLengthNull) .invalidArgument
  require (!(output.isNull && decide (output.size > 0))) .invalidArgument
  require (!(input.isNull && decide (input.length > 0))) .invalidArgument
  require (!rangesOverlap input output overlap) .notSupported
  let ctx ← cipherSetupCtx env key alg psaKeyUsageDecrypt .decryption
  let (ctx, rest) ← oneShotTakeIv env ctx input
  let (body, ctx) ← cipherUpdate env.wc ctx rest output false
  let last ← cipherFinish env.wc ctx ⟨output.isNull, output.size - body.length⟩
  return body ++ last

/-- The result of a one-shot call. -/
def oneShotResult : Except Failure Bytes → CipherResult
  | .error status => ⟨status.val, []⟩
  | .ok bytes => ⟨.success, bytes⟩

def psaCipherEncrypt (env : CipherEnv Aes Des3 ChaCha) (key : KeyId) (alg : Algorithm) (input : InBuf)
    (output : OutBuf) (overlap outputLengthNull : Bool) : CipherResult :=
  oneShotResult (cipherEncryptOneShot env key alg input output overlap outputLengthNull)

def psaCipherDecrypt (env : CipherEnv Aes Des3 ChaCha) (key : KeyId) (alg : Algorithm) (input : InBuf)
    (output : OutBuf) (overlap outputLengthNull : Bool) : CipherResult :=
  oneShotResult (cipherDecryptOneShot env key alg input output overlap outputLengthNull)

end WolfPSA.Source
