import WolfPSA.Source.Aead

/-!
# Authenticated encryption in one call

Embedding of `psa_aead_encrypt` and `psa_aead_decrypt` of `src/psa_aead.c`. XChaCha20-Poly1305 and
Ascon-AEAD128 exist in one call only and go to wolfCrypt directly; every other algorithm runs through the
multipart interface on an operation of its own, its payload held back until the last call. The length
output of `psa_aead_encrypt` is not null.
-/

namespace WolfPSA.Source
open Lib

variable {Aes ChaCha Ascon : Type}

def psaAeadTagMaxSize : Nat := 16

/-- The first bytes behind a pointer. -/
def InBuf.front (n : Nat) : InBuf → InBuf
  | null k => null (min n k)
  | data b => data (b.take n)

/-- The bytes from an offset on. -/
def InBuf.behind (n : Nat) : InBuf → InBuf
  | null k => null (k - n)
  | data b => data (b.drop n)

/-! ## wolfCrypt -/

/-- `ASCON_AUTH_E` stands outside the codes that `wc_error_to_psa_status` knows. -/
inductive AsconError where
  | asconAuthE
  | code (e : WcError)
  deriving DecidableEq, Repr

def asconFailure : AsconError → Failure
  | .asconAuthE => ⟨.invalidSignature, failing⟩
  | .code e => wcFailure e

/-- The wolfCrypt calls behind the two algorithms without a multipart interface. Both directions of
XChaCha20-Poly1305 take the space of the output first, and keep the tag behind the text. -/
structure WcAeadOneShot (Ascon : Type) where
  xchachaEncrypt : (space : Nat) → (plaintext aad nonce : InBuf) → (key : Bytes) → Except WcError Bytes
  xchachaDecrypt : (space : Nat) → (ciphertext aad nonce : InBuf) → (key : Bytes) → Except WcError Bytes
  asconInit : Except WcError Ascon
  asconSetKey : Ascon → (key : Bytes) → Except WcError Ascon
  asconSetNonce : Ascon → (nonce : InBuf) → Except WcError Ascon
  asconSetAd : Ascon → (aad : InBuf) → Except WcError Ascon
  asconEncryptUpdate : Ascon → (plaintext : InBuf) → Except WcError (Bytes × Ascon)
  asconEncryptFinal : Ascon → Except WcError Bytes
  asconDecryptUpdate : Ascon → (ciphertext : InBuf) → Except AsconError (Bytes × Ascon)
  asconDecryptFinal : Ascon → (tag : InBuf) → Except AsconError Unit

/-! ## Algorithms without a multipart interface -/

/-- What the one-shot functions of the two algorithms differ in beside their wolfCrypt calls. -/
structure OneShotAead where
  alg : Algorithm
  keyType : KeyType
  keySize : Nat
  nonceSize : Nat
  tagSize : Nat
  deriving DecidableEq

def xchachaOneShot : OneShotAead := ⟨psaAlgXchacha20Poly1305, psaKeyTypeXchacha20, 32, 24, 16⟩

def asconOneShot : OneShotAead := ⟨psaAlgAsconAead128, psaKeyTypeAscon, 16, 16, 16⟩

/-- The checks of an encryption before its key is looked up. -/
def oneShotEncryptChecks (family : OneShotAead) (alg : Algorithm) (nonceLength plaintextLength : Nat)
    (ciphertextSize : Nat) : Except Failure Unit := do
  require (alg == family.alg) .notSupported
  require (nonceLength == family.nonceSize) .invalidArgument
  require (decide (plaintextLength ≤ sizeMax - family.tagSize)) .invalidArgument
  require (decide (plaintextLength + family.tagSize ≤ ciphertextSize)) .bufferTooSmall

/-- The checks of a decryption before its key is looked up. -/
def oneShotDecryptChecks (family : OneShotAead) (alg : Algorithm) (nonceLength : Nat) (lengthNull : Bool)
    (ciphertextLength plaintextSize : Nat) : Except Failure Unit := do
  require (alg == family.alg) .notSupported
  require (nonceLength == family.nonceSize) .invalidArgument
  require (!lengthNull) .invalidArgument
  require (decide (family.tagSize ≤ ciphertextLength)) .invalidArgument
  require (decide (ciphertextLength - family.tagSize ≤ plaintextSize)) .bufferTooSmall

/-- The key of a one-shot call: its material, when its type, its length and its policy admit the call. -/
def oneShotKey (family : OneShotAead) (getKeyData : KeyLookup) (key : KeyId) (alg : Algorithm)
    (usage : KeyUsage) : Except Failure Bytes := do
  let (attributes, keyData) ← getKeyData key
  require (attributes.type == family.keyType && keyData.length == family.keySize) .invalidArgument
  require (hasUsage attributes.usage usage) .notPermitted
  require (wolfpsaAeadKeyPermitsAlg attributes alg) .notPermitted
  return keyData

/-- `wolfpsa_xchacha_oneshot_encrypt`. -/
def wolfpsaXchachaOneshotEncrypt (getKeyData : KeyLookup) (wc : WcAeadOneShot Ascon) (key : KeyId)
    (alg : Algorithm) (nonce aad plaintext : InBuf) (ciphertextSize : Nat) : Except Failure Bytes := do
  oneShotEncryptChecks xchachaOneShot alg nonce.length plaintext.length ciphertextSize
  let keyData ← oneShotKey xchachaOneShot getKeyData key alg psaKeyUsageEncrypt
  wcCall (wc.xchachaEncrypt ciphertextSize plaintext aad nonce keyData)

/-- `wolfpsa_xchacha_oneshot_decrypt`. -/
def wolfpsaXchachaOneshotDecrypt (getKeyData : KeyLookup) (wc : WcAeadOneShot Ascon) (key : KeyId)
    (alg : Algorithm) (nonce aad ciphertext : InBuf) (plaintextSize : Nat) (lengthNull : Bool) :
    Except Failure Bytes := do
  oneShotDecryptChecks xchachaOneShot alg nonce.length lengthNull ciphertext.length plaintextSize
  let keyData ← oneShotKey xchachaOneShot getKeyData key alg psaKeyUsageDecrypt
  wcCall (wc.xchachaDecrypt plaintextSize ciphertext aad nonce keyData)

/-- The Ascon object of a call: initialised, keyed, with its nonce and its additional data. -/
def asconStart (wc : WcAeadOneShot Ascon) (key : Bytes) (nonce aad : InBuf) : Except WcError Ascon := do
  let ascon ← wc.asconInit
  let ascon ← wc.asconSetKey ascon key
  let ascon ← wc.asconSetNonce ascon nonce
  wc.asconSetAd ascon aad

/-- `wolfpsa_ascon_oneshot_encrypt`. -/
def wolfpsaAsconOneshotEncrypt (getKeyData : KeyLookup) (wc : WcAeadOneShot Ascon) (key : KeyId)
    (alg : Algorithm) (nonce aad plaintext : InBuf) (ciphertextSize : Nat) : Except Failure Bytes := do
  oneShotEncryptChecks asconOneShot alg nonce.length plaintext.length ciphertextSize
  require (wolfpsaCheckWord32Length plaintext.length == .success &&
    wolfpsaCheckWord32Length aad.length == .success) .invalidArgument
  let keyData ← oneShotKey asconOneShot getKeyData key alg psaKeyUsageEncrypt
  let ascon ← wcCall (asconStart wc keyData nonce aad)
  let (ciphertext, ascon) ← wcCall (wc.asconEncryptUpdate ascon plaintext)
  let tag ← wcCall (wc.asconEncryptFinal ascon)
  return ciphertext ++ tag

/-- `wolfpsa_ascon_oneshot_decrypt`. -/
def wolfpsaAsconOneshotDecrypt (getKeyData : KeyLookup) (wc : WcAeadOneShot Ascon) (key : KeyId)
    (alg : Algorithm) (nonce aad ciphertext : InBuf) (plaintextSize : Nat) (lengthNull : Bool) :
    Except Failure Bytes := do
  oneShotDecryptChecks asconOneShot alg nonce.length lengthNull ciphertext.length plaintextSize
  let ctLen := ciphertext.length - asconOneShot.tagSize
  require (wolfpsaCheckWord32Length ctLen == .success &&
    wolfpsaCheckWord32Length aad.length == .success) .invalidArgument
  let keyData ← oneShotKey asconOneShot getKeyData key alg psaKeyUsageDecrypt
  let ascon ← wcCall (asconStart wc keyData nonce aad)
  let (plaintext, ascon) ← (wc.asconDecryptUpdate ascon (ciphertext.front ctLen)).mapError asconFailure
  (wc.asconDecryptFinal ascon (ciphertext.behind ctLen)).mapError asconFailure
  return plaintext

/-! ## Through the multipart interface -/

/-- The calls that both directions make behind their setup: lengths for CCM, nonce, additional data and the
payload, which is buffered as no output is given. A failure ends the operation. -/
def aeadFeed (env : AeadEnv Aes ChaCha) (operation : Option (AeadCtx Aes ChaCha)) (alg : Algorithm)
    (nonce aad payload : InBuf) (lengthNull : Bool) : Except Failure (Option (AeadCtx Aes ChaCha)) := do
  let declared := if psaAlgAeadEqual alg psaAlgCcm then
      psaAeadSetLengths operation (BitVec.ofNat 64 aad.length) (BitVec.ofNat 64 payload.length)
    else (.success, operation)
  ensure declared.1
  let named := psaAeadSetNonce declared.2 nonce
  ensure named.1
  let associated := psaAeadUpdateAd env named.2 aad
  ensure associated.1
  let updated := psaAeadUpdate env associated.2 payload ⟨true, 0⟩ lengthNull
  ensure updated.1.status
  return updated.2

/-- `psa_aead_encrypt` past the algorithms without a multipart interface. -/
def aeadEncryptOneShot (env : AeadEnv Aes ChaCha) (key : KeyId) (alg : Algorithm)
    (nonce aad plaintext : InBuf) (ciphertext : OutBuf) : Except Failure Bytes := do
  let setup := wolfpsaAeadSetup env none key alg psaKeyUsageEncrypt
  ensure setup.1
  let operation ← aeadFeed env setup.2 alg nonce aad plaintext false
  let neededTagLen := psaAlgAeadGetTagLength alg
  require (decide (neededTagLen ≤ ciphertext.size) &&
    decide (plaintext.length ≤ ciphertext.size - neededTagLen)) .bufferTooSmall
  let finished := psaAeadFinish env operation ciphertext ⟨false, psaAeadTagMaxSize⟩ false
  ensure finished.1.status
  require (decide (finished.1.output.length + finished.1.tag.length ≤ ciphertext.size)) .bufferTooSmall
  return finished.1.output ++ finished.1.tag

/-- `psa_aead_decrypt` past the algorithms without a multipart interface. -/
def aeadDecryptOneShot (env : AeadEnv Aes ChaCha) (key : KeyId) (alg : Algorithm)
    (nonce aad ciphertext : InBuf) (plaintext : OutBuf) (lengthNull : Bool) : Except Failure Bytes := do
  let setup := wolfpsaAeadSetup env none key alg psaKeyUsageDecrypt
  ensure setup.1
  let tagLength := psaAlgAeadGetTagLength alg
  require (tagLength != 0 && decide (tagLength ≤ ciphertext.length)) .invalidArgument
  let ctLen := ciphertext.length - tagLength
  let operation ← aeadFeed env setup.2 alg nonce aad (ciphertext.front ctLen) lengthNull
  let verified := psaAeadVerify env operation plaintext (ciphertext.behind ctLen) lengthNull
  ensure verified.1.status
  return verified.1.output

/-- `psa_aead_encrypt`: the ciphertext with the tag behind it. -/
def psaAeadEncrypt (env : AeadEnv Aes ChaCha) (wc : WcAeadOneShot Ascon) (key : KeyId) (alg : Algorithm)
    (nonce aad plaintext : InBuf) (ciphertext : OutBuf) : Except Failure Bytes :=
  if psaAlgAeadEqual alg psaAlgXchacha20Poly1305 then
    wolfpsaXchachaOneshotEncrypt env.getKeyData wc key alg nonce aad plaintext ciphertext.size
  else if psaAlgAeadEqual alg psaAlgAsconAead128 then
    wolfpsaAsconOneshotEncrypt env.getKeyData wc key alg nonce aad plaintext ciphertext.size
  else aeadEncryptOneShot env key alg nonce aad plaintext ciphertext

/-- `psa_aead_decrypt` of a ciphertext with its tag behind it. -/
def psaAeadDecrypt (env : AeadEnv Aes ChaCha) (wc : WcAeadOneShot Ascon) (key : KeyId) (alg : Algorithm)
    (nonce aad ciphertext : InBuf) (plaintext : OutBuf) (lengthNull : Bool) : Except Failure Bytes :=
  if psaAlgAeadEqual alg psaAlgXchacha20Poly1305 then
    wolfpsaXchachaOneshotDecrypt env.getKeyData wc key alg nonce aad ciphertext plaintext.size lengthNull
  else if psaAlgAeadEqual alg psaAlgAsconAead128 then
    wolfpsaAsconOneshotDecrypt env.getKeyData wc key alg nonce aad ciphertext plaintext.size lengthNull
  else aeadDecryptOneShot env key alg nonce aad ciphertext plaintext lengthNull

end WolfPSA.Source
