import WolfPSA.Source.ExportSizes
import WolfPSA.Source.ItsTransform
import WolfPSA.Source.KeyOutputs

/-!
# Key wrapping

`src/psa_key_wrap.c`: a key leaves the store encrypted under another key, and comes back. The calls
of wolfCrypt are parameters; they see lengths cast to `word32` and return an `int`.
-/

namespace WolfPSA.Source
open Lib Prog

def psaAlgCategoryKeyWrap : Algorithm := 0x0b000000
def psaAlgKw : Algorithm := 0x0b400100
def psaAlgKwp : Algorithm := 0x0bc00200
def psaAlgIsKeyWrap (alg : Algorithm) : Bool := alg &&& 0x7f000000 == psaAlgCategoryKeyWrap

def psaKeyUsageWrap : KeyUsage := 0x00010000
def psaKeyUsageUnwrap : KeyUsage := 0x00020000

/-! ## wolfCrypt -/

/-- The negative return codes of `wc_AesKeyUnWrap`. -/
inductive UnwrapError where
  | badKeywrapIvE
  | wc (e : WcError)

/-- `wc_AesKeyWrap` and `wc_AesKeyUnWrap` on the bytes and the capacity they are given. Success
returns the number of bytes written; `errorOf` reads a negative `int` as an error code. -/
structure WcKeyWrap where
  aesKeyWrap : (kek plain : Bytes) → (outSz : Nat) → Except WcError Bytes
  aesKeyUnWrap : (kek wrapped : Bytes) → (outSz : Nat) → Except UnwrapError Bytes
  errorOf : Int → UnwrapError

def UnwrapError.failure : UnwrapError → Failure
  | .badKeywrapIvE => ⟨.invalidSignature, failing⟩
  | .wc e => wcFailure e

/-- `wc_error_to_psa_status` on any code. -/
def UnwrapError.plainFailure : UnwrapError → Failure
  | .badKeywrapIvE => wcFailure .other
  | .wc e => wcFailure e

/-! ## The calls -/

/-- The wrapping key: an AES key with the usage and the algorithm. -/
def loadWrappingKey (wrappingKey : KeyId) (usage : KeyUsage) (alg : Algorithm) :
    KeyProg (Except Failure Bytes) := do
  match ← wolfpsaGetKeyData wrappingKey with
  | .error status => pure (.error status)
  | .ok (wrapAttr, kek) =>
    if wrapAttr.type ≠ psaKeyTypeAes then pure (.error ⟨.invalidArgument, failing⟩)
    else if wrapAttr.usage &&& usage = 0 then pure (.error ⟨.notPermitted, failing⟩)
    else if !wolfpsaKeyPermitsAlg wrapAttr alg then pure (.error ⟨.notPermitted, failing⟩)
    else pure (.ok kek)

/-- Only `PSA_ALG_KW` is implemented. -/
def keyWrapAlg (alg : Algorithm) : Except Failure Unit :=
  if !psaAlgIsKeyWrap alg then .error ⟨.invalidArgument, failing⟩
  else if alg = psaAlgKwp then .error ⟨.notSupported, failing⟩
  else if alg ≠ psaAlgKw then .error ⟨.invalidArgument, failing⟩
  else .ok ()

/-- The buffer into which `psa_wrap_key` exports the key. -/
def exportBufferSize (config : ExportConfig) (attributes : KeyAttributes) : Nat :=
  let plainMax := psaExportKeyOutputSize attributes.type attributes.bits.toNat
  if plainMax = 0 then psaExportKeyPairOrPublicMaxSize config else plainMax

/-- `psa_wrap_key` behind the export. -/
def wrapPlaintext (crypt : WcKeyWrap) (kek plaintext : Bytes) (dataSize : Nat) :
    Except Failure Bytes :=
  if plaintext.length < 16 ∨ plaintext.length % 8 ≠ 0 then .error ⟨.invalidArgument, failing⟩
  else if dataSize < plaintext.length + 8 then .error ⟨.bufferTooSmall, failing⟩
  else
    match crypt.aesKeyWrap (kek.take (toWord32 kek.length))
      (plaintext.take (toWord32 plaintext.length)) (toWord32 dataSize) with
    | .error e => .error (wcFailure e)
    | .ok out =>
      if toInt32 out.length < 0 then .error (crypt.errorOf (toInt32 out.length)).plainFailure
      else .ok out

/-- `psa_wrap_key` into a buffer of `dataSize` bytes. -/
def psaWrapKey (config : ExportConfig) (crypt : WcKeyWrap) (wrappingKey : KeyId) (alg : Algorithm)
    (key : KeyId) (dataSize : Nat) : KeyProg (Except Failure Bytes) :=
  match keyWrapAlg alg with
  | .error status => pure (.error status)
  | .ok () => do
    match ← loadWrappingKey wrappingKey psaKeyUsageWrap alg with
    | .error status => pure (.error status)
    | .ok kek =>
      match ← psaGetKeyAttributes key with
      | .error status => pure (.error status)
      | .ok targetAttr =>
        let plainMax := exportBufferSize config targetAttr
        if !(← xmalloc .plaintext) then pure (.error ⟨.insufficientMemory, failing⟩)
        else
          match ← psaExportKey key plainMax with
          | .error status => pure (.error status)
          | .ok plaintext => pure (wrapPlaintext crypt kek plaintext dataSize)

/-- `wc_AesKeyUnWrap` as `psa_unwrap_key` calls it. -/
def unwrapPlaintext (crypt : WcKeyWrap) (kek data : Bytes) : Except Failure Bytes :=
  match crypt.aesKeyUnWrap (kek.take (toWord32 kek.length)) (data.take (toWord32 data.length))
    (toWord32 (data.length - 8)) with
  | .error e => .error e.failure
  | .ok plaintext =>
    if toInt32 plaintext.length < 0 then
      .error (crypt.errorOf (toInt32 plaintext.length)).failure
    else .ok plaintext

/-- `psa_unwrap_key`. -/
def psaUnwrapKey (cfg : ImportConfig) (crypt : WcKeyWrap) (attributes : KeyAttributes)
    (wrappingKey : KeyId) (alg : Algorithm) (data : Bytes) : KeyProg (Status × KeyId) :=
  match keyWrapAlg alg with
  | .error status => pure (status.val, psaKeyIdNull)
  | .ok () =>
    if data.length < 24 ∨ data.length % 8 ≠ 0 then pure (.invalidArgument, psaKeyIdNull)
    else do
      match ← loadWrappingKey wrappingKey psaKeyUsageUnwrap alg with
      | .error status => pure (status.val, psaKeyIdNull)
      | .ok kek =>
        if !(← xmalloc .plaintext) then pure (.insufficientMemory, psaKeyIdNull)
        else
          match unwrapPlaintext crypt kek data with
          | .error status => pure (status.val, psaKeyIdNull)
          | .ok plaintext =>
            let (status, key) ← psaImportKey cfg attributes plaintext
            if status ≠ .success then pure (status, psaKeyIdNull) else pure (status, key)

end WolfPSA.Source
