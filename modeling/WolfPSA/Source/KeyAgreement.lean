import WolfPSA.Source.SignatureCalls
import WolfPSA.Source.KeyDerivationOutput

/-!
# Key agreement

Embedding of `src/psa_asymmetric_api.c:1379-1700` and of the two Montgomery back ends of
`psa_montgomery.c`: the shared secret under a key's policy, `psa_raw_key_agreement` and
`psa_key_agreement`, and their calls next to the derivation calls that use the same secret. The
build has `HAVE_ECC_DHE`, blinding and both Montgomery curves. wolfCrypt's key objects are opaque.
-/

namespace WolfPSA.Source

/-- wolfCrypt's ECDH on Weierstrass curves; `sharedSecret` takes the room for its output. -/
structure WcEcdh where
  Key : Type
  init : Except WcError Unit
  initRng : Except WcError Unit
  importPrivateKey : Bytes → EccCurve → Except WcError Key
  setRng : Key → Except WcError Key
  makePub : Key → Except WcError Key
  importX963 : Bytes → EccCurve → Except WcError Key
  sharedSecret : Key → Key → Nat → Except WcError Bytes

/-- wolfCrypt's X25519 or X448. -/
structure WcMontgomery where
  Key : Type
  init : Except WcError Unit
  setRng : Except WcError Unit
  importPrivate : Bytes → Except WcError Key
  importPublic : Bytes → Except WcError Key
  sharedSecret : Key → Key → Nat → Except WcError Bytes

/-- wolfCrypt's key agreement. -/
structure WcAgree where
  build : EccBuild
  ecdh : WcEcdh
  x25519 : WcMontgomery
  x448 : WcMontgomery

def curve25519KeySize : Nat := 32
def curve448KeySize : Nat := 56

/-- The peer point of X25519 with its top bit cleared. -/
def maskX25519Peer (peer : Bytes) : Bytes :=
  peer.take (curve25519KeySize - 1) ++ (peer.drop (curve25519KeySize - 1)).map (· &&& 127)

/-- The body of `psa_asymmetric_key_agreement_x25519` and `psa_asymmetric_key_agreement_x448`,
which differ in the key size and in the bit of the peer point that X25519 clears. -/
def montgomeryAgreement (wc : WcMontgomery) (keySize : Nat) (maskPeer : Bytes → Bytes)
    (privateKey : Bytes) (peerKey : InBuf) (outputSize : Nat) : Except Failure Bytes := do
  require (!peerKey.isNull) .invalidArgument
  require (privateKey.length == keySize && peerKey.length == keySize) .invalidArgument
  require (keySize ≤ outputSize) .bufferTooSmall
  require (fitWord32 [outputSize]) .invalidArgument
  wcCall wc.init
  wcCall wc.setRng
  let priv ← wcCall (wc.importPrivate privateKey)
  let pub ← wcCall (wc.importPublic (maskPeer peerKey.bytes))
  wcCall (wc.sharedSecret priv pub outputSize)

def psaAsymmetricKeyAgreementX25519 (wc : WcMontgomery) (privateKey : Bytes) (peerKey : InBuf)
    (outputSize : Nat) : Except Failure Bytes :=
  montgomeryAgreement wc curve25519KeySize maskX25519Peer privateKey peerKey outputSize

def psaAsymmetricKeyAgreementX448 (wc : WcMontgomery) (privateKey : Bytes) (peerKey : InBuf)
    (outputSize : Nat) : Except Failure Bytes :=
  montgomeryAgreement wc curve448KeySize id privateKey peerKey outputSize

/-- The Weierstrass part of `wolfpsa_key_agreement_secret`. -/
def ecdhAgreement (build : EccBuild) (wc : WcEcdh) (attributes : KeyAttributes) (keyData : Bytes)
    (peerKey : InBuf) (outputSize : Nat) : Except Failure Bytes := do
  let curve ← requireCurve build attributes.type attributes.bits.toNat
  let expectedSecretLen := psaRawKeyAgreementOutputSize attributes.type attributes.bits
  require (expectedSecretLen != 0) .notSupported
  require (expectedSecretLen ≤ outputSize) .bufferTooSmall
  require (!(peerKey.isNull && decide (peerKey.length > 0))) .invalidArgument
  let expectedPeerLen := 1 + 2 * psaBitsToBytes attributes.bits.toNat
  require (peerKey.length == expectedPeerLen && peerKey.bytes.head? == some 0x04) .invalidArgument
  wcCall wc.init
  wcCall wc.initRng
  let priv ← wcCall (wc.importPrivateKey keyData curve >>= wc.setRng >>= wc.makePub)
  let pub ← wcCall (wc.importX963 peerKey.bytes curve)
  wcCall (wc.sharedSecret priv pub outputSize)

/-- `wolfpsa_key_agreement_secret`. -/
def wolfpsaKeyAgreementSecret (getKeyData : KeyLookup) (wc : WcAgree) (alg : Algorithm)
    (privateKey : KeyId) (peerKey : InBuf) (outputSize : Nat) : Except Failure Bytes := do
  require (psaAlgKeyAgreementGetBase alg == psaAlgEcdh) .notSupported
  let found ← wolfpsaAsymmetricCheckKey getKeyData privateKey psaKeyUsageDerive alg
  let type := found.1.type
  require (psaKeyTypeIsEccKeyPair type) .invalidArgument
  require (fitWord32 [found.2.length, peerKey.length, outputSize]) .invalidArgument
  if psaKeyTypeEccGetFamily type == psaEccFamilyMontgomery then
    if found.1.bits.toNat == 255 then
      psaAsymmetricKeyAgreementX25519 wc.x25519 found.2 peerKey outputSize
    else if found.1.bits.toNat == 448 then
      psaAsymmetricKeyAgreementX448 wc.x448 found.2 peerKey outputSize
    else refuse .notSupported
  else ecdhAgreement wc.build wc.ecdh found.1 found.2 peerKey outputSize

/-! ## Entry points -/

variable {Hmac Cmac : Type}

/-- What an agreement or derivation call meets. The shared secret that `env.kdf` answers with is
replaced by `wolfpsa_key_agreement_secret`; `alloc` is the buffer of `psa_key_agreement`. -/
structure AgreeEnv (Hmac Cmac : Type) where
  kdf : KdfEnv Hmac Cmac
  wc : WcAgree
  alloc : Bool

def AgreeEnv.kdfEnv (env : AgreeEnv Hmac Cmac) : KdfEnv Hmac Cmac :=
  { env.kdf with keyAgreementSecret := wolfpsaKeyAgreementSecret env.kdf.getKeyData env.wc }

/-- `psa_raw_key_agreement`. -/
def psaRawKeyAgreement (env : AgreeEnv Hmac Cmac) (alg : Algorithm) (privateKey : KeyId)
    (peerKey : InBuf) (output : OutBuf) (lengthIsNull : Bool) : Except Failure Bytes := do
  require (!(lengthIsNull || (output.isNull && output.size != 0))) .invalidArgument
  require (psaAlgIsRawKeyAgreement alg) .invalidArgument
  wolfpsaKeyAgreementSecret env.kdf.getKeyData env.wc alg privateKey peerKey output.size

/-- The next derivation call, made only after a success and under a condition. -/
def kdfThen (env : KdfEnv Hmac Cmac) (condition : Bool) (call : KdfCall)
    (before : KdfResult × KdfOperation) : KdfResult × KdfOperation :=
  if before.1.status = some .success ∧ condition = true then kdfStep before.2 ⟨env, call⟩
  else before

/-- `wolfpsa_key_agreement_kdf`: a derivation of its own, aborted at the end. -/
def wolfpsaKeyAgreementKdf (env : KdfEnv Hmac Cmac) (privateKey : KeyId) (peerKey : InBuf)
    (alg : Algorithm) (attributes : KeyAttributes) : KdfResult :=
  let kdfAlg := psaAlgKeyAgreementGetKdf alg
  let started := kdfStep none ⟨env, .setup alg⟩
  let salted := kdfThen env (psaAlgIsHkdf kdfAlg || psaAlgIsHkdfExtract kdfAlg)
    (.inputBytes .salt (.null 0)) started
  let agreed := kdfThen env true (.keyAgreement .secret privateKey peerKey) salted
  let informed := kdfThen env (psaAlgIsHkdf kdfAlg || psaAlgIsHkdfExpand kdfAlg)
    (.inputBytes .info (.null 0)) agreed
  (kdfThen env true (.outputKey (some attributes) false) informed).1

/-- The raw branch of `psa_key_agreement`: the secret becomes a key. -/
def rawAgreementKey (env : AgreeEnv Hmac Cmac) (privateKey : KeyId) (peerKey : InBuf)
    (alg : Algorithm) (attributes : KeyAttributes) : Except Failure (Status × KeyId) := do
  require (attributes.type == psaKeyTypeDerive || attributes.type == psaKeyTypeRawData ||
    attributes.type == psaKeyTypeHmac || attributes.type == psaKeyTypePassword) .invalidArgument
  let privAttr ← env.kdf.getKeyAttributes privateKey
  let secretLen := psaRawKeyAgreementOutputSize privAttr.type privAttr.bits
  require (secretLen != 0) .notSupported
  require env.alloc .insufficientMemory
  let secret ← wolfpsaKeyAgreementSecret env.kdf.getKeyData env.wc alg privateKey peerKey secretLen
  return env.kdf.importKey attributes secret

/-- `psa_key_agreement`; no attributes stand for a NULL `attributes` or `key` pointer. -/
def psaKeyAgreement (env : AgreeEnv Hmac Cmac) (privateKey : KeyId) (peerKey : InBuf)
    (alg : Algorithm) (attributes : Option KeyAttributes) : KdfResult :=
  match attributes with
  | none => .ofStatus .invalidArgument
  | some attributes =>
    if !psaAlgIsKeyAgreement alg then .ofStatus .notSupported
    else if !psaAlgIsRawKeyAgreement alg then
      wolfpsaKeyAgreementKdf env.kdfEnv privateKey peerKey alg attributes
    else
      match rawAgreementKey env privateKey peerKey alg attributes with
      | .error status => .ofStatus status.val
      | .ok imported => ⟨some imported.1, [], imported.2⟩

/-! ## Runs -/

/-- A call of the agreement interface, or of the derivation interface on operation `op`. -/
inductive AgreementCall where
  | rawKeyAgreement (alg : Algorithm) (privateKey : KeyId) (peerKey : InBuf) (output : OutBuf)
      (lengthIsNull : Bool)
  | keyAgreement (privateKey : KeyId) (peerKey : InBuf) (alg : Algorithm)
      (attributes : Option KeyAttributes)
  | derivation (op : Nat) (call : KdfCall)

structure AgreementEvent (Hmac Cmac : Type) where
  env : AgreeEnv Hmac Cmac
  call : AgreementCall

abbrev AgreementState := Nat → KdfOperation

def agreementInit : AgreementState := fun _ => none

/-- The result of an agreement call in the form of a derivation call's. -/
def agreementResult : Except Failure Bytes → KdfResult
  | .error status => .ofStatus status.val
  | .ok bytes => ⟨some .success, bytes, psaKeyIdNull⟩

/-- One call. Only derivation calls have an operation to change. -/
def agreementStep (s : AgreementState) (e : AgreementEvent Hmac Cmac) :
    KdfResult × AgreementState :=
  match e.call with
  | .rawKeyAgreement alg privateKey peerKey output lengthIsNull =>
    (agreementResult (psaRawKeyAgreement e.env alg privateKey peerKey output lengthIsNull), s)
  | .keyAgreement privateKey peerKey alg attributes =>
    (psaKeyAgreement e.env privateKey peerKey alg attributes, s)
  | .derivation op call =>
    ((kdfStep (s op) ⟨e.env.kdfEnv, call⟩).1,
      Function.update s op (kdfStep (s op) ⟨e.env.kdfEnv, call⟩).2)

end WolfPSA.Source
