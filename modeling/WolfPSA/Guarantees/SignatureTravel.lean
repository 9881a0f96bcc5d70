import WolfPSA.Guarantees.HashBinding
import WolfPSA.Guarantees.PublicHalves

/-!
# Signatures between two processes

What `psa_sign_message` and `psa_sign_hash` produce under a key pair of one process is accepted by
`psa_verify_message` and `psa_verify_hash` in any other that holds the pair or its exported public half
under a policy for it, with a wolfCrypt whose schemes are correct.
-/

namespace WolfPSA.Guarantees
open Lib Source

/-! ## wolfCrypt

Each scheme is correct for matching keys: what the one signs verifies under the other. -/

/-- A signature that fits its buffer. -/
structure SignatureFits (signature : Bytes) (size : Nat) : Prop where
  nonempty : signature ≠ []
  room : signature.length ≤ size

structure RsaMatch (s v : WcRsa) (key : s.Key) (half : v.Key) : Prop where
  ssl : ∀ {input size signature}, s.sslSign input size key = .ok signature →
    SignatureFits signature size ∧ signature.length = v.encryptSize half ∧
      ∀ hashType, v.sslVerify signature half hashType = .ok input
  pss : ∀ {hash size hashType signature},
    s.pssSign hash size hashType (wcPsaGetMgf hashType) key = .ok signature →
    SignatureFits signature size ∧ signature.length = v.encryptSize half ∧ ∀ discover, ∃ decoded,
      v.pssVerify signature hashType (wcPsaGetMgf hashType) discover half = .ok decoded ∧
        decoded ≠ [] ∧ v.pssCheckPadding hash decoded hashType discover half = true

/-- RSA in a signing and in a verifying wolfCrypt, and in the one that exports the public key. -/
structure LawfulRsa (wc : WcRsaPublic) (s v : WcRsa) : Prop where
  ready : v.init = .ok ()
  digests : v.maxDigestSize = s.maxDigestSize ∧ v.getCtcHashOid = s.getCtcHashOid ∧
    v.encodeSignature = s.encodeSignature
  pair : ∀ {data key}, s.privateKeyDecode data = .ok key →
    ∃ half, v.privateKeyDecode data = .ok half ∧ RsaMatch s v key half
  half : ∀ {data key exporter n e}, s.privateKeyDecode data = .ok key →
    wc.privateKeyDecode data = .ok exporter →
    wc.flattenPublicKey exporter (wc.encryptSize exporter) = .ok (n, e) →
    n.length ≤ 512 ∧ e.length ≤ 512 ∧
      ∃ half, v.publicKeyDecode (rsaPublicKeyBytes n e) = .ok half ∧ RsaMatch s v key half

structure EccMatch (s v : WcEcc) (signer : s.Key) (half : v.Key) : Prop where
  verifies : ∀ {hash der r x n}, s.signHash hash signer = .ok der → s.sigToRs der n = .ok (r, x) →
    r.length ≤ n → x.length ≤ n →
    ∃ again, v.rsRawToSig (leftPad n r) (leftPad n x) = .ok again ∧
      v.verifyHash again hash half = .ok true

/-- The keys that sign for a private key: the key, and the key pinned to deterministic signing. -/
def EccSigner (s : WcEcc) (key signer : s.Key) : Prop :=
  signer = key ∨ ∃ hashType, s.setDeterministic key hashType = .ok signer

structure LawfulEcdsa (wc : WcEccPublic) (s v : WcEcc) : Prop where
  ready : v.init = .ok ()
  weierstrass : ∀ {data curve key}, s.importPrivateKey data curve = .ok key →
    curve ≠ .x25519 ∧ curve ≠ .x448
  memory : ∀ n, v.alloc n = true
  pair : ∀ {data curve key}, s.importPrivateKey data curve = .ok key →
    ∃ half, (v.importPrivateKey data curve >>= v.makePub) = .ok half ∧
      ∀ signer, EccSigner s key signer → EccMatch s v signer half
  half : ∀ {data curve key exporter size bytes}, s.importPrivateKey data curve = .ok key →
    (wc.importPrivateKey data curve >>= wc.makePub) = .ok exporter →
    wc.exportX963 exporter size = .ok bytes →
    ∃ half, v.importX963 bytes curve = .ok half ∧
      ∀ signer, EccSigner s key signer → EccMatch s v signer half

structure EdMatch (s v : WcEd) (key : s.Key) (half : v.Key) : Prop where
  prehashed : ∀ {hash size context signature}, s.phSignHash hash size key context = .ok signature →
    SignatureFits signature size ∧ v.phVerifyHash signature hash half context = .ok true
  message : ∀ {input size ctx context signature},
    s.signMsg input size key ctx context = .ok signature →
    SignatureFits signature size ∧ v.verifyMsg signature input half ctx context = .ok true

structure LawfulEddsa (wc : WcEdPublic) (s v : WcEd) : Prop where
  ready : v.init = .ok ()
  pair : ∀ {data key}, (s.importPrivateOnly data >>= s.makePublic) = .ok key →
    ∃ half, (v.importPrivateOnly data >>= v.makePublic) = .ok half ∧ EdMatch s v key half
  half : ∀ {data key exporter size bytes}, (s.importPrivateOnly data >>= s.makePublic) = .ok key →
    (wc.importPrivateOnly data >>= wc.makePublic) = .ok exporter →
    wc.exportPublic exporter size = .ok bytes →
    ∃ half, v.importPublic bytes = .ok half ∧ EdMatch s v key half

structure MlDsaMatch (s v : WcMlDsa) (key : s.Key) (half : v.Key) : Prop where
  message : ∀ {context size input signature},
    s.signCtx key context size input = .ok signature ∨
      s.signCtxWithSeed key context size input = .ok signature →
    SignatureFits signature size ∧ v.verifyCtx half signature context input = .ok true
  hash : ∀ {context size input hash signature},
    s.signCtxHash key context size input hash = .ok signature ∨
      s.signCtxHashWithSeed key context size input hash = .ok signature →
    SignatureFits signature size ∧ v.verifyCtxHash half signature context input hash = .ok true

structure LawfulMlDsa (wc : WcMlDsaPublic) (s v : WcMlDsa) : Prop where
  pair : ∀ {bits fresh seed key}, mldsaKeyInit s bits = .ok fresh →
    s.makeKeyFromSeed fresh seed = .ok key → ∃ blank half, mldsaKeyInit v bits = .ok blank ∧
      v.makeKeyFromSeed blank seed = .ok half ∧ MlDsaMatch s v key half
  half : ∀ {bits fresh seed key empty exporter size bytes}, mldsaKeyInit s bits = .ok fresh →
    s.makeKeyFromSeed fresh seed = .ok key → mldsaKeyInit wc.toWcMlDsa bits = .ok empty →
    wc.makeKeyFromSeed empty seed = .ok exporter → wc.exportPubRaw exporter size = .ok bytes →
    ∃ blank half, mldsaKeyInit v bits = .ok blank ∧ v.importPubRaw blank bytes = .ok half ∧
      MlDsaMatch s v key half

/-- A verifying environment for what a signing one makes: the same build and digests, and matching
schemes. -/
structure LawfulSigning (wc : WcPublic) (s v : SignEnv) : Prop where
  build : v.build = s.build ∧ wc.build = s.build
  digests : ∀ {alg input digest}, s.hashCompute alg input = .ok digest →
    v.hashCompute alg input = .ok digest
  rsa : LawfulRsa wc.rsa s.rsa v.rsa
  ecc : LawfulEcdsa wc.ecc s.ecc v.ecc
  ed25519 : LawfulEddsa wc.ed25519 s.ed25519 v.ed25519
  ed448 : LawfulEddsa wc.ed448 s.ed448 v.ed448
  mldsa : LawfulMlDsa wc.mldsa s.mldsa v.mldsa

/-! ## The keys -/

/-- What a pair verifies under: itself, or its public half as an exporter wrote it. -/
inductive VerificationKey (publicKeyOf : PublicKeyOf) (type : KeyType) (bits : BitVec 16)
    (data : Bytes) : KeyType → Bytes → Prop where
  | pair : VerificationKey publicKeyOf type bits data type data
  | half {size : Nat} {bytes : Bytes} (exported : publicKeyOf type bits data size = .ok bytes) :
    VerificationKey publicKeyOf type bits data (psaKeyTypePublicKeyOfKeyPair type) bytes

/-! ## The back ends -/

section

variable {publicKeyOf : PublicKeyOf} {type type' : KeyType} {bits : BitVec 16}
  {data data' hash signature : Bytes} {alg : Algorithm} {out : OutBuf}

theorem fitWord32_cons {n : Nat} {rest : List Nat} :
    fitWord32 (n :: rest) = true ↔ n ≤ uint32Max ∧ fitWord32 rest = true := by
  simp [fitWord32_iff]

/-- An export in which nothing is cut off wrote the DER encoding of modulus and exponent. -/
theorem exportPublicKeyRsa_ok {wc : WcRsaPublic} {size : Nat} {bytes : Bytes}
    (short : data.length ≤ intMax) (exported : exportPublicKeyRsa wc data size = .ok bytes) :
    ∃ key n e, wc.privateKeyDecode data = .ok key ∧
      wc.flattenPublicKey key (wc.encryptSize key) = .ok (n, e) ∧
      (n.length + e.length < 2 ^ 63 → bytes = rsaPublicKeyBytes n e) := by
  unfold exportPublicKeyRsa at exported
  simp only [except_bind_ok_iff, storageWcCall_ok_iff, require_ok_iff] at exported
  obtain ⟨_, -, key, decoded, _, -, ⟨n, e⟩, flattened, written, der, answer⟩ := exported
  cases answer
  have whole : data.take (toWord32 data.length) = data := by
    unfold toWord32 intMax at *
    rw [Nat.mod_eq_of_lt (by omega), List.take_length]
  rw [whole] at decoded
  exact ⟨key, n, e, decoded, flattened, fun small => (rsaPublicKeyExport_ok small der).1⟩

/-- The digest info of the signer is that of the verifier. -/
theorem rsaDigestInfo_same {s v : WcRsa} {alloc : Bool} {encoded : Bytes}
    (digests : v.maxDigestSize = s.maxDigestSize ∧ v.getCtcHashOid = s.getCtcHashOid ∧
      v.encodeSignature = s.encodeSignature)
    (made : rsaDigestInfo s alloc alg hash = .ok encoded) :
    rsaDigestInfo v true alg hash = .ok encoded ∧ encoded ≠ [] := by
  obtain ⟨most, oid, encode⟩ := digests
  unfold rsaDigestInfo at made ⊢
  rw [oid, most, encode]
  cases found : s.getCtcHashOid (wcPsaGetHashType alg) with
  | none =>
    rw [found] at made
    cases made
  | some hashOid =>
    rw [found] at made
    simp only [except_bind_ok_iff, require_ok_iff] at made ⊢
    obtain ⟨_, within, _, -, _, some, answer⟩ := made
    cases answer
    exact ⟨⟨(), within, (), trivial, (), some, rfl⟩, by simpa using some⟩

/-- The ways in which `psa_asymmetric_sign_rsa` makes a signature. -/
inductive RsaSigned (s : WcRsa) (key : s.Key) (alg : Algorithm) (hash : Bytes) (size : Nat)
    (signature : Bytes) : Prop where
  | raw (padding : wcPsaGetRsaPadding alg = .pkcsV15) (raw : alg = psaAlgRsaPkcs1v15SignRaw)
      (made : s.sslSign hash size key = .ok signature)
  | named {encoded : Bytes} (padding : wcPsaGetRsaPadding alg = .pkcsV15)
      (named : alg ≠ psaAlgRsaPkcs1v15SignRaw)
      (info : rsaDigestInfo s s.alloc alg hash = .ok encoded)
      (made : s.sslSign encoded size key = .ok signature)
  | pss (padding : wcPsaGetRsaPadding alg = .pss)
      (made : s.pssSign hash size (wcPsaGetHashType alg) (wcPsaGetMgf (wcPsaGetHashType alg)) key =
        .ok signature)

theorem psaAsymmetricSignRsa_parts {s : WcRsa}
    (signed : psaAsymmetricSignRsa s type data alg hash out = .ok signature) :
    type = psaKeyTypeRsaKeyPair ∧ hash.length ≤ uint32Max ∧ out.size ≤ uint32Max ∧
      wcPsaRsaHashLengthOk alg hash.length = true ∧ ∃ key, s.privateKeyDecode data = .ok key ∧
      RsaSigned s key alg hash out.size signature := by
  unfold psaAsymmetricSignRsa at signed
  obtain ⟨typed, signed⟩ := require_bind_ok_iff.mp signed
  obtain ⟨fits, signed⟩ := require_bind_ok_iff.mp signed
  obtain ⟨_, -, signed⟩ := except_bind_ok_iff.mp signed
  obtain ⟨key, decoded, signed⟩ := except_bind_ok_iff.mp signed
  obtain ⟨_, -, signed⟩ := except_bind_ok_iff.mp signed
  simp only [Bool.and_eq_true, fitWord32_cons] at fits
  obtain ⟨⟨-, hashFits, outFits, -⟩, hashLength⟩ := fits
  refine ⟨beq_iff_eq.mp typed, hashFits, outFits, hashLength, key, wcCall_ok_iff.mp decoded, ?_⟩
  cases padding : wcPsaGetRsaPadding alg with
  | pkcsV15 =>
    rw [padding] at signed
    dsimp only at signed
    split at signed
    · rename_i raw
      exact .raw padding (beq_iff_eq.mp raw) (mapError_ok_iff.mp signed)
    · rename_i named
      obtain ⟨encoded, info, signed⟩ := except_bind_ok_iff.mp signed
      exact .named padding (by simpa using named) info (mapError_ok_iff.mp signed)
  | pss =>
    rw [padding] at signed
    exact .pss padding (mapError_ok_iff.mp signed)
  | oaep =>
    rw [padding] at signed
    cases signed
  | none =>
    rw [padding] at signed
    cases signed

/-- The padding check of a signature that the signer made. -/
theorem RsaSigned.verifies {s v : WcRsa} {key : s.Key} {half : v.Key}
    (digests : v.maxDigestSize = s.maxDigestSize ∧ v.getCtcHashOid = s.getCtcHashOid ∧
      v.encodeSignature = s.encodeSignature) (matched : RsaMatch s v key half) {size : Nat}
    (signed : RsaSigned s key alg hash size signature) :
    SignatureFits signature size ∧ signature.length = v.encryptSize half ∧
      rsaVerifyPadding v half alg hash signature = .ok (.ok hash.length) := by
  unfold rsaVerifyPadding
  cases signed with
  | raw padding raw made =>
    obtain ⟨fits, length, opens⟩ := matched.ssl made
    refine ⟨fits, length, ?_⟩
    rw [padding]
    dsimp only
    rw [if_pos (beq_iff_eq.mpr raw), opens]
    simp [bind, Except.bind, pure, Except.pure]
  | named padding named info made =>
    obtain ⟨fits, length, opens⟩ := matched.ssl made
    obtain ⟨same, nonempty⟩ := rsaDigestInfo_same digests info
    refine ⟨fits, length, ?_⟩
    rw [padding]
    dsimp only
    rw [if_neg (by simpa using named), same, opens]
    simp [bind, Except.bind, pure, Except.pure, nonempty]
  | pss padding made =>
    obtain ⟨fits, length, opens⟩ := matched.pss made
    obtain ⟨decoded, recovered, nonempty, padded⟩ := opens (psaAlgIsRsaPssAnySalt alg)
    refine ⟨fits, length, ?_⟩
    rw [padding]
    dsimp only
    rw [recovered]
    simp [bind, Except.bind, pure, Except.pure, nonempty, padded]

theorem rsa_verifies {wc : WcRsaPublic} {s v : WcRsa} (lawful : LawfulRsa wc s v)
    (short : data.length ≤ intMax) (short' : data'.length ≤ uint32Max)
    (signed : psaAsymmetricSignRsa s type data alg hash out = .ok signature)
    (key : type' = type ∧ data' = data ∨ type' = psaKeyTypeRsaPublicKey ∧
      ∃ size, exportPublicKeyRsa wc data size = .ok data') :
    signature ≠ [] ∧ psaAsymmetricVerifyRsa v type' data' alg hash signature = .ok () := by
  obtain ⟨rfl, hashFits, outFits, hashLength, signer, decoded, made⟩ :=
    psaAsymmetricSignRsa_parts signed
  obtain ⟨half, taken, matched⟩ : ∃ half, (if type' == psaKeyTypeRsaPublicKey then
      v.publicKeyDecode data' else v.privateKeyDecode data') = .ok half ∧
      RsaMatch s v signer half := by
    rcases key with ⟨rfl, rfl⟩ | ⟨rfl, size, exported⟩
    · rw [if_neg (by decide)]
      exact lawful.pair decoded
    · obtain ⟨exporter, n, e, read, flattened, bytes⟩ := exportPublicKeyRsa_ok short exported
      obtain ⟨nFits, eFits, half, taken, matched⟩ := lawful.half decoded read flattened
      rw [if_pos (by decide), bytes (by omega)]
      exact ⟨half, taken, matched⟩
  obtain ⟨fits, length, checks⟩ := made.verifies lawful.digests matched
  refine ⟨fits.nonempty, ?_⟩
  have typed : type' = psaKeyTypeRsaPublicKey ∨ type' = psaKeyTypeRsaKeyPair := by
    rcases key with ⟨rfl, -⟩ | ⟨rfl, -⟩
    · exact .inr rfl
    · exact .inl rfl
  have room := fits.room
  unfold psaAsymmetricVerifyRsa
  simp only [except_bind_ok_iff, require_ok_iff, wcCall_ok_iff, Bool.and_eq_true, fitWord32_cons]
  exact ⟨(), by simpa using typed, (), ⟨⟨short', hashFits, by omega, rfl⟩, hashLength⟩, (),
    lawful.ready, half, taken, (), beq_iff_eq.mpr length, _, checks, hash.length, rfl,
    beq_iff_eq.mpr rfl⟩

theorem length_leftPad {width : Nat} {bytes : Bytes} (fits : bytes.length ≤ width) :
    (leftPad width bytes).length = width := by
  unfold leftPad
  rw [List.length_append, List.length_replicate]
  omega

/-- The public half of an elliptic-curve pair is on the curve of the pair. -/
theorem requireCurve_publicKeyOf {build : EccBuild} {n : Nat}
    (pair : psaKeyTypeIsEccKeyPair type = true) :
    requireCurve build (psaKeyTypePublicKeyOfKeyPair type) n = requireCurve build type n := by
  obtain ⟨half, family⟩ := eccPair_publicKeyOf pair
  have isEcc : psaKeyTypeIsEcc type = true := half
  have halfIsEcc : psaKeyTypeIsEcc (psaKeyTypePublicKeyOfKeyPair type) = true := by
    unfold psaKeyTypeIsEcc
    rw [publicKeyOfKeyPair_idem]
    exact half
  unfold requireCurve wcPsaGetEccCurveId
  rw [halfIsEcc, isEcc, family]

theorem eccPair_not_public (pair : psaKeyTypeIsEccKeyPair type = true) :
    psaKeyTypeIsEccPublicKey type = false := by
  unfold psaKeyTypeIsEccKeyPair at pair
  unfold psaKeyTypeIsEccPublicKey
  rw [beq_iff_eq.mp pair]
  decide

/-- A curve has bits. -/
theorem requireCurve_positive {build : EccBuild} {n : Nat} {curve : EccCurve}
    (found : requireCurve build type n = .ok curve) : 0 < psaBitsToBytes n := by
  have known : (wcPsaGetEccCurveId build type n).isSome = true := by
    rw [requireCurve_ok_iff.mp found]
    rfl
  have positive := (curve_facts known).1
  unfold psaBitsToBytes
  omega

theorem eccSetDeterministic_signer {s : WcEcc} {key signer : s.Key}
    (set : eccSetDeterministic s alg key = .ok signer) : EccSigner s key signer := by
  unfold eccSetDeterministic at set
  split at set
  · split at set
    · cases set
    · rename_i hashType _
      exact .inr ⟨hashType, wcCall_ok_iff.mp set⟩
  · cases set
    exact .inl rfl

theorem psaAsymmetricSignEcc_key {build : EccBuild} {s : WcEcc} {n : Nat}
    (signed : psaAsymmetricSignEcc build s type n data alg hash out = .ok signature) :
    psaKeyTypeIsEccKeyPair type = true ∧ ∃ curve, requireCurve build type n = .ok curve ∧
      ∃ key, s.importPrivateKey data curve = .ok key := by
  unfold psaAsymmetricSignEcc at signed
  simp only [except_bind_ok_iff, require_ok_iff, wcCall_ok_iff] at signed
  obtain ⟨_, pair, _, -, _, -, curve, pinned, _, -, _, -, _, -, key, taken, -⟩ := signed
  exact ⟨pair, curve, pinned, key, taken⟩

theorem ecdsa_verifies {build : EccBuild} {wc : WcEccPublic} {s v : WcEcc}
    (lawful : LawfulEcdsa wc s v) (short' : data'.length ≤ uint32Max)
    {n : Nat} (signed : psaAsymmetricSignEcc build s type n data alg hash out = .ok signature)
    (key : type' = type ∧ data' = data ∨ type' = psaKeyTypePublicKeyOfKeyPair type ∧
      ∃ size, psaAsymmetricExportPublicKeyEcc build wc type n data size = .ok data') :
    signature ≠ [] ∧ psaAsymmetricVerifyEcc build v type' n data' alg hash signature = .ok () := by
  unfold psaAsymmetricSignEcc at signed
  simp only [except_bind_ok_iff, require_ok_iff, wcCall_ok_iff, Bool.and_eq_true, decide_eq_true_eq,
    fitWord32_cons] at signed
  obtain ⟨_, pair, _, ecdsa, _, -, curve, pinned, _, ⟨-, hashFits, -⟩, _, -, _, -, imported, taken, _,
    room, signer, deterministic, _, -, der, made, _, -, ⟨r, x⟩, split, _, ⟨rFits, xFits⟩, answer⟩ :=
    signed
  cases answer
  have rLength := length_leftPad rFits
  have xLength := length_leftPad xFits
  have positive := requireCurve_positive pinned
  have length : (leftPad (psaBitsToBytes n) r ++ leftPad (psaBitsToBytes n) x).length =
      psaBitsToBytes n * 2 := by
    rw [List.length_append, rLength, xLength]
    omega
  have nonempty : 0 < (leftPad (psaBitsToBytes n) r ++ leftPad (psaBitsToBytes n) x).length := by
    omega
  refine ⟨List.ne_nil_of_length_pos nonempty, ?_⟩
  have isSigner := eccSetDeterministic_signer deterministic
  obtain ⟨half, read, matched⟩ : ∃ half, (if psaKeyTypeIsEccPublicKey type' then
      v.importX963 data' curve else v.importPrivateKey data' curve >>= v.makePub) = .ok half ∧
      EccMatch s v signer half := by
    rcases key with ⟨rfl, rfl⟩ | ⟨rfl, size, exported⟩
    · obtain ⟨half, read, matched⟩ := lawful.pair taken
      rw [eccPair_not_public pair, if_neg (by decide)]
      exact ⟨half, read, matched signer isSigner⟩
    · unfold psaAsymmetricExportPublicKeyEcc at exported
      simp only [pair, if_true, except_bind_ok_iff, require_ok_iff, wcCall_ok_iff, mapError_ok_iff]
        at exported
      obtain ⟨_, -, other, again, _, -, _, -, exporter, made, written⟩ := exported
      cases pinned.symm.trans again
      obtain ⟨half, read, matched⟩ := lawful.half taken (except_bind_ok_iff.mpr made) written
      rw [(eccPair_publicKeyOf pair).1, if_pos rfl]
      exact ⟨half, read, matched signer isSigner⟩
  have typed : (psaKeyTypeIsEccPublicKey type' || psaKeyTypeIsEccKeyPair type') = true ∧
      requireCurve build type' n = .ok curve := by
    rcases key with ⟨rfl, -⟩ | ⟨rfl, -⟩
    · rw [pair]
      exact ⟨Bool.or_true _, pinned⟩
    · rw [(eccPair_publicKeyOf pair).1, requireCurve_publicKeyOf pair]
      exact ⟨rfl, pinned⟩
  obtain ⟨again, joined, verified⟩ := matched.verifies made split rFits xFits
  unfold psaAsymmetricVerifyEcc
  simp only [except_bind_ok_iff, require_ok_iff, wcCall_ok_iff, mapError_ok_iff, verdict_ok_iff]
  refine ⟨(), typed.1, (), ecdsa, curve, typed.2, (), ?_, (), lawful.ready, half, ?_, (), ?_, (),
    lawful.memory _, again, ?_, true, verified, rfl⟩
  · rw [fitWord32_cons, fitWord32_cons]
    exact ⟨short', hashFits, rfl⟩
  · exact read
  · exact beq_iff_eq.mpr length
  · rw [List.take_left' rLength, List.drop_left' rLength]
    exact joined

/-- The checks of a signing call, with a key and a signature in the place of the signer's. -/
theorem edCheck_verify {curve : EdCurve} {typeOk : Bool} {n contextLength size : Nat}
    {u : Unit}
    (checked : edCheck curve typeOk n alg [data.length, hash.length, size] hash.length contextLength =
      .ok u) (short' : data'.length ≤ uint32Max) (room : signature.length ≤ size) :
    typeOk = true ∧ edCheck curve true n alg [data'.length, hash.length, signature.length]
      hash.length contextLength = .ok () := by
  unfold edCheck at checked ⊢
  simp only [except_bind_ok_iff, require_ok_iff, Bool.and_eq_true, fitWord32_cons] at checked ⊢
  obtain ⟨_, admitted, _, plain, _, contextFits, _, ⟨typed, bits⟩, _, ⟨-, hashFits, sizeFits, -⟩,
    digest⟩ := checked
  exact ⟨typed, (), admitted, (), plain, (), contextFits, (), ⟨trivial, bits⟩, (),
    ⟨short', hashFits, by omega, rfl⟩, digest⟩

theorem eddsa_verifies {curve : EdCurve} {wc : WcEdPublic} {s v : WcEd} {pubKeySize : Nat}
    (lawful : LawfulEddsa wc s v) (short' : data'.length ≤ uint32Max) {n : Nat} {context : InBuf}
    (signed : signEddsa curve s type n data alg hash out context = .ok signature)
    (key : type' = type ∧ data' = data ∨ type' = psaKeyTypePublicKeyOfKeyPair type ∧
      ∃ size, edwardsExportPublicKey curve pubKeySize wc type n data size = .ok data') :
    signature ≠ [] ∧ verifyEddsa curve v type' n data' alg hash signature context = .ok () := by
  unfold signEddsa at signed
  obtain ⟨_, checked, signed⟩ := except_bind_ok_iff.mp signed
  obtain ⟨_, -, signed⟩ := except_bind_ok_iff.mp signed
  obtain ⟨signer, taken, made⟩ := except_bind_ok_iff.mp signed
  have taken := wcCall_ok_iff.mp taken
  have typed : type = psaKeyTypeEccKeyPair psaEccFamilyTwistedEdwards := by
    unfold edCheck at checked
    simp only [except_bind_ok_iff, require_ok_iff, Bool.and_eq_true, beq_iff_eq] at checked
    obtain ⟨_, -, _, -, _, -, _, ⟨typed, -⟩, -⟩ := checked
    exact typed
  subst typed
  obtain ⟨half, read, matched⟩ : ∃ half,
      (if type' == psaKeyTypeEccKeyPair psaEccFamilyTwistedEdwards then
        v.importPrivateOnly data' >>= v.makePublic else v.importPublic data') = .ok half ∧
      EdMatch s v signer half := by
    rcases key with ⟨rfl, rfl⟩ | ⟨rfl, size, exported⟩
    · rw [if_pos (by decide)]
      exact lawful.pair taken
    · unfold edwardsExportPublicKey at exported
      obtain ⟨-, exported⟩ := require_bind_ok_iff.mp exported
      obtain ⟨-, exported⟩ := require_bind_ok_iff.mp exported
      obtain ⟨-, exported⟩ := require_bind_ok_iff.mp exported
      obtain ⟨_, -, exported⟩ := except_bind_ok_iff.mp exported
      obtain ⟨exporter, paired, exported⟩ := except_bind_ok_iff.mp exported
      rw [if_pos (by decide)] at paired
      rw [if_neg (by decide)]
      exact lawful.half taken (wcCall_ok_iff.mp paired) (wcCall_ok_iff.mp exported)
  obtain ⟨fits, verified⟩ : SignatureFits signature out.size ∧ (if alg == curve.ph then
      v.phVerifyHash signature hash half (contextArgument context)
    else v.verifyMsg signature hash half (curve.ctxVariant && alg == psaAlgEddsaCtx)
      (contextArgument context)) = .ok true := by
    split at made
    · rename_i prehashed
      rw [if_pos prehashed]
      exact matched.prehashed (wcCall_ok_iff.mp made)
    · rename_i plain
      rw [if_neg plain]
      exact matched.message (wcCall_ok_iff.mp made)
  have typed : (type' == psaKeyTypeEccKeyPair psaEccFamilyTwistedEdwards ||
      type' == psaKeyTypeEccPublicKey psaEccFamilyTwistedEdwards) = true := by
    rcases key with ⟨rfl, -⟩ | ⟨rfl, -⟩
    · decide
    · decide
  refine ⟨fits.nonempty, ?_⟩
  unfold verifyEddsa
  rw [typed]
  simp only [except_bind_ok_iff, wcCall_ok_iff, verdict_ok_iff]
  exact ⟨(), (edCheck_verify checked short' fits.room).2, (), lawful.ready, half, read, true, verified,
    rfl⟩

theorem mldsa_verifies {wc : WcMlDsaPublic} {s v : WcMlDsa} (lawful : LawfulMlDsa wc s v)
    (short' : data'.length ≤ uint32Max) {n : Nat} {context : InBuf} {isHash : Bool}
    (signed : wolfpsaMldsaSign s n data alg context hash isHash out = .ok signature)
    (key : type' = psaKeyTypeMlDsaKeyPair ∧ data' = data ∨ type' = psaKeyTypeMlDsaPublicKey ∧
      ∃ size, wolfpsaMldsaExportPublic wc n data size = .ok data') :
    signature ≠ [] ∧
      wolfpsaMldsaVerify v n type' data' alg context hash isHash signature = .ok () := by
  unfold wolfpsaMldsaSign at signed
  obtain ⟨seed, signed⟩ := require_bind_ok_iff.mp signed
  obtain ⟨contextFits, signed⟩ := require_bind_ok_iff.mp signed
  obtain ⟨lengths, signed⟩ := require_bind_ok_iff.mp signed
  obtain ⟨fresh, started, signed⟩ := except_bind_ok_iff.mp signed
  obtain ⟨signer, expanded, signed⟩ := except_bind_ok_iff.mp signed
  obtain ⟨size, -, signed⟩ := except_bind_ok_iff.mp signed
  obtain ⟨-, signed⟩ := require_bind_ok_iff.mp signed
  have expanded := wcCall_ok_iff.mp expanded
  have seedLength := beq_iff_eq.mp seed
  simp only [fitWord32_cons] at lengths
  obtain ⟨blank, half, begun, read, matched⟩ : ∃ blank half, mldsaKeyInit v n = .ok blank ∧
      mldsaVerifyKey v type' blank data' = .ok half ∧ MlDsaMatch s v signer half := by
    unfold mldsaVerifyKey
    rcases key with ⟨rfl, rfl⟩ | ⟨rfl, room, exported⟩
    · obtain ⟨blank, half, begun, read, matched⟩ := lawful.pair started expanded
      refine ⟨blank, half, begun, ?_, matched⟩
      rw [if_pos (by decide), seed]
      exact wcCall_ok_iff.mpr read
    · unfold wolfpsaMldsaExportPublic at exported
      simp only [except_bind_ok_iff, require_ok_iff, wcCall_ok_iff] at exported
      obtain ⟨_, -, empty, initialised, exporter, made, -, -, _, -, written⟩ := exported
      rw [List.take_of_length_le (by omega)] at made
      obtain ⟨blank, half, begun, read, matched⟩ := lawful.half started expanded initialised made written
      refine ⟨blank, half, begun, ?_, matched⟩
      rw [if_neg (by decide), if_pos (by decide)]
      exact wcCall_ok_iff.mpr read
  have parts : SignatureFits signature out.size ∧
      (if !isHash then
        if alg == psaAlgMlDsa || alg == psaAlgDeterministicMlDsa then do
          let verifyRes ← wcCall (v.verifyCtx half signature (contextArgument context) hash)
          Source.verdict verifyRes
        else if psaAlgIsHashMlDsa alg || psaAlgIsDeterministicHashMlDsa alg then
          refuse .invalidArgument
        else refuse .notSupported
      else
        if psaAlgIsHashMlDsa alg || psaAlgIsDeterministicHashMlDsa alg then do
          let digest ← mldsaHash alg
          let verifyRes ← wcCall (v.verifyCtxHash half signature (contextArgument context) hash digest)
          Source.verdict verifyRes
        else refuse .invalidArgument : Except Failure Unit) = .ok () := by
    cases isHash with
    | false =>
      rw [if_pos (by decide)] at signed ⊢
      split at signed
      · rename_i hedged
        obtain ⟨_, -, signed⟩ := except_bind_ok_iff.mp signed
        obtain ⟨fits, verified⟩ := matched.message (.inl (wcCall_ok_iff.mp signed))
        rw [hedged, verified]
        exact ⟨fits, rfl⟩
      split at signed
      · rename_i deterministic
        obtain ⟨fits, verified⟩ := matched.message (.inr (wcCall_ok_iff.mp signed))
        rw [deterministic, Bool.or_true, verified]
        exact ⟨fits, rfl⟩
      split at signed
      · cases signed
      · cases signed
    | true =>
      have accepts {digest : MlDsaHash} (named : mldsaHash alg = .ok digest)
          (verified : v.verifyCtxHash half signature (contextArgument context) hash digest = .ok true) :
          (mldsaHash alg >>= fun digest => wcCall (v.verifyCtxHash half signature
            (contextArgument context) hash digest) >>= fun verifyRes => Source.verdict verifyRes) =
            .ok () :=
        except_bind_ok_iff.mpr ⟨digest, named,
          except_bind_ok_iff.mpr ⟨true, wcCall_ok_iff.mpr verified, rfl⟩⟩
      rw [if_neg (by decide)] at signed ⊢
      split at signed
      · rename_i hedged
        obtain ⟨digest, named, signed⟩ := except_bind_ok_iff.mp signed
        obtain ⟨_, -, signed⟩ := except_bind_ok_iff.mp signed
        obtain ⟨fits, verified⟩ := matched.hash (.inl (wcCall_ok_iff.mp signed))
        rw [if_pos (hashMlDsa_of_hedged (by rw [hedged]; rfl))]
        exact ⟨fits, accepts named verified⟩
      split at signed
      · rename_i deterministic
        obtain ⟨digest, named, signed⟩ := except_bind_ok_iff.mp signed
        obtain ⟨fits, verified⟩ := matched.hash (.inr (wcCall_ok_iff.mp signed))
        rw [if_pos (by rw [deterministic, Bool.or_true])]
        exact ⟨fits, accepts named verified⟩
      · cases signed
  refine ⟨parts.1.nonempty, ?_⟩
  unfold wolfpsaMldsaVerify
  have room := parts.1.room
  simp only [except_bind_ok_iff, require_ok_iff, fitWord32_cons]
  exact ⟨(), contextFits, (), ⟨short', lengths.1, by omega, rfl⟩, blank, begun, half, read, parts.2⟩

end

/-! ## The dispatch -/

section

variable {wc : WcPublic} {s v : SignEnv} (lawful : LawfulSigning wc s v)
  {attributes attributes' : KeyAttributes} {data data' hash signature : Bytes} {alg : Algorithm}
  {context : InBuf} {out : OutBuf}

/-- What a verification key is for a type with a back end of its own. -/
theorem VerificationKey.exported {type type' : KeyType} {bits : BitVec 16}
    (key : VerificationKey (publicKeyOf wc) type bits data type' data') (half : KeyType)
    (exporter : Nat → Except Failure Bytes) (named : psaKeyTypePublicKeyOfKeyPair type = half)
    (exports : ∀ size, publicKeyOf wc type bits data size = exporter size) :
    type' = type ∧ data' = data ∨ type' = half ∧ ∃ size, exporter size = .ok data' := by
  cases key with
  | pair => exact .inl ⟨rfl, rfl⟩
  | @half size bytes exported =>
    rw [exports] at exported
    exact .inr ⟨named, size, exported⟩

/-- The curves that wolfCrypt signs on are of neither of the families with a key format of their
own. -/
theorem curve_weierstrass {build : EccBuild} {type : KeyType} {n : Nat} {curve : EccCurve}
    (ecc : psaKeyTypeIsEcc type = true) (known : wcPsaGetEccCurveId build type n = some curve)
    (other : curve ≠ .x25519 ∧ curve ≠ .x448) :
    psaKeyTypeEccGetFamily type ≠ psaEccFamilyTwistedEdwards ∧
      psaKeyTypeEccGetFamily type ≠ psaEccFamilyMontgomery := by
  unfold wcPsaGetEccCurveId at known
  dsimp only at known
  rw [if_pos ecc] at known
  generalize psaKeyTypeEccGetFamily type = family at known ⊢
  obtain ⟨entry, found, same⟩ := Option.map_eq_some_iff.mp known
  have hit := List.find?_some found
  have here := List.mem_of_find?_eq_some found
  simp only [Bool.and_eq_true, beq_iff_eq] at hit
  have listed : entry.1 ≠ psaEccFamilyTwistedEdwards ∧
      (entry.1 = psaEccFamilyMontgomery → entry.2.2.2 = .x25519 ∨ entry.2.2.2 = .x448) := by
    simp only [List.mem_cons, List.not_mem_nil, or_false] at here
    rcases here with rfl | rfl | rfl | rfl | rfl | rfl | rfl | rfl | rfl | rfl | rfl | rfl | rfl
      <;> (dsimp only; decide)
  rw [same, hit.1.1] at listed
  exact ⟨listed.1, fun montgomery => (listed.2 montgomery).elim other.1 other.2⟩

/-- The two Edwards curves behind the dispatch. -/
theorem edwardsKey_exported {type' : KeyType} {bits : BitVec 16} (curve : EdCurve) (pubKeySize : Nat)
    (ed : WcEdPublic)
    (key : VerificationKey (publicKeyOf wc) (psaKeyTypeEccKeyPair psaEccFamilyTwistedEdwards) bits data
      type' data')
    (exports : ∀ size, publicKeyOf wc (psaKeyTypeEccKeyPair psaEccFamilyTwistedEdwards) bits data size =
      edwardsExportPublicKey curve pubKeySize ed (psaKeyTypeEccKeyPair psaEccFamilyTwistedEdwards)
        bits.toNat data size) :
    (type' == psaKeyTypeEccKeyPair psaEccFamilyTwistedEdwards ||
      type' == psaKeyTypeEccPublicKey psaEccFamilyTwistedEdwards) = true ∧
    psaKeyTypeIsRsa type' = false ∧
    (type' = psaKeyTypeEccKeyPair psaEccFamilyTwistedEdwards ∧ data' = data ∨
      type' = psaKeyTypePublicKeyOfKeyPair (psaKeyTypeEccKeyPair psaEccFamilyTwistedEdwards) ∧
        ∃ size, edwardsExportPublicKey curve pubKeySize ed
          (psaKeyTypeEccKeyPair psaEccFamilyTwistedEdwards) bits.toNat data size = .ok data') := by
  have known := key.exported _ _ rfl exports
  refine ⟨?_, ?_, known⟩
  · rcases known with ⟨rfl, -⟩ | ⟨rfl, -⟩
    · decide
    · decide
  · rcases known with ⟨rfl, -⟩ | ⟨rfl, -⟩
    · decide
    · decide

include lawful in
theorem signHashDispatch_verifies (short : data.length ≤ intMax) (short' : data'.length ≤ uint32Max)
    (signed : signHashDispatch s attributes data alg hash context out = .ok signature)
    (key : VerificationKey (publicKeyOf wc) attributes.type attributes.bits data attributes'.type data')
    (bits : attributes'.bits = attributes.bits) :
    signature ≠ [] ∧ verifyHashDispatch v attributes' data' alg hash context signature = .ok () := by
  unfold signHashDispatch at signed
  unfold verifyHashDispatch
  dsimp only at signed ⊢
  rw [bits]
  generalize attributes.type = type, attributes'.type = type', attributes.bits = size at *
  split at signed
  · have pair := (psaAsymmetricSignRsa_parts signed).1
    subst pair
    have known := key.exported psaKeyTypeRsaPublicKey (exportPublicKeyRsa wc.rsa data) (by decide)
      (fun _ => rfl)
    have rsa : psaKeyTypeIsRsa type' = true := by
      rcases known with ⟨rfl, -⟩ | ⟨rfl, -⟩
      · decide
      · decide
    rw [if_pos rsa]
    exact rsa_verifies lawful.rsa short short' signed known
  rename_i notRsa
  split at signed
  · rename_i edwards
    cases beq_iff_eq.mp edwards
    split at signed
    · rename_i small
      have large : size.toNat = 255 := beq_iff_eq.mp small
      have exports (room : Nat) : publicKeyOf wc (psaKeyTypeEccKeyPair psaEccFamilyTwistedEdwards)
          size data room = edwardsExportPublicKey ed25519 ed25519PubKeySize wc.ed25519
            (psaKeyTypeEccKeyPair psaEccFamilyTwistedEdwards) size.toNat data room := by
        unfold publicKeyOf
        rw [if_neg (by decide), if_pos (by decide), if_pos (by decide), if_pos large]
        rfl
      obtain ⟨typed, other, known⟩ := edwardsKey_exported ed25519 ed25519PubKeySize wc.ed25519 key exports
      rw [other, typed, if_neg (by decide), if_pos rfl, if_pos small]
      exact eddsa_verifies lawful.ed25519 short' signed known
    rename_i notSmall
    split at signed
    · rename_i big
      have large : size.toNat = 448 := beq_iff_eq.mp big
      have exports (room : Nat) : publicKeyOf wc (psaKeyTypeEccKeyPair psaEccFamilyTwistedEdwards)
          size data room = edwardsExportPublicKey ed448 ed448PubKeySize wc.ed448
            (psaKeyTypeEccKeyPair psaEccFamilyTwistedEdwards) size.toNat data room := by
        unfold publicKeyOf
        rw [if_neg (by decide), if_pos (by decide), if_pos (by decide), if_neg (by omega), if_pos large]
        rfl
      obtain ⟨typed, other, known⟩ := edwardsKey_exported ed448 ed448PubKeySize wc.ed448 key exports
      rw [other, typed, if_neg (by decide), if_pos rfl, if_neg notSmall, if_pos big]
      exact eddsa_verifies lawful.ed448 short' signed known
    · cases signed
  rename_i notEdwards
  split at signed
  · rename_i ecc
    obtain ⟨pair, curve, pinned, signer, taken⟩ := psaAsymmetricSignEcc_key signed
    obtain ⟨edwards, montgomery⟩ := curve_weierstrass ecc (requireCurve_ok_iff.mp pinned)
      (lawful.ecc.weierstrass taken)
    have exports (room : Nat) : publicKeyOf wc type size data room =
        psaAsymmetricExportPublicKeyEcc s.build wc.ecc type size.toNat data room := by
      unfold publicKeyOf
      rw [if_neg notRsa, if_pos ecc, if_neg edwards, if_neg montgomery, lawful.build.2]
    have known := key.exported _ _ rfl exports
    obtain ⟨half, sameFamily⟩ := eccPair_publicKeyOf pair
    have typed : (psaKeyTypeIsEccPublicKey type' || psaKeyTypeIsEccKeyPair type') = true ∧
        psaKeyTypeEccGetFamily type' = psaKeyTypeEccGetFamily type := by
      rcases known with ⟨rfl, -⟩ | ⟨rfl, -⟩
      · rw [pair, Bool.or_true]
        exact ⟨rfl, rfl⟩
      · rw [half, Bool.true_or]
        exact ⟨rfl, sameFamily⟩
    obtain ⟨isEcc, -, isRsa, -⟩ := ecc_type_facts typed.1
    have notEdwards' : ¬(type' == psaKeyTypeEccKeyPair psaEccFamilyTwistedEdwards ||
        type' == psaKeyTypeEccPublicKey psaEccFamilyTwistedEdwards) = true := by
      intro edwards'
      refine edwards (typed.2.symm.trans ?_)
      rcases Bool.or_eq_true_iff.mp edwards' with same | same
      · rw [beq_iff_eq.mp same]
        decide
      · rw [beq_iff_eq.mp same]
        decide
    rw [if_neg (by rw [isRsa]; decide), if_neg notEdwards', if_pos isEcc, lawful.build.1]
    exact ecdsa_verifies lawful.ecc short' signed known
  · cases signed

/-- The types whose verification is behind the dispatch. -/
theorem verifyHashDispatch_type
    (verified : verifyHashDispatch v attributes' data' alg hash context signature = .ok ()) :
    psaKeyTypeIsMlDsa attributes'.type = false ∧ isHashBasedKey attributes'.type = false := by
  unfold verifyHashDispatch at verified
  dsimp only at verified
  generalize attributes'.type = type' at verified ⊢
  have handled : psaKeyTypeIsRsa type' = true ∨ psaKeyTypeIsEcc type' = true := by
    split at verified
    · rename_i rsa
      exact .inl rsa
    split at verified
    · rename_i edwards
      rcases Bool.or_eq_true_iff.mp edwards with same | same
      · rw [beq_iff_eq.mp same]
        exact .inr (by decide)
      · rw [beq_iff_eq.mp same]
        exact .inr (by decide)
    split at verified
    · rename_i ecc
      exact .inr ecc
    · cases verified
  constructor
  · rw [Bool.eq_false_iff]
    intro mlDsa
    have half : psaKeyTypePublicKeyOfKeyPair type' = psaKeyTypeMlDsaPublicKey := beq_iff_eq.mp mlDsa
    unfold psaKeyTypeIsRsa psaKeyTypeIsEcc at handled
    rw [half] at handled
    exact absurd handled (by decide)
  · rw [Bool.eq_false_iff]
    intro hashBased
    unfold isHashBasedKey at hashBased
    simp only [Bool.or_eq_true, beq_iff_eq] at hashBased
    rcases hashBased with ((rfl | rfl) | rfl) | rfl
    all_goals exact absurd handled (by decide)

/-- What an ML-DSA pair verifies under. -/
theorem mlDsaKey_exported {type type' : KeyType} {bits : BitVec 16} (pair : type = psaKeyTypeMlDsaKeyPair)
    (key : VerificationKey (publicKeyOf wc) type bits data type' data') :
    psaKeyTypeIsMlDsa type' = true ∧
      (type' = psaKeyTypeMlDsaKeyPair ∧ data' = data ∨ type' = psaKeyTypeMlDsaPublicKey ∧
        ∃ size, wolfpsaMldsaExportPublic wc.mldsa bits.toNat data size = .ok data') := by
  subst pair
  have known := key.exported psaKeyTypeMlDsaPublicKey
    (wolfpsaMldsaExportPublic wc.mldsa bits.toNat data) (by decide) (fun _ => rfl)
  refine ⟨?_, known⟩
  rcases known with ⟨rfl, -⟩ | ⟨rfl, -⟩
  · decide
  · decide

include lawful in
theorem signHashWithKey_verifies (short : data.length ≤ intMax) (short' : data'.length ≤ uint32Max)
    (signed : signHashWithKey s attributes data alg hash context out = .ok signature)
    (key : VerificationKey (publicKeyOf wc) attributes.type attributes.bits data attributes'.type data')
    (bits : attributes'.bits = attributes.bits) :
    signature ≠ [] ∧ verifyHashWithKey v attributes' data' alg hash context signature = .ok () := by
  unfold signHashWithKey at signed
  unfold verifyHashWithKey
  dsimp only at signed ⊢
  split at signed
  · split at signed
    · cases signed
    rename_i notPure
    split at signed
    · rename_i prehashed
      split at signed
      · cases signed
      rename_i pair
      obtain ⟨mlDsa, known⟩ := mlDsaKey_exported (by simpa using pair) key
      rw [if_pos mlDsa, if_neg notPure, if_pos prehashed, bits]
      exact mldsa_verifies lawful.mldsa short' signed known
    · cases signed
  split at signed
  · cases signed
  rename_i signHash
  split at signed
  · cases signed
  split at signed
  · cases signed
  obtain ⟨nonempty, verified⟩ := signHashDispatch_verifies lawful short short' signed key bits
  obtain ⟨notMlDsa, notHashBased⟩ := verifyHashDispatch_type verified
  refine ⟨nonempty, ?_⟩
  rw [notMlDsa, notHashBased, if_neg (by decide), if_neg signHash, if_neg (by decide)]
  exact verified

include lawful in
theorem messageHash_travels {input : Bytes} (made : messageHash s alg input = .ok hash) :
    messageHash v alg input = .ok hash := by
  unfold messageHash at made ⊢
  split at made
  · rename_i raw
    rw [if_pos raw]
    exact made
  rename_i named
  rw [if_neg named]
  split at made
  · cases made
  rename_i hashed
  rw [if_neg hashed]
  exact lawful.digests made

/-- The algorithms that take the message itself have no hash. -/
theorem messageHash_not_plain {input : Bytes} (made : messageHash s alg input = .ok hash) :
    (alg == psaAlgPureEddsa || alg == psaAlgEddsaCtx) = false := by
  rw [Bool.eq_false_iff]
  intro plain
  rcases Bool.or_eq_true_iff.mp plain with same | same
  · rw [beq_iff_eq.mp same] at made
    cases made
  · rw [beq_iff_eq.mp same] at made
    cases made

include lawful in
theorem signMessageWithKey_verifies {input : Bytes} (short : data.length ≤ intMax)
    (short' : data'.length ≤ uint32Max)
    (signed : signMessageWithKey s attributes data alg input context out = .ok signature)
    (key : VerificationKey (publicKeyOf wc) attributes.type attributes.bits data attributes'.type data')
    (bits : attributes'.bits = attributes.bits) :
    signature ≠ [] ∧ verifyMessageWithKey v attributes' data' alg input context signature = .ok () := by
  unfold signMessageWithKey at signed
  unfold verifyMessageWithKey
  dsimp only at signed ⊢
  split at signed
  · cases signed
  split at signed
  · unfold signMessageMldsa at signed
    dsimp only at signed
    split at signed
    · cases signed
    rename_i admitted
    split at signed
    · cases signed
    rename_i pair
    obtain ⟨mlDsa, known⟩ := mlDsaKey_exported (by simpa using pair) key
    rw [if_pos mlDsa]
    unfold verifyMessageMldsa
    dsimp only
    rw [if_neg admitted, bits]
    split at signed
    · rename_i pure
      rw [if_pos pure]
      exact mldsa_verifies lawful.mldsa short' signed known
    · rename_i prehashed
      obtain ⟨hash, digest, signed⟩ := except_bind_ok_iff.mp signed
      obtain ⟨nonempty, verified⟩ := mldsa_verifies lawful.mldsa short' signed known
      rw [if_neg prehashed, lawful.digests digest]
      exact ⟨nonempty, verified⟩
  split at signed
  · cases signed
  split at signed
  · -- the message itself goes to the Edwards curves, as a hash would
    rename_i edwards
    obtain ⟨plain, pair⟩ := Bool.and_eq_true_iff.mp edwards
    have dispatched : signHashDispatch s attributes data alg input context out = .ok signature := by
      unfold signHashDispatch
      dsimp only
      rw [if_neg (by rw [beq_iff_eq.mp pair]; decide), if_pos pair]
      exact signed
    obtain ⟨nonempty, verified⟩ := signHashDispatch_verifies lawful short short' dispatched key bits
    obtain ⟨notMlDsa, notHashBased⟩ := verifyHashDispatch_type verified
    have typed : (attributes'.type == psaKeyTypeEccKeyPair psaEccFamilyTwistedEdwards ||
        attributes'.type == psaKeyTypeEccPublicKey psaEccFamilyTwistedEdwards) = true ∧
        psaKeyTypeIsRsa attributes'.type = false := by
      have known := key.exported _ _ rfl (fun _ => rfl)
      rw [beq_iff_eq.mp pair] at known
      rcases known with ⟨same, -⟩ | ⟨same, -⟩
      · rw [same]
        decide
      · rw [same]
        decide
    refine ⟨nonempty, ?_⟩
    rw [notMlDsa, notHashBased, plain, typed.1, Bool.and_true, if_neg (by decide), if_neg (by decide),
      if_pos rfl]
    unfold verifyHashDispatch at verified
    dsimp only at verified
    rw [typed.2, typed.1, if_neg (by decide), if_pos rfl] at verified
    exact verified
  obtain ⟨hash, digest, signed⟩ := except_bind_ok_iff.mp signed
  obtain ⟨nonempty, verified⟩ := signHashDispatch_verifies lawful short short' signed key bits
  obtain ⟨notMlDsa, notHashBased⟩ := verifyHashDispatch_type verified
  refine ⟨nonempty, ?_⟩
  rw [notMlDsa, notHashBased, messageHash_not_plain digest, Bool.false_and, if_neg (by decide),
    if_neg (by decide), if_neg (by decide), messageHash_travels lawful digest]
  exact verified

/-! ## Messages and their digests -/

/-- An algorithm with a hash step signs hashes. -/
theorem isSignHash_of_messageHash {env : SignEnv} {input : Bytes}
    (made : messageHash env alg input = .ok hash) :
    psaAlgIsSignHash alg = true ∧ psaAlgIsMlDsa alg = false ∧
      (alg = psaAlgRsaPkcs1v15SignRaw ∨ env.hashCompute (psaAlgGetHash alg) input = .ok hash) := by
  unfold messageHash at made
  split at made
  · rename_i raw
    rw [beq_iff_eq.mp raw]
    exact ⟨by decide, by decide, .inl rfl⟩
  split at made
  · cases made
  rename_i named
  have some : psaAlgSignGetHash alg ≠ 0 := fun none => named (beq_iff_eq.mpr none)
  rw [signGetHash_eq_getHash some] at made
  have hashed : psaAlgIsHashAndSign alg = true := by
    unfold psaAlgSignGetHash at some
    split at some
    · assumption
    · exact absurd rfl some
  obtain ⟨signs, masked⟩ := Bool.and_eq_true_iff.mp hashed
  refine ⟨signs, ?_, .inr made⟩
  rw [Bool.eq_false_iff]
  intro pure
  have low := mask_narrow (k := psaAlgHashMask) (beq_iff_eq.mp pure)
  rw [show ~~~0x00000100 &&& psaAlgHashMask = psaAlgHashMask by decide] at low
  rw [low] at masked
  exact absurd masked (by decide)

/-- No hash-based scheme takes an algorithm with a hash step. -/
theorem verifyMessageHashBased_refused {env : SignEnv} {type : KeyType} {input : Bytes}
    (made : messageHash env alg input = .ok hash) :
    verifyMessageHashBased env type data alg input signature = refuse .invalidArgument := by
  have other (scheme : Algorithm) (none : psaAlgIsHashAndSign scheme = false)
      (notRaw : (scheme == psaAlgRsaPkcs1v15SignRaw) = false) : (alg == scheme) = false := by
    rw [beq_eq_false_iff_ne]
    rintro rfl
    unfold messageHash psaAlgSignGetHash at made
    rw [notRaw, none] at made
    cases made
  unfold verifyMessageHashBased
  rw [other psaAlgLms (by decide) (by decide), other psaAlgHss (by decide) (by decide),
    other psaAlgXmss (by decide) (by decide), other psaAlgXmssMt (by decide) (by decide)]
  simp only [require, Bool.false_eq_true, if_false]
  split_ifs <;> rfl

/-- To verify a message under an algorithm with a hash step is to verify its digest. -/
theorem verifyMessage_eq_verifyHash {env : SignEnv} {input : Bytes}
    (made : messageHash env alg input = .ok hash) :
    verifyMessageWithKey env attributes data alg input context signature =
      verifyHashWithKey env attributes data alg hash context signature := by
  obtain ⟨signs, notPure, digest⟩ := isSignHash_of_messageHash made
  unfold verifyMessageWithKey verifyHashWithKey
  dsimp only
  rw [signs, messageHash_not_plain made, made]
  split
  · unfold verifyMessageMldsa
    dsimp only
    rw [notPure]
    cases prehashed : psaAlgIsHashMlDsa alg || psaAlgIsDeterministicHashMlDsa alg with
    | false =>
      obtain ⟨notHedged, notDeterministic⟩ := Bool.or_eq_false_iff.mp prehashed
      rw [notHedged, notDeterministic]
      rfl
    | true =>
      have hashes : (!false && !psaAlgIsHashMlDsa alg && !psaAlgIsDeterministicHashMlDsa alg) =
          false := by
        rw [Bool.not_false, Bool.true_and, ← Bool.not_or, prehashed]
        rfl
      have digest : env.hashCompute (psaAlgGetHash alg) input = .ok hash := by
        refine digest.resolve_left ?_
        rintro rfl
        exact absurd prehashed (by decide)
      rw [hashes, digest]
      rfl
  split
  · rw [verifyMessageHashBased_refused made]
    rfl
  · rfl

end

/-! ## Between two processes -/

/-- The environment with the keys of a map for its key store. -/
def signEnvOver (env : SignEnv) (m : KeyMap) : SignEnv := { env with getKeyData := m.getKeyData }

/-- A key of the world `w'` that verifies what a pair of the world `w` signs: the pair, or what any call
of `psa_export_public_key` handed out of it. -/
structure Verifier (backend backend' : StoreBackend) (wc : WcPublic) (w w' : World) (id id' : KeyId)
    (attributes' : KeyAttributes) : Prop where
  holds : ∃ attributes data data', (keyMap backend w).getKeyData id = .ok (attributes, data) ∧
    (keyMap backend' w').getKeyData id' = .ok (attributes', data') ∧
    attributes'.bits = attributes.bits ∧ (attributes'.type = attributes.type ∧ data' = data ∨
      attributes'.type = psaKeyTypePublicKeyOfKeyPair attributes.type ∧ ∃ size faults,
        (runKey backend faults (psaExportPublicKey (publicKeyOf wc) id size) w).1 = .ok data')

/-- What a signer in the world `w` and a verifier in the world `w'` have of the signature calls. -/
structure SignaturesBetween (backend backend' : StoreBackend) (wc : WcPublic) (s v : SignEnv)
    (w w' : World) : Prop where
  message : ∀ {id id' attributes' alg input context out lengthIsNull signature},
    Verifier backend backend' wc w w' id id' attributes' →
    wolfpsaAsymmetricCheckAttributes attributes' psaKeyUsageVerifyMessage alg = .success →
    psaSignMessageWithContext (signEnvOver s (keyMap backend w)) id alg input context out lengthIsNull =
      .ok signature →
    psaVerifyMessageWithContext (signEnvOver v (keyMap backend' w')) id' alg input context
      (.data signature) = .ok ()
  hash : ∀ {id id' attributes' alg digest context out lengthIsNull signature},
    Verifier backend backend' wc w w' id id' attributes' →
    wolfpsaAsymmetricCheckAttributes attributes' psaKeyUsageVerifyHash alg = .success →
    psaSignHashWithContext (signEnvOver s (keyMap backend w)) id alg digest context out lengthIsNull =
      .ok signature →
    psaVerifyHashWithContext (signEnvOver v (keyMap backend' w')) id' alg digest context
      (.data signature) = .ok ()
  /-- A signature of a message is one of its digest. -/
  messageAsHash : ∀ {id id' attributes' alg input hash context out lengthIsNull signature},
    Verifier backend backend' wc w w' id id' attributes' →
    wolfpsaAsymmetricCheckAttributes attributes' psaKeyUsageVerifyHash alg = .success →
    messageHash s alg input.bytes = .ok hash →
    psaSignMessageWithContext (signEnvOver s (keyMap backend w)) id alg input context out lengthIsNull =
      .ok signature →
    psaVerifyHashWithContext (signEnvOver v (keyMap backend' w')) id' alg (.data hash) context
      (.data signature) = .ok ()
  /-- A signature of a digest is one of every message that has it. -/
  hashAsMessage : ∀ {id id' attributes' alg digest input context out lengthIsNull signature},
    Verifier backend backend' wc w w' id id' attributes' →
    wolfpsaAsymmetricCheckAttributes attributes' psaKeyUsageVerifyMessage alg = .success →
    messageHash s alg input = .ok digest.bytes →
    psaSignHashWithContext (signEnvOver s (keyMap backend w)) id alg digest context out lengthIsNull =
      .ok signature →
    psaVerifyMessageWithContext (signEnvOver v (keyMap backend' w')) id' alg (.data input) context
      (.data signature) = .ok ()

section

variable {wc : WcPublic} {s v : SignEnv} {m m' : KeyMap} {id id' : KeyId}
  {attributes attributes' : KeyAttributes} {data data' signature : Bytes} {alg : Algorithm}
  {input context : InBuf} {out : OutBuf} {lengthIsNull : Bool}

/-- A type that is handed out as it is stands for its own public half. -/
theorem storedAsPublicKey_self {type : KeyType} (stored : storedAsPublicKey type = true) :
    psaKeyTypePublicKeyOfKeyPair type = type := by
  rcases storedAsPublicKey_cases stored with rfl | ecc | fixed
  · decide
  · exact eccPublic_publicKeyOf ecc
  · cases fixed
    all_goals decide

/-- What `psa_export_public_key` hands out verifies what the pair signs. -/
theorem exported_verificationKey {publicKeyOf : PublicKeyOf} {bytes : Bytes} {size : Nat}
    (exported : exportPublicData publicKeyOf attributes data size = .ok bytes) :
    VerificationKey publicKeyOf attributes.type attributes.bits data
      (psaKeyTypePublicKeyOfKeyPair attributes.type) bytes := by
  unfold exportPublicData at exported
  split at exported
  · rename_i stored
    split at exported
    · cases exported
    · cases exported
      rw [storedAsPublicKey_self stored]
      exact .pair
  split at exported
  · cases exported
  split at exported
  · cases exported
  exact .half exported

/-- A signer's key in one map and a verifier's in another. -/
structure KeysMatch (wc : WcPublic) (m m' : KeyMap) (id id' : KeyId) (attributes : KeyAttributes)
    (data : Bytes) (attributes' : KeyAttributes) (data' : Bytes) : Prop where
  found : m.getKeyData id = .ok (attributes, data)
  found' : m'.getKeyData id' = .ok (attributes', data')
  bits : attributes'.bits = attributes.bits
  short : data.length ≤ intMax
  short' : data'.length ≤ uint32Max
  key : VerificationKey (publicKeyOf wc) attributes.type attributes.bits data attributes'.type data'

theorem Verifier.keys {backend backend' : StoreBackend} {good good' : World → Prop}
    {cfg : ImportConfig} {w w' : World} (shipped : ShippedStore backend good)
    (stored : StoredKeys backend good cfg w) (stored' : StoredKeys backend' good' cfg w')
    (verifier : Verifier backend backend' wc w w' id id' attributes') :
    ∃ attributes data data', KeysMatch wc (keyMap backend w) (keyMap backend' w') id id' attributes data
      attributes' data' := by
  obtain ⟨attributes, data, data', found, found', bits, key⟩ := verifier.holds
  have short := stored.small.getKeyData found
  have short' := stored'.small.getKeyData found'
  refine ⟨attributes, data, data', found, found', bits, by omega, ?_, ?_⟩
  · unfold intMax at short'
    unfold uint32Max
    omega
  · rcases key with ⟨type, rfl⟩ | ⟨type, size, faults, exported⟩
    · rw [type]
      exact .pair
    · have spec : ReadsIfOk backend (fun _ => True) w
          (mapExportPublicKey (publicKeyOf wc) (keyMap backend w) id size)
          (psaExportPublicKey (publicKeyOf wc) id size) :=
        psaExportPublicKey_steady shipped.steady (publicKeyOf wc) id size
      obtain ⟨attributes₁, data₁, same, -, answer⟩ :=
        mapExportPublicKey_ok_iff.mp ((spec.run_every faults).2 data' exported)
      obtain ⟨rfl, rfl⟩ := Prod.mk.inj (Except.ok.inj (same.symm.trans found))
      rw [type]
      exact exported_verificationKey answer

theorem LawfulSigning.over (lawful : LawfulSigning wc s v) :
    LawfulSigning wc (signEnvOver s m) (signEnvOver v m') :=
  ⟨lawful.build, lawful.digests, lawful.rsa, lawful.ecc, lawful.ed25519, lawful.ed448, lawful.mldsa⟩

/-- What the worker of a signature has checked. -/
theorem psaSignMessageWithContext_ok {env : SignEnv} (found : env.getKeyData id = .ok (attributes, data))
    (signed : psaSignMessageWithContext env id alg input context out lengthIsNull = .ok signature) :
    input.isNull = false ∧ wolfpsaCheckContext alg context.length = .success ∧
      signMessageWithKey env attributes data alg input.bytes context out = .ok signature := by
  unfold psaSignMessageWithContext wolfpsaSignMessageWorker at signed
  simp only [except_bind_ok_iff, require_ok_iff, requireStatus_ok_iff, wolfpsaAsymmetricCheckKey_ok_iff,
    Bool.not_eq_true'] at signed
  obtain ⟨_, -, _, readable, _, -, _, ⟨looked, -⟩, _, fits, signed⟩ := signed
  obtain rfl := Except.ok.inj (found.symm.trans looked)
  exact ⟨readable, fits, signed⟩

theorem psaSignHashWithContext_ok {env : SignEnv} (found : env.getKeyData id = .ok (attributes, data))
    (signed : psaSignHashWithContext env id alg input context out lengthIsNull = .ok signature) :
    input.isNull = false ∧ wolfpsaCheckContext alg context.length = .success ∧
      signHashWithKey env attributes data alg input.bytes context out = .ok signature := by
  unfold psaSignHashWithContext wolfpsaSignHashWorker at signed
  simp only [except_bind_ok_iff, require_ok_iff, requireStatus_ok_iff, wolfpsaAsymmetricCheckKey_ok_iff,
    Bool.not_eq_true'] at signed
  obtain ⟨_, -, _, readable, _, -, _, ⟨looked, -⟩, _, fits, signed⟩ := signed
  obtain rfl := Except.ok.inj (found.symm.trans looked)
  exact ⟨readable, fits, signed⟩

/-- What a signature call made verifies under the other key. -/
theorem KeysMatch.signedMessage (lawful : LawfulSigning wc s v)
    (held : KeysMatch wc m m' id id' attributes data attributes' data')
    (signed : psaSignMessageWithContext (signEnvOver s m) id alg input context out lengthIsNull =
      .ok signature) :
    input.isNull = false ∧ wolfpsaCheckContext alg context.length = .success ∧ signature ≠ [] ∧
      verifyMessageWithKey (signEnvOver v m') attributes' data' alg input.bytes context signature =
        .ok () := by
  obtain ⟨readable, fits, made⟩ := psaSignMessageWithContext_ok held.found signed
  have between : LawfulSigning wc (signEnvOver s m) (signEnvOver v m') := lawful.over
  have verifies := signMessageWithKey_verifies between held.short held.short' made
    held.key held.bits
  exact ⟨readable, fits, verifies⟩

theorem KeysMatch.signedHash (lawful : LawfulSigning wc s v)
    (held : KeysMatch wc m m' id id' attributes data attributes' data')
    (signed : psaSignHashWithContext (signEnvOver s m) id alg input context out lengthIsNull =
      .ok signature) :
    input.isNull = false ∧ wolfpsaCheckContext alg context.length = .success ∧ signature ≠ [] ∧
      verifyHashWithKey (signEnvOver v m') attributes' data' alg input.bytes context signature =
        .ok () := by
  obtain ⟨readable, fits, made⟩ := psaSignHashWithContext_ok held.found signed
  have between : LawfulSigning wc (signEnvOver s m) (signEnvOver v m') := lawful.over
  have verifies := signHashWithKey_verifies between held.short held.short' made
    held.key held.bits
  exact ⟨readable, fits, verifies⟩

/-- A signature that the key verifies is accepted by the call. -/
theorem psaVerifyMessageWithContext_ok {env : SignEnv}
    (found : env.getKeyData id = .ok (attributes, data))
    (granted : wolfpsaAsymmetricCheckAttributes attributes psaKeyUsageVerifyMessage alg = .success)
    (readable : input.isNull = false) (fits : wolfpsaCheckContext alg context.length = .success)
    (nonempty : signature ≠ [])
    (verified : verifyMessageWithKey env attributes data alg input.bytes context signature = .ok ()) :
    psaVerifyMessageWithContext env id alg input context (.data signature) = .ok () := by
  unfold psaVerifyMessageWithContext wolfpsaVerifyMessageWorker
  simp only [except_bind_ok_iff, require_ok_iff, requireStatus_ok_iff, wolfpsaAsymmetricCheckKey_ok_iff]
  refine ⟨(), by rw [readable]; rfl, (), rfl, _, ⟨found, granted⟩, (), ?_, (), fits, verified⟩
  exact bne_iff_ne.mpr (List.length_pos_of_ne_nil nonempty).ne'

theorem psaVerifyHashWithContext_ok {env : SignEnv}
    (found : env.getKeyData id = .ok (attributes, data))
    (granted : wolfpsaAsymmetricCheckAttributes attributes psaKeyUsageVerifyHash alg = .success)
    (readable : input.isNull = false) (fits : wolfpsaCheckContext alg context.length = .success)
    (nonempty : signature ≠ [])
    (verified : verifyHashWithKey env attributes data alg input.bytes context signature = .ok ()) :
    psaVerifyHashWithContext env id alg input context (.data signature) = .ok () := by
  unfold psaVerifyHashWithContext wolfpsaVerifyHashWorker
  simp only [except_bind_ok_iff, require_ok_iff, requireStatus_ok_iff, wolfpsaAsymmetricCheckKey_ok_iff]
  refine ⟨(), by rw [readable]; rfl, (), rfl, _, ⟨found, granted⟩, (), ?_, (), fits, verified⟩
  exact bne_iff_ne.mpr (List.length_pos_of_ne_nil nonempty).ne'

end

/-- Every two processes, over both back ends: a signature of one is accepted by the other under every key
that came out of the signer's pair, as a message, as a digest, and from the one to the other. -/
theorem signature_travels {backend backend' : StoreBackend} {good good' : World → Prop}
    (shipped : ShippedStore backend good) (shipped' : ShippedStore backend' good')
    (cfg : ImportConfig) {wc : WcPublic} {s v : SignEnv} (lawful : LawfulSigning wc s v)
    (counter counter' : KeyId) (calls calls' : List (StoreOp × (Nat → Nat → Fault)))
    (calm : ∀ call ∈ calls, CalmCall call) (calm' : ∀ call ∈ calls', CalmCall call) :
    SignaturesBetween backend backend' wc s v
      (run (storeStep backend cfg) (emptyStore counter) calls).2
      (run (storeStep backend' cfg) (emptyStore counter') calls').2 := by
  have stored := run_storedKeys cfg shipped counter calls calm
  have stored' := run_storedKeys cfg shipped' counter' calls' calm'
  generalize (run (storeStep backend cfg) (emptyStore counter) calls).2 = w at stored
  generalize (run (storeStep backend' cfg) (emptyStore counter') calls').2 = w' at stored'
  have digests : ∀ {alg input hash}, messageHash s alg input = .ok hash →
      messageHash (signEnvOver v (keyMap backend' w')) alg input = .ok hash :=
    fun hashed => messageHash_travels lawful hashed
  constructor
  · intro id id' attributes' alg input context out lengthIsNull signature verifier granted signed
    obtain ⟨attributes, data, data', held⟩ := verifier.keys shipped stored stored'
    obtain ⟨readable, fits, nonempty, verified⟩ := held.signedMessage lawful signed
    exact psaVerifyMessageWithContext_ok held.found' granted readable fits nonempty verified
  · intro id id' attributes' alg digest context out lengthIsNull signature verifier granted signed
    obtain ⟨attributes, data, data', held⟩ := verifier.keys shipped stored stored'
    obtain ⟨readable, fits, nonempty, verified⟩ := held.signedHash lawful signed
    exact psaVerifyHashWithContext_ok held.found' granted readable fits nonempty verified
  · intro id id' attributes' alg input hash context out lengthIsNull signature verifier granted hashed
      signed
    obtain ⟨attributes, data, data', held⟩ := verifier.keys shipped stored stored'
    obtain ⟨-, fits, nonempty, verified⟩ := held.signedMessage lawful signed
    rw [verifyMessage_eq_verifyHash (digests hashed)] at verified
    exact psaVerifyHashWithContext_ok held.found' granted rfl fits nonempty verified
  · intro id id' attributes' alg digest input context out lengthIsNull signature verifier granted hashed
      signed
    obtain ⟨attributes, data, data', held⟩ := verifier.keys shipped stored stored'
    obtain ⟨-, fits, nonempty, verified⟩ := held.signedHash lawful signed
    rw [← verifyMessage_eq_verifyHash (digests hashed)] at verified
    exact psaVerifyMessageWithContext_ok held.found' granted rfl fits nonempty verified

/-! ### The second test of RFC 8032, section 7.1 -/

def edSecret : Bytes := beBytes 32 0x4ccd089b28ff96da9db6c346ec114e0f5b8a319f35aba624da8cf6ed4fb8a6fb
def edPublic : Bytes := beBytes 32 0x3d4017c3e843895a92b70aa74d1b7ebc9c982ccf2ec4968cc0cd55f12af4660c
def edMessage : Bytes := [0x72]
def edSignature : Bytes :=
  beBytes 32 0x92a009a9f0d4cab8720e820b5f642540a2b27b5416503f8fb3762223ebdb69da ++
    beBytes 32 0x085ac1e43e15996e458f3613d0f11d8c387b2eaeb4302aeeb00d291612bb0c00

/-- Ed25519 of the test. -/
def vectorEd : WcEd where
  Key := Unit
  init := .ok ()
  importPrivateOnly data := if data = edSecret then .ok () else .error .badFuncArg
  makePublic _ := .ok ()
  importPublic data := if data = edPublic then .ok () else .error .badFuncArg
  phSignHash _ _ _ _ := .error .notCompiledIn
  signMsg input size _ ctx context :=
    if input = edMessage ∧ 64 ≤ size ∧ ctx = false ∧ context = .null 0 then .ok edSignature
    else .error .badFuncArg
  phVerifyHash _ _ _ _ := .error .notCompiledIn
  verifyMsg signature input _ ctx context :=
    .ok (decide (signature = edSignature ∧ input = edMessage ∧ ctx = false ∧ context = .null 0))

def vectorEdExporter : WcEdPublic where
  Key := Unit
  init := .ok ()
  importPrivateOnly := vectorEd.importPrivateOnly
  makePublic _ := .ok ()
  importPublic := vectorEd.importPublic
  exportPublic _ size := if 32 ≤ size then .ok edPublic else .error .badFuncArg

def vectorEdPublic : WcPublic := { vectorPublic with ed25519 := vectorEdExporter }

/-- A wolfCrypt that signs with Ed25519 only. -/
def vectorSign : SignEnv where
  build := vectorPublic.build
  getKeyData _ := refuse .invalidHandle
  hashCompute _ _ := refuse .notSupported
  rsa := { acceptingRsa with privateKeyDecode := fun _ => .error .notCompiledIn }
  ecc := { acceptingEcc with importPrivateKey := fun _ _ => .error .notCompiledIn }
  ed25519 := vectorEd
  ed448 := { acceptingEd with importPrivateOnly := fun _ => .error .notCompiledIn }
  mldsa := { acceptingMlDsa with init := .error .notCompiledIn }
  lms := acceptingLms
  xmss := acceptingXmss

theorem vectorEd_importPublic (bytes : Bytes) : vectorEd.importPublic bytes =
    if bytes = edPublic then .ok () else .error .badFuncArg := rfl

theorem vectorEd_verifyMsg :
    vectorEd.verifyMsg edSignature edMessage () false (.null 0) = .ok true := by decide +kernel

theorem vectorEd_match (key half : Unit) : EdMatch vectorEd vectorEd key half where
  prehashed := by
    intro hash size context signature made
    cases made
  message := by
    intro input size ctx context signature made
    obtain ⟨⟨rfl, room, rfl, rfl⟩, rfl⟩ := onlyFor_ok made
    exact ⟨⟨by decide, room⟩, vectorEd_verifyMsg⟩

theorem lawful_vectorEd : LawfulEddsa vectorEdExporter vectorEd vectorEd where
  ready := rfl
  pair := by
    intro data key taken
    exact ⟨key, taken, vectorEd_match key key⟩
  half := by
    intro data key exporter size bytes _ _ written
    obtain ⟨-, rfl⟩ := onlyFor_ok written
    exact ⟨(), (vectorEd_importPublic edPublic).trans (if_pos rfl), vectorEd_match key ()⟩

theorem vectorSign_mldsa {bits : Nat} {fresh : vectorSign.mldsa.Key} :
    mldsaKeyInit vectorSign.mldsa bits ≠ .ok fresh := by
  unfold mldsaKeyInit
  cases mldsaBitsToLevel bits with
  | none =>
    intro started
    cases started
  | some level =>
    intro started
    cases started

theorem lawful_vectorSign : LawfulSigning vectorEdPublic vectorSign vectorSign where
  build := ⟨rfl, rfl⟩
  digests := by
    intro alg input digest made
    exact made
  rsa := by
    refine ⟨rfl, ⟨rfl, rfl, rfl⟩, ?_, ?_⟩
    · intro data key decoded
      cases decoded
    · intro data key exporter n e decoded
      cases decoded
  ecc := by
    refine ⟨rfl, ?_, fun _ => rfl, ?_, ?_⟩
    · intro data curve key taken
      cases taken
    · intro data curve key taken
      cases taken
    · intro data curve key exporter size bytes taken
      cases taken
  ed25519 := lawful_vectorEd
  ed448 := by
    refine ⟨rfl, ?_, ?_⟩
    · intro data key taken
      cases taken
    · intro data key exporter size bytes taken
      cases taken
  mldsa := by
    constructor
    · intro bits fresh seed key started
      exact absurd started vectorSign_mldsa
    · intro bits fresh seed key empty exporter size bytes started
      exact absurd started vectorSign_mldsa

/-- A volatile Ed25519 pair that signs messages. -/
def edPairKey : KeyAttributes :=
  ⟨psaKeyTypeEccKeyPair psaEccFamilyTwistedEdwards, 255, psaKeyLifetimeVolatile, psaKeyUsageSignMessage,
    psaAlgPureEddsa, psaAlgNone, psaKeyIdNull⟩

/-- Its public half with a verifier. -/
def edPeerKey : KeyAttributes :=
  { edPairKey with
    type := psaKeyTypeEccPublicKey psaEccFamilyTwistedEdwards, usage := psaKeyUsageVerifyMessage }

/-- A pair that signs in a process on files, its public key in one on Zephyr. -/
theorem ed25519_signature_travels :
    let signer := (run (storeStep (posixBackend freshStore) plainImport) (emptyStore psaKeyIdVendorMin)
      (importCalls edPairKey edSecret)).2
    let verifier := (run (storeStep zephyrBackend plainImport) (emptyStore psaKeyIdVendorMin)
      (importCalls edPeerKey edPublic)).2
    psaSignMessageWithContext (signEnvOver vectorSign (keyMap (posixBackend freshStore) signer))
        psaKeyIdVendorMin psaAlgPureEddsa (.data edMessage) (.null 0) ⟨false, 64⟩ false =
        .ok edSignature ∧
      psaVerifyMessageWithContext (signEnvOver vectorSign (keyMap zephyrBackend verifier))
        psaKeyIdVendorMin psaAlgPureEddsa (.data edMessage) (.null 0) (.data edSignature) = .ok () := by
  intro signer verifier
  have between : SignaturesBetween (posixBackend freshStore) zephyrBackend vectorEdPublic vectorSign
      vectorSign signer verifier :=
    signature_travels (.posix usable_freshStore) .zephyr plainImport lawful_vectorSign psaKeyIdVendorMin
      psaKeyIdVendorMin (importCalls edPairKey edSecret) (importCalls edPeerKey edPublic)
      (calm_importCalls (by decide)) (calm_importCalls (by decide))
  have found : (keyMap (posixBackend freshStore) signer).getKeyData psaKeyIdVendorMin =
      .ok (edPairKey, edSecret) := by decide +kernel
  have held : (keyMap zephyrBackend verifier).getKeyData psaKeyIdVendorMin =
      .ok (edPeerKey, edPublic) := by decide +kernel
  have exported : (runKey (posixBackend freshStore) (fun _ _ => calmFault)
      (psaExportPublicKey (publicKeyOf vectorEdPublic) psaKeyIdVendorMin 32) signer).1 =
      .ok edPublic := by decide +kernel
  have signed : psaSignMessageWithContext
      (signEnvOver vectorSign (keyMap (posixBackend freshStore) signer)) psaKeyIdVendorMin
      psaAlgPureEddsa (.data edMessage) (.null 0) ⟨false, 64⟩ false = .ok edSignature := by
    decide +kernel
  clear_value signer verifier
  have key : Verifier (posixBackend freshStore) zephyrBackend vectorEdPublic signer verifier
      psaKeyIdVendorMin psaKeyIdVendorMin edPeerKey :=
    ⟨edPairKey, edSecret, edPublic, found, held, rfl,
      .inr ⟨by decide, 32, fun _ _ => calmFault, exported⟩⟩
  exact ⟨signed, between.message key (by decide) signed⟩

end WolfPSA.Guarantees
