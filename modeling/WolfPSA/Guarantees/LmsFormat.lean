import WolfPSA.Source.KeyDerivationOutput
import WolfPSA.Source.KeyImport
import WolfPSA.Source.SignatureCalls

/-!
# LMS keys behind the HSS back end

`psa_import_key` stores an LMS public key as it is and an HSS public key behind its level count.
`wolfpsa_lms_verify` hands either blob to `wc_LmsKey_ImportPubRaw`, which takes the HSS form only.
No LMS blob has the length of an HSS blob, so a verification under an LMS key always fails, also
where the same key as a single-level HSS key verifies the signature.
-/

namespace WolfPSA.Guarantees

open WolfPSA.Source

/-- One LMS tree (RFC 8554 with hashes of 24 or 32 bytes): type, one-time type, identifier and root
make a public key of 48 or 56 bytes. -/
structure LmsScheme where
  publicKey : Bytes → Prop
  valid : (pub msg sig : Bytes) → Prop
  length : ∀ pub, publicKey pub → pub.length = 48 ∨ pub.length = 56

/-- A public key as the single level of an HSS key, and a signature under it. -/
def hssKeyOfLms (pub : Bytes) : Bytes := be32 1 ++ pub
def hssSignatureOfLms (sig : Bytes) : Bytes := be32 0 ++ sig

/-- What the code relies on from wolfCrypt: the import takes a level count followed by an LMS public
key, and the verification is that of RFC 8554 on the message of the length it is told. -/
structure LmsLaw (scheme : LmsScheme) (wc : WcLms) (load : Bytes → wc.Key) : Prop where
  init_ok : wc.init = .ok ()
  import_iff : ∀ blob key, wc.importPubRaw blob = .ok key ↔
    (∃ levels pub, 1 ≤ levels ∧ levels ≤ 8 ∧ blob = be32 levels ++ pub ∧ scheme.publicKey pub) ∧
      key = load blob
  verify_single : ∀ pub, scheme.publicKey pub → ∀ sig msg n,
    wc.verify (load (hssKeyOfLms pub)) (hssSignatureOfLms sig) msg n = .ok () ↔
      n = msg.length ∧ scheme.valid pub msg sig

/-- The signature is genuine, and the request under the HSS key reaches the verification. -/
structure GenuineLms (scheme : LmsScheme) (attributes : KeyAttributes) (pub : Bytes)
    (msg : InBuf) (sig : Bytes) : Prop where
  request : HashBasedRequest attributes psaAlgHss msg (.data (hssSignatureOfLms sig))
  message_length : msg.bytes.length ≤ intMax
  signature_length : (hssSignatureOfLms sig).length ≤ uint32Max
  publicKey : scheme.publicKey pub
  valid : scheme.valid pub msg.bytes sig

@[simp] theorem length_be32 (n : Nat) : (be32 n).length = 4 := rfl

theorem toCInt_eq_iff {n : Nat} (fits : n ≤ uint32Max) : toCInt n = n ↔ n ≤ intMax := by
  unfold toCInt
  have bound : (n : Int) < 2 ^ 32 := by
    unfold uint32Max at fits
    omega
  split
  · rename_i small
    simp [small]
  · rename_i large
    constructor
    · intro same
      omega
    · intro small
      exact absurd small large

/-- A blob that `psa_import_key` accepts for the type has 48 or 56 bytes. -/
theorem importCheck_lms_length {cfg : ImportConfig} {attr checked : KeyAttributes} {pub : Bytes}
    (accepted : importCheck cfg attr pub = .ok checked)
    (type : checked.type = psaKeyTypeLmsPublicKey) : pub.length = 48 ∨ pub.length = 56 := by
  have typed : importCheckType cfg.wc checked pub = .success := importCheck_type accepted
  have sized : publicKeyLengthOk psaKeyTypeLmsPublicKey checked.bits.toNat pub.length = .success := by
    unfold importCheckType at typed
    rw [type] at typed
    exact typed
  unfold publicKeyLengthOk at sized
  split at sized
  · cases sized
  · rename_i expected entry
    split at sized
    · cases sized
    · rename_i same
      have exact : pub.length = expected := not_not.mp same
      change ([(192, 48), (256, 56)] : List (Nat × Nat)).lookup checked.bits.toNat = some expected
        at entry
      simp only [List.lookup] at entry
      split at entry
      · cases entry
        exact .inl exact
      split at entry
      · cases entry
        exact .inr exact
      · cases entry

section

variable {scheme : LmsScheme} {env : SignEnv} {load : Bytes → env.lms.Key}

theorem wolfpsaLmsVerify_ok_iff (law : LmsLaw scheme env.lms load) (pub msg sig : Bytes) :
    wolfpsaLmsVerify env.lms pub msg sig = .ok () ↔
      fitWord32 [pub.length, msg.length, sig.length] = true ∧
        (∃ levels key, 1 ≤ levels ∧ levels ≤ 8 ∧ pub = be32 levels ++ key ∧ scheme.publicKey key) ∧
        env.lms.verify (load pub) sig msg (toCInt msg.length) = .ok () := by
  simp only [wolfpsaLmsVerify, except_bind_ok_iff, require_ok_iff, wcCall_ok_iff, mapError_ok_iff,
    law.init_ok, law.import_iff, exists_const]
  constructor
  · rintro ⟨fits, -, key, ⟨blob, rfl⟩, verified⟩
    exact ⟨fits, blob, verified⟩
  · rintro ⟨fits, blob, verified⟩
    exact ⟨fits, trivial, load pub, ⟨blob, rfl⟩, verified⟩

/-- No verification under an LMS key succeeds. -/
theorem psaVerifyMessage_lms_fails (law : LmsLaw scheme env.lms load) {key : KeyId}
    {attributes : KeyAttributes} {pub : Bytes} (found : env.getKeyData key = .ok (attributes, pub))
    (type : attributes.type = psaKeyTypeLmsPublicKey)
    (length : pub.length = 48 ∨ pub.length = 56) (msg signature : InBuf) :
    psaVerifyMessage env key psaAlgLms msg signature ≠ .ok () := by
  rw [Ne, psaVerifyMessage_hashBased_ok_iff found (by rw [type]; rfl), type]
  rintro ⟨-, verified⟩
  change wolfpsaLmsVerify env.lms pub msg.bytes signature.bytes = .ok () at verified
  obtain ⟨-, ⟨levels, inner, -, -, rfl, isKey⟩, -⟩ := (wolfpsaLmsVerify_ok_iff law _ _ _).mp verified
  have innerLength := scheme.length inner isKey
  rw [List.length_append, length_be32] at length
  omega

/-- A verification under the single-level HSS key succeeds for the genuine signatures. -/
theorem psaVerifyMessage_hss_ok_iff (law : LmsLaw scheme env.lms load) {key : KeyId}
    {attributes : KeyAttributes} {pub : Bytes}
    (found : env.getKeyData key = .ok (attributes, hssKeyOfLms pub))
    (type : attributes.type = psaKeyTypeHssPublicKey)
    (length : pub.length = 48 ∨ pub.length = 56) (msg : InBuf) (sig : Bytes) :
    psaVerifyMessage env key psaAlgHss msg (.data (hssSignatureOfLms sig)) = .ok () ↔
      GenuineLms scheme attributes pub msg sig := by
  rw [psaVerifyMessage_hashBased_ok_iff found (by rw [type]; rfl), type]
  change _ ∧ wolfpsaLmsVerify env.lms (hssKeyOfLms pub) msg.bytes (hssSignatureOfLms sig) = .ok () ↔ _
  rw [wolfpsaLmsVerify_ok_iff law, fitWord32_iff]
  have short : (hssKeyOfLms pub).length ≤ uint32Max := by
    rw [hssKeyOfLms, List.length_append, length_be32]
    unfold uint32Max
    omega
  simp only [List.mem_cons, List.not_mem_nil, or_false, forall_eq_or_imp, forall_eq, short, true_and]
  constructor
  · rintro ⟨request, ⟨message, signature⟩, ⟨levels, inner, -, -, blob, isKey⟩, verified⟩
    obtain ⟨-, rfl⟩ := List.append_inj blob (by simp)
    obtain ⟨told, valid⟩ := (law.verify_single pub isKey sig msg.bytes _).mp verified
    exact ⟨request, (toCInt_eq_iff message).mp told, signature, isKey, valid⟩
  · intro genuine
    have message : msg.bytes.length ≤ uint32Max :=
      Nat.le_trans genuine.message_length (by decide)
    refine ⟨genuine.request, ⟨message, genuine.signature_length⟩,
      ⟨1, pub, by decide, by decide, rfl, genuine.publicKey⟩, ?_⟩
    exact (law.verify_single pub genuine.publicKey sig msg.bytes _).mpr
      ⟨(toCInt_eq_iff message).mpr genuine.message_length, genuine.valid⟩

/-- For an LMS public key that `psa_import_key` accepts, the key itself and its single-level HSS
form agree on a message and a signature exactly where the signature is not a genuine one that the
HSS form verifies. -/
theorem lms_agrees_with_hss_iff (law : LmsLaw scheme env.lms load) {cfg : ImportConfig}
    {attr checked : KeyAttributes} {pub : Bytes} (accepted : importCheck cfg attr pub = .ok checked)
    (type : checked.type = psaKeyTypeLmsPublicKey) {lmsKey hssKey : KeyId}
    {stored hssStored : KeyAttributes} (lmsFound : env.getKeyData lmsKey = .ok (stored, pub))
    (lmsType : stored.type = psaKeyTypeLmsPublicKey)
    (hssFound : env.getKeyData hssKey = .ok (hssStored, hssKeyOfLms pub))
    (hssType : hssStored.type = psaKeyTypeHssPublicKey) (msg : InBuf) (sig : Bytes) :
    (psaVerifyMessage env lmsKey psaAlgLms msg (.data sig) = .ok () ↔
      psaVerifyMessage env hssKey psaAlgHss msg (.data (hssSignatureOfLms sig)) = .ok ()) ↔
      ¬ GenuineLms scheme hssStored pub msg sig := by
  have length := importCheck_lms_length accepted type
  have fails := psaVerifyMessage_lms_fails law lmsFound lmsType length msg (.data sig)
  rw [psaVerifyMessage_hss_ok_iff law hssFound hssType length]
  constructor
  · intro agree genuine
    exact fails (agree.mpr genuine)
  · intro forged
    exact iff_of_false fails forged

end

/-! ## One key and one signature -/

/-- A key of type `LMS_SHA256_M32_H5` with one-time type `LMOTS_SHA256_N32_W8`. -/
def sampleLmsKey : Bytes := be32 5 ++ be32 4 ++ List.replicate 48 0

/-- The one public key above, with one message it signed. -/
def sampleLmsScheme : LmsScheme where
  publicKey pub := pub = sampleLmsKey
  valid _ msg sig := msg = [1] ∧ sig = [2]
  length pub same := by
    subst same
    exact .inr rfl

/-- wolfCrypt on the sample key. -/
def sampleLms : WcLms where
  Key := Bytes
  init := .ok ()
  importPubRaw blob :=
    if [1, 2, 3, 4, 5, 6, 7, 8].any fun levels => blob == be32 levels ++ sampleLmsKey then .ok blob
    else .error .bufferE
  verify key sig msg n :=
    if key = hssKeyOfLms sampleLmsKey ∧ sig = hssSignatureOfLms [2] ∧ msg = [1] ∧ n = 1 then .ok ()
    else .error (.wc .sigVerifyE)

theorem sampleLms_import (blob : Bytes) :
    ([1, 2, 3, 4, 5, 6, 7, 8].any fun levels => blob == be32 levels ++ sampleLmsKey) = true ↔
      ∃ levels pub, 1 ≤ levels ∧ levels ≤ 8 ∧ blob = be32 levels ++ pub ∧
        sampleLmsScheme.publicKey pub := by
  have range (levels : Nat) : levels ∈ [1, 2, 3, 4, 5, 6, 7, 8] ↔ 1 ≤ levels ∧ levels ≤ 8 := by
    simp only [List.mem_cons, List.not_mem_nil, or_false]
    omega
  rw [List.any_eq_true]
  constructor
  · rintro ⟨levels, member, same⟩
    obtain ⟨low, high⟩ := (range levels).mp member
    exact ⟨levels, sampleLmsKey, low, high, beq_iff_eq.mp same, rfl⟩
  · rintro ⟨levels, pub, low, high, same, rfl⟩
    exact ⟨levels, (range levels).mpr ⟨low, high⟩, beq_iff_eq.mpr same⟩

theorem sampleLms_law : LmsLaw sampleLmsScheme sampleLms id where
  init_ok := rfl
  import_iff blob key := by
    rw [← sampleLms_import]
    unfold sampleLms
    dsimp only
    split
    · rename_i known
      rw [and_iff_right known]
      exact ⟨fun same => (Except.ok.inj same).symm, fun same => congrArg Except.ok same.symm⟩
    · rename_i unknown
      simp [unknown]
  verify_single pub isKey sig msg n := by
    obtain rfl : pub = sampleLmsKey := isKey
    unfold sampleLms
    dsimp only
    split
    · rename_i same
      obtain ⟨-, signature, rfl, rfl⟩ := same
      have genuine : sig = [2] := List.append_cancel_left signature
      exact iff_of_true rfl ⟨rfl, rfl, genuine⟩
    · rename_i other
      refine iff_of_false (by simp) ?_
      rintro ⟨told, rfl, rfl⟩
      exact other ⟨rfl, rfl, rfl, told⟩

def lmsAttributes : KeyAttributes :=
  { psaKeyAttributesInit with
    type := psaKeyTypeLmsPublicKey
    bits := 256
    usage := psaKeyUsageVerifyMessage
    alg := psaAlgLms }

def hssAttributes : KeyAttributes :=
  { lmsAttributes with
    type := psaKeyTypeHssPublicKey
    alg := psaAlgHss }

/-- A store with the key in both forms, LMS under 1 and HSS under 2. -/
def lmsEnv : SignEnv :=
  { acceptingEnv ⟨false, false, false, false, true, true⟩ lmsAttributes [] with
    getKeyData := fun key =>
      if key = 1 then .ok (lmsAttributes, sampleLmsKey)
      else .ok (hssAttributes, hssKeyOfLms sampleLmsKey)
    lms := sampleLms }

/-- No key data is decoded by wolfCrypt for these types. -/
def lmsConfig : ImportConfig :=
  ⟨false, ⟨fun _ _ => .error .other, fun _ _ => false, fun _ _ _ => .error .other⟩⟩

/-- Both forms refuse a signature that is not genuine. -/
theorem lms_agrees_with_hss_forged :
    (psaVerifyMessage lmsEnv 1 psaAlgLms (.data [1]) (.data [3]) = .ok () ↔
      psaVerifyMessage lmsEnv 2 psaAlgHss (.data [1]) (.data (hssSignatureOfLms [3])) = .ok ()) := by
  have accepted : importCheck lmsConfig lmsAttributes sampleLmsKey = .ok lmsAttributes := rfl
  have law : LmsLaw sampleLmsScheme lmsEnv.lms id := sampleLms_law
  refine (lms_agrees_with_hss_iff law accepted rfl rfl rfl rfl rfl (.data [1]) [3]).mpr ?_
  intro genuine
  exact absurd genuine.valid.2 (by decide)

/-- The HSS form verifies the genuine signature; the LMS form, which `psa_import_key` accepts too,
fails on it. -/
theorem genuine_lms_signature_refused :
    importCheck lmsConfig lmsAttributes sampleLmsKey = .ok lmsAttributes ∧
      importCheck lmsConfig hssAttributes (hssKeyOfLms sampleLmsKey) = .ok hssAttributes ∧
      LmsLaw sampleLmsScheme lmsEnv.lms id ∧
      psaVerifyMessage lmsEnv 2 psaAlgHss (.data [1]) (.data (hssSignatureOfLms [2])) = .ok () ∧
      psaVerifyMessage lmsEnv 1 psaAlgLms (.data [1]) (.data [2]) = refuse .bufferTooSmall :=
  ⟨rfl, rfl, sampleLms_law, rfl, rfl⟩

end WolfPSA.Guarantees
