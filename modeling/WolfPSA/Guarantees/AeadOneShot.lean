import WolfPSA.Source.AeadOneShot
import WolfPSA.Guarantees.CcmSessions

/-!
# One-shot authenticated encryption

`psa_aead_encrypt` and `psa_aead_decrypt` reach six families of algorithms on three ways: through the
multipart interface with a buffered payload, and directly for XChaCha20-Poly1305 and Ascon-AEAD128. On each
of them a success is the seal of the message under the material of a key whose policy admits the call,
decryption takes back what encryption made, and both agree with every multipart operation.
-/

namespace WolfPSA.Guarantees
open Lib Source

variable {Aes ChaCha Ascon : Type}

/-! ## The operation behind a call -/

/-- A setup grants an operation with the material of a key. -/
structure SetupGranted (env : AeadEnv Aes ChaCha) (key : KeyId) (alg : Algorithm) (usage : KeyUsage)
    (attributes : KeyAttributes) (keyData : Bytes) : Prop where
  gate : aeadSetupGate alg = .success
  found : env.getKeyData key = .ok (attributes, keyData)
  checked : wolfpsaAeadCheckAttributes attributes usage alg = .success
  ctxAlloc : env.ctxAlloc = true
  sized : aeadSetupTagLength env.sizes alg = .success
  keyAlloc : env.keyAlloc = true

/-- The context that a setup makes. -/
def setupCtx (wc : WcAead Aes ChaCha) (alg : Algorithm) (usage : KeyUsage) (attributes : KeyAttributes)
    (keyData : Bytes) : AeadCtx Aes ChaCha where
  alg := alg
  keyType := attributes.type
  keyBits := attributes.bits
  encrypts := usage == psaKeyUsageEncrypt
  key := keyData
  nonce := []
  aad := []
  input := []
  inputLength := 0
  adExpected := 0
  plaintextExpected := 0
  tagLength := psaAlgAeadGetTagLength alg
  lengthsSet := false
  adStarted := false
  bodyStarted := false
  streaming := false
  aes := wc.aesZero
  chacha := wc.chachaZero
  ccm := ccmZero

theorem aeadSetupCtx_ok_iff {env : AeadEnv Aes ChaCha} {key : KeyId} {alg : Algorithm} {usage : KeyUsage}
    {ctx : AeadCtx Aes ChaCha} :
    aeadSetupCtx env key alg usage = .ok ctx ↔ ∃ attributes keyData,
      SetupGranted env key alg usage attributes keyData ∧
        ctx = setupCtx env.wc alg usage attributes keyData := by
  unfold aeadSetupCtx
  rw [ensure_bind_ok_iff, except_bind_ok_iff]
  constructor
  · rintro ⟨gate, ⟨attributes, keyData⟩, found, rest⟩
    simp only [ensure_bind_ok_iff, require_bind_ok_iff] at rest
    obtain ⟨checked, ctxAlloc, sized, keyAlloc, made⟩ := rest
    exact ⟨attributes, keyData, ⟨gate, found, checked, ctxAlloc, sized, keyAlloc⟩, (Except.ok.inj made).symm⟩
  · rintro ⟨attributes, keyData, granted, rfl⟩
    refine ⟨granted.gate, (attributes, keyData), granted.found, ?_⟩
    simp only [ensure_bind_ok_iff, require_bind_ok_iff]
    exact ⟨granted.checked, granted.ctxAlloc, granted.sized, granted.keyAlloc, rfl⟩

/-- A setup that succeeds on an operation that is not active. -/
theorem wolfpsaAeadSetup_success_iff {env : AeadEnv Aes ChaCha} {key : KeyId} {alg : Algorithm}
    {usage : KeyUsage} :
    (wolfpsaAeadSetup env none key alg usage).1 = .success ↔ ∃ attributes keyData,
      SetupGranted env key alg usage attributes keyData ∧
        (wolfpsaAeadSetup env none key alg usage).2 = some (setupCtx env.wc alg usage attributes keyData) := by
  unfold wolfpsaAeadSetup
  dsimp only
  cases granted : aeadSetupCtx env key alg usage with
  | error status =>
    refine ⟨fun success => absurd success status.property, ?_⟩
    rintro ⟨attributes, keyData, -, made⟩
    cases made
  | ok ctx =>
    obtain ⟨attributes, keyData, given, rfl⟩ := aeadSetupCtx_ok_iff.mp granted
    exact ⟨fun _ => ⟨attributes, keyData, given, rfl⟩, fun _ => rfl⟩

/-- The context with the nonce, and for CCM with the lengths. -/
def namedCtx (ctx : AeadCtx Aes ChaCha) (nonce aad payload : InBuf) : AeadCtx Aes ChaCha :=
  let ccm := psaAlgAeadEqual ctx.alg psaAlgCcm
  { ctx with
    nonce := nonce.bytes
    adExpected := if ccm then BitVec.ofNat 64 aad.length else ctx.adExpected
    plaintextExpected := if ccm then BitVec.ofNat 64 payload.length else ctx.plaintextExpected
    lengthsSet := ccm || ctx.lengthsSet }

/-- The context with its additional data. -/
def withAad (ctx : AeadCtx Aes ChaCha) (aad : InBuf) : AeadCtx Aes ChaCha :=
  { ctx with aad := aad.bytes, adStarted := true }

/-- The context with the additional data and the payload held back. -/
def heldCtx (ctx : AeadCtx Aes ChaCha) (aad payload : InBuf) : AeadCtx Aes ChaCha :=
  { ctx with
    aad := aad.bytes, adStarted := true, bodyStarted := true, input := payload.bytes,
    inputLength := payload.length }

/-- What the calls behind the setup need of a message. -/
structure Feeds (env : AeadEnv Aes ChaCha) (ctx : AeadCtx Aes ChaCha) (nonce aad payload : InBuf) :
    Prop where
  given : nonce.isNull = false
  sized : aeadNonceLengthStatus ctx nonce.length = .success
  fits : psaAlgAeadEqual ctx.alg psaAlgCcm = true → wolfpsaAeadCheckLengths ctx.alg
    (BitVec.ofNat 64 nonce.length) (BitVec.ofNat 64 aad.length) (BitVec.ofNat 64 payload.length) = .success
  aadReadable : aad.bytes.length = aad.length
  aadWord : wolfpsaCheckWord32Length aad.length = .success
  aadAlloc : aad.length ≠ 0 → env.bufferAlloc aad.length = true
  payloadReadable : payload.bytes.length = payload.length
  payloadSize : psaAlgAeadEqual ctx.alg psaAlgCcm = true → payload.length ≤ sizeMax
  payloadAlloc : payload.length ≠ 0 → env.bufferAlloc payload.length = true

/-- The nonce and the payload length enter by their sizes only. -/
theorem Feeds.transfer {env env' : AeadEnv Aes ChaCha} {ctx ctx' : AeadCtx Aes ChaCha}
    {nonce aad payload payload' : InBuf} (feeds : Feeds env ctx nonce aad payload) (alg : ctx'.alg = ctx.alg)
    (keyType : ctx'.keyType = ctx.keyType) (alloc : ∀ n, env'.bufferAlloc n = true)
    (readable : payload'.bytes.length = payload'.length) (same : payload'.length = payload.length) :
    Feeds env' ctx' nonce aad payload' := by
  have sized : aeadNonceLengthStatus ctx' nonce.length = .success := by
    unfold aeadNonceLengthStatus
    rw [alg, keyType]
    exact feeds.sized
  refine ⟨feeds.given, sized, ?_, feeds.aadReadable, feeds.aadWord, fun _ => alloc _, readable, ?_,
    fun _ => alloc _⟩
  · rw [alg, same]
    exact feeds.fits
  · rw [alg, same]
    exact feeds.payloadSize

section

variable {env : AeadEnv Aes ChaCha} {ctx : AeadCtx Aes ChaCha} {operation : Option (AeadCtx Aes ChaCha)}
  {nonce aad payload : InBuf}

theorem readable_iff {input : InBuf} :
    (!(input.isNull && decide (input.length > 0))) = true ↔ input.bytes.length = input.length := by
  cases input with
  | null n => cases n <;> simp [InBuf.isNull, InBuf.length, InBuf.bytes]
  | data bytes => simp [InBuf.isNull, InBuf.length, InBuf.bytes]

theorem unreadable_iff {input : InBuf} :
    (!(input.isNull && input.length != 0)) = true ↔ input.bytes.length = input.length := by
  cases input with
  | null n => cases n <;> simp [InBuf.isNull, InBuf.length, InBuf.bytes]
  | data bytes => simp [InBuf.isNull, InBuf.length, InBuf.bytes]

/-- The nonce that an algorithm takes is not empty. -/
theorem nonceLength_pos {n : Nat} (sized : aeadNonceLengthStatus ctx n = .success) : n ≠ 0 := by
  rintro rfl
  unfold aeadNonceLengthStatus at sized
  split_ifs at sized with gcm unnamed short ccm low unset
  · exact unnamed rfl
  · exact low (.inl (by decide))
  · obtain ⟨some, same⟩ := not_or.mp unset
    exact some (not_not.mp same).symm

/-- A buffer without data takes on what it is given. -/
theorem wolfpsaAeadAppend_nil_iff {bufferAlloc : Nat → Bool} {data : InBuf} {buffer : Bytes} :
    wolfpsaAeadAppend bufferAlloc [] data = .ok buffer ↔ data.bytes.length = data.length ∧
      (data.length ≠ 0 → bufferAlloc data.length = true) ∧ buffer = data.bytes := by
  unfold wolfpsaAeadAppend
  rw [require_bind_ok_iff, readable_iff]
  refine and_congr_right fun readable => ?_
  by_cases empty : data.length = 0
  · have nothing : data.bytes = [] := List.eq_nil_of_length_eq_zero (readable.trans empty)
    rw [if_pos empty, nothing]
    exact ⟨fun same => ⟨fun some => absurd empty some, (Except.ok.inj same).symm⟩,
      fun both => congrArg _ both.2.symm⟩
  · rw [if_neg empty, require_bind_ok_iff, require_bind_ok_iff, List.length_nil, Nat.zero_add,
      List.nil_append]
    constructor
    · rintro ⟨-, alloc, same⟩
      exact ⟨fun _ => alloc, (Except.ok.inj same).symm⟩
    · rintro ⟨alloc, same⟩
      exact ⟨decide_eq_true (Nat.zero_le _), alloc empty, congrArg _ same.symm⟩

theorem word32_iff {n : Nat} : wolfpsaCheckWord32Length n = .success ↔ n ≤ uint32Max := by
  unfold wolfpsaCheckWord32Length
  split
  · rename_i long
    exact ⟨fun failed => (by cases failed), fun word => absurd word (Nat.not_le.mpr long)⟩
  · rename_i short
    exact ⟨fun _ => Nat.le_of_not_gt short, fun _ => rfl⟩

theorem size_of_word {n : Nat} (word : wolfpsaCheckWord32Length n = .success) : n ≤ sizeMax :=
  Nat.le_trans (word32_iff.mp word) (by unfold uint32Max sizeMax; omega)

theorem aeadAppendAad_ok_iff (fresh : ctx.aad = []) {ctx' : AeadCtx Aes ChaCha} :
    aeadAppendAad env ctx aad = .ok ctx' ↔
      aad.bytes.length = aad.length ∧ wolfpsaCheckWord32Length aad.length = .success ∧
      (aad.length ≠ 0 → env.bufferAlloc aad.length = true) ∧
      (ctx.lengthsSet = true → aad.length ≤ ctx.adExpected.toNat) ∧
      ctx' = { ctx with aad := aad.bytes, adStarted := true } := by
  unfold aeadAppendAad
  rw [fresh, require_bind_ok_iff, require_bind_ok_iff, except_bind_ok_iff, List.length_nil, Nat.zero_add,
    Nat.sub_zero]
  simp only [wolfpsaAeadAppend_nil_iff, Bool.not_eq_true', Bool.and_eq_false_iff, Bool.or_eq_false_iff,
    decide_eq_false_iff_not, Nat.not_lt, gt_iff_lt, bne_eq_false_iff_eq]
  constructor
  · rintro ⟨within, ⟨-, word⟩, _, ⟨readable, alloc, rfl⟩, made⟩
    refine ⟨readable, word, alloc, fun set => ?_, (Except.ok.inj made).symm⟩
    rcases within with unset | ⟨-, short⟩
    · exact absurd (unset.symm.trans set) Bool.false_ne_true
    · exact short
  · rintro ⟨readable, word, alloc, within, rfl⟩
    have size := size_of_word word
    refine ⟨?_, ⟨size, word⟩, _, ⟨readable, alloc, rfl⟩, rfl⟩
    cases set : ctx.lengthsSet with
    | false => exact .inl rfl
    | true => exact .inr ⟨size, within set⟩

/-- The additional data of an operation that has its nonce and, where it needs them, its lengths. -/
theorem updateAd_success_iff (early : ctx.bodyStarted = false) (named : ctx.nonce.length ≠ 0)
    (declared : wolfpsaAeadLengthsMissing ctx = false) (fresh : ctx.aad = []) :
    psaAeadUpdateAd env (some ctx) aad = (.success, operation) ↔
      aad.bytes.length = aad.length ∧ wolfpsaCheckWord32Length aad.length = .success ∧
      (aad.length ≠ 0 → env.bufferAlloc aad.length = true) ∧
      (ctx.lengthsSet = true → aad.length ≤ ctx.adExpected.toNat) ∧
      operation = some (withAad ctx aad) := by
  have ready : ¬(ctx.nonce.length = 0 ∨ wolfpsaAeadLengthsMissing ctx = true) := by
    rintro (unset | missing)
    · exact named unset
    · exact Bool.false_ne_true (declared.symm.trans missing)
  unfold psaAeadUpdateAd
  dsimp only
  rw [if_neg (Bool.eq_false_iff.mp early), if_neg ready]
  by_cases empty : aad.length = 0
  · have nothing : aad.bytes = [] := by
      cases aad with
      | null n => rfl
      | data bytes => exact List.eq_nil_of_length_eq_zero empty
    have same : withAad ctx aad = { ctx with adStarted := true } := by
      unfold withAad
      rw [nothing, ← fresh]
    rw [if_pos empty, empty, nothing, same]
    constructor
    · intro same
      exact ⟨rfl, rfl, fun some => absurd rfl some, fun _ => Nat.zero_le _,
        (congrArg Prod.snd same).symm⟩
    · rintro ⟨-, -, -, -, rfl⟩
      rfl
  · rw [if_neg empty]
    cases appended : aeadAppendAad env ctx aad with
    | error status =>
      refine ⟨fun same => absurd (congrArg Prod.fst same) status.property, ?_⟩
      rintro ⟨readable, word, alloc, within, -⟩
      rw [(aeadAppendAad_ok_iff fresh).mpr ⟨readable, word, alloc, within, rfl⟩] at appended
      cases appended
    | ok ctx' =>
      obtain ⟨readable, word, alloc, within, rfl⟩ := (aeadAppendAad_ok_iff fresh).mp appended
      constructor
      · intro same
        exact ⟨readable, word, alloc, within, (congrArg Prod.snd same).symm⟩
      · rintro ⟨-, -, -, -, rfl⟩
        rfl

/-- The payload of an operation, held back as a whole. -/
theorem aeadUpdate_ok_iff (whole : ctx.streaming = false) (fresh : ctx.input = [])
    (counted : ctx.inputLength = 0) {bytes : Bytes} {ctx' : AeadCtx Aes ChaCha} :
    aeadUpdate env ctx payload ⟨true, 0⟩ = .ok (bytes, ctx') ↔
      payload.bytes.length = payload.length ∧
      (ctx.lengthsSet = true → ctx.aad.length = ctx.adExpected.toNat ∧ payload.length ≤ sizeMax ∧
        payload.length ≤ ctx.plaintextExpected.toNat) ∧
      (payload.length ≠ 0 → env.bufferAlloc payload.length = true) ∧ bytes = [] ∧
      ctx' = { ctx with bodyStarted := true, input := payload.bytes, inputLength := payload.length } := by
  have guards : (!(ctx.lengthsSet && ctx.aad.length != ctx.adExpected.toNat)) = true ∧
      (!(ctx.lengthsSet && (decide (payload.length > sizeMax) ||
        decide (payload.length > ctx.plaintextExpected.toNat)))) = true ↔
      (ctx.lengthsSet = true → ctx.aad.length = ctx.adExpected.toNat ∧ payload.length ≤ sizeMax ∧
        payload.length ≤ ctx.plaintextExpected.toNat) := by
    cases ctx.lengthsSet with
    | false => simp
    | true => simp
  unfold aeadUpdate
  rw [require_bind_ok_iff, require_bind_ok_iff, require_bind_ok_iff, readable_iff, counted, Nat.zero_add,
    Nat.sub_zero, ← and_assoc, guards]
  by_cases empty : payload.length = 0
  · rw [if_pos empty]
    constructor
    · rintro ⟨within, readable, same⟩
      cases same
      refine ⟨readable, within, fun some => absurd empty some, rfl, ?_⟩
      rw [List.eq_nil_of_length_eq_zero (readable.trans empty), ← fresh, empty, ← counted]
    · rintro ⟨readable, within, -, rfl, rfl⟩
      refine ⟨within, readable, ?_⟩
      rw [List.eq_nil_of_length_eq_zero (readable.trans empty), ← fresh, empty, ← counted]
      rfl
  · rw [if_neg empty, if_pos rfl]
    unfold aeadBuffer
    dsimp only
    rw [require_bind_ok_iff, except_bind_ok_iff, fresh, Nat.zero_add]
    simp only [wolfpsaAeadAppend_nil_iff]
    constructor
    · rintro ⟨within, -, -, _, ⟨readable, alloc, rfl⟩, same⟩
      cases same
      exact ⟨readable, within, alloc, rfl, rfl⟩
    · rintro ⟨readable, within, alloc, rfl, rfl⟩
      exact ⟨within, readable, by rw [whole]; rfl, _, ⟨readable, alloc, rfl⟩, rfl⟩

/-- The same for the call. -/
theorem update_success_iff (env : AeadEnv Aes ChaCha) (ctx : AeadCtx Aes ChaCha)
    (operation : Option (AeadCtx Aes ChaCha)) (payload : InBuf) (lengthNull : Bool) (named : ctx.nonce.length ≠ 0)
    (declared : wolfpsaAeadLengthsMissing ctx = false) (whole : ctx.streaming = false)
    (fresh : ctx.input = []) (counted : ctx.inputLength = 0) :
    (psaAeadUpdate env (some ctx) payload ⟨true, 0⟩ lengthNull).1.status = .success ∧
        (psaAeadUpdate env (some ctx) payload ⟨true, 0⟩ lengthNull).2 = operation ↔
      lengthNull = false ∧ payload.bytes.length = payload.length ∧
      (ctx.lengthsSet = true → ctx.aad.length = ctx.adExpected.toNat ∧ payload.length ≤ sizeMax ∧
        payload.length ≤ ctx.plaintextExpected.toNat) ∧
      (payload.length ≠ 0 → env.bufferAlloc payload.length = true) ∧
      operation = some { ctx with
        bodyStarted := true, input := payload.bytes, inputLength := payload.length } := by
  unfold psaAeadUpdate
  dsimp only
  rw [if_neg (Bool.eq_false_iff.mp declared), if_neg named]
  cases lengthNull with
  | true =>
    refine ⟨fun failed => ?_, fun given => by cases given.1⟩
    cases failed.1
  | false =>
    rw [if_neg Bool.false_ne_true]
    cases updated : aeadUpdate env ctx payload ⟨true, 0⟩ with
    | error status =>
      refine ⟨fun failed => absurd failed.1 status.property, ?_⟩
      rintro ⟨-, readable, within, alloc, -⟩
      rw [(aeadUpdate_ok_iff whole fresh counted).mpr ⟨readable, within, alloc, rfl, rfl⟩] at updated
      cases updated
    | ok result =>
      obtain ⟨readable, within, alloc, -, moved⟩ := (aeadUpdate_ok_iff whole fresh counted).mp updated
      rw [← moved]
      exact ⟨fun same => ⟨rfl, readable, within, alloc, same.2.symm⟩, fun given => ⟨rfl, given.2.2.2.2.symm⟩⟩

end

section

variable {env : AeadEnv Aes ChaCha} {wc : WcAead Aes ChaCha} {alg : Algorithm} {usage : KeyUsage}
  {attributes : KeyAttributes} {keyData : Bytes} {operation : Option (AeadCtx Aes ChaCha)}
  {nonce aad payload : InBuf}

theorem setupCtx_fresh : Fresh (setupCtx wc alg usage attributes keyData) := ⟨rfl, rfl, rfl, rfl⟩

/-- The nonce of the operation, and for CCM the lengths before it. -/
theorem named_iff {ctx : AeadCtx Aes ChaCha} {declared : Status × Option (AeadCtx Aes ChaCha)}
    (made : ctx = setupCtx wc alg usage attributes keyData)
    (lengths : declared = if psaAlgAeadEqual alg psaAlgCcm then psaAeadSetLengths (some ctx)
      (BitVec.ofNat 64 aad.length) (BitVec.ofNat 64 payload.length) else (.success, some ctx)) :
    declared.1 = .success ∧ psaAeadSetNonce declared.2 nonce = (.success, operation) ↔
      (nonce.isNull = false ∧ aeadNonceLengthStatus ctx nonce.length = .success ∧
        (psaAlgAeadEqual alg psaAlgCcm = true → wolfpsaAeadCheckLengths alg (BitVec.ofNat 64 nonce.length)
          (BitVec.ofNat 64 aad.length) (BitVec.ofNat 64 payload.length) = .success)) ∧
      operation = some (namedCtx ctx nonce aad payload) := by
  subst made
  have fresh : Fresh (setupCtx wc alg usage attributes keyData) := setupCtx_fresh
  by_cases ccm : psaAlgAeadEqual alg psaAlgCcm = true
  · rw [if_pos ccm] at lengths
    have both : declared.1 = .success ∧ psaAeadSetNonce declared.2 nonce = (.success, operation) ↔
        lengthsThenNonce (some (setupCtx wc alg usage attributes keyData)) nonce
          (BitVec.ofNat 64 aad.length) (BitVec.ofNat 64 payload.length) =
            ((.success, .success), operation) := by
      unfold lengthsThenNonce
      rw [lengths]
      dsimp only
      constructor
      · rintro ⟨first, second⟩
        rw [first, second]
      · intro same
        exact ⟨congrArg (·.1.1) same, Prod.ext (congrArg (·.1.2) same) (congrArg (·.2) same)⟩
    have made : namedCtx (setupCtx wc alg usage attributes keyData) nonce aad payload =
        prepared (setupCtx wc alg usage attributes keyData) nonce (BitVec.ofNat 64 aad.length)
          (BitVec.ofNat 64 payload.length) := by
      unfold namedCtx prepared
      dsimp only [setupCtx]
      rw [ccm]
      rfl
    rw [both, lengthsThenNonce_iff fresh, made]
    constructor
    · rintro ⟨admitted, same⟩
      exact ⟨⟨admitted.given, admitted.sized, fun _ => admitted.fits⟩, same⟩
    · rintro ⟨⟨given, sized, fits⟩, same⟩
      exact ⟨⟨given, sized, fits ccm⟩, same⟩
  · rw [if_neg ccm] at lengths
    have made : namedCtx (setupCtx wc alg usage attributes keyData) nonce aad payload =
        { setupCtx wc alg usage attributes keyData with nonce := nonce.bytes } := by
      unfold namedCtx
      dsimp only [setupCtx]
      rw [Bool.eq_false_iff.mpr ccm]
      rfl
    have free : aeadNonceFitsLengths (setupCtx wc alg usage attributes keyData) nonce.length = .success :=
      if_neg Bool.false_ne_true
    rw [lengths, made, setNonce_iff]
    simp only [aeadSetNonce_ok_iff]
    constructor
    · rintro ⟨-, _, ⟨given, -, sized, -, rfl⟩, same⟩
      exact ⟨⟨given, sized, fun family => absurd family ccm⟩, same⟩
    · rintro ⟨⟨given, sized, -⟩, same⟩
      exact ⟨trivial, _, ⟨given, rfl, sized, free, rfl⟩, same⟩

/-- Nothing but the nonce and the lengths has come to the context. -/
structure NamedOnly (ctx : AeadCtx Aes ChaCha) (nonce aad payload : InBuf) : Prop where
  nonce : ctx.nonce = nonce.bytes
  early : ctx.bodyStarted = false
  whole : ctx.streaming = false
  noAad : ctx.aad = []
  noInput : ctx.input = []
  counted : ctx.inputLength = 0
  declared : wolfpsaAeadLengthsMissing ctx = false
  set : ctx.lengthsSet = psaAlgAeadEqual ctx.alg psaAlgCcm
  adLength : ctx.lengthsSet = true → ctx.adExpected = BitVec.ofNat 64 aad.length
  payloadLength : ctx.lengthsSet = true → ctx.plaintextExpected = BitVec.ofNat 64 payload.length

theorem namedCtx_namedOnly :
    NamedOnly (namedCtx (setupCtx wc alg usage attributes keyData) nonce aad payload) nonce aad payload := by
  have chosen : (namedCtx (setupCtx wc alg usage attributes keyData) nonce aad payload).lengthsSet =
      psaAlgAeadEqual alg psaAlgCcm := Bool.or_false _
  refine ⟨rfl, rfl, rfl, rfl, rfl, rfl, ?_, chosen, fun set => ?_, fun set => ?_⟩
  · unfold wolfpsaAeadLengthsMissing
    rw [chosen]
    exact Bool.and_not_self _
  · exact if_pos (chosen.symm.trans set)
  · exact if_pos (chosen.symm.trans set)

theorem toNat_ofNat_of_le {n : Nat} (size : n ≤ sizeMax) : (BitVec.ofNat 64 n).toNat = n := by
  rw [BitVec.toNat_ofNat]
  unfold sizeMax at size
  omega

/-- The operation takes its message in as a whole. -/
theorem aeadFeed_ok_iff {lengthNull : Bool} :
    aeadFeed env (some (setupCtx wc alg usage attributes keyData)) alg nonce aad payload lengthNull =
        .ok operation ↔
      lengthNull = false ∧ Feeds env (setupCtx wc alg usage attributes keyData) nonce aad payload ∧
      operation = some (heldCtx (namedCtx (setupCtx wc alg usage attributes keyData) nonce aad payload)
        aad payload) := by
  have only : NamedOnly (namedCtx (setupCtx wc alg usage attributes keyData) nonce aad payload) nonce aad
      payload := namedCtx_namedOnly
  have named (given : nonce.isNull = false)
      (sized : aeadNonceLengthStatus (setupCtx wc alg usage attributes keyData) nonce.length = .success) :
      (namedCtx (setupCtx wc alg usage attributes keyData) nonce aad payload).nonce.length ≠ 0 := by
    rw [only.nonce, bytes_length given]
    exact nonceLength_pos sized
  have taking (some : (namedCtx (setupCtx wc alg usage attributes keyData) nonce aad payload).nonce.length
      ≠ 0) := update_success_iff env (withAad (namedCtx (setupCtx wc alg usage attributes keyData) nonce
        aad payload) aad) operation payload lengthNull some only.declared only.whole only.noInput only.counted
  unfold aeadFeed
  dsimp only
  generalize lengths : (if psaAlgAeadEqual alg psaAlgCcm = true then _ else _) = declared
  rw [ensure_bind_ok_iff, ensure_bind_ok_iff, ensure_bind_ok_iff, ensure_bind_ok_iff]
  constructor
  · rintro ⟨first, second, third, fourth, same⟩
    have naming : psaAeadSetNonce declared.2 nonce = (.success, (psaAeadSetNonce declared.2 nonce).2) :=
      Prod.ext second rfl
    obtain ⟨⟨given, sized, fits⟩, middle⟩ := (named_iff rfl lengths.symm).mp ⟨first, naming⟩
    rw [middle] at third fourth same
    have associating : psaAeadUpdateAd env (some (namedCtx (setupCtx wc alg usage attributes keyData) nonce
        aad payload)) aad = (.success, (psaAeadUpdateAd env (some (namedCtx (setupCtx wc alg usage attributes
          keyData) nonce aad payload)) aad).2) := Prod.ext third rfl
    obtain ⟨aadReadable, aadWord, aadAlloc, adWithin, associated⟩ :=
      (updateAd_success_iff only.early (named given sized) only.declared only.noAad).mp associating
    rw [associated] at fourth same
    obtain ⟨given', readable, within, alloc, moved⟩ :=
      (taking (named given sized)).mp ⟨fourth, Except.ok.inj same⟩
    refine ⟨given', ⟨given, sized, fits, aadReadable, aadWord, aadAlloc, readable, fun ccm => ?_, alloc⟩,
      moved⟩
    exact (within (only.set.trans ccm)).2.1
  · rintro ⟨given, feeds, same⟩
    obtain ⟨first, second⟩ := (named_iff rfl lengths.symm).mpr ⟨⟨feeds.given, feeds.sized, feeds.fits⟩, rfl⟩
    have adTotal := toNat_ofNat_of_le (size_of_word feeds.aadWord)
    have third := (updateAd_success_iff only.early (named feeds.given feeds.sized) only.declared
      only.noAad).mpr ⟨feeds.aadReadable, feeds.aadWord, feeds.aadAlloc,
        fun set => by rw [only.adLength set, adTotal], rfl⟩
    have fourth := (taking (named feeds.given feeds.sized)).mpr ⟨given, feeds.payloadReadable, ?_,
        feeds.payloadAlloc, same⟩
    · rw [second]
      dsimp only
      rw [third]
      exact ⟨first, rfl, rfl, fourth.1, congrArg Except.ok fourth.2⟩
    · intro set
      have size := feeds.payloadSize (only.set.symm.trans set)
      have ad : (withAad (namedCtx (setupCtx wc alg usage attributes keyData) nonce aad payload)
          aad).adExpected = _ := only.adLength set
      have total : (withAad (namedCtx (setupCtx wc alg usage attributes keyData) nonce aad payload)
          aad).plaintextExpected = _ := only.payloadLength set
      rw [ad, total, adTotal, toNat_ofNat_of_le size]
      exact ⟨feeds.aadReadable, size, Nat.le_refl _⟩

/-- The context of a call before its last step. -/
def messageCtx (wc : WcAead Aes ChaCha) (alg : Algorithm) (usage : KeyUsage) (attributes : KeyAttributes)
    (keyData : Bytes) (nonce aad payload : InBuf) : AeadCtx Aes ChaCha :=
  heldCtx (namedCtx (setupCtx wc alg usage attributes keyData) nonce aad payload) aad payload

theorem messageCtx_named (feeds : Feeds env (setupCtx wc alg usage attributes keyData) nonce aad payload) :
    (messageCtx wc alg usage attributes keyData nonce aad payload).nonce.length ≠ 0 := by
  show nonce.bytes.length ≠ 0
  rw [bytes_length feeds.given]
  exact nonceLength_pos feeds.sized

theorem messageCtx_declared :
    wolfpsaAeadLengthsMissing (messageCtx wc alg usage attributes keyData nonce aad payload) = false := by
  have only : NamedOnly (namedCtx (setupCtx wc alg usage attributes keyData) nonce aad payload) nonce aad
      payload := namedCtx_namedOnly
  exact only.declared

/-- The declared lengths are the totals. -/
theorem messageCtx_totals (feeds : Feeds env (setupCtx wc alg usage attributes keyData) nonce aad payload) :
    aeadTotalsDiffer (messageCtx wc alg usage attributes keyData nonce aad payload) = false := by
  have only : NamedOnly (namedCtx (setupCtx wc alg usage attributes keyData) nonce aad payload) nonce aad
      payload := namedCtx_namedOnly
  unfold aeadTotalsDiffer messageCtx heldCtx
  dsimp only
  cases set : (namedCtx (setupCtx wc alg usage attributes keyData) nonce aad payload).lengthsSet with
  | false => rfl
  | true =>
    rw [only.adLength set, only.payloadLength set, toNat_ofNat_of_le (size_of_word feeds.aadWord),
      toNat_ofNat_of_le (feeds.payloadSize (only.set.symm.trans set)), feeds.aadReadable]
    simp

/-- The last call of an encryption, on a payload held back. -/
theorem encryptFinal_held {ctx : AeadCtx Aes ChaCha} {ciphertext tag : OutBuf} {bytes computed : Bytes}
    (whole : ctx.streaming = false)
    (done : wolfpsaAeadEncryptFinal env ctx ciphertext tag false = .ok (bytes, computed)) :
    ctx.tagLength ≤ tag.size ∧ wolfpsaCheckWord32Length ctx.inputLength = .success ∧
      aeadEncryptBuffered env ctx = .ok (bytes, computed) := by
  unfold wolfpsaAeadEncryptFinal at done
  simp only [require_bind_ok_iff] at done
  obtain ⟨-, -, -, -, done⟩ := done
  rw [if_neg (Bool.eq_false_iff.mp whole)] at done
  simp only [require_bind_ok_iff, Bool.and_eq_true, beq_iff_eq, decide_eq_true_eq] at done
  obtain ⟨-, -, room, words, done⟩ := done
  exact ⟨room, words.1, done⟩

/-- The last call of a decryption, on a payload held back. -/
theorem decryptFinal_held_iff {ctx : AeadCtx Aes ChaCha} {plaintext : OutBuf} {tag : InBuf} {out : Bytes}
    (whole : ctx.streaming = false) (named : ctx.nonce.length ≠ 0)
    (declared : wolfpsaAeadLengthsMissing ctx = false) (totals : aeadTotalsDiffer ctx = false) :
    wolfpsaAeadDecryptFinal env ctx plaintext tag false = .ok out ↔
      tag.bytes.length = tag.length ∧ (!(plaintext.isNull && plaintext.size != 0)) = true ∧
      tag.length = ctx.tagLength ∧ ctx.inputLength ≤ plaintext.size ∧
      (wolfpsaCheckWord32Length ctx.inputLength = .success ∧
        wolfpsaCheckWord32Length ctx.aad.length = .success) ∧
      aeadDecryptBuffered env ctx tag.bytes plaintext.size = .ok out := by
  have ready : (!(ctx.nonce.length == 0 || wolfpsaAeadLengthsMissing ctx)) = true := by
    rw [declared, beq_eq_false_iff_ne.mpr named]
    rfl
  unfold wolfpsaAeadDecryptFinal
  rw [if_neg (Bool.eq_false_iff.mp whole)]
  simp only [require_bind_ok_iff, Bool.false_or, unreadable_iff, ready, totals, Bool.not_false, true_and,
    Bool.and_eq_true, beq_iff_eq, decide_eq_true_eq]

theorem finish_success {ctx : AeadCtx Aes ChaCha} {ciphertext tag : OutBuf} {lengthNull : Bool}
    (encrypts : ctx.encrypts = true)
    (done : (psaAeadFinish env (some ctx) ciphertext tag lengthNull).1.status = .success) :
    ∃ bytes computed, wolfpsaAeadEncryptFinal env ctx ciphertext tag lengthNull = .ok (bytes, computed) ∧
      (psaAeadFinish env (some ctx) ciphertext tag lengthNull).1 = ⟨.success, bytes, computed⟩ := by
  unfold psaAeadFinish at done ⊢
  dsimp only at done ⊢
  rw [if_pos encrypts] at done ⊢
  cases sealing : wolfpsaAeadEncryptFinal env ctx ciphertext tag lengthNull with
  | error status =>
    rw [sealing] at done
    exact absurd done status.property
  | ok result => exact ⟨result.1, result.2, rfl, rfl⟩

theorem verify_success_iff {ctx : AeadCtx Aes ChaCha} {plaintext : OutBuf} {tag : InBuf} {lengthNull : Bool}
    {out : Bytes} (decrypts : ctx.encrypts = false) :
    (psaAeadVerify env (some ctx) plaintext tag lengthNull).1.status = .success ∧
        (psaAeadVerify env (some ctx) plaintext tag lengthNull).1.output = out ↔
      wolfpsaAeadDecryptFinal env ctx plaintext tag lengthNull = .ok out := by
  unfold psaAeadVerify
  dsimp only
  rw [if_neg (Bool.eq_false_iff.mp decrypts)]
  cases wolfpsaAeadDecryptFinal env ctx plaintext tag lengthNull with
  | error status => exact ⟨fun both => absurd both.1 status.property, fun opened => by cases opened⟩
  | ok bytes =>
    exact ⟨fun both => congrArg Except.ok both.2, fun same => ⟨rfl, Except.ok.inj same⟩⟩

/-- The last call of a one-shot encryption finds its message in the operation. -/
theorem aeadEncryptOneShot_ok {key : KeyId} {ciphertext : OutBuf} {whole : Bytes}
    (done : aeadEncryptOneShot env key alg nonce aad payload ciphertext = .ok whole) :
    ∃ attributes keyData bytes tag,
      SetupGranted env key alg psaKeyUsageEncrypt attributes keyData ∧
      Feeds env (setupCtx env.wc alg psaKeyUsageEncrypt attributes keyData) nonce aad payload ∧
      psaAlgAeadGetTagLength alg ≤ psaAeadTagMaxSize ∧
      wolfpsaCheckWord32Length payload.length = .success ∧
      aeadEncryptBuffered env (messageCtx env.wc alg psaKeyUsageEncrypt attributes keyData nonce aad payload) =
        .ok (bytes, tag) ∧
      whole = bytes ++ tag ∧ whole.length ≤ ciphertext.size := by
  unfold aeadEncryptOneShot at done
  obtain ⟨set, done⟩ := ensure_bind_ok_iff.mp done
  obtain ⟨attributes, keyData, granted, made⟩ := wolfpsaAeadSetup_success_iff.mp set
  obtain ⟨operation, fed, done⟩ := except_bind_ok done
  rw [made] at fed
  obtain ⟨-, feeds, rfl⟩ := aeadFeed_ok_iff.mp fed
  obtain ⟨-, done⟩ := require_bind_ok_iff.mp done
  dsimp only at done
  obtain ⟨finished, done⟩ := ensure_bind_ok_iff.mp done
  obtain ⟨bytes, tag, sealing, answer⟩ := finish_success rfl finished
  rw [answer] at done
  obtain ⟨room, done⟩ := require_bind_ok_iff.mp done
  obtain ⟨short, word, buffered⟩ := encryptFinal_held rfl sealing
  cases done
  refine ⟨attributes, keyData, bytes, tag, granted, feeds, short, word, buffered, rfl, ?_⟩
  rw [List.length_append]
  exact of_decide_eq_true room

/-- A one-shot decryption is a setup, a message and the check of its tag. -/
theorem aeadDecryptOneShot_ok_iff {key : KeyId} {ciphertext : InBuf} {plaintext : OutBuf}
    {lengthNull : Bool} {out : Bytes} :
    aeadDecryptOneShot env key alg nonce aad ciphertext plaintext lengthNull = .ok out ↔
      ∃ attributes keyData,
        SetupGranted env key alg psaKeyUsageDecrypt attributes keyData ∧
        (psaAlgAeadGetTagLength alg ≠ 0 ∧ psaAlgAeadGetTagLength alg ≤ ciphertext.length) ∧
        lengthNull = false ∧
        Feeds env (setupCtx env.wc alg psaKeyUsageDecrypt attributes keyData) nonce aad
          (ciphertext.front (ciphertext.length - psaAlgAeadGetTagLength alg)) ∧
        wolfpsaAeadDecryptFinal env (messageCtx env.wc alg psaKeyUsageDecrypt attributes keyData nonce aad
          (ciphertext.front (ciphertext.length - psaAlgAeadGetTagLength alg))) plaintext
          (ciphertext.behind (ciphertext.length - psaAlgAeadGetTagLength alg)) false = .ok out := by
  unfold aeadDecryptOneShot
  dsimp only
  rw [ensure_bind_ok_iff, require_bind_ok_iff, except_bind_ok_iff]
  constructor
  · rintro ⟨set, room, operation, fed, done⟩
    obtain ⟨attributes, keyData, granted, made⟩ := wolfpsaAeadSetup_success_iff.mp set
    rw [made] at fed
    obtain ⟨rfl, feeds, rfl⟩ := aeadFeed_ok_iff.mp fed
    obtain ⟨verified, done⟩ := ensure_bind_ok_iff.mp done
    exact ⟨attributes, keyData, granted, by simpa using room, rfl, feeds,
      (verify_success_iff rfl).mp ⟨verified, Except.ok.inj done⟩⟩
  · rintro ⟨attributes, keyData, granted, room, rfl, feeds, opened⟩
    have made : wolfpsaAeadSetup env none key alg psaKeyUsageDecrypt =
        (.success, some (setupCtx env.wc alg psaKeyUsageDecrypt attributes keyData)) := by
      unfold wolfpsaAeadSetup
      dsimp only
      rw [aeadSetupCtx_ok_iff.mpr ⟨attributes, keyData, granted, rfl⟩]
    obtain ⟨verified, output⟩ := (verify_success_iff rfl).mpr opened
    rw [made]
    refine ⟨rfl, by simpa using room, _, aeadFeed_ok_iff.mpr ⟨rfl, feeds, rfl⟩, ?_⟩
    exact ensure_bind_ok_iff.mpr ⟨verified, congrArg Except.ok output⟩

end

/-! ## What the calls compute -/

/-- The primitives behind every algorithm of the one-shot calls. What is sealed tells the plaintext. -/
structure OneShotMeaning (Aes ChaCha Ascon : Type) extends AeadMeaning Aes ChaCha where
  xchacha : (key nonce aad plaintext : Bytes) → Bytes × Bytes
  ascon : (key nonce aad plaintext : Bytes) → Bytes × Bytes
  /-- A tag is cut from 16 bytes. -/
  length_gcm : ∀ key nonce aad plaintext n, (gcm key nonce aad plaintext n).1.length = plaintext.length ∧
    (gcm key nonce aad plaintext n).2.length = min n 16
  length_xchacha : ∀ key nonce aad plaintext, (xchacha key nonce aad plaintext).1.length = plaintext.length ∧
    (xchacha key nonce aad plaintext).2.length = 16
  length_ascon : ∀ key nonce aad plaintext, (ascon key nonce aad plaintext).1.length = plaintext.length ∧
    (ascon key nonce aad plaintext).2.length = 16
  gcm_injective : ∀ key nonce aad n, Function.Injective fun plaintext => gcm key nonce aad plaintext n
  chacha_injective : ∀ key nonce aad, Function.Injective (chacha key nonce aad)
  xchacha_injective : ∀ key nonce aad, Function.Injective (xchacha key nonce aad)
  ascon_injective : ∀ key nonce aad, Function.Injective (ascon key nonce aad)
  asconReady : Ascon → (key nonce aad : Bytes) → Prop

def joined (sealing : Bytes × Bytes) : Bytes := sealing.1 ++ sealing.2

/-- The one-shot wolfCrypt calls that succeed compute the primitives. -/
structure OneShotMeaning.ComputesOneShot (m : OneShotMeaning Aes ChaCha Ascon) (wc : WcAeadOneShot Ascon) :
    Prop where
  xchachaEncrypt : ∀ {space plaintext aad nonce key whole},
    wc.xchachaEncrypt space plaintext aad nonce key = .ok whole →
      whole = joined (m.xchacha key nonce.bytes aad.bytes plaintext.bytes)
  xchachaDecrypt : ∀ {space ciphertext aad nonce key out},
    wc.xchachaDecrypt space ciphertext aad nonce key = .ok out →
      ciphertext.bytes = joined (m.xchacha key nonce.bytes aad.bytes out)
  asconStart : ∀ {key nonce aad ascon}, asconStart wc key nonce aad = .ok ascon →
    m.asconReady ascon key nonce.bytes aad.bytes
  asconEncrypt : ∀ {ascon key nonce aad plaintext out moved tag}, m.asconReady ascon key nonce aad →
    wc.asconEncryptUpdate ascon plaintext = .ok (out, moved) → wc.asconEncryptFinal moved = .ok tag →
      m.ascon key nonce aad plaintext.bytes = (out, tag)
  asconDecrypt : ∀ {ascon key nonce aad ciphertext out moved tag u}, m.asconReady ascon key nonce aad →
    wc.asconDecryptUpdate ascon ciphertext = .ok (out, moved) → wc.asconDecryptFinal moved tag = .ok u →
      m.ascon key nonce aad out = (ciphertext.bytes, tag.bytes)

/-- Ciphertext and tag of a plaintext under an algorithm. -/
def OneShotMeaning.sealOf (m : OneShotMeaning Aes ChaCha Ascon) (alg : Algorithm)
    (key nonce aad plaintext : Bytes) : Bytes × Bytes :=
  if psaAlgAeadEqual alg psaAlgXchacha20Poly1305 then m.xchacha key nonce aad plaintext
  else if psaAlgAeadEqual alg psaAlgAsconAead128 then m.ascon key nonce aad plaintext
  else m.seal alg key nonce aad plaintext

section

variable (m : OneShotMeaning Aes ChaCha Ascon) {alg : Algorithm} {key nonce aad plaintext : Bytes}

/-- The parts of a seal. -/
theorem seal_lengths {bytes tag : Bytes} (sealing : m.seal alg key nonce aad plaintext = (bytes, tag))
    (chachaTag : psaAlgAeadEqual alg psaAlgChacha20Poly1305 = true → psaAlgAeadGetTagLength alg = 16) :
    bytes.length = plaintext.length ∧ tag.length = min (psaAlgAeadGetTagLength alg) 16 := by
  have lengths : (m.seal alg key nonce aad plaintext).1.length = plaintext.length ∧
      (m.seal alg key nonce aad plaintext).2.length = min (psaAlgAeadGetTagLength alg) 16 := by
    unfold AeadMeaning.seal
    split_ifs with gcm chacha
    · exact m.length_gcm key nonce aad plaintext _
    · rw [chachaTag chacha]
      exact m.length_chacha key nonce aad plaintext
    · exact ⟨length_xorFrom _ 0 plaintext, Ccm.length_tag_min (m.length_block key) nonce aad plaintext _⟩
  rw [sealing] at lengths
  exact lengths

/-- The size of a tag does not depend on the plaintext. -/
theorem length_sealOf_tag (plaintext other : Bytes) :
    (m.sealOf alg key nonce aad plaintext).2.length = (m.sealOf alg key nonce aad other).2.length := by
  unfold OneShotMeaning.sealOf AeadMeaning.seal
  split_ifs
  · rw [(m.length_xchacha _ _ _ _).2, (m.length_xchacha _ _ _ _).2]
  · rw [(m.length_ascon _ _ _ _).2, (m.length_ascon _ _ _ _).2]
  · rw [(m.length_gcm _ _ _ _ _).2, (m.length_gcm _ _ _ _ _).2]
  · rw [(m.length_chacha _ _ _ _).2, (m.length_chacha _ _ _ _).2]
  · exact (Ccm.length_tag_min (m.length_block key) nonce aad plaintext _).trans
      (Ccm.length_tag_min (m.length_block key) nonce aad other _).symm

theorem seal_injective {other : Bytes}
    (same : m.seal alg key nonce aad plaintext = m.seal alg key nonce aad other) : plaintext = other := by
  unfold AeadMeaning.seal at same
  split_ifs at same with gcm chacha
  · exact m.gcm_injective key nonce aad _ same
  · exact m.chacha_injective key nonce aad same
  · have texts : xorFrom (Ccm.keyStream (m.block key) nonce) 0 plaintext =
        xorFrom (Ccm.keyStream (m.block key) nonce) 0 other := congrArg Prod.fst same
    rw [← xorFrom_xorFrom (Ccm.keyStream (m.block key) nonce) 0 plaintext, texts, xorFrom_xorFrom]

theorem joined_injective {first second : Bytes × Bytes} (tags : first.2.length = second.2.length)
    (same : joined first = joined second) : first = second := by
  obtain ⟨texts, tags⟩ := List.append_inj' same tags
  exact Prod.ext texts tags

end

/-- The policy of the key admits the call. -/
structure CallPermitted (getKeyData : KeyLookup) (key : KeyId) (alg : Algorithm) (usage : KeyUsage)
    (attributes : KeyAttributes) (keyData : Bytes) : Prop where
  found : getKeyData key = .ok (attributes, keyData)
  usage : hasUsage attributes.usage usage = true
  alg : wolfpsaAeadKeyPermitsAlg attributes alg = true

theorem SetupGranted.permitted {env : AeadEnv Aes ChaCha} {key : KeyId} {alg : Algorithm} {usage : KeyUsage}
    {attributes : KeyAttributes} {keyData : Bytes}
    (granted : SetupGranted env key alg usage attributes keyData) :
    CallPermitted env.getKeyData key alg usage attributes keyData := by
  have checked := granted.checked
  unfold wolfpsaAeadCheckAttributes at checked
  split_ifs at checked with family aes chacha flagged untagged admitted
  refine ⟨granted.found, ?_, ?_⟩
  · simpa using flagged
  · simpa using admitted

theorem oneShotKey_ok_iff {family : OneShotAead} {getKeyData : KeyLookup} {key : KeyId} {alg : Algorithm}
    {usage : KeyUsage} {keyData : Bytes} :
    oneShotKey family getKeyData key alg usage = .ok keyData ↔ ∃ attributes,
      CallPermitted getKeyData key alg usage attributes keyData ∧ attributes.type = family.keyType ∧
        keyData.length = family.keySize := by
  unfold oneShotKey
  rw [except_bind_ok_iff]
  constructor
  · rintro ⟨⟨attributes, material⟩, found, rest⟩
    simp only [require_bind_ok_iff, Bool.and_eq_true, beq_iff_eq] at rest
    obtain ⟨⟨type, size⟩, usage, alg, same⟩ := rest
    cases same
    exact ⟨attributes, ⟨found, usage, alg⟩, type, size⟩
  · rintro ⟨attributes, permitted, type, size⟩
    refine ⟨(attributes, keyData), permitted.found, ?_⟩
    simp only [require_bind_ok_iff, Bool.and_eq_true, beq_iff_eq]
    exact ⟨⟨type, size⟩, permitted.usage, permitted.alg, rfl⟩

theorem oneShotEncryptChecks_ok_iff {family : OneShotAead} {alg : Algorithm}
    {nonceLength plaintextLength size : Nat} {u : Unit} :
    oneShotEncryptChecks family alg nonceLength plaintextLength size = .ok u ↔
      alg = family.alg ∧ nonceLength = family.nonceSize ∧ plaintextLength ≤ sizeMax - family.tagSize ∧
        plaintextLength + family.tagSize ≤ size := by
  unfold oneShotEncryptChecks
  simp only [require_bind_ok_iff, require_ok_iff, beq_iff_eq, decide_eq_true_eq]

theorem oneShotDecryptChecks_ok_iff {family : OneShotAead} {alg : Algorithm} {nonceLength : Nat}
    {lengthNull : Bool} {ciphertextLength size : Nat} {u : Unit} :
    oneShotDecryptChecks family alg nonceLength lengthNull ciphertextLength size = .ok u ↔
      alg = family.alg ∧ nonceLength = family.nonceSize ∧ lengthNull = false ∧
        family.tagSize ≤ ciphertextLength ∧ ciphertextLength - family.tagSize ≤ size := by
  unfold oneShotDecryptChecks
  simp only [require_bind_ok_iff, require_ok_iff, beq_iff_eq, decide_eq_true_eq, Bool.not_eq_true']

section

variable {m : OneShotMeaning Aes ChaCha Ascon} {env : AeadEnv Aes ChaCha} {wc : WcAeadOneShot Ascon}
  {key : KeyId} {alg : Algorithm} {nonce aad : InBuf} {out whole : Bytes}

theorem bytes_le (input : InBuf) : input.bytes.length ≤ input.length := by
  cases input with
  | null n => exact Nat.zero_le n
  | data bytes => exact Nat.le_refl _

theorem front_bytes (n : Nat) (input : InBuf) : (input.front n).bytes = input.bytes.take n := by
  cases input with
  | null k => exact List.take_nil.symm
  | data bytes => rfl

theorem behind_bytes (n : Nat) (input : InBuf) : (input.behind n).bytes = input.bytes.drop n := by
  cases input with
  | null k => exact List.drop_nil.symm
  | data bytes => rfl

/-- What a one-shot encryption has written. -/
def Sealed (m : OneShotMeaning Aes ChaCha Ascon) (alg : Algorithm) (keyData : Bytes)
    (nonce aad : InBuf) (plaintext whole : Bytes) : Prop :=
  whole = joined (m.sealOf alg keyData nonce.bytes aad.bytes plaintext) ∧
    (m.sealOf alg keyData nonce.bytes aad.bytes plaintext).1.length = plaintext.length ∧
    (m.sealOf alg keyData nonce.bytes aad.bytes plaintext).2.length = psaAlgAeadGetTagLength alg

theorem Sealed.length {keyData plaintext : Bytes} (sealing : Sealed m alg keyData nonce aad plaintext whole) :
    whole.length = plaintext.length + psaAlgAeadGetTagLength alg := by
  obtain ⟨rfl, text, tag⟩ := sealing
  unfold joined
  rw [List.length_append, text, tag]

theorem xchacha_sealed {keyData plaintext : Bytes} (exact : alg = psaAlgXchacha20Poly1305)
    (same : whole = joined (m.xchacha keyData nonce.bytes aad.bytes plaintext)) :
    Sealed m alg keyData nonce aad plaintext whole := by
  subst exact
  have sealOf : m.sealOf psaAlgXchacha20Poly1305 keyData nonce.bytes aad.bytes plaintext =
      m.xchacha keyData nonce.bytes aad.bytes plaintext := if_pos (by decide)
  have lengths := m.length_xchacha keyData nonce.bytes aad.bytes plaintext
  unfold Sealed
  rw [sealOf, lengths.1, lengths.2]
  exact ⟨same, rfl, by decide⟩

theorem ascon_sealed {keyData plaintext : Bytes} (exact : alg = psaAlgAsconAead128)
    (same : whole = joined (m.ascon keyData nonce.bytes aad.bytes plaintext)) :
    Sealed m alg keyData nonce aad plaintext whole := by
  subst exact
  have sealOf : m.sealOf psaAlgAsconAead128 keyData nonce.bytes aad.bytes plaintext =
      m.ascon keyData nonce.bytes aad.bytes plaintext := by
    unfold OneShotMeaning.sealOf
    rw [if_neg (by decide), if_pos (by decide)]
  have lengths := m.length_ascon keyData nonce.bytes aad.bytes plaintext
  unfold Sealed
  rw [sealOf, lengths.1, lengths.2]
  exact ⟨same, rfl, by decide⟩

/-- A seal of the multipart interface. -/
theorem multipart_sealed {keyData plaintext bytes tag : Bytes}
    (notXchacha : ¬psaAlgAeadEqual alg psaAlgXchacha20Poly1305 = true)
    (notAscon : ¬psaAlgAeadEqual alg psaAlgAsconAead128 = true)
    (sealing : m.seal alg keyData nonce.bytes aad.bytes plaintext = (bytes, tag))
    (text : bytes.length = plaintext.length) (tagged : tag.length = psaAlgAeadGetTagLength alg) :
    Sealed m alg keyData nonce aad plaintext (bytes ++ tag) := by
  have sealOf : m.sealOf alg keyData nonce.bytes aad.bytes plaintext =
      m.seal alg keyData nonce.bytes aad.bytes plaintext := by
    unfold OneShotMeaning.sealOf
    rw [if_neg notXchacha, if_neg notAscon]
  unfold Sealed
  rw [sealOf, sealing]
  exact ⟨rfl, text, tagged⟩

/-- A one-shot encryption that succeeds. -/
theorem encrypt_seals {plaintext : InBuf} {ciphertext : OutBuf} (laws : m.Computes env.wc)
    (one : m.ComputesOneShot wc)
    (done : psaAeadEncrypt env wc key alg nonce aad plaintext ciphertext = .ok whole) :
    ∃ attributes keyData, CallPermitted env.getKeyData key alg psaKeyUsageEncrypt attributes keyData ∧
      Sealed m alg keyData nonce aad plaintext.bytes whole ∧ whole.length ≤ ciphertext.size := by
  have below := bytes_le plaintext
  unfold psaAeadEncrypt at done
  split_ifs at done with xchacha ascon
  · unfold wolfpsaXchachaOneshotEncrypt at done
    obtain ⟨_, checks, done⟩ := except_bind_ok done
    obtain ⟨keyData, found, done⟩ := except_bind_ok done
    obtain ⟨attributes, permitted, -, -⟩ := oneShotKey_ok_iff.mp found
    obtain ⟨same, -, -, room⟩ := oneShotEncryptChecks_ok_iff.mp checks
    have exact : alg = psaAlgXchacha20Poly1305 := same
    have sealing := xchacha_sealed exact (one.xchachaEncrypt (wcCall_ok_iff.mp done))
    refine ⟨attributes, keyData, permitted, sealing, ?_⟩
    rw [sealing.length, exact]
    exact Nat.le_trans (Nat.add_le_add_right below _) room
  · unfold wolfpsaAsconOneshotEncrypt at done
    obtain ⟨_, checks, done⟩ := except_bind_ok done
    obtain ⟨-, done⟩ := require_bind_ok_iff.mp done
    obtain ⟨keyData, found, done⟩ := except_bind_ok done
    obtain ⟨attributes, permitted, -, -⟩ := oneShotKey_ok_iff.mp found
    obtain ⟨object, started, done⟩ := except_bind_ok done
    obtain ⟨⟨text, moved⟩, updated, done⟩ := except_bind_ok done
    obtain ⟨tag, final, done⟩ := except_bind_ok done
    obtain ⟨same, -, -, room⟩ := oneShotEncryptChecks_ok_iff.mp checks
    have exact : alg = psaAlgAsconAead128 := same
    cases done
    have computed := one.asconEncrypt (one.asconStart (wcCall_ok_iff.mp started))
      (wcCall_ok_iff.mp updated) (wcCall_ok_iff.mp final)
    have sealing : Sealed m alg keyData nonce aad plaintext.bytes (text ++ tag) :=
      ascon_sealed exact (by rw [computed]; rfl)
    refine ⟨attributes, keyData, permitted, sealing, ?_⟩
    rw [sealing.length, exact]
    exact Nat.le_trans (Nat.add_le_add_right below _) room
  · obtain ⟨attributes, keyData, bytes, tag, granted, -, short, -, buffered, rfl, room⟩ :=
      aeadEncryptOneShot_ok done
    have sealing : m.seal alg keyData nonce.bytes aad.bytes plaintext.bytes = (bytes, tag) :=
      encryptBuffered_seals laws rfl (setup_chachaTag granted.sized) buffered
    obtain ⟨text, tagged⟩ := seal_lengths m sealing (setup_chachaTag granted.sized)
    exact ⟨attributes, keyData, granted.permitted,
      multipart_sealed xchacha ascon sealing text (tagged.trans (Nat.min_eq_left short)), room⟩

/-- A one-shot decryption that succeeds. -/
theorem decrypt_seals {ciphertext : InBuf} {plaintext : OutBuf} {lengthNull : Bool}
    (laws : m.Computes env.wc) (one : m.ComputesOneShot wc)
    (done : psaAeadDecrypt env wc key alg nonce aad ciphertext plaintext lengthNull = .ok out) :
    ∃ attributes keyData, CallPermitted env.getKeyData key alg psaKeyUsageDecrypt attributes keyData ∧
      Sealed m alg keyData nonce aad out ciphertext.bytes ∧ out.length ≤ plaintext.size := by
  have below := bytes_le ciphertext
  unfold psaAeadDecrypt at done
  split_ifs at done with xchacha ascon
  · unfold wolfpsaXchachaOneshotDecrypt at done
    obtain ⟨_, checks, done⟩ := except_bind_ok done
    obtain ⟨keyData, found, done⟩ := except_bind_ok done
    obtain ⟨attributes, permitted, -, -⟩ := oneShotKey_ok_iff.mp found
    obtain ⟨same, -, -, -, room⟩ := oneShotDecryptChecks_ok_iff.mp checks
    have exact : alg = psaAlgXchacha20Poly1305 := same
    have sealing : Sealed m alg keyData nonce aad out ciphertext.bytes :=
      xchacha_sealed exact (one.xchachaDecrypt (wcCall_ok_iff.mp done))
    refine ⟨attributes, keyData, permitted, sealing, ?_⟩
    have length := sealing.length
    have sixteen : psaAlgAeadGetTagLength alg = xchachaOneShot.tagSize := by
      rw [exact]
      decide
    omega
  · unfold wolfpsaAsconOneshotDecrypt at done
    obtain ⟨_, checks, done⟩ := except_bind_ok done
    dsimp only at done
    obtain ⟨-, done⟩ := require_bind_ok_iff.mp done
    obtain ⟨keyData, found, done⟩ := except_bind_ok done
    obtain ⟨attributes, permitted, -, -⟩ := oneShotKey_ok_iff.mp found
    obtain ⟨object, started, done⟩ := except_bind_ok done
    obtain ⟨⟨text, moved⟩, updated, done⟩ := except_bind_ok done
    obtain ⟨u, final, done⟩ := except_bind_ok done
    obtain ⟨same, -, -, -, room⟩ := oneShotDecryptChecks_ok_iff.mp checks
    have exact : alg = psaAlgAsconAead128 := same
    cases done
    have computed := one.asconDecrypt (one.asconStart (wcCall_ok_iff.mp started))
      (mapError_ok_iff.mp updated) (mapError_ok_iff.mp final)
    have sealing : Sealed m alg keyData nonce aad text ciphertext.bytes := by
      refine ascon_sealed exact ?_
      rw [computed, front_bytes, behind_bytes]
      exact (List.take_append_drop _ _).symm
    refine ⟨attributes, keyData, permitted, sealing, ?_⟩
    have length := sealing.length
    have sixteen : psaAlgAeadGetTagLength alg = asconOneShot.tagSize := by
      rw [exact]
      decide
    dsimp only
    omega
  · obtain ⟨attributes, keyData, granted, -, -, feeds, opened⟩ := aeadDecryptOneShot_ok_iff.mp done
    obtain ⟨tagReadable, -, tagged, room, -, buffered⟩ := (decryptFinal_held_iff rfl
      (messageCtx_named feeds) messageCtx_declared (messageCtx_totals feeds)).mp opened
    have given : (ciphertext.behind (ciphertext.length - psaAlgAeadGetTagLength alg)).bytes.length =
        psaAlgAeadGetTagLength alg := tagReadable.trans tagged
    have sealing : m.seal alg keyData nonce.bytes aad.bytes out =
        ((ciphertext.front (ciphertext.length - psaAlgAeadGetTagLength alg)).bytes,
          (ciphertext.behind (ciphertext.length - psaAlgAeadGetTagLength alg)).bytes) :=
      decryptBuffered_seals laws rfl (setup_chachaTag granted.sized) given buffered
    have text := (seal_lengths m sealing (setup_chachaTag granted.sized)).1
    have sealed := multipart_sealed xchacha ascon sealing text given
    have parts : (ciphertext.front (ciphertext.length - psaAlgAeadGetTagLength alg)).bytes ++
        (ciphertext.behind (ciphertext.length - psaAlgAeadGetTagLength alg)).bytes = ciphertext.bytes := by
      rw [front_bytes, behind_bytes, List.take_append_drop]
    rw [parts] at sealed
    exact ⟨attributes, keyData, granted.permitted, sealed,
      Nat.le_trans (Nat.le_of_eq (text.symm.trans feeds.payloadReadable)) room⟩

/-! ## The round trip -/

/-- wolfCrypt does not refuse the message that seals a plaintext. -/
structure OpensMessage (m : OneShotMeaning Aes ChaCha Ascon) (env : AeadEnv Aes ChaCha)
    (wc : WcAeadOneShot Ascon) (alg : Algorithm) (key : Bytes) (nonce aad : InBuf) (plaintext : Bytes)
    (space : Nat) : Prop where
  aesNew : ∃ aes, env.wc.aesNew = .ok aes
  gcmSetKey : psaAlgAeadEqual alg psaAlgGcm = true → ∀ aes, ∃ keyed, env.wc.gcmSetKey aes key = .ok keyed
  gcmDecrypt : psaAlgAeadEqual alg psaAlgGcm = true → ∀ aes, m.gcmKey aes key →
    ∃ out, env.wc.gcmDecrypt aes (m.sealOf alg key nonce.bytes aad.bytes plaintext).1 nonce.bytes aad.bytes
      (m.sealOf alg key nonce.bytes aad.bytes plaintext).2 = .ok out
  ccmSetKey : psaAlgAeadEqual alg psaAlgCcm = true → ∀ aes, ∃ keyed, env.wc.ccmSetKey aes key = .ok keyed
  ccmDecrypt : psaAlgAeadEqual alg psaAlgCcm = true → ∀ aes, m.ccmKey aes key →
    ∃ out, env.wc.ccmDecrypt aes (m.sealOf alg key nonce.bytes aad.bytes plaintext).1 nonce.bytes aad.bytes
      (m.sealOf alg key nonce.bytes aad.bytes plaintext).2 = .ok out
  chachaDecrypt : psaAlgAeadEqual alg psaAlgChacha20Poly1305 = true →
    ∃ out, env.wc.chachaDecrypt key nonce.bytes aad.bytes
      (m.sealOf alg key nonce.bytes aad.bytes plaintext).1
      (m.sealOf alg key nonce.bytes aad.bytes plaintext).2 = .ok out
  xchachaDecrypt : alg = psaAlgXchacha20Poly1305 →
    ∃ out, wc.xchachaDecrypt space (.data (joined (m.sealOf alg key nonce.bytes aad.bytes plaintext))) aad
      nonce key = .ok out
  asconDecrypt : alg = psaAlgAsconAead128 → ∃ ascon out moved, asconStart wc key nonce aad = .ok ascon ∧
    wc.asconDecryptUpdate ascon (.data (m.sealOf alg key nonce.bytes aad.bytes plaintext).1) =
      .ok (out, moved) ∧
    wc.asconDecryptFinal moved (.data (m.sealOf alg key nonce.bytes aad.bytes plaintext).2) = .ok ()

/-- Another call meets the same key material under a policy that admits decryption, and memory. -/
structure DecryptionGranted (env env' : AeadEnv Aes ChaCha) (key key' : KeyId) (alg : Algorithm) : Prop
    where
  found : ∀ attributes keyData, env.getKeyData key = .ok (attributes, keyData) → ∃ attributes',
    CallPermitted env'.getKeyData key' alg psaKeyUsageDecrypt attributes' keyData ∧
      attributes'.type = attributes.type
  ctxAlloc : env'.ctxAlloc = true
  keyAlloc : env'.keyAlloc = true
  bufferAlloc : ∀ n, env'.bufferAlloc n = true
  sizes : env'.sizes = env.sizes

/-- The checks on a key depend on its type and its policy only. -/
theorem checkAttributes_transfer {attributes attributes' : KeyAttributes} {usage usage' : KeyUsage}
    (checked : wolfpsaAeadCheckAttributes attributes usage alg = .success)
    (type : attributes'.type = attributes.type) (flag : hasUsage attributes'.usage usage' = true)
    (permits : wolfpsaAeadKeyPermitsAlg attributes' alg = true) :
    wolfpsaAeadCheckAttributes attributes' usage' alg = .success := by
  unfold wolfpsaAeadCheckAttributes at checked ⊢
  rw [type, flag, permits]
  split_ifs at checked with family aes chacha flagged untagged admitted
  rw [if_pos family, if_neg aes, if_neg chacha, if_neg (by decide), if_neg untagged, if_neg (by decide)]

/-- What a ChaCha20-Poly1305 encryption has checked. -/
theorem encryptBuffered_chacha {ctx : AeadCtx Aes ChaCha} {sealing : Bytes × Bytes}
    (done : aeadEncryptBuffered env ctx = .ok sealing)
    (chacha : psaAlgAeadEqual ctx.alg psaAlgChacha20Poly1305 = true) :
    chachaOneShotChecks ctx.alg ctx.key ctx.nonce = .ok () ∧
      wolfpsaCheckWord32Length ctx.aad.length = .success := by
  have notGcm : ¬psaAlgAeadEqual ctx.alg psaAlgGcm = true :=
    Bool.eq_false_iff.mp (aeadEqual_false (by decide) chacha)
  have notCcm : ¬psaAlgAeadEqual ctx.alg psaAlgCcm = true :=
    Bool.eq_false_iff.mp (aeadEqual_false (by decide) chacha)
  unfold aeadEncryptBuffered at done
  rw [if_neg notGcm, if_neg notCcm, if_pos chacha] at done
  obtain ⟨-, done⟩ := require_bind_ok_iff.mp done
  obtain ⟨whole, made, -⟩ := except_bind_ok done
  unfold psaChacha20Poly1305Encrypt at made
  obtain ⟨u, checks, made⟩ := except_bind_ok made
  obtain ⟨words, -⟩ := require_bind_ok_iff.mp made
  simp only [Bool.and_eq_true, beq_iff_eq] at words
  exact ⟨checks, words.1⟩

/-- The one-shot call of `psa_aead_verify` does not refuse what seals. -/
theorem decryptBuffered_opens {ctx : AeadCtx Aes ChaCha} {attributes : KeyAttributes} {usage : KeyUsage}
    {plaintext text tag : Bytes} {size : Nat} (laws : m.Computes env.wc)
    (opens : OpensMessage m env wc ctx.alg ctx.key nonce aad plaintext size)
    (granted : SetupGranted env key ctx.alg usage attributes ctx.key) (named : ctx.nonce = nonce.bytes)
    (associated : ctx.aad = aad.bytes) (held : ctx.input = text) (counted : ctx.inputLength = text.length)
    (sealing : m.sealOf ctx.alg ctx.key nonce.bytes aad.bytes plaintext = (text, tag))
    (tagged : tag.length = psaAlgAeadGetTagLength ctx.alg) (alloc : ∀ n, env.bufferAlloc n = true)
    (room : text.length ≤ size) (word : wolfpsaCheckWord32Length text.length = .success)
    (chachaReady : psaAlgAeadEqual ctx.alg psaAlgChacha20Poly1305 = true →
      chachaOneShotChecks ctx.alg ctx.key ctx.nonce = .ok () ∧
        wolfpsaCheckWord32Length ctx.aad.length = .success) :
    ∃ out, aeadDecryptBuffered env ctx tag size = .ok out := by
  obtain ⟨fresh, made⟩ := opens.aesNew
  unfold aeadDecryptBuffered
  split_ifs with gcm ccm chacha
  · obtain ⟨aes, keyed⟩ := opens.gcmSetKey gcm fresh
    obtain ⟨out, opened⟩ := opens.gcmDecrypt gcm aes (laws.gcmSetKey keyed)
    rw [sealing, ← held, ← named, ← associated] at opened
    exact ⟨out, except_bind_ok_iff.mpr ⟨fresh, wcCall_ok_iff.mpr made, except_bind_ok_iff.mpr
      ⟨aes, wcCall_ok_iff.mpr keyed, wcCall_ok_iff.mpr opened⟩⟩⟩
  · obtain ⟨aes, keyed⟩ := opens.ccmSetKey ccm fresh
    obtain ⟨out, opened⟩ := opens.ccmDecrypt ccm aes (laws.ccmSetKey keyed)
    rw [sealing, ← held, ← named, ← associated] at opened
    have sized : env.sizes.ccmCheckTagSize tag.length = true := by
      have sized := granted.sized
      unfold aeadSetupTagLength at sized
      dsimp only at sized
      rw [ccm, Bool.true_and, ← tagged] at sized
      split_ifs at sized with zero refused
      simpa using refused
    exact ⟨out, require_bind_ok_iff.mpr ⟨sized, except_bind_ok_iff.mpr ⟨fresh, wcCall_ok_iff.mpr made,
      except_bind_ok_iff.mpr ⟨aes, wcCall_ok_iff.mpr keyed, wcCall_ok_iff.mpr opened⟩⟩⟩⟩
  · obtain ⟨checks, aadWord⟩ := chachaReady chacha
    obtain ⟨out, opened⟩ := opens.chachaDecrypt chacha
    rw [sealing, ← named, ← associated] at opened
    have sixteen : tag.length = 16 := tagged.trans (setup_chachaTag granted.sized chacha)
    have total : (text ++ tag).length - 16 = text.length := by
      rw [List.length_append, sixteen, Nat.add_sub_cancel]
    have short := word32_iff.mp word
    unfold uint32Max at short
    have decrypted : psaChacha20Poly1305Decrypt env.wc ctx.alg ctx.key ctx.nonce ctx.aad (text ++ tag) size =
        .ok out := by
      unfold psaChacha20Poly1305Decrypt
      rw [total, List.take_left, List.drop_left]
      refine except_bind_ok_iff.mpr ⟨(), checks, require_bind_ok_iff.mpr ⟨?_, require_bind_ok_iff.mpr
        ⟨?_, require_bind_ok_iff.mpr ⟨decide_eq_true room, wcCall_ok_iff.mpr opened⟩⟩⟩⟩
      · rw [List.length_append, sixteen]
        exact decide_eq_true (Nat.le_add_left 16 _)
      · rw [aadWord, word]
        rfl
    refine ⟨out, require_bind_ok_iff.mpr ⟨?_, require_bind_ok_iff.mpr ⟨alloc _, ?_⟩⟩⟩
    · rw [counted, sixteen]
      exact decide_eq_true (by unfold sizeMax; omega)
    · rw [held, decrypted]
      rfl
  · have checked := granted.checked
    unfold wolfpsaAeadCheckAttributes at checked
    rw [Bool.eq_false_iff.mpr gcm, Bool.eq_false_iff.mpr ccm, Bool.eq_false_iff.mpr chacha] at checked
    cases checked

theorem sealOf_injective {key nonce aad plaintext other : Bytes}
    (same : m.sealOf alg key nonce aad plaintext = m.sealOf alg key nonce aad other) : plaintext = other := by
  unfold OneShotMeaning.sealOf at same
  split_ifs at same
  · exact m.xchacha_injective key nonce aad same
  · exact m.ascon_injective key nonce aad same
  · exact seal_injective m same

theorem Sealed.plaintext_unique {keyData plaintext other : Bytes}
    (first : Sealed m alg keyData nonce aad plaintext whole)
    (second : Sealed m alg keyData nonce aad other whole) : plaintext = other := by
  have tags := first.2.2.trans second.2.2.symm
  exact sealOf_injective (joined_injective tags (first.1.symm.trans second.1))

section

variable {env' : AeadEnv Aes ChaCha} {wc' : WcAeadOneShot Ascon} {key' : KeyId} {plaintext : InBuf}
  {ciphertext output : OutBuf}

theorem xchacha_opens (one : m.ComputesOneShot wc)
    (done : wolfpsaXchachaOneshotEncrypt env.getKeyData wc key alg nonce aad plaintext ciphertext.size =
      .ok whole)
    (granted : DecryptionGranted env env' key key' alg)
    (opens : ∀ attributes keyData, env.getKeyData key = .ok (attributes, keyData) →
      OpensMessage m env' wc' alg keyData nonce aad plaintext.bytes output.size)
    (room : plaintext.length ≤ output.size) :
    ∃ out, wolfpsaXchachaOneshotDecrypt env'.getKeyData wc' key' alg nonce aad (.data whole) output.size
      false = .ok out := by
  unfold wolfpsaXchachaOneshotEncrypt at done
  obtain ⟨_, checks, done⟩ := except_bind_ok done
  obtain ⟨keyData, found, done⟩ := except_bind_ok done
  obtain ⟨attributes, permitted, type, size⟩ := oneShotKey_ok_iff.mp found
  obtain ⟨exact, nonceSize, -, -⟩ := oneShotEncryptChecks_ok_iff.mp checks
  obtain ⟨attributes', permitted', type'⟩ := granted.found attributes keyData permitted.found
  have sealing : Sealed m alg keyData nonce aad plaintext.bytes whole :=
    xchacha_sealed exact (one.xchachaEncrypt (wcCall_ok_iff.mp done))
  obtain ⟨out, opened⟩ := (opens attributes keyData permitted.found).xchachaDecrypt exact
  rw [← sealing.1] at opened
  have length := sealing.length
  have below := bytes_le plaintext
  have sixteen : psaAlgAeadGetTagLength alg = xchachaOneShot.tagSize := by
    rw [exact]
    decide
  unfold wolfpsaXchachaOneshotDecrypt
  refine ⟨out, except_bind_ok_iff.mpr ⟨(), oneShotDecryptChecks_ok_iff.mpr ⟨exact, nonceSize, rfl, ?_, ?_⟩,
    except_bind_ok_iff.mpr ⟨keyData, oneShotKey_ok_iff.mpr ⟨attributes', permitted', type'.trans type, size⟩,
      wcCall_ok_iff.mpr opened⟩⟩⟩
  · show _ ≤ whole.length
    omega
  · show whole.length - _ ≤ _
    omega

theorem ascon_opens (one : m.ComputesOneShot wc)
    (done : wolfpsaAsconOneshotEncrypt env.getKeyData wc key alg nonce aad plaintext ciphertext.size =
      .ok whole)
    (granted : DecryptionGranted env env' key key' alg)
    (opens : ∀ attributes keyData, env.getKeyData key = .ok (attributes, keyData) →
      OpensMessage m env' wc' alg keyData nonce aad plaintext.bytes output.size)
    (room : plaintext.length ≤ output.size) :
    ∃ out, wolfpsaAsconOneshotDecrypt env'.getKeyData wc' key' alg nonce aad (.data whole) output.size
      false = .ok out := by
  unfold wolfpsaAsconOneshotEncrypt at done
  obtain ⟨_, checks, done⟩ := except_bind_ok done
  obtain ⟨words, done⟩ := require_bind_ok_iff.mp done
  obtain ⟨keyData, found, done⟩ := except_bind_ok done
  obtain ⟨attributes, permitted, type, size⟩ := oneShotKey_ok_iff.mp found
  obtain ⟨exact, nonceSize, -, -⟩ := oneShotEncryptChecks_ok_iff.mp checks
  obtain ⟨attributes', permitted', type'⟩ := granted.found attributes keyData permitted.found
  obtain ⟨object, started, done⟩ := except_bind_ok done
  obtain ⟨⟨text, moved⟩, updated, done⟩ := except_bind_ok done
  obtain ⟨tag, final, done⟩ := except_bind_ok done
  cases done
  have computed := one.asconEncrypt (one.asconStart (wcCall_ok_iff.mp started))
    (wcCall_ok_iff.mp updated) (wcCall_ok_iff.mp final)
  have sealing : Sealed m alg keyData nonce aad plaintext.bytes (text ++ tag) :=
    ascon_sealed exact (by rw [computed]; rfl)
  have sealOf : m.sealOf alg keyData nonce.bytes aad.bytes plaintext.bytes = (text, tag) := by
    subst exact
    unfold OneShotMeaning.sealOf
    rw [if_neg (by decide), if_pos (by decide), computed]
  obtain ⟨-, textLength, tagLength⟩ := sealing
  have sixteen : psaAlgAeadGetTagLength alg = asconOneShot.tagSize := by
    rw [exact]
    decide
  have total : (InBuf.data (text ++ tag)).length - asconOneShot.tagSize = text.length := by
    show (text ++ tag).length - _ = _
    rw [sealOf] at tagLength
    rw [List.length_append, tagLength, sixteen, Nat.add_sub_cancel]
  obtain ⟨opening, out, next, begun, opened, checked⟩ :=
    (opens attributes keyData permitted.found).asconDecrypt exact
  have below := bytes_le plaintext
  rw [sealOf] at opened checked textLength tagLength
  dsimp only at opened checked textLength tagLength
  simp only [Bool.and_eq_true, beq_iff_eq] at words
  have word : wolfpsaCheckWord32Length text.length = .success :=
    word32_iff.mpr (Nat.le_trans (Nat.le_trans (Nat.le_of_eq textLength) below) (word32_iff.mp words.1))
  unfold wolfpsaAsconOneshotDecrypt
  dsimp only
  rw [total]
  refine ⟨out, except_bind_ok_iff.mpr ⟨(), oneShotDecryptChecks_ok_iff.mpr ⟨exact, nonceSize, rfl, ?_, ?_⟩,
    require_bind_ok_iff.mpr ⟨by rw [word, words.2]; rfl, except_bind_ok_iff.mpr
      ⟨keyData, oneShotKey_ok_iff.mpr ⟨attributes', permitted', type'.trans type, size⟩, ?_⟩⟩⟩⟩
  · show _ ≤ (text ++ tag).length
    rw [List.length_append]
    omega
  · rw [total]
    omega
  · have front : (InBuf.data (text ++ tag)).front text.length = .data text :=
      congrArg InBuf.data List.take_left
    have behind : (InBuf.data (text ++ tag)).behind text.length = .data tag :=
      congrArg InBuf.data List.drop_left
    rw [front, behind]
    exact except_bind_ok_iff.mpr ⟨opening, wcCall_ok_iff.mpr begun, except_bind_ok_iff.mpr
      ⟨(out, next), mapError_ok_iff.mpr opened, except_bind_ok_iff.mpr
        ⟨(), mapError_ok_iff.mpr checked, rfl⟩⟩⟩

theorem multipart_opens (laws : m.Computes env.wc) (laws' : m.Computes env'.wc)
    (notXchacha : ¬psaAlgAeadEqual alg psaAlgXchacha20Poly1305 = true)
    (notAscon : ¬psaAlgAeadEqual alg psaAlgAsconAead128 = true)
    (done : aeadEncryptOneShot env key alg nonce aad plaintext ciphertext = .ok whole)
    (granted : DecryptionGranted env env' key key' alg)
    (opens : ∀ attributes keyData, env.getKeyData key = .ok (attributes, keyData) →
      OpensMessage m env' wc' alg keyData nonce aad plaintext.bytes output.size)
    (given : output.isNull = false) (room : plaintext.length ≤ output.size) :
    ∃ out, aeadDecryptOneShot env' key' alg nonce aad (.data whole) output false = .ok out := by
  obtain ⟨attributes, keyData, bytes, tag, setup, feeds, short, word, buffered, rfl, -⟩ :=
    aeadEncryptOneShot_ok done
  obtain ⟨attributes', permitted', type'⟩ := granted.found attributes keyData setup.found
  have sealing : m.seal alg keyData nonce.bytes aad.bytes plaintext.bytes = (bytes, tag) :=
    encryptBuffered_seals laws rfl (setup_chachaTag setup.sized) buffered
  have lengths := seal_lengths m sealing (setup_chachaTag setup.sized)
  have tagged := lengths.2.trans (Nat.min_eq_left short)
  have sealOf : m.sealOf alg keyData nonce.bytes aad.bytes plaintext.bytes = (bytes, tag) := by
    unfold OneShotMeaning.sealOf
    rw [if_neg notXchacha, if_neg notAscon, sealing]
  have setup' : SetupGranted env' key' alg psaKeyUsageDecrypt attributes' keyData :=
    ⟨setup.gate, permitted'.found, checkAttributes_transfer setup.checked type' permitted'.usage
      permitted'.alg, granted.ctxAlloc, by rw [granted.sizes]; exact setup.sized, granted.keyAlloc⟩
  have same : bytes.length = plaintext.length := lengths.1.trans feeds.payloadReadable
  have feeds' : Feeds env' (setupCtx env'.wc alg psaKeyUsageDecrypt attributes' keyData) nonce aad
      (.data bytes) := feeds.transfer rfl type' granted.bufferAlloc rfl same
  have total : (InBuf.data (bytes ++ tag)).length - psaAlgAeadGetTagLength alg = bytes.length := by
    show (bytes ++ tag).length - _ = _
    rw [List.length_append, tagged, Nat.add_sub_cancel]
  have front : (InBuf.data (bytes ++ tag)).front bytes.length = .data bytes :=
    congrArg InBuf.data List.take_left
  have behind : (InBuf.data (bytes ++ tag)).behind bytes.length = .data tag :=
    congrArg InBuf.data List.drop_left
  have word' : wolfpsaCheckWord32Length bytes.length = .success := by
    rw [same]
    exact word
  have fits : bytes.length ≤ output.size := Nat.le_trans (Nat.le_of_eq same) room
  have untagged : psaAlgAeadGetTagLength alg ≠ 0 := by
    have sized := setup.sized
    unfold aeadSetupTagLength at sized
    intro zero
    rw [zero] at sized
    cases sized
  have ready : psaAlgAeadEqual alg psaAlgChacha20Poly1305 = true →
      chachaOneShotChecks alg keyData nonce.bytes = .ok () ∧
        wolfpsaCheckWord32Length aad.bytes.length = .success := encryptBuffered_chacha buffered
  have opening : ∃ out, aeadDecryptBuffered env' (messageCtx env'.wc alg psaKeyUsageDecrypt attributes' keyData
      nonce aad (.data bytes)) tag output.size = .ok out :=
    decryptBuffered_opens laws' (opens attributes keyData setup.found) setup' rfl rfl rfl rfl sealOf tagged
      granted.bufferAlloc fits word' ready
  obtain ⟨out, opened⟩ := opening
  refine ⟨out, aeadDecryptOneShot_ok_iff.mpr ⟨attributes', keyData, setup', ⟨untagged, ?_⟩, rfl, ?_, ?_⟩⟩
  · show _ ≤ (bytes ++ tag).length
    rw [List.length_append, tagged]
    exact Nat.le_add_left _ _
  · rw [total, front]
    exact feeds'
  · rw [total, front, behind]
    refine (decryptFinal_held_iff rfl (messageCtx_named feeds') messageCtx_declared
      (messageCtx_totals feeds')).mpr ⟨rfl, by rw [given]; rfl, tagged, fits, ⟨word', ?_⟩, opened⟩
    show wolfpsaCheckWord32Length aad.bytes.length = .success
    rw [feeds.aadReadable]
    exact feeds.aadWord

/-- Decryption takes back what encryption made. -/
theorem decrypt_encrypt (laws : m.Computes env.wc) (one : m.ComputesOneShot wc)
    (laws' : m.Computes env'.wc) (one' : m.ComputesOneShot wc')
    (done : psaAeadEncrypt env wc key alg nonce aad plaintext ciphertext = .ok whole)
    (granted : DecryptionGranted env env' key key' alg)
    (opens : ∀ attributes keyData, env.getKeyData key = .ok (attributes, keyData) →
      OpensMessage m env' wc' alg keyData nonce aad plaintext.bytes output.size)
    (given : output.isNull = false) (room : plaintext.length ≤ output.size) :
    psaAeadDecrypt env' wc' key' alg nonce aad (.data whole) output false = .ok plaintext.bytes := by
  have opened : ∃ out, psaAeadDecrypt env' wc' key' alg nonce aad (.data whole) output false = .ok out := by
    unfold psaAeadEncrypt at done
    unfold psaAeadDecrypt
    split_ifs at done ⊢ with xchacha ascon
    · exact xchacha_opens one done granted opens room
    · exact ascon_opens one done granted opens room
    · exact multipart_opens laws laws' xchacha ascon done granted opens given room
  obtain ⟨out, opened⟩ := opened
  obtain ⟨attributes, keyData, permitted, sealing, -⟩ := encrypt_seals laws one done
  obtain ⟨attributes', keyData', permitted', sealing', -⟩ := decrypt_seals laws' one' opened
  obtain ⟨_, expected, -⟩ := granted.found attributes keyData permitted.found
  have same := Except.ok.inj (permitted'.found.symm.trans expected.found)
  rw [(Prod.mk.inj same).2] at sealing'
  rw [opened, sealing'.plaintext_unique sealing]

end

end

/-- A success of `psa_aead_encrypt` is the seal of its message under the material of a key whose policy admits
the call, with a tag of the length that the algorithm names; so is what `psa_aead_decrypt` accepts; and with
that material, a policy that admits decryption and room, `psa_aead_decrypt` returns the plaintext of
everything that `psa_aead_encrypt` wrote. -/
theorem aead_oneshot_law (m : OneShotMeaning Aes ChaCha Ascon) (env : AeadEnv Aes ChaCha)
    (wc : WcAeadOneShot Ascon) (laws : m.Computes env.wc) (one : m.ComputesOneShot wc) (key : KeyId)
    (alg : Algorithm) (nonce aad : InBuf) :
    (∀ plaintext ciphertext whole,
      psaAeadEncrypt env wc key alg nonce aad plaintext ciphertext = .ok whole →
        ∃ attributes keyData, CallPermitted env.getKeyData key alg psaKeyUsageEncrypt attributes keyData ∧
          Sealed m alg keyData nonce aad plaintext.bytes whole ∧ whole.length ≤ ciphertext.size) ∧
    (∀ ciphertext plaintext lengthNull out,
      psaAeadDecrypt env wc key alg nonce aad ciphertext plaintext lengthNull = .ok out →
        ∃ attributes keyData, CallPermitted env.getKeyData key alg psaKeyUsageDecrypt attributes keyData ∧
          Sealed m alg keyData nonce aad out ciphertext.bytes ∧ out.length ≤ plaintext.size) ∧
    ∀ plaintext ciphertext whole env' wc' key' output, m.Computes env'.wc → m.ComputesOneShot wc' →
      psaAeadEncrypt env wc key alg nonce aad plaintext ciphertext = .ok whole →
      DecryptionGranted env env' key key' alg →
      (∀ attributes keyData, env.getKeyData key = .ok (attributes, keyData) →
        OpensMessage m env' wc' alg keyData nonce aad plaintext.bytes output.size) →
      output.isNull = false → plaintext.length ≤ output.size →
        psaAeadDecrypt env' wc' key' alg nonce aad (.data whole) output false = .ok plaintext.bytes :=
  ⟨fun _ _ _ done => encrypt_seals laws one done, fun _ _ _ _ done => decrypt_seals laws one done,
    fun _ _ _ _ _ _ _ laws' one' done granted opens given room =>
      decrypt_encrypt laws one laws' one' done granted opens given room⟩

/-! ### Example 1 of SP 800-38C -/

/-- No wolfCrypt call for the algorithms without a multipart interface. -/
def ccmExampleOneShot : WcAeadOneShot Unit where
  xchachaEncrypt _ _ _ _ _ := .error .other
  xchachaDecrypt _ _ _ _ _ := .error .other
  asconInit := .error .other
  asconSetKey _ _ := .error .other
  asconSetNonce _ _ := .error .other
  asconSetAd _ _ := .error .other
  asconEncryptUpdate _ _ := .error .other
  asconEncryptFinal _ := .error .other
  asconDecryptUpdate _ _ := .error (.code .other)
  asconDecryptFinal _ _ := .error .asconAuthE

theorem ccmExampleGcm_length (key nonce aad plaintext : Bytes) (n : Nat) :
    (ccmExampleMeaning.gcm key nonce aad plaintext n).1.length = plaintext.length ∧
      (ccmExampleMeaning.gcm key nonce aad plaintext n).2.length = min n 16 := ⟨rfl, List.length_replicate⟩

theorem ccmExampleGcm_injective (key nonce aad : Bytes) (n : Nat) :
    Function.Injective fun plaintext => ccmExampleMeaning.gcm key nonce aad plaintext n :=
  fun _ _ same => congrArg Prod.fst same

theorem ccmExampleChacha_injective (key nonce aad : Bytes) :
    Function.Injective (ccmExampleMeaning.chacha key nonce aad) := fun _ _ same => congrArg Prod.fst same

def ccmExampleSealing : OneShotMeaning Bytes Unit Unit where
  toAeadMeaning := ccmExampleMeaning
  xchacha := ccmExampleMeaning.chacha
  ascon := ccmExampleMeaning.chacha
  length_gcm := ccmExampleGcm_length
  length_xchacha := ccmExampleMeaning.length_chacha
  length_ascon := ccmExampleMeaning.length_chacha
  gcm_injective := ccmExampleGcm_injective
  chacha_injective := ccmExampleChacha_injective
  xchacha_injective := ccmExampleChacha_injective
  ascon_injective := ccmExampleChacha_injective
  asconReady _ _ _ _ := False

theorem ccmExampleOneShot_computes : ccmExampleSealing.ComputesOneShot ccmExampleOneShot where
  xchachaEncrypt refused := by cases refused
  xchachaDecrypt refused := by cases refused
  asconStart refused := by cases refused
  asconEncrypt ready := ready.elim
  asconDecrypt ready := ready.elim

def ccmExampleAad : Bytes := [0, 1, 2, 3, 4, 5, 6, 7]
def ccmExamplePlaintext : Bytes := [0x20, 0x21, 0x22, 0x23]
def ccmExampleCiphertext : Bytes := [0x71, 0x62, 0x01, 0x5b, 0x4d, 0xac, 0x25, 0x5d]

theorem ccmExample_encrypts : psaAeadEncrypt ccmExampleEnv ccmExampleOneShot 1 ccmExampleAlg
    (.data ccmExampleNonce) (.data ccmExampleAad) (.data ccmExamplePlaintext) ⟨false, 8⟩ =
      .ok ccmExampleCiphertext := by decide +kernel

theorem ccmExample_opens : OpensMessage ccmExampleSealing ccmExampleEnv ccmExampleOneShot ccmExampleAlg
    ccmExampleKey (.data ccmExampleNonce) (.data ccmExampleAad) ccmExamplePlaintext 4 where
  aesNew := ⟨[], rfl⟩
  gcmSetKey gcm := absurd gcm (by decide)
  gcmDecrypt gcm := absurd gcm (by decide)
  ccmSetKey _ _ := ⟨ccmExampleKey, rfl⟩
  ccmDecrypt := by
    rintro - _ rfl
    exact ⟨ccmExamplePlaintext, by decide +kernel⟩
  chachaDecrypt chacha := absurd chacha (by decide)
  xchachaDecrypt other := absurd other (by decide)
  asconDecrypt other := absurd other (by decide)

theorem aead_oneshot_law_example :
    psaAeadDecrypt ccmExampleEnv ccmExampleOneShot 1 ccmExampleAlg (.data ccmExampleNonce)
      (.data ccmExampleAad) (.data ccmExampleCiphertext) ⟨false, 4⟩ false = .ok ccmExamplePlaintext := by
  refine (aead_oneshot_law ccmExampleSealing ccmExampleEnv ccmExampleOneShot ccmExample_computes
    ccmExampleOneShot_computes 1 ccmExampleAlg (.data ccmExampleNonce) (.data ccmExampleAad)).2.2
    (.data ccmExamplePlaintext) ⟨false, 8⟩ ccmExampleCiphertext ccmExampleEnv ccmExampleOneShot 1 ⟨false, 4⟩
    ccmExample_computes ccmExampleOneShot_computes ccmExample_encrypts ?_ ?_ rfl (by decide)
  · refine ⟨fun attributes keyData found => ?_, rfl, rfl, fun _ => rfl, rfl⟩
    cases found
    exact ⟨_, ⟨rfl, by decide, by decide⟩, rfl⟩
  · intro attributes keyData found
    cases found
    exact ccmExample_opens

/-! ## Against the multipart interface -/

/-- The algorithms of the multipart interface. -/
def Multipart (alg : Algorithm) : Prop :=
  psaAlgAeadEqual alg psaAlgGcm = true ∨ psaAlgAeadEqual alg psaAlgCcm = true ∨
    psaAlgAeadEqual alg psaAlgChacha20Poly1305 = true

theorem Multipart.not_oneShot {alg : Algorithm} (family : Multipart alg) :
    ¬psaAlgAeadEqual alg psaAlgXchacha20Poly1305 = true ∧ ¬psaAlgAeadEqual alg psaAlgAsconAead128 = true := by
  rcases family with gcm | ccm | chacha
  · exact ⟨Bool.eq_false_iff.mp (aeadEqual_false (by decide) gcm),
      Bool.eq_false_iff.mp (aeadEqual_false (by decide) gcm)⟩
  · exact ⟨Bool.eq_false_iff.mp (aeadEqual_false (by decide) ccm),
      Bool.eq_false_iff.mp (aeadEqual_false (by decide) ccm)⟩
  · exact ⟨Bool.eq_false_iff.mp (aeadEqual_false (by decide) chacha),
      Bool.eq_false_iff.mp (aeadEqual_false (by decide) chacha)⟩

section

variable {env : AeadEnv Aes ChaCha} {ctx : AeadCtx Aes ChaCha}

/-- An encryption ends well for the algorithms of the interface only. -/
theorem encryptFinal_multipart {ciphertext tag : OutBuf} {lengthNull : Bool} {sealing : Bytes × Bytes}
    (done : wolfpsaAeadEncryptFinal env ctx ciphertext tag lengthNull = .ok sealing) :
    Multipart ctx.alg := by
  unfold wolfpsaAeadEncryptFinal at done
  simp only [require_bind_ok_iff] at done
  obtain ⟨-, -, -, -, done⟩ := done
  split at done
  · obtain ⟨-, done⟩ := require_bind_ok_iff.mp done
    obtain ⟨bytes, tagged, -⟩ := except_bind_ok done
    unfold aeadStreamTag at tagged
    split_ifs at tagged with gcm chacha ccm
    · exact .inl gcm
    · exact .inr (.inr chacha)
    · exact .inr (.inl ccm)
    · cases tagged
  · simp only [require_bind_ok_iff] at done
    obtain ⟨-, -, -, -, done⟩ := done
    unfold aeadEncryptBuffered at done
    split_ifs at done with gcm ccm chacha
    · exact .inl gcm
    · exact .inr (.inl ccm)
    · exact .inr (.inr chacha)
    · cases done

/-- So does a decryption. -/
theorem decryptFinal_multipart {plaintext : OutBuf} {tag : InBuf} {lengthNull : Bool} {out : Bytes}
    (done : wolfpsaAeadDecryptFinal env ctx plaintext tag lengthNull = .ok out) : Multipart ctx.alg := by
  unfold wolfpsaAeadDecryptFinal at done
  simp only [require_bind_ok_iff] at done
  obtain ⟨-, -, -, -, -, done⟩ := done
  split at done
  · obtain ⟨u, checked, -⟩ := except_bind_ok done
    unfold aeadStreamCheck at checked
    split_ifs at checked with gcm chacha ccm
    · exact .inl gcm
    · exact .inr (.inr chacha)
    · exact .inr (.inl ccm)
    · cases checked
  · simp only [require_bind_ok_iff] at done
    obtain ⟨-, -, done⟩ := done
    unfold aeadDecryptBuffered at done
    split_ifs at done with gcm ccm chacha
    · exact .inl gcm
    · exact .inr (.inl ccm)
    · exact .inr (.inr chacha)
    · cases done

end

/-- The one-shot calls with the key material, the nonce and the additional data of a session give the same
sealed bytes and the same plaintext. -/
def OneShotAgrees (m : OneShotMeaning Aes ChaCha Ascon) (session : AeadSession)
    (plaintext sealing : Bytes) : Prop :=
  ∀ (env : AeadEnv Aes ChaCha) (wc : WcAeadOneShot Ascon) (key : KeyId) (attributes : KeyAttributes)
    (nonce aad : InBuf), m.Computes env.wc → m.ComputesOneShot wc →
    env.getKeyData key = .ok (attributes, session.key) → nonce.bytes = session.nonce →
    aad.bytes = session.aad →
      (∀ input buffer whole, input.bytes = plaintext →
        psaAeadEncrypt env wc key session.alg nonce aad input buffer = .ok whole → whole = sealing) ∧
      ∀ input buffer lengthNull out, input.bytes = sealing →
        psaAeadDecrypt env wc key session.alg nonce aad input buffer lengthNull = .ok out → out = plaintext

theorem oneShotAgrees_of_seal {m : OneShotMeaning Aes ChaCha Ascon} {session : AeadSession}
    {plaintext text tag : Bytes} (family : Multipart session.alg)
    (sealing : m.seal session.alg session.key session.nonce session.aad plaintext = (text, tag)) :
    OneShotAgrees m session plaintext (text ++ tag) := by
  intro env wc key attributes nonce aad laws one found named associated
  have sealOf : m.sealOf session.alg session.key nonce.bytes aad.bytes plaintext = (text, tag) := by
    unfold OneShotMeaning.sealOf
    rw [if_neg family.not_oneShot.1, if_neg family.not_oneShot.2, named, associated, sealing]
  constructor
  · rintro input buffer whole rfl done
    obtain ⟨attributes', keyData, permitted, ⟨same, -, -⟩, -⟩ := encrypt_seals laws one done
    cases Except.ok.inj (permitted.found.symm.trans found)
    rw [same, sealOf]
    rfl
  · intro input buffer lengthNull out given done
    obtain ⟨attributes', keyData, permitted, ⟨same, -, -⟩, -⟩ := decrypt_seals laws one done
    cases Except.ok.inj (permitted.found.symm.trans found)
    rw [given, show text ++ tag = joined (text, tag) from rfl, ← sealOf] at same
    exact (sealOf_injective (joined_injective (length_sealOf_tag m plaintext out) same)).symm

/-- What the end of an operation says about the one-shot calls. -/
def KeepsOneShot (m : OneShotMeaning Aes ChaCha Ascon) (e : AeadEvent Aes ChaCha) (r : AeadResult)
    (older : History (AeadEvent Aes ChaCha) AeadResult) : Prop :=
  r.status = .success →
    match e.call with
    | .finish op _ _ _ => ∃ session, aeadSession op older = some session ∧
        OneShotAgrees m session session.input (session.output ++ r.output ++ r.tag)
    | .verify op _ tag _ => ∃ session, aeadSession op older = some session ∧
        OneShotAgrees m session (session.output ++ r.output) (session.input ++ tag.bytes)
    | _ => True

theorem AeadAnswer.keepsOneShot {m : OneShotMeaning Aes ChaCha Ascon} {env : AeadEnv Aes ChaCha}
    {h : History (AeadEvent Aes ChaCha) AeadResult} {call : AeadCall} {result : AeadResult}
    {operation after : Option (AeadCtx Aes ChaCha)} (laws : m.Computes env.wc)
    (answer : AeadAnswer env call result operation after)
    (before : ∀ ctx, operation = some ctx →
      ∃ session, aeadSession call.op h = some session ∧ AeadTells m.toAeadMeaning session ctx) :
    KeepsOneShot m ⟨env, call⟩ result h := by
  cases answer with
  | ended status => exact fun success => absurd success status.property
  | kept status => exact fun success => absurd success status.property
  | encryptSetup | decryptSetup | setNonce | generateNonce | setLengths | emptyAd | updateAd | update
  | abort => exact fun _ => trivial
  | finish encrypts sealed =>
    obtain ⟨session, told, tells⟩ := before _ rfl
    refine fun _ => ⟨session, told, oneShotAgrees_of_seal ?_ (encryptFinal_seals laws tells encrypts sealed).2⟩
    rw [← tells.alg]
    exact encryptFinal_multipart sealed
  | verify decrypts opened =>
    obtain ⟨session, told, tells⟩ := before _ rfl
    refine fun _ => ⟨session, told, oneShotAgrees_of_seal ?_ (decryptFinal_seals laws tells decrypts opened).2⟩
    rw [← tells.alg]
    exact decryptFinal_multipart opened

/-- In every run of operations, whatever their pieces and however they are interleaved: when an operation
ends well, `psa_aead_encrypt` of its plaintext, where it succeeds, gives the same ciphertext and tag, and
`psa_aead_decrypt` of these the same plaintext. -/
theorem aead_oneshot_agrees (m : OneShotMeaning Aes ChaCha Ascon) (es : List (AeadEvent Aes ChaCha))
    (laws : ∀ e ∈ es, m.Computes e.env.wc) : Throughout (KeepsOneShot m) (run aeadStep aeadInit es).1 := by
  have start : AeadTold m.toAeadMeaning [] (aeadInit : AeadState Aes ChaCha) ∧
      Throughout (KeepsOneShot m) [] := ⟨(fun op ctx active => by cases active), throughout_nil _⟩
  refine (run_invariant_on (fun h s => AeadTold m.toAeadMeaning h s ∧ Throughout (KeepsOneShot m) h) start
    ?_ es laws).2
  rintro h s e computes ⟨told, kept⟩
  have now : KeepsOneShot m e (aeadStep s e).1 h :=
    AeadAnswer.keepsOneShot computes (aeadCall_answer e.env (s e.call.op) e.call) fun ctx active =>
      told e.call.op ctx active
  exact ⟨aeadTold_step told e computes, throughout_cons.mpr ⟨now, kept⟩⟩

theorem aead_oneshot_agrees_example :
    Throughout (KeepsOneShot ccmExampleSealing)
      (run aeadStep aeadInit (ccmExampleCalls.map fun call => ⟨ccmExampleEnv, call⟩)).1 := by
  refine aead_oneshot_agrees ccmExampleSealing _ fun e member => ?_
  obtain ⟨call, -, rfl⟩ := List.mem_map.mp member
  exact ccmExample_computes

end WolfPSA.Guarantees
