import WolfPSA.Guarantees.AeadTranscript

/-!
# CCM sessions

One message of a CCM operation from its setup to its tag, with the additional data and the payload in any
pieces. Where the environment grants what the calls ask for, every call succeeds; the bytes and the tag are
those of SP 800-38C, and a session of the other direction takes them back to the payload. The counter never
wraps: in every state of every run its field holds the number of the key stream block in use.
-/

namespace WolfPSA.Guarantees
open Lib Source

variable {Aes ChaCha : Type}

/-! ## Calls of one operation -/

/-- The calls of one operation, one after the other. -/
def aeadCalls (env : AeadEnv Aes ChaCha) : Option (AeadCtx Aes ChaCha) → List AeadCall →
    List AeadResult × Option (AeadCtx Aes ChaCha)
  | operation, [] => ([], operation)
  | operation, call :: rest =>
    let r := aeadCall env operation call
    let later := aeadCalls env r.2 rest
    (r.1 :: later.1, later.2)

/-- A piece of payload with the room of its output buffer. -/
structure AeadPiece where
  bytes : Bytes
  capacity : Nat
  room : bytes.length ≤ capacity
  word : bytes.length ≤ uint32Max

def payloadOf (pieces : List AeadPiece) : Bytes := pieces.flatMap (·.bytes)

def AeadPiece.call (piece : AeadPiece) : AeadCall :=
  .update 0 (.data piece.bytes) ⟨false, piece.capacity⟩ false

/-- Nonce, declared lengths, additional data and payload. -/
def ccmMessage (nonce : Bytes) (aads : List Bytes) (pieces : List AeadPiece) : List AeadCall :=
  [.setNonce 0 (.data nonce), .setLengths 0 (BitVec.ofNat 64 aads.flatten.length)
    (BitVec.ofNat 64 (payloadOf pieces).length)] ++
  aads.map (fun aad => .updateAd 0 (.data aad)) ++ pieces.map AeadPiece.call

def ccmEncryption (key : KeyId) (alg : Algorithm) (nonce : Bytes) (aads : List Bytes)
    (pieces : List AeadPiece) (tagSize : Nat) : List AeadCall :=
  .encryptSetup 0 key alg :: ccmMessage nonce aads pieces ++
    [.finish 0 ⟨false, 0⟩ ⟨false, tagSize⟩ false]

def ccmDecryption (key : KeyId) (alg : Algorithm) (nonce : Bytes) (aads : List Bytes)
    (pieces : List AeadPiece) (tag : Bytes) : List AeadCall :=
  .decryptSetup 0 key alg :: ccmMessage nonce aads pieces ++ [.verify 0 ⟨false, 0⟩ (.data tag) false]

/-- The environment grants CCM with a key: the setup of both directions, the buffers and the AES calls. -/
structure CcmGranted (m : AeadMeaning Aes ChaCha) (env : AeadEnv Aes ChaCha) (key : KeyId)
    (alg : Algorithm) (keyData : Bytes) : Prop where
  ccm : psaAlgAeadEqual alg psaAlgCcm = true
  found : ∃ attributes, env.getKeyData key = .ok (attributes, keyData)
  encryptSetup : ∃ ctx, aeadSetupCtx env key alg psaKeyUsageEncrypt = .ok ctx
  decryptSetup : ∃ ctx, aeadSetupCtx env key alg psaKeyUsageDecrypt = .ok ctx
  tagSize : ∀ n, env.sizes.ccmCheckTagSize n = true → n ≤ 16
  alloc : ∀ n, env.bufferAlloc n = true
  aesInit : ∃ aes, env.wc.aesInit = .ok aes
  setKeyDirect : ∀ aes, ∃ keyed, env.wc.aesSetKeyDirect aes keyData = .ok keyed
  encryptDirect : ∀ aes block, m.directKey aes keyData → block.length = 16 →
    ∃ out, env.wc.aesEncryptDirect aes block = .ok out
  aesNew : ∃ aes, env.wc.aesNew = .ok aes
  ccmSetKey : ∀ aes, ∃ keyed, env.wc.ccmSetKey aes keyData = .ok keyed
  ccmEncrypt : ∀ aes nonce aad tagLength, m.ccmKey aes keyData → 7 ≤ nonce.length → nonce.length ≤ 13 →
    env.sizes.ccmCheckTagSize tagLength = true →
      ∃ sealing, env.wc.ccmEncrypt aes [] nonce aad tagLength = .ok sealing
  ccmDecrypt : ∀ aes nonce aad tag, m.ccmKey aes keyData → 7 ≤ nonce.length → nonce.length ≤ 13 →
    env.sizes.ccmCheckTagSize tag.length = true →
      Ccm.decryptVerify (m.block keyData) nonce aad [] tag = some [] →
        ∃ plaintext, env.wc.ccmDecrypt aes [] nonce aad tag = .ok plaintext

theorem aeadCalls_append (env : AeadEnv Aes ChaCha) (operation : Option (AeadCtx Aes ChaCha))
    (first second : List AeadCall) :
    aeadCalls env operation (first ++ second) =
      ((aeadCalls env operation first).1 ++ (aeadCalls env (aeadCalls env operation first).2 second).1,
        (aeadCalls env (aeadCalls env operation first).2 second).2) := by
  induction first generalizing operation with
  | nil => rfl
  | cons call rest ih =>
    rw [List.cons_append, aeadCalls, ih]
    rfl

/-! ## Every call succeeds -/

section

variable {m : AeadMeaning Aes ChaCha} {env : AeadEnv Aes ChaCha} {key : KeyId} {alg : Algorithm}
  {keyData : Bytes} (laws : m.Computes env.wc) (granted : CcmGranted m env key alg keyData)
  {session : AeadSession} {ctx : AeadCtx Aes ChaCha}

include granted in
theorem CcmGranted.noCipherError {aes : Aes} (keyed : m.directKey aes keyData) (e : WcError) :
    ¬CipherError (env.wc.aesEncryptDirect aes) e := by
  rintro ⟨block, whole, failed⟩
  obtain ⟨out, done⟩ := granted.encryptDirect aes block keyed whole
  rw [done] at failed
  cases failed

include granted in
theorem CcmGranted.noCipherFailure {aes : Aes} (keyed : m.directKey aes keyData) (status : Failure) :
    ¬CipherFailure (env.wc.aesEncryptDirect aes) status := by
  rintro ⟨e, failed, -⟩
  exact granted.noCipherError keyed e failed

include laws granted in
/-- A piece of a CCM payload is streamed. -/
theorem ccmStreamUpdate_ok (ctx : AeadCtx Aes ChaCha) (ccm : psaAlgAeadEqual ctx.alg psaAlgCcm = true) (held : ctx.key = keyData)
    (low : 7 ≤ ctx.nonce.length) (high : ctx.nonce.length ≤ 13) (word : ctx.aad.length < 2 ^ 32)
    (field : ctx.plaintextExpected.toNat < 256 ^ (15 - ctx.nonce.length)) {text done : Bytes}
    (behind : ctx.streaming = true → StreamBehind m ctx text done) (input : Bytes) :
    ∃ r, wolfpsaAeadStreamUpdate env.wc ctx input = .ok r := by
  have notGcm : ¬psaAlgAeadEqual ctx.alg psaAlgGcm = true :=
    Bool.eq_false_iff.mp (aeadEqual_false (by decide) ccm)
  have size : ctx.nonce.length < 15 := by omega
  have small := Nat.le_of_lt size
  -- a first piece has the state made, a later one goes on with it
  have first : ∃ begun text, ccmFirst env.wc ctx = .ok begun ∧ m.directKey begun.aes keyData ∧
      CcmBehind (m.block keyData) ctx.nonce
        (ccmHeader ctx.nonce ctx.aad ctx.tagLength ctx.plaintextExpected.toNat) text begun.ccm := by
    unfold ccmFirst
    split
    · rename_i started
      have here := behind started
      unfold StreamBehind at here
      rw [if_neg notGcm, if_neg (not_chacha_of_ccm ccm), held] at here
      exact ⟨ctx, _, rfl, here.1, here.2.2⟩
    · obtain ⟨fresh, made⟩ := granted.aesInit
      obtain ⟨aes, keying⟩ := granted.setKeyDirect fresh
      have keyed := laws.setKeyDirect keying
      obtain ⟨state, starting, here⟩ := (ccmStart_yields (encryptsAs_block laws keyed)
        (m.length_block keyData) size word field).total (granted.noCipherFailure keyed)
      refine ⟨{ ctx with aes := aes, ccm := state }, [], ?_, keyed, here⟩
      unfold wolfpsaAeadCcmInit
      rw [← held] at keying
      refine require_bind_ok_iff.mpr ⟨by simp [low, high], except_bind_ok_iff.mpr ⟨fresh,
        wcCall_ok_iff.mpr made, except_bind_ok_iff.mpr ⟨aes, wcCall_ok_iff.mpr keying, ?_⟩⟩⟩
      exact except_bind_ok_iff.mpr ⟨state, starting, rfl⟩
  obtain ⟨begun, sofar, started, keyed, here⟩ := first
  obtain ⟨⟨outs, state⟩, updated, -⟩ := (ccmBytes_yields (encryptsAs_block laws keyed)
    (m.length_block keyData) small (length_ccmHeader small _ _ _) here begun.encrypts input).total
    (granted.noCipherError keyed)
  unfold wolfpsaAeadStreamUpdate
  rw [if_neg notGcm, if_neg (not_chacha_of_ccm ccm), if_pos ccm, started]
  refine ⟨(outs, { begun with ccm := state }), ?_⟩
  unfold wolfpsaAeadCcmUpdate
  dsimp only [bind, Except.bind]
  rw [updated]
  rfl

end

/-- A CCM session with its nonce and its declared lengths. -/
structure CcmDeclared (alg : Algorithm) (keyData : Bytes) (adTotal payloadTotal : Nat)
    (session : AeadSession) : Prop where
  alg : session.alg = alg
  ccm : psaAlgAeadEqual session.alg psaAlgCcm = true
  key : session.key = keyData
  low : 7 ≤ session.nonce.length
  high : session.nonce.length ≤ 13
  lengths : session.lengths = some (BitVec.ofNat 64 adTotal, BitVec.ofNat 64 payloadTotal)
  word : adTotal ≤ uint32Max
  size : payloadTotal < 2 ^ 64

/-- What the context of such a session holds. -/
structure CcmContext (keyData : Bytes) (adTotal payloadTotal : Nat) (session : AeadSession)
    (ctx : AeadCtx Aes ChaCha) : Prop where
  ccm : psaAlgAeadEqual ctx.alg psaAlgCcm = true
  key : ctx.key = keyData
  low : 7 ≤ ctx.nonce.length
  high : ctx.nonce.length ≤ 13
  set : ctx.lengthsSet = true
  ad : ctx.adExpected.toNat = adTotal
  payload : ctx.plaintextExpected.toNat = payloadTotal
  missing : wolfpsaAeadLengthsMissing ctx = false
  field : payloadTotal < 256 ^ (15 - ctx.nonce.length)

section

variable {m : AeadMeaning Aes ChaCha} {env : AeadEnv Aes ChaCha} {key : KeyId} {alg : Algorithm}
  {keyData : Bytes} {adTotal payloadTotal : Nat} {session : AeadSession} {ctx : AeadCtx Aes ChaCha}

theorem CcmDeclared.context (declared : CcmDeclared alg keyData adTotal payloadTotal session)
    (tells : AeadTells m session ctx) : CcmContext keyData adTotal payloadTotal session ctx := by
  have ccm : psaAlgAeadEqual ctx.alg psaAlgCcm = true := by
    rw [tells.alg]
    exact declared.ccm
  have lengths := tells.lengths
  rw [declared.lengths] at lengths
  split at lengths
  · rename_i set
    obtain ⟨ad, payload⟩ := Prod.mk.inj (Option.some.inj lengths)
    have low : 7 ≤ ctx.nonce.length := by
      rw [tells.nonce]
      exact declared.low
    have field := tells.fits.field ccm (by omega) set
    have word := declared.word
    have size := declared.size
    unfold uint32Max at word
    rw [← payload, BitVec.toNat_ofNat, Nat.mod_eq_of_lt size] at field
    refine ⟨ccm, tells.key.trans declared.key, low, ?_, set, ?_, ?_, ?_, field⟩
    · rw [tells.nonce]
      exact declared.high
    · rw [← ad, BitVec.toNat_ofNat]
      omega
    · rw [← payload, BitVec.toNat_ofNat, Nat.mod_eq_of_lt size]
    · unfold wolfpsaAeadLengthsMissing
      rw [ccm, set]
      rfl
  · cases lengths

theorem word32_ok {n : Nat} (word : n ≤ uint32Max) : wolfpsaCheckWord32Length n = .success :=
  if_neg (Nat.not_lt.mpr word)

/-- Additional data that is granted and within its length is appended. -/
theorem aeadAppendAad_data (alloc : ∀ n, env.bufferAlloc n = true) {aad : Bytes} (some : ¬aad.length = 0)
    (within : ctx.aad.length + aad.length ≤ ctx.adExpected.toNat)
    (word : ctx.aad.length + aad.length ≤ uint32Max) :
    aeadAppendAad env ctx (.data aad) = .ok { ctx with aad := ctx.aad ++ aad, adStarted := true } := by
  have fits : ctx.aad.length + aad.length ≤ sizeMax :=
    Nat.le_trans word (by unfold uint32Max sizeMax; omega)
  have short : decide (aad.length > sizeMax - ctx.aad.length) = false := decide_eq_false (by omega)
  have below : decide (ctx.aad.length + aad.length > ctx.adExpected.toNat) = false :=
    decide_eq_false (by omega)
  have buffer : wolfpsaAeadAppend env.bufferAlloc ctx.aad (.data aad) = .ok (ctx.aad ++ aad) := by
    unfold wolfpsaAeadAppend
    refine require_bind_ok_iff.mpr ⟨rfl, ?_⟩
    rw [if_neg (show ¬(InBuf.data aad).length = 0 from some)]
    refine require_bind_ok_iff.mpr ⟨decide_eq_true ?_, require_bind_ok_iff.mpr ⟨alloc _, rfl⟩⟩
    show ctx.aad.length ≤ sizeMax - aad.length
    omega
  unfold aeadAppendAad
  refine require_bind_ok_iff.mpr ⟨?_, require_bind_ok_iff.mpr ⟨?_, ?_⟩⟩
  · show (!(ctx.lengthsSet && (decide (aad.length > sizeMax - ctx.aad.length) ||
      decide (ctx.aad.length + aad.length > ctx.adExpected.toNat)))) = true
    rw [short, below, Bool.or_false, Bool.and_false]
    rfl
  · show (!(decide (aad.length > sizeMax - ctx.aad.length) ||
      wolfpsaCheckWord32Length (ctx.aad.length + aad.length) != .success)) = true
    rw [short, word32_ok word]
    rfl
  · exact except_bind_ok_iff.mpr ⟨_, buffer, rfl⟩

/-- The next piece of additional data. -/
theorem updateAd_succeeds (alloc : ∀ n, env.bufferAlloc n = true)
    (declared : CcmDeclared alg keyData adTotal payloadTotal session) (tells : AeadTells m session ctx)
    (early : ctx.bodyStarted = false) {aad : Bytes} (room : session.aad.length + aad.length ≤ adTotal) :
    ∃ ctx', aeadCall env (some ctx) (.updateAd 0 (.data aad)) = (⟨.success, [], []⟩, some ctx') ∧
      ctx'.bodyStarted = false ∧ AeadTells m { session with aad := session.aad ++ aad } ctx' := by
  have here := declared.context tells
  have word := declared.word
  have low := here.low
  unfold aeadCall psaAeadUpdateAd
  dsimp only
  rw [if_neg (Bool.eq_false_iff.mp early), here.missing]
  rw [if_neg (by rintro (unset | missing); omega; cases missing)]
  split
  · rename_i empty
    have nothing : aad = [] := List.eq_nil_of_length_eq_zero empty
    refine ⟨_, rfl, early, ?_⟩
    rw [nothing, List.append_nil]
    exact emptyAd_tells tells early
  · rename_i some
    have appended := aeadAppendAad_data alloc some (by rw [tells.aad, here.ad]; exact room)
      (by rw [tells.aad]; omega)
    have fits : CcmFits { ctx with aad := ctx.aad ++ aad, adStarted := true } :=
      ⟨tells.fits.sized, tells.fits.fits⟩
    rw [appended]
    exact ⟨_, rfl, early, updateAd_tells tells fits early appended⟩

/-- The next piece of payload. -/
theorem update_succeeds (laws : m.Computes env.wc) (granted : CcmGranted m env key alg keyData)
    (declared : CcmDeclared alg keyData adTotal payloadTotal session) (tells : AeadTells m session ctx)
    (unbuffered : ctx.input = []) (complete : session.aad.length = adTotal) (piece : AeadPiece)
    (room : session.input.length + piece.bytes.length ≤ payloadTotal) :
    ∃ bytes ctx', aeadCall env (some ctx) piece.call = (⟨.success, bytes, []⟩, some ctx') ∧
      ctx'.input = [] ∧ AeadTells m { session with
        input := session.input ++ piece.bytes, output := session.output ++ bytes } ctx' := by
  have here := declared.context tells
  have size := declared.size
  have named : ctx.nonce.length ≠ 0 := by
    have := here.low
    omega
  have adWord : ctx.aad.length < 2 ^ 32 := by
    have word := declared.word
    unfold uint32Max at word
    rw [tells.aad]
    omega
  have field : ctx.plaintextExpected.toNat < 256 ^ (15 - ctx.nonce.length) := by
    rw [here.payload]
    exact here.field
  have behind (started : ctx.streaming = true) : StreamBehind m ctx session.input session.output := by
    cases tells.payload with
    | buffered whole held none => exact absurd (whole.symm.trans started) Bool.false_ne_true
    | streamed _ body clear behind => exact behind
  have taken : ∃ r, aeadUpdate env ctx (.data piece.bytes) ⟨false, piece.capacity⟩ = .ok r := by
    obtain ⟨⟨outs, moved⟩, streamed⟩ := ccmStreamUpdate_ok laws granted { ctx with bodyStarted := true }
      here.ccm here.key here.low here.high adWord field behind piece.bytes
    have total : ctx.aad.length = ctx.adExpected.toNat := by
      rw [tells.aad, here.ad, complete]
    have fits : ctx.inputLength + piece.bytes.length ≤ payloadTotal := by
      rw [tells.inputLength]
      exact room
    have short : decide (piece.bytes.length > sizeMax - ctx.inputLength) = false :=
      decide_eq_false (by unfold sizeMax; omega)
    have below : decide (ctx.inputLength + piece.bytes.length > ctx.plaintextExpected.toNat) = false :=
      decide_eq_false (by rw [here.payload]; omega)
    unfold aeadUpdate
    refine ⟨if piece.bytes.length = 0 then ([], { ctx with bodyStarted := true }) else (outs, { moved with
      streaming := true, inputLength := moved.inputLength + piece.bytes.length }), ?_⟩
    refine require_bind_ok_iff.mpr ⟨?_, require_bind_ok_iff.mpr ⟨?_, require_bind_ok_iff.mpr ⟨rfl, ?_⟩⟩⟩
    · rw [total, bne_self_eq_false, Bool.and_false]
      rfl
    · show (!(ctx.lengthsSet && (decide (piece.bytes.length > sizeMax - ctx.inputLength) ||
        decide (ctx.inputLength + piece.bytes.length > ctx.plaintextExpected.toNat)))) = true
      rw [short, below, Bool.or_false, Bool.and_false]
      rfl
    · show (if piece.bytes.length = 0 then _ else _) = _
      by_cases empty : piece.bytes.length = 0
      · rw [if_pos empty, if_pos empty]
        rfl
      · rw [if_neg empty, if_neg empty, if_neg Bool.false_ne_true]
        unfold aeadStream
        refine require_bind_ok_iff.mpr ⟨by rw [unbuffered]; rfl, require_bind_ok_iff.mpr
          ⟨decide_eq_true piece.room, require_bind_ok_iff.mpr ⟨?_, ?_⟩⟩⟩
        · exact beq_iff_eq.mpr (word32_ok piece.word)
        · exact except_bind_ok_iff.mpr ⟨_, streamed, rfl⟩
  obtain ⟨⟨bytes, ctx'⟩, taken⟩ := taken
  have answer : AeadAnswer env piece.call ⟨.success, bytes, []⟩ (some ctx) (some ctx') :=
    .update here.missing named taken
  have fits : CcmFits ctx' := AeadAnswer.fits answer fun held same => by
    cases same
    exact tells.fits
  have clear : ctx'.input = [] := by
    cases (aeadUpdate_taken taken).2 with
    | nothing empty => exact unbuffered
    | buffered some null whole => cases null
    | streamed some given none word updated =>
      obtain ⟨aes, chacha, ccm, rfl⟩ := wolfpsaAeadStreamUpdate_frame updated
      exact unbuffered
  refine ⟨bytes, ctx', ?_, clear, update_tells laws tells fits here.missing named taken⟩
  show psaAeadUpdate env (some ctx) (.data piece.bytes) ⟨false, piece.capacity⟩ false = _
  unfold psaAeadUpdate
  dsimp only
  rw [if_neg Bool.false_ne_true, here.missing, if_neg Bool.false_ne_true, if_neg named, taken]

theorem CcmGranted.tagAdmitted (granted : CcmGranted m env key alg keyData) :
    env.sizes.ccmCheckTagSize (psaAlgAeadGetTagLength alg) = true := by
  obtain ⟨ctx, setup⟩ := granted.encryptSetup
  unfold aeadSetupCtx at setup
  obtain ⟨-, setup⟩ := ensure_bind_ok_iff.mp setup
  obtain ⟨⟨attributes, data⟩, -, setup⟩ := except_bind_ok setup
  simp only [ensure_bind_ok_iff, require_bind_ok_iff] at setup
  obtain ⟨-, -, sized, -⟩ := setup
  unfold aeadSetupTagLength at sized
  dsimp only at sized
  rw [granted.ccm, Bool.true_and] at sized
  by_contra refused
  rw [Bool.not_eq_true] at refused
  rw [refused] at sized
  split at sized
  · cases sized
  · cases sized

/-- The guards of the two last calls in a complete session. -/
theorem CcmContext.complete (here : CcmContext keyData adTotal payloadTotal session ctx)
    (tells : AeadTells m session ctx) (aad : session.aad.length = adTotal)
    (payload : session.input.length = payloadTotal) :
    (!(ctx.nonce.length == 0 || wolfpsaAeadLengthsMissing ctx)) = true ∧
      (!aeadTotalsDiffer ctx) = true := by
  have low := here.low
  have unset : (ctx.nonce.length == 0) = false := beq_eq_false_iff_ne.mpr (by omega)
  have ad : ctx.aad.length = ctx.adExpected.toNat := by
    rw [tells.aad, here.ad, aad]
  have input : ctx.inputLength = ctx.plaintextExpected.toNat := by
    rw [tells.inputLength, here.payload, payload]
  unfold aeadTotalsDiffer
  rw [unset, here.missing, ad, input, bne_self_eq_false, bne_self_eq_false, Bool.or_false, Bool.and_false]
  exact ⟨rfl, rfl⟩

/-- The last call of an encryption. -/
theorem finish_succeeds (laws : m.Computes env.wc) (granted : CcmGranted m env key alg keyData)
    (declared : CcmDeclared alg keyData adTotal payloadTotal session) (tells : AeadTells m session ctx)
    (unbuffered : ctx.input = []) (aad : session.aad.length = adTotal)
    (payload : session.input.length = payloadTotal) (encrypts : session.encrypts = true) {tagSize : Nat}
    (room : psaAlgAeadGetTagLength alg ≤ tagSize) :
    ∃ bytes tag, aeadCall env (some ctx) (.finish 0 ⟨false, 0⟩ ⟨false, tagSize⟩ false) =
        (⟨.success, bytes, tag⟩, none) ∧
      m.seal session.alg session.key session.nonce session.aad session.input =
        (session.output ++ bytes, tag) := by
  have here := declared.context tells
  have low := here.low
  have high := here.high
  have tagLength : ctx.tagLength = psaAlgAeadGetTagLength alg := by
    rw [tells.tagLength, tells.alg, declared.alg]
  have notGcm : ¬psaAlgAeadEqual ctx.alg psaAlgGcm = true :=
    Bool.eq_false_iff.mp (aeadEqual_false (by decide) here.ccm)
  obtain ⟨ready, totals⟩ := here.complete tells aad payload
  have direction : ctx.encrypts = true := tells.encrypts.trans encrypts
  have sealed : ∃ r, wolfpsaAeadEncryptFinal env ctx ⟨false, 0⟩ ⟨false, tagSize⟩ false = .ok r := by
    have guards {r : Bytes × Bytes} {rest : Unit → Except Failure (Bytes × Bytes)}
        (done : rest () = .ok r) :
        (require (!(ctx.nonce.length == 0 || wolfpsaAeadLengthsMissing ctx)) .badState >>= fun _ =>
          require (!aeadTotalsDiffer ctx) .invalidArgument >>= rest) = .ok r :=
      require_bind_ok_iff.mpr ⟨ready, require_bind_ok_iff.mpr ⟨totals, done⟩⟩
    unfold wolfpsaAeadEncryptFinal
    cases tells.payload with
    | buffered whole held none =>
      -- nothing has been streamed: the payload is empty and goes through the one-shot call
      have empty : ctx.inputLength = 0 := by
        rw [tells.inputLength, ← held, unbuffered]
        rfl
      obtain ⟨fresh, made⟩ := granted.aesNew
      obtain ⟨aes, keying⟩ := granted.ccmSetKey fresh
      obtain ⟨sealing, sealed⟩ := granted.ccmEncrypt aes ctx.nonce ctx.aad ctx.tagLength
        (laws.ccmSetKey keying) low high (by rw [tagLength]; exact granted.tagAdmitted)
      have word : ctx.aad.length ≤ uint32Max := by
        rw [tells.aad, aad]
        exact declared.word
      refine ⟨sealing, require_bind_ok_iff.mpr ⟨rfl, require_bind_ok_iff.mpr ⟨rfl, guards ?_⟩⟩⟩
      rw [if_neg (Bool.eq_false_iff.mp whole), Bool.eq_false_iff.mpr (not_chacha_of_ccm here.ccm)]
      refine require_bind_ok_iff.mpr ⟨rfl, require_bind_ok_iff.mpr ⟨decide_eq_true (Nat.le_of_eq empty),
        require_bind_ok_iff.mpr ⟨decide_eq_true (by rw [tagLength]; exact room),
        require_bind_ok_iff.mpr ⟨?_, ?_⟩⟩⟩⟩
      · rw [empty, word32_ok word]
        rfl
      · unfold aeadEncryptBuffered
        rw [if_neg notGcm, if_pos here.ccm]
        rw [← here.key] at keying
        refine require_bind_ok_iff.mpr ⟨by rw [tagLength]; exact granted.tagAdmitted, ?_⟩
        refine except_bind_ok_iff.mpr ⟨fresh, wcCall_ok_iff.mpr made, except_bind_ok_iff.mpr ⟨aes,
          wcCall_ok_iff.mpr keying, wcCall_ok_iff.mpr ?_⟩⟩
        rw [unbuffered]
        exact sealed
    | streamed started body clear behind =>
      unfold StreamBehind at behind
      rw [if_neg notGcm, if_neg (not_chacha_of_ccm here.ccm), here.key] at behind
      obtain ⟨keyed, -, behind⟩ := behind
      have small : ctx.nonce.length ≤ 15 := by omega
      obtain ⟨made, tagged, -⟩ := (wolfpsaAeadCcmFinish_yields (encryptsAs_block laws keyed)
        (m.length_block keyData) small (length_ccmHeader small _ _ _) behind ctx.tagLength).total
        (granted.noCipherFailure keyed)
      refine ⟨([], made), require_bind_ok_iff.mpr ⟨rfl, require_bind_ok_iff.mpr ⟨rfl, guards ?_⟩⟩⟩
      rw [if_pos started]
      refine require_bind_ok_iff.mpr ⟨decide_eq_true (by rw [tagLength]; exact room),
        except_bind_ok_iff.mpr ⟨made, ?_, rfl⟩⟩
      unfold aeadStreamTag
      rw [if_neg notGcm, if_neg (not_chacha_of_ccm here.ccm), if_pos here.ccm]
      exact tagged
  obtain ⟨⟨bytes, tag⟩, sealed⟩ := sealed
  refine ⟨bytes, tag, ?_, (encryptFinal_seals laws tells direction sealed).2⟩
  show psaAeadFinish env (some ctx) ⟨false, 0⟩ ⟨false, tagSize⟩ false = _
  unfold psaAeadFinish
  dsimp only
  rw [if_pos direction, sealed]

/-- What a CCM seal says about its plaintext. -/
theorem ccmSeal_plaintext (ccm : psaAlgAeadEqual session.alg psaAlgCcm = true) {plaintext tag : Bytes}
    (sealed : m.seal session.alg session.key session.nonce session.aad plaintext = (session.input, tag)) :
    plaintext = xorFrom (Ccm.keyStream (m.block session.key) session.nonce) 0 session.input := by
  unfold AeadMeaning.seal at sealed
  rw [if_neg (Bool.eq_false_iff.mp (aeadEqual_false (by decide) ccm)), if_neg (not_chacha_of_ccm ccm)]
    at sealed
  have input : xorFrom (Ccm.keyStream (m.block session.key) session.nonce) 0 plaintext = session.input :=
    congrArg Prod.fst sealed
  rw [← input, xorFrom_xorFrom]

/-- The last call of a decryption, with a tag that is right. -/
theorem verify_succeeds (laws : m.Computes env.wc) (granted : CcmGranted m env key alg keyData)
    (declared : CcmDeclared alg keyData adTotal payloadTotal session) (tells : AeadTells m session ctx)
    (unbuffered : ctx.input = []) (aad : session.aad.length = adTotal)
    (payload : session.input.length = payloadTotal) (decrypts : session.encrypts = false) {tag : Bytes}
    (sized : tag.length = psaAlgAeadGetTagLength alg)
    (right : Ccm.tag (m.block keyData) session.nonce session.aad
      (xorFrom (Ccm.keyStream (m.block keyData) session.nonce) 0 session.input) tag.length = tag) :
    ∃ bytes, aeadCall env (some ctx) (.verify 0 ⟨false, 0⟩ (.data tag) false) =
        (⟨.success, bytes, []⟩, none) ∧
      session.output ++ bytes =
        xorFrom (Ccm.keyStream (m.block keyData) session.nonce) 0 session.input := by
  have here := declared.context tells
  have low := here.low
  have high := here.high
  have tagLength : ctx.tagLength = psaAlgAeadGetTagLength alg := by
    rw [tells.tagLength, tells.alg, declared.alg]
  have notGcm : ¬psaAlgAeadEqual ctx.alg psaAlgGcm = true :=
    Bool.eq_false_iff.mp (aeadEqual_false (by decide) here.ccm)
  obtain ⟨ready, totals⟩ := here.complete tells aad payload
  have direction : ctx.encrypts = false := tells.encrypts.trans decrypts
  have opened : ∃ r, wolfpsaAeadDecryptFinal env ctx ⟨false, 0⟩ (.data tag) false = .ok r := by
    have guards {r : Bytes} {rest : Unit → Except Failure Bytes} (done : rest () = .ok r) :
        (require (!(ctx.nonce.length == 0 || wolfpsaAeadLengthsMissing ctx)) .badState >>= fun _ =>
          require (!aeadTotalsDiffer ctx) .invalidArgument >>= fun _ =>
          require ((InBuf.data tag).length == ctx.tagLength) .invalidSignature >>= rest) = .ok r :=
      require_bind_ok_iff.mpr ⟨ready, require_bind_ok_iff.mpr ⟨totals, require_bind_ok_iff.mpr
        ⟨beq_iff_eq.mpr (sized.trans tagLength.symm), done⟩⟩⟩
    unfold wolfpsaAeadDecryptFinal
    cases tells.payload with
    | buffered whole held none =>
      have nothing : session.input = [] := held.symm.trans unbuffered
      have empty : ctx.inputLength = 0 := by
        rw [tells.inputLength, nothing]
        rfl
      have word : ctx.aad.length ≤ uint32Max := by
        rw [tells.aad, aad]
        exact declared.word
      have opens : Ccm.decryptVerify (m.block keyData) ctx.nonce ctx.aad [] tag = some [] := by
        rw [nothing, ← tells.nonce, ← tells.aad] at right
        exact if_pos right
      obtain ⟨fresh, made⟩ := granted.aesNew
      obtain ⟨aes, keying⟩ := granted.ccmSetKey fresh
      have admitted : env.sizes.ccmCheckTagSize tag.length = true := by
        rw [sized]
        exact granted.tagAdmitted
      obtain ⟨plaintext, opened⟩ := granted.ccmDecrypt aes ctx.nonce ctx.aad tag (laws.ccmSetKey keying) low
        high admitted opens
      refine ⟨plaintext, require_bind_ok_iff.mpr ⟨rfl, require_bind_ok_iff.mpr ⟨rfl, guards ?_⟩⟩⟩
      rw [if_neg (Bool.eq_false_iff.mp whole)]
      refine require_bind_ok_iff.mpr ⟨decide_eq_true (Nat.le_of_eq empty), require_bind_ok_iff.mpr ⟨?_, ?_⟩⟩
      · rw [empty, word32_ok word]
        rfl
      · unfold aeadDecryptBuffered
        rw [if_neg notGcm, if_pos here.ccm]
        rw [← here.key] at keying
        refine require_bind_ok_iff.mpr ⟨admitted, except_bind_ok_iff.mpr ⟨fresh, wcCall_ok_iff.mpr made,
          except_bind_ok_iff.mpr ⟨aes, wcCall_ok_iff.mpr keying, wcCall_ok_iff.mpr ?_⟩⟩⟩
        rw [unbuffered]
        exact opened
    | streamed started body clear behind =>
      unfold StreamBehind at behind
      rw [if_neg notGcm, if_neg (not_chacha_of_ccm here.ccm), here.key, direction] at behind
      obtain ⟨keyed, out, behind⟩ := behind
      have small : ctx.nonce.length ≤ 15 := by omega
      obtain ⟨made, tagged, is⟩ := (wolfpsaAeadCcmFinish_yields (encryptsAs_block laws keyed)
        (m.length_block keyData) small (length_ccmHeader small _ _ _) behind ctx.tagLength).total
        (granted.noCipherFailure keyed)
      have text : session.output.length = ctx.plaintextExpected.toNat := by
        rw [out, length_xorFrom, here.payload, payload]
      have same : made = tag := by
        have whole := congrArg Prod.snd (ccmSeal_eq m ctx text ctx.tagLength rfl)
        rw [here.key] at whole
        rw [← right, is, sized, ← tagLength, ← tells.nonce, ← tells.aad, ← out]
        exact whole.symm
      refine ⟨[], require_bind_ok_iff.mpr ⟨rfl, require_bind_ok_iff.mpr ⟨rfl, guards ?_⟩⟩⟩
      rw [if_pos started]
      refine except_bind_ok_iff.mpr ⟨(), ?_, rfl⟩
      unfold aeadStreamCheck
      rw [if_neg notGcm, if_neg (not_chacha_of_ccm here.ccm), if_pos here.ccm]
      exact except_bind_ok_iff.mpr ⟨made, tagged, require_ok_iff.mpr (beq_iff_eq.mpr same)⟩
  obtain ⟨bytes, opened⟩ := opened
  refine ⟨bytes, ?_, ?_⟩
  · show psaAeadVerify env (some ctx) ⟨false, 0⟩ (.data tag) false = _
    unfold psaAeadVerify
    dsimp only
    rw [if_neg (Bool.eq_false_iff.mp direction), opened]
  · rw [← declared.key]
    exact ccmSeal_plaintext declared.ccm (decryptFinal_seals laws tells direction opened).2

end

/-! ## A whole message -/

def AllSucceed (results : List AeadResult) : Prop := ∀ r ∈ results, r.status = .success

def outputsOf (results : List AeadResult) : Bytes := results.flatMap (·.output)

theorem AllSucceed.append {first second : List AeadResult} (before : AllSucceed first)
    (after : AllSucceed second) : AllSucceed (first ++ second) := by
  intro r member
  rcases List.mem_append.mp member with early | late
  · exact before r early
  · exact after r late

theorem allSucceed_cons {r : AeadResult} {rest : List AeadResult} (first : r.status = .success)
    (later : AllSucceed rest) : AllSucceed (r :: rest) := by
  intro other member
  rcases List.mem_cons.mp member with rfl | late
  · exact first
  · exact later other late

section

variable {m : AeadMeaning Aes ChaCha} {env : AeadEnv Aes ChaCha} {key : KeyId} {alg : Algorithm}
  {keyData : Bytes} {adTotal payloadTotal : Nat} {session : AeadSession} {ctx : AeadCtx Aes ChaCha}

theorem updateAds_succeed (alloc : ∀ n, env.bufferAlloc n = true)
    (declared : CcmDeclared alg keyData adTotal payloadTotal session) (tells : AeadTells m session ctx)
    (early : ctx.bodyStarted = false) {aads : List Bytes}
    (room : session.aad.length + aads.flatten.length ≤ adTotal) :
    ∃ results ctx', aeadCalls env (some ctx) (aads.map fun aad => .updateAd 0 (.data aad)) =
        (results, some ctx') ∧ AllSucceed results ∧ outputsOf results = [] ∧
      ctx'.bodyStarted = false ∧ AeadTells m { session with aad := session.aad ++ aads.flatten } ctx' := by
  induction aads generalizing session ctx with
  | nil =>
    refine ⟨[], ctx, rfl, fun r member => (List.not_mem_nil member).elim, rfl, early, ?_⟩
    rw [List.flatten_nil, List.append_nil]
    exact tells
  | cons aad rest ih =>
    rw [List.flatten_cons, List.length_append] at room
    obtain ⟨ctx₁, first, early₁, tells₁⟩ := updateAd_succeeds alloc declared tells early
      (show session.aad.length + aad.length ≤ adTotal by omega)
    have declared₁ : CcmDeclared alg keyData adTotal payloadTotal
        { session with aad := session.aad ++ aad } :=
      ⟨declared.alg, declared.ccm, declared.key, declared.low, declared.high, declared.lengths,
        declared.word, declared.size⟩
    obtain ⟨results, ctx₂, later, succeed, outputs, early₂, tells₂⟩ := ih declared₁ tells₁ early₁
      (by rw [List.length_append]; omega)
    refine ⟨⟨.success, [], []⟩ :: results, ctx₂, ?_, allSucceed_cons rfl succeed, outputs, early₂, ?_⟩
    · rw [List.map_cons, aeadCalls, first]
      dsimp only
      rw [later]
    · rw [List.flatten_cons, ← List.append_assoc]
      exact tells₂

theorem updates_succeed (laws : m.Computes env.wc) (granted : CcmGranted m env key alg keyData)
    (declared : CcmDeclared alg keyData adTotal payloadTotal session) (tells : AeadTells m session ctx)
    (unbuffered : ctx.input = []) (complete : session.aad.length = adTotal) {pieces : List AeadPiece}
    (room : session.input.length + (payloadOf pieces).length ≤ payloadTotal) :
    ∃ results ctx', aeadCalls env (some ctx) (pieces.map AeadPiece.call) = (results, some ctx') ∧
      AllSucceed results ∧ ctx'.input = [] ∧ AeadTells m { session with
        input := session.input ++ payloadOf pieces, output := session.output ++ outputsOf results } ctx' := by
  induction pieces generalizing session ctx with
  | nil =>
    refine ⟨[], ctx, rfl, fun r member => (List.not_mem_nil member).elim, unbuffered, ?_⟩
    rw [show payloadOf [] = [] from rfl, show outputsOf [] = [] from rfl, List.append_nil, List.append_nil]
    exact tells
  | cons piece rest ih =>
    have split : payloadOf (piece :: rest) = piece.bytes ++ payloadOf rest := List.flatMap_cons
    rw [split, List.length_append] at room
    obtain ⟨bytes, ctx₁, first, clear, tells₁⟩ := update_succeeds laws granted declared tells unbuffered
      complete piece (by omega)
    have declared₁ : CcmDeclared alg keyData adTotal payloadTotal { session with
        input := session.input ++ piece.bytes, output := session.output ++ bytes } :=
      ⟨declared.alg, declared.ccm, declared.key, declared.low, declared.high, declared.lengths,
        declared.word, declared.size⟩
    obtain ⟨results, ctx₂, later, succeed, clear₂, tells₂⟩ := ih declared₁ tells₁ clear complete
      (by rw [List.length_append]; omega)
    refine ⟨⟨.success, bytes, []⟩ :: results, ctx₂, ?_, allSucceed_cons rfl succeed, clear₂, ?_⟩
    · rw [List.map_cons, aeadCalls, first]
      dsimp only
      rw [later]
    · have outputs : outputsOf (⟨.success, bytes, []⟩ :: results) = bytes ++ outputsOf results :=
        List.flatMap_cons
      rw [split, outputs, ← List.append_assoc, ← List.append_assoc]
      exact tells₂

/-- A payload length that fits its field passes the check. -/
theorem ccmLengthTooLong_fits {n payloadLength : Nat} (high : n ≤ 13)
    (field : payloadLength < 256 ^ (15 - n)) :
    ccmLengthTooLong alg (BitVec.ofNat 64 n) (BitVec.ofNat 64 payloadLength) = false := by
  have value : (BitVec.ofNat 64 n).toNat = n := by
    rw [BitVec.toNat_ofNat]
    omega
  have size : ((15 : BitVec 64) - BitVec.ofNat 64 n).toNat = 15 - n := by
    rw [BitVec.toNat_sub_of_le, value]
    · rfl
    · rw [BitVec.le_def, value]
      exact Nat.le_trans high (by decide)
  have shifted : (BitVec.ofNat 64 payloadLength) >>> (8 * (15 - n)) = 0 := by
    rw [← BitVec.toNat_inj, BitVec.toNat_ushiftRight, Nat.shiftRight_eq_div_pow]
    refine Nat.div_eq_of_lt (Nat.lt_of_le_of_lt ?_ field |>.trans_eq ?_)
    · rw [BitVec.toNat_ofNat]
      exact Nat.mod_le _ _
    · rw [Nat.pow_mul]
  unfold ccmLengthTooLong
  dsimp only
  rw [size, shifted]
  simp

theorem ccmCheckLengths_fits {n adLength payloadLength : Nat} (ccm : psaAlgAeadEqual alg psaAlgCcm = true)
    (high : n ≤ 13) (word : adLength ≤ uint32Max) (field : payloadLength < 256 ^ (15 - n)) :
    wolfpsaAeadCheckLengths alg (BitVec.ofNat 64 n) (BitVec.ofNat 64 adLength)
      (BitVec.ofNat 64 payloadLength) = .success := by
  have value : (BitVec.ofNat 64 adLength).toNat = adLength := by
    unfold uint32Max at word
    rw [BitVec.toNat_ofNat]
    omega
  have notGcm : psaAlgAeadEqual alg psaAlgGcm = false := aeadEqual_false (by decide) ccm
  have notChacha : psaAlgAeadEqual alg psaAlgChacha20Poly1305 = false := aeadEqual_false (by decide) ccm
  unfold wolfpsaAeadCheckLengths wolfpsaAeadLimits
  rw [ccmLengthTooLong_fits high field, value, word32_ok word, ccm]
  simp [notGcm, notChacha]

/-- The message behind a setup of either direction. -/
theorem ccmMessage_succeeds (laws : m.Computes env.wc) (granted : CcmGranted m env key alg keyData)
    {usage : KeyUsage} (setup : aeadSetupCtx env key alg usage = .ok ctx) {nonce : Bytes}
    (low : 7 ≤ nonce.length) (high : nonce.length ≤ 13) {aads : List Bytes} {pieces : List AeadPiece}
    (word : aads.flatten.length ≤ uint32Max) (size : (payloadOf pieces).length < 2 ^ 64)
    (field : (payloadOf pieces).length < 256 ^ (15 - nonce.length)) :
    ∃ results ctx', aeadCalls env (some ctx) (ccmMessage nonce aads pieces) = (results, some ctx') ∧
      AllSucceed results ∧ ctx'.input = [] ∧
      CcmDeclared alg keyData aads.flatten.length (payloadOf pieces).length
        ⟨alg, usage == psaKeyUsageEncrypt, keyData, nonce, some (BitVec.ofNat 64 aads.flatten.length,
          BitVec.ofNat 64 (payloadOf pieces).length), aads.flatten, payloadOf pieces, outputsOf results⟩ ∧
      AeadTells m ⟨alg, usage == psaKeyUsageEncrypt, keyData, nonce, some
        (BitVec.ofNat 64 aads.flatten.length, BitVec.ofNat 64 (payloadOf pieces).length), aads.flatten,
        payloadOf pieces, outputsOf results⟩ ctx' := by
  have begun : ∃ session, AeadSession.begun env key alg (usage == psaKeyUsageEncrypt) = some session ∧
      AeadTells m session ctx := aeadSetupCtx_tells setup
  obtain ⟨session, begun, tells⟩ := begun
  obtain ⟨attributes, found⟩ := granted.found
  unfold AeadSession.begun at begun
  rw [found] at begun
  cases begun
  have fresh := aeadSetupCtx_fresh setup
  have ccm : psaAlgAeadEqual ctx.alg psaAlgCcm = true := by
    rw [tells.alg]
    exact granted.ccm
  have notGcm : ¬psaAlgAeadEqual ctx.alg psaAlgGcm = true :=
    Bool.eq_false_iff.mp (aeadEqual_false (by decide) ccm)
  have sized : aeadNonceLengthStatus ctx nonce.length = .success := by
    unfold aeadNonceLengthStatus
    rw [if_neg notGcm, if_pos ccm, if_neg (by omega)]
  have free : aeadNonceFitsLengths ctx nonce.length = .success := by
    unfold aeadNonceFitsLengths
    rw [fresh.lengths]
    rfl
  have named : aeadSetNonce ctx (.data nonce) = .ok { ctx with nonce := nonce } :=
    aeadSetNonce_ok_iff.mpr ⟨rfl, by rw [fresh.nonce]; rfl, sized, free, rfl⟩
  have naming : AeadAnswer env (.setNonce 0 (.data nonce)) ⟨.success, [], []⟩ (some ctx)
      (some { ctx with nonce := nonce }) := .setNonce named
  have fits₁ := AeadAnswer.fits naming fun held same => by
    cases same
    exact tells.fits
  have tells₁ := setNonce_tells tells fits₁ named
  have checked : wolfpsaAeadCheckLengths ctx.alg (BitVec.ofNat 64 nonce.length)
      (BitVec.ofNat 64 aads.flatten.length) (BitVec.ofNat 64 (payloadOf pieces).length) = .success :=
    ccmCheckLengths_fits ccm high word field
  have declares : aeadSetLengths { ctx with nonce := nonce } (BitVec.ofNat 64 aads.flatten.length)
      (BitVec.ofNat 64 (payloadOf pieces).length) = .ok { ctx with
        nonce := nonce, adExpected := BitVec.ofNat 64 aads.flatten.length,
        plaintextExpected := BitVec.ofNat 64 (payloadOf pieces).length, lengthsSet := true } :=
    aeadSetLengths_ok_iff.mpr ⟨⟨fresh.lengths, fresh.ad, fresh.body⟩, checked, rfl⟩
  have declaring : AeadAnswer env (.setLengths 0 (BitVec.ofNat 64 aads.flatten.length)
      (BitVec.ofNat 64 (payloadOf pieces).length)) ⟨.success, [], []⟩
      (some { ctx with nonce := nonce }) (some _) := .setLengths declares
  have fits₂ := AeadAnswer.fits declaring fun held same => by
    cases same
    exact fits₁
  have tells₂ := setLengths_tells tells₁ fits₂ declares
  have declared (aad input output : Bytes) : CcmDeclared alg keyData aads.flatten.length
      (payloadOf pieces).length ⟨alg, usage == psaKeyUsageEncrypt, keyData, nonce,
        some (BitVec.ofNat 64 aads.flatten.length, BitVec.ofNat 64 (payloadOf pieces).length), aad, input,
        output⟩ := ⟨rfl, granted.ccm, rfl, low, high, rfl, word, size⟩
  obtain ⟨adResults, ctx₃, adCalls, adSucceed, adOutputs, early, tells₃⟩ :=
    updateAds_succeed granted.alloc (declared [] [] []) tells₂ fresh.body
      (show 0 + aads.flatten.length ≤ aads.flatten.length by omega)
  rw [List.nil_append] at tells₃
  obtain ⟨-, held, -⟩ := tells₃.unstarted early
  obtain ⟨results, ctx₄, calls, succeed, clear, tells₄⟩ := updates_succeed laws granted
    (declared aads.flatten [] []) tells₃ held rfl
    (show 0 + (payloadOf pieces).length ≤ (payloadOf pieces).length by omega)
  refine ⟨⟨.success, [], []⟩ :: ⟨.success, [], []⟩ :: (adResults ++ results), ctx₄, ?_,
    allSucceed_cons rfl (allSucceed_cons rfl (adSucceed.append succeed)), clear, declared _ _ _, ?_⟩
  · have first : aeadCall env (some ctx) (.setNonce 0 (.data nonce)) =
        (⟨.success, [], []⟩, some { ctx with nonce := nonce }) := by
      unfold aeadCall psaAeadSetNonce
      dsimp only
      rw [named]
    have second : aeadCall env (some { ctx with nonce := nonce })
        (.setLengths 0 (BitVec.ofNat 64 aads.flatten.length) (BitVec.ofNat 64 (payloadOf pieces).length)) =
          (⟨.success, [], []⟩, some { ctx with
            nonce := nonce, adExpected := BitVec.ofNat 64 aads.flatten.length,
            plaintextExpected := BitVec.ofNat 64 (payloadOf pieces).length, lengthsSet := true }) := by
      unfold aeadCall psaAeadSetLengths
      dsimp only
      rw [declares]
    unfold ccmMessage
    rw [List.append_assoc, List.cons_append, aeadCalls, first]
    dsimp only
    rw [List.cons_append, aeadCalls, second]
    dsimp only
    rw [List.nil_append, aeadCalls_append, adCalls]
    dsimp only
    rw [calls]
  · have outputs : outputsOf (⟨.success, [], []⟩ :: ⟨.success, [], []⟩ :: (adResults ++ results)) =
        outputsOf results := by
      show [] ++ ([] ++ (adResults ++ results).flatMap (·.output)) = _
      rw [List.nil_append, List.nil_append, List.flatMap_append]
      exact (congrArg (· ++ outputsOf results) adOutputs).trans (List.nil_append _)
    rw [outputs]
    exact tells₄

/-- A setup, a message and a last call, one after the other. -/
theorem aeadCalls_session {setup last : AeadCall} {message : List AeadCall} {begun ended : AeadCtx Aes ChaCha}
    {first final : AeadResult} {results : List AeadResult}
    (before : aeadCall env none setup = (first, some begun))
    (middle : aeadCalls env (some begun) message = (results, some ended))
    (after : aeadCall env (some ended) last = (final, none)) :
    aeadCalls env none (setup :: message ++ [last]) = (first :: results ++ [final], none) := by
  rw [List.cons_append, aeadCalls, before]
  dsimp only
  rw [aeadCalls_append, middle]
  dsimp only [aeadCalls]
  rw [after]
  rfl

theorem outputsOf_session (results : List AeadResult) (bytes tag : Bytes) :
    outputsOf (⟨.success, [], []⟩ :: results ++ [⟨.success, bytes, tag⟩]) = outputsOf results ++ bytes := by
  unfold outputsOf
  rw [List.flatMap_append, List.flatMap_cons, List.flatMap_singleton]
  rfl

theorem field_size {n length : Nat} (low : 7 ≤ n) (field : length < 256 ^ (15 - n)) : length < 2 ^ 64 :=
  Nat.lt_of_lt_of_le field (Nat.pow_le_pow_right (by decide) (show 15 - n ≤ 8 by omega))

/-- An encryption in pieces is the one of SP 800-38C. -/
theorem ccmEncryption_exact (laws : m.Computes env.wc) (granted : CcmGranted m env key alg keyData)
    {nonce : Bytes} (low : 7 ≤ nonce.length) (high : nonce.length ≤ 13) {aads : List Bytes}
    {pieces : List AeadPiece} (word : aads.flatten.length ≤ uint32Max)
    (field : (payloadOf pieces).length < 256 ^ (15 - nonce.length)) {tagSize : Nat}
    (room : psaAlgAeadGetTagLength alg ≤ tagSize) :
    ∃ results tag, aeadCalls env none (ccmEncryption key alg nonce aads pieces tagSize) = (results, none) ∧
      AllSucceed results ∧ (results.getLast?.map (·.tag)) = some tag ∧
      Ccm.generateEncrypt (m.block keyData) nonce aads.flatten (payloadOf pieces)
        (psaAlgAeadGetTagLength alg) = (outputsOf results, tag) := by
  obtain ⟨ctx, setup⟩ := granted.encryptSetup
  obtain ⟨results, ctx', calls, succeed, clear, declared, tells⟩ := ccmMessage_succeeds laws granted setup
    low high word (field_size low field) field
  obtain ⟨bytes, tag, last, sealed⟩ := finish_succeeds laws granted declared tells clear rfl rfl rfl room
  have first : aeadCall env none (.encryptSetup 0 key alg) = (⟨.success, [], []⟩, some ctx) := by
    unfold aeadCall psaAeadEncryptSetup wolfpsaAeadSetup
    dsimp only
    rw [setup]
  refine ⟨_, tag, aeadCalls_session first calls last, ?_, ?_, ?_⟩
  · exact (allSucceed_cons rfl succeed).append (allSucceed_cons rfl fun r member => by cases member)
  · rw [List.getLast?_append]
    rfl
  · unfold AeadMeaning.seal at sealed
    rw [if_neg (Bool.eq_false_iff.mp (aeadEqual_false (by decide) granted.ccm)),
      if_neg (not_chacha_of_ccm granted.ccm)] at sealed
    rw [outputsOf_session]
    exact sealed

/-- A decryption in pieces takes back what SP 800-38C encrypts. -/
theorem ccmDecryption_exact (laws : m.Computes env.wc) (granted : CcmGranted m env key alg keyData)
    {nonce : Bytes} (low : 7 ≤ nonce.length) (high : nonce.length ≤ 13) {aads : List Bytes}
    {pieces : List AeadPiece} {payload : Bytes} (word : aads.flatten.length ≤ uint32Max)
    (field : payload.length < 256 ^ (15 - nonce.length))
    (ciphertext : payloadOf pieces = (Ccm.generateEncrypt (m.block keyData) nonce aads.flatten payload
      (psaAlgAeadGetTagLength alg)).1) :
    ∃ results, aeadCalls env none (ccmDecryption key alg nonce aads pieces
        (Ccm.generateEncrypt (m.block keyData) nonce aads.flatten payload
          (psaAlgAeadGetTagLength alg)).2) = (results, none) ∧
      AllSucceed results ∧ outputsOf results = payload := by
  have text : payloadOf pieces = xorFrom (Ccm.keyStream (m.block keyData) nonce) 0 payload := ciphertext
  have length : (payloadOf pieces).length < 256 ^ (15 - nonce.length) := by
    rw [text, length_xorFrom]
    exact field
  have opens : xorFrom (Ccm.keyStream (m.block keyData) nonce) 0 (payloadOf pieces) = payload := by
    rw [text, xorFrom_xorFrom]
  have sized : (Ccm.generateEncrypt (m.block keyData) nonce aads.flatten payload
      (psaAlgAeadGetTagLength alg)).2.length = psaAlgAeadGetTagLength alg :=
    Ccm.length_tag (m.length_block keyData) nonce _ _ (granted.tagSize _ granted.tagAdmitted)
  obtain ⟨ctx, setup⟩ := granted.decryptSetup
  obtain ⟨results, ctx', calls, succeed, clear, declared, tells⟩ := ccmMessage_succeeds laws granted setup
    low high word (field_size low length) length
  obtain ⟨bytes, last, opened⟩ := verify_succeeds laws granted declared tells clear rfl rfl rfl sized (by
    dsimp only
    rw [opens, sized]
    rfl)
  have first : aeadCall env none (.decryptSetup 0 key alg) = (⟨.success, [], []⟩, some ctx) := by
    unfold aeadCall psaAeadDecryptSetup wolfpsaAeadSetup
    dsimp only
    rw [setup]
  refine ⟨_, aeadCalls_session first calls last, ?_, ?_⟩
  · exact (allSucceed_cons rfl succeed).append (allSucceed_cons rfl fun r member => by cases member)
  · rw [outputsOf_session]
    exact opened.trans opens

end

/-! ## The counter -/

/-- The field of a counter block, as a number. -/
def counterField (nonce ctr : Bytes) : Nat := beNat (ctr.drop (1 + nonce.length))

theorem counterField_counterBlock {nonce : Bytes} {i : Nat} (bound : i < 256 ^ (15 - nonce.length)) :
    counterField nonce (Ccm.counterBlock nonce i) = i := by
  have front : ([BitVec.ofNat 8 (15 - nonce.length - 1)] ++ nonce).length = 1 + nonce.length := by
    rw [List.length_append, List.length_singleton]
  unfold counterField Ccm.counterBlock
  rw [← front, List.drop_left, beNat_beBytes bound]

/-- The counter of a streamed message is the number of its key stream blocks. -/
theorem AeadTells.counter {m : AeadMeaning Aes ChaCha} {session : AeadSession} {ctx : AeadCtx Aes ChaCha}
    (tells : AeadTells m session ctx) (ccm : psaAlgAeadEqual ctx.alg psaAlgCcm = true)
    (started : ctx.streaming = true) :
    counterField ctx.nonce ctx.ccm.ctr = max 1 ((ctx.inputLength + 15) / 16) ∧
      max 1 ((ctx.inputLength + 15) / 16) < 256 ^ (15 - ctx.nonce.length) := by
  cases tells.payload with
  | buffered whole held none => exact absurd (whole.symm.trans started) Bool.false_ne_true
  | streamed _ body clear behind =>
    have named := tells.named body
    have set := lengthsSet_of_ccm ccm (tells.declared body)
    have field := tells.fits.field ccm named set
    have within := tells.within set
    have high := (tells.fits.sized ccm named).2
    unfold StreamBehind at behind
    rw [if_neg (Bool.eq_false_iff.mp (aeadEqual_false (by decide) ccm)), if_neg (not_chacha_of_ccm ccm)]
      at behind
    obtain ⟨-, out, front, tail, i, text, here⟩ := behind
    have length : (front ++ tail).length = ctx.inputLength := by
      rw [← text, tells.inputLength]
      split
      · rfl
      · rw [out, length_xorFrom]
    have position := here.position
    have inside := here.within
    have used := here.used
    rw [length] at position
    have blocks : i + 1 = max 1 ((ctx.inputLength + 15) / 16) := by omega
    have small : 256 ^ 2 ≤ 256 ^ (15 - ctx.nonce.length) :=
      Nat.pow_le_pow_right (by decide) (by omega)
    have bound : i + 1 < 256 ^ (15 - ctx.nonce.length) := by
      rw [← tells.inputLength] at within
      omega
    rw [← blocks, here.ctr]
    exact ⟨counterField_counterBlock bound, bound⟩

/-! ## The result -/

/-- Over an arbitrary block cipher: an encryption in any pieces writes the ciphertext and the tag of
SP 800-38C; a decryption of them, in any other pieces, writes the payload and accepts the tag; and in every
state of every run the counter field of a streamed message is the number of key stream blocks so far, which
fits the field. -/
theorem ccm_sessions_exact (m : AeadMeaning Aes ChaCha) :
    (∀ (env : AeadEnv Aes ChaCha) (key : KeyId) (alg : Algorithm) (keyData nonce : Bytes)
      (aads : List Bytes), m.Computes env.wc → CcmGranted m env key alg keyData → 7 ≤ nonce.length →
      nonce.length ≤ 13 → aads.flatten.length ≤ uint32Max →
      (∀ (pieces : List AeadPiece) (tagSize : Nat),
        (payloadOf pieces).length < 256 ^ (15 - nonce.length) → psaAlgAeadGetTagLength alg ≤ tagSize →
        ∃ results tag, aeadCalls env none (ccmEncryption key alg nonce aads pieces tagSize) =
            (results, none) ∧ AllSucceed results ∧ (results.getLast?.map (·.tag)) = some tag ∧
          Ccm.generateEncrypt (m.block keyData) nonce aads.flatten (payloadOf pieces)
            (psaAlgAeadGetTagLength alg) = (outputsOf results, tag)) ∧
      ∀ (payload : Bytes) (pieces : List AeadPiece), payload.length < 256 ^ (15 - nonce.length) →
        payloadOf pieces = (Ccm.generateEncrypt (m.block keyData) nonce aads.flatten payload
          (psaAlgAeadGetTagLength alg)).1 →
        ∃ results, aeadCalls env none (ccmDecryption key alg nonce aads pieces
            (Ccm.generateEncrypt (m.block keyData) nonce aads.flatten payload
              (psaAlgAeadGetTagLength alg)).2) = (results, none) ∧
          AllSucceed results ∧ outputsOf results = payload) ∧
    ∀ es : List (AeadEvent Aes ChaCha), (∀ e ∈ es, m.Computes e.env.wc) →
      ∀ op ctx, (run aeadStep aeadInit es).2 op = some ctx →
        psaAlgAeadEqual ctx.alg psaAlgCcm = true → ctx.streaming = true →
          counterField ctx.nonce ctx.ccm.ctr = max 1 ((ctx.inputLength + 15) / 16) ∧
          max 1 ((ctx.inputLength + 15) / 16) < 256 ^ (15 - ctx.nonce.length) := by
  constructor
  · intro env key alg keyData nonce aads laws granted low high word
    constructor
    · intro pieces tagSize field room
      exact ccmEncryption_exact laws granted low high word field room
    · intro payload pieces field ciphertext
      exact ccmDecryption_exact laws granted low high word field ciphertext
  · intro es laws op ctx active ccm started
    obtain ⟨session, -, tells⟩ := run_aeadTold es laws op ctx active
    exact tells.counter ccm started

/-! ### Example 1 of SP 800-38C -/

theorem ccmExample_granted :
    CcmGranted ccmExampleMeaning ccmExampleEnv 1 ccmExampleAlg ccmExampleKey where
  ccm := by decide
  found := ⟨_, rfl⟩
  encryptSetup := ⟨_, rfl⟩
  decryptSetup := ⟨_, rfl⟩
  tagSize n admitted := by
    have bounds : (decide (4 ≤ n) && decide (n ≤ 16) && n % 2 == 0) = true := admitted
    simp only [Bool.and_eq_true, decide_eq_true_eq] at bounds
    exact bounds.1.2
  alloc _ := rfl
  aesInit := ⟨_, rfl⟩
  setKeyDirect _ := ⟨_, rfl⟩
  encryptDirect _ _ _ _ := ⟨_, rfl⟩
  aesNew := ⟨_, rfl⟩
  ccmSetKey _ := ⟨_, rfl⟩
  ccmEncrypt _ _ _ _ _ _ _ _ := ⟨_, rfl⟩
  ccmDecrypt aes nonce aad tag keyed _ _ _ opens := by
    cases keyed
    exact ⟨[], ccmExampleDecrypt_ok_iff.mpr opens⟩

/-- The payload of the example in three pieces, one of them empty. -/
def ccmExamplePieces : List AeadPiece :=
  [⟨[0x20], 16, by decide, by decide⟩, ⟨[], 0, by decide, by decide⟩,
    ⟨[0x21, 0x22, 0x23], 3, by decide, by decide⟩]

theorem ccm_sessions_exact_example :
    ∃ results, aeadCalls ccmExampleEnv none (ccmEncryption 1 ccmExampleAlg ccmExampleNonce
        [[0, 1, 2], [], [3, 4, 5, 6, 7]] ccmExamplePieces 4) = (results, none) ∧
      AllSucceed results ∧ (results.getLast?.map (·.tag)) = some [0x4d, 0xac, 0x25, 0x5d] ∧
      outputsOf results = [0x71, 0x62, 0x01, 0x5b] := by
  obtain ⟨results, tag, calls, succeed, last, sealed⟩ :=
    ((ccm_sessions_exact ccmExampleMeaning).1 ccmExampleEnv 1 ccmExampleAlg ccmExampleKey ccmExampleNonce
      [[0, 1, 2], [], [3, 4, 5, 6, 7]] ccmExample_computes ccmExample_granted (by decide) (by decide)
      (by decide)).1 ccmExamplePieces 4 (by decide) (by decide)
  have vector : Ccm.generateEncrypt (ccmExampleMeaning.block ccmExampleKey) ccmExampleNonce
      [0, 1, 2, 3, 4, 5, 6, 7] (payloadOf ccmExamplePieces) (psaAlgAeadGetTagLength ccmExampleAlg) =
        ([0x71, 0x62, 0x01, 0x5b], [0x4d, 0xac, 0x25, 0x5d]) := by decide +kernel
  obtain ⟨outputs, tagged⟩ := Prod.mk.inj (vector.symm.trans sealed)
  exact ⟨results, calls, succeed, by rw [last, ← tagged], outputs.symm⟩

end WolfPSA.Guarantees
