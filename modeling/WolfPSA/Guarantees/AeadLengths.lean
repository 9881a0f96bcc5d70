import WolfPSA.Lib.Trace
import WolfPSA.Source.Aead

/-!
# Declared lengths and nonce of an AEAD operation

CCM ties the length of the nonce to the length of the message, and the application gives the two in either
order. Whichever call comes second checks the pair, so both orders accept the same pairs and leave the same
context; and over every run the message length of a CCM operation fits the field that its nonce leaves.
-/

namespace WolfPSA.Guarantees
open Lib Source

variable {Aes ChaCha : Type}

/-! ## The check -/

private theorem not_tooLong_unset (alg : Algorithm) (plaintextLength : BitVec 64) :
    ccmLengthTooLong alg 0 plaintextLength = false := by
  unfold ccmLengthTooLong
  simp

private theorem checkLengths_success_iff {alg : Algorithm} {nonceLength adLength plaintextLength : BitVec 64} :
    wolfpsaAeadCheckLengths alg nonceLength adLength plaintextLength = .success ↔
      ccmLengthTooLong alg nonceLength plaintextLength = false ∧
      wolfpsaAeadCheckLengths alg 0 adLength plaintextLength = .success := by
  unfold wolfpsaAeadCheckLengths
  rw [not_tooLong_unset]
  cases ccmLengthTooLong alg nonceLength plaintextLength with
  | true => exact ⟨nofun, nofun⟩
  | false => exact ⟨fun passed => ⟨rfl, passed⟩, fun both => both.2⟩

/-! ## Two orders -/

/-- `psa_aead_set_nonce` and then `psa_aead_set_lengths`: both statuses and the operation after. -/
def nonceThenLengths (operation : Option (AeadCtx Aes ChaCha)) (nonce : InBuf)
    (adLength plaintextLength : BitVec 64) : (Status × Status) × Option (AeadCtx Aes ChaCha) :=
  let first := psaAeadSetNonce operation nonce
  let second := psaAeadSetLengths first.2 adLength plaintextLength
  ((first.1, second.1), second.2)

/-- `psa_aead_set_lengths` and then `psa_aead_set_nonce`. -/
def lengthsThenNonce (operation : Option (AeadCtx Aes ChaCha)) (nonce : InBuf)
    (adLength plaintextLength : BitVec 64) : (Status × Status) × Option (AeadCtx Aes ChaCha) :=
  let first := psaAeadSetLengths operation adLength plaintextLength
  let second := psaAeadSetNonce first.2 nonce
  ((first.1, second.1), second.2)

/-- An operation that a setup call has just made active. -/
def JustSetUp (operation : Option (AeadCtx Aes ChaCha)) : Prop :=
  ∃ (env : AeadEnv Aes ChaCha) (key : KeyId) (alg : Algorithm) (usage : KeyUsage),
    wolfpsaAeadSetup env none key alg usage = (.success, operation)

/-- Nothing but the setup has happened to the context. -/
structure Fresh (ctx : AeadCtx Aes ChaCha) : Prop where
  nonce : ctx.nonce = []
  lengths : ctx.lengthsSet = false
  ad : ctx.adStarted = false
  body : ctx.bodyStarted = false

/-- The nonce and the lengths that a fresh operation takes, in whichever order. -/
structure Admitted (ctx : AeadCtx Aes ChaCha) (nonce : InBuf) (adLength plaintextLength : BitVec 64) :
    Prop where
  given : nonce.isNull = false
  sized : aeadNonceLengthStatus ctx nonce.length = .success
  fits : wolfpsaAeadCheckLengths ctx.alg (BitVec.ofNat 64 nonce.length) adLength plaintextLength = .success

/-- The context with its nonce and its lengths. -/
def prepared (ctx : AeadCtx Aes ChaCha) (nonce : InBuf) (adLength plaintextLength : BitVec 64) :
    AeadCtx Aes ChaCha :=
  { ctx with
    nonce := nonce.bytes, adExpected := adLength, plaintextExpected := plaintextLength,
    lengthsSet := true }

section

variable {ctx : AeadCtx Aes ChaCha} {operation : Option (AeadCtx Aes ChaCha)} {nonce : InBuf}
  {adLength plaintextLength : BitVec 64}

theorem aeadSetupCtx_fresh {env : AeadEnv Aes ChaCha} {key : KeyId} {alg : Algorithm}
    {usage : KeyUsage} (granted : aeadSetupCtx env key alg usage = .ok ctx) : Fresh ctx := by
  unfold aeadSetupCtx at granted
  obtain ⟨-, granted⟩ := ensure_bind_ok_iff.mp granted
  obtain ⟨⟨attributes, keyData⟩, -, granted⟩ := except_bind_ok granted
  simp only [ensure_bind_ok_iff, require_bind_ok_iff] at granted
  obtain ⟨-, -, -, -, made⟩ := granted
  cases made
  exact ⟨rfl, rfl, rfl, rfl⟩

theorem JustSetUp.fresh (active : JustSetUp operation) : ∃ ctx, operation = some ctx ∧ Fresh ctx := by
  obtain ⟨env, key, alg, usage, made⟩ := active
  unfold wolfpsaAeadSetup at made
  dsimp only at made
  cases granted : aeadSetupCtx env key alg usage with
  | error status =>
    rw [granted] at made
    exact absurd (congrArg Prod.fst made) status.property
  | ok ctx =>
    rw [granted] at made
    exact ⟨ctx, (congrArg Prod.snd made).symm, aeadSetupCtx_fresh granted⟩

private theorem refused_iff {α : Type} (status : Failure) (left after : Option α) :
    (status.val, left) = (.success, after) ↔
      ∃ a, (.error status : Except Failure α) = .ok a ∧ after = some a := by
  refine ⟨fun same => absurd (congrArg Prod.fst same) status.property, ?_⟩
  rintro ⟨_, refused, -⟩
  cases refused

private theorem accepted_iff {α : Type} (moved : α) (after : Option α) :
    (Status.success, some moved) = (.success, after) ↔
      ∃ a, (.ok moved : Except Failure α) = .ok a ∧ after = some a := by
  constructor
  · intro same
    exact ⟨moved, rfl, (congrArg Prod.snd same).symm⟩
  · rintro ⟨_, same, rfl⟩
    cases same
    rfl

theorem setNonce_iff : psaAeadSetNonce (some ctx) nonce = (.success, operation) ↔
    ∃ ctx', aeadSetNonce ctx nonce = .ok ctx' ∧ operation = some ctx' := by
  unfold psaAeadSetNonce
  dsimp only
  cases aeadSetNonce ctx nonce with
  | error status => exact refused_iff status _ _
  | ok moved => exact accepted_iff moved _

private theorem setLengths_iff :
    psaAeadSetLengths (some ctx) adLength plaintextLength = (.success, operation) ↔
      ∃ ctx', aeadSetLengths ctx adLength plaintextLength = .ok ctx' ∧ operation = some ctx' := by
  unfold psaAeadSetLengths
  dsimp only
  cases aeadSetLengths ctx adLength plaintextLength with
  | error status => exact refused_iff status _ _
  | ok moved => exact accepted_iff moved _

theorem bytes_length (given : nonce.isNull = false) : nonce.bytes.length = nonce.length := by
  cases nonce with
  | null n => cases given
  | data bytes => rfl

private theorem nonceThenLengths_iff (fresh : Fresh ctx) :
    nonceThenLengths (some ctx) nonce adLength plaintextLength = ((.success, .success), operation) ↔
      Admitted ctx nonce adLength plaintextLength ∧
        operation = some (prepared ctx nonce adLength plaintextLength) := by
  constructor
  · intro both
    have first : psaAeadSetNonce (some ctx) nonce =
        (.success, (psaAeadSetNonce (some ctx) nonce).2) := Prod.ext (congrArg (·.1.1) both) rfl
    obtain ⟨ctx₁, accepted, middle⟩ := setNonce_iff.mp first
    have second : psaAeadSetLengths (psaAeadSetNonce (some ctx) nonce).2 adLength plaintextLength =
        (.success, operation) := Prod.ext (congrArg (·.1.2) both) (congrArg (·.2) both)
    rw [middle, setLengths_iff] at second
    obtain ⟨ctx₂, declared, rfl⟩ := second
    obtain ⟨given, -, sized, -, rfl⟩ := aeadSetNonce_ok_iff.mp accepted
    obtain ⟨-, fits, rfl⟩ := aeadSetLengths_ok_iff.mp declared
    rw [show (BitVec.ofNat 64 nonce.bytes.length) = BitVec.ofNat 64 nonce.length by
      rw [bytes_length given]] at fits
    exact ⟨⟨given, sized, fits⟩, rfl⟩
  · rintro ⟨admitted, rfl⟩
    have free : aeadNonceFitsLengths ctx nonce.length = .success := by
      unfold aeadNonceFitsLengths
      rw [fresh.lengths]
      rfl
    have first : psaAeadSetNonce (some ctx) nonce =
        (.success, some { ctx with nonce := nonce.bytes }) :=
      setNonce_iff.mpr ⟨_, aeadSetNonce_ok_iff.mpr
        ⟨admitted.given, by rw [fresh.nonce]; rfl, admitted.sized, free, rfl⟩, rfl⟩
    have second : psaAeadSetLengths (some { ctx with nonce := nonce.bytes }) adLength plaintextLength =
        (.success, some (prepared ctx nonce adLength plaintextLength)) := by
      refine setLengths_iff.mpr ⟨_, aeadSetLengths_ok_iff.mpr
        ⟨⟨fresh.lengths, fresh.ad, fresh.body⟩, ?_, rfl⟩, rfl⟩
      rw [show ({ ctx with nonce := nonce.bytes } : AeadCtx Aes ChaCha).nonce = nonce.bytes from rfl,
        bytes_length admitted.given]
      exact admitted.fits
    unfold nonceThenLengths
    rw [first]
    dsimp only
    rw [second]

theorem lengthsThenNonce_iff (fresh : Fresh ctx) :
    lengthsThenNonce (some ctx) nonce adLength plaintextLength = ((.success, .success), operation) ↔
      Admitted ctx nonce adLength plaintextLength ∧
        operation = some (prepared ctx nonce adLength plaintextLength) := by
  constructor
  · intro both
    have first : psaAeadSetLengths (some ctx) adLength plaintextLength =
        (.success, (psaAeadSetLengths (some ctx) adLength plaintextLength).2) :=
      Prod.ext (congrArg (·.1.1) both) rfl
    obtain ⟨ctx₁, declared, middle⟩ := setLengths_iff.mp first
    have second : psaAeadSetNonce (psaAeadSetLengths (some ctx) adLength plaintextLength).2 nonce =
        (.success, operation) := Prod.ext (congrArg (·.1.2) both) (congrArg (·.2) both)
    rw [middle, setNonce_iff] at second
    obtain ⟨ctx₂, accepted, rfl⟩ := second
    obtain ⟨-, -, rfl⟩ := aeadSetLengths_ok_iff.mp declared
    obtain ⟨given, -, sized, fits, rfl⟩ := aeadSetNonce_ok_iff.mp accepted
    exact ⟨⟨given, sized, fits⟩, rfl⟩
  · rintro ⟨admitted, rfl⟩
    -- without a nonce the check asks for less than it does with one
    have unset : wolfpsaAeadCheckLengths ctx.alg (BitVec.ofNat 64 ctx.nonce.length) adLength
        plaintextLength = .success := by
      rw [fresh.nonce]
      exact (checkLengths_success_iff.mp admitted.fits).2
    have first : psaAeadSetLengths (some ctx) adLength plaintextLength = (.success, some { ctx with
        adExpected := adLength, plaintextExpected := plaintextLength, lengthsSet := true }) :=
      setLengths_iff.mpr ⟨_, aeadSetLengths_ok_iff.mpr
        ⟨⟨fresh.lengths, fresh.ad, fresh.body⟩, unset, rfl⟩, rfl⟩
    have second : psaAeadSetNonce (some { ctx with
        adExpected := adLength, plaintextExpected := plaintextLength, lengthsSet := true }) nonce =
        (.success, some (prepared ctx nonce adLength plaintextLength)) :=
      setNonce_iff.mpr ⟨_, aeadSetNonce_ok_iff.mpr
        ⟨admitted.given, by rw [fresh.nonce]; rfl, admitted.sized, admitted.fits, rfl⟩, rfl⟩
    unfold lengthsThenNonce
    rw [first]
    dsimp only
    rw [second]

end

/-! ## The length field of CCM -/

/-- A length that passes the check fits the field; eight bytes hold every `size_t`. -/
private theorem fits_field {alg : Algorithm} {n : Nat} {plaintextLength : BitVec 64}
    (ccm : psaAlgAeadEqual alg psaAlgCcm = true) (low : 7 ≤ n) (high : n ≤ 13)
    (short : ccmLengthTooLong alg (BitVec.ofNat 64 n) plaintextLength = false) :
    plaintextLength.toNat < 256 ^ (15 - n) := by
  have size : ((15 : BitVec 64) - BitVec.ofNat 64 n).toNat = 15 - n := by
    have value : (BitVec.ofNat 64 n).toNat = n := by
      rw [BitVec.toNat_ofNat]
      omega
    rw [BitVec.toNat_sub_of_le, value]
    · rfl
    · rw [BitVec.le_def, value]
      exact Nat.le_trans high (by decide)
  have power : 256 ^ (15 - n) = 2 ^ (8 * (15 - n)) := by
    rw [Nat.pow_mul]
  rcases Nat.eq_or_lt_of_le low with rfl | larger
  · exact plaintextLength.isLt
  · have set : (BitVec.ofNat 64 n != 0) = true := by
      rw [bne_iff_ne, ne_eq, ← BitVec.toNat_inj, BitVec.toNat_ofNat]
      show ¬n % 2 ^ 64 = 0
      omega
    have below : decide ((15 : BitVec 64) - BitVec.ofNat 64 n < 8) = true := by
      rw [decide_eq_true_eq, BitVec.lt_def, size]
      show 15 - n < 8
      omega
    unfold ccmLengthTooLong at short
    dsimp only at short
    rw [ccm, set, below, size] at short
    have zero : plaintextLength >>> (8 * (15 - n)) = 0 := by
      simpa using short
    have quotient : plaintextLength.toNat / 2 ^ (8 * (15 - n)) = 0 := by
      rw [← Nat.shiftRight_eq_div_pow, ← BitVec.toNat_ushiftRight, zero]
      rfl
    rw [power]
    exact (Nat.div_eq_zero_iff_lt (Nat.two_pow_pos _)).mp quotient

/-! ## Every run -/

/-- The nonce of a CCM operation, once it is set, and the lengths, once both are. -/
structure CcmFits (ctx : AeadCtx Aes ChaCha) : Prop where
  sized : psaAlgAeadEqual ctx.alg psaAlgCcm = true → ctx.nonce.length ≠ 0 →
    7 ≤ ctx.nonce.length ∧ ctx.nonce.length ≤ 13
  fits : ctx.nonce.length ≠ 0 → ctx.lengthsSet = true →
    wolfpsaAeadCheckLengths ctx.alg (BitVec.ofNat 64 ctx.nonce.length) ctx.adExpected
      ctx.plaintextExpected = .success

/-- The message length of CCM fits the field that the nonce leaves. -/
theorem CcmFits.field {ctx : AeadCtx Aes ChaCha} (holds : CcmFits ctx)
    (ccm : psaAlgAeadEqual ctx.alg psaAlgCcm = true) (named : ctx.nonce.length ≠ 0)
    (set : ctx.lengthsSet = true) : ctx.plaintextExpected.toNat < 256 ^ (15 - ctx.nonce.length) := by
  obtain ⟨low, high⟩ := holds.sized ccm named
  exact fits_field ccm low high (checkLengths_success_iff.mp (holds.fits named set)).1

/-- The declared additional data has a 32-bit length. -/
theorem CcmFits.word {ctx : AeadCtx Aes ChaCha} (holds : CcmFits ctx) (named : ctx.nonce.length ≠ 0)
    (set : ctx.lengthsSet = true) : wolfpsaCheckWord32Length ctx.adExpected.toNat = .success := by
  have checked := (checkLengths_success_iff.mp (holds.fits named set)).2
  unfold wolfpsaAeadCheckLengths at checked
  rw [not_tooLong_unset, if_neg Bool.false_ne_true] at checked
  split at checked
  · cases checked
  split at checked
  · cases checked
  · rename_i short
    exact not_not.mp fun long => short (.inl long)

section

variable {env : AeadEnv Aes ChaCha} {ctx ctx' : AeadCtx Aes ChaCha}

/-- The fields that the invariant reads. -/
private def SameLengths (ctx ctx' : AeadCtx Aes ChaCha) : Prop :=
  ctx'.alg = ctx.alg ∧ ctx'.nonce = ctx.nonce ∧ ctx'.lengthsSet = ctx.lengthsSet ∧
    ctx'.adExpected = ctx.adExpected ∧ ctx'.plaintextExpected = ctx.plaintextExpected

private theorem CcmFits.same (holds : CcmFits ctx) (same : SameLengths ctx ctx') : CcmFits ctx' := by
  obtain ⟨alg, nonce, set, ad, plaintext⟩ := same
  constructor
  · rw [alg, nonce]
    exact holds.sized
  · rw [alg, nonce, set, ad, plaintext]
    exact holds.fits

private theorem aeadTaken_same {input : InBuf} {output : OutBuf} {bytes : Bytes}
    (taken : AeadTaken env ctx input output bytes ctx') : SameLengths ctx ctx' := by
  cases taken with
  | nothing empty => exact ⟨rfl, rfl, rfl, rfl, rfl⟩
  | buffered some null whole => exact ⟨rfl, rfl, rfl, rfl, rfl⟩
  | streamed some given unbuffered word updated =>
    obtain ⟨aes, chacha, ccm, rfl⟩ := wolfpsaAeadStreamUpdate_frame updated
    exact ⟨rfl, rfl, rfl, rfl, rfl⟩

private theorem setNonce_fits {nonce : InBuf} (accepted : aeadSetNonce ctx nonce = .ok ctx') :
    CcmFits ctx' := by
  obtain ⟨given, -, sized, fits, rfl⟩ := aeadSetNonce_ok_iff.mp accepted
  have length := bytes_length given
  constructor
  · intro ccm _
    show 7 ≤ nonce.bytes.length ∧ nonce.bytes.length ≤ 13
    unfold aeadNonceLengthStatus at sized
    rw [length]
    have notGcm : ¬psaAlgAeadEqual ctx.alg psaAlgGcm = true := by
      intro gcm
      have both := (aeadEqual_iff _ _).mp ccm
      rw [(aeadEqual_iff _ _).mp gcm] at both
      exact absurd both (by decide)
    rw [if_neg notGcm, if_pos ccm] at sized
    split at sized
    · cases sized
    · omega
  · intro _ set
    show wolfpsaAeadCheckLengths ctx.alg (BitVec.ofNat 64 nonce.bytes.length) _ _ = _
    rw [length]
    unfold aeadNonceFitsLengths at fits
    rw [if_pos set] at fits
    exact fits

/-- One call keeps the invariant of its operation. -/
theorem AeadAnswer.fits {call : AeadCall} {result : AeadResult}
    {operation : Option (AeadCtx Aes ChaCha)}
    (answer : AeadAnswer env call result operation (some ctx'))
    (before : ∀ ctx, operation = some ctx → CcmFits ctx) : CcmFits ctx' := by
  cases answer with
  | kept status => exact before ctx' rfl
  | encryptSetup granted =>
    have fresh := aeadSetupCtx_fresh granted
    exact ⟨fun _ set => absurd (congrArg List.length fresh.nonce) set,
      fun set => absurd (congrArg List.length fresh.nonce) set⟩
  | decryptSetup granted =>
    have fresh := aeadSetupCtx_fresh granted
    exact ⟨fun _ set => absurd (congrArg List.length fresh.nonce) set,
      fun set => absurd (congrArg List.length fresh.nonce) set⟩
  | setNonce accepted => exact setNonce_fits accepted
  | generateNonce accepted => exact setNonce_fits accepted
  | setLengths accepted =>
    obtain ⟨-, fits, rfl⟩ := aeadSetLengths_ok_iff.mp accepted
    exact ⟨(before _ rfl).sized, fun _ _ => fits⟩
  | emptyAd early empty => exact (before _ rfl).same ⟨rfl, rfl, rfl, rfl, rfl⟩
  | updateAd early appended =>
    obtain ⟨-, rfl⟩ := aeadAppendAad_ok appended
    exact (before _ rfl).same ⟨rfl, rfl, rfl, rfl, rfl⟩
  | update declared nonce taken =>
    exact (before _ rfl).same (aeadTaken_same (aeadUpdate_taken taken).2)

end

def AllCcmFit (s : AeadState Aes ChaCha) : Prop := ∀ op ctx, s op = some ctx → CcmFits ctx

private theorem allCcmFit_step {s : AeadState Aes ChaCha} (holds : AllCcmFit s)
    (e : AeadEvent Aes ChaCha) : AllCcmFit (aeadStep s e).2 := by
  intro op ctx active
  rcases eq_or_ne op e.call.op with rfl | other
  · have answer := aeadCall_answer e.env (s e.call.op) e.call
    have same : (aeadCall e.env (s e.call.op) e.call).2 = some ctx :=
      (Function.update_self e.call.op _ s).symm.trans active
    rw [same] at answer
    exact AeadAnswer.fits answer fun ctx held => holds e.call.op ctx held
  · exact holds op ctx ((Function.update_of_ne other _ s).symm.trans active)

theorem run_allCcmFit (es : List (AeadEvent Aes ChaCha)) : AllCcmFit (run aeadStep aeadInit es).2 :=
  run_state_invariant AllCcmFit (fun _ _ active => by cases active)
    (fun _ e (_ : True) holds => allCcmFit_step holds e) es fun _ _ => trivial

/-! ## The initialisation -/

/-- `psa_aead_update` gets to `wolfpsa_aead_ccm_init`: the guards on its way. -/
structure CcmInitRuns (ctx : AeadCtx Aes ChaCha) (input : InBuf) (output : OutBuf)
    (outputLengthNull : Bool) : Prop where
  length : outputLengthNull = false
  declared : wolfpsaAeadLengthsMissing ctx = false
  nonce : ctx.nonce.length ≠ 0
  ad : (ctx.lengthsSet && ctx.aad.length != ctx.adExpected.toNat) = false
  payload : (ctx.lengthsSet && (decide (input.length > sizeMax - ctx.inputLength) ||
    decide (ctx.inputLength + input.length > ctx.plaintextExpected.toNat))) = false
  given : input.isNull = false
  nonempty : input.length ≠ 0
  out : output.isNull = false
  unbuffered : ctx.input.isEmpty = true
  room : input.length ≤ output.size
  word : wolfpsaCheckWord32Length input.length = .success
  gcm : psaAlgAeadEqual ctx.alg psaAlgGcm = false
  chacha : psaAlgAeadEqual ctx.alg psaAlgChacha20Poly1305 = false
  ccm : psaAlgAeadEqual ctx.alg psaAlgCcm = true
  first : ctx.streaming = false

section

variable {ctx : AeadCtx Aes ChaCha} {input : InBuf} {output : OutBuf} {outputLengthNull : Bool}

/-- Behind the guards the call fails when the initialisation does. -/
theorem CcmInitRuns.update {env : AeadEnv Aes ChaCha} {status : Failure}
    (runs : CcmInitRuns ctx input output outputLengthNull)
    (failed : wolfpsaAeadCcmInit env.wc { ctx with bodyStarted := true } = .error status) :
    psaAeadUpdate env (some ctx) input output outputLengthNull = (⟨status.val, [], []⟩, none) := by
  have streamed : wolfpsaAeadStreamUpdate env.wc { ctx with bodyStarted := true } input.bytes =
      .error status := by
    unfold wolfpsaAeadStreamUpdate ccmFirst
    dsimp only
    rw [if_neg (Bool.eq_false_iff.mp runs.gcm), if_neg (Bool.eq_false_iff.mp runs.chacha),
      if_pos runs.ccm, if_neg (Bool.eq_false_iff.mp runs.first), failed]
    rfl
  have taken : aeadUpdate env ctx input output = .error status := by
    unfold aeadUpdate aeadStream
    rw [runs.ad, runs.payload, runs.given, if_neg runs.nonempty, if_neg (Bool.eq_false_iff.mp runs.out)]
    dsimp only
    rw [runs.unbuffered, runs.word, decide_eq_true runs.room, streamed]
    rfl
  unfold psaAeadUpdate
  dsimp only
  rw [if_neg (Bool.eq_false_iff.mp runs.length), if_neg (Bool.eq_false_iff.mp runs.declared),
    if_neg runs.nonce, taken]

private theorem require_bind_congr {α : Type} {condition : Bool} {status : Status}
    {fails : status ≠ .success} {next next' : Unit → Except Failure α}
    (same : condition = true → next () = next' ()) :
    (require condition status fails >>= next) = (require condition status fails >>= next') := by
  cases condition with
  | false => rfl
  | true => exact same rfl

/-- `wc_AesSetKeyDirect` is called in the initialisation only: without these guards the call does not
depend on it. -/
theorem ccmInitRuns_of_differs {env : AeadEnv Aes ChaCha}
    {other : Aes → Bytes → Except WcError Aes}
    (differs : psaAeadUpdate { env with wc := { env.wc with aesSetKeyDirect := other } } (some ctx) input
      output outputLengthNull ≠ psaAeadUpdate env (some ctx) input output outputLengthNull) :
    CcmInitRuns ctx input output outputLengthNull := by
  by_contra idle
  refine differs ?_
  unfold psaAeadUpdate
  dsimp only
  split
  · rfl
  split
  · rfl
  split
  · rfl
  rename_i length declared nonce
  suffices same : aeadUpdate { env with wc := { env.wc with aesSetKeyDirect := other } } ctx input output =
      aeadUpdate env ctx input output by
    rw [same]
  unfold aeadUpdate
  refine require_bind_congr fun ad => require_bind_congr fun payload => require_bind_congr fun given => ?_
  split
  · rfl
  split
  · rfl
  rename_i nonempty out
  unfold aeadStream
  refine require_bind_congr fun unbuffered => require_bind_congr fun room =>
    require_bind_congr fun word => ?_
  suffices same : wolfpsaAeadStreamUpdate { env.wc with aesSetKeyDirect := other }
      { ctx with bodyStarted := true } input.bytes =
        wolfpsaAeadStreamUpdate env.wc { ctx with bodyStarted := true } input.bytes by
    rw [same]
  unfold wolfpsaAeadStreamUpdate
  split
  · rfl
  split
  · rfl
  split
  · rename_i gcm chacha ccm
    unfold ccmFirst
    split
    · rfl
    · rename_i first
      have readable : input.isNull = false := by
        simpa [Nat.pos_of_ne_zero nonempty] using given
      exact absurd ⟨Bool.eq_false_iff.mpr length, Bool.eq_false_iff.mpr declared, nonce,
        (Bool.not_eq_true' _).mp ad, (Bool.not_eq_true' _).mp payload, readable, nonempty,
        Bool.eq_false_iff.mpr out, unbuffered, of_decide_eq_true room, beq_iff_eq.mp word,
        Bool.eq_false_iff.mpr gcm, Bool.eq_false_iff.mpr chacha, ccm, Bool.eq_false_iff.mpr first⟩ idle
  · rfl

private theorem CcmInitRuns.fits (runs : CcmInitRuns ctx input output outputLengthNull)
    (holds : CcmFits ctx) : ctx.plaintextExpected.toNat < 256 ^ (15 - ctx.nonce.length) := by
  have set : ctx.lengthsSet = true := by
    have declared := runs.declared
    unfold wolfpsaAeadLengthsMissing at declared
    simpa [runs.ccm] using declared
  exact holds.field runs.ccm runs.nonce set

end

/-- On an operation just set up the two orders succeed for the same nonces and lengths and leave the same
context. In every reachable state the message length fits the field whenever the initialisation of CCM
runs, so nothing is left of it when the field is written. -/
theorem lengths_and_nonce_commute :
    (∀ (operation : Option (AeadCtx Aes ChaCha)), JustSetUp operation →
      ∀ (nonce : InBuf) (adLength plaintextLength : BitVec 64),
        ((nonceThenLengths operation nonce adLength plaintextLength).1 = (.success, .success) ↔
          (lengthsThenNonce operation nonce adLength plaintextLength).1 = (.success, .success)) ∧
        ((nonceThenLengths operation nonce adLength plaintextLength).1 = (.success, .success) →
          (nonceThenLengths operation nonce adLength plaintextLength).2 =
            (lengthsThenNonce operation nonce adLength plaintextLength).2)) ∧
    ∀ (es : List (AeadEvent Aes ChaCha)) (op : Nat) (ctx : AeadCtx Aes ChaCha) (input : InBuf)
      (output : OutBuf) (outputLengthNull : Bool), (run aeadStep aeadInit es).2 op = some ctx →
      CcmInitRuns ctx input output outputLengthNull →
        ctx.plaintextExpected.toNat < 256 ^ (15 - ctx.nonce.length) ∧
        lengthRest (15 - ctx.nonce.length) ctx.plaintextExpected.toNat = 0 := by
  constructor
  · intro operation active nonce adLength plaintextLength
    obtain ⟨ctx, rfl, fresh⟩ := active.fresh
    have first (admitted : Admitted ctx nonce adLength plaintextLength) :=
      (nonceThenLengths_iff fresh).mpr ⟨admitted, rfl⟩
    have second (admitted : Admitted ctx nonce adLength plaintextLength) :=
      (lengthsThenNonce_iff fresh).mpr ⟨admitted, rfl⟩
    have forward (both : (nonceThenLengths (some ctx) nonce adLength plaintextLength).1 =
        (.success, .success)) := ((nonceThenLengths_iff fresh).mp (Prod.ext both rfl)).1
    have backward (both : (lengthsThenNonce (some ctx) nonce adLength plaintextLength).1 =
        (.success, .success)) := ((lengthsThenNonce_iff fresh).mp (Prod.ext both rfl)).1
    refine ⟨⟨fun both => ?_, fun both => ?_⟩, fun both => ?_⟩
    · rw [second (forward both)]
    · rw [first (backward both)]
    · rw [first (forward both), second (forward both)]
  · intro es op ctx input output outputLengthNull active runs
    have fits := runs.fits (run_allCcmFit es op ctx active)
    refine ⟨fits, ?_⟩
    rw [lengthRest_eq]
    exact Nat.div_eq_of_lt fits

/-- A wolfCrypt that copies its input and answers tags of zeros. -/
def copyAead : WcAead Unit Unit where
  aesZero := ()
  chachaZero := ()
  aesInit := .ok ()
  gcmInit _ _ _ _ := .ok ()
  gcmUpdate _ _ input _ := .ok (input, ())
  gcmEncryptFinal _ tagLength := .ok (List.replicate tagLength 0)
  gcmDecryptFinal _ _ := .ok ()
  aesSetKeyDirect _ _ := .ok ()
  aesEncryptDirect _ block := .ok block
  chachaInit _ _ _ := .ok ()
  chachaUpdateAad _ _ := .ok ()
  chachaUpdateData _ input := .ok (input, ())
  chachaFinal _ := .ok (List.replicate 16 0)
  chachaCheckTag _ _ := .ok ()
  aesNew := .ok ()
  gcmSetKey _ _ := .ok ()
  gcmEncrypt _ input _ _ tagLength := .ok (input, List.replicate tagLength 0)
  gcmDecrypt _ input _ _ _ := .ok input
  ccmSetKey _ _ := .ok ()
  ccmEncrypt _ input _ _ tagLength := .ok (input, List.replicate tagLength 0)
  ccmDecrypt _ input _ _ _ := .ok input
  chachaEncrypt _ _ _ input := .ok (input, List.replicate 16 0)
  chachaDecrypt _ _ _ input _ := .ok input

/-- An AES key for CCM. -/
def ccmKeyEnv : AeadEnv Unit Unit where
  getKeyData _ := .ok (⟨psaKeyTypeAes, 128, psaKeyLifetimeVolatile,
    psaKeyUsageEncrypt ||| psaKeyUsageDecrypt, psaAlgCcm, psaAlgNone, 1⟩, List.replicate 16 0x5a)
  ctxAlloc := true
  keyAlloc := true
  bufferAlloc _ := true
  random := .ok fun _ => 0
  sizes := ⟨4, fun n => decide (4 ≤ n) && decide (n ≤ 16) && n % 2 == 0⟩
  wc := copyAead

/-- A CCM operation with a nonce of 13 bytes, so that two bytes are left for the length. -/
def ccmPrepared : List (AeadEvent Unit Unit) :=
  [⟨ccmKeyEnv, .encryptSetup 0 1 psaAlgCcm⟩, ⟨ccmKeyEnv, .setNonce 0 (.data (List.replicate 13 7))⟩,
    ⟨ccmKeyEnv, .setLengths 0 0 0xFFFF⟩]

theorem lengths_and_nonce_commute_ccm :
    (nonceThenLengths (psaAeadEncryptSetup ccmKeyEnv none 1 psaAlgCcm).2 (.data (List.replicate 13 7)) 0
        0xFFFF).2 =
      (lengthsThenNonce (psaAeadEncryptSetup ccmKeyEnv none 1 psaAlgCcm).2 (.data (List.replicate 13 7)) 0
        0xFFFF).2 ∧
    (run aeadStep aeadInit ccmPrepared).2 0 =
      (nonceThenLengths (psaAeadEncryptSetup ccmKeyEnv none 1 psaAlgCcm).2
        (.data (List.replicate 13 7)) 0 0xFFFF).2 ∧
    lengthRest 2 0xFFFF = 0 := by
  have active : JustSetUp (psaAeadEncryptSetup ccmKeyEnv none 1 psaAlgCcm).2 :=
    ⟨ccmKeyEnv, 1, psaAlgCcm, psaKeyUsageEncrypt, rfl⟩
  have both : (nonceThenLengths (psaAeadEncryptSetup ccmKeyEnv none 1 psaAlgCcm).2
      (.data (List.replicate 13 7)) 0 0xFFFF).1 = (.success, .success) := by decide
  refine ⟨(lengths_and_nonce_commute.1 _ active _ _ _).2 both, by decide, ?_⟩
  exact (lengths_and_nonce_commute.2 ccmPrepared 0 _ (.data [1]) ⟨false, 1⟩ false rfl
    ⟨rfl, by decide, by decide, by decide, by decide, rfl, by decide, rfl, rfl, by decide, by decide,
      by decide, by decide, by decide, rfl⟩).2

end WolfPSA.Guarantees
