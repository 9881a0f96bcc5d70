import WolfPSA.Lib.Trace
import WolfPSA.Source.KeyDerivationOutput

/-!
# Key derivation: what one call can do

One inversion lemma for all calls on an active operation. A call refuses and leaves the context but
for the error mark, lowers the capacity, takes one input, or reaches `wolfpsa_kdf_output_bytes`.
Invariants over runs of calls are proved from `KdfMove`, not from the calls.
-/

namespace WolfPSA.Source
open Lib

variable {Hmac Cmac : Type}

/-! ## Inputs -/

theorem wolfpsaKdfAppend_ok {env : KdfEnv Hmac Cmac} {buf buf' : Bytes} {data : InBuf}
    (appended : wolfpsaKdfAppend env buf data = .ok buf') :
    buf' = buf ++ data.bytes ∧ data.bytes.length = data.length := by
  unfold wolfpsaKdfAppend at appended
  cases data with
  | null n =>
    split_ifs at appended with missing empty
    · cases appended
      simp_all [InBuf.bytes, InBuf.length]
    · simp_all [InBuf.isNull, InBuf.length]
  | data bytes =>
    refine ⟨?_, rfl⟩
    split_ifs at appended with missing empty
    · cases appended
      have none : bytes = [] := List.length_eq_zero_iff.mp (by simpa [InBuf.length] using empty)
      simp [InBuf.bytes, none]
    · exact (Except.ok.inj appended).symm

theorem wolfpsaKdfAppend_error {env : KdfEnv Hmac Cmac} {buf : Bytes} {data : InBuf} {status : Status}
    (refused : wolfpsaKdfAppend env buf data = .error status) :
    status = .invalidArgument ∨ status = .insufficientMemory := by
  unfold wolfpsaKdfAppend at refused
  split_ifs at refused <;> simp_all

/-- The context with one more accepted input. -/
def KdfCtx.take (ctx : KdfCtx) (step : KdfStep) (data : Bytes) (canOutputKey : Bool) : KdfCtx :=
  { ctx with
    inputs := Function.update ctx.inputs step (ctx.inputs step ++ data)
    stepsSet := step :: ctx.stepsSet
    canOutputKey := canOutputKey }

theorem wolfpsaKdfValidateStep_ne_invalidHandle (wc : WcKdf Hmac Cmac) (ctx : KdfCtx)
    (step : KdfStep) (length : Nat) :
    wolfpsaKdfValidateStep wc ctx step length ≠ .invalidHandle := by
  unfold wolfpsaKdfValidateStep validateHkdfStep validatePskToMsStep
  repeat' apply ite_ne_of_ne
  all_goals simp

/-- What `wolfpsa_kdf_input_bytes` asks of a step and its data before it takes them. -/
structure KdfAdmits (wc : WcKdf Hmac Cmac) (ctx : KdfCtx) (step : KdfStep) (length : Nat) : Prop where
  valid : wolfpsaKdfValidateStep wc ctx step length = .success
  named : step.hasMask = true
  notCost : step ≠ .cost

theorem KdfAdmits.early {wc : WcKdf Hmac Cmac} {ctx : KdfCtx} {step : KdfStep} {length : Nat}
    (admits : KdfAdmits wc ctx step length) : ctx.outputStarted = false := by
  have accepted := admits.valid
  unfold wolfpsaKdfValidateStep at accepted
  split at accepted
  · cases accepted
  · rename_i early
    simpa using early

/-- Only the salt of PBKDF2 is taken again. -/
theorem KdfAdmits.first {wc : WcKdf Hmac Cmac} {ctx : KdfCtx} {step : KdfStep} {length : Nat}
    (admits : KdfAdmits wc ctx step length) :
    psaAlgIsPbkdf2 ctx.alg = true ∧ step = .salt ∨ ctx.isSet step = false := by
  have accepted := admits.valid
  unfold wolfpsaKdfValidateStep at accepted
  split at accepted
  · cases accepted
  split at accepted
  · cases accepted
  split at accepted
  · cases accepted
  · rename_i again
    simp only [Bool.and_eq_true, Bool.not_eq_true', not_and, Bool.not_eq_true] at again
    by_cases salt : psaAlgIsPbkdf2 ctx.alg = true ∧ step = .salt
    · exact .inl salt
    · refine .inr (again ?_)
      simpa using salt

theorem wolfpsaKdfInputBytes_move (env : KdfEnv Hmac Cmac) (ctx : KdfCtx) (step : KdfStep)
    (data : InBuf) :
    (∃ status, status ≠ .success ∧ wolfpsaKdfInputBytes env ctx step data = (status, ctx)) ∨
      (KdfAdmits env.wc ctx step data.bytes.length ∧ wolfpsaKdfInputBytes env ctx step data =
        (.success, ctx.take step data.bytes ctx.canOutputKey)) := by
  unfold wolfpsaKdfInputBytes
  split
  · rename_i valid
    split
    · exact .inl ⟨_, by simp, rfl⟩
    rename_i admitted
    simp only [Bool.or_eq_true, Bool.not_eq_true', beq_iff_eq, not_or, Bool.not_eq_false]
      at admitted
    cases appended : wolfpsaKdfAppend env (ctx.inputs step) data with
    | error status =>
      rcases wolfpsaKdfAppend_error appended with rfl | rfl
      · exact .inl ⟨_, by simp, rfl⟩
      · exact .inl ⟨_, by simp, rfl⟩
    | ok buf =>
      obtain ⟨joined, length⟩ := wolfpsaKdfAppend_ok appended
      refine .inr ⟨⟨by rw [length]; exact valid, admitted.1, admitted.2⟩, ?_⟩
      rw [joined]
      rfl
  · rename_i invalid
    exact .inl ⟨_, invalid, rfl⟩

/-- The data an input call gives for a step: the caller's bytes, a key, or an agreed secret. -/
inductive KdfGives (e : KdfEvent Hmac Cmac) (ctx : KdfCtx) (step : KdfStep) (data : Bytes) : Prop
  | bytes {buf : InBuf} (call : e.call = .inputBytes step buf) (same : buf.bytes = data)
  | key {key : KeyId} {attributes : KeyAttributes} (call : e.call = .inputKey step key)
      (found : e.env.getKeyData key = .ok (attributes, data))
  | agreement {privateKey : KeyId} {peerKey : InBuf}
      (call : e.call = .keyAgreement step privateKey peerKey)
      (agreed : kdfAgreedSecret e.env ctx step privateKey peerKey = .ok data)

theorem wolfpsaKdfInputKey_move (env : KdfEnv Hmac Cmac) (ctx : KdfCtx) (step : KdfStep)
    (key : KeyId) :
    (∃ status, status ≠ .success ∧ wolfpsaKdfInputKey env ctx step key = (status, ctx)) ∨
      ∃ attributes keyData granted, env.getKeyData key = .ok (attributes, keyData) ∧
        KdfAdmits env.wc ctx step keyData.length ∧
        wolfpsaKdfInputKey env ctx step key = (.success, ctx.take step keyData granted) := by
  unfold wolfpsaKdfInputKey
  cases found : env.getKeyData key with
  | error status => exact .inl ⟨status.val, status.property, rfl⟩
  | ok key =>
    obtain ⟨attributes, keyData⟩ := key
    dsimp only
    split
    · rcases wolfpsaKdfInputBytes_move env ctx step (.data keyData) with
        ⟨status, failed, refused⟩ | ⟨admits, taken⟩
      · rw [refused]
        exact .inl ⟨status, failed, if_neg fun granted => failed granted.1⟩
      · rw [taken]
        refine .inr ⟨attributes, keyData, ?_⟩
        split
        · exact ⟨true, rfl, admits, rfl⟩
        · exact ⟨ctx.canOutputKey, rfl, admits, rfl⟩
    · rename_i refused
      exact .inl ⟨_, refused, rfl⟩

theorem wolfpsaKdfKeyAgreement_move (env : KdfEnv Hmac Cmac) (ctx : KdfCtx) (step : KdfStep)
    (privateKey : KeyId) (peerKey : InBuf) :
    (∃ status, status ≠ .success ∧
        wolfpsaKdfKeyAgreement env ctx step privateKey peerKey = (status, ctx)) ∨
      ∃ secret granted, kdfAgreedSecret env ctx step privateKey peerKey = .ok secret ∧
        KdfAdmits env.wc ctx step secret.length ∧
        wolfpsaKdfKeyAgreement env ctx step privateKey peerKey =
          (.success, ctx.take step secret granted) := by
  unfold wolfpsaKdfKeyAgreement
  cases agreed : kdfAgreedSecret env ctx step privateKey peerKey with
  | error status => exact .inl ⟨status.val, status.property, rfl⟩
  | ok secret =>
    dsimp only
    rcases wolfpsaKdfInputBytes_move env ctx step (.data secret) with
      ⟨status, failed, refused⟩ | ⟨admits, taken⟩
    · rw [refused]
      exact .inl ⟨status, failed, if_neg fun granted => failed granted.1⟩
    · rw [taken]
      refine .inr ⟨secret, ?_⟩
      split
      · exact ⟨true, rfl, admits, rfl⟩
      · exact ⟨ctx.canOutputKey, rfl, admits, rfl⟩

/-! ## Failures of the back ends -/

/-- The computation fails, if it does, with a status that is neither a success nor the one
`wolfpsa_kdf_done` takes for a rejected key. -/
def FailsAsError {α : Type} (r : Except KdfFail α) : Prop :=
  ∀ status, r = .error (.status status) → status ≠ .success ∧ status ≠ .invalidHandle

section

variable {α β : Type}

theorem failsAsError_ok (value : α) : FailsAsError (.ok value) := by
  intro status same
  cases same

theorem failsAsError_hangs : FailsAsError (.error .hangs : Except KdfFail α) := by
  intro status same
  cases same

theorem failsAsError_status {status : Status} (error : status ≠ .success)
    (foreign : status ≠ .invalidHandle) :
    FailsAsError (.error (.status status) : Except KdfFail α) := by
  intro status' same
  cases same
  exact ⟨error, foreign⟩

theorem failsAsError_ofWc (r : Except WcError α) : FailsAsError (ofWcResult r) := by
  cases r with
  | ok value => exact failsAsError_ok value
  | error e => exact failsAsError_status (by simp) (by cases e <;> simp [wcErrorToPsaStatus])

theorem FailsAsError.bind {r : Except KdfFail α} {k : α → Except KdfFail β}
    (first : FailsAsError r) (second : ∀ value, FailsAsError (k value)) :
    FailsAsError (r >>= k) := by
  cases r with
  | ok value => exact second value
  | error fail =>
    intro status same
    cases same
    exact first status rfl

theorem failsAsError_ite {c : Prop} [Decidable c] {a b : Except KdfFail α} (first : FailsAsError a)
    (second : FailsAsError b) : FailsAsError (if c then a else b) := by
  split
  · exact first
  · exact second

end

theorem kdfCmac_fails (wc : WcMac Hmac Cmac) (key : Bytes) (pieces : List Bytes) :
    FailsAsError (kdfCmac wc key pieces) := by
  refine (failsAsError_ofWc _).bind fun fresh => (failsAsError_ofWc _).bind fun fed =>
    (failsAsError_ofWc _).bind fun tag => failsAsError_ite ?_ (failsAsError_ok _)
  exact failsAsError_status (by decide) (by decide)

theorem kdfHmac_fails (wc : WcMac Hmac Cmac) (hash : WcHashType) (key : Bytes)
    (pieces : List Bytes) : FailsAsError (kdfHmac wc hash key pieces) :=
  (failsAsError_ofWc _).bind fun _ => (failsAsError_ofWc _).bind fun _ =>
    (failsAsError_ofWc _).bind fun _ => failsAsError_ofWc _

theorem pbkdf2CmacIterate_fails (wc : WcMac Hmac Cmac) (key : Bytes) (n : Nat) (u t : Bytes) :
    FailsAsError (pbkdf2CmacIterate wc key n u t) := by
  induction n generalizing u t with
  | zero => exact failsAsError_ok t
  | succ n ih => exact (kdfCmac_fails wc key [u]).bind fun u' => ih _ _

theorem pbkdf2CmacBlocks_fails (wc : WcMac Hmac Cmac) (key salt : Bytes) (cost n i : Nat) :
    FailsAsError (pbkdf2CmacBlocks wc key salt cost n i) := by
  induction n generalizing i with
  | zero => exact failsAsError_ok []
  | succ n ih =>
    have block : FailsAsError (pbkdf2CmacBlock wc key salt cost i) :=
      (kdfCmac_fails wc key _).bind fun u => pbkdf2CmacIterate_fails wc key _ _ _
    exact block.bind fun t => (ih (i + 1)).bind fun rest => failsAsError_ok _

theorem sp800_108Loop_fails {block : Nat → Except KdfFail Bytes}
    (blocks : ∀ i, FailsAsError (block i)) (blockLen fuel counter remaining : Nat) :
    FailsAsError (sp800_108Loop block blockLen fuel counter remaining) := by
  induction fuel generalizing counter remaining with
  | zero => exact failsAsError_ok []
  | succ fuel ih =>
    refine failsAsError_ite (failsAsError_ok []) ?_
    exact (blocks counter).bind fun k => (ih _ _).bind fun rest => failsAsError_ok _

theorem wolfpsaKdfHkdf_fails (wc : WcKdf Hmac Cmac) (ctx : KdfCtx) (n : Nat) :
    FailsAsError (wolfpsaKdfHkdf wc ctx n) := by
  unfold wolfpsaKdfHkdf
  split
  · exact failsAsError_status (by decide) (by decide)
  dsimp only
  repeat' apply failsAsError_ite
  all_goals first
    | exact failsAsError_status (by decide) (by decide)
    | exact failsAsError_ofWc _
    | exact (failsAsError_ofWc _).bind fun _ => failsAsError_ok _
    | exact (failsAsError_ofWc _).bind fun _ => failsAsError_ofWc _

theorem wolfpsaKdfTls12Prf_fails (wc : WcKdf Hmac Cmac) (ctx : KdfCtx) (n : Nat) :
    FailsAsError (wolfpsaKdfTls12Prf wc ctx n) := by
  unfold wolfpsaKdfTls12Prf
  split
  · exact failsAsError_status (by decide) (by decide)
  · exact failsAsError_ite (failsAsError_status (by decide) (by decide)) (failsAsError_ofWc _)

theorem wolfpsaKdfTls12PskToMs_fails (env : KdfEnv Hmac Cmac) (ctx : KdfCtx) (n : Nat) :
    FailsAsError (wolfpsaKdfTls12PskToMs env ctx n) := by
  unfold wolfpsaKdfTls12PskToMs
  split
  · exact failsAsError_status (by decide) (by decide)
  dsimp only
  repeat' apply failsAsError_ite
  iterate 3 exact failsAsError_status (by decide) (by decide)
  exact failsAsError_ofWc _

theorem kdfPbkdf2Cmac_fails (env : KdfEnv Hmac Cmac) (ctx : KdfCtx) (n : Nat) :
    FailsAsError (kdfPbkdf2Cmac env ctx n) := by
  have key : FailsAsError (pbkdf2CmacKey env.wc.mac (ctx.inputs .password)) :=
    failsAsError_ite (failsAsError_ok _) (kdfCmac_fails _ _ _)
  unfold kdfPbkdf2Cmac
  dsimp only
  refine failsAsError_ite (failsAsError_status (by decide) (by decide)) (failsAsError_ite
    (failsAsError_status (by decide) (by decide)) (key.bind fun _ => ?_))
  refine failsAsError_ite (failsAsError_status (by decide) (by decide)) (failsAsError_ite
    (failsAsError_status (by decide) (by decide)) (failsAsError_ite ?_ ?_))
  · exact (pbkdf2CmacBlocks_fails _ _ _ _ _ _).bind fun _ => failsAsError_hangs
  · exact (pbkdf2CmacBlocks_fails _ _ _ _ _ _).bind fun _ => failsAsError_ok _

theorem wolfpsaKdfPbkdf2_fails (env : KdfEnv Hmac Cmac) (ctx : KdfCtx) (n : Nat) :
    FailsAsError (wolfpsaKdfPbkdf2 env ctx n) := by
  unfold wolfpsaKdfPbkdf2
  refine failsAsError_ite ?_ (failsAsError_ite (kdfPbkdf2Cmac_fails env ctx n)
    (failsAsError_status (by decide) (by decide)))
  split
  · exact failsAsError_status (by decide) (by decide)
  · exact failsAsError_ite (failsAsError_status (by decide) (by decide)) (failsAsError_ofWc _)

theorem wolfpsaKdfSp800_108Hmac_fails (wc : WcKdf Hmac Cmac) (ctx : KdfCtx) (n : Nat) :
    FailsAsError (wolfpsaKdfSp800_108Hmac wc ctx n) := by
  unfold wolfpsaKdfSp800_108Hmac
  split
  · exact failsAsError_status (by decide) (by decide)
  dsimp only
  repeat' apply failsAsError_ite
  iterate 3 exact failsAsError_status (by decide) (by decide)
  exact sp800_108Loop_fails (fun i => kdfHmac_fails _ _ _ _) _ _ _ _

theorem wolfpsaKdfSp800_108Cmac_fails (env : KdfEnv Hmac Cmac) (ctx : KdfCtx) (n : Nat) :
    FailsAsError (wolfpsaKdfSp800_108Cmac env ctx n) := by
  unfold wolfpsaKdfSp800_108Cmac
  dsimp only
  repeat' apply failsAsError_ite
  iterate 4 exact failsAsError_status (by decide) (by decide)
  exact (kdfCmac_fails _ _ _).bind fun _ =>
    sp800_108Loop_fails (fun i => kdfCmac_fails _ _ _) _ _ _ _

theorem wolfpsaKdfComputeOutput_fails (env : KdfEnv Hmac Cmac) (ctx : KdfCtx) (n : Nat) :
    FailsAsError (wolfpsaKdfComputeOutput env ctx n) := by
  unfold wolfpsaKdfComputeOutput
  refine failsAsError_ite (failsAsError_ok _) ?_
  refine failsAsError_ite (wolfpsaKdfHkdf_fails _ _ _) ?_
  refine failsAsError_ite (wolfpsaKdfTls12Prf_fails _ _ _) ?_
  refine failsAsError_ite (wolfpsaKdfTls12PskToMs_fails _ _ _) ?_
  refine failsAsError_ite (wolfpsaKdfPbkdf2_fails _ _ _) ?_
  refine failsAsError_ite (wolfpsaKdfSp800_108Hmac_fails _ _ _) ?_
  refine failsAsError_ite (wolfpsaKdfSp800_108Cmac_fails _ _ _) ?_
  exact failsAsError_status (by decide) (by decide)

/-! ## One output -/

theorem kdfFillCache_fails (env : KdfEnv Hmac Cmac) (ctx : KdfCtx) (n : Nat) :
    FailsAsError (kdfFillCache env ctx n) := by
  unfold kdfFillCache
  refine failsAsError_ite (failsAsError_ite ?_ ?_) (failsAsError_ok _)
  · exact failsAsError_status (by decide) (by decide)
  · exact (wolfpsaKdfComputeOutput_fails _ _ _).bind fun _ => failsAsError_ok _

theorem kdfDeliver_fails (env : KdfEnv Hmac Cmac) (ctx : KdfCtx) (n : Nat) :
    FailsAsError (kdfDeliver env ctx n) := by
  unfold kdfDeliver
  split
  · exact failsAsError_ite (failsAsError_status (by decide) (by decide)) (failsAsError_ok _)
  · refine failsAsError_ite (wolfpsaKdfComputeOutput_fails _ _ _) (failsAsError_ite ?_ ?_)
    · exact failsAsError_status (by decide) (by decide)
    · exact (wolfpsaKdfComputeOutput_fails _ _ _).bind fun _ => failsAsError_ok _

theorem kdfInputsComplete_ne_invalidHandle (ctx : KdfCtx) (n : Nat) :
    kdfInputsComplete ctx n ≠ .invalidHandle := by
  unfold kdfInputsComplete
  repeat' apply ite_ne_of_ne
  all_goals simp

/-- The capacity after `n` more bytes. -/
def kdfCapacityAfter (capacity n : Nat) : Nat :=
  if capacity = psaKeyDerivationUnlimitedCapacity then capacity else capacity - n

/-- `L` once the first output call was made. -/
def kdfLAfter (ctx : KdfCtx) : Nat := (kdfSnapshotL ctx).sp800_108LBytes

/-- The context `wolfpsa_kdf_output_bytes` computes from: `L` bound, the capacity reserved and the
output marked as started. -/
def kdfStarted (ctx : KdfCtx) (n : Nat) : KdfCtx :=
  { ctx with
    sp800_108LBytes := kdfLAfter ctx
    capacity := kdfCapacityAfter ctx.capacity n
    outputStarted := true }

/-- What an output call that delivers has done. -/
structure KdfDelivered (env : KdfEnv Hmac Cmac) (ctx : KdfCtx) (n : Nat) (bytes : Bytes)
    (ctx₁ : KdfCtx) : Prop where
  complete : kdfInputsComplete ctx n = .success
  capacity : ctx.capacity = psaKeyDerivationUnlimitedCapacity ∨ n ≤ ctx.capacity
  total : ctx.outputOffset + n ≤ sizeMax
  cached : ∃ cached, kdfFillCache env (kdfStarted ctx n) n = .ok cached ∧
    kdfDeliver env cached n = .ok bytes ∧
    ctx₁ = { cached with outputOffset := cached.outputOffset + n }

theorem wolfpsaKdfRequireOutput_ok {ctx reserved : KdfCtx} {n : Nat}
    (granted : wolfpsaKdfRequireOutput ctx n = (.success, reserved)) :
    (ctx.capacity = psaKeyDerivationUnlimitedCapacity ∨ n ≤ ctx.capacity) ∧
      reserved = { ctx with capacity := kdfCapacityAfter ctx.capacity n } := by
  unfold wolfpsaKdfRequireOutput at granted
  unfold kdfCapacityAfter
  split at granted
  · rename_i unlimited
    have same : ctx.capacity = psaKeyDerivationUnlimitedCapacity := by simpa using unlimited
    cases granted
    exact ⟨.inl same, by rw [if_pos same]⟩
  rename_i limited
  have bounded : ctx.capacity ≠ psaKeyDerivationUnlimitedCapacity := by simpa using limited
  split at granted
  · simp at granted
  · rename_i enough
    cases granted
    exact ⟨.inr (Nat.le_of_not_lt enough), by rw [if_neg bounded]⟩

theorem wolfpsaKdfRequireOutput_ne_invalidHandle (ctx : KdfCtx) (n : Nat) :
    (wolfpsaKdfRequireOutput ctx n).1 ≠ .invalidHandle := by
  unfold wolfpsaKdfRequireOutput
  split_ifs <;> simp

theorem kdfSnapshotL_eq (ctx : KdfCtx) :
    kdfSnapshotL ctx = { ctx with sp800_108LBytes := kdfLAfter ctx } := by
  unfold kdfLAfter kdfSnapshotL
  split <;> rfl

theorem wolfpsaKdfOutputBytes_ok {env : KdfEnv Hmac Cmac} {ctx ctx₁ : KdfCtx} {n : Nat}
    {bytes : Bytes} (ran : wolfpsaKdfOutputBytes env ctx ⟨false, n⟩ = (.ok bytes, ctx₁)) :
    KdfDelivered env ctx n bytes ctx₁ := by
  unfold wolfpsaKdfOutputBytes at ran
  rw [if_neg (by simp)] at ran
  dsimp only at ran
  split at ran
  · rename_i complete
    split at ran
    · rename_i reserved required
      obtain ⟨capacity, same⟩ := wolfpsaKdfRequireOutput_ok required
      rw [kdfSnapshotL_eq] at capacity same
      subst same
      split at ran
      · cases ran
      rename_i total
      split at ran
      · cases ran
      rename_i cached filled
      split at ran
      · cases ran
      rename_i bytes' delivered
      cases ran
      exact ⟨complete, capacity, Nat.le_of_not_gt total, cached, filled, delivered, rfl⟩
    · cases ran
  · cases ran

theorem kdfFillCache_ok {env : KdfEnv Hmac Cmac} {ctx cached : KdfCtx} {n : Nat}
    (filled : kdfFillCache env ctx n = .ok cached) :
    cached = ctx ∨
      (ctx.isRawKdf = false ∧ ctx.outputOffset = 0 ∧ n + ctx.capacity ≤ wolfpsaKdfMaxCacheBytes ∧
        ∃ cache, wolfpsaKdfComputeOutput env ctx (n + ctx.capacity) = .ok cache ∧
          cached = { ctx with outputCache := some cache }) := by
  unfold kdfFillCache at filled
  split at filled
  · rename_i first
    simp only [Bool.and_eq_true, Bool.not_eq_true', beq_iff_eq, decide_eq_true_eq] at first
    obtain ⟨⟨⟨⟨-, derives⟩, -⟩, start⟩, small⟩ := first
    split at filled
    · cases filled
    · obtain ⟨cache, computed, same⟩ := except_bind_ok filled
      cases same
      exact .inr ⟨derives, start, small, cache, computed, rfl⟩
  · cases filled
    exact .inl rfl

theorem KdfDelivered.ran {env : KdfEnv Hmac Cmac} {ctx ctx₁ : KdfCtx} {n : Nat} {bytes : Bytes}
    (delivered : KdfDelivered env ctx n bytes ctx₁) :
    wolfpsaKdfOutputBytes env ctx ⟨false, n⟩ = (.ok bytes, ctx₁) := by
  obtain ⟨complete, granted, total, cached, filled, deliver, rfl⟩ := delivered
  have required : wolfpsaKdfRequireOutput (kdfSnapshotL ctx) n = (.success,
      { kdfSnapshotL ctx with capacity := kdfCapacityAfter ctx.capacity n }) := by
    rw [kdfSnapshotL_eq]
    unfold wolfpsaKdfRequireOutput kdfCapacityAfter
    by_cases unlimited : ctx.capacity = psaKeyDerivationUnlimitedCapacity
    · simp [unlimited]
    · have enough := granted.resolve_left unlimited
      simp [unlimited, Nat.not_lt.mpr enough]
  have started : ({ kdfSnapshotL ctx with
      capacity := kdfCapacityAfter ctx.capacity n, outputStarted := true } : KdfCtx) =
      kdfStarted ctx n := by
    rw [kdfSnapshotL_eq]
    rfl
  unfold wolfpsaKdfOutputBytes
  rw [if_neg (by simp)]
  dsimp only
  rw [complete, required]
  dsimp only
  have fits : ¬(kdfSnapshotL ctx).outputOffset + n > sizeMax := by
    rw [kdfSnapshotL_eq]
    exact Nat.not_lt.mpr total
  rw [if_neg fits, started, filled]
  dsimp only
  rw [deliver]

/-- What an output call can leave behind, delivered or not. -/
inductive KdfOutputMove (env : KdfEnv Hmac Cmac) (ctx : KdfCtx) (n : Nat) :
    Except KdfFail Bytes → KdfCtx → Prop
  | kept {fail : KdfFail} : KdfOutputMove env ctx n (.error fail) ctx
  | exhausted {fail : KdfFail} : KdfOutputMove env ctx n (.error fail)
      { ctx with sp800_108LBytes := kdfLAfter ctx, capacity := 0 }
  | stopped {fail : KdfFail} : KdfOutputMove env ctx n (.error fail) (kdfStarted ctx n)
  | cached {fail : KdfFail} {cached : KdfCtx}
      (filled : kdfFillCache env (kdfStarted ctx n) n = .ok cached) :
      KdfOutputMove env ctx n (.error fail) cached
  | delivered {bytes : Bytes} {ctx₁ : KdfCtx} (done : KdfDelivered env ctx n bytes ctx₁) :
      KdfOutputMove env ctx n (.ok bytes) ctx₁

theorem wolfpsaKdfOutputBytes_move {env : KdfEnv Hmac Cmac} {ctx ctx₁ : KdfCtx} {n : Nat}
    {r : Except KdfFail Bytes} (ran : wolfpsaKdfOutputBytes env ctx ⟨false, n⟩ = (r, ctx₁)) :
    KdfOutputMove env ctx n r ctx₁ := by
  cases r with
  | ok bytes => exact .delivered (wolfpsaKdfOutputBytes_ok ran)
  | error fail =>
    unfold wolfpsaKdfOutputBytes at ran
    rw [if_neg (by simp)] at ran
    dsimp only at ran
    split at ran
    · rw [kdfSnapshotL_eq] at ran
      split at ran
      · rename_i reserved required
        obtain ⟨-, same⟩ := wolfpsaKdfRequireOutput_ok required
        subst same
        split at ran
        · cases ran
          exact .stopped
        split at ran
        · cases ran
          exact .stopped
        rename_i cached filled
        split at ran
        · cases ran
          exact .cached filled
        · cases ran
      · rename_i status reserved refused answer
        cases ran
        unfold wolfpsaKdfRequireOutput at answer
        split_ifs at answer
        all_goals cases answer
        · exact absurd rfl refused
        · exact .exhausted
        · exact absurd rfl refused
    · cases ran
      exact .kept

/-- A failed output call reports an error, and never the one of a rejected key. -/
theorem wolfpsaKdfOutputBytes_error {env : KdfEnv Hmac Cmac} {ctx ctx₁ : KdfCtx} {output : OutBuf}
    {status : Status}
    (ran : wolfpsaKdfOutputBytes env ctx output = (.error (.status status), ctx₁)) :
    status ≠ .success ∧ status ≠ .invalidHandle := by
  unfold wolfpsaKdfOutputBytes at ran
  split at ran
  · cases ran
    decide
  split at ran
  · dsimp only at ran
    split at ran
    · split at ran
      · cases ran
        decide
      split at ran
      · rename_i fail failed
        cases ran
        exact kdfFillCache_fails _ _ _ status failed
      split at ran
      · rename_i fail failed
        cases ran
        exact kdfDeliver_fails _ _ _ status failed
      · cases ran
    · rename_i reserved refused answer
      cases ran
      have foreign := wolfpsaKdfRequireOutput_ne_invalidHandle (kdfSnapshotL ctx) output.size
      rw [answer] at foreign
      exact ⟨refused, foreign⟩
  · rename_i incomplete
    cases ran
    exact ⟨incomplete, kdfInputsComplete_ne_invalidHandle _ _⟩

/-! ## Outputs -/

/-- The call compares the output with these bytes. -/
def KdfExpects (e : KdfEvent Hmac Cmac) (expected : Bytes) : Prop :=
  e.call = .verifyBytes (.data expected) ∨
    ∃ key attributes, e.call = .verifyKey key ∧ e.env.getKeyData key = .ok (attributes, expected)

/-- What a call makes of `n` output bytes. -/
inductive KdfProduces (e : KdfEvent Hmac Cmac) (n : Nat) (bytes : Bytes) :
    Status → KdfResult → Prop
  | outputBytes {output : OutBuf} (call : e.call = .outputBytes output) (size : output.size = n) :
      KdfProduces e n bytes .success ⟨some .success, bytes, psaKeyIdNull⟩
  | outputKey {attributes : KeyAttributes} (call : e.call = .outputKey (some attributes) false)
      (size : psaBitsToBytes attributes.bits.toNat = n) :
      KdfProduces e n bytes (e.env.importKey attributes (bytes.take n)).1
        ⟨some (e.env.importKey attributes (bytes.take n)).1, [],
          (e.env.importKey attributes (bytes.take n)).2⟩
  | matched {expected : Bytes} (call : KdfExpects e expected) (size : expected.length = n)
      (same : n = 0 ∨ bytes = expected) : KdfProduces e n bytes .success (.ofStatus .success)
  | mismatched {expected : Bytes} (call : KdfExpects e expected) (size : expected.length = n)
      (different : bytes ≠ expected) :
      KdfProduces e n bytes .invalidSignature (.ofStatus .invalidSignature)

/-- What a call on an active operation without an error can do. -/
inductive KdfMove (e : KdfEvent Hmac Cmac) (ctx : KdfCtx) : KdfResult → KdfCtx → Prop
  | refused {status : Status} (failed : status ≠ .success) :
      KdfMove e ctx (.ofStatus status) (wolfpsaKdfDone ctx status)
  | kept {status : Status} (call : (∃ alg, e.call = .setup alg) ∧ status = .badState ∨
        (∃ capacity, e.call = .setCapacity capacity) ∧ status = .invalidArgument) :
      KdfMove e ctx (.ofStatus status) ctx
  | lowered {capacity : Nat} (call : e.call = .setCapacity capacity)
      (within : capacity ≤ ctx.capacity) :
      KdfMove e ctx (.ofStatus .success) { ctx with capacity := capacity }
  | input {step : KdfStep} {data : Bytes} {granted : Bool} (gives : KdfGives e ctx step data)
      (admits : KdfAdmits e.env.wc ctx step data.length) :
      KdfMove e ctx (.ofStatus .success) (ctx.take step data granted)
  | cost {value : Nat} (call : e.call = .inputInteger .cost value)
      (early : ctx.outputStarted = false) (pbkdf2 : psaAlgIsPbkdf2 ctx.alg = true)
      (first : ctx.isSet .cost = false) (positive : value ≠ 0) :
      KdfMove e ctx (.ofStatus .success)
        { ctx with cost := value, stepsSet := .cost :: ctx.stepsSet }
  | produced {n : Nat} {bytes : Bytes} {ctx₁ : KdfCtx} {status : Status} {result : KdfResult}
      (ran : wolfpsaKdfOutputBytes e.env ctx ⟨false, n⟩ = (.ok bytes, ctx₁))
      (produces : KdfProduces e n bytes status result) :
      KdfMove e ctx result (wolfpsaKdfDone ctx₁ status)
  | failed {n : Nat} {status : Status} {ctx₁ : KdfCtx}
      (ran : wolfpsaKdfOutputBytes e.env ctx ⟨false, n⟩ = (.error (.status status), ctx₁)) :
      KdfMove e ctx (.ofStatus status) (wolfpsaKdfDone ctx₁ status)
  | hung {n : Nat} {ctx₁ : KdfCtx}
      (ran : wolfpsaKdfOutputBytes e.env ctx ⟨false, n⟩ = (.error .hangs, ctx₁)) :
      KdfMove e ctx ⟨none, [], psaKeyIdNull⟩ ctx₁

@[simp] theorem wolfpsaKdfDone_done (ctx : KdfCtx) (status : Status) :
    wolfpsaKdfDone (wolfpsaKdfDone ctx status) status = wolfpsaKdfDone ctx status := by
  unfold wolfpsaKdfDone
  split <;> rfl

@[simp] theorem wolfpsaKdfDone_success (ctx : KdfCtx) : wolfpsaKdfDone ctx .success = ctx := rfl

/-- The inner call of `psa_key_derivation_output_bytes` and what it leaves behind. -/
inductive KdfInner (env : KdfEnv Hmac Cmac) (ctx : KdfCtx) (n : Nat) :
    KdfResult → KdfCtx → Prop
  | ok {bytes : Bytes} {ctx₁ : KdfCtx}
      (ran : wolfpsaKdfOutputBytes env ctx ⟨false, n⟩ = (.ok bytes, ctx₁)) :
      KdfInner env ctx n ⟨some .success, bytes, psaKeyIdNull⟩ ctx₁
  | failed {status : Status} {ctx₁ : KdfCtx}
      (ran : wolfpsaKdfOutputBytes env ctx ⟨false, n⟩ = (.error (.status status), ctx₁)) :
      KdfInner env ctx n (.ofStatus status) (wolfpsaKdfDone ctx₁ status)
  | hung {ctx₁ : KdfCtx}
      (ran : wolfpsaKdfOutputBytes env ctx ⟨false, n⟩ = (.error .hangs, ctx₁)) :
      KdfInner env ctx n ⟨none, [], psaKeyIdNull⟩ ctx₁

theorem psaKeyDerivationOutputBytes_inner (env : KdfEnv Hmac Cmac) {ctx : KdfCtx}
    (valid : ctx.errorState = false) (n : Nat) :
    ∃ result ctx₁, psaKeyDerivationOutputBytes env (some ctx) ⟨false, n⟩ = (result, some ctx₁) ∧
      KdfInner env ctx n result ctx₁ := by
  unfold psaKeyDerivationOutputBytes
  dsimp only
  rw [if_neg (by simp [valid])]
  rcases ran : wolfpsaKdfOutputBytes env ctx ⟨false, n⟩ with ⟨(_ | status) | bytes, ctx₁⟩
  · exact ⟨_, _, rfl, .failed ran⟩
  · exact ⟨_, _, rfl, .hung ran⟩
  · exact ⟨_, _, rfl, .ok ran⟩

theorem wolfpsaKdfInputInteger_move (ctx : KdfCtx) (step : KdfStep) (value : Nat) :
    (∃ status, status ≠ .success ∧ wolfpsaKdfInputInteger ctx step value = (status, ctx)) ∨
      (step = .cost ∧ ctx.outputStarted = false ∧ psaAlgIsPbkdf2 ctx.alg = true ∧
        ctx.isSet .cost = false ∧ value ≠ 0 ∧ wolfpsaKdfInputInteger ctx step value =
          (.success, { ctx with cost := value, stepsSet := .cost :: ctx.stepsSet })) := by
  unfold wolfpsaKdfInputInteger
  split_ifs with started other alg again zero large
  iterate 6 exact .inl ⟨_, by decide, rfl⟩
  refine .inr ⟨?_, ?_, ?_, ?_, ?_, rfl⟩
  · simpa using other
  · simpa using started
  · simpa using alg
  · simpa using again
  · simpa using zero

theorem wolfpsaKdfSetCapacity_move (wc : WcKdf Hmac Cmac) (ctx : KdfCtx) (capacity : Nat) :
    (∃ status, status ≠ .success ∧ wolfpsaKdfSetCapacity wc ctx capacity = (status, ctx)) ∨
      (capacity ≤ ctx.capacity ∧ wolfpsaKdfSetCapacity wc ctx capacity =
        (.success, { ctx with capacity := capacity })) := by
  unfold wolfpsaKdfSetCapacity
  dsimp only
  split_ifs with unknown extract expand larger
  iterate 4 exact .inl ⟨_, by decide, rfl⟩
  exact .inr ⟨Nat.le_of_not_gt larger, rfl⟩

section

variable {e : KdfEvent Hmac Cmac} {ctx : KdfCtx}

theorem kdfGuarded_move {body : KdfCtx → Status × KdfCtx} (valid : ctx.errorState = false)
    (move : (∃ status, status ≠ .success ∧ body ctx = (status, ctx)) ∨
      ∃ ctx', body ctx = (.success, ctx') ∧ KdfMove e ctx (.ofStatus .success) ctx') :
    ∃ result ctx', kdfGuarded (some ctx) body = (result, some ctx') ∧ KdfMove e ctx result ctx' := by
  unfold kdfGuarded
  dsimp only
  rw [if_neg (by simp [valid])]
  rcases move with ⟨status, failed, same⟩ | ⟨ctx', same, moved⟩
  · rw [same]
    exact ⟨_, _, rfl, .refused failed⟩
  · rw [same]
    exact ⟨_, _, rfl, moved⟩

theorem psaKeyDerivationSetCapacity_move (valid : ctx.errorState = false) {capacity : Nat}
    (call : e.call = .setCapacity capacity) :
    ∃ result ctx', psaKeyDerivationSetCapacity e.env (some ctx) capacity = (result, some ctx') ∧
      KdfMove e ctx result ctx' := by
  unfold psaKeyDerivationSetCapacity
  dsimp only
  rw [if_neg (by simp [valid])]
  rcases wolfpsaKdfSetCapacity_move e.env.wc ctx capacity with ⟨status, failed, same⟩ | ⟨within, same⟩
  · rw [same]
    by_cases argument : status = .invalidArgument
    · rw [if_pos argument]
      exact ⟨_, _, rfl, .kept (.inr ⟨⟨capacity, call⟩, argument⟩)⟩
    · rw [if_neg argument]
      exact ⟨_, _, rfl, .refused failed⟩
  · rw [same]
    exact ⟨_, _, rfl, .lowered call within⟩

theorem psaKeyDerivationOutputBytes_move (valid : ctx.errorState = false) {output : OutBuf}
    (call : e.call = .outputBytes output) :
    ∃ result ctx', psaKeyDerivationOutputBytes e.env (some ctx) output = (result, some ctx') ∧
      KdfMove e ctx result ctx' := by
  obtain ⟨isNull, size⟩ := output
  cases isNull with
  | true =>
    unfold psaKeyDerivationOutputBytes
    dsimp only
    rw [if_neg (by simp [valid])]
    exact ⟨_, _, rfl, .refused (by decide)⟩
  | false =>
    obtain ⟨result, ctx₁, ran, inner⟩ := psaKeyDerivationOutputBytes_inner e.env valid size
    refine ⟨result, ctx₁, ran, ?_⟩
    cases inner with
    | ok inner => exact .produced inner (.outputBytes call rfl)
    | failed inner => exact .failed inner
    | hung inner => exact .hung inner

theorem psaKeyDerivationOutputKey_move (valid : ctx.errorState = false)
    {attributes : Option KeyAttributes} {keyNull : Bool}
    (call : e.call = .outputKey attributes keyNull) :
    ∃ result ctx', psaKeyDerivationOutputKey e.env (some ctx) attributes keyNull =
        (result, some ctx') ∧ KdfMove e ctx result ctx' := by
  unfold psaKeyDerivationOutputKey
  dsimp only
  rw [if_neg (by simp [valid])]
  cases attributes with
  | none => exact ⟨_, _, rfl, .refused (by decide)⟩
  | some attrs =>
    dsimp only
    cases keyNull with
    | true => exact ⟨_, _, rfl, .refused (by decide)⟩
    | false =>
      rw [if_neg (by decide)]
      by_cases none : psaBitsToBytes attrs.bits.toNat == 0
      · rw [if_pos none]
        exact ⟨_, _, rfl, .refused (by decide)⟩
      rw [if_neg none]
      by_cases forbidden : (!ctx.canOutputKey) = true
      · rw [if_pos forbidden]
        exact ⟨_, _, rfl, .refused (by decide)⟩
      rw [if_neg forbidden]
      by_cases structured : (!psaKeyTypeIsUnstructured attrs.type) = true
      · rw [if_pos structured]
        exact ⟨_, _, rfl, .refused (by decide)⟩
      rw [if_neg structured]
      by_cases memory : (!e.env.alloc .keyBuffer) = true
      · rw [if_pos memory]
        exact ⟨_, _, rfl, .refused (by decide)⟩
      rw [if_neg memory]
      obtain ⟨result, ctx₁, ran, inner⟩ := psaKeyDerivationOutputBytes_inner e.env valid
        (psaBitsToBytes attrs.bits.toNat)
      rw [ran]
      cases inner with
      | ok inner =>
        rw [if_pos rfl]
        exact ⟨_, _, rfl, .produced inner (.outputKey call rfl)⟩
      | @failed status ctx₁ inner =>
        have error := (wolfpsaKdfOutputBytes_error inner).1
        rw [if_neg (by simpa [KdfResult.ofStatus] using error)]
        refine ⟨_, _, rfl, ?_⟩
        dsimp only
        rw [wolfpsaKdfDone_done]
        exact .failed inner
      | hung inner =>
        rw [if_neg (by simp)]
        exact ⟨_, _, rfl, .hung inner⟩

theorem psaKeyDerivationVerifyBytes_move (valid : ctx.errorState = false) (expected : InBuf)
    (call : ∀ bytes, expected = .data bytes → KdfExpects e bytes) :
    ∃ result ctx', psaKeyDerivationVerifyBytes e.env (some ctx) expected = (result, some ctx') ∧
      kdfDoneAfter (result, some ctx') = (result, some ctx') ∧ KdfMove e ctx result ctx' := by
  unfold psaKeyDerivationVerifyBytes
  dsimp only
  rw [if_neg (by simp [valid])]
  unfold wolfpsaKdfVerifyBytes
  cases expected with
  | null n => exact ⟨_, _, rfl, by simp [kdfDoneAfter, KdfResult.ofStatus], .refused (by decide)⟩
  | data bytes =>
    have expects := call bytes rfl
    dsimp only
    by_cases long : bytes.length > intMax
    · rw [if_pos long]
      exact ⟨_, _, rfl, by simp [kdfDoneAfter, KdfResult.ofStatus], .refused (by decide)⟩
    rw [if_neg long]
    by_cases empty : (bytes.length == 0) = true
    · rw [if_pos empty]
      have zero : bytes.length = 0 := by simpa using empty
      obtain ⟨result, ctx₁, ran, inner⟩ := psaKeyDerivationOutputBytes_inner e.env valid 0
      rw [ran]
      cases inner with
      | ok inner => exact ⟨_, _, rfl, rfl, .produced inner (.matched expects zero (.inl rfl))⟩
      | failed inner =>
        refine ⟨_, _, rfl, by simp [kdfDoneAfter, KdfResult.ofStatus], ?_⟩
        dsimp only
        rw [wolfpsaKdfDone_done]
        exact .failed inner
      | hung inner => exact ⟨_, _, rfl, rfl, .hung inner⟩
    rw [if_neg empty]
    by_cases memory : (!e.env.alloc .verifyBuffer) = true
    · rw [if_pos memory]
      exact ⟨_, _, rfl, by simp [kdfDoneAfter, KdfResult.ofStatus], .refused (by decide)⟩
    rw [if_neg memory]
    obtain ⟨result, ctx₁, ran, inner⟩ := psaKeyDerivationOutputBytes_inner e.env valid bytes.length
    rw [ran]
    cases inner with
    | @ok derived ctx₁ inner =>
      rw [if_pos rfl]
      dsimp only
      by_cases same : derived = bytes
      · rw [if_pos same]
        exact ⟨_, _, rfl, rfl, .produced inner (.matched expects rfl (.inr same))⟩
      · rw [if_neg same]
        exact ⟨_, _, rfl, rfl, .produced inner (.mismatched expects rfl same)⟩
    | @failed status ctx₁ inner =>
      have error := (wolfpsaKdfOutputBytes_error inner).1
      rw [if_neg (by simpa [KdfResult.ofStatus] using error)]
      refine ⟨_, _, rfl, by simp [kdfDoneAfter, KdfResult.ofStatus], ?_⟩
      dsimp only
      rw [wolfpsaKdfDone_done]
      exact .failed inner
    | hung inner =>
      rw [if_neg (by simp)]
      exact ⟨_, _, rfl, rfl, .hung inner⟩

theorem psaKeyDerivationVerifyKey_move (valid : ctx.errorState = false) {key : KeyId}
    (call : e.call = .verifyKey key) :
    ∃ result ctx', psaKeyDerivationVerifyKey e.env (some ctx) key = (result, some ctx') ∧
      KdfMove e ctx result ctx' := by
  unfold psaKeyDerivationVerifyKey
  dsimp only
  rw [if_neg (by simp [valid])]
  split
  · rename_i status missing
    exact ⟨_, _, rfl, .refused status.property⟩
  split
  · split
    · rename_i status missing
      exact ⟨_, _, rfl, .refused status.property⟩
    · rename_i attributes data found
      obtain ⟨result, ctx', ran, done, moved⟩ := psaKeyDerivationVerifyBytes_move (e := e) valid
        (.data data) fun bytes same => by
          cases same
          exact .inr ⟨key, attributes, call, found⟩
      rw [ran, done]
      exact ⟨_, _, rfl, moved⟩
  · rename_i refused
    exact ⟨_, _, rfl, .refused refused⟩

/-- Every call but an abort, on an active operation without an error, is one of the moves. -/
theorem kdfStep_move (valid : ctx.errorState = false) (running : e.call ≠ .abort) :
    ∃ result ctx', kdfStep (some ctx) e = (result, some ctx') ∧ KdfMove e ctx result ctx' := by
  unfold kdfStep
  cases call : e.call with
  | setup alg => exact ⟨_, _, rfl, .kept (.inl ⟨⟨alg, call⟩, rfl⟩)⟩
  | setCapacity capacity => exact psaKeyDerivationSetCapacity_move valid call
  | inputBytes step data =>
    refine kdfGuarded_move valid ?_
    refine (wolfpsaKdfInputBytes_move e.env ctx step data).imp_right ?_
    rintro ⟨admits, taken⟩
    exact ⟨_, taken, .input (.bytes call rfl) admits⟩
  | inputKey step key =>
    refine kdfGuarded_move valid ?_
    refine (wolfpsaKdfInputKey_move e.env ctx step key).imp_right ?_
    rintro ⟨attributes, keyData, granted, found, admits, taken⟩
    exact ⟨_, taken, .input (.key call found) admits⟩
  | inputInteger step value =>
    refine kdfGuarded_move valid ?_
    refine (wolfpsaKdfInputInteger_move ctx step value).imp_right ?_
    rintro ⟨rfl, early, pbkdf2, first, positive, taken⟩
    exact ⟨_, taken, .cost call early pbkdf2 first positive⟩
  | keyAgreement step privateKey peerKey =>
    refine kdfGuarded_move valid ?_
    refine (wolfpsaKdfKeyAgreement_move e.env ctx step privateKey peerKey).imp_right ?_
    rintro ⟨secret, granted, agreed, admits, taken⟩
    exact ⟨_, taken, .input (.agreement call agreed) admits⟩
  | outputBytes output => exact psaKeyDerivationOutputBytes_move valid call
  | outputKey attributes keyNull => exact psaKeyDerivationOutputKey_move valid call
  | verifyBytes expected =>
    obtain ⟨result, ctx', ran, -, moved⟩ := psaKeyDerivationVerifyBytes_move (e := e) valid
      expected fun bytes same => .inl (by rw [call, same])
    exact ⟨result, ctx', ran, moved⟩
  | verifyKey key => exact psaKeyDerivationVerifyKey_move valid call
  | abort => exact absurd call running

/-- In the error state every call but an abort is refused and changes nothing. -/
theorem kdfStep_errored (poisoned : ctx.errorState = true) (running : e.call ≠ .abort) :
    kdfStep (some ctx) e = (.ofStatus .badState, some ctx) := by
  unfold kdfStep
  cases call : e.call with
  | abort => exact absurd call running
  | setup alg => rfl
  | _ =>
    simp [psaKeyDerivationSetCapacity, psaKeyDerivationInputBytes, psaKeyDerivationInputKey,
      psaKeyDerivationInputInteger, psaKeyDerivationKeyAgreement, psaKeyDerivationOutputBytes,
      psaKeyDerivationOutputKey, psaKeyDerivationVerifyBytes, psaKeyDerivationVerifyKey, kdfGuarded,
      poisoned]

end

/-! ## Successful calls -/

/-- The number of output bytes a call asks for. -/
def kdfAsks (e : KdfEvent Hmac Cmac) : Option Nat :=
  match e.call with
  | .outputBytes output => some output.size
  | .outputKey (some attributes) _ => some (psaBitsToBytes attributes.bits.toNat)
  | .verifyBytes expected => some expected.length
  | .verifyKey key =>
    match e.env.getKeyData key with
    | .ok (_, data) => some data.length
    | .error _ => none
  | _ => none

theorem KdfProduces.asks {e : KdfEvent Hmac Cmac} {n : Nat} {bytes : Bytes} {status : Status}
    {result : KdfResult} (produces : KdfProduces e n bytes status result) : kdfAsks e = some n := by
  have expects {expected : Bytes} (call : KdfExpects e expected) :
      kdfAsks e = some expected.length := by
    rcases call with call | ⟨key, attributes, call, found⟩
    · simp [kdfAsks, call, InBuf.length]
    · simp [kdfAsks, call, found]
  cases produces with
  | outputBytes call size => simp [kdfAsks, call, size]
  | outputKey call size => simp [kdfAsks, call, size]
  | matched call size => rw [expects call, size]
  | mismatched call size => rw [expects call, size]

theorem KdfProduces.status {e : KdfEvent Hmac Cmac} {n : Nat} {bytes : Bytes} {status : Status}
    {result : KdfResult} (produces : KdfProduces e n bytes status result) :
    result.status = some status := by
  cases produces <;> rfl

/-- What a call that succeeds without producing bytes does to the context. -/
inductive KdfQuiet (e : KdfEvent Hmac Cmac) (ctx : KdfCtx) : KdfCtx → Prop
  | lowered {capacity : Nat} (call : e.call = .setCapacity capacity)
      (within : capacity ≤ ctx.capacity) : KdfQuiet e ctx { ctx with capacity := capacity }
  | input {step : KdfStep} {data : Bytes} {granted : Bool} (gives : KdfGives e ctx step data)
      (admits : KdfAdmits e.env.wc ctx step data.length) :
      KdfQuiet e ctx (ctx.take step data granted)
  | cost {value : Nat} (call : e.call = .inputInteger .cost value)
      (early : ctx.outputStarted = false) (pbkdf2 : psaAlgIsPbkdf2 ctx.alg = true)
      (first : ctx.isSet .cost = false) (positive : value ≠ 0) :
      KdfQuiet e ctx { ctx with cost := value, stepsSet := .cost :: ctx.stepsSet }

theorem KdfQuiet.asks {e : KdfEvent Hmac Cmac} {ctx ctx' : KdfCtx} (quiet : KdfQuiet e ctx ctx') :
    kdfAsks e = none := by
  cases quiet with
  | lowered call => simp [kdfAsks, call]
  | input gives =>
    cases gives with
    | bytes call => simp [kdfAsks, call]
    | key call => simp [kdfAsks, call]
    | agreement call => simp [kdfAsks, call]
  | cost call => simp [kdfAsks, call]

/-- A call that succeeds on an active operation, an abort apart, was made without an error and
either changes the context quietly or produces the bytes it asks for. -/
theorem kdfStep_success {e : KdfEvent Hmac Cmac} {ctx : KdfCtx} (running : e.call ≠ .abort)
    (success : (kdfStep (some ctx) e).1.status = some .success) :
    ctx.errorState = false ∧ ∃ ctx', (kdfStep (some ctx) e).2 = some ctx' ∧
      (KdfQuiet e ctx ctx' ∨ ∃ n bytes, wolfpsaKdfOutputBytes e.env ctx ⟨false, n⟩ = (.ok bytes, ctx') ∧
        KdfProduces e n bytes .success (kdfStep (some ctx) e).1) := by
  cases poisoned : ctx.errorState with
  | true =>
    rw [kdfStep_errored poisoned running] at success
    cases success
  | false =>
    obtain ⟨result, ctx', ran, moved⟩ := kdfStep_move poisoned running
    rw [ran] at success ⊢
    refine ⟨rfl, ctx', rfl, ?_⟩
    cases moved with
    | refused failed => exact absurd (Option.some.inj success) failed
    | kept call =>
      have same := Option.some.inj success
      rcases call with ⟨-, bad⟩ | ⟨-, bad⟩
      · rw [bad] at same
        cases same
      · rw [bad] at same
        cases same
    | lowered call within => exact .inl (.lowered call within)
    | input gives admits => exact .inl (.input gives admits)
    | cost call early pbkdf2 first positive =>
      exact .inl (.cost call early pbkdf2 first positive)
    | failed failed => exact absurd (Option.some.inj success) (wolfpsaKdfOutputBytes_error failed).1
    | hung => cases success
    | @produced n bytes ctx₁ status result derived produces =>
      obtain rfl : status = .success := Option.some.inj (produces.status.symm.trans success)
      exact .inr ⟨_, _, derived, produces⟩

/-- The bytes a run of calls produces. -/
def kdfTotal (es : List (KdfEvent Hmac Cmac)) : Nat := (es.map fun e => (kdfAsks e).getD 0).sum

theorem kdfTotal_append (first second : List (KdfEvent Hmac Cmac)) :
    kdfTotal (first ++ second) = kdfTotal first + kdfTotal second := by
  simp [kdfTotal]

theorem kdfTotal_single (e : KdfEvent Hmac Cmac) : kdfTotal [e] = (kdfAsks e).getD 0 := by
  simp [kdfTotal]

/-- The calls all succeed, and none of them is an abort. -/
def KdfSucceed : KdfOperation → List (KdfEvent Hmac Cmac) → Prop
  | _, [] => True
  | operation, e :: rest =>
    e.call ≠ .abort ∧ (kdfStep operation e).1.status = some .success ∧
      KdfSucceed (kdfStep operation e).2 rest

theorem kdfSucceed_append {operation : KdfOperation} {first second : List (KdfEvent Hmac Cmac)} :
    KdfSucceed operation (first ++ second) ↔
      KdfSucceed operation first ∧ KdfSucceed (run kdfStep operation first).2 second := by
  induction first generalizing operation with
  | nil => simp [KdfSucceed, run]
  | cons e rest ih =>
    rw [List.cons_append, run_cons]
    simp only [KdfSucceed, ih, and_assoc]

/-- An invariant that every successful call on an active operation keeps. -/
theorem KdfSucceed.invariant {C : KdfEvent Hmac Cmac → Prop}
    (inv : List (KdfEvent Hmac Cmac) → KdfCtx → Prop)
    (next : ∀ before e ctx ctx', C e → e.call ≠ .abort → inv before ctx →
      (kdfStep (some ctx) e).1.status = some .success → (kdfStep (some ctx) e).2 = some ctx' →
      inv (before ++ [e]) ctx')
    {before es : List (KdfEvent Hmac Cmac)} {ctx : KdfCtx} (start : inv before ctx)
    (all : ∀ e ∈ es, C e) (succeed : KdfSucceed (some ctx) es) :
    ∃ ctx', (run kdfStep (some ctx) es).2 = some ctx' ∧ inv (before ++ es) ctx' := by
  induction es generalizing before ctx with
  | nil => exact ⟨ctx, rfl, by simpa using start⟩
  | cons e rest ih =>
    obtain ⟨running, success, later⟩ := succeed
    obtain ⟨-, ctx', after, -⟩ := kdfStep_success running success
    rw [after] at later
    obtain ⟨last, reached, kept⟩ := ih
      (next before e ctx ctx' (all e List.mem_cons_self) running start success after)
      (fun e' member => all e' (List.mem_cons_of_mem e member)) later
    refine ⟨last, by rw [run_cons, after, reached], ?_⟩
    simpa using kept

/-! ## The context of a setup -/

/-- What `psa_key_derivation_setup` starts with. -/
structure KdfFresh (env : KdfEnv Hmac Cmac) (ctx : KdfCtx) : Prop where
  capacity : kdfInitialCapacity env.wc ctx.alg = some ctx.capacity
  outputOffset : ctx.outputOffset = 0
  stepsSet : ctx.stepsSet = []
  inputs : ctx.inputs = fun _ => []
  outputStarted : ctx.outputStarted = false
  errorState : ctx.errorState = false
  outputCache : ctx.outputCache = none
  raw : ctx.isRawKdf = true → ctx.alg = psaAlgCategoryKeyDerivation

theorem kdfSetupCtx_ok {env : KdfEnv Hmac Cmac} {alg : Algorithm} {ctx : KdfCtx}
    (created : kdfSetupCtx env alg = .ok ctx) : KdfFresh env ctx := by
  unfold kdfSetupCtx at created
  split at created
  · cases created
  split at created
  · cases created
  extract_lets kdfAlg hashed at created
  split at created
  · cases created
  split at created
  · cases created
  split at created
  · cases created
  split at created
  · cases created
  · rename_i capacity initial
    cases created
    refine ⟨initial, rfl, rfl, rfl, rfl, rfl, rfl, fun raw => ?_⟩
    simp only [Bool.and_eq_true, beq_iff_eq] at raw
    exact raw.2

theorem kdfFresh_of_setup {env : KdfEnv Hmac Cmac} {alg : Algorithm} {start : KdfCtx}
    (started : kdfStep none ⟨env, .setup alg⟩ = (.ofStatus .success, some start)) :
    KdfFresh env start := by
  unfold kdfStep psaKeyDerivationSetup at started
  dsimp only at started
  split at started
  · cases started
  · rename_i ctx created
    cases started
    exact kdfSetupCtx_ok created

end WolfPSA.Source
