import WolfPSA.Guarantees.KdfStream
import WolfPSA.Guarantees.KdfUsage
import WolfPSA.Source.KeyDerivationReads

/-!
# The inputs of a derivation are used exactly

Over every run of calls: what a successful output call computes from is what the accepted inputs
gave, step by step. `InputsTracked` ties the buffers and the `steps_set` bits of the context to the
accepted calls since the setup.
-/

namespace WolfPSA.Guarantees
open Lib Source

variable {Hmac Cmac : Type}

/-! ## What was given -/

/-- The step and the data a call gives: the caller's bytes, the key data the look-up finds, or the
shared secret of the agreement. -/
def kdfInputOf (agreement : Algorithm) (e : KdfEvent Hmac Cmac) : Option (KdfStep × Bytes) :=
  match e.call with
  | .inputBytes step data => some (step, data.bytes)
  | .inputKey step key =>
    match e.env.getKeyData key with
    | .ok (_, keyData) => some (step, keyData)
    | .error _ => none
  | .keyAgreement step privateKey peerKey =>
    match e.env.getKeyAttributes privateKey with
    | .ok attributes =>
      match e.env.keyAgreementSecret agreement privateKey peerKey
          (psaRawKeyAgreementOutputSize attributes.type attributes.bits) with
      | .ok secret => some (step, secret)
      | .error _ => none
    | .error _ => none
  | _ => none

/-- The cost a call gives. -/
def kdfCostOf (e : KdfEvent Hmac Cmac) : Option Nat :=
  match e.call with
  | .inputInteger .cost value => some value
  | _ => none

/-- The data given for a step, in order. -/
def givenFor (agreement : Algorithm) (step : KdfStep) (calls : List (KdfEvent Hmac Cmac)) :
    List Bytes :=
  calls.filterMap fun e =>
    (kdfInputOf agreement e).bind fun input => if input.1 = step then some input.2 else none

def costsGiven (calls : List (KdfEvent Hmac Cmac)) : List Nat := calls.filterMap kdfCostOf

/-- The algorithm of the operation as its key agreements use it. -/
def kdfAgreement (ctx : KdfCtx) : Algorithm := psaAlgKeyAgreement ctx.kaAlg ctx.alg

/-- The step was provided. -/
def Given (ctx : KdfCtx) (calls : List (KdfEvent Hmac Cmac)) (step : KdfStep) : Prop :=
  if step = .cost then costsGiven calls ≠ [] else givenFor (kdfAgreement ctx) step calls ≠ []

/-- The calls since the last successful setup with their answers, most recent first. -/
def epoch : KdfHistory Hmac Cmac → KdfHistory Hmac Cmac
  | [] => []
  | (e, r) :: older =>
    if kdfSucceeded r && isKdfSetup e.call then [] else (e, r) :: epoch older

/-- The call is for output, and found the key it compares with. -/
def OutputCall (e : KdfEvent Hmac Cmac) : Prop :=
  (kdfAsks e).isSome ∧
    ∀ key, e.call = .verifyKey key → ∃ attributes, e.env.getKeyAttributes key = .ok attributes

/-- An accepted input comes before all output calls. -/
def InputFirst (agreement : Algorithm) (e : KdfEvent Hmac Cmac) (r : KdfResult)
    (older : KdfHistory Hmac Cmac) : Prop :=
  kdfSucceeded r = true → (kdfInputOf agreement e).isSome ∨ (kdfCostOf e).isSome →
    ∀ c ∈ older, ¬OutputCall c.1

/-! ## What the algorithm takes -/

/-- The steps an algorithm cannot do without. -/
def kdfMandatory (ctx : KdfCtx) : List KdfStep :=
  if ctx.isRawKdf then [.secret]
  else if psaAlgIsAnyHkdf ctx.alg then
    if psaAlgIsHkdfExtract ctx.alg then [.salt, .secret] else [.secret, .info]
  else if psaAlgIsTls12Prf ctx.alg then [.secret, .label, .seed]
  else if psaAlgIsTls12PskToMs ctx.alg then [.secret, .seed]
  else if psaAlgIsPbkdf2 ctx.alg then [.password, .salt, .cost]
  else if psaAlgIsSp800_108CounterHmac ctx.alg || ctx.alg == psaAlgSp800_108CounterCmac then
    [.secret]
  else []

theorem validateHkdfStep_takes {wc : WcKdf Hmac Cmac} {ctx : KdfCtx} {step : KdfStep} {n : Nat}
    (accepted : validateHkdfStep wc ctx step n = .success) :
    step ∈ (if psaAlgIsHkdfExtract ctx.alg then [.salt, .secret]
      else if psaAlgIsHkdfExpand ctx.alg then [.secret, .info] else [.salt, .secret, .info] :
      List KdfStep) := by
  unfold validateHkdfStep at accepted
  cases extract : psaAlgIsHkdfExtract ctx.alg <;> cases expand : psaAlgIsHkdfExpand ctx.alg <;>
    cases step <;> simp_all

theorem validateStep_takes {wc : WcKdf Hmac Cmac} {ctx : KdfCtx} {step : KdfStep} {n : Nat}
    (accepted : wolfpsaKdfValidateStep wc ctx step n = .success) : step ∈ kdfTakes ctx := by
  unfold wolfpsaKdfValidateStep at accepted
  unfold kdfTakes
  split at accepted
  · cases accepted
  split at accepted
  · cases accepted
  split at accepted
  · cases accepted
  split at accepted
  · rename_i raw
    rw [if_pos raw]
    split at accepted
    · cases accepted
    · simp_all
  rename_i raw
  rw [if_neg raw]
  split at accepted
  · rename_i hkdf
    rw [if_pos hkdf]
    exact validateHkdfStep_takes accepted
  rename_i hkdf
  rw [if_neg hkdf]
  split at accepted
  · rename_i prf
    rw [if_pos prf]
    cases step <;> simp_all
  rename_i prf
  rw [if_neg prf]
  split at accepted
  · rename_i psk
    rw [if_pos psk]
    unfold validatePskToMsStep at accepted
    cases step <;> simp_all
  rename_i psk
  rw [if_neg psk]
  split at accepted
  · rename_i pbkdf2
    rw [if_pos pbkdf2]
    cases step <;> simp_all
  rename_i pbkdf2
  rw [if_neg pbkdf2]
  split at accepted
  · rename_i counter
    rw [if_pos counter]
    cases step <;> simp_all
  · cases accepted

theorem kdfInputsComplete_mandatory {ctx : KdfCtx} {n : Nat}
    (complete : kdfInputsComplete ctx n = .success) :
    ∀ step ∈ kdfMandatory ctx, ctx.isSet step = true := by
  unfold kdfInputsComplete at complete
  unfold kdfMandatory
  split_ifs at complete ⊢ <;> simp_all

/-! ## Output calls close the operation to inputs -/

/-- The operation takes no more inputs. -/
def Closed (operation : KdfOperation) : Prop :=
  ∀ ctx, operation = some ctx → ctx.outputStarted = true ∨ ctx.errorState = true

theorem wolfpsaKdfDone_started (ctx : KdfCtx) (status : Status) :
    (wolfpsaKdfDone ctx status).outputStarted = ctx.outputStarted := by
  unfold wolfpsaKdfDone
  split <;> rfl

theorem wolfpsaKdfDone_closed {ctx : KdfCtx} (status : Status)
    (closed : ctx.outputStarted = true ∨ ctx.errorState = true) :
    (wolfpsaKdfDone ctx status).outputStarted = true ∨
      (wolfpsaKdfDone ctx status).errorState = true := by
  unfold wolfpsaKdfDone
  split
  · exact .inr rfl
  · exact closed

/-- A status that is an error of the operation itself. -/
abbrev Poisons (status : Status) : Prop :=
  status ≠ .success ∧ status ≠ .invalidSignature ∧ status ≠ .invalidHandle

theorem closed_of_poisons (ctx : KdfCtx) {status : Status} (poisons : Poisons status) :
    Closed (some (wolfpsaKdfDone ctx status)) := by
  intro ctx' same
  cases same
  unfold wolfpsaKdfDone
  rw [if_pos poisons]
  exact .inr rfl

theorem kdfDoneAfter_closed {inner : KdfResult × KdfOperation} (closed : Closed inner.2) :
    Closed (kdfDoneAfter inner).2 := by
  unfold kdfDoneAfter
  split
  · exact closed
  · intro ctx same
    obtain ⟨mid, present, rfl⟩ := Option.map_eq_some_iff.mp same
    exact wolfpsaKdfDone_closed _ (closed mid present)

/-- `wolfpsa_kdf_output_bytes` marks the output as started, or fails with an error. -/
theorem wolfpsaKdfOutputBytes_marks {env : KdfEnv Hmac Cmac} {ctx ctx₁ : KdfCtx} {output : OutBuf}
    {r : Except KdfFail Bytes} (ran : wolfpsaKdfOutputBytes env ctx output = (r, ctx₁)) :
    ctx₁.outputStarted = true ∨ ∃ status, r = .error (.status status) ∧ Poisons status := by
  unfold wolfpsaKdfOutputBytes at ran
  split at ran
  · cases ran
    exact .inr ⟨_, rfl, by decide⟩
  split at ran
  · dsimp only at ran
    split at ran
    · split at ran
      · cases ran
        exact .inl rfl
      split at ran
      · cases ran
        exact .inl rfl
      rename_i cached filled
      have started : cached.outputStarted = true := by
        rcases kdfFillCache_ok filled with same | ⟨-, -, -, cache, -, same⟩
        · rw [same]
        · rw [same]
      split at ran
      · cases ran
        exact .inl started
      · cases ran
        exact .inl started
    · rename_i status reserved refused answer
      cases ran
      refine .inr ⟨_, rfl, ?_⟩
      unfold wolfpsaKdfRequireOutput at answer
      split_ifs at answer
      all_goals cases answer
      · exact absurd rfl refused
      · decide
      · exact absurd rfl refused
  · rename_i incomplete
    cases ran
    refine .inr ⟨_, rfl, ?_⟩
    unfold kdfInputsComplete at incomplete ⊢
    unfold Poisons
    split_ifs at incomplete ⊢ <;> simp_all

theorem psaKeyDerivationOutputBytes_closed (env : KdfEnv Hmac Cmac) (operation : KdfOperation)
    (output : OutBuf) : Closed (psaKeyDerivationOutputBytes env operation output).2 := by
  unfold psaKeyDerivationOutputBytes
  split
  · intro ctx same
    cases same
  split
  · rename_i ctx poisoned
    intro ctx' same
    cases same
    exact .inr poisoned
  split
  all_goals
    rename_i ran
    have marks := wolfpsaKdfOutputBytes_marks ran
  · intro ctx' same
    cases same
    rcases marks with started | ⟨status, failed, -⟩
    · exact .inl started
    · cases failed
  · rcases marks with started | ⟨status, failed, poisons⟩
    · intro ctx' same
      cases same
      exact wolfpsaKdfDone_closed _ (.inl started)
    · cases failed
      exact closed_of_poisons _ poisons
  · intro ctx' same
    cases same
    rcases marks with started | ⟨status, failed, -⟩
    · exact .inl started
    · cases failed

theorem psaKeyDerivationOutputKey_closed (env : KdfEnv Hmac Cmac) (operation : KdfOperation)
    (attributes : KeyAttributes) (keyNull : Bool) :
    Closed (psaKeyDerivationOutputKey env operation (some attributes) keyNull).2 := by
  unfold psaKeyDerivationOutputKey
  split
  · intro ctx same
    cases same
  split
  · rename_i ctx poisoned
    intro ctx' same
    cases same
    exact .inr poisoned
  dsimp only
  split_ifs
  iterate 5 exact closed_of_poisons _ (by decide)
  · exact kdfDoneAfter_closed (psaKeyDerivationOutputBytes_closed env _ _)
  · exact kdfDoneAfter_closed (psaKeyDerivationOutputBytes_closed env _ _)

theorem psaKeyDerivationVerifyBytes_closed (env : KdfEnv Hmac Cmac) (operation : KdfOperation)
    (expected : InBuf) : Closed (psaKeyDerivationVerifyBytes env operation expected).2 := by
  unfold psaKeyDerivationVerifyBytes
  split
  · intro ctx same
    cases same
  split
  · rename_i ctx poisoned
    intro ctx' same
    cases same
    exact .inr poisoned
  unfold wolfpsaKdfVerifyBytes
  cases expected with
  | null n => exact closed_of_poisons _ (by decide)
  | data bytes =>
    dsimp only
    split_ifs
    · exact closed_of_poisons _ (by decide)
    · exact kdfDoneAfter_closed (psaKeyDerivationOutputBytes_closed env _ _)
    · exact closed_of_poisons _ (by decide)
    all_goals exact kdfDoneAfter_closed (psaKeyDerivationOutputBytes_closed env _ _)

theorem psaKeyDerivationVerifyKey_closed {env : KdfEnv Hmac Cmac} {key : KeyId}
    {attributes : KeyAttributes} (found : env.getKeyAttributes key = .ok attributes)
    {data : KeyAttributes × Bytes} (present : env.getKeyData key = .ok data)
    (operation : KdfOperation) : Closed (psaKeyDerivationVerifyKey env operation key).2 := by
  unfold psaKeyDerivationVerifyKey
  split
  · intro ctx same
    cases same
  split
  · rename_i ctx poisoned
    intro ctx' same
    cases same
    exact .inr poisoned
  rw [found]
  dsimp only
  split
  · rw [present]
    exact kdfDoneAfter_closed (psaKeyDerivationVerifyBytes_closed env _ _)
  · rename_i refused
    refine closed_of_poisons _ ?_
    unfold kdfVerifyKeyCheck at refused ⊢
    unfold Poisons
    split_ifs at refused ⊢ <;> simp_all

/-- After an output call, answered in any way, no input is taken. -/
theorem kdfStep_closed {e : KdfEvent Hmac Cmac} (output : OutputCall e) (operation : KdfOperation) :
    Closed (kdfStep operation e).2 := by
  obtain ⟨asks, found⟩ := output
  unfold kdfStep
  unfold kdfAsks at asks
  split at asks
  · rename_i call
    rw [call]
    exact psaKeyDerivationOutputBytes_closed _ _ _
  · rename_i call
    rw [call]
    exact psaKeyDerivationOutputKey_closed _ _ _ _
  · rename_i call
    rw [call]
    exact psaKeyDerivationVerifyBytes_closed _ _ _
  · rename_i key call
    obtain ⟨attributes, known⟩ := found key call
    rw [call]
    split at asks
    · rename_i present
      exact psaKeyDerivationVerifyKey_closed known present operation
    · cases asks
  · cases asks

/-! ## What a call leaves of the inputs -/

/-- The contexts were given the same inputs for the same algorithm. -/
structure SameInputs (ctx ctx' : KdfCtx) : Prop where
  alg : ctx'.alg = ctx.alg
  kaAlg : ctx'.kaAlg = ctx.kaAlg
  isRawKdf : ctx'.isRawKdf = ctx.isRawKdf
  stepsSet : ctx'.stepsSet = ctx.stepsSet
  inputs : ctx'.inputs = ctx.inputs
  cost : ctx'.cost = ctx.cost

theorem SameInputs.refl (ctx : KdfCtx) : SameInputs ctx ctx := ⟨rfl, rfl, rfl, rfl, rfl, rfl⟩

theorem SameInputs.trans {a b c : KdfCtx} (first : SameInputs a b) (second : SameInputs b c) :
    SameInputs a c :=
  ⟨second.alg.trans first.alg, second.kaAlg.trans first.kaAlg,
    second.isRawKdf.trans first.isRawKdf, second.stepsSet.trans first.stepsSet,
    second.inputs.trans first.inputs, second.cost.trans first.cost⟩

theorem SameInputs.symm {a b : KdfCtx} (same : SameInputs a b) : SameInputs b a :=
  ⟨same.alg.symm, same.kaAlg.symm, same.isRawKdf.symm, same.stepsSet.symm, same.inputs.symm,
    same.cost.symm⟩

/-- A back end computed these bytes from the inputs of the context. -/
def ComputedFrom (Hmac Cmac : Type) (ctx : KdfCtx) (stream : Bytes) : Prop :=
  ∃ (env : KdfEnv Hmac Cmac) (used : KdfCtx) (n : Nat), SameInputs ctx used ∧
    wolfpsaKdfComputeOutput env used n = .ok stream

theorem ComputedFrom.of_same {ctx ctx' : KdfCtx} {stream : Bytes}
    (computed : ComputedFrom Hmac Cmac ctx stream) (same : SameInputs ctx ctx') :
    ComputedFrom Hmac Cmac ctx' stream := by
  obtain ⟨env, used, n, equal, ran⟩ := computed
  exact ⟨env, used, n, same.symm.trans equal, ran⟩

/-- What the cache holds was computed from the inputs of the context by an output call. -/
def CacheComputed (Hmac Cmac : Type) (ctx : KdfCtx) : Prop :=
  ∀ cache, ctx.outputCache = some cache →
    ctx.outputStarted = true ∧ ComputedFrom Hmac Cmac ctx cache

/-- The inputs are kept, and the output once started stays started. -/
structure KeepsInputs (Hmac Cmac : Type) (ctx ctx' : KdfCtx) : Prop where
  same : SameInputs ctx ctx'
  started : ctx.outputStarted = true → ctx'.outputStarted = true
  computed : CacheComputed Hmac Cmac ctx → CacheComputed Hmac Cmac ctx'

theorem KeepsInputs.refl (ctx : KdfCtx) : KeepsInputs Hmac Cmac ctx ctx := ⟨.refl ctx, id, id⟩

theorem KeepsInputs.trans {a b c : KdfCtx} (first : KeepsInputs Hmac Cmac a b)
    (second : KeepsInputs Hmac Cmac b c) : KeepsInputs Hmac Cmac a c :=
  ⟨first.same.trans second.same, fun output => second.started (first.started output),
    fun held => second.computed (first.computed held)⟩

theorem SameInputs.keeps {ctx ctx' : KdfCtx} (same : SameInputs ctx ctx')
    (cache : ctx'.outputCache = ctx.outputCache)
    (started : ctx.outputStarted = true → ctx'.outputStarted = true) :
    KeepsInputs Hmac Cmac ctx ctx' := by
  refine ⟨same, started, fun computed held present => ?_⟩
  obtain ⟨output, source⟩ := computed held (cache ▸ present)
  exact ⟨started output, source.of_same same⟩

theorem wolfpsaKdfDone_keeps (ctx : KdfCtx) (status : Status) :
    KeepsInputs Hmac Cmac ctx (wolfpsaKdfDone ctx status) := by
  unfold wolfpsaKdfDone
  split
  · exact SameInputs.keeps ⟨rfl, rfl, rfl, rfl, rfl, rfl⟩ rfl id
  · exact .refl ctx

theorem kdfFillCache_keeps {env : KdfEnv Hmac Cmac} {ctx cached : KdfCtx} {n : Nat}
    (filled : kdfFillCache env ctx n = .ok cached) (started : ctx.outputStarted = true) :
    KeepsInputs Hmac Cmac ctx cached := by
  rcases kdfFillCache_ok filled with rfl | ⟨-, -, -, cache, ran, rfl⟩
  · exact .refl _
  · refine ⟨⟨rfl, rfl, rfl, rfl, rfl, rfl⟩, id, fun _ held same => ?_⟩
    cases same
    exact ⟨started, env, ctx, _, ⟨rfl, rfl, rfl, rfl, rfl, rfl⟩, ran⟩

theorem wolfpsaKdfOutputBytes_keeps {env : KdfEnv Hmac Cmac} {ctx ctx₁ : KdfCtx} {output : OutBuf}
    {r : Except KdfFail Bytes} (ran : wolfpsaKdfOutputBytes env ctx output = (r, ctx₁)) :
    KeepsInputs Hmac Cmac ctx ctx₁ := by
  have begun : KeepsInputs Hmac Cmac ctx (kdfStarted ctx output.size) :=
    SameInputs.keeps ⟨rfl, rfl, rfl, rfl, rfl, rfl⟩ rfl fun _ => rfl
  unfold wolfpsaKdfOutputBytes at ran
  split at ran
  · cases ran
    exact .refl _
  split at ran
  · dsimp only at ran
    rw [kdfSnapshotL_eq] at ran
    split at ran
    · rename_i reserved granted
      obtain ⟨-, same⟩ := wolfpsaKdfRequireOutput_ok granted
      subst same
      split at ran
      · cases ran
        exact begun
      split at ran
      · cases ran
        exact begun
      rename_i cached filled
      change kdfFillCache env (kdfStarted ctx output.size) output.size = .ok cached at filled
      have whole := begun.trans (kdfFillCache_keeps filled rfl)
      split at ran
      · cases ran
        exact whole
      · cases ran
        exact whole.trans (SameInputs.keeps ⟨rfl, rfl, rfl, rfl, rfl, rfl⟩ rfl id)
    · rename_i status reserved refused answer
      cases ran
      unfold wolfpsaKdfRequireOutput at answer
      split_ifs at answer
      all_goals
        cases answer
        exact SameInputs.keeps ⟨rfl, rfl, rfl, rfl, rfl, rfl⟩ rfl id
  · cases ran
    exact .refl _

/-- What a call does to the inputs: nothing, or it succeeds and takes one. -/
inductive InputsMove (e : KdfEvent Hmac Cmac) (ctx : KdfCtx) : KdfResult → KdfCtx → Prop
  | kept {result : KdfResult} {ctx' : KdfCtx} (keeps : KeepsInputs Hmac Cmac ctx ctx')
      (silent : kdfSucceeded result = true →
        ∀ agreement, kdfInputOf agreement e = none ∧ kdfCostOf e = none) :
      InputsMove e ctx result ctx'
  | input {result : KdfResult} {step : KdfStep} {data : Bytes} {granted : Bool}
      (success : kdfSucceeded result = true) (given : kdfInputOf (kdfAgreement ctx) e = some (step, data))
      (noCost : kdfCostOf e = none) (admits : KdfAdmits e.env.wc ctx step data.length) :
      InputsMove e ctx result (ctx.take step data granted)
  | cost {result : KdfResult} {value : Nat} (success : kdfSucceeded result = true)
      (given : kdfCostOf e = some value) (noInput : ∀ agreement, kdfInputOf agreement e = none)
      (early : ctx.outputStarted = false) (pbkdf2 : psaAlgIsPbkdf2 ctx.alg = true)
      (first : ctx.isSet .cost = false) (positive : value ≠ 0) :
      InputsMove e ctx result { ctx with cost := value, stepsSet := .cost :: ctx.stepsSet }

theorem asks_silent {e : KdfEvent Hmac Cmac} {n : Nat} (asks : kdfAsks e = some n)
    (agreement : Algorithm) : kdfInputOf agreement e = none ∧ kdfCostOf e = none := by
  unfold kdfAsks at asks
  unfold kdfInputOf kdfCostOf
  split at asks
  all_goals first | (rename_i call; rw [call]; exact ⟨rfl, rfl⟩) | cases asks

theorem gives_input {e : KdfEvent Hmac Cmac} {ctx : KdfCtx} {step : KdfStep} {data : Bytes}
    (gives : KdfGives e ctx step data) :
    kdfInputOf (kdfAgreement ctx) e = some (step, data) ∧ kdfCostOf e = none := by
  cases gives with
  | bytes call same => simp [kdfInputOf, kdfCostOf, call, same]
  | key call found => simp [kdfInputOf, kdfCostOf, call, found]
  | @agreement privateKey peerKey call agreed =>
    unfold kdfAgreedSecret at agreed
    split at agreed
    · cases agreed
    split at agreed
    · cases agreed
    split at agreed
    · cases agreed
    split at agreed
    · cases agreed
    split at agreed
    · cases agreed
    rename_i attributes known
    dsimp only at agreed
    split_ifs at agreed
    simp [kdfInputOf, kdfCostOf, call, known, kdfAgreement, agreed]

theorem KdfMove.inputs {e : KdfEvent Hmac Cmac} {ctx ctx' : KdfCtx} {result : KdfResult}
    (moved : KdfMove e ctx result ctx') : InputsMove e ctx result ctx' := by
  have failed {status : Status} (error : status ≠ .success) :
      kdfSucceeded (.ofStatus status) = true →
        ∀ agreement, kdfInputOf agreement e = none ∧ kdfCostOf e = none := by
    intro success
    simp [kdfSucceeded, KdfResult.ofStatus, error] at success
  cases moved with
  | @refused status error => exact .kept (wolfpsaKdfDone_keeps ctx status) (failed error)
  | kept call =>
    refine .kept (.refl ctx) (failed ?_)
    rcases call with ⟨-, rfl⟩ | ⟨-, rfl⟩
    · decide
    · decide
  | lowered call =>
    refine .kept (SameInputs.keeps ⟨rfl, rfl, rfl, rfl, rfl, rfl⟩ rfl id) fun _ agreement => ?_
    simp [kdfInputOf, kdfCostOf, call]
  | input gives admits =>
    obtain ⟨given, noCost⟩ := gives_input gives
    exact .input rfl given noCost admits
  | cost call early pbkdf2 first positive =>
    refine .cost rfl ?_ (fun agreement => ?_) early pbkdf2 first positive
    · simp [kdfCostOf, call]
    · simp [kdfInputOf, call]
  | produced ran produces =>
    exact .kept ((wolfpsaKdfOutputBytes_keeps ran).trans (wolfpsaKdfDone_keeps _ _))
      fun _ => asks_silent produces.asks
  | failed ran =>
    exact .kept ((wolfpsaKdfOutputBytes_keeps ran).trans (wolfpsaKdfDone_keeps _ _))
      (failed (wolfpsaKdfOutputBytes_error ran).1)
  | hung ran => exact .kept (wolfpsaKdfOutputBytes_keeps ran) fun success => by cases success

/-! ## The inputs over a run -/

/-- The accepted calls since the setup, in order. -/
def acceptedCalls (h : KdfHistory Hmac Cmac) : List (KdfEvent Hmac Cmac) := (sinceSetup h).reverse

/-- The context holds what the accepted calls gave, and nothing else. -/
structure InputsTracked (calls : List (KdfEvent Hmac Cmac)) (past : KdfHistory Hmac Cmac)
    (ctx : KdfCtx) : Prop where
  buffers : ∀ step, ctx.inputs step = (givenFor (kdfAgreement ctx) step calls).flatten
  single : ∀ step, ¬(psaAlgIsPbkdf2 ctx.alg = true ∧ step = .salt) →
    (givenFor (kdfAgreement ctx) step calls).length ≤ 1
  marked : ∀ step, ctx.isSet step = true ↔ Given ctx calls step
  cost : costsGiven calls = [] ∨ costsGiven calls = [ctx.cost] ∧ ctx.cost ≠ 0
  takes : ∀ step, ctx.isSet step = true → step ∈ kdfTakes ctx
  raw : ctx.isRawKdf = true → ctx.alg = psaAlgCategoryKeyDerivation
  early : ctx.outputStarted = false → ctx.errorState = false → ∀ c ∈ past, ¬OutputCall c.1
  ordered : Throughout (InputFirst (kdfAgreement ctx)) past
  computed : CacheComputed Hmac Cmac ctx

section

variable {calls : List (KdfEvent Hmac Cmac)} {past : KdfHistory Hmac Cmac} {ctx ctx' : KdfCtx}
  {e : KdfEvent Hmac Cmac} {r : KdfResult}

theorem givenFor_silent {agreement : Algorithm} (silent : kdfInputOf agreement e = none)
    (step : KdfStep) : givenFor agreement step (calls ++ [e]) = givenFor agreement step calls := by
  simp [givenFor, silent]

theorem givenFor_input {agreement : Algorithm} {step : KdfStep} {data : Bytes}
    (given : kdfInputOf agreement e = some (step, data)) (step' : KdfStep) :
    givenFor agreement step' (calls ++ [e]) =
      givenFor agreement step' calls ++ if step = step' then [data] else [] := by
  by_cases same : step = step'
  · simp [givenFor, given, same]
  · simp [givenFor, given, same]

theorem costsGiven_silent (silent : kdfCostOf e = none) :
    costsGiven (calls ++ [e]) = costsGiven calls := by
  simp [costsGiven, silent]

theorem costsGiven_cost {value : Nat} (given : kdfCostOf e = some value) :
    costsGiven (calls ++ [e]) = costsGiven calls ++ [value] := by
  simp [costsGiven, given]

theorem SameInputs.isSet (same : SameInputs ctx ctx') (step : KdfStep) :
    ctx'.isSet step = ctx.isSet step := by
  unfold KdfCtx.isSet
  rw [same.stepsSet]

theorem SameInputs.agreement (same : SameInputs ctx ctx') : kdfAgreement ctx' = kdfAgreement ctx := by
  unfold kdfAgreement
  rw [same.alg, same.kaAlg]

theorem SameInputs.kdfTakes (same : SameInputs ctx ctx') : kdfTakes ctx' = kdfTakes ctx := by
  unfold Source.kdfTakes
  rw [same.alg, same.isRawKdf]

/-- A call that takes no input keeps what was tracked. -/
theorem InputsTracked.kept {calls' : List (KdfEvent Hmac Cmac)} (tracked : InputsTracked calls past ctx)
    (keeps : KeepsInputs Hmac Cmac ctx ctx')
    (given : ∀ step, givenFor (kdfAgreement ctx) step calls' = givenFor (kdfAgreement ctx) step calls)
    (costs : costsGiven calls' = costsGiven calls)
    (valid : ctx'.errorState = false → ctx.errorState = false)
    (closed : OutputCall e → ctx'.outputStarted = true ∨ ctx'.errorState = true)
    (first : InputFirst (kdfAgreement ctx) e r past) :
    InputsTracked calls' ((e, r) :: past) ctx' := by
  obtain ⟨same, started, computed⟩ := keeps
  refine ⟨fun step => ?_, fun step other => ?_, fun step => ?_, ?_, fun step set => ?_,
    fun isRaw => ?_, fun unstarted unpoisoned c member output => ?_, ?_, computed tracked.computed⟩
  · rw [same.inputs, same.agreement, given, tracked.buffers]
  · rw [same.agreement, given]
    exact tracked.single step (by rwa [same.alg] at other)
  · rw [same.isSet, tracked.marked]
    unfold Given
    rw [same.agreement, given, costs]
  · rw [costs, same.cost]
    exact tracked.cost
  · rw [same.kdfTakes]
    exact tracked.takes step (by rwa [same.isSet] at set)
  · rw [same.alg]
    exact tracked.raw (by rwa [same.isRawKdf] at isRaw)
  · rcases List.mem_cons.mp member with rfl | old
    · have := closed output
      simp [unstarted, unpoisoned] at this
    · refine tracked.early ?_ (valid unpoisoned) c old output
      by_contra output'
      rw [started (by simpa using output')] at unstarted
      cases unstarted
  · rw [same.agreement]
    exact throughout_cons.mpr ⟨first, tracked.ordered⟩

theorem isSet_take (step step' : KdfStep) (data : Bytes) (granted : Bool) :
    (ctx.take step data granted).isSet step' = true ↔ step' = step ∨ ctx.isSet step' = true := by
  simp [KdfCtx.isSet, KdfCtx.take]

/-- An accepted input is added to the buffer of its step. -/
theorem InputsTracked.input {step : KdfStep} {data : Bytes} {granted : Bool}
    (tracked : InputsTracked calls past ctx)
    (given : kdfInputOf (kdfAgreement ctx) e = some (step, data)) (noCost : kdfCostOf e = none)
    (admits : KdfAdmits e.env.wc ctx step data.length) (valid : ctx.errorState = false)
    (silent : ¬OutputCall e) :
    InputsTracked (calls ++ [e]) ((e, r) :: past) (ctx.take step data granted) := by
  have before := tracked.early admits.early valid
  have agreement : kdfAgreement (ctx.take step data granted) = kdfAgreement ctx := rfl
  refine ⟨fun step' => ?_, fun step' other => ?_, fun step' => ?_, ?_, fun step' set => ?_,
    tracked.raw, fun _ _ c member => ?_, ?_, fun cache held => ?_⟩
  · rw [agreement, givenFor_input given, List.flatten_append, ← tracked.buffers]
    by_cases same : step = step'
    · subst same
      simp [KdfCtx.take]
    · simp [KdfCtx.take, same, Ne.symm same]
  · rw [agreement, givenFor_input given, List.length_append]
    by_cases same : step = step'
    · subst same
      rcases admits.first with salt | unset
      · exact absurd salt other
      · -- nothing was given for the step before
        have fresh : ¬Given ctx calls step := by
          rw [← tracked.marked, unset]
          decide
        unfold Given at fresh
        rw [if_neg admits.notCost, not_not] at fresh
        simp [fresh]
    · rw [if_neg same]
      exact tracked.single step' other
  · rw [isSet_take, tracked.marked]
    unfold Given
    rw [agreement, costsGiven_silent noCost, givenFor_input given]
    by_cases isCost : step' = .cost
    · rw [if_pos isCost, if_pos isCost]
      have different : step' ≠ step := isCost ▸ Ne.symm admits.notCost
      simp [different]
    · rw [if_neg isCost, if_neg isCost]
      by_cases same : step = step'
      · simp [same]
      · simp [same, Ne.symm same]
  · rw [costsGiven_silent noCost]
    exact tracked.cost
  · show step' ∈ kdfTakes ctx
    rcases (isSet_take step step' data granted).mp set with rfl | earlier
    · exact validateStep_takes admits.valid
    · exact tracked.takes step' earlier
  · rcases List.mem_cons.mp member with rfl | old
    · exact silent
    · exact before c old
  · rw [agreement]
    exact throughout_cons.mpr ⟨fun _ _ => before, tracked.ordered⟩
  · have started := (tracked.computed cache held).1
    rw [admits.early] at started
    cases started

/-- PBKDF2 belongs to no other family. -/
theorem pbkdf2_only (pbkdf2 : psaAlgIsPbkdf2 ctx.alg = true)
    (raw : ctx.isRawKdf = true → ctx.alg = psaAlgCategoryKeyDerivation) :
    ctx.isRawKdf = false ∧ psaAlgIsAnyHkdf ctx.alg = false ∧ psaAlgIsTls12Prf ctx.alg = false ∧
      psaAlgIsTls12PskToMs ctx.alg = false := by
  refine ⟨?_, ?_, ?_, ?_⟩
  all_goals
    by_contra other
    rw [Bool.not_eq_false] at other
  · rw [raw other] at pbkdf2
    revert pbkdf2
    decide
  · rw [not_pbkdf2_of_anyHkdf other] at pbkdf2
    cases pbkdf2
  · rw [not_pbkdf2_of_family other (by decide) (by decide)] at pbkdf2
    cases pbkdf2
  · rw [not_pbkdf2_of_family other (by decide) (by decide)] at pbkdf2
    cases pbkdf2

theorem pbkdf2_takes_cost (pbkdf2 : psaAlgIsPbkdf2 ctx.alg = true)
    (raw : ctx.isRawKdf = true → ctx.alg = psaAlgCategoryKeyDerivation) :
    KdfStep.cost ∈ kdfTakes ctx ∧ KdfStep.cost ∈ kdfMandatory ctx := by
  obtain ⟨notRaw, notHkdf, notPrf, notPsk⟩ := pbkdf2_only pbkdf2 raw
  simp [kdfTakes, kdfMandatory, notRaw, notHkdf, notPrf, notPsk, pbkdf2]

theorem pbkdf2_of_takes_cost (takes : KdfStep.cost ∈ kdfTakes ctx) :
    psaAlgIsPbkdf2 ctx.alg = true := by
  unfold kdfTakes at takes
  split_ifs at takes with _ _ _ _ _ _ pbkdf2
  all_goals first | exact pbkdf2 | simp at takes

/-- The cost is the one integer given. -/
theorem InputsTracked.integer {value : Nat} (tracked : InputsTracked calls past ctx)
    (given : kdfCostOf e = some value) (noInput : ∀ agreement, kdfInputOf agreement e = none)
    (early : ctx.outputStarted = false) (pbkdf2 : psaAlgIsPbkdf2 ctx.alg = true)
    (first : ctx.isSet .cost = false) (positive : value ≠ 0) (valid : ctx.errorState = false)
    (silent : ¬OutputCall e) :
    InputsTracked (calls ++ [e]) ((e, r) :: past)
      { ctx with cost := value, stepsSet := .cost :: ctx.stepsSet } := by
  have before := tracked.early early valid
  have set (step : KdfStep) : ({ ctx with cost := value, stepsSet := .cost :: ctx.stepsSet } :
      KdfCtx).isSet step = true ↔ step = .cost ∨ ctx.isSet step = true := by
    simp [KdfCtx.isSet]
  have none : costsGiven calls = [] := by
    have fresh : ¬Given ctx calls .cost := by
      rw [← tracked.marked, first]
      decide
    unfold Given at fresh
    rwa [if_pos rfl, not_not] at fresh
  have same (step : KdfStep) : givenFor (kdfAgreement ctx) step (calls ++ [e]) =
      givenFor (kdfAgreement ctx) step calls := givenFor_silent (noInput (kdfAgreement ctx)) step
  refine ⟨fun step => ?_, fun step other => ?_, fun step => ?_, ?_, fun step isSet => ?_,
    tracked.raw, fun _ _ c member => ?_, ?_, fun cache held => ?_⟩
  · exact (tracked.buffers step).trans (by rw [← same step]; rfl)
  · refine Nat.le_trans (Nat.le_of_eq ?_) (tracked.single step other)
    exact congrArg List.length (same step)
  · rw [set, tracked.marked]
    unfold Given
    rw [costsGiven_cost given, none]
    by_cases isCost : step = .cost
    · simp [isCost]
    · rw [if_neg isCost, if_neg isCost]
      show _ ↔ givenFor (kdfAgreement ctx) step (calls ++ [e]) ≠ []
      rw [same]
      simp [isCost]
  · rw [costsGiven_cost given, none]
    exact .inr ⟨rfl, positive⟩
  · show step ∈ kdfTakes ctx
    rcases (set step).mp isSet with rfl | earlier
    · exact (pbkdf2_takes_cost pbkdf2 tracked.raw).1
    · exact tracked.takes step earlier
  · rcases List.mem_cons.mp member with rfl | old
    · exact silent
    · exact before c old
  · exact throughout_cons.mpr ⟨fun _ _ => before, tracked.ordered⟩
  · have started := (tracked.computed cache held).1
    rw [early] at started
    cases started

/-- A new operation has been given nothing. -/
theorem inputsTracked_setup {env : KdfEnv Hmac Cmac} (fresh : KdfFresh env ctx) :
    InputsTracked ([] : List (KdfEvent Hmac Cmac)) [] ctx := by
  have unset (step : KdfStep) : ctx.isSet step = false := by
    simp [KdfCtx.isSet, fresh.stepsSet]
  refine ⟨fun step => ?_, fun step _ => ?_, fun step => ?_, .inl rfl, fun step set => ?_, fresh.raw,
    fun _ _ c member => ?_, throughout_nil _, fun cache held => ?_⟩
  · rw [fresh.inputs]
    rfl
  · simp [givenFor]
  · rw [unset]
    unfold Given
    split <;> simp [costsGiven, givenFor]
  · rw [unset] at set
    cases set
  · cases member
  · rw [fresh.outputCache] at held
    cases held

theorem kdfInput_not_output (agreement : Algorithm)
    (input : (kdfInputOf agreement e).isSome ∨ (kdfCostOf e).isSome) : ¬OutputCall e := by
  rintro ⟨asks, -⟩
  obtain ⟨n, asked⟩ := Option.isSome_iff_exists.mp asks
  obtain ⟨noInput, noCost⟩ := asks_silent asked agreement
  simp [noInput, noCost] at input

end

/-- What holds of the operation after a history of calls. -/
def KdfInputsTracked (h : KdfHistory Hmac Cmac) (operation : KdfOperation) : Prop :=
  ∀ ctx, operation = some ctx → InputsTracked (acceptedCalls h) (epoch h) ctx

theorem kdfStep_none_setup {e : KdfEvent Hmac Cmac} {ctx : KdfCtx}
    (active : (kdfStep none e).2 = some ctx) :
    isKdfSetup e.call = true ∧ kdfSucceeded (kdfStep none e).1 = true := by
  unfold kdfStep at active ⊢
  cases call : e.call with
  | setup alg =>
    rw [call] at active
    dsimp only [psaKeyDerivationSetup] at active ⊢
    split at active
    · cases active
    · exact ⟨rfl, rfl⟩
  | _ =>
    rw [call] at active
    cases active

theorem kdfStep_none_output {e : KdfEvent Hmac Cmac} (output : (kdfAsks e).isSome) :
    (kdfStep none e).1.status ≠ some .success := by
  unfold kdfAsks at output
  unfold kdfStep
  split at output
  all_goals first
    | (rename_i call; rw [call]; simp [psaKeyDerivationOutputBytes, psaKeyDerivationOutputKey,
        psaKeyDerivationVerifyBytes, psaKeyDerivationVerifyKey, KdfResult.ofStatus])
    | cases output

/-- An active operation is not set up again. -/
theorem kdfStep_setup_refused {e : KdfEvent Hmac Cmac} (ctx : KdfCtx) (setup : isKdfSetup e.call = true) :
    kdfSucceeded (kdfStep (some ctx) e).1 = false := by
  unfold kdfStep
  cases call : e.call with
  | setup alg => rfl
  | _ =>
    rw [call] at setup
    cases setup

theorem acceptedCalls_success {h : KdfHistory Hmac Cmac} {e : KdfEvent Hmac Cmac} {r : KdfResult}
    (running : isKdfSetup e.call = false) (success : kdfSucceeded r = true) :
    acceptedCalls ((e, r) :: h) = acceptedCalls h ++ [e] := by
  simp [acceptedCalls, sinceSetup, success, running]

theorem acceptedCalls_failure {h : KdfHistory Hmac Cmac} {e : KdfEvent Hmac Cmac} {r : KdfResult}
    (failure : kdfSucceeded r = false) : acceptedCalls ((e, r) :: h) = acceptedCalls h := by
  simp [acceptedCalls, sinceSetup, failure]

theorem kdfInputsTracked_move {h : KdfHistory Hmac Cmac} {e : KdfEvent Hmac Cmac} {ctx ctx' : KdfCtx}
    {r : KdfResult} (tracked : InputsTracked (acceptedCalls h) (epoch h) ctx)
    (valid : ctx.errorState = false) (refused : isKdfSetup e.call = true → kdfSucceeded r = false)
    (closed : OutputCall e → ctx'.outputStarted = true ∨ ctx'.errorState = true)
    (moved : InputsMove e ctx r ctx') :
    InputsTracked (acceptedCalls ((e, r) :: h)) ((e, r) :: epoch h) ctx' := by
  have running (success : kdfSucceeded r = true) : isKdfSetup e.call = false := by
    by_contra setup
    rw [refused (by simpa using setup)] at success
    cases success
  cases moved with
  | kept keeps silent =>
    cases success : kdfSucceeded r with
    | true =>
      obtain ⟨noInput, noCost⟩ := silent success (kdfAgreement ctx)
      rw [acceptedCalls_success (running success) success]
      refine tracked.kept keeps (givenFor_silent noInput) (costsGiven_silent noCost) (fun _ => valid)
        closed ?_
      intro _ input
      simp [noInput, noCost] at input
    | false =>
      rw [acceptedCalls_failure success]
      refine tracked.kept keeps (fun _ => rfl) rfl (fun _ => valid) closed ?_
      intro accepted
      rw [success] at accepted
      cases accepted
  | input success given noCost admits =>
    rw [acceptedCalls_success (running success) success]
    exact tracked.input given noCost admits valid 
      (kdfInput_not_output (kdfAgreement ctx) (.inl (by rw [given]; rfl)))
  | cost success given noInput early pbkdf2 first positive =>
    rw [acceptedCalls_success (running success) success]
    exact tracked.integer given noInput early pbkdf2 first positive valid
      (kdfInput_not_output (kdfAgreement ctx) (.inr (by rw [given]; rfl)))

theorem kdfInputsTracked_step {h : KdfHistory Hmac Cmac} {operation : KdfOperation}
    (tracked : KdfInputsTracked h operation) (e : KdfEvent Hmac Cmac) :
    KdfInputsTracked ((e, (kdfStep operation e).1) :: h) (kdfStep operation e).2 := by
  intro ctx' active
  cases operation with
  | none =>
    obtain ⟨setup, success⟩ := kdfStep_none_setup active
    have calls : acceptedCalls ((e, (kdfStep none e).1) :: h) = [] := by
      simp [acceptedCalls, sinceSetup, success, setup]
    have past : epoch ((e, (kdfStep none e).1) :: h) = [] := by simp [epoch, success, setup]
    rw [calls, past]
    exact inputsTracked_setup (kdfStep_none active)
  | some ctx =>
    have before := tracked ctx rfl
    have past : epoch ((e, (kdfStep (some ctx) e).1) :: h) =
        (e, (kdfStep (some ctx) e).1) :: epoch h := by
      cases setup : isKdfSetup e.call with
      | true => simp [epoch, kdfStep_setup_refused ctx setup]
      | false => simp [epoch, setup]
    rw [past]
    have closed (output : OutputCall e) := kdfStep_closed output (some ctx) ctx' active
    by_cases abort : e.call = .abort
    · simp [kdfStep, abort, psaKeyDerivationAbort] at active
    cases poisoned : ctx.errorState with
    | true =>
      rw [kdfStep_errored poisoned abort] at active ⊢
      cases active
      rw [acceptedCalls_failure rfl]
      refine before.kept (.refl _) (fun _ => rfl) rfl id closed fun accepted => ?_
      cases accepted
    | false =>
      obtain ⟨result, next, ran, moved⟩ := kdfStep_move poisoned abort
      rw [ran] at active ⊢
      cases active
      refine kdfInputsTracked_move before poisoned (fun setup => ?_) closed (KdfMove.inputs moved)
      have refused := kdfStep_setup_refused ctx setup
      rwa [ran] at refused

theorem run_inputsTracked (es : List (KdfEvent Hmac Cmac)) :
    KdfInputsTracked (run kdfStep none es).1 (run kdfStep none es).2 := by
  refine run_invariant KdfInputsTracked ?_ ?_ es
  · intro ctx inactive
    cases inactive
  · intro h operation e tracked
    exact kdfInputsTracked_step tracked e

/-! ## Every output -/

/-- What a successful output call rests on. -/
structure InputsUsed (calls : List (KdfEvent Hmac Cmac)) (past : KdfHistory Hmac Cmac)
    (ctx : KdfCtx) : Prop where
  /-- Each buffer holds what was given for its step. -/
  buffers : ∀ step, ctx.inputs step = (givenFor (kdfAgreement ctx) step calls).flatten
  /-- A step is given once, the salt of PBKDF2 apart. -/
  single : ∀ step, ¬(psaAlgIsPbkdf2 ctx.alg = true ∧ step = .salt) →
    (givenFor (kdfAgreement ctx) step calls).length ≤ 1
  /-- The cost of PBKDF2 is the one integer given. -/
  cost : if psaAlgIsPbkdf2 ctx.alg then costsGiven calls = [ctx.cost] else costsGiven calls = []
  mandatory : ∀ step ∈ kdfMandatory ctx, Given ctx calls step
  consumed : ∀ step, Given ctx calls step → KdfReads ctx step
  ordered : Throughout (InputFirst (kdfAgreement ctx)) past

theorem SameInputs.given {calls : List (KdfEvent Hmac Cmac)} {ctx ctx' : KdfCtx}
    (same : SameInputs ctx ctx') (step : KdfStep) : Given ctx' calls step ↔ Given ctx calls step := by
  unfold Given
  rw [same.agreement]

theorem SameInputs.kdfMandatory {ctx ctx' : KdfCtx} (same : SameInputs ctx ctx') :
    kdfMandatory ctx' = kdfMandatory ctx := by
  unfold Guarantees.kdfMandatory
  rw [same.alg, same.isRawKdf]

/-- What was tracked, at the moment a back end computed from it. -/
theorem InputsTracked.used {calls : List (KdfEvent Hmac Cmac)} {past : KdfHistory Hmac Cmac}
    {ctx used : KdfCtx} {n k : Nat} {env : KdfEnv Hmac Cmac} {stream : Bytes}
    (tracked : InputsTracked calls past ctx) (complete : kdfInputsComplete ctx n = .success)
    (same : SameInputs ctx used) (computed : wolfpsaKdfComputeOutput env used k = .ok stream) :
    InputsUsed calls past used := by
  have mandatory : ∀ step ∈ kdfMandatory ctx, Given ctx calls step := fun step member =>
    (tracked.marked step).mp (kdfInputsComplete_mandatory complete step member)
  have cost (pbkdf2 : psaAlgIsPbkdf2 ctx.alg = true) :
      costsGiven calls = [ctx.cost] ∧ ctx.cost ≠ 0 := by
    have given := mandatory .cost (pbkdf2_takes_cost pbkdf2 tracked.raw).2
    unfold Given at given
    rw [if_pos rfl] at given
    exact tracked.cost.resolve_left given
  refine ⟨fun step => ?_, fun step other => ?_, ?_, fun step member => ?_, fun step given => ?_, ?_⟩
  · rw [same.inputs, same.agreement, tracked.buffers]
  · rw [same.agreement]
    exact tracked.single step (by rwa [same.alg] at other)
  · rw [same.alg, same.cost]
    split
    · rename_i pbkdf2
      exact (cost pbkdf2).1
    · rename_i other
      by_contra given
      have set := (tracked.marked .cost).mpr (by unfold Given; rwa [if_pos rfl])
      exact other (pbkdf2_of_takes_cost (tracked.takes .cost set))
  · rw [same.given]
    exact mandatory step (by rwa [same.kdfMandatory] at member)
  · rw [same.given] at given
    have set := (tracked.marked step).mpr given
    refine kdfReads_of_takes computed (fun pbkdf2 => ?_) ?_ ?_
    · rw [same.cost]
      exact (cost (by rwa [same.alg] at pbkdf2)).2
    · rw [same.kdfTakes]
      exact tracked.takes step set
    · rw [same.isSet]
      exact set
  · rw [same.agreement]
    exact tracked.ordered

/-- The bytes of an output call are part of what a back end computed from the inputs. -/
theorem kdfDelivered_computed {env : KdfEnv Hmac Cmac} {ctx ctx₁ : KdfCtx} {n : Nat} {bytes : Bytes}
    (computed : CacheComputed Hmac Cmac ctx) (delivered : KdfDelivered env ctx n bytes ctx₁) :
    ∃ stream, ComputedFrom Hmac Cmac ctx stream ∧ bytes <:+: stream := by
  obtain ⟨cached, filled, deliver, -⟩ := delivered.cached
  have begun : KeepsInputs Hmac Cmac ctx (kdfStarted ctx n) :=
    SameInputs.keeps ⟨rfl, rfl, rfl, rfl, rfl, rfl⟩ rfl fun _ => rfl
  have whole := begun.trans (kdfFillCache_keeps filled rfl)
  have slice (stream : Bytes) (k : Nat) : (stream.drop k).take n <:+: stream :=
    (List.take_prefix n _).isInfix.trans (List.drop_suffix k stream).isInfix
  unfold kdfDeliver at deliver
  split at deliver
  · rename_i cache held
    split at deliver
    · cases deliver
    · cases deliver
      exact ⟨cache, (whole.computed computed cache held).2.of_same whole.same.symm, slice _ _⟩
  · split at deliver
    · exact ⟨bytes, ⟨env, cached, n, whole.same, deliver⟩, List.infix_rfl⟩
    · split at deliver
      · cases deliver
      · obtain ⟨full, ran, same⟩ := except_bind_ok deliver
        cases same
        exact ⟨full, ⟨env, cached, _, whole.same, ran⟩, slice _ _⟩

end WolfPSA.Guarantees
