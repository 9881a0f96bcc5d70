import WolfPSA.Guarantees.KdfInputs
import WolfPSA.Source.KeyDerivationDispatch
import WolfPSA.Source.PskPremaster

/-!
# The premaster of TLS 1.2 PSK-to-MS

In every operation that reaches its output the PRF gets one premaster secret: the other secret and
the secret the run supplied, each behind its length. What stands for an other secret that was not
supplied are zeros, as many as the secret has bytes; an empty one that was supplied stays empty.
-/

namespace WolfPSA.Guarantees
open Lib Source

variable {Hmac Cmac : Type}

/-! ## The lengths the inputs can have -/

/-- The secrets of a PSK-to-MS operation are as long as its input checks allow. -/
def PskBounded (ctx : KdfCtx) : Prop :=
  psaAlgIsTls12PskToMs ctx.alg = true →
    (ctx.inputs .secret).length ≤ psaTls12PskToMsPskMaxSize ∧
      (ctx.inputs .otherSecret).length ≤ uint16Max

theorem validateStep_psk {wc : WcKdf Hmac Cmac} {ctx : KdfCtx} {step : KdfStep} {n : Nat}
    (derives : ctx.isRawKdf = false) (psk : psaAlgIsTls12PskToMs ctx.alg = true)
    (accepted : wolfpsaKdfValidateStep wc ctx step n = .success) :
    validatePskToMsStep ctx step n = .success := by
  obtain ⟨hkdf, prf⟩ := tls12PskToMs_only psk
  unfold wolfpsaKdfValidateStep at accepted
  simp only [derives, hkdf, prf, psk, Bool.false_eq_true, if_false, if_true] at accepted
  split_ifs at accepted
  exact accepted

theorem validatePskToMsStep_secret {ctx : KdfCtx} {n : Nat}
    (accepted : validatePskToMsStep ctx .secret n = .success) : n ≤ psaTls12PskToMsPskMaxSize := by
  by_contra long
  unfold validatePskToMsStep at accepted
  split_ifs at accepted
  simp_all

theorem validatePskToMsStep_otherSecret {ctx : KdfCtx} {n : Nat}
    (accepted : validatePskToMsStep ctx .otherSecret n = .success) : n ≤ uint16Max := by
  by_contra long
  unfold validatePskToMsStep at accepted
  split_ifs at accepted
  simp_all

/-- The raw derivation has its own algorithm. -/
theorem psk_derives {ctx : KdfCtx} (psk : psaAlgIsTls12PskToMs ctx.alg = true)
    (raw : ctx.isRawKdf = true → ctx.alg = psaAlgCategoryKeyDerivation) : ctx.isRawKdf = false := by
  by_contra isRaw
  rw [raw (by simpa using isRaw)] at psk
  revert psk
  decide

section

variable {calls : List (KdfEvent Hmac Cmac)} {past : KdfHistory Hmac Cmac} {ctx ctx' : KdfCtx}

theorem InputsTracked.unset_empty (tracked : InputsTracked calls past ctx) {step : KdfStep}
    (notCost : step ≠ .cost) (unset : ctx.isSet step = false) : ctx.inputs step = [] := by
  have fresh : ¬Given ctx calls step := by
    rw [← tracked.marked, unset]
    decide
  unfold Given at fresh
  rw [if_neg notCost, not_not] at fresh
  rw [tracked.buffers, fresh]
  rfl

theorem PskBounded.kept (bounded : PskBounded ctx) (same : SameInputs ctx ctx') : PskBounded ctx' := by
  intro psk
  rw [same.alg] at psk
  rw [same.inputs]
  exact bounded psk

theorem PskBounded.moved {e : KdfEvent Hmac Cmac} {r : KdfResult} (bounded : PskBounded ctx)
    (tracked : InputsTracked calls past ctx) (moved : InputsMove e ctx r ctx') : PskBounded ctx' := by
  cases moved with
  | kept keeps => exact bounded.kept keeps.same
  | cost => exact bounded
  | @input step data granted success given noCost admits =>
    intro psk
    replace psk : psaAlgIsTls12PskToMs ctx.alg = true := psk
    have old := bounded psk
    have checked := validateStep_psk (psk_derives psk tracked.raw) psk admits.valid
    have notPbkdf2 := not_pbkdf2_of_family psk (by decide) (by decide)
    have empty : ctx.inputs step = [] := by
      rcases admits.first with ⟨pbkdf2, -⟩ | unset
      · rw [notPbkdf2] at pbkdf2
        cases pbkdf2
      · exact tracked.unset_empty admits.notCost unset
    have here : (ctx.take step data granted).inputs step = data := by
      simp [KdfCtx.take, empty]
    have others (step' : KdfStep) (other : step' ≠ step) :
        (ctx.take step data granted).inputs step' = ctx.inputs step' := by
      simp [KdfCtx.take, other]
    constructor
    · by_cases secret : step = .secret
      · subst secret
        rw [here]
        exact validatePskToMsStep_secret checked
      · rw [others _ (Ne.symm secret)]
        exact old.1
    · by_cases other : step = .otherSecret
      · subst other
        rw [here]
        exact validatePskToMsStep_otherSecret checked
      · rw [others _ (Ne.symm other)]
        exact old.2

end

theorem pskBounded_step {h : KdfHistory Hmac Cmac} {operation : KdfOperation}
    (tracked : KdfInputsTracked h operation) (bounded : ∀ ctx, operation = some ctx → PskBounded ctx)
    (e : KdfEvent Hmac Cmac) : ∀ ctx, (kdfStep operation e).2 = some ctx → PskBounded ctx := by
  intro ctx' active
  cases operation with
  | none =>
    intro _
    rw [(kdfStep_none active).inputs]
    exact ⟨Nat.zero_le _, Nat.zero_le _⟩
  | some ctx =>
    have before := bounded ctx rfl
    by_cases abort : e.call = .abort
    · simp [kdfStep, abort, psaKeyDerivationAbort] at active
    cases poisoned : ctx.errorState with
    | true =>
      rw [kdfStep_errored poisoned abort] at active
      cases active
      exact before
    | false =>
      obtain ⟨result, next, ran, moved⟩ := kdfStep_move poisoned abort
      rw [ran] at active
      cases active
      exact before.moved (tracked ctx rfl) (KdfMove.inputs moved)

theorem run_pskBounded (es : List (KdfEvent Hmac Cmac)) :
    KdfInputsTracked (run kdfStep none es).1 (run kdfStep none es).2 ∧
      ∀ ctx, (run kdfStep none es).2 = some ctx → PskBounded ctx := by
  refine run_invariant (fun h operation => KdfInputsTracked h operation ∧
    ∀ ctx, operation = some ctx → PskBounded ctx) ?_ ?_ es
  · constructor
    · intro ctx inactive
      cases inactive
    · intro ctx inactive
      cases inactive
  · intro h operation e before
    exact ⟨kdfInputsTracked_step before.1 e, pskBounded_step before.1 before.2 e⟩

/-! ## The premaster -/

/-- `u16(len(other)) || other || u16(len(secret)) || secret`. -/
def pskLayout (other secret : Bytes) : Bytes :=
  be16 other.length ++ other ++ be16 secret.length ++ secret

/-- What the accepted calls gave as secret, and as other secret or in place of it. -/
structure PskGiven (calls : List (KdfEvent Hmac Cmac)) (ctx : KdfCtx) (other secret : Bytes) :
    Prop where
  secretOnce : givenFor (kdfAgreement ctx) .secret calls = [secret]
  otherOnce : givenFor (kdfAgreement ctx) .otherSecret calls = [other] ∨
    givenFor (kdfAgreement ctx) .otherSecret calls = [] ∧ other = List.replicate secret.length 0

section

variable {calls : List (KdfEvent Hmac Cmac)} {past : KdfHistory Hmac Cmac} {ctx : KdfCtx}

/-- The single datum given for a step is its buffer. -/
theorem InputsTracked.given_once (tracked : InputsTracked calls past ctx) {step : KdfStep}
    (notSalt : step ≠ .salt) (notCost : step ≠ .cost) (set : ctx.isSet step = true) :
    givenFor (kdfAgreement ctx) step calls = [ctx.inputs step] := by
  have given := (tracked.marked step).mp set
  unfold Given at given
  rw [if_neg notCost] at given
  have once := tracked.single step fun salt => notSalt salt.2
  have buffer := tracked.buffers step
  match list : givenFor (kdfAgreement ctx) step calls with
  | [] => exact absurd list given
  | [data] =>
    rw [list] at buffer
    simp [buffer]
  | _ :: _ :: _ =>
    rw [list] at once
    simp at once

theorem pskGiven (tracked : InputsTracked calls past ctx) (set : ctx.isSet .secret = true) :
    PskGiven calls ctx (pskOtherSecret ctx) (ctx.inputs .secret) := by
  refine ⟨tracked.given_once (by decide) (by decide) set, ?_⟩
  unfold pskOtherSecret
  cases supplied : ctx.isSet .otherSecret with
  | true => exact .inl (tracked.given_once (by decide) (by decide) supplied)
  | false =>
    refine .inr ⟨?_, rfl⟩
    have absent : ¬Given ctx calls .otherSecret := by
      rw [← tracked.marked, supplied]
      decide
    unfold Given at absent
    rwa [if_neg (by decide), not_not] at absent

theorem pskOtherSecret_bounded (bounded : PskBounded ctx) (psk : psaAlgIsTls12PskToMs ctx.alg = true) :
    (pskOtherSecret ctx).length ≤ uint16Max ∧ (ctx.inputs .secret).length ≤ uint16Max := by
  obtain ⟨secret, other⟩ := bounded psk
  have small : psaTls12PskToMsPskMaxSize ≤ uint16Max := by decide
  refine ⟨?_, Nat.le_trans secret small⟩
  unfold pskOtherSecret
  split
  · exact other
  · rw [List.length_replicate]
    exact Nat.le_trans secret small

end

/-! ## The PRF -/

/-- The call of the PRF on a premaster, behind the checks that do not look at it. -/
def pskDerive (env : KdfEnv Hmac Cmac) (alg : Algorithm) (premaster seed : Bytes) (n : Nat) :
    Except KdfFail Bytes :=
  match wolfpsaPrfMacFromAlg alg with
  | none => .error (.status .notSupported)
  | some mac =>
    if !isWord32 n || !isWord32 seed.length then .error (.status .invalidArgument)
    else if !env.alloc .premaster then .error (.status .insufficientMemory)
    else ofWcResult (env.wc.prfTls mac premaster masterSecretLabel seed n)

theorem wolfpsaKdfTls12PskToMs_derives (env : KdfEnv Hmac Cmac) {ctx : KdfCtx}
    (other : (pskOtherSecret ctx).length ≤ uint16Max)
    (secret : (ctx.inputs .secret).length ≤ uint16Max) (n : Nat) :
    wolfpsaKdfTls12PskToMs env ctx n =
      pskDerive env ctx.alg (pskLayout (pskOtherSecret ctx) (ctx.inputs .secret))
        (ctx.inputs .seed) n := by
  have total : isWord32 (2 + (ctx.inputs .secret).length + 2 + (pskOtherSecret ctx).length) = true := by
    rw [isWord32_iff]
    unfold uint16Max at other secret
    unfold uint32Max
    omega
  unfold wolfpsaKdfTls12PskToMs pskDerive
  cases wolfpsaPrfMacFromAlg ctx.alg with
  | none => rfl
  | some mac =>
    dsimp only
    rw [if_neg (by simp [other, secret]), total, Bool.not_true, Bool.or_false]
    rfl

/-- The environment with another PRF. -/
def KdfEnv.withPrf (env : KdfEnv Hmac Cmac)
    (prf : WcHashType → Bytes → Bytes → Bytes → Nat → Except WcError Bytes) : KdfEnv Hmac Cmac :=
  { env with wc := { env.wc with prfTls := prf } }

theorem pskDerive_withPrf (env : KdfEnv Hmac Cmac) (alg : Algorithm) (premaster seed : Bytes)
    (n : Nat) {prf : WcHashType → Bytes → Bytes → Bytes → Nat → Except WcError Bytes}
    (agree : ∀ mac, prf mac premaster = env.wc.prfTls mac premaster) :
    pskDerive (KdfEnv.withPrf env prf) alg premaster seed n = pskDerive env alg premaster seed n := by
  unfold pskDerive KdfEnv.withPrf
  split
  · rfl
  · dsimp only
    rw [agree]

section

variable {env : KdfEnv Hmac Cmac} {ctx : KdfCtx}
  {prf : WcHashType → Bytes → Bytes → Bytes → Nat → Except WcError Bytes}

/-- The two environments compute the same output for every context with these inputs. -/
def SameOutputs (env env' : KdfEnv Hmac Cmac) (ctx : KdfCtx) : Prop :=
  ∀ used n, SameInputs ctx used →
    wolfpsaKdfComputeOutput env' used n = wolfpsaKdfComputeOutput env used n

theorem SameOutputs.fillCache (same : SameOutputs env (KdfEnv.withPrf env prf) ctx) {used : KdfCtx}
    (inputs : SameInputs ctx used) (n : Nat) :
    kdfFillCache (KdfEnv.withPrf env prf) used n = kdfFillCache env used n := by
  unfold kdfFillCache
  rw [same used _ inputs]
  rfl

theorem SameOutputs.deliver (same : SameOutputs env (KdfEnv.withPrf env prf) ctx) {used : KdfCtx}
    (inputs : SameInputs ctx used) (n : Nat) :
    kdfDeliver (KdfEnv.withPrf env prf) used n = kdfDeliver env used n := by
  unfold kdfDeliver
  rw [same used _ inputs, same used _ inputs]
  rfl

theorem SameOutputs.outputBytes (same : SameOutputs env (KdfEnv.withPrf env prf) ctx)
    (output : OutBuf) :
    wolfpsaKdfOutputBytes (KdfEnv.withPrf env prf) ctx output =
      wolfpsaKdfOutputBytes env ctx output := by
  unfold wolfpsaKdfOutputBytes
  split
  · rfl
  split
  · dsimp only
    split
    · rename_i reserved granted
      obtain ⟨-, moved⟩ := wolfpsaKdfRequireOutput_ok granted
      have begun : SameInputs ctx { reserved with outputStarted := true } := by
        rw [moved, kdfSnapshotL_eq]
        exact ⟨rfl, rfl, rfl, rfl, rfl, rfl⟩
      split
      · rfl
      rw [same.fillCache begun]
      split
      · rfl
      rename_i cached filled
      have kept := begun.trans (kdfFillCache_keeps filled rfl).same
      rw [same.deliver kept]
    · rfl
  · rfl

theorem SameOutputs.publicBytes (same : SameOutputs env (KdfEnv.withPrf env prf) ctx)
    (output : OutBuf) :
    psaKeyDerivationOutputBytes (KdfEnv.withPrf env prf) (some ctx) output =
      psaKeyDerivationOutputBytes env (some ctx) output := by
  unfold psaKeyDerivationOutputBytes
  dsimp only
  rw [same.outputBytes]

theorem SameOutputs.verifyBytes (same : SameOutputs env (KdfEnv.withPrf env prf) ctx)
    (expected : InBuf) :
    psaKeyDerivationVerifyBytes (KdfEnv.withPrf env prf) (some ctx) expected =
      psaKeyDerivationVerifyBytes env (some ctx) expected := by
  unfold psaKeyDerivationVerifyBytes wolfpsaKdfVerifyBytes
  cases expected with
  | null n => rfl
  | data bytes =>
    dsimp only
    rw [same.publicBytes, same.publicBytes]
    rfl

/-- A call tells the two environments apart through their outputs only. -/
theorem SameOutputs.step {e : KdfEvent Hmac Cmac}
    (same : SameOutputs e.env (KdfEnv.withPrf e.env prf) ctx) :
    kdfStep (some ctx) ⟨KdfEnv.withPrf e.env prf, e.call⟩ = kdfStep (some ctx) e := by
  unfold kdfStep
  cases e.call with
  | outputBytes output => exact same.publicBytes output
  | outputKey attributes keyNull =>
    dsimp only
    unfold psaKeyDerivationOutputKey
    cases attributes with
    | none => rfl
    | some attrs =>
      dsimp only
      rw [same.publicBytes]
      rfl
  | verifyBytes expected => exact same.verifyBytes expected
  | verifyKey expected =>
    dsimp only
    unfold psaKeyDerivationVerifyKey
    dsimp only
    simp only [same.verifyBytes]
    rfl
  | _ => rfl

end

/-! ## Every run -/

/-- In every run with a TLS 1.2 PSK-to-MS operation that has its mandatory inputs, the premaster is
`u16(len(O)) || O || u16(len(S)) || S` for the secret `S` and the other secret `O` that were given,
with `len(S)` zeros for an `O` that was not. Both length fields are true, the writes fill the
allocated buffer without leaving it, every computation of output is the PRF on this premaster, and
no call sees what the PRF does with another one. -/
theorem psk_premaster_layout (es : List (KdfEvent Hmac Cmac)) {ctx : KdfCtx} {n : Nat}
    (active : (run kdfStep none es).2 = some ctx) (psk : psaAlgIsTls12PskToMs ctx.alg = true)
    (complete : kdfInputsComplete ctx n = .success) :
    ∃ other secret : Bytes,
      PskGiven (acceptedCalls (run kdfStep none es).1) ctx other secret ∧
      beNat (be16 other.length) = other.length ∧ beNat (be16 secret.length) = secret.length ∧
      (∀ allocated : Bytes, allocated.length = pskPremasterLen ctx →
        pskPremasterFilled allocated ctx = some (pskLayout other secret)) ∧
      (∀ (env : KdfEnv Hmac Cmac) (used : KdfCtx) (k : Nat), SameInputs ctx used →
        wolfpsaKdfComputeOutput env used k =
          pskDerive env ctx.alg (pskLayout other secret) (ctx.inputs .seed) k) ∧
      ∀ (e : KdfEvent Hmac Cmac)
        (prf : WcHashType → Bytes → Bytes → Bytes → Nat → Except WcError Bytes),
        (∀ mac, prf mac (pskLayout other secret) = e.env.wc.prfTls mac (pskLayout other secret)) →
        kdfStep (some ctx) ⟨KdfEnv.withPrf e.env prf, e.call⟩ = kdfStep (some ctx) e := by
  obtain ⟨inputs, bounded⟩ := run_pskBounded es
  have tracked := inputs ctx active
  have derives := psk_derives psk tracked.raw
  obtain ⟨hkdf, prf⟩ := tls12PskToMs_only psk
  have set : ctx.isSet .secret = true :=
    kdfInputsComplete_mandatory complete .secret
      (by simp [kdfMandatory, derives, hkdf, prf, psk])
  obtain ⟨otherFits, secretFits⟩ := pskOtherSecret_bounded (bounded ctx active) psk
  have computed (env : KdfEnv Hmac Cmac) (used : KdfCtx) (k : Nat) (same : SameInputs ctx used) :
      wolfpsaKdfComputeOutput env used k =
        pskDerive env ctx.alg (pskLayout (pskOtherSecret ctx) (ctx.inputs .secret))
          (ctx.inputs .seed) k := by
    have other : pskOtherSecret used = pskOtherSecret ctx := by
      unfold pskOtherSecret
      rw [same.isSet, same.inputs]
    rw [wolfpsaKdfComputeOutput_psk env (same.isRawKdf.trans derives) (same.alg ▸ psk),
      wolfpsaKdfTls12PskToMs_derives env (other ▸ otherFits) (same.inputs ▸ secretFits), other,
      same.inputs, same.alg]
  refine ⟨pskOtherSecret ctx, ctx.inputs .secret, pskGiven tracked set, beNat_be16 otherFits,
    beNat_be16 secretFits, fun allocated size => pskPremasterFilled_eq size, computed,
    fun e prf agree => SameOutputs.step fun used k same => ?_⟩
  rw [computed _ used k same, computed _ used k same, pskDerive_withPrf _ _ _ _ _ agree]

/-- PSK-to-MS with SHA-256, an other secret that is given and empty, and a secret of two bytes. -/
def pskEvents : List (KdfEvent Unit Unit) :=
  sampleEvents [.setup (psaAlgTls12PskToMsBase ||| psaAlgSha256 &&& psaAlgHashMask), .inputBytes .seed (.data [0x5e]),
    .inputBytes .otherSecret (.data []), .inputBytes .secret (.data [0xaa, 0xbb])]

/-- The supplied empty other secret is not replaced by zeros. -/
theorem psk_premaster_layout_empty :
    ∃ ctx other secret, (run kdfStep none pskEvents).2 = some ctx ∧
      PskGiven (acceptedCalls (run kdfStep none pskEvents).1) ctx other secret ∧
      pskPremasterFilled (List.replicate 6 0xff) ctx = some (pskLayout other secret) ∧
      pskLayout other secret = [0, 0, 0, 2, 0xaa, 0xbb] := by
  have family : (run kdfStep none pskEvents).2.map (psaAlgIsTls12PskToMs ·.alg) = some true := by
    decide
  have complete : (run kdfStep none pskEvents).2.map (kdfInputsComplete · 0) = some .success := by
    decide
  have size : (run kdfStep none pskEvents).2.map pskPremasterLen = some 6 := by decide
  have bytes : (run kdfStep none pskEvents).2.bind (pskPremasterFilled (List.replicate 6 0xff)) =
      some [0, 0, 0, 2, 0xaa, 0xbb] := by decide
  cases active : (run kdfStep none pskEvents).2 with
  | none =>
    rw [active] at size
    cases size
  | some ctx =>
    rw [active] at family complete size bytes
    obtain ⟨other, secret, given, -, -, filled, -, -⟩ := psk_premaster_layout pskEvents active
      (Option.some.inj family) (Option.some.inj complete)
    have whole := filled (List.replicate 6 0xff) (Option.some.inj size).symm
    exact ⟨ctx, other, secret, rfl, given, whole, Option.some.inj (whole.symm.trans bytes)⟩

end WolfPSA.Guarantees
