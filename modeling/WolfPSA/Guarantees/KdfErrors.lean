import WolfPSA.Lib.Trace
import WolfPSA.Guarantees.KdfUsage
import WolfPSA.Guarantees.KeyCreation
import WolfPSA.Source.KeyDerivationMoves
import WolfPSA.Source.KeyThreads

/-!
# The error state of a derivation

`wolfpsa_kdf_done` filters by status, not by cause, so the exempt statuses must come only from
calls that have not touched the operation. `PSA_ERROR_INVALID_HANDLE` does: no back end reports it,
and the import at the end of `psa_key_derivation_output_key`, which runs after the context has
changed, never does either.
-/

namespace WolfPSA.Guarantees
open Lib Source

variable {Hmac Cmac : Type}

/-- `psa_key_derivation_output_key` stores its key with `psa_import_key`, on the given back end and
among any other threads. -/
def ImportsKey (cfg : ImportConfig) (backend : StoreBackend) (env : KdfEnv Hmac Cmac) : Prop :=
  ∀ attributes data, Prog.Outcome (keyHandler backend) InitFaults (psaImportKey cfg attributes data)
    (env.importKey attributes data)

/-- A call on an active operation that is neither `psa_key_derivation_setup` nor
`psa_key_derivation_abort`. -/
def IsKdfUse (call : KdfCall) : Prop := call ≠ .abort ∧ ∀ alg, call ≠ .setup alg

/-- The failures that came before the operation was touched. -/
def RejectedEarly (call : KdfCall) (status : Status) : Prop :=
  status = .invalidHandle ∨ (∃ capacity, call = .setCapacity capacity) ∧ status = .invalidArgument

theorem wolfpsaKdfDone_cases (ctx : KdfCtx) {status : Status} (error : status ≠ .success) :
    (wolfpsaKdfDone ctx status).errorState = true ∨
      (status = .invalidSignature ∨ status = .invalidHandle) ∧ wolfpsaKdfDone ctx status = ctx := by
  unfold wolfpsaKdfDone
  by_cases poisons : status ≠ .success ∧ status ≠ .invalidSignature ∧ status ≠ .invalidHandle
  · rw [if_pos poisons]
    exact .inl rfl
  · rw [if_neg poisons]
    by_cases mismatch : status = .invalidSignature
    · exact .inr ⟨.inl mismatch, rfl⟩
    · refine .inr ⟨.inr ?_, rfl⟩
      by_contra other
      exact poisons ⟨error, mismatch, other⟩

section

variable {e : KdfEvent Hmac Cmac} {ctx ctx' : KdfCtx} {result : KdfResult} {status : Status}

/-- A failed call poisons the operation, unless it is one of the exempt ones. -/
theorem kdfMove_poisons (moved : KdfMove e ctx result ctx') (use : IsKdfUse e.call)
    (answered : result.status = some status) (error : status ≠ .success)
    (fatal : status ≠ .invalidSignature ∧ ¬ RejectedEarly e.call status) :
    ctx'.errorState = true := by
  have latch (c : KdfCtx) : (wolfpsaKdfDone c status).errorState = true := by
    rcases wolfpsaKdfDone_cases c error with poisoned | ⟨mismatch | handle, -⟩
    · exact poisoned
    · exact absurd mismatch fatal.1
    · exact absurd (.inl handle) fatal.2
  cases moved with
  | refused failed =>
    cases answered
    exact latch ctx
  | kept call =>
    cases answered
    rcases call with ⟨⟨alg, call⟩, -⟩ | capacity
    · exact absurd call (use.2 alg)
    · exact absurd (.inr capacity) fatal.2
  | lowered => exact absurd (Option.some.inj answered).symm error
  | input => exact absurd (Option.some.inj answered).symm error
  | cost => exact absurd (Option.some.inj answered).symm error
  | failed ran =>
    cases answered
    exact latch _
  | hung ran => cases answered
  | produced ran produces =>
    cases produces with
    | outputBytes => exact absurd (Option.some.inj answered).symm error
    | matched => exact absurd (Option.some.inj answered).symm error
    | mismatched => exact absurd (Option.some.inj answered).symm fatal.1
    | outputKey =>
      cases answered
      exact latch _

/-- A missing key was met before the context changed. -/
theorem kdfMove_missing_key (moved : KdfMove e ctx result ctx') {cfg : ImportConfig}
    {backend : StoreBackend} (imports : ImportsKey cfg backend e.env)
    (answered : result.status = some .invalidHandle) : ctx' = ctx := by
  cases moved with
  | refused failed =>
    cases answered
    rfl
  | kept call =>
    cases answered
    rfl
  | lowered => cases answered
  | input => cases answered
  | cost => cases answered
  | failed ran =>
    cases answered
    exact absurd rfl (wolfpsaKdfOutputBytes_error ran).2
  | hung ran => cases answered
  | produced ran produces =>
    cases produces with
    | outputBytes => cases answered
    | matched => cases answered
    | mismatched => cases answered
    | outputKey =>
      exact absurd (Option.some.inj answered) (psaImportKey_ne_invalidHandle (imports _ _))

theorem setCapacity_rejected {capacity : Nat} (call : e.call = .setCapacity capacity)
    (answered : (kdfStep (some ctx) e).1.status = some .invalidArgument) :
    (kdfStep (some ctx) e).2 = some ctx := by
  unfold kdfStep at answered ⊢
  rw [call] at answered ⊢
  dsimp only [psaKeyDerivationSetCapacity] at answered ⊢
  cases poisoned : ctx.errorState with
  | true => rfl
  | false =>
    rcases wolfpsaKdfSetCapacity_move e.env.wc ctx capacity with
      ⟨status, failed, same⟩ | ⟨within, same⟩
    · rw [same]
      by_cases argument : status = .invalidArgument
      · simp [argument]
      · simp [poisoned, same, argument, KdfResult.ofStatus] at answered
    · simp [poisoned, same, KdfResult.ofStatus] at answered

theorem kdfStep_rejected {cfg : ImportConfig} {backend : StoreBackend}
    (imports : ImportsKey cfg backend e.env) (use : IsKdfUse e.call)
    (answered : (kdfStep (some ctx) e).1.status = some status)
    (early : RejectedEarly e.call status) : (kdfStep (some ctx) e).2 = some ctx := by
  rcases early with rfl | ⟨⟨capacity, call⟩, rfl⟩
  · cases poisoned : ctx.errorState with
    | true => rw [kdfStep_errored poisoned use.1]
    | false =>
      obtain ⟨result, ctx', ran, moved⟩ := kdfStep_move poisoned use.1
      rw [ran] at answered ⊢
      rw [kdfMove_missing_key moved imports answered]
  · exact setCapacity_rejected call answered

theorem kdfStep_poisons (use : IsKdfUse e.call)
    (answered : (kdfStep (some ctx) e).1.status = some status) (error : status ≠ .success)
    (fatal : status ≠ .invalidSignature ∧ ¬ RejectedEarly e.call status) :
    ∃ ctx', (kdfStep (some ctx) e).2 = some ctx' ∧ ctx'.errorState = true := by
  cases poisoned : ctx.errorState with
  | true => exact ⟨ctx, by rw [kdfStep_errored poisoned use.1], poisoned⟩
  | false =>
    obtain ⟨result, ctx', ran, moved⟩ := kdfStep_move poisoned use.1
    rw [ran] at answered ⊢
    exact ⟨ctx', rfl, kdfMove_poisons moved use answered error fatal⟩

end

/-- The error state lasts until the abort. -/
theorem run_errored {ctx : KdfCtx} (poisoned : ctx.errorState = true)
    (later : List (KdfEvent Hmac Cmac)) (running : ∀ e ∈ later, e.call ≠ .abort) :
    (run kdfStep (some ctx) later).2 = some ctx :=
  run_state_invariant (fun operation => operation = some ctx) rfl
    (fun _ _ continues same => by rw [same, kdfStep_errored poisoned continues]) later running

/-- After any run `before` that leaves an operation active, and any use `e` of it that fails: unless
the failure is one of the exempt ones, every call up to the abort answers `PSA_ERROR_BAD_STATE`; and
a missing key, or a capacity refused as an argument, leaves the whole context as it was. -/
theorem kdf_error_state {cfg : ImportConfig} {backend : StoreBackend}
    (before : List (KdfEvent Hmac Cmac)) {operation : KdfOperation}
    (reached : (run kdfStep none before).2 = operation) (active : operation ≠ none)
    (e : KdfEvent Hmac Cmac) (imports : ImportsKey cfg backend e.env) (use : IsKdfUse e.call)
    {status : Status} (answered : (kdfStep operation e).1.status = some status)
    (error : status ≠ .success) :
    (status ≠ .invalidSignature → ¬ RejectedEarly e.call status →
      ∀ later : List (KdfEvent Hmac Cmac), (∀ e' ∈ later, e'.call ≠ .abort) →
        ∀ e' : KdfEvent Hmac Cmac, e'.call ≠ .abort →
          (kdfStep (run kdfStep none (before ++ e :: later)).2 e').1 = .ofStatus .badState) ∧
      (RejectedEarly e.call status → (run kdfStep none (before ++ [e])).2 = operation) := by
  obtain ⟨ctx, rfl⟩ := Option.ne_none_iff_exists'.mp active
  refine ⟨fun signature fatal later running e' continues => ?_, fun early => ?_⟩
  · obtain ⟨ctx', after, poisoned⟩ := kdfStep_poisons use answered error ⟨signature, fatal⟩
    rw [run_append, reached, run_cons, after, run_errored poisoned later running,
      kdfStep_errored poisoned continues]
  · rw [run_append, reached]
    exact kdfStep_rejected imports use answered early

/-- The sample derivation with `psa_import_key` on an empty Zephyr store. -/
def importingKdfEnv (cfg : ImportConfig) : KdfEnv Unit Unit :=
  { sampleKdfEnv psaKeyUsageDerive with
    importKey := fun attributes data => ((psaImportKey cfg attributes data).run
      (keyHandler zephyrBackend) (fun _ _ => calmFault) freshWorld).1 }

theorem importsKey_importingKdfEnv (cfg : ImportConfig) :
    ImportsKey cfg zephyrBackend (importingKdfEnv cfg) :=
  fun _ _ => Prog.outcome_run (fun _ _ => rfl) _ _

/-- No RSA or elliptic-curve key data is accepted. -/
def noAsymmetricKeys : ImportConfig :=
  ⟨false, ⟨fun _ _ => .error .other, fun _ _ => false, fun _ _ _ => .error .other⟩⟩

/-- HKDF takes no cost. The call that offers one puts the operation into the error state. -/
theorem kdf_error_state_cost :
    (kdfStep (run kdfStep none ([⟨importingKdfEnv noAsymmetricKeys, .setup sampleKdfAlg⟩] ++
        ⟨importingKdfEnv noAsymmetricKeys, .inputInteger .cost 1⟩ :: [])).2
      ⟨importingKdfEnv noAsymmetricKeys, .setCapacity 16⟩).1 = .ofStatus .badState :=
  (kdf_error_state [⟨importingKdfEnv noAsymmetricKeys, .setup sampleKdfAlg⟩] rfl
    (Option.isSome_iff_ne_none.mp (by decide)) ⟨importingKdfEnv noAsymmetricKeys, .inputInteger .cost 1⟩
    (importsKey_importingKdfEnv noAsymmetricKeys) ⟨by decide, fun _ => by simp⟩
    (show _ = some Status.invalidArgument by decide) (by decide)).1 (by decide)
    (by unfold RejectedEarly; simp) [] (by simp) ⟨importingKdfEnv noAsymmetricKeys, .setCapacity 16⟩
    (by decide)

end WolfPSA.Guarantees
