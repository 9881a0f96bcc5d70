import WolfPSA.Guarantees.KdfUsage
import WolfPSA.Source.KeyDerivationStreams

/-!
# The output of a derivation is one stream

Three paths serve an output call: the cache filled by the first call, the direct computation at
offset zero, and the recomputation of everything up to the end of the slice. Each delivers the next
bytes of one stream that is fixed by the algorithm, the inputs and, for SP 800-108, the capacity at
the first output call.
-/

namespace WolfPSA.Guarantees
open Lib Source

variable {Hmac Cmac : Type}

/-! ## What a call produces -/

/-- The bytes `wolfpsa_kdf_output_bytes` delivers to a call. -/
def kdfProduced (operation : KdfOperation) (e : KdfEvent Hmac Cmac) : Bytes :=
  match operation, kdfAsks e with
  | some ctx, some n =>
    match (wolfpsaKdfOutputBytes e.env ctx ⟨false, n⟩).1 with
    | .ok bytes => bytes
    | .error _ => []
  | _, _ => []

/-- The bytes a run of calls produces, in order. -/
def kdfProducedBy : KdfOperation → List (KdfEvent Hmac Cmac) → Bytes
  | _, [] => []
  | operation, e :: rest => kdfProduced operation e ++ kdfProducedBy (kdfStep operation e).2 rest

/-- The bytes a successful call produced are those it returns, compares with the expected ones, or
hands to `psa_import_key`. -/
theorem kdfProduced_spec {ctx : KdfCtx} {e : KdfEvent Hmac Cmac} (running : e.call ≠ .abort)
    (success : (kdfStep (some ctx) e).1.status = some .success) {n : Nat}
    (asks : kdfAsks e = some n) :
    KdfProduces e n (kdfProduced (some ctx) e) .success (kdfStep (some ctx) e).1 := by
  obtain ⟨-, ctx', -, quiet | ⟨m, bytes, ran, produces⟩⟩ := kdfStep_success running success
  · rw [quiet.asks] at asks
    cases asks
  · obtain rfl : m = n := Option.some.inj (produces.asks.symm.trans asks)
    have same : kdfProduced (some ctx) e = bytes := by simp [kdfProduced, asks, ran]
    rw [same]
    exact produces

/-! ## Before the first output -/

/-- Nothing was produced as long as the output has not started. -/
def Unstarted (operation : KdfOperation) : Prop :=
  ∀ ctx, operation = some ctx → ctx.outputStarted = false →
    ctx.outputOffset = 0 ∧ ctx.outputCache = none

theorem wolfpsaKdfDone_fields (ctx : KdfCtx) (status : Status) :
    (wolfpsaKdfDone ctx status).outputStarted = ctx.outputStarted ∧
      (wolfpsaKdfDone ctx status).outputOffset = ctx.outputOffset ∧
      (wolfpsaKdfDone ctx status).outputCache = ctx.outputCache := by
  unfold wolfpsaKdfDone
  split <;> exact ⟨rfl, rfl, rfl⟩

theorem unstarted_done {ctx : KdfCtx} (unstarted : Unstarted (some ctx)) (status : Status) :
    Unstarted (some (wolfpsaKdfDone ctx status)) := by
  obtain ⟨started, offset, cache⟩ := wolfpsaKdfDone_fields ctx status
  intro ctx' same early
  cases same
  rw [offset, cache]
  exact unstarted ctx rfl (started ▸ early)

theorem wolfpsaKdfOutputBytes_unstarted (env : KdfEnv Hmac Cmac) {ctx : KdfCtx}
    (unstarted : Unstarted (some ctx)) (output : OutBuf) :
    Unstarted (some (wolfpsaKdfOutputBytes env ctx output).2) := by
  have marked {c : KdfCtx} (started : c.outputStarted = true) : Unstarted (some c) := by
    intro ctx' same early
    cases same
    rw [started] at early
    cases early
  unfold wolfpsaKdfOutputBytes
  split
  · exact unstarted
  split
  · dsimp only
    split
    · split
      · exact marked rfl
      split
      · exact marked rfl
      rename_i cached filled
      have started : cached.outputStarted = true := by
        rcases kdfFillCache_ok filled with rfl | ⟨-, -, -, cache, -, rfl⟩ <;> rfl
      split
      · exact marked started
      · exact marked started
    · rename_i status reserved refused answer
      have kept : reserved.outputStarted = ctx.outputStarted ∧
          reserved.outputOffset = ctx.outputOffset ∧ reserved.outputCache = ctx.outputCache := by
        rw [show reserved = (wolfpsaKdfRequireOutput (kdfSnapshotL ctx) output.size).2 by rw [answer],
          kdfSnapshotL_eq]
        unfold wolfpsaKdfRequireOutput
        split_ifs <;> exact ⟨rfl, rfl, rfl⟩
      intro ctx' same early
      cases same
      rw [kept.2.1, kept.2.2]
      exact unstarted ctx rfl (kept.1 ▸ early)
  · exact unstarted

theorem kdfStep_none {e : KdfEvent Hmac Cmac} {ctx : KdfCtx}
    (active : (kdfStep none e).2 = some ctx) : KdfFresh e.env ctx := by
  unfold kdfStep at active
  cases call : e.call with
  | setup alg =>
    rw [call] at active
    dsimp only [psaKeyDerivationSetup] at active
    split at active
    · cases active
    · rename_i created
      cases active
      exact kdfSetupCtx_ok created
  | _ =>
    rw [call] at active
    cases active

theorem kdfMove_unstarted {e : KdfEvent Hmac Cmac} {ctx ctx' : KdfCtx} {result : KdfResult}
    (unstarted : Unstarted (some ctx)) (moved : KdfMove e ctx result ctx') :
    Unstarted (some ctx') := by
  cases moved with
  | refused => exact unstarted_done unstarted _
  | kept => exact unstarted
  | lowered =>
    intro ctx' same early
    cases same
    exact unstarted ctx rfl early
  | input =>
    intro ctx' same early
    cases same
    exact unstarted ctx rfl early
  | cost =>
    intro ctx' same early
    cases same
    exact unstarted ctx rfl early
  | @produced n _ _ _ _ ran =>
    have kept := wolfpsaKdfOutputBytes_unstarted e.env unstarted ⟨false, n⟩
    rw [ran] at kept
    exact unstarted_done kept _
  | @failed n _ _ ran =>
    have kept := wolfpsaKdfOutputBytes_unstarted e.env unstarted ⟨false, n⟩
    rw [ran] at kept
    exact unstarted_done kept _
  | @hung n _ ran =>
    have kept := wolfpsaKdfOutputBytes_unstarted e.env unstarted ⟨false, n⟩
    rw [ran] at kept
    exact kept

theorem kdfStep_unstarted {operation : KdfOperation} {e : KdfEvent Hmac Cmac}
    (unstarted : Unstarted operation) : Unstarted (kdfStep operation e).2 := by
  cases operation with
  | none =>
    intro ctx active _
    have fresh := kdfStep_none active
    exact ⟨fresh.outputOffset, fresh.outputCache⟩
  | some ctx =>
    by_cases abort : e.call = .abort
    · intro ctx' active
      simp [kdfStep, abort, psaKeyDerivationAbort] at active
    cases poisoned : ctx.errorState with
    | true =>
      rw [kdfStep_errored poisoned abort]
      exact unstarted
    | false =>
      obtain ⟨result, ctx', ran, moved⟩ := kdfStep_move poisoned abort
      rw [ran]
      exact kdfMove_unstarted unstarted moved

theorem run_unstarted (es : List (KdfEvent Hmac Cmac)) : Unstarted (run kdfStep none es).2 :=
  run_state_invariant (C := fun _ => True) Unstarted (fun _ same => by cases same)
    (fun _ _ _ unstarted => kdfStep_unstarted unstarted) es fun _ _ => trivial

/-! ## The stream -/

/-- The material of an operation whose next call is its first output call. -/
def firstMaterial (ctx : KdfCtx) : KdfMaterial := { ctx.material with lBytes := ctx.capacity }

theorem overlong_mono {ctx : KdfCtx} {m n : Nat} (long : Overlong ctx m) (le : m ≤ n) :
    Overlong ctx n := by
  obtain ⟨derives, alg, bound⟩ := long
  exact ⟨derives, alg, by omega⟩

/-- What an operation has produced and cached, against the stream `s`. -/
structure StreamState (s : Nat → Byte) (ctx : KdfCtx) (produced : Bytes) : Prop where
  exact : ¬ Overlong ctx ctx.outputOffset → produced = firstN s ctx.outputOffset
  begins : ∃ k, produced = firstN s k
  cached : ∀ cache, ctx.outputCache = some cache →
    cache = firstN s cache.length ∧ cache.length ≤ wolfpsaKdfMaxCacheBytes

theorem not_overlong_of_le {ctx : KdfCtx} {n : Nat} (small : n ≤ wolfpsaKdfMaxCacheBytes) :
    ¬ Overlong ctx n := by
  rintro ⟨-, -, long⟩
  unfold wolfpsaKdfMaxCacheBytes at small
  unfold sizeMax at long
  omega

/-- The whole slice a raw derivation reads is there. -/
theorem rawSlice {ctx : KdfCtx} {n : Nat} (complete : kdfInputsComplete ctx n = .success)
    (raw : ctx.isRawKdf = true) : ctx.outputOffset + n ≤ (ctx.inputs .secret).length := by
  unfold kdfInputsComplete at complete
  rw [if_pos raw] at complete
  split at complete
  · cases complete
  · rename_i enough
    simp only [Bool.or_eq_true, Bool.not_eq_true', decide_eq_true_eq, not_or] at enough
    omega

theorem kdfFillCache_stream {env : KdfEnv Hmac Cmac} {spec : KdfSpec}
    (computes : Computes spec env.wc) {ctx cached : KdfCtx} {n : Nat}
    (old : ∀ cache, ctx.outputCache = some cache →
      cache = firstN (kdfStream spec ctx.material) cache.length ∧
        cache.length ≤ wolfpsaKdfMaxCacheBytes)
    (filled : kdfFillCache env ctx n = .ok cached) :
    cached.material = ctx.material ∧ cached.isRawKdf = ctx.isRawKdf ∧ cached.alg = ctx.alg ∧
      cached.outputOffset = ctx.outputOffset ∧ cached.outputStarted = ctx.outputStarted ∧
      ∀ cache, cached.outputCache = some cache →
        cache = firstN (kdfStream spec ctx.material) cache.length ∧
          cache.length ≤ wolfpsaKdfMaxCacheBytes := by
  rcases kdfFillCache_ok filled with rfl | ⟨derives, -, small, cache, computed, rfl⟩
  · exact ⟨rfl, rfl, rfl, rfl, rfl, old⟩
  · refine ⟨rfl, rfl, rfl, rfl, rfl, fun cache' same => ?_⟩
    cases same
    have word : n + ctx.capacity ≤ sizeMax := by
      unfold wolfpsaKdfMaxCacheBytes at small
      unfold sizeMax
      omega
    have whole := wolfpsaKdfComputeOutput_stream computes word
      (fun raw => by rw [derives] at raw; cases raw) (not_overlong_of_le small) computed
    have length : cache.length = n + ctx.capacity := by rw [whole, length_firstN]
    rw [length]
    exact ⟨whole, small⟩

/-- A delivery that reaches past the lengths PBKDF2-AES-CMAC can count is empty. -/
theorem kdfDeliver_overlong {env : KdfEnv Hmac Cmac} {spec : KdfSpec}
    (computes : Computes spec env.wc) {ctx : KdfCtx} {n : Nat} {bytes : Bytes}
    (total : ctx.outputOffset + n ≤ sizeMax)
    (small : ∀ cache, ctx.outputCache = some cache → cache.length ≤ wolfpsaKdfMaxCacheBytes)
    (long : Overlong ctx (ctx.outputOffset + n)) (delivered : kdfDeliver env ctx n = .ok bytes) :
    bytes = [] := by
  unfold kdfDeliver at delivered
  split at delivered
  · rename_i cache present
    split at delivered
    · cases delivered
    · have bound := small cache present
      exact absurd long (not_overlong_of_le (by omega))
  split at delivered
  · rename_i start
    have zero : ctx.outputOffset = 0 := by simpa using start
    rw [zero, Nat.zero_add] at long total
    exact wolfpsaKdfComputeOutput_overlong computes total long delivered
  split at delivered
  · cases delivered
  · obtain ⟨full, computed, same⟩ := except_bind_ok delivered
    cases same
    rw [wolfpsaKdfComputeOutput_overlong computes total long computed]
    simp

/-- Each of the three paths delivers the next bytes of the stream. -/
theorem kdfDeliver_stream {env : KdfEnv Hmac Cmac} {spec : KdfSpec}
    (computes : Computes spec env.wc) {ctx : KdfCtx} {n : Nat} {bytes : Bytes}
    (total : ctx.outputOffset + n ≤ sizeMax)
    (raw : ctx.isRawKdf = true → ctx.outputOffset + n ≤ (ctx.inputs .secret).length)
    (old : ∀ cache, ctx.outputCache = some cache →
      cache = firstN (kdfStream spec ctx.material) cache.length)
    (short : ¬ Overlong ctx (ctx.outputOffset + n)) (delivered : kdfDeliver env ctx n = .ok bytes) :
    bytes = firstN (fun i => kdfStream spec ctx.material (ctx.outputOffset + i)) n := by
  unfold kdfDeliver at delivered
  split at delivered
  · -- the cache
    rename_i cache present
    split at delivered
    · cases delivered
    rename_i inside
    cases delivered
    obtain ⟨rest, length⟩ := Nat.exists_eq_add_of_le (Nat.le_of_not_gt inside)
    rw [old cache present, length, Nat.add_assoc, drop_firstN, take_firstN _ (by omega)]
  split at delivered
  · -- the direct computation
    rename_i start
    have zero : ctx.outputOffset = 0 := by simpa using start
    rw [zero, Nat.zero_add] at short total raw
    rw [zero]
    simpa using wolfpsaKdfComputeOutput_stream computes total raw short delivered
  split at delivered
  · cases delivered
  · -- the recomputation
    obtain ⟨full, computed, same⟩ := except_bind_ok delivered
    cases same
    rw [wolfpsaKdfComputeOutput_stream computes total raw short computed, drop_firstN,
      take_firstN _ (Nat.le_refl n)]

theorem overlong_congr {ctx ctx' : KdfCtx} (raw : ctx'.isRawKdf = ctx.isRawKdf)
    (alg : ctx'.alg = ctx.alg) (n : Nat) : Overlong ctx' n ↔ Overlong ctx n := by
  unfold Overlong
  rw [raw, alg]

section

variable {spec : KdfSpec} {e : KdfEvent Hmac Cmac} {ctx ctx' : KdfCtx} {produced : Bytes}

/-- One delivery extends the beginning of the stream. -/
theorem kdfDelivered_stream {env : KdfEnv Hmac Cmac} {n : Nat} {bytes : Bytes}
    (computes : Computes spec env.wc)
    (state : StreamState (kdfStream spec (kdfStarted ctx n).material) ctx produced)
    (delivered : KdfDelivered env ctx n bytes ctx') :
    StreamState (kdfStream spec (kdfStarted ctx n).material) ctx' (produced ++ bytes) ∧
      ctx'.material = (kdfStarted ctx n).material ∧ ctx'.outputStarted = true ∧
      ctx'.outputOffset = ctx.outputOffset + n := by
  obtain ⟨complete, -, total, cached, filled, deliver, rfl⟩ := delivered
  have before : ∀ cache, (kdfStarted ctx n).outputCache = some cache →
      cache = firstN (kdfStream spec (kdfStarted ctx n).material) cache.length ∧
        cache.length ≤ wolfpsaKdfMaxCacheBytes := state.cached
  obtain ⟨material, raw, alg, offset, started, old⟩ := kdfFillCache_stream computes before filled
  have offset' : cached.outputOffset = ctx.outputOffset := offset
  have inputs : cached.inputs = ctx.inputs := congrArg KdfMaterial.inputs material
  have sameLong (k : Nat) : Overlong cached k ↔ Overlong ctx k := overlong_congr raw alg k
  have slice : cached.isRawKdf = true → cached.outputOffset + n ≤ (cached.inputs .secret).length := by
    intro isRaw
    rw [offset', inputs]
    exact rawSlice complete (raw.symm.trans isRaw)
  rw [← offset'] at total
  refine ⟨⟨fun short => ?_, ?_, old⟩, material, started, by rw [← offset']⟩
  · have short' : ¬ Overlong cached (cached.outputOffset + n) := short
    have before : ¬ Overlong ctx ctx.outputOffset := by
      intro long
      exact short' ((sameLong _).mpr (overlong_mono long (by omega)))
    rw [kdfDeliver_stream computes total slice
      (fun cache present => material ▸ (old cache present).1) short' deliver, material, offset',
      state.exact before, ← firstN_add]
  · by_cases long : Overlong cached (cached.outputOffset + n)
    · rw [kdfDeliver_overlong computes total (fun cache present => (old cache present).2) long deliver,
        List.append_nil]
      exact state.begins
    · have before : ¬ Overlong ctx ctx.outputOffset := by
        intro long'
        exact long ((sameLong _).mpr (overlong_mono long' (by omega)))
      refine ⟨ctx.outputOffset + n, ?_⟩
      rw [kdfDeliver_stream computes total slice
        (fun cache present => material ▸ (old cache present).1) long deliver, material, offset',
        state.exact before, ← firstN_add]

/-- Once the output has started only the capacity still changes quietly. -/
theorem kdfQuiet_started (started : ctx.outputStarted = true) (quiet : KdfQuiet e ctx ctx') :
    ∃ capacity, ctx' = { ctx with capacity := capacity } := by
  cases quiet with
  | @lowered capacity => exact ⟨capacity, rfl⟩
  | input gives admits =>
    rw [admits.early] at started
    cases started
  | cost call early =>
    rw [early] at started
    cases started

theorem kdfStarted_material (started : ctx.outputStarted = true) (n : Nat) :
    (kdfStarted ctx n).material = ctx.material := by
  have snapshot : kdfLAfter ctx = ctx.sp800_108LBytes := by
    unfold kdfLAfter kdfSnapshotL
    rw [if_neg (by simp [started])]
  unfold KdfCtx.material kdfStarted
  rw [snapshot]
  rfl

theorem kdfProduced_of_ran {n : Nat} {bytes : Bytes} (asks : kdfAsks e = some n)
    (ran : wolfpsaKdfOutputBytes e.env ctx ⟨false, n⟩ = (.ok bytes, ctx')) :
    kdfProduced (some ctx) e = bytes := by
  simp [kdfProduced, asks, ran]

/-- After the first output call, every run of successful calls goes on with the stream. -/
theorem kdfSucceed_stream {es : List (KdfEvent Hmac Cmac)}
    (computes : ∀ e ∈ es, Computes spec e.env.wc) (started : ctx.outputStarted = true)
    (state : StreamState (kdfStream spec ctx.material) ctx produced)
    (succeed : KdfSucceed (some ctx) es) :
    ∃ ctx', StreamState (kdfStream spec ctx.material) ctx' (produced ++ kdfProducedBy (some ctx) es) ∧
      ctx'.outputOffset = ctx.outputOffset + kdfTotal es := by
  induction es generalizing ctx produced with
  | nil => exact ⟨ctx, by simpa [kdfProducedBy] using state, by simp [kdfTotal]⟩
  | cons e rest ih =>
    obtain ⟨running, success, later⟩ := succeed
    obtain ⟨-, mid, after, move⟩ := kdfStep_success running success
    have computesRest : ∀ e' ∈ rest, Computes spec e'.env.wc :=
      fun e' member => computes e' (List.mem_cons_of_mem e member)
    have total : kdfTotal (e :: rest) = (kdfAsks e).getD 0 + kdfTotal rest := by simp [kdfTotal]
    rw [kdfProducedBy, after, total]
    rw [after] at later
    rcases move with quiet | ⟨n, bytes, ran, produces⟩
    · have silent : kdfProduced (some ctx) e = [] := by simp [kdfProduced, quiet.asks]
      rw [silent, quiet.asks]
      obtain ⟨capacity, rfl⟩ := kdfQuiet_started started quiet
      have lowered : StreamState (kdfStream spec ctx.material)
        { ctx with capacity := capacity } produced := ⟨state.exact, state.begins, state.cached⟩
      have startedLow : ({ ctx with capacity := capacity } : KdfCtx).outputStarted = true := started
      obtain ⟨last, kept, offset⟩ := ih computesRest startedLow lowered later
      refine ⟨last, kept, ?_⟩
      rw [offset, Option.getD_none, Nat.zero_add]
    · have material := kdfStarted_material started n
      rw [kdfProduced_of_ran produces.asks ran, produces.asks, ← List.append_assoc]
      rw [← material] at state ⊢
      obtain ⟨extended, same, midStarted, offset⟩ := kdfDelivered_stream
        (computes e List.mem_cons_self) state (wolfpsaKdfOutputBytes_ok ran)
      rw [← same] at extended ⊢
      obtain ⟨last, kept, lastOffset⟩ := ih computesRest midStarted extended later
      refine ⟨last, kept, ?_⟩
      rw [lastOffset, offset, Option.getD_some, Nat.add_assoc]

end

/-! ## Two runs -/

/-- An operation as some run of calls left it before its first output, and a run of successful calls
on it that begins with an output call. -/
structure OutputRun (spec : KdfSpec) (ctx : KdfCtx) (es : List (KdfEvent Hmac Cmac)) : Prop where
  reached : ∃ before : List (KdfEvent Hmac Cmac), (run kdfStep none before).2 = some ctx
  early : ctx.outputStarted = false
  opens : ∃ e rest, es = e :: rest ∧ (kdfAsks e).isSome
  computes : ∀ e ∈ es, Computes spec e.env.wc
  succeed : KdfSucceed (some ctx) es

/-- The same algorithm and inputs and, for SP 800-108, the same capacity. -/
structure SameDerivation (ctx ctx' : KdfCtx) : Prop where
  alg : ctx'.alg = ctx.alg
  isRawKdf : ctx'.isRawKdf = ctx.isRawKdf
  inputs : ctx'.inputs = ctx.inputs
  otherSecret : ctx'.isSet .otherSecret = ctx.isSet .otherSecret
  cost : ctx'.cost = ctx.cost
  capacity : isCounterKdf ctx.material = true → ctx'.capacity = ctx.capacity

theorem kdfStream_started (spec : KdfSpec) {ctx : KdfCtx} (early : ctx.outputStarted = false)
    (n : Nat) : kdfStream spec (kdfStarted ctx n).material = kdfStream spec (firstMaterial ctx) := by
  have shape : (kdfStarted ctx n).material = { ctx.material with lBytes := kdfLAfter ctx } := rfl
  rw [shape]
  cases counter : isCounterKdf ctx.material with
  | true =>
    have snapshot : kdfLAfter ctx = ctx.capacity := by
      unfold kdfLAfter kdfSnapshotL
      simp only [isCounterKdf, KdfCtx.material] at counter
      rw [if_pos (by simp [counter, early])]
    rw [snapshot]
    rfl
  | false => exact (kdfStream_lBytes spec counter _).trans (kdfStream_lBytes spec counter _).symm

theorem kdfStream_same (spec : KdfSpec) {ctx ctx' : KdfCtx} (same : SameDerivation ctx ctx') :
    kdfStream spec (firstMaterial ctx') = kdfStream spec (firstMaterial ctx) := by
  have shape : ctx'.material = { ctx.material with lBytes := ctx'.sp800_108LBytes } := by
    unfold KdfCtx.material
    rw [same.alg, same.isRawKdf, same.inputs, same.otherSecret, same.cost]
  have first : firstMaterial ctx' = { ctx.material with lBytes := ctx'.capacity } := by
    rw [firstMaterial, shape]
  rw [first]
  cases counter : isCounterKdf ctx.material with
  | true =>
    rw [same.capacity counter]
    rfl
  | false => exact (kdfStream_lBytes spec counter _).trans (kdfStream_lBytes spec counter _).symm

/-- A run of output calls produces a beginning of the stream of its material, and all the bytes it
asked for unless PBKDF2-AES-CMAC cannot count them. -/
theorem OutputRun.stream {spec : KdfSpec} {ctx : KdfCtx} {es : List (KdfEvent Hmac Cmac)}
    (output : OutputRun spec ctx es) :
    (kdfTotal es + 15 ≤ sizeMax → kdfProducedBy (some ctx) es =
      firstN (kdfStream spec (firstMaterial ctx)) (kdfTotal es)) ∧
      ∃ k, kdfProducedBy (some ctx) es = firstN (kdfStream spec (firstMaterial ctx)) k := by
  obtain ⟨⟨before, reached⟩, early, ⟨e, rest, rfl, asks⟩, computes, running, success, later⟩ := output
  obtain ⟨offset, cache⟩ := run_unstarted before ctx reached early
  obtain ⟨-, mid, after, quiet | ⟨n, bytes, ran, produces⟩⟩ := kdfStep_success running success
  · rw [quiet.asks] at asks
    cases asks
  have initially : StreamState (kdfStream spec (kdfStarted ctx n).material) ctx [] :=
    ⟨fun _ => by rw [offset]; rfl, ⟨0, rfl⟩, by simp [cache]⟩
  obtain ⟨extended, material, midStarted, midOffset⟩ := kdfDelivered_stream
    (computes e List.mem_cons_self) initially (wolfpsaKdfOutputBytes_ok ran)
  rw [after] at later
  rw [← material] at extended
  obtain ⟨last, state, lastOffset⟩ := kdfSucceed_stream
    (fun e' member => computes e' (List.mem_cons_of_mem e member)) midStarted extended later
  have whole : kdfProducedBy (some ctx) (e :: rest) = [] ++ bytes ++ kdfProducedBy (some mid) rest := by
    rw [kdfProducedBy, after, kdfProduced_of_ran produces.asks ran, List.nil_append]
  have total : last.outputOffset = kdfTotal (e :: rest) := by
    rw [lastOffset, midOffset, offset, Nat.zero_add]
    simp [kdfTotal, produces.asks]
  rw [material, kdfStream_started spec early] at state
  rw [whole]
  refine ⟨fun fits => ?_, state.begins⟩
  rw [← total]
  refine state.exact ?_
  rintro ⟨-, -, long⟩
  omega

/-- Any two runs of output calls on operations with the same algorithm and inputs (and, for
SP 800-108, the same capacity at the first output call) produce beginnings of one stream, so that
one is a beginning of the other; every call of such a run returns, compares or imports just the
bytes counted here. -/
theorem kdf_output_one_stream {spec : KdfSpec} {ctx₁ ctx₂ : KdfCtx}
    {es₁ es₂ : List (KdfEvent Hmac Cmac)} (same : SameDerivation ctx₁ ctx₂)
    (run₁ : OutputRun spec ctx₁ es₁) (run₂ : OutputRun spec ctx₂ es₂) :
    ∃ n₁ n₂,
      kdfProducedBy (some ctx₁) es₁ = firstN (kdfStream spec (firstMaterial ctx₁)) n₁ ∧
      kdfProducedBy (some ctx₂) es₂ = firstN (kdfStream spec (firstMaterial ctx₁)) n₂ ∧
      (kdfTotal es₁ + 15 ≤ sizeMax → n₁ = kdfTotal es₁) ∧
      (kdfTotal es₂ + 15 ≤ sizeMax → n₂ = kdfTotal es₂) ∧
      (kdfProducedBy (some ctx₁) es₁ <+: kdfProducedBy (some ctx₂) es₂ ∨
        kdfProducedBy (some ctx₂) es₂ <+: kdfProducedBy (some ctx₁) es₁) ∧
      ∀ before e after ctx n, es₁ = before ++ e :: after →
        (run kdfStep (some ctx₁) before).2 = some ctx → kdfAsks e = some n →
        KdfProduces e n (kdfProduced (some ctx) e) .success (kdfStep (some ctx) e).1 := by
  obtain ⟨all₁, k₁, begins₁⟩ := run₁.stream
  obtain ⟨all₂, k₂, begins₂⟩ := run₂.stream
  rw [kdfStream_same spec same] at all₂ begins₂
  refine ⟨k₁, k₂, begins₁, begins₂, fun fits => ?_, fun fits => ?_, ?_, ?_⟩
  · have lengths := congrArg List.length (begins₁.symm.trans (all₁ fits))
    simpa using lengths
  · have lengths := congrArg List.length (begins₂.symm.trans (all₂ fits))
    simpa using lengths
  · rw [begins₁, begins₂]
    rcases Nat.le_total k₁ k₂ with le | le
    · exact .inl (firstN_isPrefix _ le)
    · exact .inr (firstN_isPrefix _ le)
  · intro before e after ctx n split reached asks
    have succeed := run₁.succeed
    rw [split, kdfSucceed_append, reached] at succeed
    obtain ⟨running, success, -⟩ := succeed.2
    exact kdfProduced_spec running success asks

/-- The functions `sampleWcKdf` computes. -/
def sampleKdfSpec : KdfSpec where
  digestSize := sampleWcKdf.hashGetDigestSize
  extract := fun _ _ _ => samplePrk
  expand := fun _ _ _ => ofList sampleOkm
  prfTls := fun _ _ _ _ => ofList []
  pbkdf2 := fun _ _ _ _ => ofList []
  hmac := fun _ _ _ => []
  cmac := fun _ _ => []

theorem computes_sampleKdfSpec : Computes sampleKdfSpec sampleWcKdf where
  digestSize _ := rfl
  extract {hash salt secret prk} extracted := by
    unfold sampleWcKdf at extracted
    dsimp only at extracted
    split at extracted
    · rename_i known
      cases extracted
      rw [known.1]
      exact ⟨rfl, by decide⟩
    · cases extracted
  expand {hash prk info length okm} expanded := by
    unfold sampleWcKdf at expanded
    dsimp only at expanded
    split at expanded
    · rename_i known
      cases expanded
      rw [known.2.2.2]
      show sampleOkm = firstN (ofList sampleOkm) 32
      decide
    · cases expanded
  prfTls failed := by cases failed
  pbkdf2 failed := by cases failed
  hmac failed := by cases failed
  cmac failed := by cases failed

/-- Calls with the sample key. -/
def sampleEvents (calls : List KdfCall) : List (KdfEvent Unit Unit) :=
  calls.map (⟨sampleKdfEnv psaKeyUsageDerive, ·⟩)

/-- HKDF-SHA-256 over 32 bytes, ready for its first output call. -/
def hkdfReady : KdfOperation :=
  (run kdfStep none (sampleEvents [.setup sampleKdfAlg, .setCapacity 32,
    .inputKey .secret psaKeyIdVendorMin, .inputBytes .info (.data [])])).2

/-- Two ways to read HKDF-SHA-256: at once, and after an empty call and a lowered capacity. -/
theorem kdf_output_one_stream_hkdf :
    kdfProducedBy hkdfReady (sampleEvents [.outputBytes ⟨false, 32⟩]) <+:
        kdfProducedBy hkdfReady
          (sampleEvents [.outputBytes ⟨false, 0⟩, .setCapacity 30, .outputBytes ⟨false, 30⟩]) ∨
      kdfProducedBy hkdfReady
          (sampleEvents [.outputBytes ⟨false, 0⟩, .setCapacity 30, .outputBytes ⟨false, 30⟩]) <+:
        kdfProducedBy hkdfReady (sampleEvents [.outputBytes ⟨false, 32⟩]) := by
  have computes (calls : List KdfCall) :
      ∀ e ∈ sampleEvents calls, Computes sampleKdfSpec e.env.wc := by
    intro e member
    obtain ⟨call, -, rfl⟩ := List.mem_map.mp member
    exact computes_sampleKdfSpec
  have reached : hkdfReady = some _ := rfl
  have once : OutputRun sampleKdfSpec _ (sampleEvents [.outputBytes ⟨false, 32⟩]) :=
    ⟨⟨_, reached⟩, rfl, ⟨_, _, rfl, by decide⟩, computes _, ⟨by decide, by decide, trivial⟩⟩
  have pieces : OutputRun sampleKdfSpec _
      (sampleEvents [.outputBytes ⟨false, 0⟩, .setCapacity 30, .outputBytes ⟨false, 30⟩]) :=
    ⟨⟨_, reached⟩, rfl, ⟨_, _, rfl, by decide⟩, computes _,
      ⟨by decide, by decide, by decide, by decide, by decide, by decide, trivial⟩⟩
  obtain ⟨-, -, -, -, -, -, agree, -⟩ :=
    kdf_output_one_stream ⟨rfl, rfl, rfl, rfl, rfl, fun _ => rfl⟩ once pieces
  exact agree

end WolfPSA.Guarantees
