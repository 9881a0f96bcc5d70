import WolfPSA.Guarantees.KdfUsage
import WolfPSA.Source.KeyDerivationStreams

/-!
# Capacity accounting of a derivation

Capacity, output offset and cache length are three counters that one output call moves at different
points and `psa_key_derivation_set_capacity` moves in between. `CapacityState` ties them together;
every successful call keeps it.
-/

namespace WolfPSA.Guarantees
open Lib Source

variable {Hmac Cmac : Type}

/-- The counters of an operation set up with capacity `start` that has produced `spent` bytes. -/
structure CapacityState (start spent : Nat) (ctx : KdfCtx) : Prop where
  bounded : start ≤ sizeMax
  offset : ctx.outputOffset = spent
  fits : spent ≤ sizeMax
  lowered : ctx.capacity ≤ start
  spent_le : start ≠ psaKeyDerivationUnlimitedCapacity → spent + ctx.capacity ≤ start
  cached : ∀ cache, ctx.outputCache = some cache →
    ctx.outputOffset + ctx.capacity ≤ cache.length ∧ cache.length ≤ wolfpsaKdfMaxCacheBytes

/-- The bytes ever produced stay within the capacity of the setup. -/
theorem CapacityState.within {start spent : Nat} {ctx : KdfCtx}
    (state : CapacityState start spent ctx) : spent ≤ start := by
  by_cases unlimited : start = psaKeyDerivationUnlimitedCapacity
  · rw [unlimited]
    exact state.fits
  · have total := state.spent_le unlimited
    omega

theorem CapacityState.limited {start spent : Nat} {ctx : KdfCtx}
    (state : CapacityState start spent ctx) (limited : start ≠ psaKeyDerivationUnlimitedCapacity) :
    ctx.capacity ≠ psaKeyDerivationUnlimitedCapacity := by
  have bounded := state.bounded
  have lowered := state.lowered
  unfold psaKeyDerivationUnlimitedCapacity at limited ⊢
  omega

/-! ## One call -/

theorem kdfCapacityAfter_add {capacity n : Nat}
    (granted : capacity = psaKeyDerivationUnlimitedCapacity ∨ n ≤ capacity)
    (limited : capacity ≠ psaKeyDerivationUnlimitedCapacity) :
    n + kdfCapacityAfter capacity n = capacity := by
  unfold kdfCapacityAfter
  rw [if_neg limited]
  have enough := granted.resolve_left limited
  omega

theorem kdfCapacityAfter_le (capacity n : Nat) : kdfCapacityAfter capacity n ≤ capacity := by
  unfold kdfCapacityAfter
  split <;> omega

/-- The slice an output call reads lies inside the cache, be it old or just filled. -/
theorem CapacityState.slice {start spent : Nat} {ctx : KdfCtx}
    (state : CapacityState start spent ctx) {env : KdfEnv Hmac Cmac} (exact : ExactLengths env.wc)
    {n : Nat} (granted : ctx.capacity = psaKeyDerivationUnlimitedCapacity ∨ n ≤ ctx.capacity)
    {cached : KdfCtx} (filled : kdfFillCache env (kdfStarted ctx n) n = .ok cached) :
    ∀ cache, cached.outputCache = some cache →
      ctx.outputOffset + n + kdfCapacityAfter ctx.capacity n ≤ cache.length ∧
        cache.length ≤ wolfpsaKdfMaxCacheBytes := by
  rcases kdfFillCache_ok filled with rfl | ⟨derives, first, small, cache, computed, rfl⟩
  · intro cache present
    obtain ⟨covered, small⟩ := state.cached cache present
    have limited : ctx.capacity ≠ psaKeyDerivationUnlimitedCapacity := by
      unfold psaKeyDerivationUnlimitedCapacity sizeMax
      unfold wolfpsaKdfMaxCacheBytes at small
      omega
    have total := kdfCapacityAfter_add granted limited
    refine ⟨?_, small⟩
    omega
  · intro cache' same
    cases same
    have length : cache.length = n + kdfCapacityAfter ctx.capacity n := by
      refine wolfpsaKdfComputeOutput_length exact derives ?_ computed
      have fits : n + kdfCapacityAfter ctx.capacity n ≤ wolfpsaKdfMaxCacheBytes := small
      unfold wolfpsaKdfMaxCacheBytes at fits
      unfold wcAesBlockSize sizeMax
      omega
    have start : ctx.outputOffset = 0 := first
    refine ⟨?_, ?_⟩
    · omega
    · rw [length]
      exact small

theorem kdfFillCache_capacity {env : KdfEnv Hmac Cmac} {ctx cached : KdfCtx} {n : Nat}
    (filled : kdfFillCache env ctx n = .ok cached) :
    cached.capacity = ctx.capacity ∧ cached.outputOffset = ctx.outputOffset := by
  rcases kdfFillCache_ok filled with rfl | ⟨-, -, -, cache, -, rfl⟩
  · exact ⟨rfl, rfl⟩
  · exact ⟨rfl, rfl⟩

theorem kdfDelivered_state {start spent n : Nat} {env : KdfEnv Hmac Cmac} {ctx ctx₁ : KdfCtx}
    {bytes : Bytes} (exact : ExactLengths env.wc) (state : CapacityState start spent ctx)
    (delivered : KdfDelivered env ctx n bytes ctx₁) : CapacityState start (spent + n) ctx₁ := by
  obtain ⟨-, granted, total, cached, filled, -, rfl⟩ := delivered
  obtain ⟨capacity, offset⟩ := kdfFillCache_capacity filled
  have slice := state.slice exact granted filled
  have before := state.offset
  have low := kdfCapacityAfter_le ctx.capacity n
  have start_le := state.lowered
  refine ⟨state.bounded, ?_, ?_, ?_, ?_, ?_⟩
  · show cached.outputOffset + n = spent + n
    rw [offset]
    show ctx.outputOffset + n = spent + n
    rw [before]
  · omega
  · show cached.capacity ≤ start
    rw [capacity]
    exact Nat.le_trans low start_le
  · intro limitedStart
    have spent_le := state.spent_le limitedStart
    have limited := state.limited limitedStart
    have sum := kdfCapacityAfter_add granted limited
    show spent + n + cached.capacity ≤ start
    rw [capacity]
    show spent + n + kdfCapacityAfter ctx.capacity n ≤ start
    omega
  · intro cache present
    obtain ⟨covered, small⟩ := slice cache present
    refine ⟨?_, small⟩
    show cached.outputOffset + n + cached.capacity ≤ cache.length
    rw [offset, capacity]
    exact covered

theorem kdfQuiet_state {start spent : Nat} {e : KdfEvent Hmac Cmac} {ctx ctx' : KdfCtx}
    (state : CapacityState start spent ctx) (quiet : KdfQuiet e ctx ctx') :
    CapacityState start spent ctx' := by
  cases quiet with
  | input => exact ⟨state.bounded, state.offset, state.fits, state.lowered, state.spent_le, state.cached⟩
  | cost => exact ⟨state.bounded, state.offset, state.fits, state.lowered, state.spent_le, state.cached⟩
  | @lowered capacity call within =>
    refine ⟨state.bounded, state.offset, state.fits, ?_, ?_, ?_⟩
    · exact Nat.le_trans within state.lowered
    · intro limited
      have total := state.spent_le limited
      show spent + capacity ≤ start
      omega
    · intro cache present
      obtain ⟨covered, small⟩ := state.cached cache present
      refine ⟨?_, small⟩
      show ctx.outputOffset + capacity ≤ cache.length
      omega

theorem kdfStep_state {start spent : Nat} {e : KdfEvent Hmac Cmac} {ctx ctx' : KdfCtx}
    (exact : ExactLengths e.env.wc) (running : e.call ≠ .abort)
    (state : CapacityState start spent ctx)
    (success : (kdfStep (some ctx) e).1.status = some .success)
    (after : (kdfStep (some ctx) e).2 = some ctx') :
    CapacityState start (spent + (kdfAsks e).getD 0) ctx' := by
  obtain ⟨-, ctx'', same, move⟩ := kdfStep_success running success
  obtain rfl : ctx' = ctx'' := Option.some.inj (after.symm.trans same)
  rcases move with quiet | ⟨n, bytes, ran, produces⟩
  · rw [quiet.asks]
    exact kdfQuiet_state state quiet
  · rw [produces.asks]
    exact kdfDelivered_state exact state (wolfpsaKdfOutputBytes_ok ran)

/-- How one successful call moves the capacity. -/
theorem kdfStep_capacity {e : KdfEvent Hmac Cmac} {ctx ctx' : KdfCtx} (running : e.call ≠ .abort)
    (success : (kdfStep (some ctx) e).1.status = some .success)
    (after : (kdfStep (some ctx) e).2 = some ctx') :
    ctx'.capacity ≤ ctx.capacity ∧ ((∀ capacity, e.call ≠ .setCapacity capacity) →
      (ctx.capacity = psaKeyDerivationUnlimitedCapacity →
        ctx'.capacity = psaKeyDerivationUnlimitedCapacity) ∧
      (ctx.capacity ≠ psaKeyDerivationUnlimitedCapacity →
        (kdfAsks e).getD 0 + ctx'.capacity = ctx.capacity)) := by
  obtain ⟨-, ctx'', same, move⟩ := kdfStep_success running success
  obtain rfl : ctx' = ctx'' := Option.some.inj (after.symm.trans same)
  rcases move with quiet | ⟨n, bytes, ran, produces⟩
  · have silent := quiet.asks
    cases quiet with
    | lowered call within => exact ⟨within, fun other => absurd call (other _)⟩
    | input => exact ⟨Nat.le_refl _, fun _ => ⟨fun same => same, fun _ => by simp [silent, KdfCtx.take]⟩⟩
    | cost => exact ⟨Nat.le_refl _, fun _ => ⟨fun same => same, fun _ => by simp [silent]⟩⟩
  · obtain ⟨-, granted, -, cached, filled, -, rfl⟩ := wolfpsaKdfOutputBytes_ok ran
    have capacity : cached.capacity = kdfCapacityAfter ctx.capacity n :=
      (kdfFillCache_capacity filled).1
    show cached.capacity ≤ ctx.capacity ∧ _
    refine ⟨?_, fun _ => ⟨fun unlimited => ?_, fun limited => ?_⟩⟩
    · rw [capacity]
      exact kdfCapacityAfter_le _ _
    · show cached.capacity = _
      rw [capacity, kdfCapacityAfter, if_pos unlimited, unlimited]
    · show _ + cached.capacity = _
      rw [capacity, produces.asks]
      exact kdfCapacityAfter_add granted limited

/-! ## Runs -/

/-- How a run of successful calls moves the capacity. -/
theorem kdfSucceed_capacity {es : List (KdfEvent Hmac Cmac)} {ctx ctx' : KdfCtx}
    (bounded : ctx.capacity ≤ sizeMax) (succeed : KdfSucceed (some ctx) es)
    (reached : (run kdfStep (some ctx) es).2 = some ctx') :
    ctx'.capacity ≤ ctx.capacity ∧ ((∀ e ∈ es, ∀ capacity, e.call ≠ .setCapacity capacity) →
      (ctx.capacity = psaKeyDerivationUnlimitedCapacity →
        ctx'.capacity = psaKeyDerivationUnlimitedCapacity) ∧
      (ctx.capacity ≠ psaKeyDerivationUnlimitedCapacity →
        kdfTotal es + ctx'.capacity = ctx.capacity)) := by
  induction es generalizing ctx with
  | nil =>
    cases reached
    exact ⟨Nat.le_refl _, fun _ => ⟨fun same => same, fun _ => by simp [kdfTotal]⟩⟩
  | cons e rest ih =>
    obtain ⟨running, success, later⟩ := succeed
    obtain ⟨-, mid, after, -⟩ := kdfStep_success running success
    rw [run_cons] at reached
    rw [after] at later reached
    obtain ⟨low, exactly⟩ := kdfStep_capacity running success after
    obtain ⟨lowRest, exactlyRest⟩ := ih (Nat.le_trans low bounded) later reached
    refine ⟨Nat.le_trans lowRest low, fun none => ?_⟩
    obtain ⟨stays, moves⟩ := exactly (none e List.mem_cons_self)
    obtain ⟨staysRest, movesRest⟩ := exactlyRest fun e' member =>
      none e' (List.mem_cons_of_mem e member)
    refine ⟨fun unlimited => staysRest (stays unlimited), fun limited => ?_⟩
    have here := moves limited
    have midLimited : mid.capacity ≠ psaKeyDerivationUnlimitedCapacity := by
      unfold psaKeyDerivationUnlimitedCapacity at limited ⊢
      omega
    have there := movesRest midLimited
    have total : kdfTotal (e :: rest) = (kdfAsks e).getD 0 + kdfTotal rest := by simp [kdfTotal]
    omega

/-- The capacity `psa_key_derivation_setup` gives. -/
structure SetupCapacity (wc : WcKdf Hmac Cmac) (ctx : KdfCtx) : Prop where
  extract : psaAlgIsHkdfExtract ctx.alg = true → ctx.capacity = kdfHashLen wc ctx.alg
  expand : psaAlgIsHkdf ctx.alg = true ∨ psaAlgIsHkdfExpand ctx.alg = true →
    ctx.capacity = 255 * kdfHashLen wc ctx.alg
  counter : psaAlgIsSp800_108CounterHmac ctx.alg = true ∨ ctx.alg = psaAlgSp800_108CounterCmac →
    ctx.capacity = 2 ^ 29 - 1

theorem not_anyHkdf_of_family {base alg : Algorithm} (family : isHashFamily base alg = true)
    (hkdf : base ≠ psaAlgHkdfBase) (extract : base ≠ psaAlgHkdfExtractBase)
    (expand : base ≠ psaAlgHkdfExpandBase) : psaAlgIsAnyHkdf alg = false := by
  simp only [psaAlgIsAnyHkdf, psaAlgIsHkdf, psaAlgIsHkdfExtract, psaAlgIsHkdfExpand,
    Bool.or_eq_false_iff]
  refine ⟨⟨?_, ?_⟩, ?_⟩
  all_goals
    rw [Bool.eq_false_iff]
    intro member
    have same := isHashFamily_unique family member
    contradiction

theorem setupCapacity_of_fresh {env : KdfEnv Hmac Cmac} {ctx : KdfCtx} (fresh : KdfFresh env ctx) :
    SetupCapacity env.wc ctx := by
  have initial := fresh.capacity
  unfold kdfInitialCapacity at initial
  dsimp only at initial
  refine ⟨fun extract => ?_, fun expand => ?_, fun counter => ?_⟩
  · rw [if_pos (by simp [psaAlgIsAnyHkdf, extract])] at initial
    rw [if_pos extract] at initial
    split at initial
    · cases initial
    · exact (Option.some.inj initial).symm
  · have distinct : psaAlgIsHkdfExtract ctx.alg ≠ true := by
      intro extract
      rcases expand with hkdf | expand
      · exact absurd (isHashFamily_unique hkdf extract) (by decide)
      · exact absurd (isHashFamily_unique expand extract) (by decide)
    rw [if_pos (by rcases expand with h | h <;> simp [psaAlgIsAnyHkdf, h])] at initial
    rw [if_neg distinct] at initial
    split at initial
    · cases initial
    · exact (Option.some.inj initial).symm
  · have other : psaAlgIsAnyHkdf ctx.alg = false := by
      rcases counter with hmac | cmac
      · exact not_anyHkdf_of_family hmac (by decide) (by decide) (by decide)
      · rw [cmac]
        decide
    rw [if_neg (by simp [other]), if_pos (by simpa using counter)] at initial
    exact (Option.some.inj initial).symm

/-- Whenever the cache serves an output call that the capacity allows, the slice is there: the
branch that reports `PSA_ERROR_INSUFFICIENT_DATA` is not reached. -/
def CacheServes (Hmac Cmac : Type) (ctx : KdfCtx) : Prop :=
  ∀ (env : KdfEnv Hmac Cmac) n, ExactLengths env.wc →
    (wolfpsaKdfRequireOutput (kdfSnapshotL ctx) n).1 = .success →
    ∀ cached, kdfFillCache env (kdfStarted ctx n) n = .ok cached → cached.outputCache.isSome →
      ∃ bytes, kdfDeliver env cached n = .ok bytes

theorem CapacityState.serves {start spent : Nat} {ctx : KdfCtx}
    (state : CapacityState start spent ctx) : CacheServes Hmac Cmac ctx := by
  intro env n exact required cached filled isSome
  obtain ⟨cache, present⟩ := Option.isSome_iff_exists.mp isSome
  have granted : ctx.capacity = psaKeyDerivationUnlimitedCapacity ∨ n ≤ ctx.capacity := by
    obtain ⟨answer, -⟩ := wolfpsaKdfRequireOutput_ok
      (Prod.ext required rfl : wolfpsaKdfRequireOutput (kdfSnapshotL ctx) n = (.success, _))
    rw [kdfSnapshotL_eq] at answer
    exact answer
  have inside := (state.slice exact granted filled cache present).1
  have offset : cached.outputOffset = ctx.outputOffset := (kdfFillCache_capacity filled).2
  refine ⟨(cache.drop cached.outputOffset).take n, ?_⟩
  unfold kdfDeliver
  rw [present]
  dsimp only
  rw [if_neg (by omega)]

theorem exactLengths_sampleWcKdf : ExactLengths sampleWcKdf where
  digest hash := by
    unfold sampleWcKdf intMax
    dsimp only
    split <;> omega
  extract {hash salt secret prk} extracted := by
    unfold sampleWcKdf at extracted ⊢
    dsimp only at extracted ⊢
    split at extracted
    · rename_i known
      cases extracted
      rw [if_pos known.1]
      rfl
    · cases extracted
  expand {hash prk info length okm} expanded := by
    unfold sampleWcKdf at expanded
    dsimp only at expanded
    split at expanded
    · rename_i known
      cases expanded
      rw [known.2.2.2]
      rfl
    · cases expanded
  prfTls failed := by cases failed
  pbkdf2 failed := by cases failed
  hmac failed := by cases failed

/-- The calls of `hkdfRun` before its output call. -/
def hkdfInputs : List (KdfEvent Unit Unit) :=
  [.setCapacity 32, .inputKey .secret psaKeyIdVendorMin, .inputBytes .info (.data [])].map
    (⟨sampleKdfEnv psaKeyUsageDerive, ·⟩)

end WolfPSA.Guarantees
