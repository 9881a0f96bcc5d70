import WolfPSA.Guarantees.KdfCapacity
import WolfPSA.Guarantees.KdfInputs
import WolfPSA.Lib.Bytes
import WolfPSA.Source.KeyDerivationDispatch

/-!
# The counter-mode derivations of SP 800-108

`L` is taken from the capacity at the first output call, and only its low 32 bits in bits are
encoded. What makes that the whole of `L` is a bound that every call keeps: offset and capacity
together never exceed the 2^29 - 1 bytes of the setup. The same bound keeps the block counter from
wrapping.
-/

namespace WolfPSA.Guarantees
open Lib Source

variable {Hmac Cmac : Type}

/-! ## The bound on capacity and `L` -/

/-- The bytes a counter-mode operation can be asked for. -/
def counterMax : Nat := 2 ^ 29 - 1

structure CounterBounds (ctx : KdfCtx) : Prop where
  total : ctx.outputOffset + ctx.capacity ≤ counterMax
  snapshot : ctx.sp800_108LBytes ≤ counterMax

/-- What holds of an operation in counter mode. -/
def CounterBounded (ctx : KdfCtx) : Prop := isCounterKdf ctx.material = true → CounterBounds ctx

section

variable {ctx ctx' : KdfCtx}

theorem kdfLAfter_le (bounds : CounterBounds ctx) : kdfLAfter ctx ≤ counterMax := by
  have total := bounds.total
  have snapshot := bounds.snapshot
  unfold kdfLAfter kdfSnapshotL
  split
  · show ctx.capacity ≤ counterMax
    omega
  · exact snapshot

theorem CounterBounds.limited (bounds : CounterBounds ctx) :
    ctx.capacity ≠ psaKeyDerivationUnlimitedCapacity := by
  have total := bounds.total
  unfold counterMax at total
  unfold psaKeyDerivationUnlimitedCapacity sizeMax
  omega

theorem CounterBounds.started (bounds : CounterBounds ctx) (n : Nat) :
    CounterBounds (kdfStarted ctx n) := by
  have total := bounds.total
  have low := kdfCapacityAfter_le ctx.capacity n
  refine ⟨?_, kdfLAfter_le bounds⟩
  show ctx.outputOffset + kdfCapacityAfter ctx.capacity n ≤ counterMax
  omega

/-- The bound is one on three counters. -/
theorem CounterBounds.of_counters (bounds : CounterBounds ctx)
    (offset : ctx'.outputOffset = ctx.outputOffset) (capacity : ctx'.capacity ≤ ctx.capacity)
    (snapshot : ctx'.sp800_108LBytes = ctx.sp800_108LBytes) : CounterBounds ctx' := by
  have total := bounds.total
  have old := bounds.snapshot
  refine ⟨?_, by rwa [snapshot]⟩
  rw [offset]
  omega

theorem kdfFillCache_bounds {env : KdfEnv Hmac Cmac} {cached : KdfCtx} {n : Nat}
    (bounds : CounterBounds ctx) (filled : kdfFillCache env ctx n = .ok cached) :
    CounterBounds cached := by
  rcases kdfFillCache_ok filled with rfl | ⟨-, -, -, cache, -, rfl⟩
  · exact bounds
  · exact ⟨bounds.total, bounds.snapshot⟩

theorem KdfOutputMove.bounds {env : KdfEnv Hmac Cmac} {n : Nat} {r : Except KdfFail Bytes}
    (bounds : CounterBounds ctx) (moved : KdfOutputMove env ctx n r ctx') : CounterBounds ctx' := by
  cases moved with
  | kept => exact bounds
  | exhausted =>
    refine ⟨?_, kdfLAfter_le bounds⟩
    show ctx.outputOffset + 0 ≤ counterMax
    exact Nat.le_trans (Nat.add_le_add_left (Nat.zero_le _) _) bounds.total
  | stopped => exact bounds.started n
  | cached filled => exact kdfFillCache_bounds (bounds.started n) filled
  | delivered done =>
    obtain ⟨-, granted, -, cached, filled, -, rfl⟩ := done
    have kept := kdfFillCache_bounds (bounds.started n) filled
    obtain ⟨capacity, offset⟩ := kdfFillCache_capacity filled
    have sum := kdfCapacityAfter_add granted bounds.limited
    have total := bounds.total
    refine ⟨?_, kept.snapshot⟩
    show cached.outputOffset + n + cached.capacity ≤ counterMax
    rw [capacity, offset]
    show ctx.outputOffset + n + kdfCapacityAfter ctx.capacity n ≤ counterMax
    omega

theorem wolfpsaKdfDone_bounds (bounds : CounterBounds ctx) (status : Status) :
    CounterBounds (wolfpsaKdfDone ctx status) := by
  unfold wolfpsaKdfDone
  split
  · exact ⟨bounds.total, bounds.snapshot⟩
  · exact bounds

theorem isCounterKdf_of_same (same : SameInputs ctx ctx') :
    isCounterKdf ctx'.material = isCounterKdf ctx.material := by
  unfold isCounterKdf KdfCtx.material
  rw [same.alg, same.isRawKdf]

theorem CounterBounded.moved {e : KdfEvent Hmac Cmac} {r : KdfResult}
    (bounded : CounterBounded ctx) (moved : KdfMove e ctx r ctx') : CounterBounded ctx' := by
  have output {n : Nat} {result : Except KdfFail Bytes} {ctx₁ : KdfCtx} (status : Status)
      (ran : wolfpsaKdfOutputBytes e.env ctx ⟨false, n⟩ = (result, ctx₁)) :
      CounterBounded (wolfpsaKdfDone ctx₁ status) := by
    intro counter
    have same := (wolfpsaKdfOutputBytes_keeps ran).trans (wolfpsaKdfDone_keeps ctx₁ status)
    rw [isCounterKdf_of_same same.same] at counter
    exact wolfpsaKdfDone_bounds
      (KdfOutputMove.bounds (bounded counter) (wolfpsaKdfOutputBytes_move ran)) status
  cases moved with
  | @refused status =>
    intro counter
    have keeps : KeepsInputs Hmac Cmac ctx (wolfpsaKdfDone ctx status) := wolfpsaKdfDone_keeps ctx status
    rw [isCounterKdf_of_same keeps.same] at counter
    exact wolfpsaKdfDone_bounds (bounded counter) status
  | kept => exact bounded
  | lowered call within =>
    intro counter
    exact (bounded counter).of_counters rfl within rfl
  | input => exact fun counter => (bounded counter).of_counters rfl (Nat.le_refl _) rfl
  | cost => exact fun counter => (bounded counter).of_counters rfl (Nat.le_refl _) rfl
  | produced ran => exact output _ ran
  | failed ran => exact output _ ran
  | hung ran => exact output .success ran

end

theorem counterBounded_fresh {env : KdfEnv Hmac Cmac} {ctx : KdfCtx} (fresh : KdfFresh env ctx)
    (unset : ctx.sp800_108LBytes = 0) : CounterBounded ctx := by
  intro counter
  have family : psaAlgIsSp800_108CounterHmac ctx.alg = true ∨ ctx.alg = psaAlgSp800_108CounterCmac := by
    simp only [isCounterKdf, KdfCtx.material, Bool.and_eq_true, Bool.or_eq_true, beq_iff_eq] at counter
    exact counter.2
  refine ⟨?_, ?_⟩
  · rw [fresh.outputOffset, (setupCapacity_of_fresh fresh).counter family]
    exact Nat.le_refl _
  · rw [unset]
    exact Nat.zero_le _

theorem kdfStep_none_unsnapped {e : KdfEvent Hmac Cmac} {ctx : KdfCtx}
    (active : (kdfStep none e).2 = some ctx) : ctx.sp800_108LBytes = 0 := by
  unfold kdfStep at active
  cases call : e.call with
  | setup alg =>
    rw [call] at active
    dsimp only [psaKeyDerivationSetup] at active
    split at active
    · cases active
    · rename_i created
      cases active
      unfold kdfSetupCtx at created
      dsimp only at created
      split_ifs at created
      all_goals
        split at created
        · cases created
        · cases created
          rfl
  | _ =>
    rw [call] at active
    cases active

theorem counterBounded_step {operation : KdfOperation} {e : KdfEvent Hmac Cmac}
    (bounded : ∀ ctx, operation = some ctx → CounterBounded ctx) :
    ∀ ctx, (kdfStep operation e).2 = some ctx → CounterBounded ctx := by
  intro ctx' active
  cases operation with
  | none => exact counterBounded_fresh (kdfStep_none active) (kdfStep_none_unsnapped active)
  | some ctx =>
    by_cases abort : e.call = .abort
    · simp [kdfStep, abort, psaKeyDerivationAbort] at active
    cases poisoned : ctx.errorState with
    | true =>
      rw [kdfStep_errored poisoned abort] at active
      cases active
      exact bounded _ rfl
    | false =>
      obtain ⟨result, next, ran, moved⟩ := kdfStep_move poisoned abort
      rw [ran] at active
      cases active
      exact (bounded ctx rfl).moved moved

/-- Every state of every run is within the bound. -/
theorem run_counterBounded (es : List (KdfEvent Hmac Cmac)) :
    ∀ ctx, (run kdfStep none es).2 = some ctx → CounterBounded ctx := by
  refine run_state_invariant (C := fun _ => True)
    (fun operation => ∀ ctx, operation = some ctx → CounterBounded ctx) ?_ ?_ es fun _ _ => trivial
  · intro ctx inactive
    cases inactive
  · intro operation e _ bounded
    exact counterBounded_step bounded

/-! ## The definition of SP 800-108 -/

/-- The functions HMAC and CMAC, each on a key and a message: what the pieces of a message make is
what they make in one piece. -/
structure MacFunctions (spec : KdfSpec) (hmac : WcHashType → Bytes → Bytes → Bytes)
    (cmac : Bytes → Bytes → Bytes) : Prop where
  hmac_pieces : ∀ hash key pieces, spec.hmac hash key pieces = hmac hash key pieces.flatten
  cmac_pieces : ∀ key pieces, spec.cmac key pieces = cmac key pieces.flatten
  hmac_length : ∀ hash key message, (hmac hash key message).length = spec.digestSize hash
  cmac_length : ∀ key message, (cmac key message).length = wcAesBlockSize

/-- `Label || 0x00 || Context || [L]_4`. -/
def counterFixed (ctx : KdfCtx) (lBits : Nat) : Bytes :=
  ctx.inputs .label ++ [0x00] ++ ctx.inputs .context ++ be32 lBits

/-- `K(i)` of the two variants. -/
def counterBlock (hmac : WcHashType → Bytes → Bytes → Bytes) (cmac : Bytes → Bytes → Bytes)
    (ctx : KdfCtx) (lBits i : Nat) : Bytes :=
  let secret := ctx.inputs .secret
  let fixed := counterFixed ctx lBits
  if psaAlgIsSp800_108CounterHmac ctx.alg then
    match wolfpsaKdfHashTypeFromAlg ctx.alg with
    | none => []
    | some hash => hmac hash secret (be32 i ++ fixed)
  else cmac secret (be32 i ++ fixed ++ cmac secret fixed)

/-- The length of a block. -/
def counterBlockLen (spec : KdfSpec) (ctx : KdfCtx) : Nat :=
  if psaAlgIsSp800_108CounterHmac ctx.alg then
    match wolfpsaKdfHashTypeFromAlg ctx.alg with
    | none => 0
    | some hash => spec.digestSize hash
  else wcAesBlockSize

section

variable {spec : KdfSpec} {hmac : WcHashType → Bytes → Bytes → Bytes} {cmac : Bytes → Bytes → Bytes}
  {ctx : KdfCtx}

/-- An empty label or context is left out, which leaves nothing out. -/
theorem specPieces_flatten (m : KdfMaterial) :
    (specPieces m).flatten =
      m.inputs .label ++ [0x00] ++ m.inputs .context ++ be32 (m.lBytes * 8 % 2 ^ 32) := by
  have optional (data : Bytes) : (if data.length > 0 then [data] else []).flatten = data := by
    split
    · simp
    · rename_i empty
      rw [List.eq_nil_of_length_eq_zero (Nat.le_zero.mp (Nat.le_of_not_gt empty))]
      rfl
  unfold specPieces
  rw [List.flatten_append, List.flatten_append, List.flatten_append, optional, optional]
  simp

theorem firstMaterial_fixed (bounds : CounterBounds ctx) :
    (specPieces (firstMaterial ctx)).flatten = counterFixed ctx (8 * ctx.capacity) := by
  have total := bounds.total
  have fits : ctx.capacity * 8 < 2 ^ 32 := by
    unfold counterMax at total
    omega
  rw [specPieces_flatten]
  show ctx.inputs .label ++ [0x00] ++ ctx.inputs .context ++ be32 (ctx.capacity * 8 % 2 ^ 32) = _
  rw [Nat.mod_eq_of_lt fits, Nat.mul_comm]
  rfl

/-- The counters of the blocks that the capacity can reach. -/
theorem counter_word (bounds : CounterBounds ctx) {len j : Nat} (positive : 0 < len)
    (reached : j * len < ctx.capacity) : 1 + j < 2 ^ 32 := by
  have total := bounds.total
  have index : j ≤ j * len := Nat.le_mul_of_pos_right j positive
  unfold counterMax at total
  omega

/-- The two variants. -/
theorem isCounterKdf_cases (counter : isCounterKdf ctx.material = true) :
    ctx.isRawKdf = false ∧ (psaAlgIsSp800_108CounterHmac ctx.alg = true ∨
      psaAlgIsSp800_108CounterHmac ctx.alg = false ∧ ctx.alg = psaAlgSp800_108CounterCmac) := by
  simp only [isCounterKdf, KdfCtx.material, Bool.and_eq_true, Bool.not_eq_true', Bool.or_eq_true,
    beq_iff_eq] at counter
  refine ⟨counter.1, ?_⟩
  cases variant : psaAlgIsSp800_108CounterHmac ctx.alg with
  | true => exact .inl rfl
  | false =>
    rw [variant] at counter
    exact .inr ⟨rfl, counter.2.resolve_left (by decide)⟩

/-- A back end that has delivered knows its block length. -/
theorem counterBlockLen_pos {env : KdfEnv Hmac Cmac} (computes : Computes spec env.wc)
    (counter : isCounterKdf ctx.material = true) {n : Nat} {bytes : Bytes}
    (computed : wolfpsaKdfComputeOutput env ctx n = .ok bytes) :
    0 < counterBlockLen spec ctx := by
  obtain ⟨derives, variant | ⟨notHmac, cmac⟩⟩ := isCounterKdf_cases counter
  · rw [wolfpsaKdfComputeOutput_counterHmac env derives variant] at computed
    unfold wolfpsaKdfSp800_108Hmac at computed
    unfold counterBlockLen
    rw [if_pos variant]
    cases selected : wolfpsaKdfHashTypeFromAlg ctx.alg with
    | none =>
      rw [selected] at computed
      cases computed
    | some hash =>
      rw [selected] at computed
      dsimp only at computed
      split_ifs at computed with unusable
      simp only [Bool.or_eq_true, beq_iff_eq, not_or] at unusable
      rw [computes.digestSize] at unusable
      exact Nat.pos_of_ne_zero unusable.1
  · unfold counterBlockLen
    rw [if_neg (by simp [notHmac])]
    decide

/-- The stream of a counter-mode operation as the model has it, with the counter modulo 2^32. -/
theorem kdfStream_counter (macs : MacFunctions spec hmac cmac) (bounds : CounterBounds ctx)
    (counter : isCounterKdf ctx.material = true) (positive : 0 < counterBlockLen spec ctx) :
    kdfStream spec (firstMaterial ctx) =
      blockStream (fun j => counterBlock hmac cmac ctx (8 * ctx.capacity) ((1 + j) % 2 ^ 32))
        (counterBlockLen spec ctx) := by
  have fixed := firstMaterial_fixed bounds
  obtain ⟨derives, variant | ⟨notHmac, isCmac⟩⟩ := isCounterKdf_cases counter
  · obtain ⟨hkdf, prf, psk, pbkdf2Hmac, pbkdf2⟩ := sp800_108CounterHmac_only variant
    unfold counterBlockLen at positive ⊢
    rw [if_pos variant] at positive ⊢
    unfold kdfStream counterBlock
    simp only [firstMaterial, KdfCtx.material, derives, hkdf, prf, psk, pbkdf2Hmac, pbkdf2, variant,
      Bool.false_eq_true, if_false, if_true] at fixed ⊢
    cases selected : wolfpsaKdfHashTypeFromAlg ctx.alg with
    | none =>
      rw [selected] at positive
      exact absurd positive (Nat.lt_irrefl 0)
    | some hash =>
      refine congrArg (blockStream · (spec.digestSize hash)) (funext fun j => ?_)
      rw [macs.hmac_pieces, List.flatten_cons, fixed]
  · unfold counterBlockLen kdfStream counterBlock
    have material : (firstMaterial ctx).alg = psaAlgSp800_108CounterCmac := isCmac
    have raw : (firstMaterial ctx).isRawKdf = false := derives
    have secret : (firstMaterial ctx).inputs = ctx.inputs := rfl
    have other : ¬psaAlgIsSp800_108CounterHmac ctx.alg = true := by simp [notHmac]
    rw [material, raw, secret, if_neg (by decide), if_neg (by decide), if_neg (by decide),
      if_neg (by decide), if_neg (by decide), if_neg (by decide), if_neg (by decide),
      if_pos (by decide), if_neg other]
    refine congrArg (blockStream · wcAesBlockSize) (funext fun j => ?_)
    dsimp only
    rw [if_neg other, macs.cmac_pieces, macs.cmac_pieces, List.cons_append, List.flatten_cons, List.flatten_append,
      fixed, List.flatten_singleton, List.append_assoc]

/-- `K(1) || K(2) || ...`, cut off after `n` bytes. -/
def counterOutput (hmac : WcHashType → Bytes → Bytes → Bytes) (cmac : Bytes → Bytes → Bytes)
    (len : Nat) (ctx : KdfCtx) (lBits n : Nat) : Bytes :=
  ((List.range ((n + len - 1) / len)).flatMap fun j =>
    counterBlock hmac cmac ctx lBits (1 + j)).take n

theorem counterBlock_length (macs : MacFunctions spec hmac cmac) (lBits i : Nat) :
    (counterBlock hmac cmac ctx lBits i).length = counterBlockLen spec ctx := by
  unfold counterBlock counterBlockLen
  dsimp only
  split
  · split
    · rfl
    · exact macs.hmac_length _ _ _
  · exact macs.cmac_length _ _

theorem le_ceil_mul {n len : Nat} (positive : 0 < len) : n ≤ (n + len - 1) / len * len := by
  have parts := Nat.div_add_mod (n + len - 1) len
  have small := Nat.mod_lt (n + len - 1) positive
  rw [Nat.mul_comm] at parts
  omega

/-- Within the capacity the stream is the one of the definition. -/
theorem firstN_counter (macs : MacFunctions spec hmac cmac) (bounds : CounterBounds ctx)
    (counter : isCounterKdf ctx.material = true) (positive : 0 < counterBlockLen spec ctx) {n : Nat}
    (within : n ≤ ctx.capacity) :
    firstN (kdfStream spec (firstMaterial ctx)) n =
      counterOutput hmac cmac (counterBlockLen spec ctx) ctx (8 * ctx.capacity) n := by
  have unwrapped : firstN (kdfStream spec (firstMaterial ctx)) n =
      firstN (blockStream (fun j => counterBlock hmac cmac ctx (8 * ctx.capacity) (1 + j))
        (counterBlockLen spec ctx)) n := by
    rw [kdfStream_counter macs bounds counter positive]
    refine firstN_congr fun i small => ?_
    have reached : i / counterBlockLen spec ctx * counterBlockLen spec ctx < ctx.capacity :=
      Nat.lt_of_le_of_lt (Nat.div_mul_le_self _ _) (Nat.lt_of_lt_of_le small within)
    unfold blockStream
    dsimp only
    rw [Nat.mod_eq_of_lt (counter_word bounds positive reached)]
  rw [unwrapped, firstN_blockStream positive (fun j => counterBlock_length macs _ _)
    (le_ceil_mul positive)]
  rfl

end

/-! ## Runs of output calls -/

section

variable {ctx : KdfCtx} {es : List (KdfEvent Hmac Cmac)}

/-- Successful calls produce no more than the capacity they began with. -/
theorem kdfTotal_le_capacity (limited : ctx.capacity ≠ psaKeyDerivationUnlimitedCapacity)
    (bounded : ctx.capacity ≤ sizeMax) (succeed : KdfSucceed (some ctx) es) :
    kdfTotal es ≤ ctx.capacity := by
  have initially : kdfTotal ([] : List (KdfEvent Hmac Cmac)) + ctx.capacity ≤ ctx.capacity := by
    simp [kdfTotal]
  obtain ⟨last, -, within⟩ := KdfSucceed.invariant (C := fun _ => True)
    (fun before reached => kdfTotal before + reached.capacity ≤ ctx.capacity)
    (fun before e reached next _ running held success after => by
      obtain ⟨low, exactly⟩ := kdfStep_capacity running success after
      rw [kdfTotal_append, kdfTotal_single]
      by_cases lowers : ∃ capacity, e.call = .setCapacity capacity
      · obtain ⟨capacity, call⟩ := lowers
        have silent : (kdfAsks e).getD 0 = 0 := by simp [kdfAsks, call]
        omega
      · have sum := (exactly fun capacity call => lowers ⟨capacity, call⟩).2 (by
          unfold psaKeyDerivationUnlimitedCapacity at limited ⊢
          omega)
        omega) initially (fun _ _ => trivial) succeed
  rw [List.nil_append] at within
  omega

/-- The first call of a run of output calls asks a back end. -/
theorem OutputRun.computed {spec : KdfSpec} (output : OutputRun spec ctx es) :
    ∃ (env : KdfEnv Hmac Cmac) (used : KdfCtx) (n : Nat) (bytes : Bytes), Computes spec env.wc ∧
      SameInputs ctx used ∧ wolfpsaKdfComputeOutput env used n = .ok bytes := by
  obtain ⟨⟨before, reached⟩, early, ⟨e, rest, rfl, asks⟩, computes, running, success, -⟩ := output
  obtain ⟨offset, cache⟩ := run_unstarted before ctx reached early
  obtain ⟨-, mid, -, quiet | ⟨n, bytes, ran, -⟩⟩ := kdfStep_success running success
  · rw [quiet.asks] at asks
    cases asks
  obtain ⟨-, -, -, cached, filled, deliver, -⟩ := wolfpsaKdfOutputBytes_ok ran
  have started : SameInputs ctx (kdfStarted ctx n) := ⟨rfl, rfl, rfl, rfl, rfl, rfl⟩
  have here := computes e List.mem_cons_self
  rcases kdfFillCache_ok filled with rfl | ⟨-, -, -, stream, ran, -⟩
  · have empty : (kdfStarted ctx n).outputCache = none := cache
    have first : (kdfStarted ctx n).outputOffset = 0 := offset
    unfold kdfDeliver at deliver
    simp only [empty, first, beq_self_eq_true, if_true] at deliver
    exact ⟨e.env, _, n, bytes, here, started, deliver⟩
  · exact ⟨e.env, _, _, stream, here, started, ran⟩

end

/-! ## What the capacity allows is delivered -/

/-- The environment serves a counter-mode operation: memory is there, the arguments are of lengths
the back end takes, and the MAC computes every tag. -/
structure CounterServes (env : KdfEnv Hmac Cmac) (ctx : KdfCtx) : Prop where
  memory : ∀ site, env.alloc site = true
  exact : ExactLengths env.wc
  valid : ctx.errorState = false
  secret : ctx.isSet .secret = true
  label : (ctx.inputs .label).length ≤ uint32Max
  context : (ctx.inputs .context).length ≤ uint32Max
  hmac : psaAlgIsSp800_108CounterHmac ctx.alg = true → (ctx.inputs .secret).length ≤ intMax ∧
    ∃ hash, wolfpsaKdfHashTypeFromAlg ctx.alg = some hash ∧ 0 < env.wc.hashGetDigestSize hash ∧
      env.wc.hashGetDigestSize hash ≤ psaMacMaxSize ∧
      ∀ pieces, ∃ tag, kdfHmac env.wc.mac hash (ctx.inputs .secret) pieces = .ok tag
  cmac : ctx.alg = psaAlgSp800_108CounterCmac → (ctx.inputs .secret).length ∈ [16, 24, 32] ∧
    ∀ pieces, ∃ tag, kdfCmac env.wc.mac (ctx.inputs .secret) pieces = .ok tag

theorem sp800_108Loop_succeeds {block : Nat → Except KdfFail Bytes}
    (total : ∀ i, ∃ k, block i = .ok k) (blockLen fuel counter remaining : Nat) :
    ∃ bytes, sp800_108Loop block blockLen fuel counter remaining = .ok bytes := by
  induction fuel generalizing counter remaining with
  | zero => exact ⟨[], rfl⟩
  | succ fuel ih =>
    unfold sp800_108Loop
    split
    · exact ⟨[], rfl⟩
    · obtain ⟨k, made⟩ := total counter
      obtain ⟨rest, later⟩ := ih ((counter + 1) % 2 ^ 32) (remaining - blockLen)
      rw [made]
      simp only [bind, Except.bind, later]
      exact ⟨_, rfl⟩

section

variable {env : KdfEnv Hmac Cmac} {ctx ctx' : KdfCtx}

theorem CounterServes.computes (serves : CounterServes env ctx)
    (counter : isCounterKdf ctx.material = true) (n : Nat) :
    ∃ bytes, wolfpsaKdfComputeOutput env ctx n = .ok bytes := by
  have label := isWord32_iff.mpr serves.label
  have context := isWord32_iff.mpr serves.context
  obtain ⟨derives, variant | ⟨-, cmac⟩⟩ := isCounterKdf_cases counter
  · obtain ⟨short, hash, selected, positive, small, total⟩ := serves.hmac variant
    rw [wolfpsaKdfComputeOutput_counterHmac env derives variant]
    unfold wolfpsaKdfSp800_108Hmac
    rw [selected]
    dsimp only
    have usable : ¬(env.wc.hashGetDigestSize hash == 0 ||
        decide (env.wc.hashGetDigestSize hash > psaMacMaxSize)) = true := by
      simp only [Bool.or_eq_true, beq_iff_eq, decide_eq_true_eq]
      omega
    rw [if_neg usable, if_neg (Nat.not_lt.mpr short), if_neg (by simp [label, context])]
    exact sp800_108Loop_succeeds (fun i => total _) _ _ _ _
  · obtain ⟨size, total⟩ := serves.cmac cmac
    simp only [List.mem_cons, List.not_mem_nil, or_false] at size
    rw [wolfpsaKdfComputeOutput_counterCmac env derives cmac]
    unfold wolfpsaKdfSp800_108Cmac
    dsimp only
    have word : isWord32 (ctx.inputs .secret).length = true := by
      rw [isWord32_iff]
      unfold uint32Max
      omega
    have known : ¬((ctx.inputs .secret).length != 16 && (ctx.inputs .secret).length != 24 &&
        (ctx.inputs .secret).length != 32) = true := by
      simp only [Bool.and_eq_true, bne_iff_ne]
      omega
    obtain ⟨k0, made⟩ := total (sp800_108Pieces ctx)
    rw [if_neg known, if_neg (by simp [word]), if_neg (by simp [label, context]),
      if_neg (by simp [serves.memory])]
    simp only [made, bind, Except.bind]
    exact sp800_108Loop_succeeds (fun i => total _) _ _ _ _

theorem CounterServes.same (serves : CounterServes env ctx) (same : SameInputs ctx ctx')
    (valid : ctx'.errorState = false) : CounterServes env ctx' := by
  refine ⟨serves.memory, serves.exact, valid, ?_, ?_, ?_, ?_, ?_⟩
  · rw [same.isSet]
    exact serves.secret
  · rw [same.inputs]
    exact serves.label
  · rw [same.inputs]
    exact serves.context
  · rw [same.inputs, same.alg]
    exact serves.hmac
  · rw [same.inputs, same.alg]
    exact serves.cmac

theorem CounterServes.complete (serves : CounterServes env ctx)
    (counter : isCounterKdf ctx.material = true) (n : Nat) :
    kdfInputsComplete ctx n = .success := by
  have secret := serves.secret
  obtain ⟨derives, variant | ⟨-, cmac⟩⟩ := isCounterKdf_cases counter
  · obtain ⟨hkdf, prf, psk, -, pbkdf2⟩ := sp800_108CounterHmac_only variant
    simp [kdfInputsComplete, derives, hkdf, prf, psk, pbkdf2, variant, secret]
  · unfold kdfInputsComplete
    rw [if_neg (by simp [derives]), cmac, if_neg (by decide), if_neg (by decide),
      if_neg (by decide), if_neg (by decide), if_pos (by decide), if_neg (by simp [secret])]

theorem CounterServes.fills (serves : CounterServes env ctx)
    (counter : isCounterKdf ctx.material = true) (n : Nat) :
    ∃ cached, kdfFillCache env ctx n = .ok cached := by
  obtain ⟨cache, computed⟩ := serves.computes counter (n + ctx.capacity)
  unfold kdfFillCache
  split
  · rw [if_neg (by simp [serves.memory]), computed]
    exact ⟨_, rfl⟩
  · exact ⟨_, rfl⟩

/-- A request within the capacity is delivered. -/
theorem CounterServes.delivers (serves : CounterServes env ctx)
    (counter : isCounterKdf ctx.material = true) {start spent n : Nat}
    (state : CapacityState start spent ctx) (bounds : CounterBounds ctx) (within : n ≤ ctx.capacity) :
    ∃ bytes ctx₁, KdfDelivered env ctx n bytes ctx₁ := by
  have begun : SameInputs ctx (kdfStarted ctx n) := ⟨rfl, rfl, rfl, rfl, rfl, rfl⟩
  have ready : CounterServes env (kdfStarted ctx n) := serves.same begun serves.valid
  have counter' := (isCounterKdf_of_same begun).trans counter
  obtain ⟨cached, filled⟩ := ready.fills counter' n
  have limit := bounds.total
  have fits : ctx.outputOffset + n ≤ sizeMax := by
    unfold counterMax at limit
    unfold sizeMax
    omega
  have served : ∃ bytes, kdfDeliver env cached n = .ok bytes := by
    cases held : cached.outputCache with
    | some cache =>
      refine state.serves env n serves.exact ?_ cached filled (by rw [held]; rfl)
      rw [kdfSnapshotL_eq]
      unfold wolfpsaKdfRequireOutput
      rw [if_neg (by simpa using bounds.limited), if_neg (by exact Nat.not_lt.mpr within)]
    | none =>
      rcases kdfFillCache_ok filled with rfl | ⟨-, -, -, cache, -, rfl⟩
      · unfold kdfDeliver
        rw [held]
        dsimp only
        split
        · exact ready.computes counter' n
        · obtain ⟨full, computed⟩ := ready.computes counter' ((kdfStarted ctx n).outputOffset + n)
          rw [if_neg (by simp [serves.memory]), computed]
          exact ⟨_, rfl⟩
      · cases held
  obtain ⟨bytes, deliver⟩ := served
  exact ⟨bytes, _, serves.complete counter n, .inr within, fits, cached, filled, deliver, rfl⟩

/-- Requests whose sum is within the capacity all succeed, however they cut it up. -/
theorem CounterServes.succeeds (serves : CounterServes env ctx)
    (counter : isCounterKdf ctx.material = true) {start spent : Nat}
    (state : CapacityState start spent ctx) (bounds : CounterBounds ctx) {lengths : List Nat}
    (within : lengths.sum ≤ ctx.capacity) :
    KdfSucceed (some ctx) (lengths.map fun n => ⟨env, .outputBytes ⟨false, n⟩⟩) := by
  induction lengths generalizing ctx spent with
  | nil => trivial
  | cons n rest ih =>
    rw [List.sum_cons] at within
    obtain ⟨bytes, ctx₁, delivered⟩ := serves.delivers counter state bounds
      (Nat.le_trans (Nat.le_add_right _ _) within : n ≤ ctx.capacity)
    have ran := delivered.ran
    have step : kdfStep (some ctx) ⟨env, .outputBytes ⟨false, n⟩⟩ =
        (⟨some .success, bytes, psaKeyIdNull⟩, some ctx₁) := by
      simp [kdfStep, psaKeyDerivationOutputBytes, serves.valid, ran]
    have same := (wolfpsaKdfOutputBytes_keeps ran).same
    have valid : ctx₁.errorState = false := by
      obtain ⟨-, -, -, cached, filled, -, rfl⟩ := delivered
      rcases kdfFillCache_ok filled with rfl | ⟨-, -, -, cache, -, rfl⟩
      · exact serves.valid
      · exact serves.valid
    have left : rest.sum ≤ ctx₁.capacity := by
      obtain ⟨-, granted, -, cached, filled, -, rfl⟩ := delivered
      have capacity := (kdfFillCache_capacity filled).1
      have sum := kdfCapacityAfter_add granted bounds.limited
      show rest.sum ≤ cached.capacity
      rw [capacity]
      show rest.sum ≤ kdfCapacityAfter ctx.capacity n
      omega
    rw [List.map_cons]
    refine ⟨fun same => (by cases same), by rw [step], ?_⟩
    rw [step]
    exact ih (serves.same same valid) ((isCounterKdf_of_same same).trans counter)
      (kdfDelivered_state serves.exact state delivered)
      (KdfOutputMove.bounds bounds (.delivered delivered)) left

end

/-! ## Every run -/

theorem beNat_be32 {n : Nat} (fits : n < 2 ^ 32) : beNat (be32 n) = n := by
  simp only [be32, beNat, BitVec.toNat_ofNat, List.length_cons, List.length_nil,
    Nat.shiftRight_eq_div_pow]
  omega

/-- In every state a run of calls can leave, `L` in bits fits its field. For every run of output
calls on an operation that has not begun its output, `L` is the capacity it had then: the calls
produce `K(1) || K(2) || ...` cut off after the bytes they asked for, with the counters as they are
encoded; and output calls that ask for no more than the capacity succeed, in whatever pieces. -/
theorem sp800_108_counter_mode {spec : KdfSpec} {hmac : WcHashType → Bytes → Bytes → Bytes}
    {cmac : Bytes → Bytes → Bytes} (macs : MacFunctions spec hmac cmac)
    (before : List (KdfEvent Hmac Cmac)) {ctx : KdfCtx}
    (reached : (run kdfStep none before).2 = some ctx)
    (counter : isCounterKdf ctx.material = true) :
    (8 * ctx.capacity < 2 ^ 32 ∧ 8 * ctx.sp800_108LBytes < 2 ^ 32 ∧
      beNat (be32 (8 * ctx.capacity)) = 8 * ctx.capacity ∧
      beNat (sp800_108LBuf ctx) = 8 * ctx.sp800_108LBytes) ∧
    (ctx.outputStarted = false →
      (∀ es : List (KdfEvent Hmac Cmac), OutputRun spec ctx es →
        kdfTotal es ≤ ctx.capacity ∧
        (∀ j, j * counterBlockLen spec ctx < kdfTotal es → beNat (be32 (1 + j)) = 1 + j) ∧
        kdfProducedBy (some ctx) es =
          counterOutput hmac cmac (counterBlockLen spec ctx) ctx (8 * ctx.capacity) (kdfTotal es)) ∧
      ∀ (env : KdfEnv Hmac Cmac) (lengths : List Nat), CounterServes env ctx →
        lengths.sum ≤ ctx.capacity →
        KdfSucceed (some ctx) (lengths.map fun n => ⟨env, .outputBytes ⟨false, n⟩⟩)) := by
  have bounds := run_counterBounded before ctx reached counter
  have total := bounds.total
  have snapshot := bounds.snapshot
  unfold counterMax at total snapshot
  have capacityFits : 8 * ctx.capacity < 2 ^ 32 := by omega
  have snapshotFits : 8 * ctx.sp800_108LBytes < 2 ^ 32 := by omega
  have word : ctx.capacity ≤ sizeMax := by
    unfold sizeMax
    omega
  refine ⟨⟨capacityFits, snapshotFits, beNat_be32 capacityFits, ?_⟩, fun early => ⟨?_, ?_⟩⟩
  · unfold sp800_108LBuf
    rw [Nat.mul_comm, Nat.mod_eq_of_lt snapshotFits, beNat_be32 snapshotFits]
  · intro es output
    have within := kdfTotal_le_capacity bounds.limited word output.succeed
    obtain ⟨env, used, n, bytes, computes, same, computed⟩ := output.computed
    have positive : 0 < counterBlockLen spec ctx := by
      have here := counterBlockLen_pos computes ((isCounterKdf_of_same same).trans counter) computed
      unfold counterBlockLen at here ⊢
      rwa [same.alg] at here
    refine ⟨within, fun j reached => beNat_be32 ?_, ?_⟩
    · exact counter_word bounds positive (Nat.lt_of_lt_of_le reached within)
    · have fits : kdfTotal es + 15 ≤ sizeMax := by
        unfold sizeMax
        omega
      rw [output.stream.1 fits, firstN_counter macs bounds counter positive within]
  · intro env lengths serves within
    obtain ⟨offset, cache⟩ := run_unstarted before ctx reached early
    have state : CapacityState ctx.capacity 0 ctx :=
      ⟨word, offset, Nat.zero_le _, Nat.le_refl _, fun _ => Nat.le_of_eq (Nat.zero_add _),
        by simp [cache]⟩
    exact serves.succeeds counter state bounds within

/-! ### A derivation with SHA-256 -/

/-- `[1]_4 || 0x00 || [256]_4`. -/
def counterMessage : Bytes := [0x00, 0x00, 0x00, 0x01, 0x00, 0x00, 0x00, 0x01, 0x00]

/-- HMAC-SHA-256 of `counterMessage` under `sampleSecret`. -/
def counterTag : Bytes :=
  [0x86, 0x65, 0x6d, 0x45, 0x77, 0xdc, 0x34, 0xe3, 0x74, 0xd6, 0x2f, 0x82, 0xaf, 0xb2, 0x31, 0x53,
    0x8c, 0xaf, 0x44, 0xf4, 0xc0, 0xab, 0xa2, 0x5b, 0x43, 0xfb, 0x8a, 0x2f, 0x02, 0x36, 0x02, 0x75]

/-- wolfCrypt on the one message of the sample: the state of its HMAC is hash, key and what was fed
so far. -/
def counterWcKdf : WcKdf (WcHashType × Bytes × Bytes) Unit where
  mac := {
    hmacInit := .ok (.sha256, [], [])
    hmacSetKey := fun _ hash key => .ok (hash, key, [])
    hmacUpdate := fun state piece => .ok (state.1, state.2.1, state.2.2 ++ piece)
    hmacFinal := fun state =>
      if state = (.sha256, sampleSecret, counterMessage) then .ok counterTag else .error .other
    initCmac := fun _ => .error .other
    cmacUpdate := fun _ _ => .error .other
    cmacFinal := fun _ _ => .error .other }
  hashGetDigestSize := sampleWcKdf.hashGetDigestSize
  hkdfExtract := fun _ _ _ => .error .other
  hkdfExpand := fun _ _ _ _ => .error .other
  prfTls := fun _ _ _ _ _ => .error .other
  pbkdf2 := fun _ _ _ _ _ => .error .other

def counterHmac (hash : WcHashType) (key message : Bytes) : Bytes :=
  if (hash, key, message) = (.sha256, sampleSecret, counterMessage) then counterTag
  else List.replicate (sampleWcKdf.hashGetDigestSize hash) 0

def counterSpec : KdfSpec :=
  { sampleKdfSpec with
    hmac := fun hash key pieces => counterHmac hash key pieces.flatten
    cmac := fun _ _ => List.replicate wcAesBlockSize 0 }

theorem counterMacs : MacFunctions counterSpec counterHmac fun _ _ => List.replicate wcAesBlockSize 0 where
  hmac_pieces _ _ _ := rfl
  cmac_pieces _ _ := rfl
  hmac_length hash key message := by
    unfold counterHmac
    split
    · rename_i known
      obtain ⟨rfl, -⟩ := Prod.mk.inj known
      rfl
    · exact List.length_replicate
  cmac_length _ _ := List.length_replicate

theorem counterWcKdf_fed (state : WcHashType × Bytes × Bytes) (pieces : List Bytes) :
    pieces.foldlM counterWcKdf.mac.hmacUpdate state =
      .ok (state.1, state.2.1, state.2.2 ++ pieces.flatten) := by
  induction pieces generalizing state with
  | nil => simp [pure, Except.pure]
  | cons piece rest ih =>
    rw [List.foldlM_cons]
    show rest.foldlM counterWcKdf.mac.hmacUpdate (state.1, state.2.1, state.2.2 ++ piece) = _
    rw [ih, List.flatten_cons, List.append_assoc]

theorem computes_counterSpec : Computes counterSpec counterWcKdf where
  digestSize _ := rfl
  extract failed := by cases failed
  expand failed := by cases failed
  prfTls failed := by cases failed
  pbkdf2 failed := by cases failed
  hmac {hash key pieces tag} made := by
    have fed := counterWcKdf_fed (hash, key, []) pieces
    have final : counterWcKdf.mac.hmacFinal (hash, key, pieces.flatten) = .ok tag := by
      unfold kdfHmac at made
      obtain ⟨fresh, init, keying⟩ := except_bind_ok made
      cases init
      obtain ⟨keyed, set, feeding⟩ := except_bind_ok keying
      cases set
      obtain ⟨state, updated, closing⟩ := except_bind_ok feeding
      have last : state = (hash, key, pieces.flatten) :=
        Except.ok.inj ((ofWcResult_ok updated).symm.trans fed)
      rw [← last]
      exact ofWcResult_ok closing
    unfold counterWcKdf at final
    dsimp only at final
    split at final
    · rename_i known
      cases final
      have value : counterSpec.hmac hash key pieces = counterTag := by
        show counterHmac hash key pieces.flatten = counterTag
        unfold counterHmac
        rw [if_pos known]
      obtain ⟨rfl, -⟩ := Prod.mk.inj known
      exact ⟨value.symm, rfl⟩
    · cases final
  cmac failed := by cases failed

def counterEnv : KdfEnv (WcHashType × Bytes × Bytes) Unit where
  getKeyData := fun _ => .error ⟨.invalidHandle, failing⟩
  getKeyAttributes := fun _ => .error ⟨.invalidHandle, failing⟩
  keyAgreementSecret := fun _ _ _ _ => .error ⟨.notSupported, failing⟩
  importKey := fun _ _ => (.notSupported, psaKeyIdNull)
  alloc := fun _ => true
  wc := counterWcKdf

def counterEvents (calls : List KdfCall) : List (KdfEvent (WcHashType × Bytes × Bytes) Unit) :=
  calls.map (⟨counterEnv, ·⟩)

/-- SP 800-108 with HMAC-SHA-256, 32 bytes of capacity and neither label nor context. -/
def counterInputs : List (KdfEvent (WcHashType × Bytes × Bytes) Unit) :=
  counterEvents [.setup (psaAlgSp800_108CounterHmacBase ||| psaAlgSha256 &&& psaAlgHashMask),
    .setCapacity 32, .inputBytes .secret (.data sampleSecret)]

def counterReads : List (KdfEvent (WcHashType × Bytes × Bytes) Unit) :=
  counterEvents [.outputBytes ⟨false, 20⟩, .outputBytes ⟨false, 12⟩]

/-- Two reads of the 32 bytes: the first block, whose `L` is 256 bits. -/
theorem sp800_108_counter_mode_sha256 :
    ∃ ctx, (run kdfStep none counterInputs).2 = some ctx ∧
      kdfProducedBy (some ctx) counterReads =
        counterOutput counterHmac (fun _ _ => List.replicate wcAesBlockSize 0) 32 ctx 256 32 ∧
      kdfProducedBy (some ctx) counterReads = counterTag := by
  have reached : (run kdfStep none counterInputs).2 = some _ := rfl
  have computes : ∀ e ∈ counterReads, Computes counterSpec e.env.wc := by
    intro e member
    obtain ⟨call, -, rfl⟩ := List.mem_map.mp member
    exact computes_counterSpec
  have output : OutputRun counterSpec _ counterReads :=
    ⟨⟨_, reached⟩, rfl, ⟨_, _, rfl, by decide⟩, computes, ⟨by decide, by decide, by decide, by decide,
      trivial⟩⟩
  have exactly := ((sp800_108_counter_mode counterMacs counterInputs reached (by decide)).2 rfl).1
    counterReads output
  exact ⟨_, reached, exactly.2.2, by decide⟩

end WolfPSA.Guarantees
