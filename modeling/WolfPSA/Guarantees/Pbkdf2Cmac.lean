import WolfPSA.Guarantees.KdfCapacity
import WolfPSA.Guarantees.KdfInputs
import WolfPSA.Lib.Bytes
import WolfPSA.Source.KeyDerivationDispatch
import WolfPSA.Source.Pbkdf2Loop

/-!
# PBKDF2 with AES-CMAC-PRF-128

The hand-written double loop against the definitions of RFC 8018 and RFC 4615. Up to
16 * (2^32 - 2) bytes it computes them; one byte more asks for as many blocks as the 32-bit counter
has values, and the loop does not end.
-/

namespace WolfPSA.Guarantees
open Lib Source

variable {Hmac Cmac : Type}

/-! ## The definition -/

/-- RFC 4615: a key of 128 bits is used as it is, any other goes through CMAC under the zero key. -/
def aesCmacPrf128 (cmac : Bytes → Bytes → Bytes) (key message : Bytes) : Bytes :=
  cmac (if key.length = 16 then key else cmac (List.replicate 16 0) key) message

/-- RFC 8018: block `T_i`, the sum of `cost` members of the chain from `salt || INT(i)`. -/
def pbkdf2Block (prf : Bytes → Bytes) (salt : Bytes) (cost i : Nat) : Bytes :=
  chainSum (List.zipWith (· ^^^ ·)) prf (salt ++ be32 i) cost

/-- `T_1 || T_2 || ...`, cut off after `n` bytes. -/
def pbkdf2Output (prf : Bytes → Bytes) (salt : Bytes) (cost n : Nat) : Bytes :=
  ((List.range ((n + 15) / 16)).flatMap fun j => pbkdf2Block prf salt cost (1 + j)).take n

/-- The derivation of a context by definition, over the CMAC that wolfCrypt computes. -/
def pbkdf2Of (spec : KdfSpec) (ctx : KdfCtx) (n : Nat) : Bytes :=
  pbkdf2Output (aesCmacPrf128 (fun key message => spec.cmac key [message]) (ctx.inputs .password))
    (ctx.inputs .salt) ctx.cost n

/-- What the code can count. -/
def pbkdf2CmacMax : Nat := 16 * (2 ^ 32 - 2)

theorem specIterate_eq (mac : Bytes → Bytes) (n : Nat) (u t : Bytes) :
    specIterate mac n u t = chainLoop (List.zipWith (· ^^^ ·)) mac n u t := by
  induction n generalizing u t with
  | zero => rfl
  | succ n ih => exact ih _ _

theorem specPbkdf2Block_eq (spec : KdfSpec) (ctx : KdfCtx) (i : Nat) :
    specPbkdf2Block spec ctx.material i =
      pbkdf2Block (aesCmacPrf128 (fun key message => spec.cmac key [message]) (ctx.inputs .password))
        (ctx.inputs .salt) ctx.cost i := by
  unfold pbkdf2Block
  rw [← chainLoop_eq_chainSum]
  unfold specPbkdf2Block
  dsimp only
  rw [specIterate_eq]
  have keyed : (if (ctx.material.inputs .password).length == wcAesBlockSize then
      ctx.material.inputs .password
      else spec.cmac (List.replicate wcAesBlockSize 0) [ctx.material.inputs .password]) =
      if (ctx.inputs .password).length = 16 then ctx.inputs .password
      else spec.cmac (List.replicate 16 0) [ctx.inputs .password] := by
    simp only [beq_iff_eq]
    rfl
  rw [keyed]
  rfl

section

variable {spec : KdfSpec} {env : KdfEnv Hmac Cmac} (computes : Computes spec env.wc)
  (total : ∀ key pieces, ∃ tag, kdfCmac env.wc.mac key pieces = .ok tag)
include computes total

/-- A CMAC that never fails has tags of one block. -/
theorem cmac_length_of_total (key : Bytes) (pieces : List Bytes) :
    (spec.cmac key pieces).length = wcAesBlockSize := by
  obtain ⟨tag, made⟩ := total key pieces
  rw [← computes.cmac made]
  exact kdfCmac_length made

theorem pbkdf2Block_length (password salt : Bytes) (cost i : Nat) :
    (pbkdf2Block (aesCmacPrf128 (fun key message => spec.cmac key [message]) password) salt cost
      i).length = wcAesBlockSize := by
  have tags (message : Bytes) : (aesCmacPrf128 (fun key message => spec.cmac key [message]) password
      message).length = wcAesBlockSize := cmac_length_of_total computes total _ _
  have loop (n : Nat) (u t : Bytes) (length : t.length = wcAesBlockSize) :
      (chainLoop (List.zipWith (· ^^^ ·)) (aesCmacPrf128 (fun key message => spec.cmac key [message])
        password) n u t).length = wcAesBlockSize := by
    induction n generalizing u t with
    | zero => exact length
    | succ n ih =>
      refine ih _ _ ?_
      rw [List.length_zipWith, length, tags, Nat.min_self]
  unfold pbkdf2Block
  rw [← chainLoop_eq_chainSum]
  exact loop _ _ _ (tags _)

theorem firstN_pbkdf2 (ctx : KdfCtx) (n : Nat) :
    firstN (blockStream (fun j => specPbkdf2Block spec ctx.material (1 + j)) wcAesBlockSize) n =
      pbkdf2Of spec ctx n := by
  have blocks : (fun j => specPbkdf2Block spec ctx.material (1 + j)) = fun j =>
      pbkdf2Block (aesCmacPrf128 (fun key message => spec.cmac key [message]) (ctx.inputs .password))
        (ctx.inputs .salt) ctx.cost (1 + j) := by
    funext j
    exact specPbkdf2Block_eq spec ctx (1 + j)
  have enough : n ≤ (n + 15) / 16 * wcAesBlockSize := by
    unfold wcAesBlockSize
    omega
  rw [blocks, firstN_blockStream (by decide)
    (fun j => pbkdf2Block_length computes total _ _ _ _) enough]
  rfl

end

/-! ## One computation -/

/-- The code refuses before its loop: a password or salt whose length does not fit, or no memory. -/
def Pbkdf2Refused (env : KdfEnv Hmac Cmac) (ctx : KdfCtx) : Prop :=
  uint32Max < (ctx.inputs .password).length ∨ env.alloc .cmac = false ∨
    uint32Max < (ctx.inputs .salt).length + 4 ∨ env.alloc .blockInput = false

/-- The computation ends, in an error or with the derivation by definition. -/
def Pbkdf2Exact (spec : KdfSpec) (ctx : KdfCtx) (n : Nat) (r : Except KdfFail Bytes) : Prop :=
  (∃ status, r = .error (.status status)) ∨ r = .ok (pbkdf2Of spec ctx n)

/-- The number of blocks as the code computes it. -/
def pbkdf2Blocks (n : Nat) : Nat := (n + wcAesBlockSize - 1) % (sizeMax + 1) / wcAesBlockSize

section

variable {env : KdfEnv Hmac Cmac} {ctx : KdfCtx}

theorem isWord32_false {n : Nat} (long : uint32Max < n) : isWord32 n = false := by
  by_contra word
  rw [Bool.not_eq_false, isWord32_iff] at word
  omega

theorem kdfPbkdf2Cmac_refuses (total : ∀ key pieces, ∃ tag, kdfCmac env.wc.mac key pieces = .ok tag)
    (refused : Pbkdf2Refused env ctx) (n : Nat) :
    ∃ status, kdfPbkdf2Cmac env ctx n = .error (.status status) := by
  obtain ⟨key, normalised⟩ := pbkdf2CmacKey_total total (ctx.inputs .password)
  unfold kdfPbkdf2Cmac
  dsimp only
  by_cases word : isWord32 (ctx.inputs .password).length = true
  swap
  · rw [if_pos (by simpa using word)]
    exact ⟨_, rfl⟩
  rw [if_neg (by simp [word])]
  by_cases memory : env.alloc .cmac = true
  swap
  · rw [if_pos (by simpa using memory)]
    exact ⟨_, rfl⟩
  rw [if_neg (by simp [memory]), normalised]
  dsimp only [bind, Except.bind]
  rcases refused with long | short | long | short
  · rw [isWord32_false long] at word
    cases word
  · rw [short] at memory
    cases memory
  · rw [if_pos (by simp [isWord32_false long])]
    exact ⟨_, rfl⟩
  · split
    · exact ⟨_, rfl⟩
    · rw [if_pos (by simp [short])]
      exact ⟨_, rfl⟩

/-- Behind the checks: the loop does not end, or the first blocks are there. -/
theorem kdfPbkdf2Cmac_runs (total : ∀ key pieces, ∃ tag, kdfCmac env.wc.mac key pieces = .ok tag)
    (admitted : ¬Pbkdf2Refused env ctx) (n : Nat) :
    kdfPbkdf2Cmac env ctx n = .error .hangs ∧ uint32Max ≤ pbkdf2Blocks n ∨
      (∃ bytes, kdfPbkdf2Cmac env ctx n = .ok bytes) ∧ pbkdf2Blocks n < uint32Max := by
  obtain ⟨key, normalised⟩ := pbkdf2CmacKey_total total (ctx.inputs .password)
  unfold Pbkdf2Refused at admitted
  simp only [not_or, Nat.not_lt, Bool.not_eq_false] at admitted
  obtain ⟨password, memory, salt, room⟩ := admitted
  unfold kdfPbkdf2Cmac
  dsimp only
  rw [if_neg (by simp [isWord32_iff.mpr password]), if_neg (by simp [memory]), normalised]
  dsimp only [bind, Except.bind]
  rw [if_neg (by simp [isWord32_iff.mpr salt]), if_neg (by simp [room])]
  obtain ⟨all, made⟩ := pbkdf2CmacBlocks_total total key (ctx.inputs .salt) ctx.cost (uint32Max + 1) 1
  obtain ⟨stream, ended⟩ :=
    pbkdf2CmacBlocks_total total key (ctx.inputs .salt) ctx.cost (pbkdf2Blocks n) 1
  by_cases many : pbkdf2Blocks n ≥ uint32Max
  · rw [if_pos (by exact many), made]
    exact .inl ⟨rfl, many⟩
  · rw [if_neg (by exact many)]
    change pbkdf2CmacBlocks env.wc.mac key (ctx.inputs .salt) ctx.cost
      ((n + wcAesBlockSize - 1) % (sizeMax + 1) / wcAesBlockSize) 1 = .ok stream at ended
    rw [ended]
    exact .inr ⟨⟨_, rfl⟩, Nat.lt_of_not_ge many⟩

theorem pbkdf2Blocks_lt {n : Nat} (short : n ≤ pbkdf2CmacMax) : pbkdf2Blocks n < uint32Max := by
  unfold pbkdf2CmacMax at short
  unfold pbkdf2Blocks wcAesBlockSize sizeMax uint32Max
  omega

theorem pbkdf2Blocks_ge {n : Nat} (long : pbkdf2CmacMax < n) (fits : n + 15 ≤ sizeMax) :
    uint32Max ≤ pbkdf2Blocks n := by
  unfold pbkdf2CmacMax at long
  unfold sizeMax at fits
  unfold pbkdf2Blocks wcAesBlockSize sizeMax uint32Max
  omega

theorem pbkdf2Of_length {spec : KdfSpec} (computes : Computes spec env.wc)
    (total : ∀ key pieces, ∃ tag, kdfCmac env.wc.mac key pieces = .ok tag) (n : Nat) :
    (pbkdf2Of spec ctx n).length = n := by
  rw [← firstN_pbkdf2 computes total, length_firstN]

/-- One computation is exact just when the code refuses it or can count its blocks. -/
theorem kdfPbkdf2Cmac_exact_iff {spec : KdfSpec} (computes : Computes spec env.wc)
    (total : ∀ key pieces, ∃ tag, kdfCmac env.wc.mac key pieces = .ok tag) {n : Nat}
    (word : n ≤ sizeMax) :
    Pbkdf2Exact spec ctx n (kdfPbkdf2Cmac env ctx n) ↔ Pbkdf2Refused env ctx ∨ n ≤ pbkdf2CmacMax := by
  constructor
  · intro exactly
    by_contra neither
    rw [not_or, Nat.not_le] at neither
    obtain ⟨admitted, long⟩ := neither
    rcases kdfPbkdf2Cmac_runs total admitted n with ⟨hung, -⟩ | ⟨⟨bytes, made⟩, few⟩
    · rw [hung] at exactly
      rcases exactly with ⟨status, failed⟩ | ended
      · cases failed
      · cases ended
    · have wraps : sizeMax < n + 15 := by
        by_contra fits
        have many := pbkdf2Blocks_ge long (Nat.le_of_not_lt fits)
        omega
      have nothing := (kdfPbkdf2Cmac_stream computes word made).2 wraps
      rw [made, nothing] at exactly
      rcases exactly with ⟨status, failed⟩ | ended
      · cases failed
      · have length := congrArg List.length (Except.ok.inj ended)
        rw [pbkdf2Of_length computes total, List.length_nil] at length
        unfold pbkdf2CmacMax at long
        omega
  · rintro (refused | short)
    · exact .inl (kdfPbkdf2Cmac_refuses total refused n)
    · by_cases refused : Pbkdf2Refused env ctx
      · exact .inl (kdfPbkdf2Cmac_refuses total refused n)
      rcases kdfPbkdf2Cmac_runs total refused n with ⟨-, many⟩ | ⟨⟨bytes, made⟩, -⟩
      · exact absurd (pbkdf2Blocks_lt short) (Nat.not_lt.mpr many)
      · have fits : n + 15 ≤ sizeMax := by
          unfold pbkdf2CmacMax at short
          unfold sizeMax
          omega
        rw [made, (kdfPbkdf2Cmac_stream computes word made).1 fits, firstN_pbkdf2 computes total]
        exact .inr rfl

end

/-! ## Every state of every run -/

/-- What the cache holds is a beginning of the stream. -/
def CacheStream (spec : KdfSpec) (ctx : KdfCtx) : Prop :=
  ∀ cache, ctx.outputCache = some cache → ctx.outputStarted = true ∧
    cache = firstN (kdfStream spec ctx.material) cache.length ∧
    cache.length ≤ wolfpsaKdfMaxCacheBytes

section

variable {spec : KdfSpec} {ctx ctx' : KdfCtx}

theorem CacheStream.of_same (held : CacheStream spec ctx) (cache : ctx'.outputCache = ctx.outputCache)
    (started : ctx.outputStarted = true → ctx'.outputStarted = true ∧ ctx'.material = ctx.material) :
    CacheStream spec ctx' := by
  intro stored present
  obtain ⟨output, same, small⟩ := held stored (cache ▸ present)
  obtain ⟨later, material⟩ := started output
  exact ⟨later, by rw [material]; exact same, small⟩

theorem CacheStream.done (held : CacheStream spec ctx) (status : Status) :
    CacheStream spec (wolfpsaKdfDone ctx status) := by
  unfold wolfpsaKdfDone
  split
  · exact held.of_same rfl fun started => ⟨started, rfl⟩
  · exact held

theorem CacheStream.started (held : CacheStream spec ctx) (n : Nat) :
    CacheStream spec (kdfStarted ctx n) :=
  held.of_same rfl fun started => ⟨rfl, kdfStarted_material started n⟩

theorem CacheStream.filled {env : KdfEnv Hmac Cmac} (computes : Computes spec env.wc) {n : Nat}
    (held : CacheStream spec ctx) (started : ctx.outputStarted = true)
    (filled : kdfFillCache env ctx n = .ok ctx') : CacheStream spec ctx' := by
  obtain ⟨material, -, -, -, marked, old⟩ :=
    kdfFillCache_stream computes (fun cache present => (held cache present).2) filled
  intro cache present
  rw [material]
  exact ⟨marked.trans started, old cache present⟩

theorem CacheStream.output {env : KdfEnv Hmac Cmac} (computes : Computes spec env.wc) {n : Nat}
    {r : Except KdfFail Bytes} (held : CacheStream spec ctx)
    (moved : KdfOutputMove env ctx n r ctx') : CacheStream spec ctx' := by
  cases moved with
  | kept => exact held
  | exhausted =>
    refine held.of_same rfl fun started => ⟨started, ?_⟩
    exact kdfStarted_material started n
  | stopped => exact held.started n
  | cached filled => exact (held.started n).filled computes rfl filled
  | delivered done =>
    obtain ⟨-, -, -, cached, filled, -, rfl⟩ := done
    exact ((held.started n).filled computes rfl filled).of_same rfl fun started => ⟨started, rfl⟩

theorem CacheStream.moved {e : KdfEvent Hmac Cmac} {r : KdfResult} (computes : Computes spec e.env.wc)
    (held : CacheStream spec ctx) (moved : KdfMove e ctx r ctx') : CacheStream spec ctx' := by
  -- an input is accepted only before the output, when there is no cache
  have early (before : ctx.outputStarted = false) (cache : ctx'.outputCache = ctx.outputCache) :
      CacheStream spec ctx' := by
    refine held.of_same cache fun started => ?_
    rw [before] at started
    cases started
  cases moved with
  | refused => exact held.done _
  | kept => exact held
  | lowered => exact held.of_same rfl fun started => ⟨started, rfl⟩
  | input gives admits => exact early admits.early rfl
  | cost call before => exact early before rfl
  | produced ran => exact (held.output computes (wolfpsaKdfOutputBytes_move ran)).done _
  | failed ran => exact (held.output computes (wolfpsaKdfOutputBytes_move ran)).done _
  | hung ran => exact held.output computes (wolfpsaKdfOutputBytes_move ran)

end

theorem cacheStream_step {spec : KdfSpec} {operation : KdfOperation} {e : KdfEvent Hmac Cmac}
    (computes : Computes spec e.env.wc) (held : ∀ ctx, operation = some ctx → CacheStream spec ctx) :
    ∀ ctx, (kdfStep operation e).2 = some ctx → CacheStream spec ctx := by
  intro ctx' active
  cases operation with
  | none =>
    intro cache present
    rw [(kdfStep_none active).outputCache] at present
    cases present
  | some ctx =>
    by_cases abort : e.call = .abort
    · simp [kdfStep, abort, psaKeyDerivationAbort] at active
    cases poisoned : ctx.errorState with
    | true =>
      rw [kdfStep_errored poisoned abort] at active
      cases active
      exact held _ rfl
    | false =>
      obtain ⟨result, next, ran, moved⟩ := kdfStep_move poisoned abort
      rw [ran] at active
      cases active
      exact (held ctx rfl).moved computes moved

theorem run_cacheStream {spec : KdfSpec} (es : List (KdfEvent Hmac Cmac))
    (computes : ∀ e ∈ es, Computes spec e.env.wc) :
    ∀ ctx, (run kdfStep none es).2 = some ctx → CacheStream spec ctx := by
  refine run_state_invariant (fun operation => ∀ ctx, operation = some ctx → CacheStream spec ctx)
    ?_ ?_ es computes
  · intro ctx inactive
    cases inactive
  · intro operation e here held
    exact cacheStream_step here held

/-- The computations an output call can ask for: the slice with all before it, or the cache. -/
theorem wolfpsaKdfOutputBytes_ends {env : KdfEnv Hmac Cmac} {ctx : KdfCtx} {n : Nat}
    (ends : ∀ used k, SameInputs ctx used →
      k ≤ ctx.outputOffset + n ∨ k ≤ wolfpsaKdfMaxCacheBytes →
      wolfpsaKdfComputeOutput env used k ≠ .error .hangs) :
    (wolfpsaKdfOutputBytes env ctx ⟨false, n⟩).1 ≠ .error .hangs := by
  have begun : SameInputs ctx (kdfStarted ctx n) := ⟨rfl, rfl, rfl, rfl, rfl, rfl⟩
  intro hung
  unfold wolfpsaKdfOutputBytes at hung
  rw [if_neg (by simp)] at hung
  dsimp only at hung
  split at hung
  · rw [kdfSnapshotL_eq] at hung
    split at hung
    · rename_i reserved granted
      obtain ⟨-, moved⟩ := wolfpsaKdfRequireOutput_ok granted
      subst moved
      split at hung
      · cases hung
      split at hung
      · rename_i fail failed
        cases hung
        change kdfFillCache env (kdfStarted ctx n) n = .error .hangs at failed
        unfold kdfFillCache at failed
        split at failed
        · rename_i first
          simp only [Bool.and_eq_true, decide_eq_true_eq] at first
          split at failed
          · cases failed
          · cases computed : wolfpsaKdfComputeOutput env (kdfStarted ctx n)
                (n + (kdfStarted ctx n).capacity) with
            | ok cache =>
              rw [computed] at failed
              cases failed
            | error fail =>
              rw [computed] at failed
              cases failed
              exact ends _ _ begun (.inr first.2) computed
        · cases failed
      · rename_i cached filled
        change kdfFillCache env (kdfStarted ctx n) n = .ok cached at filled
        have kept := begun.trans (kdfFillCache_keeps filled rfl).same
        have offset : cached.outputOffset = ctx.outputOffset := (kdfFillCache_capacity filled).2
        split at hung
        · rename_i fail failed
          cases hung
          unfold kdfDeliver at failed
          split at failed
          · split at failed
            · cases failed
            · cases failed
          split at failed
          · exact ends _ _ kept (.inl (Nat.le_add_left _ _)) failed
          split at failed
          · cases failed
          · cases computed : wolfpsaKdfComputeOutput env cached (cached.outputOffset + n) with
            | ok full =>
              rw [computed] at failed
              cases failed
            | error fail =>
              rw [computed] at failed
              cases failed
              exact ends _ _ kept (.inl (Nat.le_of_eq (by rw [offset]))) computed
        · cases hung
    · cases hung
  · cases hung

/-- The call ends, in an error or with the next `n` bytes of the derivation by definition. -/
def SliceExact (spec : KdfSpec) (ctx : KdfCtx) (n : Nat) (r : Except KdfFail Bytes) : Prop :=
  (∃ status, r = .error (.status status)) ∨
    r = .ok ((pbkdf2Of spec ctx (ctx.outputOffset + n)).drop ctx.outputOffset)

theorem wolfpsaKdfOutputBytes_slice {spec : KdfSpec} {env : KdfEnv Hmac Cmac} {ctx : KdfCtx}
    (computes : Computes spec env.wc)
    (total : ∀ key pieces, ∃ tag, kdfCmac env.wc.mac key pieces = .ok tag)
    (held : CacheStream spec ctx) (derives : ctx.isRawKdf = false)
    (cmac : ctx.alg = psaAlgPbkdf2AesCmacPrf128) {n : Nat}
    (short : ctx.outputOffset + n ≤ pbkdf2CmacMax) :
    SliceExact spec ctx n (wolfpsaKdfOutputBytes env ctx ⟨false, n⟩).1 := by
  have small : wolfpsaKdfMaxCacheBytes ≤ pbkdf2CmacMax := by decide
  have large : pbkdf2CmacMax + 15 ≤ sizeMax := by decide
  have ends := @wolfpsaKdfOutputBytes_ends Hmac Cmac env ctx n
  cases ran : wolfpsaKdfOutputBytes env ctx ⟨false, n⟩ with
  | mk r ctx₁ =>
    rw [ran] at ends
    cases r with
    | error fail =>
      cases fail with
      | status status => exact .inl ⟨status, rfl⟩
      | hangs =>
        refine absurd rfl (ends fun used k same within hung => ?_)
        have bound : k ≤ pbkdf2CmacMax := by omega
        rw [wolfpsaKdfComputeOutput_pbkdf2Cmac env (same.isRawKdf.trans derives)
          (same.alg.trans cmac)] at hung
        have exactly : Pbkdf2Exact spec used k (kdfPbkdf2Cmac env used k) :=
          (kdfPbkdf2Cmac_exact_iff computes total (by omega)).mpr (.inr bound)
        rw [hung] at exactly
        rcases exactly with ⟨status, failed⟩ | ended
        · cases failed
        · cases ended
    | ok bytes =>
      obtain ⟨-, -, fits, cached, filled, deliver, -⟩ := wolfpsaKdfOutputBytes_ok ran
      obtain ⟨material, raw, alg, offset, -, old⟩ := kdfFillCache_stream computes
        (fun cache present => ((held.started n) cache present).2) filled
      have notRaw : cached.isRawKdf = false := raw.trans derives
      have sameOffset : cached.outputOffset = ctx.outputOffset := offset
      have delivered := kdfDeliver_stream computes (by rw [sameOffset]; exact fits)
        (fun isRaw => by rw [notRaw] at isRaw; cases isRaw)
        (fun cache present => by rw [material]; exact (old cache present).1)
        (by rintro ⟨-, -, long⟩; rw [sameOffset] at long; omega) deliver
      have stream : kdfStream spec cached.material =
          blockStream (fun j => specPbkdf2Block spec ctx.material (1 + j)) wcAesBlockSize := by
        rw [material]
        have family : (kdfStarted ctx n).material.alg = psaAlgPbkdf2AesCmacPrf128 := cmac
        have isRaw : (kdfStarted ctx n).material.isRawKdf = false := derives
        unfold kdfStream
        rw [family, isRaw, if_neg (by decide), if_neg (by decide), if_neg (by decide),
          if_neg (by decide), if_neg (by decide), if_pos (by decide)]
        rfl
      refine .inr (congrArg Except.ok ?_)
      rw [delivered, stream, sameOffset, ← firstN_pbkdf2 computes total, drop_firstN]

/-- With a CMAC that computes every tag, PBKDF2-AES-CMAC-PRF-128 ends and is exact just when the
code refuses the password, the salt or for want of memory, or the length is at most
16 * (2^32 - 2); the block loop ends just for the numbers of blocks below the largest word. In every
state of every run, an output call that stays within that length ends, in an error or with the next
bytes of the derivation, and the counters of its blocks are encoded unwrapped. -/
theorem pbkdf2_cmac_exact_iff {spec : KdfSpec} {env : KdfEnv Hmac Cmac}
    (computes : Computes spec env.wc)
    (total : ∀ key pieces, ∃ tag, kdfCmac env.wc.mac key pieces = .ok tag) :
    (∀ (ctx : KdfCtx) (n : Nat), ctx.isRawKdf = false → ctx.alg = psaAlgPbkdf2AesCmacPrf128 →
      n ≤ sizeMax → (Pbkdf2Exact spec ctx n (wolfpsaKdfComputeOutput env ctx n) ↔
        Pbkdf2Refused env ctx ∨ n ≤ pbkdf2CmacMax)) ∧
    (∀ (key salt : Bytes) (cost blocks : Nat),
      (∃ fuel, (pbkdf2CmacLoop env.wc.mac key salt cost blocks fuel 1).isSome) ↔ blocks < uint32Max) ∧
    (∀ (es : List (KdfEvent Hmac Cmac)) (ctx : KdfCtx), (run kdfStep none es).2 = some ctx →
      (∀ e ∈ es, Computes spec e.env.wc) → ctx.alg = psaAlgPbkdf2AesCmacPrf128 →
      ∀ n, ctx.outputOffset + n ≤ pbkdf2CmacMax →
        SliceExact spec ctx n (wolfpsaKdfOutputBytes env ctx ⟨false, n⟩).1) ∧
    ∀ n j, n ≤ pbkdf2CmacMax → j * 16 < n → beNat (be32 (1 + j)) = 1 + j := by
  refine ⟨?_, ?_, ?_, ?_⟩
  · intro ctx n derives cmac word
    rw [wolfpsaKdfComputeOutput_pbkdf2Cmac env derives cmac]
    exact kdfPbkdf2Cmac_exact_iff computes total word
  · intro key salt cost blocks
    constructor
    · rintro ⟨fuel, ended⟩
      by_contra many
      rw [pbkdf2CmacLoop_never_ends (Nat.le_of_not_lt many)
        (pbkdf2CmacBlock_total total key salt cost) fuel (by decide)] at ended
      cases ended
    · intro few
      refine ⟨blocks + 1, ?_⟩
      rw [pbkdf2CmacLoop_ends env.wc.mac key salt cost few (Nat.add_comm 1 blocks)
        (Nat.lt_succ_self blocks)]
      rfl
  · intro es ctx reached computesRun cmac n short
    have derives : ctx.isRawKdf = false := by
      by_contra raw
      have category := (run_inputsTracked es ctx reached).raw (by simpa using raw)
      rw [cmac] at category
      revert category
      decide
    exact wolfpsaKdfOutputBytes_slice computes total (run_cacheStream es computesRun ctx reached)
      derives cmac short
  · intro n j short reached
    unfold pbkdf2CmacMax at short
    simp only [be32, beNat, BitVec.toNat_ofNat, List.length_cons, List.length_nil,
      Nat.shiftRight_eq_div_pow]
    omega

/-! ### A CMAC given as a function -/

/-- wolfCrypt with the given CMAC: its state is the key and what was fed so far. -/
def wcOfCmac (cmac : Bytes → Bytes → Bytes) : WcKdf Unit (Bytes × Bytes) where
  mac := {
    hmacInit := .error .other
    hmacSetKey := fun _ _ _ => .error .other
    hmacUpdate := fun _ _ => .error .other
    hmacFinal := fun _ => .error .other
    initCmac := fun key => .ok (key, [])
    cmacUpdate := fun state piece => .ok (state.1, state.2 ++ piece)
    cmacFinal := fun state _ => .ok (cmac state.1 state.2) }
  hashGetDigestSize := sampleWcKdf.hashGetDigestSize
  hkdfExtract := fun _ _ _ => .error .other
  hkdfExpand := fun _ _ _ _ => .error .other
  prfTls := fun _ _ _ _ _ => .error .other
  pbkdf2 := fun _ _ _ _ _ => .error .other

def specOfCmac (cmac : Bytes → Bytes → Bytes) : KdfSpec :=
  { sampleKdfSpec with cmac := fun key pieces => cmac key pieces.flatten }

def envOfCmac (cmac : Bytes → Bytes → Bytes) : KdfEnv Unit (Bytes × Bytes) where
  getKeyData := fun _ => .error ⟨.invalidHandle, failing⟩
  getKeyAttributes := fun _ => .error ⟨.invalidHandle, failing⟩
  keyAgreementSecret := fun _ _ _ _ => .error ⟨.notSupported, failing⟩
  importKey := fun _ _ => (.notSupported, psaKeyIdNull)
  alloc := fun _ => true
  wc := wcOfCmac cmac

section

variable {cmac : Bytes → Bytes → Bytes} (lengths : ∀ key message, (cmac key message).length = 16)
include lengths

theorem kdfCmac_wcOfCmac (key : Bytes) (pieces : List Bytes) :
    kdfCmac (wcOfCmac cmac).mac key pieces = .ok (cmac key pieces.flatten) := by
  have fed (state : Bytes × Bytes) : pieces.foldlM (wcOfCmac cmac).mac.cmacUpdate state =
      .ok (state.1, state.2 ++ pieces.flatten) := by
    induction pieces generalizing state with
    | nil => simp [pure, Except.pure]
    | cons piece rest ih =>
      rw [List.foldlM_cons]
      show rest.foldlM (wcOfCmac cmac).mac.cmacUpdate (state.1, state.2 ++ piece) = _
      rw [ih, List.flatten_cons, List.append_assoc]
  unfold kdfCmac
  show (do
    let state ← ofWcResult (pieces.foldlM (wcOfCmac cmac).mac.cmacUpdate (key, []))
    let tag ← ofWcResult ((wcOfCmac cmac).mac.cmacFinal state wcAesBlockSize)
    if tag.length ≠ wcAesBlockSize then .error (.status .notSupported) else return tag) = _
  rw [fed]
  show (if (cmac key ([] ++ pieces.flatten)).length ≠ wcAesBlockSize then _ else _) = _
  rw [if_neg (by rw [lengths]; decide), List.nil_append]
  rfl

theorem computes_specOfCmac : Computes (specOfCmac cmac) (wcOfCmac cmac) where
  digestSize _ := rfl
  extract failed := by cases failed
  expand failed := by cases failed
  prfTls failed := by cases failed
  pbkdf2 failed := by cases failed
  hmac failed := by cases failed
  cmac {key pieces tag} made := by
    rw [kdfCmac_wcOfCmac lengths] at made
    exact (Except.ok.inj made).symm

theorem total_wcOfCmac (key : Bytes) (pieces : List Bytes) :
    ∃ tag, kdfCmac (envOfCmac cmac).wc.mac key pieces = .ok tag :=
  ⟨_, kdfCmac_wcOfCmac lengths key pieces⟩

end

/-- PBKDF2-AES-CMAC-PRF-128 with one iteration, an empty salt and a password of 16 bytes. -/
def cmacInputs (cmac : Bytes → Bytes → Bytes) : List (KdfEvent Unit (Bytes × Bytes)) :=
  [.setup psaAlgPbkdf2AesCmacPrf128, .inputInteger .cost 1, .inputBytes .salt (.data []),
    .inputBytes .password (.data sampleSecret)].map (⟨envOfCmac cmac, ·⟩)

/-- The operation the calls leave, ready for output. -/
def cmacReady : KdfCtx where
  alg := psaAlgPbkdf2AesCmacPrf128
  kaAlg := 0
  capacity := psaKeyDerivationUnlimitedCapacity
  outputOffset := 0
  stepsSet := [.password, .salt, .cost]
  inputs := Function.update (Function.update (fun _ => []) .salt []) .password sampleSecret
  cost := 1
  sp800_108LBytes := 0
  isKeyAgreement := false
  isRawKdf := false
  outputStarted := false
  canOutputKey := false
  errorState := false
  outputCache := none

/-- AES-CMAC of `[1]_4` under `sampleSecret`. -/
def cmacTag : Bytes :=
  [0x01, 0x63, 0x51, 0xc8, 0xd9, 0xba, 0x59, 0x90, 0xe8, 0xdd, 0xb6, 0x1b, 0xf3, 0x41, 0x40, 0x8f]

def sampleCmac (key message : Bytes) : Bytes :=
  if key = sampleSecret ∧ message = be32 1 then cmacTag else List.replicate 16 0

theorem sampleCmac_length (key message : Bytes) : (sampleCmac key message).length = 16 := by
  unfold sampleCmac
  split <;> rfl

/-- The first ten bytes. -/
theorem pbkdf2_cmac_exact_ten :
    (run kdfStep none (cmacInputs sampleCmac)).2 = some cmacReady ∧
      Pbkdf2Exact (specOfCmac sampleCmac) cmacReady 10
        (wolfpsaKdfComputeOutput (envOfCmac sampleCmac) cmacReady 10) ∧
      wolfpsaKdfComputeOutput (envOfCmac sampleCmac) cmacReady 10 = .ok (cmacTag.take 10) := by
  have exactly := (pbkdf2_cmac_exact_iff (computes_specOfCmac sampleCmac_length)
    (total_wcOfCmac sampleCmac_length)).1 cmacReady 10 rfl rfl (by decide)
  exact ⟨rfl, exactly.mpr (.inr (by decide)), rfl⟩

/-- Whatever function CMAC is: one byte more than the code can count, and it does not return. -/
theorem cmacReady_hangs {cmac : Bytes → Bytes → Bytes}
    (lengths : ∀ key message, (cmac key message).length = 16) :
    wolfpsaKdfComputeOutput (envOfCmac cmac) cmacReady 68719476705 = .error .hangs ∧
      ¬Pbkdf2Exact (specOfCmac cmac) cmacReady 68719476705
        (wolfpsaKdfComputeOutput (envOfCmac cmac) cmacReady 68719476705) := by
  have admitted : ¬Pbkdf2Refused (envOfCmac cmac) cmacReady := by
    rintro (long | short | long | short)
    · exact absurd long (by decide)
    · cases short
    · exact absurd long (by decide)
    · cases short
  have hung : wolfpsaKdfComputeOutput (envOfCmac cmac) cmacReady 68719476705 = .error .hangs := by
    rw [wolfpsaKdfComputeOutput_pbkdf2Cmac (envOfCmac cmac) rfl rfl]
    rcases kdfPbkdf2Cmac_runs (total_wcOfCmac lengths) admitted 68719476705 with ⟨hung, -⟩ | ⟨-, few⟩
    · exact hung
    · exact absurd few (by decide)
  refine ⟨hung, ?_⟩
  rw [hung]
  rintro (⟨status, failed⟩ | ended)
  · cases failed
  · cases ended

theorem pbkdf2_cmac_does_not_return :
    (run kdfStep none (cmacInputs sampleCmac)).2 = some cmacReady ∧
      wolfpsaKdfComputeOutput (envOfCmac sampleCmac) cmacReady 68719476705 = .error .hangs ∧
      ¬Pbkdf2Exact (specOfCmac sampleCmac) cmacReady 68719476705
        (wolfpsaKdfComputeOutput (envOfCmac sampleCmac) cmacReady 68719476705) :=
  ⟨rfl, cmacReady_hangs sampleCmac_length⟩

end WolfPSA.Guarantees
