import WolfPSA.Guarantees.CipherIv
import WolfPSA.Guarantees.PartialBlock
import WolfPSA.Source.CipherBlocks

/-!
# Block cipher input in any pieces

CBC without padding, CBC with PKCS #7 and ECB, with AES and with triple DES, in both directions:
however the input is cut into `psa_cipher_update` calls, the output and the final status are those of
the mode over the whole input. wolfCrypt is taken to compute its modes on whole blocks.
-/

namespace WolfPSA.Guarantees
open Lib Source

variable {Aes Des3 ChaCha : Type}

/-! ## The modes on a whole input -/

/-- One block of CBC in a direction. -/
def cbcStep : CipherDirection → (Bytes → Bytes) → Bytes → Bytes → Bytes × Bytes
  | .encryption => cbcEncryptStep
  | .decryption => cbcDecryptStep

/-- One block of the mode of an algorithm. -/
def modeStep (alg : Algorithm) (direction : CipherDirection) (f : Bytes → Bytes) :
    Bytes → Bytes → Bytes × Bytes :=
  if alg = psaAlgEcbNoPadding then ecbStep f else cbcStep direction f

/-- The output and the status of the mode over a whole input, from the block function of the key: the
full blocks, and then what the padding says. -/
def textbookMode (alg : Algorithm) (direction : CipherDirection) (n : Nat) (f : Bytes → Bytes)
    (iv input : Bytes) : Bytes × Status :=
  let step := modeStep alg direction f
  if alg = psaAlgCbcPkcs7 then
    match direction with
    | .encryption =>
      ((blockwise n step (input.length / n + 1) iv (input ++ pkcs7Padding n input.length)).1, .success)
    | .decryption =>
      let body := blockwise n step ((input.length - 1) / n) iv input
      if input.length = 0 ∨ input.length % n ≠ 0 then (body.1, .invalidPadding)
      else
        match pkcs7Unpad n (step body.2 (input.drop ((input.length - 1) / n * n))).1 with
        | none => (body.1, .invalidPadding)
        | some text => (body.1 ++ text, .success)
  else
    ((blockwise n step (input.length / n) iv input).1,
      if input.length % n = 0 then .success else .invalidArgument)

/-! ## wolfCrypt on whole blocks -/

/-- A block cipher of wolfCrypt with blocks of `n` bytes computes its modes: an object with a key in a
direction applies the block function of both, and the CBC calls continue from its register. -/
structure TextbookBlocks {Obj : Type} (n : Nat) (calls : BlockCalls Obj)
    (setKey : Obj → Bytes → Bytes → CipherDirection → Except WcError Obj)
    (cipher : CipherDirection → Bytes → Bytes → Bytes) where
  keyed : CipherDirection → Bytes → Obj → Prop
  register : Obj → Bytes
  whole : ∀ direction key block, block.length = n → (cipher direction key block).length = n
  setsKey : ∀ {fresh o key iv direction}, setKey fresh key iv direction = .ok o →
    keyed direction key o
  setsIV : ∀ {o key direction iv}, keyed direction key o → iv.length = n →
    ∃ o', calls.setIV o iv = .ok o' ∧ keyed direction key o' ∧ register o' = iv
  cbc : ∀ {o key direction k input}, keyed direction key o → input.length = k * n →
    ∃ o', calls.cbc direction o input =
        .ok ((blockwise n (cbcStep direction (cipher direction key)) k (register o) input).1, o') ∧
      keyed direction key o' ∧
      register o' = (blockwise n (cbcStep direction (cipher direction key)) k (register o) input).2
  ecb : ∀ {o key direction k input}, keyed direction key o → input.length = k * n →
    ∃ o', calls.ecb direction o input =
        .ok ((blockwise n (ecbStep (cipher direction key)) k (register o) input).1, o') ∧
      keyed direction key o'

/-- AES and triple DES of a build compute their modes. -/
structure TextbookCipher (wc : WcCipher Aes Des3 ChaCha)
    (aesCipher desCipher : CipherDirection → Bytes → Bytes → Bytes) where
  aes : TextbookBlocks aesBlockSize wc.aes wc.aesSetKey aesCipher
  des3 : TextbookBlocks desBlockSize wc.des3 wc.des3SetKey desCipher

section

variable {wc : WcCipher Aes Des3 ChaCha} {aesCipher desCipher : CipherDirection → Bytes → Bytes → Bytes}
  (laws : TextbookCipher wc aesCipher desCipher)

/-- The block function of a key, for triple DES or for AES. -/
def blockFunction (aesCipher desCipher : CipherDirection → Bytes → Bytes → Bytes) (isDes3 : Bool)
    (direction : CipherDirection) (key : Bytes) : Bytes → Bytes :=
  if isDes3 then desCipher direction (key.take 24) else aesCipher direction key

def blockLength (isDes3 : Bool) : Nat := if isDes3 then desBlockSize else aesBlockSize

/-- The object of the context has the key, and in CBC the register. -/
def Carries (alg : Algorithm) (direction : CipherDirection) (key : Bytes) (isDes3 : Bool)
    (ctx : CipherCtx Aes Des3 ChaCha) (register : Bytes) : Prop :=
  ctx.isDes3 = isDes3 ∧
    if isDes3 then laws.des3.keyed direction (key.take 24) ctx.des3 ∧
      (alg ≠ psaAlgEcbNoPadding → laws.des3.register ctx.des3 = register)
    else laws.aes.keyed direction key ctx.aes ∧
      (alg ≠ psaAlgEcbNoPadding → laws.aes.register ctx.aes = register)

/-- The wolfCrypt call of the mode. -/
def modeCall (wc : WcCipher Aes Des3 ChaCha) (alg : Algorithm) (direction : CipherDirection) :
    BlockCall Aes Des3 ChaCha :=
  if alg = psaAlgEcbNoPadding then cipherEcb wc direction else cipherCbc wc direction

/-- ECB does not depend on the register. -/
private theorem blockwise_ecb (n : Nat) (f : Bytes → Bytes) (k : Nat) (register register' input : Bytes) :
    (blockwise n (ecbStep f) k register input).1 = (blockwise n (ecbStep f) k register' input).1 := by
  induction k generalizing input with
  | zero => rfl
  | succ k ih =>
    exact congrArg (f (input.take n) ++ ·) (ih (input.drop n))

theorem modeCall_computes (alg : Algorithm) (direction : CipherDirection) (key : Bytes)
    (isDes3 : Bool) :
    ComputesMode (blockLength isDes3)
      (modeStep alg direction (blockFunction aesCipher desCipher isDes3 direction key))
      (Carries laws alg direction key isDes3) (modeCall wc alg direction) := by
  refine ⟨fun ctx register k input carried sized => ?_, fun ctx register block carried => carried⟩
  obtain ⟨kind, carried⟩ := carried
  unfold modeStep modeCall
  cases isDes3 with
  | true =>
    obtain ⟨keyed, holds⟩ := carried
    by_cases ecb : alg = psaAlgEcbNoPadding
    · rw [if_pos ecb, if_pos ecb]
      obtain ⟨o', called, keyed'⟩ := laws.des3.ecb keyed sized
      refine ⟨{ ctx with des3 := o' }, ?_, ⟨kind, keyed', fun other => absurd ecb other⟩,
        ⟨_, _, _, _, rfl⟩, rfl⟩
      unfold cipherEcb callBlocks
      rw [if_pos kind, called, blockwise_ecb _ _ _ _ register]
      rfl
    · rw [if_neg ecb, if_neg ecb]
      obtain ⟨o', called, keyed', moved⟩ := laws.des3.cbc keyed sized
      rw [holds ecb] at called moved
      refine ⟨{ ctx with des3 := o' }, ?_, ⟨kind, keyed', fun _ => moved⟩, ⟨_, _, _, _, rfl⟩, rfl⟩
      unfold cipherCbc callBlocks
      rw [if_pos kind, called]
      rfl
  | false =>
    obtain ⟨keyed, holds⟩ := carried
    by_cases ecb : alg = psaAlgEcbNoPadding
    · rw [if_pos ecb, if_pos ecb]
      obtain ⟨o', called, keyed'⟩ := laws.aes.ecb keyed sized
      refine ⟨{ ctx with aes := o' }, ?_, ⟨kind, keyed', fun other => absurd ecb other⟩,
        ⟨_, _, _, _, rfl⟩, rfl⟩
      unfold cipherEcb callBlocks
      rw [if_neg (by simp [kind]), called, blockwise_ecb _ _ _ _ register]
      rfl
    · rw [if_neg ecb, if_neg ecb]
      obtain ⟨o', called, keyed', moved⟩ := laws.aes.cbc keyed sized
      rw [holds ecb] at called moved
      refine ⟨{ ctx with aes := o' }, ?_, ⟨kind, keyed', fun _ => moved⟩, ⟨_, _, _, _, rfl⟩, rfl⟩
      unfold cipherCbc callBlocks
      rw [if_neg (by simp [kind]), called]
      rfl

include laws in
theorem blockFunction_whole (direction : CipherDirection) (key : Bytes) (isDes3 : Bool)
    {block : Bytes} (sized : block.length = blockLength isDes3) :
    (blockFunction aesCipher desCipher isDes3 direction key block).length = blockLength isDes3 := by
  cases isDes3 with
  | true => exact laws.des3.whole _ _ _ sized
  | false => exact laws.aes.whole _ _ _ sized

include laws in
/-- A step turns blocks into blocks, and keeps a block in the register. -/
theorem modeStep_whole (alg : Algorithm) (direction : CipherDirection) (key : Bytes) (isDes3 : Bool)
    {register block : Bytes} (sized : block.length = blockLength isDes3)
    (held : alg ≠ psaAlgEcbNoPadding → register.length = blockLength isDes3) :
    (modeStep alg direction (blockFunction aesCipher desCipher isDes3 direction key) register
        block).1.length = blockLength isDes3 ∧
      (alg ≠ psaAlgEcbNoPadding →
        (modeStep alg direction (blockFunction aesCipher desCipher isDes3 direction key) register
          block).2.length = blockLength isDes3) := by
  have applied {block : Bytes} (sized : block.length = blockLength isDes3) :=
    blockFunction_whole laws direction key isDes3 sized
  unfold modeStep
  by_cases ecb : alg = psaAlgEcbNoPadding
  · rw [if_pos ecb]
    exact ⟨applied sized, fun other => absurd ecb other⟩
  · rw [if_neg ecb]
    have mixed (x : Bytes) (whole : x.length = blockLength isDes3) :
        (List.zipWith (· ^^^ ·) x register).length = blockLength isDes3 := by
      rw [List.length_zipWith, whole, held ecb, Nat.min_self]
    cases direction with
    | encryption => exact ⟨applied (mixed block sized), fun _ => applied (mixed block sized)⟩
    | decryption => exact ⟨mixed _ (applied sized), fun _ => sized⟩

/-! ## A run of updates -/

/-- One `psa_cipher_update`: its input, its output buffer and whether the two overlap. -/
structure Chunk where
  input : InBuf
  output : OutBuf
  overlap : Bool

/-- The arguments pass the checks that come before the algorithm: no NULL for bytes, a length that
fits `word32`, separate buffers. -/
structure Chunk.Sound (c : Chunk) : Prop where
  readable : c.input.isNull = true → c.input.length = 0
  writable : c.output.isNull = true → c.output.size = 0
  fits : c.input.length ≤ uint32Max
  separate : c.overlap = false

theorem Chunk.Sound.length_bytes {c : Chunk} (sound : c.Sound) :
    c.input.bytes.length = c.input.length := by
  cases given : c.input with
  | data bytes => rfl
  | null length =>
    have zero := sound.readable (by rw [given]; rfl)
    rw [given] at zero
    exact zero.symm

/-- How many blocks of `total` bytes an update processes. -/
def modeCount (alg : Algorithm) (direction : CipherDirection) (n : Nat) : Nat → Nat :=
  if alg = psaAlgCbcPkcs7 ∧ direction = .decryption then fun t => (t - 1) / n else (· / n)

/-- Every output buffer has room for the blocks its update writes, with `pending` bytes before it. -/
def RoomFor (n : Nat) (count : Nat → Nat) : Nat → List Chunk → Prop
  | _, [] => True
  | pending, c :: rest =>
    count (pending + c.input.length) * n ≤ c.output.size ∧
      RoomFor n count (pending + c.input.length - count (pending + c.input.length) * n) rest

/-- The updates one after another: all output, and the operation after them. -/
def updateAll (env : CipherEnv Aes Des3 ChaCha) (operation : Option (CipherCtx Aes Des3 ChaCha)) :
    List Chunk → Bytes × Option (CipherCtx Aes Des3 ChaCha)
  | [] => ([], operation)
  | c :: rest =>
    let r := psaCipherUpdate env operation c.input c.output c.overlap false
    let all := updateAll env r.2 rest
    (r.1.output ++ all.1, all.2)

/-- The updates and the finish: all output and the final status. -/
def updateAllAndFinish (env : CipherEnv Aes Des3 ChaCha)
    (operation : Option (CipherCtx Aes Des3 ChaCha)) (chunks : List Chunk) (last : OutBuf) :
    Bytes × Status :=
  let all := updateAll env operation chunks
  let r := psaCipherFinish env all.2 last false
  (all.1 ++ r.1.output, r.1.status)

/-- The input a block mode absorbs, with the register and the pending bytes before it. -/
def absorbMode (aesCipher desCipher : CipherDirection → Bytes → Bytes → Bytes) (alg : Algorithm)
    (direction : CipherDirection) (key : Bytes) (isDes3 : Bool) :
    Buffered Bytes Byte → Bytes → Bytes × Buffered Bytes Byte :=
  absorb (blockLength isDes3)
    (modeStep alg direction (blockFunction aesCipher desCipher isDes3 direction key))
    (modeCount alg direction (blockLength isDes3))

/-- An operation in one of the block modes with its IV, and what its object holds. -/
structure InMode (alg : Algorithm) (direction : CipherDirection) (key : Bytes) (isDes3 : Bool)
    (ctx : CipherCtx Aes Des3 ChaCha) (register : Bytes) : Prop where
  runs : ctx.alg = alg
  faces : ctx.direction = direction
  sized : ctx.blockSize = blockLength isDes3
  given : alg ≠ psaAlgEcbNoPadding → ctx.ivSet = true
  carries : Carries laws alg direction key isDes3 ctx register
  whole : alg ≠ psaAlgEcbNoPadding → register.length = blockLength isDes3
  settled : modeCount alg direction (blockLength isDes3) ctx.partialBlock.length = 0

theorem blockLength_pos (isDes3 : Bool) : 0 < blockLength isDes3 := by
  cases isDes3 <;> decide

theorem modeCount_law (alg : Algorithm) (direction : CipherDirection) (isDes3 : Bool) :
    BlockCount (blockLength isDes3) (modeCount alg direction (blockLength isDes3)) := by
  unfold modeCount
  split
  · exact blockCount_heldBack (blockLength_pos isDes3)
  · exact blockCount_full (blockLength_pos isDes3)

/-- What is not processed is less than a block, or at most a block where the last one is held back. -/
theorem modeCount_zero {alg : Algorithm} {direction : CipherDirection} {isDes3 : Bool} {pending : Nat}
    (settled : modeCount alg direction (blockLength isDes3) pending = 0) :
    if alg = psaAlgCbcPkcs7 ∧ direction = .decryption then pending ≤ blockLength isDes3
    else pending < blockLength isDes3 := by
  have positive := blockLength_pos isDes3
  unfold modeCount at settled
  split at settled
  · rename_i held
    rw [if_pos held]
    have below := (Nat.div_eq_zero_iff_lt positive).mp settled
    omega
  · rename_i every
    rw [if_neg every]
    exact (Nat.div_eq_zero_iff_lt positive).mp settled

variable {laws} {env : CipherEnv Aes Des3 ChaCha} {alg : Algorithm} {direction : CipherDirection}
  {key register : Bytes} {isDes3 : Bool} {ctx : CipherCtx Aes Des3 ChaCha}

/-- The routine that `psa_cipher_update` takes for a block mode. -/
private theorem updateInput_mode (blockMode : isBlockMode alg = true)
    (mode : InMode laws alg direction key isDes3 ctx register) (input : Bytes) (size : Nat) :
    updateInput wc ctx input size =
      if alg = psaAlgCbcPkcs7 ∧ direction = .decryption then
        updateHeldBack (modeCall wc alg direction) ctx input size
      else updateBlocks (modeCall wc alg direction) ctx input size := by
  have modes : alg = psaAlgCbcNoPadding ∨ alg = psaAlgCbcPkcs7 ∨ alg = psaAlgEcbNoPadding := by
    simpa [isBlockMode] using blockMode
  unfold updateInput modeCall
  rw [mode.runs, mode.faces]
  rcases modes with rfl | rfl | rfl
  · rw [if_pos rfl, mode.given (by decide), if_neg (fun both => absurd both.1 (by decide)),
      if_neg (by decide)]
    rfl
  · rw [if_neg (show ¬psaAlgCbcPkcs7 = psaAlgCbcNoPadding by decide), if_pos rfl,
      mode.given (by decide), if_neg (show ¬psaAlgCbcPkcs7 = psaAlgEcbNoPadding by decide)]
    cases direction with
    | encryption => rfl
    | decryption => rfl
  · rw [if_neg (by decide), if_neg (by decide), if_neg (by decide), if_pos rfl,
      if_neg (fun both => absurd both.1 (by decide)), if_pos rfl]

/-- One update of an operation in a block mode. -/
theorem InMode.update (blockMode : isBlockMode alg = true) (same : env.wc = wc)
    (mode : InMode laws alg direction key isDes3 ctx register) {c : Chunk} (sound : c.Sound)
    (room : modeCount alg direction (blockLength isDes3) (ctx.partialBlock.length + c.input.length) *
      blockLength isDes3 ≤ c.output.size) :
    ∃ ctx', psaCipherUpdate env (some ctx) c.input c.output c.overlap false =
        (⟨.success, (absorbMode aesCipher desCipher alg direction key isDes3
          ⟨register, ctx.partialBlock⟩ c.input.bytes).1⟩, some ctx') ∧
      InMode laws alg direction key isDes3 ctx' (absorbMode aesCipher desCipher alg direction key isDes3
        ⟨register, ctx.partialBlock⟩ c.input.bytes).2.state ∧
      ctx'.partialBlock = (absorbMode aesCipher desCipher alg direction key isDes3
        ⟨register, ctx.partialBlock⟩ c.input.bytes).2.pending := by
  have law := modeCount_law alg direction isDes3
  have computes := modeCall_computes laws alg direction key isDes3
  have bytes := sound.length_bytes
  have checks : cipherUpdate wc ctx c.input c.output c.overlap =
      if c.input.length = 0 then .ok ([], ctx) else updateInput wc ctx c.input.bytes c.output.size := by
    have readable : (c.input.isNull && decide (c.input.length > 0)) = false := by
      cases null : c.input.isNull with
      | false => rfl
      | true => simp [sound.readable null]
    have writable : (c.output.isNull && decide (c.output.size > 0)) = false := by
      cases null : c.output.isNull with
      | false => rfl
      | true => simp [sound.writable null]
    have fits : wolfpsaCheckWord32Length c.input.length = .success := by
      unfold wolfpsaCheckWord32Length
      rw [if_neg (Nat.not_lt.mpr sound.fits)]
    unfold cipherUpdate
    rw [readable, writable, fits, sound.separate, Bool.and_false]
    rfl
  have called (output : Bytes) (ctx' : CipherCtx Aes Des3 ChaCha)
      (updated : cipherUpdate wc ctx c.input c.output c.overlap = .ok (output, ctx')) :
      psaCipherUpdate env (some ctx) c.input c.output c.overlap false =
        (⟨.success, output⟩, some ctx') := by
    show cipherEnds _ = _
    rw [same, updated]
    rfl
  by_cases empty : c.input.length = 0
  · have nothing : c.input.bytes = [] := List.eq_nil_of_length_eq_zero (bytes.trans empty)
    rw [if_pos empty] at checks
    rw [nothing, absorbMode, absorb_nil mode.settled]
    exact ⟨ctx, called [] ctx checks, mode, rfl⟩
  · rw [if_neg empty, updateInput_mode blockMode mode] at checks
    rw [← bytes] at room
    have absorbed : ∃ output ctx', cipherUpdate wc ctx c.input c.output c.overlap = .ok (output, ctx') ∧
        Absorbed (blockLength isDes3)
          (modeStep alg direction (blockFunction aesCipher desCipher isDes3 direction key))
          (modeCount alg direction (blockLength isDes3)) (Carries laws alg direction key isDes3) ctx
          register c.input.bytes output ctx' := by
      have bound := modeCount_zero mode.settled
      rw [checks]
      unfold modeCount at room ⊢
      by_cases held : alg = psaAlgCbcPkcs7 ∧ direction = .decryption
      · rw [if_pos held] at room bound ⊢
        rw [if_pos held]
        exact updateHeldBack_absorbed (blockLength_pos isDes3) computes mode.sized mode.carries bound room
      · rw [if_neg held] at room bound ⊢
        rw [if_neg held]
        exact updateBlocks_absorbed (blockLength_pos isDes3) computes mode.sized mode.carries bound room
    obtain ⟨output, ctx', updated, writes, carried, pending, feeds⟩ := absorbed
    refine ⟨ctx', ?_, ⟨?_, ?_, ?_, ?_, carried, fun cbc => ?_, ?_⟩, pending⟩
    · rw [called output ctx' updated, writes]
      rfl
    · obtain ⟨_, _, _, _, rfl⟩ := feeds
      exact mode.runs
    · obtain ⟨_, _, _, _, rfl⟩ := feeds
      exact mode.faces
    · obtain ⟨_, _, _, _, rfl⟩ := feeds
      exact mode.sized
    · obtain ⟨_, _, _, _, rfl⟩ := feeds
      exact mode.given
    · refine blockwise_state (fun s : Bytes => s.length = blockLength isDes3)
        (fun s block sized holds => ?_) (law.within _) (mode.whole cbc)
      exact (modeStep_whole laws alg direction key isDes3 sized (fun _ => holds)).2 cbc
    · rw [pending]
      exact absorb_pending law _ _

/-- All updates of an operation in a block mode absorb their input together. -/
theorem InMode.updateAll (blockMode : isBlockMode alg = true) (same : env.wc = wc)
    (mode : InMode laws alg direction key isDes3 ctx register) {chunks : List Chunk}
    (sound : ∀ c ∈ chunks, c.Sound)
    (room : RoomFor (blockLength isDes3) (modeCount alg direction (blockLength isDes3))
      ctx.partialBlock.length chunks) :
    ∃ ctx', Guarantees.updateAll env (some ctx) chunks =
        ((absorbMode aesCipher desCipher alg direction key isDes3 ⟨register, ctx.partialBlock⟩
          (chunks.map (·.input.bytes)).flatten).1, some ctx') ∧
      InMode laws alg direction key isDes3 ctx' (absorbMode aesCipher desCipher alg direction key isDes3
        ⟨register, ctx.partialBlock⟩ (chunks.map (·.input.bytes)).flatten).2.state ∧
      ctx'.partialBlock = (absorbMode aesCipher desCipher alg direction key isDes3
        ⟨register, ctx.partialBlock⟩ (chunks.map (·.input.bytes)).flatten).2.pending := by
  have law := modeCount_law alg direction isDes3
  induction chunks generalizing ctx register with
  | nil =>
    refine ⟨ctx, ?_, ?_, ?_⟩
    · rw [List.map_nil, List.flatten_nil, absorbMode, absorb_nil mode.settled]
      rfl
    · rw [List.map_nil, List.flatten_nil, absorbMode, absorb_nil mode.settled]
      exact mode
    · rw [List.map_nil, List.flatten_nil, absorbMode, absorb_nil mode.settled]
  | cons c rest ih =>
    obtain ⟨here, later⟩ := room
    obtain ⟨ctx₁, updated, mode₁, pending₁⟩ :=
      mode.update blockMode same (sound c List.mem_cons_self) here
    have bytes := (sound c List.mem_cons_self).length_bytes
    have left : ctx₁.partialBlock.length = ctx.partialBlock.length + c.input.length -
        modeCount alg direction (blockLength isDes3) (ctx.partialBlock.length + c.input.length) *
          blockLength isDes3 := by
      rw [pending₁]
      show (List.drop _ _).length = _
      rw [List.length_drop, List.length_append, bytes]
    rw [← left] at later
    obtain ⟨ctx₂, all, mode₂, pending₂⟩ := ih mode₁
      (fun c' member => sound c' (List.mem_cons_of_mem c member)) later
    have joined : (⟨(absorbMode aesCipher desCipher alg direction key isDes3
        ⟨register, ctx.partialBlock⟩ c.input.bytes).2.state, ctx₁.partialBlock⟩ : Buffered Bytes Byte) =
        (absorbMode aesCipher desCipher alg direction key isDes3 ⟨register, ctx.partialBlock⟩
          c.input.bytes).2 := by
      rw [pending₁]
    rw [joined] at all mode₂ pending₂
    have whole : absorbMode aesCipher desCipher alg direction key isDes3 ⟨register, ctx.partialBlock⟩
        (c.input.bytes ++ (rest.map (·.input.bytes)).flatten) = _ := absorb_append law _ _ _
    rw [List.map_cons, List.flatten_cons, whole]
    refine ⟨ctx₂, ?_, mode₂, pending₂⟩
    show (_ ++ (Guarantees.updateAll env _ rest).1, (Guarantees.updateAll env _ rest).2) = _
    rw [updated, all]
    rfl

/-! ## The finish -/

private theorem drop_eq_replicate_iff {n count : Nat} {block : Bytes} (whole : block.length = n)
    (within : count ≤ n) (value : Byte) :
    block.drop (n - count) = List.replicate count value ↔
      ∀ i < count, block.getD (n - 1 - i) 0 = value := by
  have entry (i : Nat) (inside : i < count) :
      block.getD (n - 1 - i) 0 = (block.drop (n - count)).getD (count - 1 - i) 0 := by
    rw [List.getD_eq_getElem?_getD, List.getD_eq_getElem?_getD, List.getElem?_drop]
    congr 2
    omega
  constructor
  · intro same i inside
    rw [entry i inside, same]
    simp [List.getD_eq_getElem?_getD, show count - 1 - i < count by omega]
  · intro all
    refine List.eq_replicate_iff.mpr ⟨by rw [List.length_drop]; omega, fun b member => ?_⟩
    obtain ⟨j, short, rfl⟩ := List.getElem_of_mem member
    rw [List.length_drop] at short
    have here := all (count - 1 - j) (by omega)
    rw [entry _ (by omega), show count - 1 - (count - 1 - j) = j by omega,
      List.getD_eq_getElem?_getD, List.getElem?_eq_getElem] at here
    exact here

/-- The padding test of `psa_cipher_finish` accepts what the padding rule accepts. -/
theorem pkcs7Unpad_eq {n : Nat} {block : Bytes} (whole : block.length = n) :
    pkcs7Unpad n block =
      if pkcs7Invalid n block then none
      else some (block.take (n - (block.getD (n - 1) 0).toNat)) := by
  unfold pkcs7Unpad pkcs7Invalid
  dsimp only
  generalize (block.getD (n - 1) 0).toNat = count
  by_cases empty : count = 0
  · simp [empty]
  by_cases large : count > n
  · simp [large, show ¬count ≤ n by omega]
  have within : count ≤ n := by omega
  have agree := drop_eq_replicate_iff whole within (BitVec.ofNat 8 count)
  by_cases repeats : ∀ i < count, block.getD (n - 1 - i) 0 = BitVec.ofNat 8 count
  · rw [if_pos ⟨by omega, within, agree.mpr repeats⟩, if_neg]
    simp only [Bool.or_eq_true, beq_iff_eq, decide_eq_true_eq, List.any_eq_true, List.mem_range,
      Bool.and_eq_true, bne_iff_ne, not_or, not_exists, not_and, not_not]
    exact ⟨⟨empty, large⟩, fun i _ inside => repeats i inside⟩
  · rw [if_neg fun both => repeats (agree.mp both.2.2), if_pos]
    simp only [not_forall] at repeats
    obtain ⟨i, inside, differs⟩ := repeats
    simp only [Bool.or_eq_true, List.any_eq_true, List.mem_range, Bool.and_eq_true,
      decide_eq_true_eq, bne_iff_ne]
    exact .inr ⟨i, by omega, inside, differs⟩

/-- What the finish adds to the full blocks: the last block of a padded message. -/
def modeFinish (alg : Algorithm) (direction : CipherDirection) (n : Nat) (f : Bytes → Bytes)
    (b : Buffered Bytes Byte) : Bytes × Status :=
  let step := modeStep alg direction f
  if alg = psaAlgCbcPkcs7 then
    match direction with
    | .encryption =>
      ((step b.state (b.pending ++ List.replicate (n - b.pending.length)
        (BitVec.ofNat 8 (n - b.pending.length)))).1, .success)
    | .decryption =>
      if b.pending.length ≠ n then ([], .invalidPadding)
      else
        match pkcs7Unpad n (step b.state b.pending).1 with
        | none => ([], .invalidPadding)
        | some text => (text, .success)
  else ([], if b.pending.length > 0 then .invalidArgument else .success)

/-- The output buffer of the finish: no NULL for bytes, and room for a block of a padded message. -/
structure LastSound (alg : Algorithm) (n : Nat) (last : OutBuf) : Prop where
  writable : last.isNull = true → last.size = 0
  room : alg = psaAlgCbcPkcs7 → n ≤ last.size

section

variable {last : OutBuf}

/-- The output and the status of a finish. -/
private def endsWith : Except Failure Bytes → Bytes × Status
  | .ok bytes => (bytes, .success)
  | .error status => ([], status.val)

private theorem psaCipherFinish_endsWith (same : env.wc = wc) :
    ((psaCipherFinish env (some ctx) last false).1.output,
      (psaCipherFinish env (some ctx) last false).1.status) = endsWith (cipherFinish wc ctx last) := by
  have called : (psaCipherFinish env (some ctx) last false).1 =
      (cipherEnds (do
        let bytes ← cipherFinish wc ctx last
        return (bytes, (none : Option (CipherCtx Aes Des3 ChaCha))))).1 := by
    rw [← same]
    rfl
  rw [called]
  cases cipherFinish wc ctx last <;> rfl

private theorem cipherFinish_checked (writable : last.isNull = true → last.size = 0) :
    cipherFinish wc ctx last =
      if ctx.alg = psaAlgCbcPkcs7 then do
        require ctx.ivSet .badState
        match ctx.direction with
        | .encryption => finishPadded wc ctx last.size
        | .decryption => finishUnpadded wc ctx last.size
      else do
        require (!((ctx.alg == psaAlgCbcNoPadding || ctx.alg == psaAlgEcbNoPadding) &&
          decide (ctx.partialBlock.length > 0))) .invalidArgument
        return [] := by
  have checked : (last.isNull && decide (last.size > 0)) = false := by
    cases null : last.isNull with
    | false => rfl
    | true => simp [writable null]
  unfold cipherFinish
  rw [checked]
  rfl

/-- The last block through the CBC call of the context. -/
private theorem InMode.lastBlock (padded : alg = psaAlgCbcPkcs7)
    (mode : InMode laws alg direction key isDes3 ctx register) {block : Bytes}
    (sized : block.length = blockLength isDes3) :
    ∃ ctx', cipherCbc wc direction ctx block =
        .ok ((modeStep alg direction (blockFunction aesCipher desCipher isDes3 direction key) register
          block).1, ctx') := by
  have computes := modeCall_computes laws alg direction key isDes3
  obtain ⟨ctx', called, -⟩ := computes.blocks ctx register 1 block mode.carries (by omega)
  rw [blockwise_one register sized, modeCall, if_neg (by rw [padded]; decide)] at called
  exact ⟨ctx', called⟩

private theorem InMode.finishPadded (mode : InMode laws psaAlgCbcPkcs7 .encryption key isDes3 ctx register)
    {size : Nat} (room : blockLength isDes3 ≤ size) :
    endsWith (Source.finishPadded wc ctx size) =
      modeFinish psaAlgCbcPkcs7 .encryption (blockLength isDes3)
        (blockFunction aesCipher desCipher isDes3 .encryption key) ⟨register, ctx.partialBlock⟩ := by
  have bound : ctx.partialBlock.length < blockLength isDes3 := by
    simpa using modeCount_zero mode.settled
  have whole : (ctx.partialBlock ++ List.replicate (blockLength isDes3 - ctx.partialBlock.length)
      (BitVec.ofNat 8 (blockLength isDes3 - ctx.partialBlock.length))).length = blockLength isDes3 := by
    rw [List.length_append, List.length_replicate]
    omega
  obtain ⟨ctx', called⟩ := mode.lastBlock rfl whole
  unfold Source.finishPadded
  rw [mode.sized]
  dsimp only
  rw [decide_eq_true bound, decide_eq_true room, called]
  rfl

private theorem InMode.finishUnpadded
    (mode : InMode laws psaAlgCbcPkcs7 .decryption key isDes3 ctx register) {size : Nat}
    (room : blockLength isDes3 ≤ size) :
    endsWith (Source.finishUnpadded wc ctx size) =
      modeFinish psaAlgCbcPkcs7 .decryption (blockLength isDes3)
        (blockFunction aesCipher desCipher isDes3 .decryption key) ⟨register, ctx.partialBlock⟩ := by
  have cbc : psaAlgCbcPkcs7 ≠ psaAlgEcbNoPadding := by decide
  unfold Source.finishUnpadded modeFinish
  rw [mode.sized]
  dsimp only
  rw [if_pos rfl]
  by_cases full : ctx.partialBlock.length = blockLength isDes3
  · obtain ⟨ctx', called⟩ := mode.lastBlock rfl full
    obtain ⟨whole, -⟩ := modeStep_whole laws psaAlgCbcPkcs7 .decryption key isDes3 full mode.whole
    rw [if_neg (not_not_intro full), pkcs7Unpad_eq whole, called, full]
    rw [show (blockLength isDes3 == blockLength isDes3) = true from beq_self_eq_true _]
    generalize (modeStep psaAlgCbcPkcs7 .decryption
      (blockFunction aesCipher desCipher isDes3 .decryption key) register ctx.partialBlock).1 = block
    by_cases invalid : pkcs7Invalid (blockLength isDes3) block = true
    · rw [if_pos invalid]
      show endsWith (require (!pkcs7Invalid (blockLength isDes3) block) .invalidPadding >>= _) = _
      rw [invalid]
      rfl
    · rw [if_neg invalid]
      show endsWith (require (!pkcs7Invalid (blockLength isDes3) block) .invalidPadding >>= _) = _
      rw [eq_false_of_ne_true invalid]
      have fits : blockLength isDes3 - (block.getD (blockLength isDes3 - 1) 0).toNat ≤ size := by omega
      show endsWith (require (decide _) .bufferTooSmall >>= _) = _
      rw [decide_eq_true fits]
      rfl
  · rw [if_pos full, beq_false_of_ne full]
    rfl

theorem InMode.finish (blockMode : isBlockMode alg = true) (same : env.wc = wc)
    (mode : InMode laws alg direction key isDes3 ctx register)
    (sound : LastSound alg (blockLength isDes3) last) :
    ((psaCipherFinish env (some ctx) last false).1.output,
      (psaCipherFinish env (some ctx) last false).1.status) =
      modeFinish alg direction (blockLength isDes3)
        (blockFunction aesCipher desCipher isDes3 direction key) ⟨register, ctx.partialBlock⟩ := by
  have modes : alg = psaAlgCbcNoPadding ∨ alg = psaAlgCbcPkcs7 ∨ alg = psaAlgEcbNoPadding := by
    simpa [isBlockMode] using blockMode
  rw [psaCipherFinish_endsWith same, cipherFinish_checked sound.writable, mode.runs, mode.faces]
  by_cases padded : alg = psaAlgCbcPkcs7
  · subst padded
    rw [if_pos rfl, mode.given (by decide)]
    cases direction with
    | encryption => exact mode.finishPadded (sound.room rfl)
    | decryption => exact mode.finishUnpadded (sound.room rfl)
  · have listed : (alg == psaAlgCbcNoPadding || alg == psaAlgEcbNoPadding) = true := by
      rcases modes with rfl | rfl | rfl
      · rfl
      · exact absurd rfl padded
      · rfl
    unfold modeFinish
    rw [if_neg padded, if_neg padded, listed]
    by_cases some : ctx.partialBlock.length > 0
    · rw [if_pos some, decide_eq_true some]
      rfl
    · rw [if_neg some, decide_eq_false some]
      rfl

end

/-! ## Updates and finish against the mode -/

/-- What is held back is a whole block exactly when the input is whole blocks, and not empty. -/
theorem heldBack_ne_iff {n : Nat} (positive : 0 < n) (length : Nat) :
    length - (length - 1) / n * n ≠ n ↔ length = 0 ∨ length % n ≠ 0 := by
  have parts : (length - 1) / n * n + (length - 1) % n = length - 1 := Nat.div_add_mod' _ _
  have below : (length - 1) % n < n := Nat.mod_lt _ positive
  rcases Nat.eq_zero_or_pos length with empty | some
  · subst empty
    simp
    omega
  have whole : length = (length - 1) % n + 1 + n * ((length - 1) / n) := by
    rw [Nat.mul_comm]
    omega
  have residue : length % n = ((length - 1) % n + 1) % n := by
    conv_lhs => rw [whole]
    exact Nat.add_mul_mod_self_left _ _ _
  rw [residue]
  rcases Nat.lt_or_ge ((length - 1) % n + 1) n with short | full
  · rw [Nat.mod_eq_of_lt short]
    omega
  · rw [show (length - 1) % n + 1 = n by omega, Nat.mod_self]
    omega

/-- The blocks that have been processed and what the finish adds are the mode over the input. -/
theorem textbookMode_eq (alg : Algorithm) (direction : CipherDirection) {n : Nat} (positive : 0 < n)
    (f : Bytes → Bytes) (iv input : Bytes) :
    textbookMode alg direction n f iv input =
      let b := absorb n (modeStep alg direction f) (modeCount alg direction n) ⟨iv, []⟩ input
      (b.1 ++ (modeFinish alg direction n f b.2).1, (modeFinish alg direction n f b.2).2) := by
  have rest (k : Nat) : (input.drop (k * n)).length = input.length - k * n := List.length_drop
  have parts : input.length / n * n + input.length % n = input.length := Nat.div_add_mod' _ _
  have below : input.length % n < n := Nat.mod_lt _ positive
  unfold textbookMode modeFinish modeCount absorb
  dsimp only
  rw [List.nil_append]
  by_cases padded : alg = psaAlgCbcPkcs7
  · rw [if_pos padded, if_pos padded]
    cases direction with
    | encryption =>
      rw [if_neg (show ¬(alg = psaAlgCbcPkcs7 ∧ CipherDirection.encryption = .decryption) by simp)]
      dsimp only
      have left : (input.drop (input.length / n * n)).length = input.length % n := by
        rw [rest]
        omega
      have last : ((input.drop (input.length / n * n)) ++ pkcs7Padding n input.length).length = n := by
        rw [List.length_append, left, pkcs7Padding, List.length_replicate]
        omega
      rw [blockwise_add, blockwise_append_left (Nat.div_mul_le_self _ n),
        List.drop_append_of_le_length (Nat.div_mul_le_self _ n), blockwise_one _ last, left]
      rfl
    | decryption =>
      rw [if_pos (show alg = psaAlgCbcPkcs7 ∧ CipherDirection.decryption = .decryption from
        ⟨padded, rfl⟩)]
      dsimp only
      have full : (input.drop ((input.length - 1) / n * n)).length ≠ n ↔
          input.length = 0 ∨ input.length % n ≠ 0 := by
        rw [rest]
        exact heldBack_ne_iff positive input.length
      by_cases odd : input.length = 0 ∨ input.length % n ≠ 0
      · rw [if_pos odd, if_pos (full.mpr odd), List.append_nil]
      · rw [if_neg odd, if_neg (mt full.mp odd)]
        cases pkcs7Unpad n (modeStep alg .decryption f
            (blockwise n (modeStep alg .decryption f) ((input.length - 1) / n) iv input).2
            (input.drop ((input.length - 1) / n * n))).1 with
        | none => exact congrArg (·, Status.invalidPadding) (List.append_nil _).symm
        | some text => rfl
  · rw [if_neg padded, if_neg padded,
      if_neg (show ¬(alg = psaAlgCbcPkcs7 ∧ direction = .decryption) from fun both => padded both.1),
      List.append_nil, rest]
    dsimp only
    by_cases whole : input.length % n = 0
    · rw [if_pos whole, if_neg (by omega)]
    · rw [if_neg whole, if_pos (by omega)]

/-! ## A new operation -/

/-- The setup of a direction. -/
def cipherSetupIn (env : CipherEnv Aes Des3 ChaCha) (direction : CipherDirection) (id : KeyId)
    (alg : Algorithm) : Status × Option (CipherCtx Aes Des3 ChaCha) :=
  match direction with
  | .encryption => psaCipherEncryptSetup env none id alg
  | .decryption => psaCipherDecryptSetup env none id alg

/-- A new operation that is ready for input, with its IV: set, generated, or none in ECB. -/
inductive Begins (env : CipherEnv Aes Des3 ChaCha) (direction : CipherDirection) (id : KeyId)
    (alg : Algorithm) : Bytes → CipherCtx Aes Des3 ChaCha → Prop
  | ecb (ctx : CipherCtx Aes Des3 ChaCha)
      (granted : cipherSetupIn env direction id alg = (.success, some ctx))
      (withoutIv : alg = psaAlgEcbNoPadding) : Begins env direction id alg [] ctx
  | setIv (ctx ctx' : CipherCtx Aes Des3 ChaCha) (iv : InBuf)
      (granted : cipherSetupIn env direction id alg = (.success, some ctx))
      (accepted : psaCipherSetIv env (some ctx) iv = (.success, some ctx')) :
      Begins env direction id alg iv.bytes ctx'
  | generateIv (ctx ctx' : CipherCtx Aes Des3 ChaCha) (iv : Bytes) (buffer : OutBuf)
      (granted : cipherSetupIn env direction id alg = (.success, some ctx))
      (generated : psaCipherGenerateIv env (some ctx) buffer false = (⟨.success, iv⟩, some ctx')) :
      Begins env direction id alg iv ctx'

section

variable {id : KeyId} {attributes : KeyAttributes}

private theorem cipherSetupIn_ok
    (granted : cipherSetupIn env direction id alg = (.success, some ctx)) :
    ∃ usage, cipherSetupCtx env id alg usage direction = .ok ctx := by
  have inner {usage : KeyUsage} (granted : cipherSetup env none id alg usage direction =
      (.success, some ctx)) : cipherSetupCtx env id alg usage direction = .ok ctx := by
    unfold cipherSetup at granted
    dsimp only at granted
    cases made : cipherSetupCtx env id alg usage direction with
    | error status =>
      rw [made] at granted
      exact absurd (congrArg Prod.snd granted) nofun
    | ok ctx' =>
      rw [made] at granted
      cases granted
      rfl
  cases direction with
  | encryption => exact ⟨_, inner granted⟩
  | decryption => exact ⟨_, inner granted⟩

private theorem aesSetKeyFor_blockMode (blockMode : isBlockMode alg = true) (fresh : Aes)
    (key iv : Bytes) : aesSetKeyFor wc alg direction fresh key iv = wc.aesSetKey fresh key iv direction := by
  have modes : alg = psaAlgCbcNoPadding ∨ alg = psaAlgCbcPkcs7 ∨ alg = psaAlgEcbNoPadding := by
    simpa [isBlockMode] using blockMode
  rcases modes with rfl | rfl | rfl <;> cases direction <;> rfl

/-- What the setup of a block mode makes: a new context with the key in its object. -/
private structure NewInMode (laws : TextbookCipher wc aesCipher desCipher) (alg : Algorithm)
    (direction : CipherDirection) (key : Bytes) (keyType : KeyType)
    (ctx : CipherCtx Aes Des3 ChaCha) : Prop where
  runs : ctx.alg = alg
  faces : ctx.direction = direction
  typed : ctx.keyType = keyType
  kind : ctx.isDes3 = (keyType == psaKeyTypeDes)
  sized : ctx.blockSize = blockLength (keyType == psaKeyTypeDes)
  buffer : ctx.iv = List.replicate aesBlockSize 0
  empty : ctx.partialBlock = []
  keyed : if keyType == psaKeyTypeDes then laws.des3.keyed direction (key.take 24) ctx.des3
    else laws.aes.keyed direction key ctx.aes

private theorem setup_new (laws : TextbookCipher env.wc aesCipher desCipher)
    (blockMode : isBlockMode alg = true) (found : env.getKeyData id = .ok (attributes, key))
    (granted : cipherSetupIn env direction id alg = (.success, some ctx)) :
    NewInMode laws alg direction key attributes.type ctx := by
  obtain ⟨usage, made⟩ := cipherSetupIn_ok granted
  unfold cipherSetupCtx at made
  obtain ⟨-, -, made⟩ := except_bind_ok made
  obtain ⟨⟨attributes', key'⟩, checked, made⟩ := except_bind_ok made
  have looked := wolfpsaCipherCheckKey_ok checked
  rw [found] at looked
  cases looked
  obtain ⟨-, -, made⟩ := except_bind_ok made
  obtain ⟨-, -, made⟩ := except_bind_ok made
  have keyed := wcCall_ok_iff.mp made
  have block : ¬(newCipherCtx env.wc attributes alg direction).isChacha = true := by
    show ¬(alg == psaAlgStreamCipher) = true
    intro stream
    rw [beq_iff_eq.mp stream] at blockMode
    exact absurd blockMode (by decide)
  unfold cipherSetKey at keyed
  rw [if_neg block] at keyed
  cases kind : (attributes.type == psaKeyTypeDes) with
  | true =>
    rw [if_pos (show (newCipherCtx env.wc attributes alg direction).isDes3 = true from kind)] at keyed
    obtain ⟨fresh, -, keyed⟩ := except_bind_ok keyed
    obtain ⟨des3, set, ended⟩ := except_bind_ok keyed
    cases ended
    refine ⟨rfl, rfl, rfl, rfl, rfl, rfl, rfl, ?_⟩
    rw [if_pos kind]
    exact laws.des3.setsKey set
  | false =>
    have aesKey : ¬(newCipherCtx env.wc attributes alg direction).isDes3 = true := by
      show ¬(attributes.type == psaKeyTypeDes) = true
      rw [kind]
      decide
    rw [if_neg aesKey] at keyed
    obtain ⟨fresh, -, keyed⟩ := except_bind_ok keyed
    obtain ⟨aes, set, ended⟩ := except_bind_ok keyed
    cases ended
    rw [show (newCipherCtx env.wc attributes alg direction).alg = alg from rfl,
      show (newCipherCtx env.wc attributes alg direction).direction = direction from rfl,
      aesSetKeyFor_blockMode blockMode] at set
    refine ⟨rfl, rfl, rfl, rfl, rfl, rfl, rfl, ?_⟩
    rw [if_neg (show ¬(attributes.type == psaKeyTypeDes) = true from aesKey)]
    exact laws.aes.setsKey set

private theorem modeCount_nothing : modeCount alg direction (blockLength isDes3) 0 = 0 := by
  unfold modeCount
  split <;> exact Nat.zero_div _

/-- The context that a setup and an accepted IV leave. -/
private theorem NewInMode.setIv {laws : TextbookCipher wc aesCipher desCipher}
    (blockMode : isBlockMode alg = true) {keyType : KeyType}
    (new : NewInMode laws alg direction key keyType ctx) {iv : InBuf}
    {ctx' : CipherCtx Aes Des3 ChaCha} (accepted : wolfpsaCipherSetIv wc ctx iv = .ok ctx') :
    InMode laws alg direction key (keyType == psaKeyTypeDes) ctx' iv.bytes ∧
      ctx'.partialBlock = [] := by
  unfold wolfpsaCipherSetIv at accepted
  obtain ⟨-, -, accepted⟩ := except_bind_ok accepted
  obtain ⟨-, -, accepted⟩ := except_bind_ok accepted
  obtain ⟨_, present, accepted⟩ := except_bind_ok accepted
  have other {a : Algorithm} (different : isBlockMode a = false) : ¬(ctx.alg == a) = true := by
    intro same
    rw [new.runs] at same
    rw [beq_iff_eq.mp same, different] at blockMode
    cases blockMode
  rw [if_neg (other (show isBlockMode psaAlgStreamCipher = false by decide)),
    if_neg (other (show isBlockMode psaAlgCcmStarNoTag = false by decide))] at accepted
  obtain ⟨_, sized, accepted⟩ := except_bind_ok accepted
  have same : iv.bytes.length = iv.length := by
    cases iv with
    | null length => exact absurd (require_ok_iff.mp present) nofun
    | data bytes => rfl
  have length : iv.bytes.length = blockLength (keyType == psaKeyTypeDes) := by
    rw [same, ← new.typed]
    exact beq_iff_eq.mp (require_ok_iff.mp sized)
  have keyed := new.keyed
  dsimp only at accepted
  rw [new.kind, new.buffer] at accepted
  cases kind : (keyType == psaKeyTypeDes) with
  | true =>
    rw [kind] at accepted keyed length
    rw [if_pos rfl] at accepted keyed
    obtain ⟨des3, set, ended⟩ := except_bind_ok accepted
    cases ended
    have front : List.take desBlockSize (iv.bytes ++ List.drop iv.length
        (List.replicate aesBlockSize (0 : Byte))) = iv.bytes := by
      have short : iv.bytes.length = desBlockSize := length
      rw [← short, List.take_left]
    rw [front] at set
    obtain ⟨des3', set', keyed', register⟩ := laws.des3.setsIV keyed length
    rw [wcCall_ok_iff, set'] at set
    cases set
    refine ⟨⟨new.runs, new.faces, new.sized.trans (by rw [kind]), fun _ => rfl,
      ⟨rfl, ?_⟩, fun _ => length, ?_⟩, new.empty⟩
    · exact ⟨keyed', fun _ => register⟩
    · show modeCount alg direction _ ctx.partialBlock.length = 0
      rw [new.empty]
      exact modeCount_nothing
  | false =>
    rw [kind] at accepted keyed length
    rw [if_neg (by decide)] at accepted keyed
    obtain ⟨aes, set, ended⟩ := except_bind_ok accepted
    cases ended
    have all : List.drop iv.length (List.replicate aesBlockSize (0 : Byte)) = [] := by
      rw [← same, length]
      rfl
    rw [all, List.append_nil] at set
    obtain ⟨aes', set', keyed', register⟩ := laws.aes.setsIV keyed length
    rw [wcCall_ok_iff, set'] at set
    cases set
    refine ⟨⟨new.runs, new.faces, new.sized.trans (by rw [kind]), fun _ => rfl,
      ⟨rfl, ?_⟩, fun _ => length, ?_⟩, new.empty⟩
    · exact ⟨keyed', fun _ => register⟩
    · show modeCount alg direction _ ctx.partialBlock.length = 0
      rw [new.empty]
      exact modeCount_nothing

/-- An operation that is ready for input is in its mode, with its IV in the register. -/
theorem begins_inMode (laws : TextbookCipher env.wc aesCipher desCipher)
    (blockMode : isBlockMode alg = true) (found : env.getKeyData id = .ok (attributes, key)) {iv : Bytes}
    (begun : Begins env direction id alg iv ctx) :
    InMode laws alg direction key (attributes.type == psaKeyTypeDes) ctx iv ∧ ctx.partialBlock = [] := by
  cases begun with
  | ecb ctx granted withoutIv =>
    have new := setup_new laws blockMode found granted
    have keyed := new.keyed
    refine ⟨⟨new.runs, new.faces, new.sized, fun other => absurd withoutIv other, ⟨new.kind, ?_⟩,
      fun other => absurd withoutIv other, ?_⟩, new.empty⟩
    · split at keyed
      · rename_i kind
        rw [if_pos kind]
        exact ⟨keyed, fun other => absurd withoutIv other⟩
      · rename_i kind
        rw [if_neg kind]
        exact ⟨keyed, fun other => absurd withoutIv other⟩
    · rw [new.empty]
      exact modeCount_nothing
  | setIv ctx₀ ctx iv granted accepted =>
    have new := setup_new laws blockMode found granted
    unfold psaCipherSetIv at accepted
    dsimp only at accepted
    cases set : wolfpsaCipherSetIv env.wc ctx₀ iv with
    | error status =>
      rw [set] at accepted
      exact absurd (congrArg Prod.snd accepted) nofun
    | ok ctx' =>
      rw [set] at accepted
      cases accepted
      exact new.setIv blockMode set
  | generateIv ctx₀ ctx iv buffer granted generated =>
    have new := setup_new laws blockMode found granted
    unfold psaCipherGenerateIv at generated
    dsimp only at generated
    cases made : wolfpsaCipherGenerateIv env ctx₀ buffer false with
    | error status =>
      rw [made] at generated
      exact absurd (congrArg Prod.snd generated) nofun
    | ok result =>
      rw [made] at generated
      cases generated
      exact new.setIv blockMode (wolfpsaCipherGenerateIv_ok made).2

/-- All updates and the finish of an operation compute the mode over their input together. -/
theorem updateAllAndFinish_textbook (laws : TextbookCipher env.wc aesCipher desCipher)
    (blockMode : isBlockMode alg = true) (found : env.getKeyData id = .ok (attributes, key)) {iv : Bytes}
    (begun : Begins env direction id alg iv ctx) {chunks : List Chunk} {last : OutBuf}
    (sound : ∀ c ∈ chunks, c.Sound)
    (room : RoomFor (blockLength (attributes.type == psaKeyTypeDes))
      (modeCount alg direction (blockLength (attributes.type == psaKeyTypeDes))) 0 chunks)
    (lastSound : LastSound alg (blockLength (attributes.type == psaKeyTypeDes)) last) :
    updateAllAndFinish env (some ctx) chunks last =
      textbookMode alg direction (blockLength (attributes.type == psaKeyTypeDes))
        (blockFunction aesCipher desCipher (attributes.type == psaKeyTypeDes) direction key) iv
        (chunks.map (·.input.bytes)).flatten := by
  obtain ⟨mode, empty⟩ := begins_inMode laws blockMode found begun
  have before : RoomFor (blockLength (attributes.type == psaKeyTypeDes))
      (modeCount alg direction (blockLength (attributes.type == psaKeyTypeDes)))
      ctx.partialBlock.length chunks := by
    rw [empty]
    exact room
  obtain ⟨ctx', all, mode', pending⟩ := mode.updateAll blockMode rfl sound before
  have finish := mode'.finish blockMode rfl lastSound
  rw [empty] at all finish pending
  unfold updateAllAndFinish
  dsimp only
  rw [all, textbookMode_eq alg direction (blockLength_pos _)]
  dsimp only
  rw [pending] at finish
  have output := congrArg Prod.fst finish
  have status := congrArg Prod.snd finish
  dsimp only at output status
  rw [output, status]
  rfl

/-- Block modes in pieces. A new operation in a block mode takes its input in any sound updates with
room for their output: all output and the final status are those of the mode over the whole input, and
so those of one update with the whole input. In every run, whatever wolfCrypt answers, the partial block
is below a block, or at most a block where the last one is held back, no copy leaves the buffer, and the
guard of the finish does not see a full block. -/
theorem pieces_compute_the_mode (laws : TextbookCipher env.wc aesCipher desCipher)
    (blockMode : isBlockMode alg = true) (found : env.getKeyData id = .ok (attributes, key)) {iv : Bytes}
    (begun : Begins env direction id alg iv ctx) {chunks : List Chunk} {last : OutBuf}
    (sound : ∀ c ∈ chunks, c.Sound)
    (room : RoomFor (blockLength (attributes.type == psaKeyTypeDes))
      (modeCount alg direction (blockLength (attributes.type == psaKeyTypeDes))) 0 chunks)
    (lastSound : LastSound alg (blockLength (attributes.type == psaKeyTypeDes)) last) :
    updateAllAndFinish env (some ctx) chunks last =
        textbookMode alg direction (blockLength (attributes.type == psaKeyTypeDes))
          (blockFunction aesCipher desCipher (attributes.type == psaKeyTypeDes) direction key) iv
          (chunks.map (·.input.bytes)).flatten ∧
      (∀ whole : Chunk, whole.Sound → whole.input.bytes = (chunks.map (·.input.bytes)).flatten →
        RoomFor (blockLength (attributes.type == psaKeyTypeDes))
          (modeCount alg direction (blockLength (attributes.type == psaKeyTypeDes))) 0 [whole] →
        updateAllAndFinish env (some ctx) chunks last = updateAllAndFinish env (some ctx) [whole] last) ∧
      ∀ (es : List (CipherEvent Aes Des3 ChaCha)) (op : Nat) (active : CipherCtx Aes Des3 ChaCha),
        (run cipherStep cipherInit es).2 op = some active →
          PartialBounded active ∧
            (∀ inputLength, ∀ copy ∈ partialCopies active inputLength, copy.Inside inputLength) ∧
            (active.direction = .encryption → ¬active.partialBlock.length ≥ active.blockSize) := by
  have pieces := updateAllAndFinish_textbook laws blockMode found begun sound room lastSound
  refine ⟨pieces, fun whole soundWhole same roomWhole => ?_, fun es op active reached => ?_⟩
  · rw [pieces, updateAllAndFinish_textbook laws blockMode found begun
      (fun c member => by rwa [List.mem_singleton.mp member]) roomWhole lastSound, ← same]
    simp
  · have bounded := run_partialsBounded es op active reached
    refine ⟨bounded, bounded.copies, fun encrypts => Nat.not_le.mpr (bounded.below fun held => ?_)⟩
    rw [held.2] at encrypts
    cases encrypts

end

end

/-! ## A cipher that computes its modes -/

/-- A cipher object: the direction, the key and the register. -/
structure ModeObject where
  direction : CipherDirection
  key : Bytes
  register : Bytes

/-- The calls of a block cipher with blocks of `n` bytes, from its block function. -/
def modeBlocks (n : Nat) (f : CipherDirection → Bytes → Bytes → Bytes) : BlockCalls ModeObject :=
  let cbc (direction : CipherDirection) (o : ModeObject) (input : Bytes) :
      Except WcError (Bytes × ModeObject) :=
    let r := blockwise n (cbcStep direction (f direction o.key)) (input.length / n) o.register input
    .ok (r.1, { o with register := r.2 })
  let ecb (direction : CipherDirection) (o : ModeObject) (input : Bytes) :
      Except WcError (Bytes × ModeObject) :=
    .ok ((blockwise n (ecbStep (f direction o.key)) (input.length / n) o.register input).1, o)
  { setIV := fun o iv => .ok { o with register := iv }
    cbcEncrypt := cbc .encryption
    cbcDecrypt := cbc .decryption
    ecbEncrypt := ecb .encryption
    ecbDecrypt := ecb .decryption }

/-- A block function that adds a byte of the key to every byte; it is its own inverse. -/
def addKeyByte (_direction : CipherDirection) (key block : Bytes) : Bytes :=
  block.map (· ^^^ key.headD 0)

def modeSetKey (_fresh : ModeObject) (key iv : Bytes) (direction : CipherDirection) :
    Except WcError ModeObject := .ok ⟨direction, key, iv⟩

def modeBlocks_textbook {n : Nat} (positive : 0 < n) :
    TextbookBlocks n (modeBlocks n addKeyByte) modeSetKey addKeyByte where
  keyed direction key o := o.direction = direction ∧ o.key = key
  register o := o.register
  whole _ _ block sized := by rw [addKeyByte, List.length_map, sized]
  setsKey set := by
    cases set
    exact ⟨rfl, rfl⟩
  setsIV keyed _ := ⟨_, rfl, keyed, rfl⟩
  cbc {o key direction k input} keyed sized := by
    have count : input.length / n = k := by rw [sized, Nat.mul_div_cancel k positive]
    obtain ⟨faces, rfl⟩ := keyed
    refine ⟨{ o with register := (blockwise n (cbcStep direction (addKeyByte direction o.key)) k
      o.register input).2 }, ?_, ⟨faces, rfl⟩, rfl⟩
    subst count
    cases direction <;> rfl
  ecb {o key direction k input} keyed sized := by
    have count : input.length / n = k := by rw [sized, Nat.mul_div_cancel k positive]
    obtain ⟨faces, rfl⟩ := keyed
    refine ⟨o, ?_, ⟨faces, rfl⟩⟩
    subst count
    cases direction <;> rfl

def modeCipher : WcCipher ModeObject ModeObject Unit where
  aesZero := ⟨.encryption, [], []⟩
  des3Zero := ⟨.encryption, [], []⟩
  chachaZero := ()
  aesInit := .ok ⟨.encryption, [], []⟩
  aesSetKey := modeSetKey
  aesCtrSetKey := modeSetKey
  aes := modeBlocks aesBlockSize addKeyByte
  aesCtrEncrypt o input := .ok (input, o)
  aesCfbEncrypt o input := .ok (input, o)
  aesCfbDecrypt o input := .ok (input, o)
  aesOfbEncrypt o input := .ok (input, o)
  aesOfbDecrypt o input := .ok (input, o)
  des3Init := .ok ⟨.encryption, [], []⟩
  des3SetKey := modeSetKey
  des3 := modeBlocks desBlockSize addKeyByte
  chachaSetKey _ _ := .ok ()
  chachaSetIV _ _ := .ok ()
  chachaProcess _ input := .ok (input, ())

def modeCipher_textbook : TextbookCipher modeCipher addKeyByte addKeyByte where
  aes := modeBlocks_textbook (by decide)
  des3 := modeBlocks_textbook (by decide)

/-- An AES key that permits one algorithm. -/
def modeKeyAttributes (alg : Algorithm) : KeyAttributes :=
  ⟨psaKeyTypeAes, 128, psaKeyLifetimeVolatile, psaKeyUsageEncrypt ||| psaKeyUsageDecrypt, alg,
    psaAlgNone, 1⟩

def modeKeyEnv (alg : Algorithm) : CipherEnv ModeObject ModeObject Unit where
  getKeyData _ := .ok (modeKeyAttributes alg, List.replicate 16 0x5a)
  ctxAlloc := true
  random := .ok fun _ => 0
  wc := modeCipher

/-- The context of an operation with that key, before and after an IV of zeros. -/
def modeKeyCtx (alg : Algorithm) (direction : CipherDirection) (ivSet : Bool) :
    CipherCtx ModeObject ModeObject Unit :=
  { newCipherCtx modeCipher (modeKeyAttributes alg) alg direction with
    ivSet := ivSet
    ivAttempted := ivSet
    aes := ⟨direction, List.replicate 16 0x5a, List.replicate 16 0⟩ }

/-- Seventeen bytes in pieces of one, none and sixteen. -/
def seventeenBytes : List Chunk :=
  [⟨.data [7], ⟨false, 16⟩, false⟩, ⟨.data [], ⟨false, 16⟩, false⟩,
    ⟨.data (List.replicate 16 1), ⟨false, 16⟩, false⟩]

private theorem padded_begins : Begins (modeKeyEnv psaAlgCbcPkcs7) .encryption 1 psaAlgCbcPkcs7
    (List.replicate 16 0) (modeKeyCtx psaAlgCbcPkcs7 .encryption true) :=
  .setIv (modeKeyCtx psaAlgCbcPkcs7 .encryption false) _ (.data (List.replicate 16 0)) rfl rfl

private theorem seventeenBytes_sound : ∀ c ∈ seventeenBytes, c.Sound := by
  simp only [seventeenBytes, List.mem_cons, List.not_mem_nil, or_false, forall_eq_or_imp, forall_eq]
  exact ⟨⟨nofun, nofun, by decide, rfl⟩, ⟨nofun, nofun, by decide, rfl⟩,
    ⟨nofun, nofun, by decide, rfl⟩⟩

theorem pieces_compute_the_mode_padded :
    updateAllAndFinish (modeKeyEnv psaAlgCbcPkcs7) (some (modeKeyCtx psaAlgCbcPkcs7 .encryption true))
        seventeenBytes ⟨false, 16⟩ =
      textbookMode psaAlgCbcPkcs7 .encryption 16 (addKeyByte .encryption (List.replicate 16 0x5a))
        (List.replicate 16 0) (7 :: List.replicate 16 1) := by
  have room : RoomFor 16 (modeCount psaAlgCbcPkcs7 .encryption 16) 0 seventeenBytes :=
    ⟨by decide, by decide, by decide, trivial⟩
  have lastSound : LastSound psaAlgCbcPkcs7 16 ⟨false, 16⟩ := ⟨nofun, fun _ => Nat.le_refl 16⟩
  have found : (modeKeyEnv psaAlgCbcPkcs7).getKeyData 1 =
    .ok (modeKeyAttributes psaAlgCbcPkcs7, List.replicate 16 0x5a) := rfl
  exact (pieces_compute_the_mode modeCipher_textbook rfl found padded_begins seventeenBytes_sound room
    lastSound).1

/-! ## What the updates refuse -/

/-- A length that does not fit `word32` ends the operation. -/
theorem update_too_long {env : CipherEnv Aes Des3 ChaCha} {ctx : CipherCtx Aes Des3 ChaCha}
    {c : Chunk} (long : c.input.length > uint32Max) :
    (psaCipherUpdate env (some ctx) c.input c.output c.overlap false).2 = none := by
  cases after : (psaCipherUpdate env (some ctx) c.input c.output c.overlap false).2 with
  | none => rfl
  | some ctx' =>
    obtain ⟨-, output, result⟩ := cipherEnds_some after
    obtain ⟨updated, accepted, -⟩ := except_bind_ok result
    unfold cipherUpdate at accepted
    simp only [require_bind_ok_iff] at accepted
    have fits := accepted.2.2.1
    unfold wolfpsaCheckWord32Length at fits
    rw [if_pos long] at fits
    exact absurd fits (by decide)

/-- Zeros without a NULL pointer, and as much room for output. -/
def zeros (length : Nat) (overlap : Bool) : Chunk :=
  ⟨.data (List.replicate length 0), ⟨false, length⟩, overlap⟩

theorem zeros_sound {length : Nat} (fits : length ≤ uint32Max) : (zeros length false).Sound := by
  refine ⟨nofun, nofun, ?_, rfl⟩
  show (List.replicate length (0 : Byte)).length ≤ uint32Max
  rw [List.length_replicate]
  exact fits

private theorem ecb_begins : Begins (modeKeyEnv psaAlgEcbNoPadding) .encryption 1 psaAlgEcbNoPadding []
    (modeKeyCtx psaAlgEcbNoPadding .encryption false) :=
  .ecb _ rfl rfl

/-- Two pieces of zeros are encrypted. -/
private theorem pieces_succeed {n : Nat} (fits : n ≤ uint32Max) (blocks : n % 16 = 0) :
    (updateAllAndFinish (modeKeyEnv psaAlgEcbNoPadding)
      (some (modeKeyCtx psaAlgEcbNoPadding .encryption false)) [zeros n false, zeros n false]
      ⟨false, 0⟩).2 = .success := by
  have length : (zeros n false).input.length = n := List.length_replicate
  have size : (zeros n false).output.size = n := rfl
  have found : (modeKeyEnv psaAlgEcbNoPadding).getKeyData 1 =
    .ok (modeKeyAttributes psaAlgEcbNoPadding, List.replicate 16 0x5a) := rfl
  have sound : ∀ c ∈ [zeros n false, zeros n false], c.Sound := by
    intro c member
    have same : c = zeros n false := by simpa using member
    rw [same]
    exact zeros_sound fits
  have room : RoomFor 16 (modeCount psaAlgEcbNoPadding .encryption 16) 0
      [zeros n false, zeros n false] := by
    have count (t : Nat) : modeCount psaAlgEcbNoPadding .encryption 16 t = t / 16 := rfl
    refine ⟨?_, ?_, trivial⟩
    · rw [length, size, count]
      omega
    · rw [length, size, count, count]
      omega
  have lastSound : LastSound psaAlgEcbNoPadding 16 ⟨false, 0⟩ :=
    ⟨nofun, fun padded => absurd padded (by decide)⟩
  have total : ([zeros n false, zeros n false].map (·.input.bytes)).flatten.length % 16 = 0 := by
    simp only [zeros, InBuf.bytes, List.map_cons, List.map_nil, List.flatten_cons, List.flatten_nil,
      List.length_append, List.length_replicate, List.length_nil]
    omega
  rw [updateAllAndFinish_textbook modeCipher_textbook rfl found ecb_begins sound room lastSound]
  unfold textbookMode
  rw [if_neg (show ¬psaAlgEcbNoPadding = psaAlgCbcPkcs7 by decide)]
  exact if_pos total

private theorem too_long_refused {n : Nat} (long : n > uint32Max) :
    (updateAllAndFinish (modeKeyEnv psaAlgEcbNoPadding)
      (some (modeKeyCtx psaAlgEcbNoPadding .encryption false)) [zeros n false] ⟨false, 0⟩).2 =
        .badState := by
  have length : (zeros n false).input.length > uint32Max := by
    show (List.replicate n (0 : Byte)).length > uint32Max
    rw [List.length_replicate]
    exact long
  show (psaCipherFinish (modeKeyEnv psaAlgEcbNoPadding) (psaCipherUpdate _ _ _ _ _ _).2 _ _).1.status
    = _
  rw [update_too_long length]
  rfl

/-- Output and status do not depend on how the input of the ECB operation is cut, for updates that meet
`allowed` and have room. -/
def CutsAgree (allowed : Chunk → Prop) : Prop :=
  ∀ (chunks : List Chunk) (whole : Chunk), (∀ c ∈ whole :: chunks, allowed c) →
    (∀ c ∈ whole :: chunks, c.input.length ≤ c.output.size) →
    whole.input.bytes = (chunks.map (·.input.bytes)).flatten →
    updateAllAndFinish (modeKeyEnv psaAlgEcbNoPadding)
        (some (modeKeyCtx psaAlgEcbNoPadding .encryption false)) chunks ⟨false, 0⟩ =
      updateAllAndFinish (modeKeyEnv psaAlgEcbNoPadding)
        (some (modeKeyCtx psaAlgEcbNoPadding .encryption false)) [whole] ⟨false, 0⟩

private theorem zeros_double (n : Nat) : (zeros (n + n) false).input.bytes =
    ([zeros n false, zeros n false].map (·.input.bytes)).flatten := by
  simp only [zeros, InBuf.bytes, List.map_cons, List.map_nil, List.flatten_cons, List.flatten_nil,
    List.append_nil, List.replicate_append_replicate]

private theorem halves_disagree {n : Nat} (fits : n ≤ uint32Max) (long : n + n > uint32Max)
    (blocks : n % 16 = 0) : ¬CutsAgree fun c => c.overlap = false := by
  intro agree
  have separate : ∀ c ∈ [zeros (n + n) false, zeros n false, zeros n false], c.overlap = false := by
    intro c member
    simp only [List.mem_cons, List.not_mem_nil, or_false] at member
    rcases member with rfl | rfl | rfl <;> rfl
  have room : ∀ c ∈ [zeros (n + n) false, zeros n false, zeros n false],
      c.input.length ≤ c.output.size := by
    intro c member
    simp only [List.mem_cons, List.not_mem_nil, or_false] at member
    rcases member with rfl | rfl | rfl <;> exact Nat.le_of_eq List.length_replicate
  have same := congrArg Prod.snd (agree _ _ separate room (zeros_double n))
  rw [pieces_succeed fits blocks, too_long_refused long] at same
  cases same

/-- Two halves of 2^31 bytes are encrypted, but as one update they are refused, since their length does
not fit `word32`; and an update in place is refused. -/
theorem long_and_overlapping_updates_refused :
    (¬CutsAgree fun c => c.overlap = false) ∧ ¬CutsAgree fun c => c.input.length ≤ uint32Max := by
  refine ⟨halves_disagree (show 2147483648 ≤ uint32Max by decide) (by decide) (by decide),
    fun agree => ?_⟩
  have same := agree [zeros 16 true] (zeros 16 false) (by decide) (by decide) (by decide)
  exact absurd same (by decide)

end WolfPSA.Guarantees
