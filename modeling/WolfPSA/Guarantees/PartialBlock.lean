import WolfPSA.Lib.Trace
import WolfPSA.Source.Cipher

/-!
# The partial block of a cipher operation

`ctx->partial` has room for `AES_BLOCK_SIZE` bytes. Over every run, whatever wolfCrypt answers, an
operation holds less than a block in it, and at most a block where PKCS #7 decryption holds the last one
back; so no copy of `psa_cipher_update` leaves the buffer or the input.
-/

namespace WolfPSA.Guarantees
open Lib Source

variable {Aes Des3 ChaCha : Type}

/-- The branch that holds the last block back. -/
def HoldsBack (ctx : CipherCtx Aes Des3 ChaCha) : Prop :=
  ctx.alg = psaAlgCbcPkcs7 ∧ ctx.direction = .decryption

instance (ctx : CipherCtx Aes Des3 ChaCha) : Decidable (HoldsBack ctx) :=
  inferInstanceAs (Decidable (_ ∧ _))

/-- `block_size` and `partial_len` of an operation. -/
structure PartialBounded (ctx : CipherCtx Aes Des3 ChaCha) : Prop where
  sized : ctx.blockSize = desBlockSize ∨ ctx.blockSize = aesBlockSize
  most : ctx.partialBlock.length ≤ ctx.blockSize
  below : ¬HoldsBack ctx → ctx.partialBlock.length < ctx.blockSize

/-! ## The calls -/

/-- A block call leaves the partial block alone. -/
def CallKeepsPartial (call : BlockCall Aes Des3 ChaCha) : Prop :=
  ∀ {ctx ctx' input output}, call ctx input = .ok (output, ctx') → ctx'.partialBlock = ctx.partialBlock

section

variable {wc : WcCipher Aes Des3 ChaCha} {ctx ctx' : CipherCtx Aes Des3 ChaCha}
  {call : BlockCall Aes Des3 ChaCha} {input output rest : Bytes} {size : Nat}

private theorem callBlocks_keepsPartial (des3 : Des3 → Bytes → Except WcError (Bytes × Des3))
    (aes : Aes → Bytes → Except WcError (Bytes × Aes)) :
    CallKeepsPartial (callBlocks des3 aes : BlockCall Aes Des3 ChaCha) := by
  intro ctx ctx' input output called
  unfold callBlocks at called
  split at called
  · obtain ⟨⟨_, moved⟩, -, ended⟩ := except_bind_ok called
    cases ended
    rfl
  · obtain ⟨⟨_, moved⟩, -, ended⟩ := except_bind_ok called
    cases ended
    rfl

private theorem fillPartialBlock_left
    (filled : fillPartialBlock call ctx input = .ok (output, ctx', rest)) : ctx'.partialBlock = [] := by
  unfold fillPartialBlock at filled
  split at filled
  · obtain ⟨⟨_, moved⟩, -, ended⟩ := except_bind_ok filled
    cases ended
    rfl
  · cases filled
    exact List.eq_nil_of_length_eq_zero (by omega)

private theorem wholeBlocks_left (keeps : CallKeepsPartial call) {length : Nat}
    (processed : wholeBlocks call ctx input length = .ok (output, ctx')) :
    ctx'.partialBlock = ctx.partialBlock := by
  unfold wholeBlocks at processed
  split at processed
  · exact keeps (wcCall_ok_iff.mp processed)
  · cases processed
    rfl

private theorem keepRest_length (empty : ctx.partialBlock = []) (rest : Bytes) :
    (keepRest ctx rest).partialBlock.length = rest.length := by
  unfold keepRest
  split
  · rfl
  · rw [empty, List.length_nil]
    omega

private theorem holdBack_length (empty : ctx.partialBlock = []) (rest : Bytes) :
    (holdBack ctx rest).partialBlock.length ≤ ctx.blockSize := by
  unfold holdBack
  split
  · show (rest.take ctx.blockSize).length ≤ _
    rw [List.length_take]
    exact Nat.min_le_left _ _
  · rw [keepRest_length empty]
    omega

/-- Every full block is processed: less than a block is left. -/
theorem updateBlocks_left (keeps : CallKeepsPartial call) (feeds : CallFeeds call)
    (positive : 0 < ctx.blockSize)
    (updated : updateBlocks call ctx input size = .ok (output, ctx')) :
    ctx'.partialBlock.length < ctx.blockSize := by
  unfold updateBlocks at updated
  obtain ⟨-, -, updated⟩ := except_bind_ok updated
  split at updated
  · rename_i none
    cases updated
    show (ctx.partialBlock ++ input).length < _
    rw [List.length_append]
    exact (Nat.div_eq_zero_iff_lt positive).mp none
  obtain ⟨⟨first, ctx₁, rest⟩, filled, updated⟩ := except_bind_ok updated
  have empty := fillPartialBlock_left filled
  have sized : ctx₁.blockSize = ctx.blockSize := by
    obtain ⟨_, _, _, _, rfl⟩ := fillPartialBlock_feeds feeds filled
    rfl
  dsimp only at updated
  unfold updateRest at updated
  split at updated
  · obtain ⟨⟨second, ctx₂⟩, processed, updated⟩ := except_bind_ok updated
    cases updated
    rw [keepRest_length ((wholeBlocks_left keeps processed).trans empty), List.length_drop, sized]
    have parts := Nat.div_add_mod' rest.length ctx.blockSize
    have below := Nat.mod_lt rest.length positive
    omega
  · cases updated
    rw [empty]
    exact positive

/-- One block may be held back, and no more. -/
theorem updateHeldBack_left (keeps : CallKeepsPartial call) (feeds : CallFeeds call)
    (positive : 0 < ctx.blockSize)
    (updated : updateHeldBack call ctx input size = .ok (output, ctx')) :
    ctx'.partialBlock.length ≤ ctx.blockSize := by
  unfold updateHeldBack at updated
  dsimp only at updated
  split at updated
  · cases updated
    show (ctx.partialBlock ++ input).length ≤ _
    rw [List.length_append]
    omega
  split at updated
  · rename_i none
    cases updated
    show (ctx.partialBlock ++ input).length ≤ _
    have zero : (ctx.partialBlock.length + input.length - 1) / ctx.blockSize = 0 := by
      rcases Nat.mul_eq_zero.mp none with zero | zero
      · exact zero
      · omega
    have below := (Nat.div_eq_zero_iff_lt positive).mp zero
    rw [List.length_append]
    omega
  obtain ⟨-, -, updated⟩ := except_bind_ok updated
  obtain ⟨⟨first, ctx₁, rest⟩, filled, updated⟩ := except_bind_ok updated
  obtain ⟨⟨second, ctx₂⟩, processed, updated⟩ := except_bind_ok updated
  cases updated
  have empty := (wholeBlocks_left keeps processed).trans (fillPartialBlock_left filled)
  have sized : ctx₂.blockSize = ctx.blockSize := by
    obtain ⟨_, _, _, _, rfl⟩ :=
      (fillPartialBlock_feeds feeds filled).trans (wholeBlocks_feeds feeds processed)
    rfl
  exact sized ▸ holdBack_length empty _

end

/-! ## Runs -/

section

variable {wc : WcCipher Aes Des3 ChaCha} {ctx ctx' : CipherCtx Aes Des3 ChaCha}

theorem PartialBounded.positive (bounded : PartialBounded ctx) : 0 < ctx.blockSize := by
  rcases bounded.sized with sized | sized
  · rw [sized]
    decide
  · rw [sized]
    decide

/-- A context that differs in the partial block, the objects and the IV. -/
private theorem PartialBounded.moved (bounded : PartialBounded ctx)
    (sameAlg : ctx'.alg = ctx.alg) (sameDirection : ctx'.direction = ctx.direction)
    (sameSize : ctx'.blockSize = ctx.blockSize) (most : ctx'.partialBlock.length ≤ ctx.blockSize)
    (below : ¬HoldsBack ctx → ctx'.partialBlock.length < ctx.blockSize) : PartialBounded ctx' := by
  refine ⟨sameSize ▸ bounded.sized, sameSize ▸ most, fun every => ?_⟩
  rw [sameSize]
  refine below fun held => every ?_
  exact ⟨sameAlg.trans held.1, sameDirection.trans held.2⟩

private theorem updateAesStream_left {call : Aes → Bytes → Except WcError (Bytes × Aes)}
    {input output : Bytes} {size : Nat}
    (updated : updateAesStream call ctx input size = .ok (output, ctx')) :
    ctx'.partialBlock = ctx.partialBlock := by
  unfold updateAesStream at updated
  obtain ⟨-, -, updated⟩ := except_bind_ok updated
  obtain ⟨-, -, updated⟩ := except_bind_ok updated
  obtain ⟨⟨_, aes⟩, -, ended⟩ := except_bind_ok updated
  cases ended
  rfl

private theorem updateChacha_left {input output : Bytes} {size : Nat}
    (updated : updateChacha wc ctx input size = .ok (output, ctx')) :
    ctx'.partialBlock = ctx.partialBlock := by
  unfold updateChacha at updated
  obtain ⟨-, -, updated⟩ := except_bind_ok updated
  obtain ⟨-, -, updated⟩ := except_bind_ok updated
  obtain ⟨⟨_, chacha⟩, -, ended⟩ := except_bind_ok updated
  cases ended
  rfl

private theorem updateInput_left (bounded : PartialBounded ctx) {input output : Bytes} {size : Nat}
    (updated : updateInput wc ctx input size = .ok (output, ctx')) :
    ctx'.partialBlock.length ≤ ctx.blockSize ∧
      (¬HoldsBack ctx → ctx'.partialBlock.length < ctx.blockSize) := by
  have positive := bounded.positive
  have every {call : BlockCall Aes Des3 ChaCha} (keeps : CallKeepsPartial call) (feeds : CallFeeds call)
      (blocks : updateBlocks call ctx input size = .ok (output, ctx')) :
      ctx'.partialBlock.length ≤ ctx.blockSize ∧
        (¬HoldsBack ctx → ctx'.partialBlock.length < ctx.blockSize) := by
    have below := updateBlocks_left keeps feeds positive blocks
    exact ⟨Nat.le_of_lt below, fun _ => below⟩
  have same (kept : ctx'.partialBlock = ctx.partialBlock) :
      ctx'.partialBlock.length ≤ ctx.blockSize ∧
        (¬HoldsBack ctx → ctx'.partialBlock.length < ctx.blockSize) := by
    rw [kept]
    exact ⟨bounded.most, bounded.below⟩
  unfold updateInput at updated
  split_ifs at updated with cbc pkcs7 star ecb ctr cfb ofb stream
  · obtain ⟨-, -, updated⟩ := except_bind_ok updated
    exact every (callBlocks_keepsPartial _ _) (callBlocks_feeds _ _) updated
  · obtain ⟨-, -, updated⟩ := except_bind_ok updated
    cases facing : ctx.direction with
    | encryption =>
      rw [facing] at updated
      exact every (callBlocks_keepsPartial _ _) (callBlocks_feeds _ _) updated
    | decryption =>
      rw [facing] at updated
      exact ⟨updateHeldBack_left (callBlocks_keepsPartial _ _) (callBlocks_feeds _ _) positive updated,
        fun other => absurd ⟨pkcs7, facing⟩ other⟩
  · exact same (updateAesStream_left updated)
  · exact every (callBlocks_keepsPartial _ _) (callBlocks_feeds _ _) updated
  · exact same (updateAesStream_left updated)
  · split at updated
    · exact same (updateAesStream_left updated)
    · exact same (updateAesStream_left updated)
  · split at updated
    · exact same (updateAesStream_left updated)
    · exact same (updateAesStream_left updated)
  · exact same (updateChacha_left updated)
  · cases updated

theorem partialBounded_setup {env : CipherEnv Aes Des3 ChaCha} {key : KeyId} {alg : Algorithm}
    {usage : KeyUsage} {direction : CipherDirection}
    (granted : cipherSetupCtx env key alg usage direction = .ok ctx) : PartialBounded ctx := by
  obtain ⟨attributes, -, -, -, ⟨_, _, _, _, made⟩, nothing⟩ := cipherSetupCtx_ok granted
  have positive := wolfpsaCipherBlockSize_pos attributes.type
  subst made
  dsimp only at nothing
  subst nothing
  refine ⟨?_, Nat.zero_le _, fun _ => positive⟩
  show wolfpsaCipherBlockSize attributes.type = _ ∨ wolfpsaCipherBlockSize attributes.type = _
  unfold wolfpsaCipherBlockSize
  split
  · exact .inl rfl
  · exact .inr rfl

theorem PartialBounded.setIv {iv : InBuf} (bounded : PartialBounded ctx)
    (accepted : wolfpsaCipherSetIv wc ctx iv = .ok ctx') : PartialBounded ctx' := by
  obtain ⟨-, -, _, _, _, _, rfl⟩ := wolfpsaCipherSetIv_ok accepted
  exact bounded.moved rfl rfl rfl bounded.most bounded.below

theorem PartialBounded.update {input : InBuf} {output : OutBuf} {overlap : Bool} {bytes : Bytes}
    (bounded : PartialBounded ctx)
    (updated : cipherUpdate wc ctx input output overlap = .ok (bytes, ctx')) : PartialBounded ctx' := by
  rcases cipherUpdate_ok updated with ⟨-, rfl, -⟩ | ⟨-, updated⟩
  · exact bounded
  · obtain ⟨most, below⟩ := updateInput_left bounded updated
    obtain ⟨⟨_, _, _, _, rfl⟩, -⟩ := updateInput_ok updated
    exact bounded.moved rfl rfl rfl most below

end

/-- Every active operation of a state. -/
def PartialsBounded (s : CipherState Aes Des3 ChaCha) : Prop :=
  ∀ op ctx, s op = some ctx → PartialBounded ctx

/-- No call makes a partial block too long. -/
theorem partialsBounded_step {s : CipherState Aes Des3 ChaCha} (bounded : PartialsBounded s)
    (e : CipherEvent Aes Des3 ChaCha) : PartialsBounded (cipherStep s e).2 := by
  intro op ctx active
  unfold cipherStep at active
  dsimp only at active
  by_cases same : op = e.call.op
  · subst same
    rw [Function.update_self] at active
    have origin := cipherCall_contextFrom active
    have before := bounded e.call.op
    revert before origin
    generalize s e.call.op = operation
    intro origin before
    cases origin with
    | kept => exact before _ rfl
    | setup granted => exact partialBounded_setup granted
    | iv accepted => exact (before _ rfl).setIv accepted
    | input updated => exact (before _ rfl).update updated
  · rw [Function.update_of_ne same] at active
    exact bounded op ctx active

theorem run_partialsBounded (es : List (CipherEvent Aes Des3 ChaCha)) :
    PartialsBounded (run cipherStep cipherInit es).2 :=
  run_state_invariant PartialsBounded (fun _ _ active => by cases active)
    (fun _ e (_ : True) bounded => partialsBounded_step bounded e) es fun _ _ => trivial

/-! ## Copies -/

/-- A copy of input into the partial buffer, or behind the partial block into the block that it
completes: the offset there, the offset in the input and the length. -/
structure PartialCopy where
  offset : Nat
  start : Nat
  length : Nat

def PartialCopy.Inside (copy : PartialCopy) (inputLength : Nat) : Prop :=
  copy.offset + copy.length ≤ aesBlockSize ∧ copy.start + copy.length ≤ inputLength

/-- The copies of the branches that process every full block. -/
def everyBlockCopies (blockSize held inputLength : Nat) : List PartialCopy :=
  let needed := if held > 0 then blockSize - held else 0
  if (held + inputLength) / blockSize = 0 then [⟨held, 0, inputLength⟩]
  else
    let offset := needed + (inputLength - needed) / blockSize * blockSize
    [⟨held, 0, needed⟩, ⟨0, offset, inputLength - offset⟩]

/-- The copies of the branch that holds the last block back. -/
def heldBackCopies (blockSize held inputLength : Nat) : List PartialCopy :=
  let needed := if held > 0 then blockSize - held else 0
  let processLen := (held + inputLength - 1) / blockSize * blockSize
  if held + inputLength < blockSize ∨ processLen = 0 then [⟨held, 0, inputLength⟩]
  else
    let offset := needed + (processLen - if held > 0 then blockSize else 0)
    [⟨held, 0, needed⟩,
      ⟨0, offset, if inputLength ≥ offset + blockSize then blockSize else inputLength - offset⟩]

/-- The copies of `psa_cipher_update` for an input in a block mode. -/
def partialCopies (ctx : CipherCtx Aes Des3 ChaCha) (inputLength : Nat) : List PartialCopy :=
  if HoldsBack ctx then heldBackCopies ctx.blockSize ctx.partialBlock.length inputLength
  else everyBlockCopies ctx.blockSize ctx.partialBlock.length inputLength

private theorem everyBlockCopies_inside {n held : Nat} (large : n ≤ aesBlockSize) (below : held < n)
    (inputLength : Nat) : ∀ copy ∈ everyBlockCopies n held inputLength, copy.Inside inputLength := by
  unfold everyBlockCopies PartialCopy.Inside
  dsimp only
  have positive : 0 < n := by omega
  split
  · rename_i none
    have short := (Nat.div_eq_zero_iff_lt positive).mp none
    simp only [List.mem_singleton, forall_eq]
    omega
  · rename_i some
    have full : n ≤ held + inputLength := Nat.le_of_not_lt fun short => some (Nat.div_eq_of_lt short)
    generalize bound : (if held > 0 then n - held else 0) = needed
    have filled : held + needed ≤ n ∧ needed ≤ inputLength := by
      split at bound <;> omega
    have parts := Nat.div_add_mod' (inputLength - needed) n
    have left := Nat.mod_lt (inputLength - needed) positive
    simp only [List.mem_cons, List.not_mem_nil, or_false, forall_eq_or_imp, forall_eq]
    omega

private theorem heldBackCopies_inside {n held : Nat} (large : n ≤ aesBlockSize) (positive : 0 < n)
    (most : held ≤ n) (inputLength : Nat) :
    ∀ copy ∈ heldBackCopies n held inputLength, copy.Inside inputLength := by
  unfold heldBackCopies PartialCopy.Inside
  dsimp only
  have parts := Nat.div_add_mod' (held + inputLength - 1) n
  have left := Nat.mod_lt (held + inputLength - 1) positive
  split
  · simp only [List.mem_singleton, forall_eq]
    omega
  · rename_i some
    have one : n ≤ (held + inputLength - 1) / n * n := by
      refine Nat.le_mul_of_pos_left n (Nat.pos_of_ne_zero fun zero => some (.inr ?_))
      rw [zero, Nat.zero_mul]
    generalize bound : (if held > 0 then n - held else 0) = needed
    have filled : needed ≤ inputLength ∧ (held = 0 → needed = 0) ∧ (0 < held → held + needed = n) := by
      split at bound <;> omega
    simp only [List.mem_cons, List.not_mem_nil, or_false, forall_eq_or_imp, forall_eq]
    refine ⟨by omega, ?_⟩
    split <;> split <;> omega

/-- No copy leaves the buffer or the input. -/
theorem PartialBounded.copies {ctx : CipherCtx Aes Des3 ChaCha} (bounded : PartialBounded ctx)
    (inputLength : Nat) : ∀ copy ∈ partialCopies ctx inputLength, copy.Inside inputLength := by
  have large : ctx.blockSize ≤ aesBlockSize := by
    rcases bounded.sized with sized | sized
    · rw [sized]
      decide
    · exact Nat.le_of_eq sized
  unfold partialCopies
  split
  · exact heldBackCopies_inside large bounded.positive bounded.most inputLength
  · rename_i every
    exact everyBlockCopies_inside large (bounded.below every) inputLength

end WolfPSA.Guarantees
