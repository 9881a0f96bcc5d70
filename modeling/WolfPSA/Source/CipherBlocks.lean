import WolfPSA.Lib.BlockModes
import WolfPSA.Source.Cipher

/-!
# Block modes as absorbed input

The buffering routines of `psa_cipher_update` against `absorb`: when the wolfCrypt call of a mode
computes `blockwise` of a step, a routine writes the blocks that pending and new input fill together
and keeps the rest. The step and the register are parameters of the routines, so that CBC and ECB, AES
and triple DES share one argument.
-/

namespace WolfPSA.Source
open Lib

variable {Aes Des3 ChaCha : Type}

/-- A block call computes a mode: `carries ctx register` says which register the object of a context
holds. -/
structure ComputesMode (n : Nat) (step : Bytes → Bytes → Bytes × Bytes)
    (carries : CipherCtx Aes Des3 ChaCha → Bytes → Prop) (call : BlockCall Aes Des3 ChaCha) :
    Prop where
  blocks : ∀ ctx register k input, carries ctx register → input.length = k * n →
    ∃ ctx', call ctx input = .ok ((blockwise n step k register input).1, ctx') ∧
      carries ctx' (blockwise n step k register input).2 ∧ FeedsOnly ctx ctx' ∧
      ctx'.partialBlock = ctx.partialBlock
  setPartial : ∀ ctx register block, carries ctx register →
    carries { ctx with partialBlock := block } register

/-- The routine has absorbed the input: it has written what `absorb` writes and the context holds what
`absorb` leaves. -/
structure Absorbed (n : Nat) (step : Bytes → Bytes → Bytes × Bytes) (count : Nat → Nat)
    (carries : CipherCtx Aes Des3 ChaCha → Bytes → Prop) (ctx : CipherCtx Aes Des3 ChaCha)
    (register input output : Bytes) (ctx' : CipherCtx Aes Des3 ChaCha) : Prop where
  writes : output = (absorb n step count ⟨register, ctx.partialBlock⟩ input).1
  carried : carries ctx' (absorb n step count ⟨register, ctx.partialBlock⟩ input).2.state
  pending : ctx'.partialBlock = (absorb n step count ⟨register, ctx.partialBlock⟩ input).2.pending
  feeds : FeedsOnly ctx ctx'

section

variable {n : Nat} {step : Bytes → Bytes → Bytes × Bytes}
  {carries : CipherCtx Aes Des3 ChaCha → Bytes → Prop} {call : BlockCall Aes Des3 ChaCha}
  {ctx : CipherCtx Aes Des3 ChaCha} {register : Bytes}

/-- The number of blocks the partial block takes part in. -/
private def partialBlocks (ctx : CipherCtx Aes Des3 ChaCha) : Nat :=
  if ctx.partialBlock.length > 0 then 1 else 0

private theorem fillPartialBlock_computes (computes : ComputesMode n step carries call)
    (sized : ctx.blockSize = n) (held : carries ctx register) {input : Bytes}
    (bound : ctx.partialBlock.length ≤ n) (enough : n ≤ ctx.partialBlock.length + input.length) :
    ∃ ctx', fillPartialBlock call ctx input =
        .ok ((blockwise n step (partialBlocks ctx) register (ctx.partialBlock ++ input)).1, ctx',
          (ctx.partialBlock ++ input).drop (partialBlocks ctx * n)) ∧
      carries ctx' (blockwise n step (partialBlocks ctx) register (ctx.partialBlock ++ input)).2 ∧
      FeedsOnly ctx ctx' ∧ ctx'.partialBlock = [] := by
  unfold fillPartialBlock partialBlocks
  by_cases some : ctx.partialBlock.length > 0
  · have block : ctx.partialBlock ++ input.take (n - ctx.partialBlock.length) =
        (ctx.partialBlock ++ input).take n := by
      rw [List.take_append, List.take_of_length_le bound]
    have whole : ((ctx.partialBlock ++ input).take n).length = 1 * n := by
      rw [List.length_take, List.length_append]
      omega
    have front : blockwise n step 1 register ((ctx.partialBlock ++ input).take n) =
        blockwise n step 1 register (ctx.partialBlock ++ input) := by
      rw [← blockwise_append_left (Nat.le_of_eq whole.symm) register
        ((ctx.partialBlock ++ input).drop n), List.take_append_drop]
    obtain ⟨ctx', called, carried, feeds, -⟩ := computes.blocks ctx register 1 _ held whole
    rw [front] at called carried
    refine ⟨{ ctx' with partialBlock := [] }, ?_, computes.setPartial _ _ _ ?_, feeds.setPartial [], rfl⟩
    · rw [if_pos some, if_pos some]
      dsimp only
      rw [sized, block, called, Nat.one_mul, List.drop_append, List.drop_eq_nil_of_le bound]
      rfl
    · rw [if_pos some]
      exact carried
  · have nothing : ctx.partialBlock = [] := List.eq_nil_of_length_eq_zero (by omega)
    rw [if_neg some, if_neg some, nothing]
    exact ⟨ctx, by simp [blockwise], held, .refl ctx, nothing⟩

private theorem wholeBlocks_computes (positive : 0 < n) (computes : ComputesMode n step carries call)
    (held : carries ctx register) {input : Bytes} {k : Nat} (enough : k * n ≤ input.length) :
    ∃ ctx', wholeBlocks call ctx input (k * n) = .ok ((blockwise n step k register input).1, ctx') ∧
      carries ctx' (blockwise n step k register input).2 ∧ FeedsOnly ctx ctx' ∧
      ctx'.partialBlock = ctx.partialBlock := by
  unfold wholeBlocks
  by_cases some : k * n > 0
  · have whole : (input.take (k * n)).length = k * n := by
      rw [List.length_take]
      omega
    have front : blockwise n step k register (input.take (k * n)) =
        blockwise n step k register input := by
      rw [← blockwise_append_left (Nat.le_of_eq whole.symm) register (input.drop (k * n)),
        List.take_append_drop]
    obtain ⟨ctx', called, rest⟩ := computes.blocks ctx register k _ held whole
    rw [front] at called rest
    refine ⟨ctx', ?_, rest⟩
    rw [if_pos some, called]
    rfl
  · have none : k = 0 := by
      rcases Nat.mul_eq_zero.mp (by omega : k * n = 0) with zero | zero
      · exact zero
      · omega
    rw [if_neg some, none]
    exact ⟨ctx, rfl, held, .refl ctx, rfl⟩

private theorem keepRest_left {ctx' : CipherCtx Aes Des3 ChaCha} (empty : ctx'.partialBlock = [])
    (rest : Bytes) : (keepRest ctx' rest).partialBlock = rest := by
  unfold keepRest
  split
  · rfl
  · rw [empty]
    exact (List.eq_nil_of_length_eq_zero (by omega)).symm

private theorem keepRest_carries (computes : ComputesMode n step carries call)
    {ctx' : CipherCtx Aes Des3 ChaCha} {register' : Bytes} (carried : carries ctx' register')
    (rest : Bytes) : carries (keepRest ctx' rest) register' := by
  unfold keepRest
  split
  · exact computes.setPartial _ _ _ carried
  · exact carried

private theorem updateRest_eq {ctx₁ ctx₂ : CipherCtx Aes Des3 ChaCha} {rest second : Bytes}
    (first : Bytes) (sized : ctx₁.blockSize = n)
    (processed : wholeBlocks call ctx₁ rest (rest.length / n * n) = .ok (second, ctx₂)) :
    updateRest call ctx₁ first rest =
      .ok (first ++ second, keepRest ctx₂ (rest.drop (rest.length / n * n))) := by
  subst sized
  unfold updateRest
  by_cases some : rest.length > 0
  · rw [if_pos some]
    dsimp only
    rw [processed]
    rfl
  · have empty : rest = [] := List.eq_nil_of_length_eq_zero (by omega)
    subst empty
    have nothing : wholeBlocks call ctx₁ [] (0 / ctx₁.blockSize * ctx₁.blockSize) =
        .ok ([], ctx₁) := by simp [wholeBlocks]
    rw [List.length_nil] at processed
    rw [nothing] at processed
    cases processed
    simp [keepRest]

/-- Both buffering routines from the point where a block is full: the partial block, the whole blocks
behind it and what is kept, for `total` blocks in all. -/
private theorem fill_then_whole (positive : 0 < n) (computes : ComputesMode n step carries call)
    (sized : ctx.blockSize = n) (held : carries ctx register) {input : Bytes} {blocks : Nat}
    (bound : ctx.partialBlock.length ≤ n) (some : 0 < blocks)
    (enough : blocks * n ≤ ctx.partialBlock.length + input.length) :
    ∃ first ctx₁ second ctx₂,
      fillPartialBlock call ctx input =
        .ok (first, ctx₁, (ctx.partialBlock ++ input).drop (partialBlocks ctx * n)) ∧
      wholeBlocks call ctx₁ ((ctx.partialBlock ++ input).drop (partialBlocks ctx * n))
        ((blocks - partialBlocks ctx) * n) = .ok (second, ctx₂) ∧
      first ++ second = (blockwise n step blocks register (ctx.partialBlock ++ input)).1 ∧
      carries ctx₂ (blockwise n step blocks register (ctx.partialBlock ++ input)).2 ∧
      partialBlocks ctx + (blocks - partialBlocks ctx) = blocks ∧ ctx₁.blockSize = n ∧ FeedsOnly ctx ctx₂ ∧ ctx₂.partialBlock = [] := by
  have one : n ≤ blocks * n := Nat.le_mul_of_pos_left n some
  have full : n ≤ ctx.partialBlock.length + input.length := by omega
  obtain ⟨ctx₁, filled, carried₁, feeds₁, empty₁⟩ :=
    fillPartialBlock_computes computes sized held bound full
  have parts : partialBlocks ctx + (blocks - partialBlocks ctx) = blocks := by
    unfold partialBlocks
    split <;> omega
  have rest : (blocks - partialBlocks ctx) * n ≤
      ((ctx.partialBlock ++ input).drop (partialBlocks ctx * n)).length := by
    rw [List.length_drop, List.length_append, Nat.sub_mul]
    omega
  obtain ⟨ctx₂, processed, carried₂, feeds₂, kept⟩ :=
    wholeBlocks_computes positive computes carried₁ rest
  have all : blockwise n step (partialBlocks ctx + (blocks - partialBlocks ctx)) register _ = _ :=
    blockwise_add (partialBlocks ctx) (blocks - partialBlocks ctx) register (ctx.partialBlock ++ input)
  rw [parts] at all
  refine ⟨_, ctx₁, _, ctx₂, filled, processed, ?_, ?_, parts, ?_, feeds₁.trans feeds₂, kept.trans empty₁⟩
  · rw [all]
  · rw [all]
    exact carried₂
  · obtain ⟨_, _, _, _, rfl⟩ := feeds₁
    exact sized

private theorem keepInput_absorbed (computes : ComputesMode n step carries call) {count : Nat → Nat}
    (held : carries ctx register) {input : Bytes}
    (none : count (ctx.partialBlock.length + input.length) = 0) :
    Absorbed n step count carries ctx register input [] (keepInput ctx input) := by
  have total : (ctx.partialBlock ++ input).length = ctx.partialBlock.length + input.length :=
    List.length_append
  refine ⟨?_, ?_, ?_, (FeedsOnly.refl ctx).setPartial _⟩
  · rw [absorb, total, none]
    rfl
  · rw [absorb, total, none]
    exact computes.setPartial ctx register _ held
  · rw [absorb, total, none, Nat.zero_mul]
    rfl

/-- The routine that processes every full block. -/
theorem updateBlocks_absorbed (positive : 0 < n) (computes : ComputesMode n step carries call)
    (sized : ctx.blockSize = n) (held : carries ctx register) (bound : ctx.partialBlock.length < n)
    {input : Bytes} {outputSize : Nat}
    (room : (ctx.partialBlock.length + input.length) / n * n ≤ outputSize) :
    ∃ output ctx', updateBlocks call ctx input outputSize = .ok (output, ctx') ∧
      Absorbed n step (· / n) carries ctx register input output ctx' := by
  have total : (ctx.partialBlock ++ input).length = ctx.partialBlock.length + input.length :=
    List.length_append
  unfold updateBlocks
  dsimp only
  rw [sized, show decide _ = true from decide_eq_true room]
  by_cases none : (ctx.partialBlock.length + input.length) / n = 0
  · rw [if_pos none]
    exact ⟨_, _, rfl, keepInput_absorbed computes held none⟩
  · rw [if_neg none]
    obtain ⟨first, ctx₁, second, ctx₂, filled, processed, output, carried, parts, sized₁, feeds,
        empty⟩ := fill_then_whole positive computes sized held (Nat.le_of_lt bound) (Nat.pos_of_ne_zero none)
        (Nat.div_mul_le_self _ n)
    have left : ((ctx.partialBlock ++ input).drop (partialBlocks ctx * n)).length / n =
        (ctx.partialBlock.length + input.length) / n - partialBlocks ctx := by
      rw [List.length_drop, total, Nat.mul_comm, Nat.sub_mul_div]
    rw [← left] at processed
    rw [filled]
    refine ⟨_, _, updateRest_eq first sized₁ processed, ?_, ?_, ?_, feeds.keepRest _⟩
    · rw [output, absorb, total]
    · rw [absorb, total]
      exact keepRest_carries computes carried _
    · rw [keepRest_left empty, left, absorb, total, List.drop_drop, ← Nat.add_mul, parts]

private theorem holdBack_left {ctx' : CipherCtx Aes Des3 ChaCha} {rest : Bytes}
    (sized : ctx'.blockSize = n) (empty : ctx'.partialBlock = []) (bound : rest.length ≤ n) :
    (holdBack ctx' rest).partialBlock = rest := by
  unfold holdBack
  split
  · rw [sized]
    exact List.take_of_length_le bound
  · exact keepRest_left empty rest

private theorem holdBack_carries (computes : ComputesMode n step carries call)
    {ctx' : CipherCtx Aes Des3 ChaCha} {register' : Bytes} (carried : carries ctx' register')
    (rest : Bytes) : carries (holdBack ctx' rest) register' := by
  unfold holdBack
  split
  · exact computes.setPartial _ _ _ carried
  · exact keepRest_carries computes carried rest

/-- The routine that holds the last block back. -/
theorem updateHeldBack_absorbed (positive : 0 < n) (computes : ComputesMode n step carries call)
    (sized : ctx.blockSize = n) (held : carries ctx register) (bound : ctx.partialBlock.length ≤ n)
    {input : Bytes} {outputSize : Nat}
    (room : (ctx.partialBlock.length + input.length - 1) / n * n ≤ outputSize) :
    ∃ output ctx', updateHeldBack call ctx input outputSize = .ok (output, ctx') ∧
      Absorbed n step (fun t => (t - 1) / n) carries ctx register input output ctx' := by
  have total : (ctx.partialBlock ++ input).length = ctx.partialBlock.length + input.length :=
    List.length_append
  unfold updateHeldBack
  dsimp only
  rw [sized]
  by_cases short : ctx.partialBlock.length + input.length < n
  · rw [if_pos short]
    exact ⟨_, _, rfl, keepInput_absorbed computes held (Nat.div_eq_of_lt (by omega))⟩
  rw [if_neg short]
  by_cases none : (ctx.partialBlock.length + input.length - 1) / n * n = 0
  · rw [if_pos none]
    refine ⟨_, _, rfl, keepInput_absorbed computes held ?_⟩
    rcases Nat.mul_eq_zero.mp none with zero | zero
    · exact zero
    · omega
  rw [if_neg none, show decide _ = true from decide_eq_true room]
  have within := (blockCount_heldBack positive).within (ctx.partialBlock.length + input.length)
  have some : 0 < (ctx.partialBlock.length + input.length - 1) / n := by
    rcases Nat.eq_zero_or_pos ((ctx.partialBlock.length + input.length - 1) / n) with zero | pos
    · exact absurd (by rw [zero, Nat.zero_mul]) none
    · exact pos
  obtain ⟨first, ctx₁, second, ctx₂, filled, processed, output, carried, parts, sized₁, feeds,
    empty⟩ := fill_then_whole positive computes sized held bound some within
  have full : (ctx.partialBlock.length + input.length - 1) / n * n -
      (if ctx.partialBlock.length > 0 then n else 0) =
        ((ctx.partialBlock.length + input.length - 1) / n - partialBlocks ctx) * n := by
    rw [Nat.sub_mul]
    unfold partialBlocks
    split <;> simp
  have rest : ((ctx.partialBlock ++ input).drop (partialBlocks ctx * n)).drop
      (((ctx.partialBlock.length + input.length - 1) / n - partialBlocks ctx) * n) =
        (ctx.partialBlock ++ input).drop
          ((ctx.partialBlock.length + input.length - 1) / n * n) := by
    rw [List.drop_drop, ← Nat.add_mul, parts]
  have last : ((ctx.partialBlock ++ input).drop
      ((ctx.partialBlock.length + input.length - 1) / n * n)).length ≤ n := by
    have above := Nat.lt_div_mul_add positive (a := ctx.partialBlock.length + input.length - 1)
    rw [List.length_drop, total]
    omega
  have sized₂ : ctx₂.blockSize = n := by
    obtain ⟨_, _, _, _, same⟩ := feeds
    rw [same]
    exact sized
  rw [filled]
  refine ⟨first ++ second, holdBack ctx₂ ((ctx.partialBlock ++ input).drop
    ((ctx.partialBlock.length + input.length - 1) / n * n)), ?_, ?_, ?_, ?_, feeds.holdBack _⟩
  · show (wholeBlocks call ctx₁ _ (_ - if _ then ctx₁.blockSize else 0) >>= _) = _
    rw [sized₁, full, processed, ← rest]
    rfl
  · rw [output, absorb, total]
  · rw [absorb, total]
    exact holdBack_carries computes carried _
  · rw [holdBack_left sized₂ empty last, absorb, total]

end

end WolfPSA.Source
