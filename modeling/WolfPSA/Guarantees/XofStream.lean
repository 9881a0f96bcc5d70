import WolfPSA.Source.Xof
import WolfPSA.Lib.Sponge
import WolfPSA.Lib.Trace

/-!
# The output of an XOF operation is one stream

The `wc_Shake` calls are the operations of a sponge. Then whatever an operation has put out since its
setup is the beginning of SHAKE over whatever it has taken in, however both are cut into calls, and
the counts handed to wolfCrypt stay in the range of `word32`.
-/

namespace WolfPSA.Guarantees

open WolfPSA.Source WolfPSA.Lib

variable {Shake σ : Type}

/-! ## wolfCrypt's calls as operations of a sponge -/

def xofBlockSize (alg : Algorithm) : Nat :=
  if alg == psaAlgShake128 then shake128BlockSize else shake256BlockSize

/-- A block count `wc_Shake*_SqueezeBlocks` can be asked for: neither it nor the byte product leaves
the range of `word32`. -/
def SqueezeInRange (alg : Algorithm) (nBlocks : Nat) : Prop :=
  1 ≤ nBlocks ∧ nBlocks * xofBlockSize alg ≤ uint32Max

/-- The calls are the sponge's operations on the state that `view` reads off the `wc_Shake` object.
Nothing is said of a length or a count that the cast to `word32` would change. -/
structure IsSponge (sponge : ∀ alg, Sponge σ Byte (xofBlockSize alg)) (view : Shake → σ)
    (wc : WcShake Shake) : Prop where
  init : ∀ {alg shake}, wc.init alg = .ok shake → view shake = (sponge alg).initial
  absorb : ∀ {alg shake shake' message}, message.length ≤ uint32Max →
    wc.absorb alg shake message = .ok shake' →
      view shake' = (sponge alg).absorb message (view shake)
  squeeze : ∀ {alg shake shake' nBlocks produced}, SqueezeInRange alg nBlocks →
    wc.squeezeBlocks alg shake nBlocks = .ok (produced, shake') →
      (produced, view shake') = (sponge alg).squeeze nBlocks (view shake)

/-- No call with arguments in range fails. -/
structure Serves (wc : WcShake Shake) : Prop where
  absorb : ∀ alg shake (message : Bytes), message.length ≤ uint32Max →
    ∃ shake', wc.absorb alg shake message = .ok shake'
  squeeze : ∀ alg shake nBlocks, SqueezeInRange alg nBlocks →
    ∃ r, wc.squeezeBlocks alg shake nBlocks = .ok r

/-- Two back ends that differ at most outside the range of `word32`. -/
structure SameInRange (wc wc' : WcShake Shake) : Prop where
  absorb : ∀ alg shake (message : Bytes), message.length ≤ uint32Max →
    wc'.absorb alg shake message = wc.absorb alg shake message
  squeeze : ∀ alg shake nBlocks, SqueezeInRange alg nBlocks →
    wc'.squeezeBlocks alg shake nBlocks = wc.squeezeBlocks alg shake nBlocks

theorem xofBlockSize_pos (alg : Algorithm) : 0 < xofBlockSize alg := by
  unfold xofBlockSize
  split <;> decide

theorem xofBlockSize_le (alg : Algorithm) : xofBlockSize alg ≤ uint32Max := by
  unfold xofBlockSize
  split <;> decide

theorem squeezeInRange_one (alg : Algorithm) : SqueezeInRange alg 1 := by
  refine ⟨Nat.le_refl 1, ?_⟩
  rw [Nat.one_mul]
  exact xofBlockSize_le alg

/-- The block count of one round of the inner loop. -/
theorem squeezeInRange_chunk {alg : Algorithm} {outputLength : Nat}
    (block : xofBlockSize alg ≤ outputLength) :
    SqueezeInRange alg (min (outputLength / xofBlockSize alg) (uint32Max / xofBlockSize alg)) := by
  have positive := xofBlockSize_pos alg
  have some := Nat.div_pos block positive
  have room := Nat.div_pos (xofBlockSize_le alg) positive
  refine ⟨by omega, ?_⟩
  calc min (outputLength / xofBlockSize alg) (uint32Max / xofBlockSize alg) * xofBlockSize alg
    _ ≤ uint32Max / xofBlockSize alg * xofBlockSize alg := Nat.mul_le_mul_right _ (Nat.min_le_right _ _)
    _ ≤ uint32Max := Nat.div_mul_le_self _ _

/-! ## The squeezing loops -/

/-- The context squeezes as its algorithm does. -/
structure SizedFor (ctx : XofCtx Shake) : Prop where
  hasCase : xofHasCase ctx.alg = true
  blockSize : ctx.blockSize = xofBlockSize ctx.alg

/-- Position `written` of the stream: the sponge is some whole number of blocks ahead of its start, and
the bytes it is ahead of `written` are the ones left in the staging buffer. -/
structure SqueezesAt (sponge : ∀ alg, Sponge σ Byte (xofBlockSize alg)) (view : Shake → σ)
    (start : σ) (ctx : XofCtx Shake) (written : Nat) : Prop extends SizedFor ctx where
  blocks : ∃ p, view ctx.shake = (sponge ctx.alg).permute^[p] start ∧
    written + (ctx.bufLen - ctx.bufOff) = p * xofBlockSize ctx.alg
  staged : (ctx.buf.drop ctx.bufOff).take (ctx.bufLen - ctx.bufOff) =
    firstN (fun i => (sponge ctx.alg).stream start (written + i)) (ctx.bufLen - ctx.bufOff)

/-- One round of the inner loop, taken apart. -/
theorem squeezeDirect_succ {wc : WcShake Shake} {rounds : Nat} {ctx ctx' : XofCtx Shake}
    {outputLength left : Nat} {bytes : Bytes}
    (squeezed : squeezeDirect wc (rounds + 1) ctx outputLength = .ok (bytes, ctx', left)) :
    (outputLength < ctx.blockSize ∧ bytes = [] ∧ ctx' = ctx ∧ left = outputLength) ∨
      ctx.blockSize ≤ outputLength ∧ ∃ nBlocks produced shake rest,
        nBlocks = min (outputLength / ctx.blockSize) (uint32Max / ctx.blockSize) ∧
        wc.squeezeBlocks ctx.alg ctx.shake nBlocks = .ok (produced, shake) ∧
        squeezeDirect wc rounds { ctx with shake := shake } (outputLength - nBlocks * ctx.blockSize) =
          .ok (rest, ctx', left) ∧
        bytes = produced ++ rest := by
  rw [squeezeDirect] at squeezed
  split at squeezed
  · rename_i short
    cases squeezed
    exact .inl ⟨short, rfl, rfl, rfl⟩
  · rename_i long
    dsimp only at squeezed
    rw [require_bind_ok_iff] at squeezed
    obtain ⟨⟨produced, shake⟩, asked, squeezed⟩ := except_bind_ok squeezed.2
    obtain ⟨⟨rest, last, remaining⟩, later, same⟩ := except_bind_ok squeezed
    cases same
    exact .inr ⟨Nat.le_of_not_lt long, _, produced, shake, rest, rfl, wcCall_ok_iff.mp asked, later, rfl⟩

section Stream

variable {sponge : ∀ alg, Sponge σ Byte (xofBlockSize alg)} {view : Shake → σ} {start : σ}
  {wc : WcShake Shake} {ctx ctx' : XofCtx Shake}

/-- Blocks squeezed while the staging buffer is empty are the next bytes of the stream. -/
theorem SqueezesAt.squeeze {written nBlocks : Nat} {produced : Bytes} {shake : Shake}
    (lawful : IsSponge sponge view wc) (here : SqueezesAt sponge view start ctx written)
    (empty : ctx.bufLen - ctx.bufOff = 0) (inRange : SqueezeInRange ctx.alg nBlocks)
    (asked : wc.squeezeBlocks ctx.alg ctx.shake nBlocks = .ok (produced, shake)) :
    produced = firstN (fun i => (sponge ctx.alg).stream start (written + i))
        (nBlocks * xofBlockSize ctx.alg) ∧
      ∃ p, view shake = (sponge ctx.alg).permute^[p + nBlocks] start ∧
        written = p * xofBlockSize ctx.alg := by
  obtain ⟨p, position, ahead⟩ := here.blocks
  rw [empty, Nat.add_zero] at ahead
  have squeezed := lawful.squeeze inRange asked
  rw [position] at squeezed
  have bytes := congrArg Prod.fst squeezed
  have state := congrArg Prod.snd squeezed
  dsimp only at bytes state
  rw [(sponge ctx.alg).squeeze_slice, ← ahead] at bytes
  rw [(sponge ctx.alg).squeeze_state, ← Function.iterate_add_apply, Nat.add_comm nBlocks p] at state
  exact ⟨bytes, p, state, ahead⟩

/-- The inner loop reads the stream on. -/
theorem squeezeDirect_stream (lawful : IsSponge sponge view wc) {rounds written outputLength left : Nat}
    {bytes : Bytes} (here : SqueezesAt sponge view start ctx written)
    (empty : ctx.bufLen - ctx.bufOff = 0) (enough : outputLength ≤ rounds)
    (squeezed : squeezeDirect wc rounds ctx outputLength = .ok (bytes, ctx', left)) :
    left ≤ outputLength ∧
      bytes = firstN (fun i => (sponge ctx.alg).stream start (written + i)) (outputLength - left) ∧
      ctx'.alg = ctx.alg ∧ ctx'.bufLen = ctx.bufLen ∧ ctx'.bufOff = ctx.bufOff ∧
      SqueezesAt sponge view start ctx' (written + (outputLength - left)) := by
  induction rounds generalizing ctx written outputLength bytes with
  | zero =>
    cases squeezed
    rw [Nat.le_zero.mp enough]
    exact ⟨Nat.le_refl 0, rfl, rfl, rfl, rfl, here⟩
  | succ rounds ih =>
    rcases squeezeDirect_succ squeezed with ⟨short, rfl, rfl, rfl⟩ |
      ⟨long, nBlocks, produced, shake, rest, count, asked, later, rfl⟩
    · rw [Nat.sub_self]
      exact ⟨Nat.le_refl _, rfl, rfl, rfl, rfl, here⟩
    · rw [show nBlocks * ctx.blockSize = nBlocks * xofBlockSize ctx.alg by rw [here.blockSize]] at later
      rw [here.blockSize] at long count
      have inRange : SqueezeInRange ctx.alg nBlocks := count ▸ squeezeInRange_chunk long
      obtain ⟨read, p, state, position⟩ := here.squeeze lawful empty inRange asked
      -- one block at least is written, and no more than asked for
      have progress : 1 ≤ nBlocks * xofBlockSize ctx.alg :=
        Nat.mul_pos inRange.1 (xofBlockSize_pos ctx.alg)
      have within : nBlocks * xofBlockSize ctx.alg ≤ outputLength := by
        rw [count]
        exact Nat.le_trans (Nat.mul_le_mul_right _ (Nat.min_le_left _ _)) (Nat.div_mul_le_self _ _)
      have next : SqueezesAt sponge view start { ctx with shake := shake }
          (written + nBlocks * xofBlockSize ctx.alg) := by
        refine ⟨⟨here.hasCase, here.blockSize⟩, ⟨p + nBlocks, state, ?_⟩, ?_⟩
        · show _ + (ctx.bufLen - ctx.bufOff) = (p + nBlocks) * xofBlockSize ctx.alg
          rw [empty, Nat.add_zero, Nat.add_mul, position]
        · show (ctx.buf.drop ctx.bufOff).take (ctx.bufLen - ctx.bufOff) = firstN _ (ctx.bufLen - ctx.bufOff)
          rw [empty, List.take_zero, firstN_zero]
      obtain ⟨less, tail, alg, len, off, after⟩ := ih next empty (by omega) later
      dsimp only at less tail alg len off
      have total : outputLength - left = nBlocks * xofBlockSize ctx.alg +
          (outputLength - nBlocks * xofBlockSize ctx.alg - left) := by omega
      refine ⟨by omega, ?_, alg, len, off, ?_⟩
      · rw [read, tail, total, firstN_add]
        simp only [Nat.add_assoc]
      · rwa [total, ← Nat.add_assoc]

/-- One block into the empty staging buffer: the position stays, the bytes are there to be drained. -/
theorem squeezeTail_stream (lawful : IsSponge sponge view wc) {written : Nat}
    (here : SqueezesAt sponge view start ctx written) (empty : ctx.bufLen - ctx.bufOff = 0)
    (squeezed : squeezeTail wc ctx = .ok ctx') :
    SqueezesAt sponge view start ctx' written ∧ ctx'.alg = ctx.alg ∧ ctx'.bufOff < ctx'.bufLen := by
  unfold squeezeTail at squeezed
  rw [require_bind_ok_iff] at squeezed
  obtain ⟨⟨block, shake⟩, asked, same⟩ := except_bind_ok squeezed.2
  cases same
  obtain ⟨read, p, state, position⟩ :=
    here.squeeze lawful empty (squeezeInRange_one ctx.alg) (wcCall_ok_iff.mp asked)
  rw [Nat.one_mul] at read
  have positive := xofBlockSize_pos ctx.alg
  refine ⟨⟨⟨here.hasCase, here.blockSize⟩, ⟨p + 1, state, ?_⟩, ?_⟩, rfl, ?_⟩
  · show written + (ctx.blockSize - 0) = (p + 1) * xofBlockSize ctx.alg
    rw [here.blockSize, position, Nat.sub_zero, Nat.succ_mul]
  · show (block.drop 0).take (ctx.blockSize - 0) = firstN _ (ctx.blockSize - 0)
    rw [here.blockSize, read, List.drop_zero, Nat.sub_zero]
    exact List.take_of_length_le (Nat.le_of_eq (length_firstN _ _))
  · show 0 < ctx.blockSize
    rwa [here.blockSize]

/-- Bytes drained from the staging buffer are the next bytes of the stream. -/
theorem SqueezesAt.drain {written take : Nat} (here : SqueezesAt sponge view start ctx written)
    (within : take ≤ ctx.bufLen - ctx.bufOff) :
    (ctx.buf.drop ctx.bufOff).take take =
        firstN (fun i => (sponge ctx.alg).stream start (written + i)) take ∧
      SqueezesAt sponge view start { ctx with bufOff := ctx.bufOff + take } (written + take) := by
  obtain ⟨rest, split⟩ := Nat.exists_eq_add_of_le within
  have staged := here.staged
  rw [split] at staged
  have left : ctx.bufLen - (ctx.bufOff + take) = rest := by omega
  refine ⟨?_, ⟨here.hasCase, here.blockSize⟩, ?_, ?_⟩
  · have cut := congrArg (List.take take) staged
    rwa [List.take_take, Nat.min_eq_left (Nat.le_add_right take rest),
      take_firstN _ (Nat.le_add_right take rest)] at cut
  · obtain ⟨p, position, ahead⟩ := here.blocks
    refine ⟨p, position, ?_⟩
    show written + take + (ctx.bufLen - (ctx.bufOff + take)) = p * xofBlockSize ctx.alg
    omega
  · show (ctx.buf.drop (ctx.bufOff + take)).take (ctx.bufLen - (ctx.bufOff + take)) = firstN _ _
    have rear := congrArg (List.drop take) staged
    rw [List.drop_take, drop_firstN, List.drop_drop, Nat.add_sub_cancel_left] at rear
    rw [left, rear]
    simp only [Nat.add_assoc]

/-- One round of the outer loop, taken apart. -/
theorem xofServe_succ {rounds outputLength : Nat} {bytes : Bytes}
    (served : xofServe wc (rounds + 1) ctx outputLength = .ok (bytes, ctx')) :
    (outputLength = 0 ∧ bytes = [] ∧ ctx' = ctx) ∨
      (outputLength ≠ 0 ∧ ctx.bufOff < ctx.bufLen ∧ ∃ take rest,
        take = min outputLength (ctx.bufLen - ctx.bufOff) ∧
        xofServe wc rounds { ctx with bufOff := ctx.bufOff + take } (outputLength - take) =
          .ok (rest, ctx') ∧
        bytes = (ctx.buf.drop ctx.bufOff).take take ++ rest) ∨
      (outputLength ≠ 0 ∧ ctx.bufLen ≤ ctx.bufOff ∧ ∃ direct middle left,
        squeezeDirect wc outputLength { ctx with bufOff := 0, bufLen := 0 } outputLength =
          .ok (direct, middle, left) ∧
        ((left = 0 ∧ bytes = direct ∧ ctx' = middle) ∨
          left ≠ 0 ∧ ∃ full rest, squeezeTail wc middle = .ok full ∧
            xofServe wc rounds full left = .ok (rest, ctx') ∧ bytes = direct ++ rest)) := by
  rw [xofServe] at served
  split at served
  · rename_i none
    cases served
    exact .inl ⟨none, rfl, rfl⟩
  · rename_i some
    split at served
    · rename_i staged
      obtain ⟨⟨rest, last⟩, later, same⟩ := except_bind_ok served
      cases same
      exact .inr (.inl ⟨some, staged, _, rest, rfl, later, rfl⟩)
    · rename_i drained
      refine .inr (.inr ⟨some, Nat.le_of_not_lt drained, ?_⟩)
      obtain ⟨⟨direct, middle, left⟩, first, served⟩ := except_bind_ok served
      dsimp only at served
      refine ⟨direct, middle, left, first, ?_⟩
      split at served
      · rename_i done
        cases served
        exact .inl ⟨done, rfl, rfl⟩
      · rename_i more
        obtain ⟨full, tail, served⟩ := except_bind_ok served
        obtain ⟨⟨rest, last⟩, later, same⟩ := except_bind_ok served
        cases same
        exact .inr ⟨more, full, rest, tail, later, rfl⟩

/-- The outer loop reads as many bytes of the stream as it is asked for. A round that drains the
staging buffer writes a byte, one that fills it is followed by one that drains it. -/
theorem xofServe_stream (lawful : IsSponge sponge view wc) {rounds written outputLength : Nat}
    {bytes : Bytes} (here : SqueezesAt sponge view start ctx written)
    (enough : outputLength = 0 ∨
      2 * outputLength + (if ctx.bufOff < ctx.bufLen then 0 else 1) ≤ rounds)
    (served : xofServe wc rounds ctx outputLength = .ok (bytes, ctx')) :
    bytes = firstN (fun i => (sponge ctx.alg).stream start (written + i)) outputLength ∧
      ctx'.alg = ctx.alg ∧ SqueezesAt sponge view start ctx' (written + outputLength) := by
  induction rounds generalizing ctx written outputLength bytes with
  | zero =>
    have none : outputLength = 0 := by omega
    cases served
    rw [none]
    exact ⟨rfl, rfl, here⟩
  | succ rounds ih =>
    rcases xofServe_succ served with ⟨rfl, rfl, rfl⟩ |
      ⟨some, staged, take, rest, amount, later, rfl⟩ |
      ⟨some, drained, direct, middle, left, first, ending⟩
    · exact ⟨rfl, rfl, here⟩
    · rw [if_pos staged] at enough
      obtain ⟨read, next⟩ := here.drain (by omega : take ≤ ctx.bufLen - ctx.bufOff)
      have emptied : outputLength - take = 0 ∨ 2 * (outputLength - take) +
          (if ctx.bufOff + take < ctx.bufLen then 0 else 1) ≤ rounds := by
        split <;> omega
      obtain ⟨tail, alg, after⟩ := ih next emptied later
      dsimp only at tail alg
      have total : outputLength = take + (outputLength - take) := by omega
      refine ⟨?_, alg, ?_⟩
      · rw [read, tail]
        conv_rhs => rw [total, firstN_add]
        simp only [Nat.add_assoc]
      · rw [total, ← Nat.add_assoc]
        exact after
    · rw [if_neg (by omega)] at enough
      have reset : SqueezesAt sponge view start { ctx with bufOff := 0, bufLen := 0 } written := by
        obtain ⟨p, position, ahead⟩ := here.blocks
        refine ⟨⟨here.hasCase, here.blockSize⟩, ⟨p, position, ?_⟩, rfl⟩
        show written + (0 - 0) = p * xofBlockSize ctx.alg
        omega
      obtain ⟨less, read, alg, len, off, after⟩ :=
        squeezeDirect_stream lawful reset rfl (Nat.le_refl outputLength) first
      dsimp only at read alg len off
      rcases ending with ⟨rfl, rfl, rfl⟩ | ⟨more, full, rest, tail, later, rfl⟩
      · exact ⟨read, alg, after⟩
      · have empty : middle.bufLen - middle.bufOff = 0 := by omega
        obtain ⟨next, sameAlg, filled⟩ := squeezeTail_stream lawful after empty tail
        obtain ⟨readRest, lastAlg, last⟩ := ih next (by rw [if_pos filled]; omega) later
        rw [sameAlg, alg] at readRest lastAlg
        have total : outputLength = outputLength - left + left := by omega
        refine ⟨?_, lastAlg, ?_⟩
        · rw [read, readRest]
          conv_rhs => rw [total, firstN_add]
          simp only [Nat.add_assoc]
        · rw [total, ← Nat.add_assoc]
          exact last

end Stream

/-! ## What the loops leave alone -/

section Frame

variable {wc : WcShake Shake} {ctx ctx' ctx'' : XofCtx Shake}

/-- The two contexts differ in the sponge and the staging buffer only. -/
structure SameInput (ctx ctx' : XofCtx Shake) : Prop where
  alg : ctx'.alg = ctx.alg
  blockSize : ctx'.blockSize = ctx.blockSize
  squeezing : ctx'.squeezing = ctx.squeezing
  ibuf : ctx'.ibuf = ctx.ibuf
  ibufCap : ctx'.ibufCap = ctx.ibufCap

theorem SameInput.refl (ctx : XofCtx Shake) : SameInput ctx ctx := ⟨rfl, rfl, rfl, rfl, rfl⟩

theorem SameInput.trans (first : SameInput ctx ctx') (second : SameInput ctx' ctx'') :
    SameInput ctx ctx'' where
  alg := second.alg.trans first.alg
  blockSize := second.blockSize.trans first.blockSize
  squeezing := second.squeezing.trans first.squeezing
  ibuf := second.ibuf.trans first.ibuf
  ibufCap := second.ibufCap.trans first.ibufCap

theorem SizedFor.moved (sized : SizedFor ctx) (same : SameInput ctx ctx') : SizedFor ctx' where
  hasCase := by rw [same.alg]; exact sized.hasCase
  blockSize := by rw [same.blockSize, same.alg]; exact sized.blockSize

theorem squeezeDirect_sameInput {rounds outputLength left : Nat} {bytes : Bytes}
    (squeezed : squeezeDirect wc rounds ctx outputLength = .ok (bytes, ctx', left)) :
    SameInput ctx ctx' := by
  induction rounds generalizing ctx outputLength bytes with
  | zero =>
    cases squeezed
    exact .refl _
  | succ rounds ih =>
    rcases squeezeDirect_succ squeezed with ⟨_, _, rfl, _⟩ | ⟨_, _, _, shake, _, _, _, later, _⟩
    · exact .refl ctx'
    · have moved : SameInput ctx { ctx with shake := shake } := ⟨rfl, rfl, rfl, rfl, rfl⟩
      exact moved.trans (ih later)

theorem squeezeTail_sameInput (squeezed : squeezeTail wc ctx = .ok ctx') : SameInput ctx ctx' := by
  unfold squeezeTail at squeezed
  rw [require_bind_ok_iff] at squeezed
  obtain ⟨_, _, same⟩ := except_bind_ok squeezed.2
  cases same
  exact ⟨rfl, rfl, rfl, rfl, rfl⟩

theorem xofServe_sameInput {rounds outputLength : Nat} {bytes : Bytes}
    (served : xofServe wc rounds ctx outputLength = .ok (bytes, ctx')) : SameInput ctx ctx' := by
  induction rounds generalizing ctx outputLength bytes with
  | zero =>
    cases served
    exact .refl _
  | succ rounds ih =>
    rcases xofServe_succ served with ⟨_, _, rfl⟩ | ⟨_, _, take, _, _, later, _⟩ |
      ⟨_, _, _, middle, _, first, ending⟩
    · exact .refl ctx'
    · have moved : SameInput ctx { ctx with bufOff := ctx.bufOff + take } := ⟨rfl, rfl, rfl, rfl, rfl⟩
      exact moved.trans (ih later)
    · have reset : SameInput ctx { ctx with bufOff := 0, bufLen := 0 } := ⟨rfl, rfl, rfl, rfl, rfl⟩
      have direct := reset.trans (squeezeDirect_sameInput first)
      rcases ending with ⟨_, _, rfl⟩ | ⟨_, full, _, tail, later, _⟩
      · exact direct
      · exact direct.trans ((squeezeTail_sameInput tail).trans (ih later))

end Frame

/-! ## What the loops ask of wolfCrypt -/

section Requests

variable {wc wc' : WcShake Shake} {ctx ctx' : XofCtx Shake}

/-- The inner loop asks for nothing outside the range of `word32`. -/
theorem squeezeDirect_same (same : SameInRange wc wc') (sized : SizedFor ctx)
    (rounds outputLength : Nat) :
    squeezeDirect wc' rounds ctx outputLength = squeezeDirect wc rounds ctx outputLength := by
  induction rounds generalizing ctx outputLength with
  | zero => rfl
  | succ rounds ih =>
    rw [squeezeDirect, squeezeDirect]
    by_cases short : outputLength < ctx.blockSize
    · rw [if_pos short, if_pos short]
    · rw [if_neg short, if_neg short]
      have inRange : SqueezeInRange ctx.alg
          (min (outputLength / ctx.blockSize) (uint32Max / ctx.blockSize)) := by
        rw [sized.blockSize] at short ⊢
        exact squeezeInRange_chunk (Nat.le_of_not_lt short)
      dsimp only
      rw [same.squeeze _ _ _ inRange]
      cases wc.squeezeBlocks ctx.alg ctx.shake
          (min (outputLength / ctx.blockSize) (uint32Max / ctx.blockSize)) with
      | error e => rfl
      | ok r =>
        have next : SizedFor { ctx with shake := r.2 } := ⟨sized.hasCase, sized.blockSize⟩
        have rest := ih next
          (outputLength - min (outputLength / ctx.blockSize) (uint32Max / ctx.blockSize) * ctx.blockSize)
        simp only [wcCall, Except.mapError, bind, Except.bind, rest]

theorem squeezeTail_same (same : SameInRange wc wc') (ctx : XofCtx Shake) :
    squeezeTail wc' ctx = squeezeTail wc ctx := by
  unfold squeezeTail
  rw [same.squeeze _ _ _ (squeezeInRange_one ctx.alg)]

/-- Nor does the outer loop. -/
theorem xofServe_same (same : SameInRange wc wc') (sized : SizedFor ctx) (rounds outputLength : Nat) :
    xofServe wc' rounds ctx outputLength = xofServe wc rounds ctx outputLength := by
  induction rounds generalizing ctx outputLength with
  | zero => rfl
  | succ rounds ih =>
    rw [xofServe, xofServe]
    by_cases none : outputLength = 0
    · rw [if_pos none, if_pos none]
    · rw [if_neg none, if_neg none]
      by_cases staged : ctx.bufOff < ctx.bufLen
      · rw [if_pos staged, if_pos staged]
        have next : SizedFor { ctx with
            bufOff := ctx.bufOff + min outputLength (ctx.bufLen - ctx.bufOff) } :=
          ⟨sized.hasCase, sized.blockSize⟩
        dsimp only
        rw [ih next]
      · rw [if_neg staged, if_neg staged]
        have reset : SizedFor { ctx with bufOff := 0, bufLen := 0 } := ⟨sized.hasCase, sized.blockSize⟩
        rw [squeezeDirect_same same reset]
        cases squeezed : squeezeDirect wc outputLength { ctx with bufOff := 0, bufLen := 0 }
            outputLength with
        | error e => rfl
        | ok r =>
          obtain ⟨direct, middle, left⟩ := r
          dsimp only [bind, Except.bind]
          rw [squeezeTail_same same]
          cases tail : squeezeTail wc middle with
          | error e => rfl
          | ok full =>
            have next := (reset.moved (squeezeDirect_sameInput squeezed)).moved (squeezeTail_sameInput tail)
            dsimp only
            rw [ih next]

/-- The inner loop stops short of one block: every round takes at least one off what is left. -/
theorem squeezeDirect_left {rounds outputLength left : Nat} {bytes : Bytes} (sized : SizedFor ctx)
    (enough : outputLength ≤ rounds)
    (squeezed : squeezeDirect wc rounds ctx outputLength = .ok (bytes, ctx', left)) :
    left < ctx.blockSize := by
  have positive : 0 < ctx.blockSize := sized.blockSize ▸ xofBlockSize_pos ctx.alg
  induction rounds generalizing ctx outputLength bytes with
  | zero =>
    cases squeezed
    omega
  | succ rounds ih =>
    rcases squeezeDirect_succ squeezed with ⟨short, _, _, rfl⟩ |
      ⟨long, nBlocks, _, shake, _, count, _, later, _⟩
    · exact short
    · have next : SizedFor { ctx with shake := shake } := ⟨sized.hasCase, sized.blockSize⟩
      have inRange : SqueezeInRange ctx.alg nBlocks := by
        rw [count]
        rw [sized.blockSize] at long ⊢
        exact squeezeInRange_chunk long
      have progress : 1 ≤ nBlocks * ctx.blockSize := Nat.mul_pos inRange.1 positive
      have stopped := ih next (by omega) later positive
      exact stopped

/-- The inner loop gets through when wolfCrypt serves what is in range. -/
theorem squeezeDirect_served (serves : Serves wc) (sized : SizedFor ctx) (rounds outputLength : Nat) :
    ∃ r, squeezeDirect wc rounds ctx outputLength = .ok r := by
  induction rounds generalizing ctx outputLength with
  | zero => exact ⟨_, rfl⟩
  | succ rounds ih =>
    rw [squeezeDirect]
    by_cases short : outputLength < ctx.blockSize
    · rw [if_pos short]
      exact ⟨_, rfl⟩
    · rw [if_neg short]
      have inRange : SqueezeInRange ctx.alg
          (min (outputLength / ctx.blockSize) (uint32Max / ctx.blockSize)) := by
        rw [sized.blockSize] at short ⊢
        exact squeezeInRange_chunk (Nat.le_of_not_lt short)
      obtain ⟨⟨produced, shake⟩, asked⟩ := serves.squeeze ctx.alg ctx.shake _ inRange
      have next : SizedFor { ctx with shake := shake } := ⟨sized.hasCase, sized.blockSize⟩
      obtain ⟨⟨rest, last, left⟩, later⟩ := ih next
        (outputLength - min (outputLength / ctx.blockSize) (uint32Max / ctx.blockSize) * ctx.blockSize)
      dsimp only
      rw [sized.hasCase, asked]
      refine ⟨(produced ++ rest, last, left), ?_⟩
      simp only [require, wcCall, Except.mapError, bind, Except.bind, later, if_true]
      rfl

theorem squeezeTail_served (serves : Serves wc) (sized : SizedFor ctx) :
    ∃ full, squeezeTail wc ctx = .ok full := by
  obtain ⟨r, asked⟩ := serves.squeeze ctx.alg ctx.shake 1 (squeezeInRange_one ctx.alg)
  unfold squeezeTail
  rw [sized.hasCase, asked]
  exact ⟨_, rfl⟩

theorem xofServe_served (serves : Serves wc) (sized : SizedFor ctx) (rounds outputLength : Nat) :
    ∃ r, xofServe wc rounds ctx outputLength = .ok r := by
  induction rounds generalizing ctx outputLength with
  | zero => exact ⟨_, rfl⟩
  | succ rounds ih =>
    rw [xofServe]
    split
    · exact ⟨_, rfl⟩
    · split
      · have next : SizedFor { ctx with
            bufOff := ctx.bufOff + min outputLength (ctx.bufLen - ctx.bufOff) } :=
          ⟨sized.hasCase, sized.blockSize⟩
        obtain ⟨r, later⟩ := ih next (outputLength - min outputLength (ctx.bufLen - ctx.bufOff))
        dsimp only
        rw [later]
        exact ⟨_, rfl⟩
      · have reset : SizedFor { ctx with bufOff := 0, bufLen := 0 } := ⟨sized.hasCase, sized.blockSize⟩
        obtain ⟨⟨direct, middle, left⟩, squeezed⟩ :=
          squeezeDirect_served serves reset outputLength outputLength
        have sizedMiddle := reset.moved (squeezeDirect_sameInput squeezed)
        obtain ⟨full, tail⟩ := squeezeTail_served serves sizedMiddle
        obtain ⟨r, later⟩ := ih (sizedMiddle.moved (squeezeTail_sameInput tail)) left
        rw [squeezed]
        dsimp only [bind, Except.bind]
        split
        · exact ⟨_, rfl⟩
        · rw [tail]
          dsimp only
          rw [later]
          exact ⟨_, rfl⟩

end Requests

/-! ## The growth loop -/

/-- The loop ends with room for what is needed: the capacity grows by at least one each round. -/
theorem le_doubleCap {needCap : Nat} (small : needCap ≤ uint32Max) {rounds cap : Nat}
    (positive : 1 ≤ cap) (enough : needCap ≤ cap + rounds) : needCap ≤ doubleCap needCap rounds cap := by
  induction rounds generalizing cap with
  | zero => exact enough
  | succ rounds ih =>
    rw [doubleCap]
    split
    · split
      · exact small
      · exact ih (by omega) (by omega)
    · omega

theorem doubleCap_le {needCap rounds cap : Nat} (small : cap ≤ uint32Max) :
    doubleCap needCap rounds cap ≤ uint32Max := by
  induction rounds generalizing cap with
  | zero => exact small
  | succ rounds ih =>
    rw [doubleCap]
    split
    · split
      · exact Nat.le_refl _
      · exact ih (by omega)
    · exact small

/-- The buffer is grown to hold what is needed, stays addressable by `word32`, and nothing else of the
context changes. -/
theorem psaXofIbufGrow_some {ibufAlloc : Nat → Bool} {ctx ctx' : XofCtx Shake} {needCap : Nat}
    (small : needCap ≤ uint32Max) (before : ctx.ibufCap ≤ uint32Max)
    (grown : psaXofIbufGrow ibufAlloc ctx needCap = some ctx') :
    ∃ cap, ctx' = { ctx with ibufCap := cap } ∧ needCap ≤ cap ∧ cap ≤ uint32Max := by
  unfold psaXofIbufGrow at grown
  split at grown
  · rename_i fits
    cases grown
    exact ⟨ctx.ibufCap, rfl, fits, before⟩
  · -- the capacity the doubling starts from
    have first : 1 ≤ (if ctx.ibufCap ≠ 0 then ctx.ibufCap else 256) ∧
        (if ctx.ibufCap ≠ 0 then ctx.ibufCap else 256) ≤ uint32Max := by
      split
      · exact ⟨by omega, before⟩
      · decide
    generalize (if ctx.ibufCap ≠ 0 then ctx.ibufCap else 256) = cap at grown first
    dsimp only at grown
    split at grown
    · cases grown
      exact ⟨_, rfl, le_doubleCap small first.1 (by omega), doubleCap_le first.2⟩
    · cases grown

theorem psaXofIbufGrow_served {ibufAlloc : Nat → Bool} (allocates : ∀ size, ibufAlloc size = true)
    (ctx : XofCtx Shake) (needCap : Nat) : ∃ ctx', psaXofIbufGrow ibufAlloc ctx needCap = some ctx' := by
  unfold psaXofIbufGrow
  split
  · exact ⟨_, rfl⟩
  · dsimp only
    rw [if_pos (allocates _)]
    exact ⟨_, rfl⟩

/-! ## One operation -/

/-- What an operation holds after it took `inputs` in and put `outputs` out. -/
structure XofHolds (sponge : ∀ alg, Sponge σ Byte (xofBlockSize alg)) (view : Shake → σ)
    (ctx : XofCtx Shake) (inputs outputs : Bytes) : Prop extends SizedFor ctx where
  filled : ctx.ibuf.length ≤ ctx.ibufCap
  capacity : ctx.ibufCap ≤ uint32Max
  absorbing : ctx.squeezing = false →
    ctx.ibuf = inputs ∧ outputs = [] ∧ view ctx.shake = (sponge ctx.alg).initial
  squeezed : ctx.squeezing = true →
    outputs = firstN ((sponge ctx.alg).digest inputs) outputs.length ∧
      SqueezesAt sponge view ((sponge ctx.alg).absorb inputs (sponge ctx.alg).initial) ctx outputs.length
  begun : ctx.squeezing = true → outputs ≠ []

section Operation

variable {sponge : ∀ alg, Sponge σ Byte (xofBlockSize alg)} {view : Shake → σ}
  {env : XofEnv Shake} {ctx ctx' : XofCtx Shake} {inputs outputs : Bytes}

theorem XofHolds.stream (held : XofHolds sponge view ctx inputs outputs) :
    outputs = firstN ((sponge ctx.alg).digest inputs) outputs.length := by
  cases phase : ctx.squeezing with
  | false =>
    rw [(held.absorbing phase).2.1]
    rfl
  | true => exact (held.squeezed phase).1

theorem psaXofSetup_holds (lawful : IsSponge sponge view env.wc) {operation : Option (XofCtx Shake)}
    {alg : Algorithm} (done : (psaXofSetup env operation alg).1 = .success) :
    ∃ ctx, (psaXofSetup env operation alg).2 = some ctx ∧ ctx.alg = alg ∧
      XofHolds sponge view ctx [] [] := by
  unfold psaXofSetup at done ⊢
  dsimp only at done ⊢
  split at done
  · rename_i status _
    exact absurd done status.property
  · rename_i ctx made
    refine ⟨ctx, rfl, ?_⟩
    simp only [require_bind_ok_iff] at made
    obtain ⟨_, _, _, known, _, _, made⟩ := made
    obtain ⟨shake, fresh, same⟩ := except_bind_ok made
    cases same
    refine ⟨rfl, ⟨known, rfl⟩, Nat.le_refl 0, Nat.zero_le _, fun _ => ⟨rfl, rfl, ?_⟩, nofun, nofun⟩
    exact lawful.init (wcCall_ok_iff.mp fresh)

theorem xofUpdate_holds {input : InBuf} (readable : ¬(input.isNull && decide (input.length > 0)) = true)
    (held : XofHolds sponge view ctx inputs outputs) (done : xofUpdate env ctx input = .ok ctx') :
    ctx'.alg = ctx.alg ∧ XofHolds sponge view ctx' (inputs ++ input.bytes) outputs := by
  unfold xofUpdate at done
  rw [require_bind_ok_iff] at done
  obtain ⟨phase, done⟩ := done
  have absorbing : ctx.squeezing = false := by simpa using phase
  obtain ⟨same, none, fresh⟩ := held.absorbing absorbing
  split at done
  · rename_i empty
    have nothing : input.bytes = [] := by
      cases input with
      | null n => rfl
      | data bytes => exact List.eq_nil_of_length_eq_zero empty
    cases done
    rw [nothing, List.append_nil]
    exact ⟨rfl, held⟩
  · unfold xofAccumulate at done
    simp only [require_bind_ok_iff] at done
    obtain ⟨_, fits, done⟩ := done
    have fits := of_decide_eq_true fits
    have room : ctx.ibuf.length ≤ uint32Max := Nat.le_trans held.filled held.capacity
    split at done
    · cases done
    · rename_i ctx grown
      obtain ⟨cap, rfl, enough, small⟩ := psaXofIbufGrow_some (by omega) held.capacity grown
      cases done
      have still : ¬ctx.squeezing = true := by
        rw [absorbing]
        exact Bool.false_ne_true
      refine ⟨rfl, ⟨held.hasCase, held.blockSize⟩, ?_, small, fun _ => ⟨?_, none, fresh⟩,
        fun squeezing => absurd squeezing still, fun squeezing => absurd squeezing still⟩
      · show (_ ++ input.bytes).length ≤ cap
        rwa [List.length_append]
      · show _ ++ input.bytes = _
        rw [same]

/-- The first output absorbs what was taken in; later ones find it absorbed. -/
theorem xofAbsorb_holds {wc : WcShake Shake} (lawful : IsSponge sponge view wc)
    (held : XofHolds sponge view ctx inputs outputs) (done : xofAbsorb wc ctx = .ok ctx') :
    ctx'.alg = ctx.alg ∧ ctx'.squeezing = true ∧ ctx'.ibuf.length ≤ ctx'.ibufCap ∧
      ctx'.ibufCap ≤ uint32Max ∧ outputs = firstN ((sponge ctx.alg).digest inputs) outputs.length ∧
      SqueezesAt sponge view ((sponge ctx.alg).absorb inputs (sponge ctx.alg).initial) ctx'
        outputs.length := by
  unfold xofAbsorb at done
  split at done
  · rename_i squeezing
    cases done
    obtain ⟨stream, here⟩ := held.squeezed squeezing
    exact ⟨rfl, squeezing, held.filled, held.capacity, stream, here⟩
  · rename_i absorbing
    obtain ⟨same, none, fresh⟩ := held.absorbing (eq_false_of_ne_true absorbing)
    rw [require_bind_ok_iff] at done
    obtain ⟨shake, asked, made⟩ := except_bind_ok done.2
    cases made
    have room : ctx.ibuf.length ≤ uint32Max := Nat.le_trans held.filled held.capacity
    have state := lawful.absorb room (wcCall_ok_iff.mp asked)
    rw [same, fresh] at state
    refine ⟨rfl, rfl, Nat.le_refl 0, Nat.zero_le _, held.stream, ⟨held.hasCase, held.blockSize⟩,
      ⟨0, state, ?_⟩, rfl⟩
    show outputs.length + (0 - 0) = 0 * xofBlockSize ctx.alg
    rw [none, Nat.zero_mul]
    rfl

/-- A successful output hands out the bytes of the stream behind those handed out before. -/
theorem xofOutput_holds {wc : WcShake Shake} (lawful : IsSponge sponge view wc) {outputLength : Nat}
    {bytes : Bytes} (held : XofHolds sponge view ctx inputs outputs)
    (done : xofOutput wc ctx outputLength = .ok (bytes, ctx')) :
    ctx'.alg = ctx.alg ∧ bytes.length = outputLength ∧
      XofHolds sponge view ctx' inputs (outputs ++ bytes) := by
  unfold xofOutput at done
  split at done
  · rename_i none
    cases done
    rw [List.append_nil]
    exact ⟨rfl, none.symm, held⟩
  · obtain ⟨ready, absorbed, served⟩ := except_bind_ok done
    obtain ⟨sameAlg, squeezing, filled, capacity, before, here⟩ := xofAbsorb_holds lawful held absorbed
    have enough : 2 * outputLength + (if ready.bufOff < ready.bufLen then 0 else 1) ≤
        2 * outputLength + 1 := by
      split <;> omega
    obtain ⟨read, alg, after⟩ := xofServe_stream lawful here (.inr enough) served
    have kept := xofServe_sameInput served
    have length : bytes.length = outputLength := by rw [read, length_firstN]
    rw [sameAlg] at alg read
    refine ⟨alg, length, after.toSizedFor, ?_, ?_, ?_, fun _ => ?_, fun _ nothing => ?_⟩
    · rw [kept.ibuf, kept.ibufCap]
      exact filled
    · rw [kept.ibufCap]
      exact capacity
    · intro absorbing
      exact absurd (absorbing.symm.trans (kept.squeezing.trans squeezing)) Bool.false_ne_true
    · rw [List.length_append, length, alg]
      refine ⟨?_, after⟩
      rw [firstN_add, ← before, read]
      rfl
    · have none := congrArg List.length nothing
      rw [List.length_append, List.length_nil] at none
      omega

end Operation

/-! ## Whole runs -/

/-- The algorithm operation `op` was last set up for. -/
def xofAlgorithm (op : Nat) : History (XofEvent Shake) XofResult → Option Algorithm
  | [] => none
  | (e, r) :: older =>
    match e.call with
    | .setup op' alg => if op' = op ∧ r.status = .success then some alg else xofAlgorithm op older
    | _ => xofAlgorithm op older

/-- What operation `op` has taken in since it was set up. -/
def xofInputs (op : Nat) : History (XofEvent Shake) XofResult → Bytes
  | [] => []
  | (e, r) :: older =>
    match e.call with
    | .setup op' _ => if op' = op ∧ r.status = .success then [] else xofInputs op older
    | .update op' input =>
      if op' = op ∧ r.status = .success then xofInputs op older ++ input.bytes else xofInputs op older
    | _ => xofInputs op older

/-- What operation `op` has put out since it was set up. -/
def xofOutputs (op : Nat) : History (XofEvent Shake) XofResult → Bytes
  | [] => []
  | (e, r) :: older =>
    match e.call with
    | .setup op' _ => if op' = op ∧ r.status = .success then [] else xofOutputs op older
    | .output op' _ =>
      if op' = op ∧ r.status = .success then xofOutputs op older ++ r.output else xofOutputs op older
    | _ => xofOutputs op older

/-- Every active operation holds what its part of the history says. -/
def XofTracked (sponge : ∀ alg, Sponge σ Byte (xofBlockSize alg)) (view : Shake → σ)
    (h : History (XofEvent Shake) XofResult) (s : XofState Shake) : Prop :=
  ∀ op ctx, s op = some ctx → xofAlgorithm op h = some ctx.alg ∧
    XofHolds sponge view ctx (xofInputs op h) (xofOutputs op h)

section Run

variable {sponge : ∀ alg, Sponge σ Byte (xofBlockSize alg)} {view : Shake → σ}

/-- A call says nothing of another operation. -/
theorem xofHistory_other {e : XofEvent Shake} {op : Nat} (other : op ≠ e.call.op) (r : XofResult)
    (older : History (XofEvent Shake) XofResult) :
    xofAlgorithm op ((e, r) :: older) = xofAlgorithm op older ∧
      xofInputs op ((e, r) :: older) = xofInputs op older ∧
      xofOutputs op ((e, r) :: older) = xofOutputs op older := by
  obtain ⟨env, call⟩ := e
  have apart : ¬(call.op = op ∧ r.status = .success) := fun both => other both.1.symm
  cases call with
  | setup op' alg => exact ⟨if_neg apart, if_neg apart, if_neg apart⟩
  | update op' input => exact ⟨rfl, if_neg apart, rfl⟩
  | output op' output => exact ⟨rfl, rfl, if_neg apart⟩
  | setContext op' => exact ⟨rfl, rfl, rfl⟩
  | abort op' => exact ⟨rfl, rfl, rfl⟩

theorem psaXofSetup_refused {env : XofEnv Shake} {operation : Option (XofCtx Shake)} {alg : Algorithm}
    (refused : (psaXofSetup env operation alg).1 ≠ .success) :
    (psaXofSetup env operation alg).2 = operation := by
  unfold psaXofSetup at refused ⊢
  dsimp only at refused ⊢
  split at refused
  · rfl
  · exact absurd rfl refused

/-- An update that leaves the operation active succeeded on it. -/
theorem psaXofUpdate_some {env : XofEnv Shake} {operation : Option (XofCtx Shake)} {input : InBuf}
    {ctx' : XofCtx Shake} (active : (psaXofUpdate env operation input).2 = some ctx') :
    ∃ ctx, operation = some ctx ∧ ¬(input.isNull && decide (input.length > 0)) = true ∧
      xofUpdate env ctx input = .ok ctx' ∧ (psaXofUpdate env operation input).1 = .success := by
  unfold psaXofUpdate at active ⊢
  split at active
  · cases active
  · rename_i readable
    rw [if_neg readable]
    cases operation with
    | none => cases active
    | some ctx =>
      dsimp only at active ⊢
      cases updated : xofUpdate env ctx input with
      | error status =>
        rw [updated] at active
        cases active
      | ok next =>
        rw [updated] at active
        cases active
        exact ⟨ctx, rfl, readable, updated, rfl⟩

/-- An output that leaves the operation active succeeded on it. -/
theorem psaXofOutput_some {env : XofEnv Shake} {operation : Option (XofCtx Shake)} {output : OutBuf}
    {ctx' : XofCtx Shake} (active : (psaXofOutput env operation output).2 = some ctx') :
    ∃ ctx bytes, operation = some ctx ∧ xofOutput env.wc ctx output.size = .ok (bytes, ctx') ∧
      (psaXofOutput env operation output).1 = ⟨.success, bytes⟩ := by
  unfold psaXofOutput at active ⊢
  split at active
  · cases active
  · rename_i writable
    rw [if_neg writable]
    cases operation with
    | none => cases active
    | some ctx =>
      dsimp only at active ⊢
      cases served : xofOutput env.wc ctx output.size with
      | error status =>
        rw [served] at active
        cases active
      | ok r =>
        obtain ⟨bytes, next⟩ := r
        rw [served] at active
        cases active
        exact ⟨ctx, bytes, rfl, served, rfl⟩

/-- One call keeps every operation to its part of the history. -/
theorem xofTracked_step {h : History (XofEvent Shake) XofResult} {s : XofState Shake}
    {e : XofEvent Shake} (lawful : IsSponge sponge view e.env.wc) (tracked : XofTracked sponge view h s) :
    XofTracked sponge view ((e, (xofStep s e).1) :: h) (xofStep s e).2 := by
  intro op ctx' active
  by_cases own : op = e.call.op
  case neg =>
    obtain ⟨alg, inputs, outputs⟩ := xofHistory_other own (xofStep s e).1 h
    rw [alg, inputs, outputs]
    have untouched : (xofStep s e).2 op = s op := Function.update_of_ne own _ _
    exact tracked op ctx' (untouched.symm.trans active)
  subst own
  unfold xofStep at active ⊢
  dsimp only at active ⊢
  rw [Function.update_self] at active
  obtain ⟨env, call⟩ := e
  cases call with
  | setup op alg =>
    dsimp only [xofCall, XofCall.op] at active ⊢
    by_cases done : (psaXofSetup env (s op) alg).1 = .success
    · obtain ⟨ctx, made, sameAlg, holds⟩ := psaXofSetup_holds lawful done
      cases made.symm.trans active
      refine ⟨?_, ?_⟩
      · rw [sameAlg]
        exact if_pos ⟨rfl, done⟩
      · have started : op = op ∧ (psaXofSetup env (s op) alg).1 = .success := ⟨rfl, done⟩
        dsimp only [xofInputs, xofOutputs]
        rw [if_pos started, if_pos started]
        exact holds
    · rw [psaXofSetup_refused done] at active
      have unstarted : ¬(op = op ∧ (psaXofSetup env (s op) alg).1 = .success) := fun both => done both.2
      dsimp only [xofAlgorithm, xofInputs, xofOutputs]
      rw [if_neg unstarted, if_neg unstarted, if_neg unstarted]
      exact tracked op ctx' active
  | setContext op =>
    dsimp only [xofCall, XofCall.op] at active
    cases operation : s op <;> rw [operation] at active <;> cases active
  | update op input =>
    dsimp only [xofCall, XofCall.op] at active ⊢
    obtain ⟨ctx, before, readable, updated, done⟩ := psaXofUpdate_some active
    obtain ⟨asked, held⟩ := tracked op ctx before
    obtain ⟨sameAlg, holds⟩ := xofUpdate_holds readable held updated
    refine ⟨sameAlg ▸ asked, ?_⟩
    dsimp only [xofInputs, xofOutputs]
    rw [if_pos ⟨rfl, done⟩]
    exact holds
  | output op output =>
    dsimp only [xofCall, XofCall.op] at active ⊢
    obtain ⟨ctx, bytes, before, served, done⟩ := psaXofOutput_some active
    obtain ⟨asked, held⟩ := tracked op ctx before
    obtain ⟨sameAlg, -, holds⟩ := xofOutput_holds lawful held served
    refine ⟨sameAlg ▸ asked, ?_⟩
    rw [done]
    dsimp only [xofInputs, xofOutputs]
    rw [if_pos ⟨rfl, rfl⟩]
    exact holds
  | abort op => cases active

theorem run_xofTracked (events : List (XofEvent Shake))
    (lawful : ∀ e ∈ events, IsSponge sponge view e.env.wc) :
    XofTracked sponge view (run xofStep xofInit events).1 (run xofStep xofInit events).2 :=
  run_invariant_on (XofTracked sponge view) (fun _ _ active => by cases active)
    (fun _ _ _ here tracked => xofTracked_step here tracked) events lawful

/-- What is settled about an active operation `op` with history `h`. -/
structure XofStreamLaw (sponge : ∀ alg, Sponge σ Byte (xofBlockSize alg)) (view : Shake → σ)
    (h : History (XofEvent Shake) XofResult) (op : Nat) (ctx : XofCtx Shake) : Prop where
  algorithm : xofAlgorithm op h = some ctx.alg
  shake : ctx.alg = psaAlgShake128 ∨ ctx.alg = psaAlgShake256
  /-- All outputs together are the beginning of SHAKE over all inputs together. -/
  stream : xofOutputs op h = firstN ((sponge ctx.alg).digest (xofInputs op h)) (xofOutputs op h).length
  filled : ctx.ibuf.length ≤ ctx.ibufCap
  capacity : ctx.ibufCap ≤ uint32Max
  /-- No input is taken behind output, and asking ends the operation. -/
  update_refused : xofOutputs op h ≠ [] → ∀ env input,
    (psaXofUpdate env (some ctx) input).1 ≠ .success ∧ (psaXofUpdate env (some ctx) input).2 = none
  /-- The growth loop ends for every length that fits: with the memory there, the input is taken. -/
  update_taken : xofOutputs op h = [] → ∀ (env : XofEnv Shake) (input : Bytes),
    (∀ size, env.ibufAlloc size = true) → (xofInputs op h).length + input.length ≤ uint32Max →
      (psaXofUpdate env (some ctx) (.data input)).1 = .success
  /-- The outer squeeze loop ends for every length, with that many bytes written. -/
  output_served : ∀ (env : XofEnv Shake) (n : Nat), IsSponge sponge view env.wc →
    ((psaXofOutput env (some ctx) ⟨false, n⟩).1.status = .success →
        (psaXofOutput env (some ctx) ⟨false, n⟩).1.output.length = n) ∧
      (Serves env.wc → (psaXofOutput env (some ctx) ⟨false, n⟩).1.status = .success)
  /-- So does the inner one, with less than a block left. -/
  direct_ends : ∀ (wc : WcShake Shake) (used used' : XofCtx Shake) (n left : Nat) (bytes : Bytes),
    SameInput ctx used → squeezeDirect wc n used n = .ok (bytes, used', left) → left < ctx.blockSize
  /-- What wolfCrypt does with a length or a count that a cast would change is never asked. -/
  inRange : ∀ (env : XofEnv Shake) (wc' : WcShake Shake) (output : OutBuf), SameInRange env.wc wc' →
    psaXofOutput { env with wc := wc' } (some ctx) output = psaXofOutput env (some ctx) output

section Law

variable {env : XofEnv Shake} {ctx : XofCtx Shake} {inputs outputs : Bytes}

theorem XofHolds.update_refused (held : XofHolds sponge view ctx inputs outputs) (put : outputs ≠ [])
    (env : XofEnv Shake) (input : InBuf) :
    (psaXofUpdate env (some ctx) input).1 ≠ .success ∧
      (psaXofUpdate env (some ctx) input).2 = none := by
  have squeezing : ctx.squeezing = true := by
    cases phase : ctx.squeezing with
    | true => rfl
    | false => exact absurd (held.absorbing phase).2.1 put
  unfold psaXofUpdate
  split
  · exact ⟨nofun, rfl⟩
  · have refused : xofUpdate env ctx input = .error ⟨.badState, failing⟩ := by
      unfold xofUpdate
      rw [squeezing]
      rfl
    dsimp only
    rw [refused]
    exact ⟨nofun, rfl⟩

theorem XofHolds.update_taken (held : XofHolds sponge view ctx inputs outputs) (none : outputs = [])
    {input : Bytes} (allocates : ∀ size, env.ibufAlloc size = true)
    (fits : inputs.length + input.length ≤ uint32Max) :
    (psaXofUpdate env (some ctx) (.data input)).1 = .success := by
  have absorbing : ctx.squeezing = false := by
    cases phase : ctx.squeezing with
    | false => rfl
    | true => exact absurd none (held.begun phase)
  have same := (held.absorbing absorbing).1
  have short : wolfpsaCheckWord32Length input.length = .success := by
    unfold wolfpsaCheckWord32Length
    rw [if_neg (by omega)]
  have room : input.length ≤ uint32Max - ctx.ibuf.length := by
    rw [same]
    omega
  obtain ⟨grown, growth⟩ := psaXofIbufGrow_served allocates ctx (ctx.ibuf.length + input.length)
  have taken : ∃ next, xofUpdate env ctx (.data input) = .ok next := by
    unfold xofUpdate
    rw [absorbing]
    by_cases empty : input.length = 0
    · exact ⟨ctx, if_pos empty⟩
    · refine ⟨{ grown with ibuf := grown.ibuf ++ input }, (if_neg empty).trans ?_⟩
      show xofAccumulate env ctx input = _
      unfold xofAccumulate
      rw [growth, short, decide_eq_true room]
      rfl
  obtain ⟨next, updated⟩ := taken
  unfold psaXofUpdate
  rw [if_neg (by simp [InBuf.isNull])]
  dsimp only
  rw [updated]

theorem xofAbsorb_served {wc : WcShake Shake} (serves : Serves wc)
    (held : XofHolds sponge view ctx inputs outputs) : ∃ ready, xofAbsorb wc ctx = .ok ready := by
  have room : ctx.ibuf.length ≤ uint32Max := Nat.le_trans held.filled held.capacity
  obtain ⟨shake, asked⟩ := serves.absorb ctx.alg ctx.shake ctx.ibuf room
  unfold xofAbsorb
  split
  · exact ⟨ctx, rfl⟩
  · rw [held.hasCase, asked]
    exact ⟨_, rfl⟩

theorem XofHolds.output_served (held : XofHolds sponge view ctx inputs outputs)
    (lawful : IsSponge sponge view env.wc) (n : Nat) :
    ((psaXofOutput env (some ctx) ⟨false, n⟩).1.status = .success →
        (psaXofOutput env (some ctx) ⟨false, n⟩).1.output.length = n) ∧
      (Serves env.wc → (psaXofOutput env (some ctx) ⟨false, n⟩).1.status = .success) := by
  have written : ¬(false && decide (n > 0)) = true := by simp
  unfold psaXofOutput
  rw [if_neg written]
  dsimp only
  constructor
  · intro done
    cases served : xofOutput env.wc ctx n with
    | error status =>
      rw [served] at done
      exact absurd done status.property
    | ok r => exact (xofOutput_holds lawful held served).2.1
  · intro serves
    have served : ∃ r, xofOutput env.wc ctx n = .ok r := by
      unfold xofOutput
      split
      · exact ⟨_, rfl⟩
      · obtain ⟨ready, absorbed⟩ := xofAbsorb_served serves held
        obtain ⟨-, -, -, -, -, here⟩ := xofAbsorb_holds lawful held absorbed
        rw [absorbed]
        exact xofServe_served serves here.toSizedFor (2 * n + 1) n
    obtain ⟨r, served⟩ := served
    rw [served]

theorem XofHolds.inRange (held : XofHolds sponge view ctx inputs outputs) {wc wc' : WcShake Shake}
    (same : SameInRange wc wc') (n : Nat) : xofOutput wc' ctx n = xofOutput wc ctx n := by
  have room : ctx.ibuf.length ≤ uint32Max := Nat.le_trans held.filled held.capacity
  have absorbs : xofAbsorb wc' ctx = xofAbsorb wc ctx := by
    unfold xofAbsorb
    rw [same.absorb _ _ _ room]
  unfold xofOutput
  rw [absorbs]
  split
  · rfl
  · cases absorbed : xofAbsorb wc ctx with
    | error status => rfl
    | ok ready =>
      have sized : SizedFor ready := by
        unfold xofAbsorb at absorbed
        split at absorbed
        · cases absorbed
          exact held.toSizedFor
        · rw [require_bind_ok_iff] at absorbed
          obtain ⟨_, _, made⟩ := except_bind_ok absorbed.2
          cases made
          exact ⟨held.hasCase, held.blockSize⟩
      exact xofServe_same same sized (2 * n + 1) n

end Law

/-- In every run over wolfCrypt calls that are a sponge's operations, an active operation's outputs
are the beginning of SHAKE over its inputs. -/
theorem xof_stream_law (sponge : ∀ alg, Sponge σ Byte (xofBlockSize alg)) (view : Shake → σ)
    (events : List (XofEvent Shake)) (lawful : ∀ e ∈ events, IsSponge sponge view e.env.wc) (op : Nat)
    (ctx : XofCtx Shake) (active : (run xofStep xofInit events).2 op = some ctx) :
    XofStreamLaw sponge view (run xofStep xofInit events).1 op ctx := by
  obtain ⟨asked, held⟩ := run_xofTracked events lawful op ctx active
  constructor
  case algorithm => exact asked
  case shake => simpa [xofHasCase] using held.hasCase
  case stream => exact held.stream
  case filled => exact held.filled
  case capacity => exact held.capacity
  case update_refused => exact held.update_refused
  case update_taken => exact fun none env input allocates fits => held.update_taken none allocates fits
  case output_served => exact fun env n here => held.output_served here n
  case direct_ends =>
    intro wc used used' n left bytes same squeezed
    have stopped := squeezeDirect_left (held.toSizedFor.moved same) (Nat.le_refl n) squeezed
    rwa [same.blockSize] at stopped
  case inRange =>
    intro env wc' output same
    unfold psaXofOutput
    dsimp only
    rw [held.inRange same]

/-- wolfCrypt over a given sponge, its object being the sponge's state. -/
def wcOfSponge (sponge : ∀ alg, Sponge σ Byte (xofBlockSize alg)) : WcShake σ where
  init := fun alg => .ok (sponge alg).initial
  absorb := fun alg s message => .ok ((sponge alg).absorb message s)
  squeezeBlocks := fun alg s nBlocks => .ok ((sponge alg).squeeze nBlocks s)

theorem wcOfSponge_isSponge (sponge : ∀ alg, Sponge σ Byte (xofBlockSize alg)) :
    IsSponge sponge id (wcOfSponge sponge) where
  init := fun made => (Except.ok.inj made).symm
  absorb := fun _ made => (Except.ok.inj made).symm
  squeeze := fun _ made => (Except.ok.inj made).symm

/-- The first block of SHAKE128 over `abc`. -/
def abcBlock : Bytes :=
  [0x58, 0x81, 0x09, 0x2d, 0xd8, 0x18, 0xbf, 0x5c, 0xf8, 0xa3, 0xdd, 0xb7, 0x93, 0xfb, 0xcb, 0xa7,
    0x40, 0x97, 0xd5, 0xc5, 0x26, 0xa6, 0xd3, 0x5f, 0x97, 0xb8, 0x33, 0x51, 0x94, 0x0f, 0x2c, 0xc8,
    0x44, 0xc5, 0x0a, 0xf3, 0x2a, 0xcd, 0x3f, 0x2c, 0xdd, 0x06, 0x65, 0x68, 0x70, 0x6f, 0x50, 0x9b,
    0xc1, 0xbd, 0xde, 0x58, 0x29, 0x5d, 0xae, 0x3f, 0x89, 0x1a, 0x9a, 0x0f, 0xca, 0x57, 0x83, 0x78,
    0x9a, 0x41, 0xf8, 0x61, 0x12, 0x14, 0xce, 0x61, 0x23, 0x94, 0xdf, 0x28, 0x6a, 0x62, 0xd1, 0xa2,
    0x25, 0x2a, 0xa9, 0x4d, 0xb9, 0xc5, 0x38, 0x95, 0x6c, 0x71, 0x7d, 0xc2, 0xbe, 0xd4, 0xf2, 0x32,
    0xa0, 0x29, 0x4c, 0x85, 0x7c, 0x73, 0x0a, 0xa1, 0x60, 0x67, 0xac, 0x10, 0x62, 0xf1, 0x20, 0x1f,
    0xb0, 0xd3, 0x77, 0xcf, 0xb9, 0xcd, 0xe4, 0xc6, 0x35, 0x99, 0xb2, 0x7f, 0x34, 0x62, 0xbb, 0xa4,
    0xa0, 0xed, 0x29, 0x6c, 0x80, 0x1f, 0x9f, 0xf7, 0xf5, 0x73, 0x02, 0xbb, 0x30, 0x76, 0xee, 0x14,
    0x5f, 0x97, 0xa3, 0x2a, 0xe6, 0x8e, 0x76, 0xab, 0x66, 0xc4, 0x8d, 0x51, 0x67, 0x5b, 0xd4, 0x9a,
    0xcc, 0x29, 0x08, 0x2f, 0x56, 0x47, 0x58, 0x4e]

/-- A sponge that is SHAKE128 as far as the first block over `abc` goes. -/
def abcSponge (alg : Algorithm) : Sponge Nat Byte (xofBlockSize alg) where
  initial := 0
  absorb := fun message s => if message = [0x61, 0x62, 0x63] then 1 else s
  permute := (· + 1)
  extract := fun s =>
    if alg = psaAlgShake128 ∧ s = 2 then abcBlock else List.replicate (xofBlockSize alg) 0
  extract_length := by
    intro s
    split
    · rename_i shake128
      rw [shake128.1]
      rfl
    · exact List.length_replicate
  rate_pos := xofBlockSize_pos alg

def abcEnv : XofEnv Nat := ⟨true, true, fun _ => true, wcOfSponge abcSponge⟩

/-- `abc` in two pieces with an empty one between them, then outputs of three, no and five bytes. -/
def abcEvents : List (XofEvent Nat) :=
  [.setup 0 psaAlgShake128, .update 0 (.data [0x61]), .update 0 (.data []),
    .update 0 (.data [0x62, 0x63]), .output 0 ⟨false, 3⟩, .output 0 ⟨true, 0⟩,
    .output 0 ⟨false, 5⟩].map fun call => ⟨abcEnv, call⟩

theorem xof_stream_law_abc :
    ∃ ctx, (run xofStep xofInit abcEvents).2 0 = some ctx ∧
      XofStreamLaw abcSponge id (run xofStep xofInit abcEvents).1 0 ctx ∧
      xofInputs 0 (run xofStep xofInit abcEvents).1 = [0x61, 0x62, 0x63] ∧
      xofOutputs 0 (run xofStep xofInit abcEvents).1 =
        [0x58, 0x81, 0x09, 0x2d, 0xd8, 0x18, 0xbf, 0x5c] := by
  have lawful : ∀ e ∈ abcEvents, IsSponge abcSponge id e.env.wc := by
    intro e member
    obtain ⟨call, -, rfl⟩ := List.mem_map.mp member
    exact wcOfSponge_isSponge abcSponge
  have active : ((run xofStep xofInit abcEvents).2 0).isSome = true := by decide +kernel
  obtain ⟨ctx, reached⟩ := Option.isSome_iff_exists.mp active
  exact ⟨ctx, reached, xof_stream_law abcSponge id abcEvents lawful 0 ctx reached, by decide +kernel,
    by decide +kernel⟩

end Run

end WolfPSA.Guarantees
