import WolfPSA.Lib.Outcomes
import WolfPSA.Source.CipherOneShot
import WolfPSA.Source.KeyThreads
import WolfPSA.Guarantees.CipherIv
import WolfPSA.Guarantees.KeyCreation
import WolfPSA.Guarantees.PartialBlock

/-!
# The cipher output sizes suffice

How much an update writes depends on the partial block, the size macros see the length of the input only.
Since the partial block is below a block, a buffer of the size that the macro gives is never too small, in
any reachable state, and no call writes more than that.
-/

namespace WolfPSA.Guarantees
open Lib Source

variable {Aes Des3 ChaCha : Type}

/-! ## wolfCrypt -/

/-- A wolfCrypt call on data writes as many bytes as it reads, and does not fail for lack of room. -/
def SameLength {Obj : Type} (call : Obj → Bytes → Except WcError (Bytes × Obj)) : Prop :=
  ∀ o input, Yields (· ≠ .bufferE) (fun r => r.1.length = input.length) (call o input)

/-- A wolfCrypt call without output does not fail for lack of room. -/
def NeverShort {α : Type} (ret : Except WcError α) : Prop := Yields (· ≠ .bufferE) (fun _ => True) ret

structure BlockCallsFit {Obj : Type} (calls : BlockCalls Obj) : Prop where
  setIV : ∀ o iv, NeverShort (calls.setIV o iv)
  cbc : ∀ direction, SameLength (calls.cbc direction)
  ecb : ∀ direction, SameLength (calls.ecb direction)

/-- The cipher calls of wolfCrypt write as many bytes as they read, and none returns `BUFFER_E`. -/
structure CipherCallsFit (wc : WcCipher Aes Des3 ChaCha) : Prop where
  aesInit : NeverShort wc.aesInit
  aesSetKey : ∀ o key iv direction, NeverShort (wc.aesSetKey o key iv direction)
  aesCtrSetKey : ∀ o key iv direction, NeverShort (wc.aesCtrSetKey o key iv direction)
  aes : BlockCallsFit wc.aes
  aesCtrEncrypt : SameLength wc.aesCtrEncrypt
  aesCfbEncrypt : SameLength wc.aesCfbEncrypt
  aesCfbDecrypt : SameLength wc.aesCfbDecrypt
  aesOfbEncrypt : SameLength wc.aesOfbEncrypt
  aesOfbDecrypt : SameLength wc.aesOfbDecrypt
  des3Init : NeverShort wc.des3Init
  des3SetKey : ∀ o key iv direction, NeverShort (wc.des3SetKey o key iv direction)
  des3 : BlockCallsFit wc.des3
  chachaSetKey : ∀ o key, NeverShort (wc.chachaSetKey o key)
  chachaSetIV : ∀ o iv, NeverShort (wc.chachaSetIV o iv)
  chachaProcess : SameLength wc.chachaProcess

/-! ## Calls that are not short of room -/

/-- The call does not fail for lack of room, and what it yields satisfies `P`. -/
abbrev Roomy {α : Type} (P : α → Prop) : Except Failure α → Prop :=
  Yields (fun status => status.val ≠ .bufferTooSmall) P

theorem roomy_require {condition : Bool} {status : Status} {fails : status ≠ .success}
    (other : status ≠ .bufferTooSmall) :
    Roomy (fun _ => condition = true) (require condition status fails) := by
  cases condition with
  | false => exact other
  | true => rfl

theorem roomy_enough {condition : Prop} [Decidable condition] {status : Status}
    {fails : status ≠ .success} (enough : condition) :
    Roomy (fun _ => condition) (require (decide condition) status fails) := by
  rw [decide_eq_true enough]
  exact enough

theorem roomy_wcCall {α : Type} {P : α → Prop} {ret : Except WcError α}
    (fits : Yields (· ≠ .bufferE) P ret) : Roomy P (wcCall ret) := by
  refine fits.mapError fun e other => ?_
  show wcErrorToPsaStatus e ≠ .bufferTooSmall
  cases e <;> first | exact absurd rfl other | decide

/-! ## The key look-up -/

/-- A program of the key store in which every action may have any answer. -/
def answering : Prog.Handler ((a : KeyAct) → KeyRes a) Unit KeyAct KeyRes := fun answer a s => (answer a, s)

/-- Answers of the process itself: what `psa_key_storage_check_init` can return, and the volatile keys of
some world. -/
def LocalAnswers (answer : (a : KeyAct) → KeyRes a) : Prop :=
  answer (.here .checkInit) ∈ [Status.success, .badState, .genericError] ∧
    ∀ id, ∃ fault w, answer (.here (.volatileGet id)) = volatileGet fault w id

/-- The key look-up of a call is a run of `wolfpsa_get_key_data`, whatever the store answers. -/
def LooksUp (getKeyData : KeyLookup) : Prop :=
  ∀ id, ∃ answers : Nat → (a : KeyAct) → KeyRes a, (∀ n, LocalAnswers (answers n)) ∧
    getKeyData id = ((wolfpsaGetKeyData id).run answering answers ()).1

/-- The programs of the look-up that have no answer for lack of room. -/
private abbrev LooksRoomy {α : Type} (p : KeyProg (Except Failure α)) : Prop :=
  Prog.Triple answering LocalAnswers (fun _ => True) (fun r _ => Roomy (fun _ => True) r) p ()

private theorem openFailure_roomy (ret : Int) : (openFailure ret).val ≠ .bufferTooSmall := by
  unfold openFailure wolfpsaStoreOpenStatus
  split_ifs <;> decide

private theorem volatileGet_roomy (fault : Fault) (w : World) (id : KeyId) :
    Roomy (fun _ => True) (volatileGet fault w id) := by
  unfold volatileGet
  split
  · exact (show Status.invalidHandle ≠ .bufferTooSmall by decide)
  split_ifs
  · exact (show Status.dataInvalid ≠ .bufferTooSmall by decide)
  · exact (show Status.insufficientMemory ≠ .bufferTooSmall by decide)
  · exact trivial

private theorem openRecord_roomy (id : KeyId) : LooksRoomy (openRecord id) := by
  unfold openRecord
  refine Prog.triple_act trivial fun _ _ opened _ _ => ?_
  cases opened with
  | error ret => exact openFailure_roomy ret
  | ok ctx =>
    refine Prog.triple_act trivial fun _ _ header _ _ => ?_
    split
    · exact Prog.triple_act trivial fun _ _ _ _ _ => show Status.storageFailure ≠ .bufferTooSmall by decide
    · exact trivial

private theorem readRecordData_roomy (header : Bytes × StoreCtx) : LooksRoomy (readRecordData header) := by
  unfold readRecordData
  dsimp only
  split
  · exact Prog.triple_act trivial fun _ _ _ _ _ => show Status.dataInvalid ≠ .bufferTooSmall by decide
  · refine Prog.triple_act trivial fun _ _ granted _ _ => ?_
    cases granted with
    | false =>
      exact Prog.triple_act trivial fun _ _ _ _ _ =>
        show Status.insufficientMemory ≠ .bufferTooSmall by decide
    | true =>
      refine Prog.triple_act trivial fun _ _ data _ _ => Prog.triple_act trivial fun _ _ _ _ _ => ?_
      split
      · exact (show Status.storageFailure ≠ .bufferTooSmall by decide)
      · exact trivial

/-- `wolfpsa_get_key_data` has no answer for lack of room. -/
private theorem wolfpsaGetKeyData_roomy (id : KeyId) : LooksRoomy (wolfpsaGetKeyData id) := by
  unfold wolfpsaGetKeyData
  refine Prog.triple_act trivial fun answer allowed init _ same => ?_
  have started : init ∈ [Status.success, .badState, .genericError] := by
    cases same
    exact allowed.1
  split
  · show init ≠ .bufferTooSmall
    rintro rfl
    exact absurd started (by decide)
  refine Prog.triple_act trivial fun answer allowed found _ same => ?_
  have roomy : Roomy (fun _ => True) found := by
    cases same
    obtain ⟨fault, w, same⟩ := allowed.2 id
    rw [show (answer (.here (.volatileGet id)) : Except Failure (KeyAttributes × Bytes)) = _ from same]
    exact volatileGet_roomy fault w id
  cases found with
  | ok found => exact trivial
  | error status =>
    dsimp only
    split
    · exact roomy
    refine Prog.triple_bind_of (openRecord_roomy id) fun header _ opened => ?_
    cases header with
    | error status => exact opened
    | ok header =>
      refine Prog.triple_bind_of (readRecordData_roomy header) fun data _ read => ?_
      cases data with
      | error status => exact read
      | ok data => exact trivial

private theorem LooksUp.roomy {getKeyData : KeyLookup} (looks : LooksUp getKeyData) (id : KeyId) :
    Roomy (fun _ => True) (getKeyData id) := by
  obtain ⟨answers, allowed, same⟩ := looks id
  rw [same]
  exact (wolfpsaGetKeyData_roomy id).run allowed

/-! ## Updates in the block modes -/

/-- A block call with the context that writes as much as it reads. -/
def BlockCallFits (call : BlockCall Aes Des3 ChaCha) : Prop :=
  ∀ ctx input, Yields (· ≠ .bufferE) (fun r => r.1.length = input.length ∧ FeedsOnly ctx r.2)
    (call ctx input)

section

variable {wc : WcCipher Aes Des3 ChaCha} {ctx : CipherCtx Aes Des3 ChaCha}
  {call : BlockCall Aes Des3 ChaCha} {input : Bytes} {size : Nat}

theorem callBlocks_fits {des3 : Des3 → Bytes → Except WcError (Bytes × Des3)}
    {aes : Aes → Bytes → Except WcError (Bytes × Aes)} (des3Fits : SameLength des3)
    (aesFits : SameLength aes) : BlockCallFits (callBlocks des3 aes : BlockCall Aes Des3 ChaCha) := by
  intro ctx input
  unfold callBlocks
  split
  · exact (des3Fits ctx.des3 input).bind fun r same => ⟨same, _, _, _, _, rfl⟩
  · exact (aesFits ctx.aes input).bind fun r same => ⟨same, _, _, _, _, rfl⟩

/-- The first block is a block, when there is a partial block and input to fill it. -/
private theorem fillPartialBlock_fits (fits : BlockCallFits call)
    (most : ctx.partialBlock.length ≤ ctx.blockSize)
    (enough : ctx.blockSize ≤ ctx.partialBlock.length + input.length) :
    Roomy (fun r => FeedsOnly ctx r.2.1 ∧ r.1.length + r.2.2.length =
        ctx.partialBlock.length + input.length ∧
        r.1.length = if ctx.partialBlock.length > 0 then ctx.blockSize else 0)
      (fillPartialBlock call ctx input) := by
  unfold fillPartialBlock
  split
  · refine (roomy_wcCall (fits ctx _)).bind fun r made => ?_
    obtain ⟨same, fed⟩ := made
    rw [List.length_append, List.length_take] at same
    refine ⟨fed.setPartial [], ?_, ?_⟩
    · show r.1.length + (input.drop _).length = _
      rw [same, List.length_drop]
      omega
    · show r.1.length = _
      rw [same]
      omega
  · rename_i none
    refine ⟨.refl ctx, ?_, rfl⟩
    show 0 + input.length = _
    omega

private theorem wholeBlocks_fits (fits : BlockCallFits call) {length : Nat} :
    Roomy (fun r => r.1.length ≤ length) (wholeBlocks call ctx input length) := by
  unfold wholeBlocks
  split
  · refine (roomy_wcCall (fits ctx _)).mono fun r made => ?_
    rw [made.1, List.length_take]
    exact Nat.min_le_left _ _
  · exact Nat.zero_le length

/-- Every full block of the partial block and the input is written, and no more. -/
private theorem updateBlocks_fits (fits : BlockCallFits call) (positive : 0 < ctx.blockSize)
    (below : ctx.partialBlock.length < ctx.blockSize)
    (room : (ctx.partialBlock.length + input.length) / ctx.blockSize * ctx.blockSize ≤ size) :
    Roomy (fun r => r.1.length ≤ (ctx.partialBlock.length + input.length) / ctx.blockSize * ctx.blockSize)
      (updateBlocks call ctx input size) := by
  unfold updateBlocks
  refine (roomy_enough room).bind fun _ _ => ?_
  split
  · exact Nat.zero_le _
  rename_i some
  have full : ctx.blockSize ≤ ctx.partialBlock.length + input.length :=
    Nat.le_of_not_lt fun short => some (Nat.div_eq_of_lt short)
  refine (fillPartialBlock_fits fits (Nat.le_of_lt below) full).bind fun r filled => ?_
  obtain ⟨⟨_, _, _, _, moved⟩, total, first⟩ := filled
  obtain ⟨out, ctx₁, rest⟩ := r
  dsimp only at moved total first ⊢
  subst moved
  have written : out.length + rest.length / ctx.blockSize * ctx.blockSize =
      (ctx.partialBlock.length + input.length) / ctx.blockSize * ctx.blockSize := by
    rw [← total, first]
    split
    · rw [Nat.add_div_left _ positive, Nat.succ_mul, Nat.add_comm]
    · rw [Nat.zero_add, Nat.zero_add]
  unfold updateRest
  split
  · refine (wholeBlocks_fits fits).bind fun s behind => ?_
    show (out ++ s.1).length ≤ _
    rw [List.length_append]
    dsimp only at behind
    omega
  · show out.length ≤ _
    omega

/-- All full blocks but the last are written. -/
private theorem updateHeldBack_fits (fits : BlockCallFits call)
    (most : ctx.partialBlock.length ≤ ctx.blockSize)
    (room : (ctx.partialBlock.length + input.length - 1) / ctx.blockSize * ctx.blockSize ≤ size) :
    Roomy (fun r =>
        r.1.length ≤ (ctx.partialBlock.length + input.length - 1) / ctx.blockSize * ctx.blockSize)
      (updateHeldBack call ctx input size) := by
  unfold updateHeldBack
  dsimp only
  split
  · exact Nat.zero_le _
  rename_i full
  split
  · exact Nat.zero_le _
  rename_i some
  refine (roomy_enough room).bind fun _ _ => ?_
  have one : ctx.blockSize ≤ (ctx.partialBlock.length + input.length - 1) / ctx.blockSize * ctx.blockSize :=
    Nat.le_mul_of_pos_left _ (Nat.pos_of_ne_zero fun zero => some (by rw [zero, Nat.zero_mul]))
  refine (fillPartialBlock_fits fits most (Nat.le_of_not_lt full)).bind fun r filled => ?_
  obtain ⟨⟨_, _, _, _, moved⟩, total, first⟩ := filled
  obtain ⟨out, ctx₁, rest⟩ := r
  dsimp only at moved total first ⊢
  subst moved
  refine (wholeBlocks_fits fits).bind fun s behind => ?_
  show (out ++ s.1).length ≤ _
  rw [List.length_append, first]
  dsimp only at behind
  split at behind
  · rw [if_pos ‹_›]
    omega
  · rw [if_neg ‹_›]
    omega

private theorem updateAesStream_fits {stream : Aes → Bytes → Except WcError (Bytes × Aes)}
    (fits : SameLength stream) (room : input.length ≤ size) :
    Roomy (fun r => r.1.length ≤ input.length) (updateAesStream stream ctx input size) := by
  unfold updateAesStream
  refine (roomy_require (by decide)).bind fun _ _ => (roomy_enough room).bind fun _ _ => ?_
  exact (roomy_wcCall (fits ctx.aes input)).bind fun r same => Nat.le_of_eq same

private theorem updateChacha_fits (fits : SameLength wc.chachaProcess) (room : input.length ≤ size) :
    Roomy (fun r => r.1.length ≤ input.length) (updateChacha wc ctx input size) := by
  unfold updateChacha
  refine (roomy_require (by decide)).bind fun _ _ => (roomy_enough room).bind fun _ _ => ?_
  exact (roomy_wcCall (fits ctx.chacha input)).bind fun r same => Nat.le_of_eq same

/-! ## The contexts of a run -/

/-- The algorithm and the key type that a setup lets through. -/
def Suited (alg : Algorithm) (keyType : KeyType) : Prop :=
  wolfpsaCipherCheckAlg alg = .success ∧
    if alg == psaAlgStreamCipher then keyType = psaKeyTypeChacha20
    else if keyType == psaKeyTypeDes then isBlockMode alg = true
    else keyType = psaKeyTypeAes

/-- What the calls of an operation rely on and none of them changes. -/
structure Equipped (ctx : CipherCtx Aes Des3 ChaCha) : Prop where
  suited : Suited ctx.alg ctx.keyType
  sized : ctx.blockSize = wolfpsaCipherBlockSize ctx.keyType

private theorem wolfpsaCipherCheckKey_suited {getKeyData : KeyLookup} {key : KeyId} {usage : KeyUsage}
    {alg : Algorithm} {attributes : KeyAttributes} {data : Bytes}
    (known : wolfpsaCipherCheckAlg alg = .success)
    (checked : wolfpsaCipherCheckKey getKeyData key usage alg = .ok (attributes, data)) :
    Suited alg attributes.type := by
  have looked := wolfpsaCipherCheckKey_ok checked
  unfold wolfpsaCipherCheckKey at checked
  obtain ⟨⟨attributes', data'⟩, found, checked⟩ := except_bind_ok checked
  cases looked.symm.trans found
  refine ⟨known, ?_⟩
  dsimp only at checked
  by_cases stream : (alg == psaAlgStreamCipher) = true
  · rw [if_pos stream] at checked ⊢
    exact beq_iff_eq.mp (require_bind_ok_iff.mp checked).1
  rw [if_neg stream] at checked ⊢
  by_cases des : (attributes.type == psaKeyTypeDes) = true
  · rw [if_pos des] at checked ⊢
    have listed := (require_bind_ok_iff.mp checked).1
    simp only [isBlockMode, List.contains_cons, List.contains_nil, Bool.or_false, Bool.or_eq_true] at listed ⊢
    tauto
  · rw [if_neg des] at checked ⊢
    exact beq_iff_eq.mp (require_bind_ok_iff.mp checked).1

/-- What the macros say of an algorithm and a key type that a setup lets through. -/
structure MacrosAgree (alg : Algorithm) (keyType : KeyType) : Prop where
  cipher : psaAlgIsCipher alg = true
  symmetric : keyType &&& psaKeyTypeCategoryMask = psaKeyTypeCategorySymmetric
  block : psaBlockCipherBlockLength keyType ≠ 0
  blockMode : isBlockMode alg = true → psaBlockCipherBlockLength keyType = wolfpsaCipherBlockSize keyType
  iv : psaCipherIvLength keyType alg = wolfpsaCipherIvLength alg keyType
  ivPadded : alg = psaAlgCbcPkcs7 → wolfpsaCipherIvLength alg keyType = wolfpsaCipherBlockSize keyType

private theorem Suited.agree {alg : Algorithm} {keyType : KeyType} (suited : Suited alg keyType) :
    MacrosAgree alg keyType := by
  obtain ⟨known, typed⟩ := suited
  have listed : alg ∈ [psaAlgCbcNoPadding, psaAlgCbcPkcs7, psaAlgEcbNoPadding, psaAlgCtr,
      psaAlgCcmStarNoTag, psaAlgCfb, psaAlgOfb, psaAlgStreamCipher] := by
    unfold wolfpsaCipherCheckAlg at known
    split_ifs at known with other listed
    simpa using listed
  have types : (alg = psaAlgStreamCipher ∧ keyType = psaKeyTypeChacha20) ∨
      (isBlockMode alg = true ∧ keyType = psaKeyTypeDes) ∨
      (alg ≠ psaAlgStreamCipher ∧ keyType = psaKeyTypeAes) := by
    split_ifs at typed with stream des
    · exact .inl ⟨beq_iff_eq.mp stream, typed⟩
    · exact .inr (.inl ⟨typed, beq_iff_eq.mp des⟩)
    · exact .inr (.inr ⟨fun same => stream (beq_iff_eq.mpr same), typed⟩)
  rcases types with ⟨rfl, rfl⟩ | ⟨blocks, rfl⟩ | ⟨other, rfl⟩
  · exact ⟨by decide, by decide, by decide, by decide, by decide, by decide⟩
  · have modes : alg = psaAlgCbcNoPadding ∨ alg = psaAlgCbcPkcs7 ∨ alg = psaAlgEcbNoPadding := by
      simpa [isBlockMode] using blocks
    rcases modes with rfl | rfl | rfl
    all_goals exact ⟨by decide, by decide, by decide, by decide, by decide, by decide⟩
  · simp only [List.mem_cons, List.not_mem_nil, or_false] at listed
    rcases listed with rfl | rfl | rfl | rfl | rfl | rfl | rfl | rfl
    all_goals
      first
      | exact absurd rfl other
      | exact ⟨by decide, by decide, by decide, by decide, by decide, by decide⟩

/-! ## Every run -/

private theorem cipherSetupCtx_equipped {env : CipherEnv Aes Des3 ChaCha} {key : KeyId} {alg : Algorithm}
    {usage : KeyUsage} {direction : CipherDirection}
    (granted : cipherSetupCtx env key alg usage direction = .ok ctx) : Equipped ctx := by
  obtain ⟨attributes, data, known, checked, ⟨_, _, _, _, rfl⟩, -⟩ := cipherSetupCtx_ok granted
  exact ⟨wolfpsaCipherCheckKey_suited known checked, rfl⟩

private theorem Equipped.setIv {ctx' : CipherCtx Aes Des3 ChaCha} {iv : InBuf} (equipped : Equipped ctx)
    (accepted : wolfpsaCipherSetIv wc ctx iv = .ok ctx') : Equipped ctx' := by
  obtain ⟨-, -, _, _, _, _, rfl⟩ := wolfpsaCipherSetIv_ok accepted
  exact ⟨equipped.suited, equipped.sized⟩

private theorem Equipped.update {ctx' : CipherCtx Aes Des3 ChaCha} {input : InBuf} {output : OutBuf}
    {overlap : Bool} {bytes : Bytes} (equipped : Equipped ctx)
    (updated : cipherUpdate wc ctx input output overlap = .ok (bytes, ctx')) : Equipped ctx' := by
  rcases cipherUpdate_ok updated with ⟨-, rfl, -⟩ | ⟨-, updated⟩
  · exact equipped
  · obtain ⟨⟨_, _, _, _, rfl⟩, -⟩ := updateInput_ok updated
    exact ⟨equipped.suited, equipped.sized⟩

def AllEquipped (s : CipherState Aes Des3 ChaCha) : Prop := ∀ op ctx, s op = some ctx → Equipped ctx

private theorem allEquipped_step {s : CipherState Aes Des3 ChaCha} (holds : AllEquipped s)
    (e : CipherEvent Aes Des3 ChaCha) : AllEquipped (cipherStep s e).2 := by
  intro op ctx active
  rcases eq_or_ne op e.call.op with rfl | other
  · have same : (cipherCall e.env (s e.call.op) e.call).2 = some ctx :=
      (Function.update_self e.call.op _ s).symm.trans active
    have source := cipherCall_contextFrom same
    generalize before : s e.call.op = operation at source
    cases source with
    | kept => exact holds e.call.op ctx before
    | setup granted => exact cipherSetupCtx_equipped granted
    | iv accepted => exact (holds e.call.op _ before).setIv accepted
    | input updated => exact (holds e.call.op _ before).update updated
  · exact holds op ctx ((Function.update_of_ne other _ s).symm.trans active)

theorem run_allEquipped (es : List (CipherEvent Aes Des3 ChaCha)) :
    AllEquipped (run cipherStep cipherInit es).2 :=
  run_state_invariant AllEquipped (fun _ _ active => by cases active)
    (fun _ e (_ : True) holds => allEquipped_step holds e) es fun _ _ => trivial

/-! ## Update and finish -/

private theorem blockSize_le (keyType : KeyType) : wolfpsaCipherBlockSize keyType ≤ 16 := by
  unfold wolfpsaCipherBlockSize
  split <;> decide

/-- The round-up covers the full blocks of an input with less than a block before it. -/
private theorem roundUp_covers {n total length : Nat} (large : n ≤ 16) (few : length ≤ uint32Max)
    (below : total < length + n) : total / n * n ≤ psaRoundUpToMultiple n length := by
  unfold psaRoundUpToMultiple
  rw [Nat.mod_eq_of_lt (by unfold uint32Max at few; omega)]
  exact Nat.mul_le_mul_right n (Nat.div_le_div_right (by omega))

private theorem updateOutputSize_block {alg : Algorithm} {keyType : KeyType} (agree : MacrosAgree alg keyType)
    (blocks : isBlockMode alg = true) (length : Nat) :
    psaCipherUpdateOutputSize keyType alg length =
      psaRoundUpToMultiple (wolfpsaCipherBlockSize keyType) length := by
  have modes : (alg == psaAlgCbcPkcs7 || alg == psaAlgCbcNoPadding || alg == psaAlgEcbNoPadding) = true := by
    simp only [isBlockMode, List.contains_cons, List.contains_nil, Bool.or_false, Bool.or_eq_true] at blocks ⊢
    tauto
  unfold psaCipherUpdateOutputSize
  rw [if_pos agree.cipher, if_pos agree.block, if_pos modes, agree.blockMode blocks]

private theorem updateOutputSize_stream {alg : Algorithm} {keyType : KeyType}
    (agree : MacrosAgree alg keyType) (stream : isBlockMode alg = false) (length : Nat) :
    psaCipherUpdateOutputSize keyType alg length = length := by
  have modes : ¬(alg == psaAlgCbcPkcs7 || alg == psaAlgCbcNoPadding || alg == psaAlgEcbNoPadding) = true := by
    intro listed
    rw [Bool.eq_false_iff] at stream
    refine stream ?_
    simp only [isBlockMode, List.contains_cons, List.contains_nil, Bool.or_false, Bool.or_eq_true] at listed ⊢
    tauto
  unfold psaCipherUpdateOutputSize
  rw [if_pos agree.cipher, if_pos agree.block, if_neg modes]

private theorem cipherCbc_fits (fits : CipherCallsFit wc) (direction : CipherDirection) :
    BlockCallFits (cipherCbc wc direction) := callBlocks_fits (fits.des3.cbc direction) (fits.aes.cbc direction)

private theorem cipherEcb_fits (fits : CipherCallsFit wc) (direction : CipherDirection) :
    BlockCallFits (cipherEcb wc direction) := callBlocks_fits (fits.des3.ecb direction) (fits.aes.ecb direction)

/-- How much an update with `length` bytes writes. -/
def written (ctx : CipherCtx Aes Des3 ChaCha) (length : Nat) : Nat :=
  if isBlockMode ctx.alg then
    if HoldsBack ctx then (ctx.partialBlock.length + length - 1) / ctx.blockSize * ctx.blockSize
    else (ctx.partialBlock.length + length) / ctx.blockSize * ctx.blockSize
  else length

/-- The macro covers it, whatever the partial block is. -/
theorem written_le_outputSize (equipped : Equipped ctx) (bounded : PartialBounded ctx) {length : Nat}
    (few : length ≤ uint32Max) :
    written ctx length ≤ psaCipherUpdateOutputSize ctx.keyType ctx.alg length := by
  have agree := equipped.suited.agree
  have large : ctx.blockSize ≤ 16 := by
    rw [equipped.sized]
    exact blockSize_le _
  unfold written
  cases blocks : isBlockMode ctx.alg with
  | false =>
    rw [updateOutputSize_stream agree blocks]
    exact Nat.le_refl length
  | true =>
    rw [updateOutputSize_block agree blocks, ← equipped.sized, if_pos rfl]
    have positive := bounded.positive
    split
    · have most := bounded.most
      exact roundUp_covers large few (by omega)
    · have below := bounded.below ‹_›
      exact roundUp_covers large few (by omega)

theorem updateInput_fits (fits : CipherCallsFit wc) (bounded : PartialBounded ctx)
    (room : written ctx input.length ≤ size) :
    Roomy (fun r => r.1.length ≤ written ctx input.length) (updateInput wc ctx input size) := by
  have positive : 0 < ctx.blockSize := bounded.positive
  generalize bound : written ctx input.length = limit at room ⊢
  unfold written at bound
  -- a mode that processes every full block
  have every {call : BlockCall Aes Des3 ChaCha} (callFits : BlockCallFits call)
      (blocks : isBlockMode ctx.alg = true) (notHeld : ¬HoldsBack ctx) :
      Roomy (fun r => r.1.length ≤ limit) (updateBlocks call ctx input size) := by
    rw [if_pos blocks, if_neg notHeld] at bound
    subst bound
    exact updateBlocks_fits callFits positive (bounded.below notHeld) room
  -- a mode that writes what it reads
  have stream {α : Type} {result : Except Failure (Bytes × α)} (notBlock : isBlockMode ctx.alg = false)
      (streamed : input.length ≤ size → Roomy (fun r => r.1.length ≤ input.length) result) :
      Roomy (fun r => r.1.length ≤ limit) result := by
    rw [if_neg (Bool.eq_false_iff.mp notBlock)] at bound
    subst bound
    exact streamed room
  unfold updateInput
  split_ifs with cbc pkcs7 star ecb ctr cfb ofb chacha
  · refine (roomy_require (by decide)).bind fun _ _ => ?_
    exact every (cipherCbc_fits fits _) (by rw [cbc]; decide)
      (fun held => absurd (cbc.symm.trans held.1) (by decide))
  · have blocks : isBlockMode ctx.alg = true := by rw [pkcs7]; decide
    refine (roomy_require (by decide)).bind fun _ _ => ?_
    cases faces : ctx.direction with
    | encryption =>
      exact every (cipherCbc_fits fits _) blocks (fun held => absurd (faces.symm.trans held.2) (by decide))
    | decryption =>
      rw [if_pos blocks, if_pos ⟨pkcs7, faces⟩] at bound
      subst bound
      exact updateHeldBack_fits (cipherCbc_fits fits _) bounded.most room
  · exact stream (by rw [star]; decide) (updateAesStream_fits fits.aesCtrEncrypt)
  · exact every (cipherEcb_fits fits _) (by rw [ecb]; decide)
      (fun held => absurd (ecb.symm.trans held.1) (by decide))
  · exact stream (by rw [ctr]; decide) (updateAesStream_fits fits.aesCtrEncrypt)
  · refine stream (by rw [cfb]; decide) fun room => ?_
    cases ctx.direction with
    | encryption => exact updateAesStream_fits fits.aesCfbEncrypt room
    | decryption => exact updateAesStream_fits fits.aesCfbDecrypt room
  · refine stream (by rw [ofb]; decide) fun room => ?_
    cases ctx.direction with
    | encryption => exact updateAesStream_fits fits.aesOfbEncrypt room
    | decryption => exact updateAesStream_fits fits.aesOfbDecrypt room
  · exact stream (by rw [chacha]; decide) (updateChacha_fits fits.chachaProcess)
  · exact (show Status.notSupported ≠ .bufferTooSmall by decide)

/-- An update writes so much, and a length that it does not accept is refused before it asks for room. -/
theorem cipherUpdate_fits (fits : CipherCallsFit wc) (bounded : PartialBounded ctx) {given : InBuf}
    {output : OutBuf} {overlap : Bool}
    (room : given.length ≤ uint32Max → written ctx given.length ≤ output.size) :
    Roomy (fun r => r.1.length ≤ written ctx given.length ∧ given.length ≤ uint32Max)
      (cipherUpdate wc ctx given output overlap) := by
  unfold cipherUpdate
  refine (roomy_require (by decide)).bind fun _ readable => ?_
  refine (roomy_require (by decide)).bind fun _ _ => ?_
  refine (roomy_require (by decide)).bind fun _ word => ?_
  refine (roomy_require (by decide)).bind fun _ _ => ?_
  have few : given.length ≤ uint32Max := by
    have passed := beq_iff_eq.mp word
    unfold wolfpsaCheckWord32Length at passed
    split at passed
    · cases passed
    · omega
  split
  · exact ⟨Nat.zero_le _, few⟩
  rename_i some
  cases given with
  | null n => exact absurd (show n = 0 by simpa [InBuf.isNull, InBuf.length] using readable) some
  | data bytes => exact (updateInput_fits fits bounded (room few)).mono fun r least => ⟨least, few⟩

/-- The finish writes a block at most, and nothing without a padding. -/
theorem cipherFinish_fits (fits : CipherCallsFit wc) (bounded : PartialBounded ctx) {output : OutBuf}
    (room : ctx.alg = psaAlgCbcPkcs7 → ctx.blockSize ≤ output.size) :
    Roomy (fun r => r.length ≤ if ctx.alg = psaAlgCbcPkcs7 then ctx.blockSize else 0)
      (cipherFinish wc ctx output) := by
  unfold cipherFinish
  refine (roomy_require (by decide)).bind fun _ _ => ?_
  by_cases padded : ctx.alg = psaAlgCbcPkcs7
  · rw [if_pos padded, if_pos padded]
    refine (roomy_require (by decide)).bind fun _ _ => ?_
    cases faces : ctx.direction with
    | encryption =>
      have below := bounded.below fun held => absurd (faces.symm.trans held.2) (by decide)
      unfold finishPadded
      refine (roomy_require (by decide)).bind fun _ _ => (roomy_enough (room padded)).bind fun _ _ => ?_
      refine (roomy_wcCall (cipherCbc_fits fits .encryption ctx _)).bind fun r made => ?_
      show r.1.length ≤ _
      rw [made.1, List.length_append, List.length_replicate]
      omega
    | decryption =>
      unfold finishUnpadded
      refine (roomy_require (by decide)).bind fun _ _ => ?_
      refine (roomy_wcCall (cipherCbc_fits fits .decryption ctx _)).bind fun r made => ?_
      refine (roomy_require (by decide)).bind fun _ _ => ?_
      refine (roomy_enough (Nat.le_trans (Nat.sub_le _ _) (room padded))).bind fun _ _ => ?_
      show (r.1.take _).length ≤ _
      rw [List.length_take]
      omega
  · rw [if_neg padded, if_neg padded]
    exact (roomy_require (by decide)).bind fun _ _ => Nat.le_refl 0

/-! ## One-shot calls -/

/-- What a call meets does not fail for lack of room. -/
structure CipherEnvFits (env : CipherEnv Aes Des3 ChaCha) : Prop where
  lookup : LooksUp env.getKeyData
  random : Roomy (fun _ => True) env.random
  calls : CipherCallsFit env.wc

private theorem wolfpsaCipherCheckKey_roomy {getKeyData : KeyLookup} {key : KeyId} {usage : KeyUsage}
    {alg : Algorithm} (lookup : Roomy (fun _ => True) (getKeyData key)) :
    Roomy (fun _ => True) (wolfpsaCipherCheckKey getKeyData key usage alg) := by
  unfold wolfpsaCipherCheckKey
  refine lookup.bind fun r _ => ?_
  dsimp only
  split_ifs
  all_goals
    repeat refine (roomy_require (by decide)).bind fun _ _ => ?_
    exact trivial

private theorem cipherSetKey_fits (fits : CipherCallsFit wc) (key : Bytes) :
    NeverShort (cipherSetKey wc ctx key) := by
  unfold cipherSetKey aesSetKeyFor
  split
  · exact (fits.chachaSetKey _ _).bind fun _ _ => trivial
  split
  · exact fits.des3Init.bind fun _ _ => (fits.des3SetKey _ _ _ _).bind fun _ _ => trivial
  · refine fits.aesInit.bind fun fresh _ => ?_
    split
    · exact (fits.aesCtrSetKey _ _ _ _).bind fun _ _ => trivial
    · exact (fits.aesSetKey _ _ _ _).bind fun _ _ => trivial

/-- A new operation of a one-shot call. -/
private structure New (alg : Algorithm) (keyType : KeyType) (direction : CipherDirection)
    (ctx : CipherCtx Aes Des3 ChaCha) : Prop where
  equipped : Equipped ctx
  bounded : PartialBounded ctx
  empty : ctx.partialBlock = []
  runs : ctx.alg = alg
  typed : ctx.keyType = keyType
  faces : ctx.direction = direction

variable {env : CipherEnv Aes Des3 ChaCha} {key : KeyId} {alg : Algorithm} {usage : KeyUsage}
  {direction : CipherDirection} {attributes : KeyAttributes} {data : Bytes}

private theorem cipherSetupCtx_new (fits : CipherEnvFits env)
    (found : env.getKeyData key = .ok (attributes, data)) :
    Roomy (New alg attributes.type direction) (cipherSetupCtx env key alg usage direction) := by
  refine .of_cases (fun status failed => ?_) (fun ctx granted => ?_)
  · have roomy : Roomy (fun _ => True) (cipherSetupCtx env key alg usage direction) := by
      unfold cipherSetupCtx
      refine (roomy_require (by decide)).bind fun _ _ => ?_
      refine (wolfpsaCipherCheckKey_roomy (fits.lookup.roomy key)).bind fun r _ => ?_
      refine (roomy_require (by decide)).bind fun _ _ => (roomy_require (by decide)).bind fun _ _ => ?_
      exact roomy_wcCall (cipherSetKey_fits fits.calls _)
    exact roomy.error failed
  · obtain ⟨attributes', data', -, checked, ⟨_, _, _, _, made⟩, empty⟩ := cipherSetupCtx_ok granted
    have looked := wolfpsaCipherCheckKey_ok checked
    rw [found] at looked
    cases looked
    refine ⟨cipherSetupCtx_equipped granted, partialBounded_setup granted, empty, ?_, ?_, ?_⟩
    · rw [made]
      rfl
    · rw [made]
      rfl
    · rw [made]
      rfl

private theorem wolfpsaCipherSetIv_new (fits : CipherCallsFit wc) {keyType : KeyType}
    (new : New alg keyType direction ctx) (iv : InBuf) :
    Roomy (New alg keyType direction) (wolfpsaCipherSetIv wc ctx iv) := by
  refine .of_cases (fun status failed => ?_) (fun ctx' accepted => ?_)
  · have roomy : Roomy (fun _ => True) (wolfpsaCipherSetIv wc ctx iv) := by
      unfold wolfpsaCipherSetIv
      refine (roomy_require (by decide)).bind fun _ _ => (roomy_require (by decide)).bind fun _ _ =>
        (roomy_require (by decide)).bind fun _ _ => ?_
      split_ifs
      · refine (roomy_require (by decide)).bind fun _ _ => ?_
        exact (roomy_wcCall (fits.chachaSetIV _ _)).bind fun _ _ => trivial
      · refine (roomy_require (by decide)).bind fun _ _ => ?_
        exact (roomy_wcCall (fits.aes.setIV _ _)).bind fun _ _ => trivial
      · refine (roomy_require (by decide)).bind fun _ _ => ?_
        exact (roomy_wcCall (fits.des3.setIV _ _)).bind fun _ _ => trivial
      · refine (roomy_require (by decide)).bind fun _ _ => ?_
        exact (roomy_wcCall (fits.aes.setIV _ _)).bind fun _ _ => trivial
    exact roomy.error failed
  · have equipped := new.equipped.setIv accepted
    have bounded := new.bounded.setIv accepted
    obtain ⟨-, -, _, _, _, _, rfl⟩ := wolfpsaCipherSetIv_ok accepted
    exact ⟨equipped, bounded, new.empty, new.runs, new.typed, new.faces⟩

private theorem ivLength_le (alg : Algorithm) (keyType : KeyType) :
    wolfpsaCipherIvLength alg keyType ≤ aesBlockSize := by
  unfold wolfpsaCipherIvLength
  split_ifs
  · exact blockSize_le keyType
  · decide
  · decide
  · decide

/-- The IV of a one-shot encryption is as long as the algorithm says. -/
private theorem oneShotGenerateIv_new (fits : CipherEnvFits env) {keyType : KeyType}
    (new : New alg keyType direction ctx) (room : wolfpsaCipherIvLength alg keyType ≤ size) :
    Roomy (fun r => r.1.length = wolfpsaCipherIvLength alg keyType ∧ New alg keyType direction r.2)
      (oneShotGenerateIv env ctx size) := by
  unfold oneShotGenerateIv
  rw [new.runs, new.typed]
  dsimp only
  split
  · refine (roomy_enough room).bind fun _ _ => ?_
    unfold wolfpsaCipherGenerateIv
    rw [new.runs, new.typed]
    refine (roomy_require (by decide)).bind fun _ _ => (roomy_require (by decide)).bind fun _ _ =>
      (roomy_require (by decide)).bind fun _ _ => (roomy_require (by decide)).bind fun _ _ => ?_
    refine (roomy_enough (ivLength_le alg keyType)).bind fun _ _ => fits.random.bind fun stream _ => ?_
    refine (wolfpsaCipherSetIv_new fits.calls new _).bind fun ctx' moved => ⟨?_, moved⟩
    exact length_firstN stream _
  · rename_i none
    exact ⟨(not_not.mp none).symm, new⟩

private theorem encryptOutputSize_padded {keyType : KeyType} (agree : MacrosAgree psaAlgCbcPkcs7 keyType)
    {length : Nat} (few : length ≤ uint32Max) :
    psaCipherEncryptOutputSize keyType psaAlgCbcPkcs7 length =
      length / wolfpsaCipherBlockSize keyType * wolfpsaCipherBlockSize keyType +
        wolfpsaCipherBlockSize keyType + wolfpsaCipherIvLength psaAlgCbcPkcs7 keyType := by
  have large := blockSize_le keyType
  have positive := wolfpsaCipherBlockSize_pos keyType
  have within := Nat.div_mul_le_self length (wolfpsaCipherBlockSize keyType)
  have iv := ivLength_le psaAlgCbcPkcs7 keyType
  unfold psaCipherEncryptOutputSize psaRoundUpToMultiple
  unfold uint32Max at few
  unfold aesBlockSize at iv
  rw [if_pos (beq_self_eq_true _), if_pos agree.block, agree.blockMode (by decide), agree.iv,
    show length + 1 + wolfpsaCipherBlockSize keyType - 1 = length + wolfpsaCipherBlockSize keyType by omega,
    Nat.mod_eq_of_lt (show length + wolfpsaCipherBlockSize keyType < 2 ^ 64 by omega),
    Nat.add_div_right _ positive, Nat.succ_mul, Nat.mod_eq_of_lt (by omega)]

private theorem encryptOutputSize_plain {keyType : KeyType} (agree : MacrosAgree alg keyType)
    (unpadded : alg ≠ psaAlgCbcPkcs7) {length : Nat} (few : length ≤ uint32Max) :
    psaCipherEncryptOutputSize keyType alg length = length + wolfpsaCipherIvLength alg keyType := by
  have iv := ivLength_le alg keyType
  unfold psaCipherEncryptOutputSize
  unfold uint32Max at few
  unfold aesBlockSize at iv
  rw [if_neg (fun same => unpadded (beq_iff_eq.mp same)), if_pos agree.cipher, agree.iv,
    Nat.mod_eq_of_lt (by omega)]

/-- From an empty partial block an update writes what it reads at most. -/
private theorem New.written_le {keyType : KeyType} (new : New alg keyType direction ctx) (length : Nat) :
    written ctx length ≤ length := by
  unfold written
  rw [new.empty]
  split_ifs
  · have bound := Nat.div_mul_le_self (length - 1) ctx.blockSize
    show (0 + length - 1) / _ * _ ≤ _
    rw [Nat.zero_add]
    omega
  · show (0 + length) / _ * _ ≤ _
    rw [Nat.zero_add]
    exact Nat.div_mul_le_self _ _
  · exact Nat.le_refl _

/-- What an update leaves for the finish. -/
private theorem cipherUpdate_then (fits : CipherCallsFit wc) {keyType : KeyType}
    (new : New alg keyType direction ctx) {given : InBuf} {output : OutBuf}
    (room : written ctx given.length ≤ output.size) :
    Roomy (fun r => r.1.length ≤ written ctx given.length ∧ PartialBounded r.2 ∧ r.2.alg = ctx.alg ∧
        r.2.blockSize = ctx.blockSize)
      (cipherUpdate wc ctx given output false) := by
  refine (cipherUpdate_fits fits new.bounded fun _ => room).attach.mono fun r made => ?_
  obtain ⟨⟨least, -⟩, updated⟩ := made
  refine ⟨least, new.bounded.update updated, ?_⟩
  rcases cipherUpdate_ok updated with ⟨-, same, -⟩ | ⟨-, updated⟩
  · rw [same]
    exact ⟨rfl, rfl⟩
  · obtain ⟨⟨_, _, _, _, same⟩, -⟩ := updateInput_ok updated
    rw [same]
    exact ⟨rfl, rfl⟩

/-- The block of a finish with padding. -/
private def lastBlock (ctx : CipherCtx Aes Des3 ChaCha) : Nat :=
  if ctx.alg = psaAlgCbcPkcs7 then ctx.blockSize else 0

/-- The IV, the update and the finish of an encryption together. -/
private theorem New.encryption_parts {keyType : KeyType} (new : New alg keyType .encryption ctx)
    {length : Nat} (few : length ≤ uint32Max) :
    wolfpsaCipherIvLength alg keyType + written ctx length + lastBlock ctx ≤
      psaCipherEncryptOutputSize keyType alg length := by
  have agree := new.equipped.suited.agree
  rw [new.runs, new.typed] at agree
  unfold lastBlock
  by_cases padded : alg = psaAlgCbcPkcs7
  · subst padded
    have notHeld : ¬HoldsBack ctx := fun held => absurd held.2 (by rw [new.faces]; decide)
    have blocks : written ctx length = length / ctx.blockSize * ctx.blockSize := by
      unfold written
      rw [new.runs, if_pos (by decide), if_neg notHeld, new.empty]
      show (0 + _) / _ * _ = _
      rw [Nat.zero_add]
    rw [encryptOutputSize_padded agree few, blocks, if_pos new.runs, new.equipped.sized, new.typed]
    omega
  · have all := new.written_le length
    rw [encryptOutputSize_plain agree padded few, new.runs, if_neg padded]
    omega

private theorem cipherEncryptOneShot_fits (fits : CipherEnvFits env)
    (found : env.getKeyData key = .ok (attributes, data)) {given : InBuf} {output : OutBuf}
    {overlap lengthNull : Bool} (few : given.length ≤ uint32Max)
    (room : psaCipherEncryptOutputSize attributes.type alg given.length ≤ output.size) :
    Roomy (fun r => r.length ≤ psaCipherEncryptOutputSize attributes.type alg given.length)
      (cipherEncryptOneShot env key alg given output overlap lengthNull) := by
  unfold cipherEncryptOneShot
  refine (roomy_require (by decide)).bind fun _ _ => (roomy_require (by decide)).bind fun _ _ =>
    (roomy_require (by decide)).bind fun _ _ => ?_
  refine (cipherSetupCtx_new fits found).bind fun ctx new => ?_
  have parts := new.encryption_parts few
  refine (oneShotGenerateIv_new fits new (by omega)).bind fun ⟨iv, ctx₁⟩ made => ?_
  obtain ⟨length, new₁⟩ := made
  dsimp only at length new₁ ⊢
  have parts := new₁.encryption_parts few
  refine (cipherUpdate_then fits.calls new₁ (by dsimp only; omega)).bind fun ⟨body, ctx₂⟩ made => ?_
  obtain ⟨least, bounded, runs, sized⟩ := made
  dsimp only at least bounded runs sized ⊢
  have same : lastBlock ctx₂ = lastBlock ctx₁ := by
    unfold lastBlock
    rw [runs, sized]
  have block (padded : ctx₂.alg = psaAlgCbcPkcs7) : lastBlock ctx₂ = ctx₂.blockSize := if_pos padded
  refine (cipherFinish_fits fits.calls bounded fun padded => ?_).bind fun last made => ?_
  · dsimp only
    have value := block padded
    omega
  · have ends : last.length ≤ lastBlock ctx₂ := made
    show (iv ++ body ++ last).length ≤ _
    rw [List.length_append, List.length_append]
    omega

private theorem oneShotTakeIv_new (fits : CipherEnvFits env) {keyType : KeyType}
    (new : New alg keyType direction ctx) {given : InBuf}
    (readable : (!(given.isNull && decide (given.length > 0))) = true) :
    Roomy (fun r => New alg keyType direction r.1 ∧
        r.2.length + wolfpsaCipherIvLength alg keyType = given.length)
      (oneShotTakeIv env ctx given) := by
  have length : given.bytes.length = given.length := by
    cases given with
    | null n => exact (show n = 0 by simpa [InBuf.isNull, InBuf.length] using readable).symm
    | data bytes => rfl
  unfold oneShotTakeIv
  rw [new.runs, new.typed]
  dsimp only
  split
  · refine (roomy_require (by decide)).bind fun _ enough => ?_
    refine (wolfpsaCipherSetIv_new fits.calls new _).bind fun ctx' moved => ⟨moved, ?_⟩
    show (given.bytes.drop _).length + _ = _
    rw [List.length_drop, length]
    exact Nat.sub_add_cancel (of_decide_eq_true enough)
  · rename_i none
    exact ⟨new, by rw [not_not.mp none, Nat.add_zero]⟩

private theorem cipherDecryptOneShot_fits (fits : CipherEnvFits env)
    (found : env.getKeyData key = .ok (attributes, data)) {given : InBuf} {output : OutBuf}
    {overlap lengthNull : Bool}
    (room : psaCipherDecryptOutputSize attributes.type alg given.length ≤ output.size) :
    Roomy (fun r => r.length ≤ psaCipherDecryptOutputSize attributes.type alg given.length)
      (cipherDecryptOneShot env key alg given output overlap lengthNull) := by
  unfold cipherDecryptOneShot
  refine (roomy_require (by decide)).bind fun _ _ => (roomy_require (by decide)).bind fun _ _ =>
    (roomy_require (by decide)).bind fun _ readable => (roomy_require (by decide)).bind fun _ _ => ?_
  refine (cipherSetupCtx_new fits found).bind fun ctx new => ?_
  have agree := new.equipped.suited.agree
  rw [new.runs, new.typed] at agree
  have target : psaCipherDecryptOutputSize attributes.type alg given.length = given.length := by
    unfold psaCipherDecryptOutputSize
    rw [agree.cipher, agree.symmetric]
    rfl
  rw [target] at room ⊢
  refine (oneShotTakeIv_new fits new readable).bind fun ⟨ctx₁, rest⟩ made => ?_
  obtain ⟨new₁, length⟩ := made
  dsimp only at length new₁ ⊢
  have all := new₁.written_le rest.length
  have last : lastBlock ctx₁ ≤ wolfpsaCipherIvLength alg attributes.type := by
    unfold lastBlock
    rw [new₁.runs]
    split
    · rename_i padded
      exact Nat.le_of_eq (by rw [agree.ivPadded padded, new₁.equipped.sized, new₁.typed])
    · exact Nat.zero_le _
  refine (cipherUpdate_then fits.calls new₁ (by omega)).bind fun ⟨body, ctx₂⟩ made => ?_
  obtain ⟨least, bounded, runs, sized⟩ := made
  dsimp only at least bounded runs sized ⊢
  have same : lastBlock ctx₂ = lastBlock ctx₁ := by
    unfold lastBlock
    rw [runs, sized]
  have block (padded : ctx₂.alg = psaAlgCbcPkcs7) : lastBlock ctx₂ = ctx₂.blockSize := if_pos padded
  refine (cipherFinish_fits fits.calls bounded fun padded => ?_).bind fun bytes made => ?_
  · dsimp only
    have value := block padded
    omega
  · have ends : bytes.length ≤ lastBlock ctx₂ := made
    show (body ++ bytes).length ≤ _
    rw [List.length_append]
    omega

end

/-- A result that is not short of room and within `limit` bytes. -/
def FitsIn (limit : Nat) (result : CipherResult) : Prop :=
  result.status ≠ .bufferTooSmall ∧ result.output.length ≤ limit

private theorem oneShotResult_fits {result : Except Failure Bytes} {limit : Nat}
    (fits : Roomy (fun r => r.length ≤ limit) result) : FitsIn limit (oneShotResult result) := by
  cases result with
  | error status => exact ⟨fits, Nat.zero_le _⟩
  | ok bytes => exact ⟨show Status.success ≠ .bufferTooSmall by decide, fits⟩

private theorem cipherEnds_fits {result : Except Failure (Bytes × Option (CipherCtx Aes Des3 ChaCha))}
    {limit : Nat} (fits : Roomy (fun r => r.1.length ≤ limit) result) :
    FitsIn limit (cipherEnds result).1 := by
  cases result with
  | error status => exact ⟨fits, Nat.zero_le _⟩
  | ok r => exact ⟨show Status.success ≠ .bufferTooSmall by decide, fits⟩

private theorem psaCipherUpdate_fits {env : CipherEnv Aes Des3 ChaCha} {ctx : CipherCtx Aes Des3 ChaCha}
    (fits : CipherCallsFit env.wc) (equipped : Equipped ctx) (bounded : PartialBounded ctx) {input : InBuf}
    {output : OutBuf} {overlap lengthNull : Bool}
    (room : psaCipherUpdateOutputSize ctx.keyType ctx.alg input.length ≤ output.size) :
    FitsIn (psaCipherUpdateOutputSize ctx.keyType ctx.alg input.length)
      (psaCipherUpdate env (some ctx) input output overlap lengthNull).1 := by
  unfold psaCipherUpdate
  split
  · exact ⟨show Status.invalidArgument ≠ .bufferTooSmall by decide, Nat.zero_le _⟩
  refine cipherEnds_fits (Yields.bind (cipherUpdate_fits fits bounded fun few =>
    Nat.le_trans (written_le_outputSize equipped bounded few) room) fun r made => ?_)
  exact Nat.le_trans made.1 (written_le_outputSize equipped bounded made.2)

private theorem psaCipherFinish_fits {env : CipherEnv Aes Des3 ChaCha} {ctx : CipherCtx Aes Des3 ChaCha}
    (fits : CipherCallsFit env.wc) (equipped : Equipped ctx) (bounded : PartialBounded ctx)
    {output : OutBuf} {lengthNull : Bool}
    (room : psaCipherFinishOutputSize ctx.keyType ctx.alg ≤ output.size) :
    FitsIn (psaCipherFinishOutputSize ctx.keyType ctx.alg)
      (psaCipherFinish env (some ctx) output lengthNull).1 := by
  have agree := equipped.suited.agree
  have size (padded : ctx.alg = psaAlgCbcPkcs7) :
      psaCipherFinishOutputSize ctx.keyType ctx.alg = ctx.blockSize := by
    have blocks := agree.blockMode (by rw [padded]; decide)
    unfold psaCipherFinishOutputSize
    rw [if_pos agree.cipher, if_pos (beq_iff_eq.mpr padded), blocks, equipped.sized]
  unfold psaCipherFinish
  split
  · exact ⟨show Status.invalidArgument ≠ .bufferTooSmall by decide, Nat.zero_le _⟩
  refine cipherEnds_fits (Yields.bind (cipherFinish_fits fits bounded fun padded => ?_) fun r made => ?_)
  · rw [← size padded]
    exact room
  · show r.length ≤ _
    split at made
    · rw [size ‹_›]
      exact made
    · exact Nat.le_trans made (Nat.zero_le _)

/-- A buffer of the size that the macro of a call gives is large enough, in every state that any calls can
lead to, and the call writes no more than that. -/
theorem output_sizes_suffice {env : CipherEnv Aes Des3 ChaCha} (fits : CipherEnvFits env) :
    (∀ es op ctx, (run cipherStep cipherInit es).2 op = some ctx →
      (∀ input output overlap lengthNull,
        psaCipherUpdateOutputSize ctx.keyType ctx.alg input.length ≤ output.size →
        FitsIn (psaCipherUpdateOutputSize ctx.keyType ctx.alg input.length)
          (psaCipherUpdate env (some ctx) input output overlap lengthNull).1) ∧
      ∀ output lengthNull, psaCipherFinishOutputSize ctx.keyType ctx.alg ≤ output.size →
        FitsIn (psaCipherFinishOutputSize ctx.keyType ctx.alg)
          (psaCipherFinish env (some ctx) output lengthNull).1) ∧
    ∀ key attributes data, env.getKeyData key = .ok (attributes, data) →
      (∀ alg input output overlap lengthNull, input.length ≤ uint32Max →
        psaCipherEncryptOutputSize attributes.type alg input.length ≤ output.size →
        FitsIn (psaCipherEncryptOutputSize attributes.type alg input.length)
          (psaCipherEncrypt env key alg input output overlap lengthNull)) ∧
      ∀ alg input output overlap lengthNull,
        psaCipherDecryptOutputSize attributes.type alg input.length ≤ output.size →
        FitsIn (psaCipherDecryptOutputSize attributes.type alg input.length)
          (psaCipherDecrypt env key alg input output overlap lengthNull) := by
  refine ⟨fun es op ctx active => ?_, fun key attributes data found => ⟨?_, ?_⟩⟩
  · have equipped := run_allEquipped es op ctx active
    have bounded := run_partialsBounded es op ctx active
    exact ⟨fun _ _ _ _ room => psaCipherUpdate_fits fits.calls equipped bounded room,
      fun _ _ room => psaCipherFinish_fits fits.calls equipped bounded room⟩
  · intro alg input output overlap lengthNull few room
    exact oneShotResult_fits (cipherEncryptOneShot_fits fits found few room)
  · intro alg input output overlap lengthNull room
    exact oneShotResult_fits (cipherDecryptOneShot_fits fits found room)

/-! ## A process with one key -/

private theorem sameLength_copy {Obj : Type} (o : Obj) :
    SameLength (fun (_ : Obj) (input : Bytes) => (.ok (input, o) : Except WcError (Bytes × Obj))) :=
  fun _ _ => rfl

private theorem copyBlocks_fit : BlockCallsFit copyBlocks where
  setIV _ _ := trivial
  cbc direction := by
    cases direction <;> exact sameLength_copy ()
  ecb direction := by
    cases direction <;> exact sameLength_copy ()

theorem copyCipher_fits : CipherCallsFit copyCipher where
  aesInit := trivial
  aesSetKey _ _ _ _ := trivial
  aesCtrSetKey _ _ _ _ := trivial
  aes := copyBlocks_fit
  aesCtrEncrypt := sameLength_copy ()
  aesCfbEncrypt := sameLength_copy ()
  aesCfbDecrypt := sameLength_copy ()
  aesOfbEncrypt := sameLength_copy ()
  aesOfbDecrypt := sameLength_copy ()
  des3Init := trivial
  des3SetKey _ _ _ _ := trivial
  des3 := copyBlocks_fit
  chachaSetKey _ _ := trivial
  chachaSetIV _ _ := trivial
  chachaProcess := sameLength_copy ()

/-- A process that holds an AES key for CBC with padding under the identifier 1. -/
def paddedKeyWorld : World :=
  { freshWorld with volatileKeys := [⟨1, ⟨psaKeyTypeAes, 128, psaKeyLifetimeVolatile,
      psaKeyUsageEncrypt ||| psaKeyUsageDecrypt, psaAlgCbcPkcs7, psaAlgNone, 1⟩, List.replicate 16 0⟩] }

def paddedKeyAnswers (_ : Nat) (a : KeyAct) : KeyRes a :=
  (keyHandler (posixBackend freshStore) (fun _ => calmFault) a paddedKeyWorld).1

/-- Calls in that process. -/
def paddedKeyEnv : CipherEnv Unit Unit Unit where
  getKeyData id := ((wolfpsaGetKeyData id).run answering paddedKeyAnswers ()).1
  ctxAlloc := true
  random := .ok fun _ => 0
  wc := copyCipher

private theorem paddedKeyEnv_fits : CipherEnvFits paddedKeyEnv where
  lookup _ := ⟨paddedKeyAnswers, fun _ => ⟨List.mem_cons_self, fun _ => ⟨calmFault, paddedKeyWorld, rfl⟩⟩, rfl⟩
  random := trivial
  calls := copyCipher_fits

/-- Five bytes encrypted into the 32 bytes that the macro asks for. -/
theorem output_sizes_suffice_five :
    psaCipherEncryptOutputSize psaKeyTypeAes psaAlgCbcPkcs7 5 = 32 ∧
    FitsIn 32 (psaCipherEncrypt paddedKeyEnv 1 psaAlgCbcPkcs7 (.data [1, 2, 3, 4, 5]) ⟨false, 32⟩ false
      false) ∧
    (psaCipherEncrypt paddedKeyEnv 1 psaAlgCbcPkcs7 (.data [1, 2, 3, 4, 5]) ⟨false, 32⟩ false
      false).output.length = 32 :=
  ⟨by decide, ((output_sizes_suffice paddedKeyEnv_fits).2 1 _ _ rfl).1 psaAlgCbcPkcs7
    (.data [1, 2, 3, 4, 5]) ⟨false, 32⟩ false false (by decide) (by decide), by decide⟩

end WolfPSA.Guarantees
