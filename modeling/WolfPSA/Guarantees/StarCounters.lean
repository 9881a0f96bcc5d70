import WolfPSA.Lib.Bytes
import WolfPSA.Lib.Counters
import WolfPSA.Lib.Trace
import WolfPSA.Source.Cipher
import WolfPSA.Guarantees.CipherIv

/-!
# The counter blocks of CCM* without tag

The counter of `PSA_ALG_CCM_STAR_NO_TAG` is the last two bytes of the block, behind the nonce, and
`wc_AesCtrEncrypt` increases the whole block. No call bounds the length of a message, so that a message of
more than 2^16 blocks carries into the nonce and meets the keystream of the next one. `psa_aead.c` refuses
such a length for CCM (`wolfpsa_aead_check_lengths`), `psa_cipher.c` has no such test.
-/

namespace WolfPSA.Guarantees
open Lib Source

variable {Aes Des3 ChaCha : Type}

/-! ## How wolfCrypt counts -/

/-- The keystream blocks that `length` bytes take when `left` bytes of the last block are unused. -/
def newBlocks (left length : Nat) : Nat := (length - left + (aesBlockSize - 1)) / aesBlockSize

/-- The counter of an AES object: setting the IV sets it, and every block of keystream takes its value and
increases it by one as a 128-bit number. The rest of the last block serves the next call. -/
structure CtrRegister (wc : WcCipher Aes Des3 ChaCha) where
  register : Aes → Nat
  left : Aes → Nat
  setIV : ∀ {o iv o'}, wc.aes.setIV o iv = .ok o' → register o' = beNat iv ∧ left o' = 0
  ctr : ∀ {o input output o'}, wc.aesCtrEncrypt o input = .ok (output, o') →
    register o' = (register o + newBlocks (left o) input.length) % 2 ^ 128 ∧
      left o' = left o + newBlocks (left o) input.length * aesBlockSize - input.length

/-- The counter blocks, as numbers, that an update with `length` bytes encrypts. -/
def updateCounters {wc : WcCipher Aes Des3 ChaCha} (r : CtrRegister wc) (ctx : CipherCtx Aes Des3 ChaCha)
    (length : Nat) : List Nat :=
  counters (2 ^ 128) (r.register ctx.aes) (newBlocks (r.left ctx.aes) length)

/-! ## Messages -/

/-- The arguments of a `psa_cipher_update`. -/
structure UpdateArgs where
  input : InBuf
  output : OutBuf
  overlap : Bool

def messageLength (updates : List UpdateArgs) : Nat := (updates.map (·.input.length)).sum

/-- The counter blocks that the updates of an operation encrypt, when all of them succeed. -/
def messageCounters {env : CipherEnv Aes Des3 ChaCha} (r : CtrRegister env.wc) :
    CipherCtx Aes Des3 ChaCha → List UpdateArgs → Option (List Nat)
  | _, [] => some []
  | ctx, u :: us =>
    match psaCipherUpdate env (some ctx) u.input u.output u.overlap false with
    | (⟨.success, _⟩, some ctx') => (messageCounters r ctx' us).map (updateCounters r ctx u.input.length ++ ·)
    | _ => none

/-- An operation for CCM* without tag, in either direction, that has taken its nonce. -/
def StarStarted (env : CipherEnv Aes Des3 ChaCha) (key : KeyId) (nonce : Bytes)
    (ctx : CipherCtx Aes Des3 ChaCha) : Prop :=
  ∃ usage direction fresh, cipherSetupCtx env key psaAlgCcmStarNoTag usage direction = .ok fresh ∧
    wolfpsaCipherSetIv env.wc fresh (.data nonce) = .ok ctx

/-- The first counter block of a nonce. -/
def starCounter (nonce : Bytes) : Nat := 2 ^ 120 + beNat nonce * 2 ^ 16 + 1

section

variable {env : CipherEnv Aes Des3 ChaCha} {key : KeyId} {nonce : Bytes} {ctx : CipherCtx Aes Des3 ChaCha}

private theorem beNat_starBlock {nonce : Bytes} (length : nonce.length = 13) :
    beNat ([0x01] ++ nonce ++ [0x00, 0x01]) = starCounter nonce := by
  have front : beNat [(0x01 : Byte)] = 1 := by decide
  have last : beNat [(0x00 : Byte), 0x01] = 1 := by decide
  have two : [(0x00 : Byte), 0x01].length = 2 := rfl
  unfold starCounter
  rw [beNat_append, beNat_append, front, last, two, length]
  omega

theorem StarStarted.spec (started : StarStarted env key nonce ctx) (r : CtrRegister env.wc) :
    ctx.alg = psaAlgCcmStarNoTag ∧ nonce.length = 13 ∧ r.register ctx.aes = starCounter nonce ∧
      r.left ctx.aes = 0 := by
  obtain ⟨usage, direction, fresh, granted, accepted⟩ := started
  obtain ⟨attributes, data, -, -, ⟨_, _, _, _, made⟩, -⟩ := cipherSetupCtx_ok granted
  have star : fresh.alg = psaAlgCcmStarNoTag := by
    rw [made]
    rfl
  unfold wolfpsaCipherSetIv at accepted
  rw [star, if_neg (by decide), if_pos (by decide)] at accepted
  obtain ⟨-, accepted⟩ := require_bind_ok_iff.mp accepted
  obtain ⟨-, accepted⟩ := require_bind_ok_iff.mp accepted
  obtain ⟨-, accepted⟩ := require_bind_ok_iff.mp accepted
  obtain ⟨thirteen, accepted⟩ := require_bind_ok_iff.mp accepted
  have length : nonce.length = 13 := beq_iff_eq.mp thirteen
  obtain ⟨aes, set, ended⟩ := except_bind_ok accepted
  obtain ⟨counter, none⟩ := r.setIV (wcCall_ok_iff.mp set)
  cases ended
  exact ⟨rfl, length, counter.trans (beNat_starBlock length), none⟩

/-- An update of the operation is a call of `wc_AesCtrEncrypt` with its input. -/
private theorem psaCipherUpdate_star (star : ctx.alg = psaAlgCcmStarNoTag) {u : UpdateArgs} {bytes : Bytes}
    {ctx' : CipherCtx Aes Des3 ChaCha}
    (updated : psaCipherUpdate env (some ctx) u.input u.output u.overlap false =
      (⟨.success, bytes⟩, some ctx')) :
    (u.input.length = 0 ∧ ctx' = ctx) ∨
      (u.input.bytes.length = u.input.length ∧ ∃ aes,
        env.wc.aesCtrEncrypt ctx.aes u.input.bytes = .ok (bytes, aes) ∧ ctx' = { ctx with aes := aes }) := by
  have done : cipherUpdate env.wc ctx u.input u.output u.overlap = .ok (bytes, ctx') := by
    unfold psaCipherUpdate at updated
    rw [if_neg (by decide)] at updated
    dsimp only at updated
    cases result : cipherUpdate env.wc ctx u.input u.output u.overlap with
    | error status =>
      rw [result] at updated
      exact absurd (congrArg (·.1.status) updated) status.property
    | ok r =>
      rw [result] at updated
      cases updated
      rfl
  have readable : u.input.length = 0 ∨ u.input.bytes.length = u.input.length := by
    unfold cipherUpdate at done
    have given := (require_bind_ok_iff.mp done).1
    cases same : u.input with
    | null n =>
      rw [same] at given
      exact .inl (by simpa [InBuf.isNull, InBuf.length] using given)
    | data bytes => exact .inr rfl
  rcases cipherUpdate_ok done with ⟨empty, same, -⟩ | ⟨positive, done⟩
  · exact .inl ⟨empty, same⟩
  · refine .inr ⟨by omega, ?_⟩
    unfold updateInput at done
    rw [star, if_neg (by decide), if_neg (by decide), if_pos rfl] at done
    unfold updateAesStream at done
    obtain ⟨-, done⟩ := require_bind_ok_iff.mp done
    obtain ⟨-, done⟩ := require_bind_ok_iff.mp done
    obtain ⟨⟨output, aes⟩, called, ended⟩ := except_bind_ok done
    cases ended
    exact ⟨aes, wcCall_ok_iff.mp called, rfl⟩

/-- The blocks of a message are counted on from the object, whatever its updates are. -/
theorem messageCounters_eq (r : CtrRegister env.wc) (star : ctx.alg = psaAlgCcmStarNoTag)
    (few : r.left ctx.aes < aesBlockSize) {updates : List UpdateArgs} {used : List Nat}
    (accepted : messageCounters r ctx updates = some used) :
    used = counters (2 ^ 128) (r.register ctx.aes) (newBlocks (r.left ctx.aes) (messageLength updates)) := by
  induction updates generalizing ctx used with
  | nil =>
    cases accepted
    have none : newBlocks (r.left ctx.aes) 0 = 0 := by
      unfold newBlocks
      rw [Nat.zero_sub]
      decide
    show [] = counters _ _ (newBlocks (r.left ctx.aes) 0)
    rw [none]
    rfl
  | cons u us ih =>
    unfold messageCounters at accepted
    split at accepted
    case h_2 => cases accepted
    rename_i bytes ctx' updated
    obtain ⟨rest, later, rfl⟩ := Option.map_eq_some_iff.mp accepted
    have total : messageLength (u :: us) = u.input.length + messageLength us := by
      unfold messageLength
      rw [List.map_cons, List.sum_cons]
    rw [total]
    rcases psaCipherUpdate_star star updated with ⟨empty, rfl⟩ | ⟨length, aes, called, rfl⟩
    · have none : newBlocks (r.left ctx'.aes) 0 = 0 := by
        unfold newBlocks
        rw [Nat.zero_sub]
        decide
      unfold updateCounters
      rw [ih star few later, empty, none, Nat.zero_add]
      rfl
    · obtain ⟨counted, unused⟩ := r.ctr called
      rw [length] at counted unused
      have below : r.left aes < aesBlockSize := by
        rw [unused]
        unfold newBlocks aesBlockSize at *
        omega
      have split : newBlocks (r.left ctx.aes) (u.input.length + messageLength us) =
          newBlocks (r.left ctx.aes) u.input.length + newBlocks (r.left aes) (messageLength us) := by
        rw [unused]
        unfold newBlocks aesBlockSize at *
        omega
      have behind := ih (by exact star) (by exact below) later
      dsimp only at behind
      rw [split, counters_add, behind, counted, counters_mod]
      rfl

end

/-! ## Two messages -/

/-- The blocks that a message takes. -/
def blocksOf (length : Nat) : Nat := newBlocks 0 length

/-- Neither message is longer than the way from its first counter block to that of the other nonce, or one
of them is empty; and none goes through all 2^128 counter blocks. -/
def KeepApart (nonce₁ nonce₂ : Bytes) (length₁ length₂ : Nat) : Prop :=
  blocksOf length₁ ≤ 2 ^ 128 ∧ blocksOf length₂ ≤ 2 ^ 128 ∧
    (length₁ = 0 ∨ length₂ = 0 ∨
      blocksOf length₁ ≤ gap (2 ^ 128) (starCounter nonce₁) (starCounter nonce₂) ∧
        blocksOf length₂ ≤ gap (2 ^ 128) (starCounter nonce₂) (starCounter nonce₁))

private theorem blocksOf_eq_zero {length : Nat} : blocksOf length = 0 ↔ length = 0 := by
  unfold blocksOf newBlocks aesBlockSize
  omega

private theorem starCounter_lt {nonce : Bytes} (length : nonce.length = 13) :
    starCounter nonce < 2 ^ 128 := by
  have bound := beNat_lt nonce
  rw [length] at bound
  unfold starCounter
  omega

private theorem starCounter_ne {nonce₁ nonce₂ : Bytes} (length₁ : nonce₁.length = 13)
    (length₂ : nonce₂.length = 13) (distinct : nonce₁ ≠ nonce₂) : starCounter nonce₁ ≠ starCounter nonce₂ := by
  intro same
  refine distinct (beNat_injective (length₁.trans length₂.symm) ?_)
  unfold starCounter at same
  omega

/-- From a nonce to another one it is 2^16 blocks at least. -/
private theorem le_gap {nonce₁ nonce₂ : Bytes} (length₁ : nonce₁.length = 13) (length₂ : nonce₂.length = 13)
    (distinct : nonce₁ ≠ nonce₂) :
    2 ^ 16 ≤ gap (2 ^ 128) (starCounter nonce₁) (starCounter nonce₂) := by
  have other := starCounter_ne length₁ length₂ distinct
  have left := starCounter_lt length₁
  have right := starCounter_lt length₂
  unfold gap starCounter at *
  omega

variable {env : CipherEnv Aes Des3 ChaCha} {key : KeyId} {nonce₁ nonce₂ : Bytes}
  {ctx₁ ctx₂ : CipherCtx Aes Des3 ChaCha} {updates₁ updates₂ : List UpdateArgs} {used₁ used₂ : List Nat}

private theorem StarStarted.used {ctx : CipherCtx Aes Des3 ChaCha} {nonce : Bytes} {used : List Nat}
    {updates : List UpdateArgs} (r : CtrRegister env.wc) (started : StarStarted env key nonce ctx)
    (accepted : messageCounters r ctx updates = some used) :
    used = counters (2 ^ 128) (starCounter nonce) (blocksOf (messageLength updates)) := by
  obtain ⟨star, -, counter, none⟩ := started.spec r
  have all := messageCounters_eq r star (by rw [none]; decide) accepted
  rwa [counter, none] at all

/-- The counter blocks of two messages under distinct nonces, and those of each message, are distinct exactly
under the condition on the lengths; messages of 2^16 blocks (1 MiB) always satisfy it. -/
theorem star_keystreams_separate_iff (r : CtrRegister env.wc) (distinct : nonce₁ ≠ nonce₂)
    (started₁ : StarStarted env key nonce₁ ctx₁) (started₂ : StarStarted env key nonce₂ ctx₂)
    (accepted₁ : messageCounters r ctx₁ updates₁ = some used₁)
    (accepted₂ : messageCounters r ctx₂ updates₂ = some used₂) :
    (used₁.Disjoint used₂ ∧ used₁.Nodup ∧ used₂.Nodup ↔
      KeepApart nonce₁ nonce₂ (messageLength updates₁) (messageLength updates₂)) ∧
    (messageLength updates₁ ≤ 2 ^ 20 → messageLength updates₂ ≤ 2 ^ 20 →
      KeepApart nonce₁ nonce₂ (messageLength updates₁) (messageLength updates₂)) := by
  obtain ⟨-, length₁, -, -⟩ := started₁.spec r
  obtain ⟨-, length₂, -, -⟩ := started₂.spec r
  have left := starCounter_lt length₁
  have right := starCounter_lt length₂
  have other := starCounter_ne length₁ length₂ distinct
  constructor
  · rw [started₁.used r accepted₁, started₂.used r accepted₂, counters_disjoint_iff left right other,
      counters_nodup_iff (by decide), counters_nodup_iff (by decide), blocksOf_eq_zero, blocksOf_eq_zero]
    exact ⟨fun ⟨apart, once₁, once₂⟩ => ⟨once₁, once₂, apart⟩,
      fun ⟨once₁, once₂, apart⟩ => ⟨apart, once₁, once₂⟩⟩
  · intro short₁ short₂
    have far := le_gap length₁ length₂ distinct
    have back := le_gap length₂ length₁ distinct.symm
    have few₁ : blocksOf (messageLength updates₁) ≤ 2 ^ 16 := by
      unfold blocksOf newBlocks aesBlockSize
      omega
    have few₂ : blocksOf (messageLength updates₂) ≤ 2 ^ 16 := by
      unfold blocksOf newBlocks aesBlockSize
      omega
    exact ⟨by omega, by omega, .inr (.inr ⟨by omega, by omega⟩)⟩

/-! ## A message that reaches the next nonce -/

/-- An AES object that is its counter and the unused bytes of its last block. -/
def countingCipher : WcCipher (Nat × Nat) Unit Unit where
  aesZero := (0, 0)
  des3Zero := ()
  chachaZero := ()
  aesInit := .ok (0, 0)
  aesSetKey _ _ iv _ := .ok (beNat iv, 0)
  aesCtrSetKey _ _ iv _ := .ok (beNat iv, 0)
  aes := ⟨fun _ iv => .ok (beNat iv, 0), fun o input => .ok (input, o), fun o input => .ok (input, o),
    fun o input => .ok (input, o), fun o input => .ok (input, o)⟩
  aesCtrEncrypt o input := .ok (input, (o.1 + newBlocks o.2 input.length) % 2 ^ 128,
    o.2 + newBlocks o.2 input.length * aesBlockSize - input.length)
  aesCfbEncrypt o input := .ok (input, o)
  aesCfbDecrypt o input := .ok (input, o)
  aesOfbEncrypt o input := .ok (input, o)
  aesOfbDecrypt o input := .ok (input, o)
  des3Init := .ok ()
  des3SetKey _ _ _ _ := .ok ()
  des3 := copyBlocks
  chachaSetKey _ _ := .ok ()
  chachaSetIV _ _ := .ok ()
  chachaProcess _ input := .ok (input, ())

/-- An AES key for CCM* without tag. -/
def starEnv : CipherEnv (Nat × Nat) Unit Unit where
  getKeyData _ := .ok (⟨psaKeyTypeAes, 128, psaKeyLifetimeVolatile, psaKeyUsageEncrypt,
    psaAlgCcmStarNoTag, psaAlgNone, 1⟩, List.replicate 16 0)
  ctxAlloc := true
  random := .ok fun _ => 0
  wc := countingCipher

def countingRegister : CtrRegister starEnv.wc where
  register o := o.1
  left o := o.2
  setIV set := by
    cases set
    exact ⟨rfl, rfl⟩
  ctr called := by
    cases called
    exact ⟨rfl, rfl⟩

/-- The operation after `psa_cipher_encrypt_setup` and `psa_cipher_set_iv`. -/
def starCtx (nonce : Bytes) : CipherCtx (Nat × Nat) Unit Unit where
  alg := psaAlgCcmStarNoTag
  keyType := psaKeyTypeAes
  keyBits := 128
  direction := .encryption
  ivSet := true
  ivAttempted := true
  isChacha := false
  isDes3 := false
  blockSize := aesBlockSize
  iv := [0x01] ++ nonce ++ [0x00, 0x01]
  partialBlock := []
  aes := (beNat ([0x01] ++ nonce ++ [0x00, 0x01]), 0)
  des3 := ()
  chacha := ()

def nonceZero : Bytes := List.replicate 13 0
def nonceOne : Bytes := List.replicate 12 0 ++ [1]

private theorem starStarted_zero : StarStarted starEnv 1 nonceZero (starCtx nonceZero) :=
  ⟨psaKeyUsageEncrypt, .encryption, _, rfl, rfl⟩

private theorem starStarted_one : StarStarted starEnv 1 nonceOne (starCtx nonceOne) :=
  ⟨psaKeyUsageEncrypt, .encryption, _, rfl, rfl⟩

/-- One update with `n` zero bytes. -/
def zeroMessage (n : Nat) : List UpdateArgs := [⟨.data (List.replicate n 0), ⟨false, n⟩, false⟩]

private theorem messageLength_zeroMessage (n : Nat) : messageLength (zeroMessage n) = n := by
  simp [messageLength, zeroMessage, InBuf.length]

private theorem messageCounters_zeroMessage (nonce : Bytes) {n : Nat} (positive : 0 < n) (few : n ≤ uint32Max) :
    (messageCounters countingRegister (starCtx nonce) (zeroMessage n)).isSome = true := by
  have length : (InBuf.data (List.replicate n (0 : Byte))).length = n := List.length_replicate
  have word : wolfpsaCheckWord32Length n = .success := if_neg (by omega)
  have updated : ∃ ctx', cipherUpdate starEnv.wc (starCtx nonce) (.data (List.replicate n 0)) ⟨false, n⟩
      false = .ok (List.replicate n 0, ctx') := by
    unfold cipherUpdate
    rw [length, word, if_neg (by omega)]
    unfold updateInput updateAesStream
    rw [InBuf.bytes, List.length_replicate, decide_eq_true (Nat.le_refl n)]
    exact ⟨_, rfl⟩
  obtain ⟨ctx', updated⟩ := updated
  unfold zeroMessage messageCounters psaCipherUpdate
  dsimp only
  rw [updated]
  rfl

/-- One byte more than 1 MiB under a nonce takes the first counter block of the next nonce. -/
theorem star_keystream_reused :
    ¬∀ nonce₁ nonce₂ ctx₁ ctx₂ updates₁ updates₂ used₁ used₂, nonce₁ ≠ nonce₂ →
      StarStarted starEnv 1 nonce₁ ctx₁ → StarStarted starEnv 1 nonce₂ ctx₂ →
      messageCounters countingRegister ctx₁ updates₁ = some used₁ →
      messageCounters countingRegister ctx₂ updates₂ = some used₂ →
      used₁.Disjoint used₂ ∧ used₁.Nodup ∧ used₂.Nodup := by
  intro separate
  obtain ⟨used₁, accepted₁⟩ := Option.isSome_iff_exists.mp
    (messageCounters_zeroMessage nonceZero (n := 2 ^ 20 + 1) (by decide) (by decide))
  obtain ⟨used₂, accepted₂⟩ := Option.isSome_iff_exists.mp
    (messageCounters_zeroMessage nonceOne (n := 1) (by decide) (by decide))
  have apart := (separate nonceZero nonceOne _ _ _ _ _ _ (by decide) starStarted_zero starStarted_one
    accepted₁ accepted₂).1
  rw [starStarted_zero.used _ accepted₁, starStarted_one.used _ accepted₂, messageLength_zeroMessage,
    messageLength_zeroMessage] at apart
  exact not_disjoint_of_gap_lt (by decide) (by decide) (by decide) (by decide) apart

/-- Two messages of one byte. -/
theorem star_keystreams_separate_iff_short :
    (∃ used₁ used₂,
      messageCounters countingRegister (starCtx nonceZero) (zeroMessage 1) = some used₁ ∧
      messageCounters countingRegister (starCtx nonceOne) (zeroMessage 1) = some used₂ ∧
      used₁.Disjoint used₂ ∧ used₁.Nodup ∧ used₂.Nodup) := by
  obtain ⟨used₁, accepted₁⟩ := Option.isSome_iff_exists.mp
    (messageCounters_zeroMessage nonceZero (n := 1) (by decide) (by decide))
  obtain ⟨used₂, accepted₂⟩ := Option.isSome_iff_exists.mp
    (messageCounters_zeroMessage nonceOne (n := 1) (by decide) (by decide))
  have exact := star_keystreams_separate_iff countingRegister (by decide) starStarted_zero starStarted_one
    accepted₁ accepted₂
  exact ⟨used₁, used₂, accepted₁, accepted₂, exact.1.mpr (exact.2 (by decide) (by decide))⟩

end WolfPSA.Guarantees
