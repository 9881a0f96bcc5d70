import WolfPSA.Guarantees.CipherChunks

/-!
# CBC with PKCS #7 padding is exact

Decryption inverts encryption, however both are cut into updates; and a ciphertext is accepted exactly when
it is whole blocks whose decryption ends in a padding, with the text before the padding as the output.
Everything else ends with `PSA_ERROR_INVALID_PADDING`.
-/

namespace WolfPSA.Guarantees
open Lib Source

variable {Aes Des3 ChaCha : Type} {n : Nat} {f g : Bytes → Bytes} {iv input : Bytes}

/-! ## The textbook mode -/

/-- CBC decryption of the full blocks of a ciphertext. -/
def cbcDecryption (n : Nat) (g : Bytes → Bytes) (iv ciphertext : Bytes) : Bytes :=
  (blockwise n (cbcDecryptStep g) (ciphertext.length / n) iv ciphertext).1

/-- The ciphertext is whole blocks, one at least, and decrypts to a padded text. -/
def WellPadded (n : Nat) (g : Bytes → Bytes) (iv ciphertext text : Bytes) : Prop :=
  ciphertext ≠ [] ∧ ciphertext.length % n = 0 ∧ PaddedTo n text (cbcDecryption n g iv ciphertext)

private theorem modeStep_padded (direction : CipherDirection) (f : Bytes → Bytes) :
    modeStep psaAlgCbcPkcs7 direction f = cbcStep direction f := if_neg (by decide)

private theorem textbookMode_encrypt :
    textbookMode psaAlgCbcPkcs7 .encryption n f iv input =
      ((blockwise n (cbcEncryptStep f) (input.length / n + 1) iv
        (input ++ pkcs7Padding n input.length)).1, .success) := by
  unfold textbookMode
  rw [if_pos rfl, modeStep_padded]
  rfl

/-- The decryption of whole blocks is that of all but the last, and the last. -/
private theorem cbcDecryption_last (positive : 0 < n) (some : input ≠ []) (blocks : input.length % n = 0) :
    cbcDecryption n g iv input =
      (blockwise n (cbcDecryptStep g) ((input.length - 1) / n) iv input).1 ++
        (cbcDecryptStep g (blockwise n (cbcDecryptStep g) ((input.length - 1) / n) iv input).2
          (input.drop ((input.length - 1) / n * n))).1 := by
  have nonempty : 0 < input.length := List.length_pos_iff.mpr some
  have parts : input.length / n * n + input.length % n = input.length := Nat.div_add_mod' _ _
  have count : input.length / n = (input.length - 1) / n + 1 := by
    obtain ⟨k, many⟩ : ∃ k, input.length / n = k + 1 :=
      Nat.exists_eq_succ_of_ne_zero fun zero => by rw [zero] at parts; omega
    rw [many, Nat.succ_mul] at parts
    have before : (input.length - 1) / n = k := by
      rw [show input.length - 1 = (n - 1) + n * k by rw [Nat.mul_comm n]; omega,
        Nat.add_mul_div_left _ _ positive, Nat.div_eq_of_lt (by omega), Nat.zero_add]
    rw [many, before]
  have last : (input.drop ((input.length - 1) / n * n)).length = n := by
    rw [count, Nat.succ_mul] at parts
    rw [List.length_drop]
    omega
  unfold cbcDecryption
  rw [count, blockwise_add, blockwise_one _ last]

/-- Only whole blocks with a padding decrypt, to the text before the padding. -/
private theorem textbookMode_decrypt (positive : 0 < n) (small : n < 2 ^ 8)
    (whole : ∀ block, block.length = n → (g block).length = n) (held : iv.length = n) :
    (∀ text, textbookMode psaAlgCbcPkcs7 .decryption n g iv input = (text, .success) ↔
      WellPadded n g iv input text) ∧
    ((textbookMode psaAlgCbcPkcs7 .decryption n g iv input).2 = .success ∨
      (textbookMode psaAlgCbcPkcs7 .decryption n g iv input).2 = .invalidPadding) := by
  unfold textbookMode
  rw [if_pos rfl, modeStep_padded]
  dsimp only [cbcStep]
  by_cases odd : input.length = 0 ∨ input.length % n ≠ 0
  · rw [if_pos odd]
    refine ⟨fun text => ⟨fun same => absurd (congrArg Prod.snd same) nofun, ?_⟩, .inr rfl⟩
    rintro ⟨some, blocks, -⟩
    rcases odd with empty | ragged
    · exact absurd (List.eq_nil_of_length_eq_zero empty) some
    · exact absurd blocks ragged
  · rw [if_neg odd]
    have some : input ≠ [] := fun none => odd (.inl (by rw [none]; rfl))
    have blocks : input.length % n = 0 := by
      by_contra ragged
      exact odd (.inr ragged)
    have split : cbcDecryption n g iv input = _ := cbcDecryption_last positive some blocks
    have enough : (input.length - 1) / n * n ≤ input.length := by
      have bound := Nat.div_mul_le_self (input.length - 1) n
      omega
    have register : (blockwise n (cbcDecryptStep g) ((input.length - 1) / n) iv input).2.length = n :=
      blockwise_state (fun r : Bytes => r.length = n) (fun _ _ sized _ => sized) enough held
    have last : (input.drop ((input.length - 1) / n * n)).length = n := by
      by_contra short
      rw [List.length_drop] at short
      have ends := (heldBack_ne_iff positive input.length).mp short
      exact odd ends
    have sized : (cbcDecryptStep g (blockwise n (cbcDecryptStep g) ((input.length - 1) / n) iv input).2
        (input.drop ((input.length - 1) / n * n))).1.length = n :=
      zipWith_xor_length (whole _ last) register
    generalize blockwise n (cbcDecryptStep g) ((input.length - 1) / n) iv input = body at split sized ⊢
    have accepts (text : Bytes) : WellPadded n g iv input text ↔
        ∃ rest, text = body.1 ++ rest ∧ pkcs7Unpad n (cbcDecryptStep g body.2
          (input.drop ((input.length - 1) / n * n))).1 = Option.some rest := by
      unfold WellPadded
      rw [split, paddedTo_append_iff sized]
      constructor
      · rintro ⟨-, -, rest, same, padded⟩
        exact ⟨rest, same, (pkcs7Unpad_iff small sized).mpr padded⟩
      · rintro ⟨rest, same, unpadded⟩
        exact ⟨some, blocks, rest, same, (pkcs7Unpad_iff small sized).mp unpadded⟩
    cases unpadded : pkcs7Unpad n (cbcDecryptStep g body.2
        (input.drop ((input.length - 1) / n * n))).1 with
    | none =>
      refine ⟨fun text => ⟨fun same => absurd (congrArg Prod.snd same) nofun, fun padded => ?_⟩,
        .inr rfl⟩
      obtain ⟨rest, -, found⟩ := (accepts text).mp padded
      rw [unpadded] at found
      cases found
    | some rest =>
      refine ⟨fun text => ⟨fun same => ?_, fun padded => ?_⟩, .inl rfl⟩
      · exact (accepts text).mpr ⟨rest, (congrArg Prod.fst same).symm, unpadded⟩
      · obtain ⟨rest', same, found⟩ := (accepts text).mp padded
        rw [unpadded] at found
        cases found
        rw [same]

private theorem padded_blocks (positive : 0 < n) (input : Bytes) :
    (input ++ pkcs7Padding n input.length).length = (input.length / n + 1) * n := by
  have parts : input.length / n * n + input.length % n = input.length := Nat.div_add_mod' _ _
  have below := Nat.mod_lt input.length positive
  rw [List.length_append, pkcs7Padding, List.length_replicate, Nat.succ_mul]
  omega

private theorem textbookMode_encrypt_length (positive : 0 < n)
    (whole : ∀ block, block.length = n → (f block).length = n) (held : iv.length = n) :
    (textbookMode psaAlgCbcPkcs7 .encryption n f iv input).1.length = (input.length / n + 1) * n := by
  rw [textbookMode_encrypt]
  exact blockwise_cbcEncrypt_length whole held (padded_blocks positive input)

/-- What has been encrypted is well padded, with the plaintext as its text. -/
private theorem encrypted_wellPadded (positive : 0 < n)
    (whole : ∀ block, block.length = n → (f block).length = n)
    (inverse : ∀ block, block.length = n → g (f block) = block) (held : iv.length = n) :
    WellPadded n g iv (textbookMode psaAlgCbcPkcs7 .encryption n f iv input).1 input := by
  have length : (textbookMode psaAlgCbcPkcs7 .encryption n f iv input).1.length =
      (input.length / n + 1) * n := textbookMode_encrypt_length positive whole held
  refine ⟨?_, ?_, ?_⟩
  · rw [← List.length_pos_iff, length, Nat.succ_mul]
    omega
  · rw [length]
    exact Nat.mul_mod_left _ _
  · unfold cbcDecryption
    rw [length, Nat.mul_div_cancel _ positive, textbookMode_encrypt,
      blockwise_cbcDecrypt_encrypt whole inverse held (padded_blocks positive input)]
    exact pkcs7Padding_paddedTo positive input

/-! ## Operations -/

/-- The block ciphers are permutations: each direction undoes the other on whole blocks. -/
structure BlockPermutations (aesCipher desCipher : CipherDirection → Bytes → Bytes → Bytes) : Prop where
  aes : ∀ key block, block.length = aesBlockSize →
    aesCipher .decryption key (aesCipher .encryption key block) = block
  des3 : ∀ key block, block.length = desBlockSize →
    desCipher .decryption key (desCipher .encryption key block) = block

/-- A new operation of CBC with padding, its updates and its finish, all with room for their output. -/
structure PaddedCalls (env : CipherEnv Aes Des3 ChaCha) (direction : CipherDirection) (id : KeyId)
    (attributes : KeyAttributes) (key iv : Bytes) (ctx : CipherCtx Aes Des3 ChaCha) (chunks : List Chunk)
    (last : OutBuf) : Prop where
  found : env.getKeyData id = .ok (attributes, key)
  begun : Begins env direction id psaAlgCbcPkcs7 iv ctx
  sound : ∀ c ∈ chunks, c.Sound
  room : RoomFor (blockLength (attributes.type == psaKeyTypeDes))
    (modeCount psaAlgCbcPkcs7 direction (blockLength (attributes.type == psaKeyTypeDes))) 0 chunks
  lastRoom : LastSound psaAlgCbcPkcs7 (blockLength (attributes.type == psaKeyTypeDes)) last

/-- The input of all updates. -/
def wholeInput (chunks : List Chunk) : Bytes := (chunks.map (·.input.bytes)).flatten

section

variable {env : CipherEnv Aes Des3 ChaCha} {direction : CipherDirection} {id : KeyId}
  {attributes : KeyAttributes} {key iv : Bytes} {ctx : CipherCtx Aes Des3 ChaCha} {chunks : List Chunk}
  {last : OutBuf} {aesCipher desCipher : CipherDirection → Bytes → Bytes → Bytes}

private theorem PaddedCalls.computes (laws : TextbookCipher env.wc aesCipher desCipher)
    (calls : PaddedCalls env direction id attributes key iv ctx chunks last) :
    updateAllAndFinish env (some ctx) chunks last =
      textbookMode psaAlgCbcPkcs7 direction (blockLength (attributes.type == psaKeyTypeDes))
        (blockFunction aesCipher desCipher (attributes.type == psaKeyTypeDes) direction key) iv
        (wholeInput chunks) :=
  updateAllAndFinish_textbook laws rfl calls.found calls.begun calls.sound calls.room calls.lastRoom

private theorem PaddedCalls.iv_length (laws : TextbookCipher env.wc aesCipher desCipher)
    (calls : PaddedCalls env direction id attributes key iv ctx chunks last) :
    iv.length = blockLength (attributes.type == psaKeyTypeDes) :=
  (begins_inMode laws rfl calls.found calls.begun).1.whole (by decide)

private theorem BlockPermutations.inverse (permutes : BlockPermutations aesCipher desCipher)
    (isDes3 : Bool) (key : Bytes) {block : Bytes} (sized : block.length = blockLength isDes3) :
    blockFunction aesCipher desCipher isDes3 .decryption key
      (blockFunction aesCipher desCipher isDes3 .encryption key block) = block := by
  cases isDes3 with
  | true => exact permutes.des3 (key.take 24) block sized
  | false => exact permutes.aes key block sized

private theorem blockLength_small (isDes3 : Bool) : blockLength isDes3 < 2 ^ 8 := by
  cases isDes3 <;> decide

end

/-- Decryption of an encryption returns the plaintext, both in any sound updates. A ciphertext in any
sound updates decrypts exactly when it is whole blocks, one at least, whose CBC decryption is a text with
`k` bytes of value `k` behind it, `k` from 1 to the block size; the output is that text. Every other
ciphertext ends with `PSA_ERROR_INVALID_PADDING`. -/
theorem padding_is_exact {aesCipher desCipher : CipherDirection → Bytes → Bytes → Bytes}
    (permutes : BlockPermutations aesCipher desCipher) :
    (∀ (env env' : CipherEnv Aes Des3 ChaCha), TextbookCipher env.wc aesCipher desCipher →
      TextbookCipher env'.wc aesCipher desCipher →
      ∀ (id id' : KeyId) (attributes attributes' : KeyAttributes) (key iv : Bytes)
        (ctx ctx' : CipherCtx Aes Des3 ChaCha) (chunks chunks' : List Chunk) (last last' : OutBuf),
        attributes'.type = attributes.type →
        PaddedCalls env .encryption id attributes key iv ctx chunks last →
        PaddedCalls env' .decryption id' attributes' key iv ctx' chunks' last' →
        (updateAllAndFinish env (some ctx) chunks last).2 = .success ∧
        (wholeInput chunks' = (updateAllAndFinish env (some ctx) chunks last).1 →
          updateAllAndFinish env' (some ctx') chunks' last' = (wholeInput chunks, .success))) ∧
    ∀ (env : CipherEnv Aes Des3 ChaCha), TextbookCipher env.wc aesCipher desCipher →
      ∀ (id : KeyId) (attributes : KeyAttributes) (key iv : Bytes) (ctx : CipherCtx Aes Des3 ChaCha)
        (chunks : List Chunk) (last : OutBuf),
        PaddedCalls env .decryption id attributes key iv ctx chunks last →
        (∀ text, updateAllAndFinish env (some ctx) chunks last = (text, .success) ↔
          WellPadded (blockLength (attributes.type == psaKeyTypeDes))
            (blockFunction aesCipher desCipher (attributes.type == psaKeyTypeDes) .decryption key) iv
            (wholeInput chunks) text) ∧
        ((updateAllAndFinish env (some ctx) chunks last).2 = .success ∨
          (updateAllAndFinish env (some ctx) chunks last).2 = .invalidPadding) := by
  constructor
  · intro env env' laws laws' id id' attributes attributes' key iv ctx ctx' chunks chunks' last last'
      kind encrypts decrypts
    have whole {direction : CipherDirection} (block : Bytes)
        (sized : block.length = blockLength (attributes.type == psaKeyTypeDes)) :=
      blockFunction_whole laws direction key (attributes.type == psaKeyTypeDes) sized
    have held := encrypts.iv_length laws
    have opened := decrypts.computes laws'
    rw [kind] at opened
    refine ⟨by rw [encrypts.computes laws, textbookMode_encrypt], fun given => ?_⟩
    rw [encrypts.computes laws] at given
    rw [opened, given]
    refine ((textbookMode_decrypt (blockLength_pos _) (blockLength_small _) whole held).1 _).mpr ?_
    exact encrypted_wellPadded (blockLength_pos _) whole
      (fun block sized => permutes.inverse _ key sized) held
  · intro env laws id attributes key iv ctx chunks last decrypts
    rw [decrypts.computes laws]
    exact textbookMode_decrypt (blockLength_pos _) (blockLength_small _)
      (fun block sized => blockFunction_whole laws .decryption key _ sized) (decrypts.iv_length laws)

/-- The block function of the sample cipher is its own inverse. -/
theorem addKeyByte_permutes : BlockPermutations addKeyByte addKeyByte := by
  have twice (key block : Bytes) :
      addKeyByte .decryption key (addKeyByte .encryption key block) = block := by
    unfold addKeyByte
    rw [List.map_map]
    conv_rhs => rw [← List.map_id block]
    refine List.map_congr_left fun b _ => ?_
    simp
  exact ⟨fun key block _ => twice key block, fun key block _ => twice key block⟩

private theorem sample_begins (direction : CipherDirection) :
    Begins (modeKeyEnv psaAlgCbcPkcs7) direction 1 psaAlgCbcPkcs7 (List.replicate 16 0)
      (modeKeyCtx psaAlgCbcPkcs7 direction true) := by
  cases direction with
  | encryption =>
    exact .setIv (modeKeyCtx psaAlgCbcPkcs7 .encryption false) _ (.data (List.replicate 16 0)) rfl rfl
  | decryption =>
    exact .setIv (modeKeyCtx psaAlgCbcPkcs7 .decryption false) _ (.data (List.replicate 16 0)) rfl rfl

/-- Seventeen bytes encrypted by the sample cipher, in pieces. -/
def seventeenEncrypted : Bytes :=
  (updateAllAndFinish (modeKeyEnv psaAlgCbcPkcs7) (some (modeKeyCtx psaAlgCbcPkcs7 .encryption true))
    seventeenBytes ⟨false, 16⟩).1

theorem padding_is_exact_seventeen :
    updateAllAndFinish (modeKeyEnv psaAlgCbcPkcs7) (some (modeKeyCtx psaAlgCbcPkcs7 .decryption true))
        [⟨.data (seventeenEncrypted.take 1), ⟨false, 16⟩, false⟩,
          ⟨.data (seventeenEncrypted.drop 1), ⟨false, 16⟩, false⟩] ⟨false, 16⟩ =
      (7 :: List.replicate 16 1, .success) := by
  have room : LastSound psaAlgCbcPkcs7 16 ⟨false, 16⟩ := ⟨nofun, fun _ => Nat.le_refl 16⟩
  have sound (bytes : Bytes) (fits : bytes.length ≤ uint32Max) :
      (⟨.data bytes, ⟨false, 16⟩, false⟩ : Chunk).Sound := ⟨nofun, nofun, fits, rfl⟩
  have encrypts : PaddedCalls (modeKeyEnv psaAlgCbcPkcs7) .encryption 1 (modeKeyAttributes psaAlgCbcPkcs7)
      (List.replicate 16 0x5a) (List.replicate 16 0) (modeKeyCtx psaAlgCbcPkcs7 .encryption true)
      seventeenBytes ⟨false, 16⟩ := by
    refine ⟨rfl, sample_begins .encryption, ?_, ⟨by decide, by decide, by decide, trivial⟩, room⟩
    simp only [seventeenBytes, List.mem_cons, List.not_mem_nil, or_false, forall_eq_or_imp, forall_eq]
    exact ⟨sound _ (by decide), sound _ (by decide), sound _ (by decide)⟩
  have decrypts : PaddedCalls (modeKeyEnv psaAlgCbcPkcs7) .decryption 1 (modeKeyAttributes psaAlgCbcPkcs7)
      (List.replicate 16 0x5a) (List.replicate 16 0) (modeKeyCtx psaAlgCbcPkcs7 .decryption true)
      [⟨.data (seventeenEncrypted.take 1), ⟨false, 16⟩, false⟩,
        ⟨.data (seventeenEncrypted.drop 1), ⟨false, 16⟩, false⟩] ⟨false, 16⟩ := by
    refine ⟨rfl, sample_begins .decryption, ?_, ⟨by decide, by decide, trivial⟩, room⟩
    simp only [List.mem_cons, List.not_mem_nil, or_false, forall_eq_or_imp, forall_eq]
    exact ⟨sound _ (by decide), sound _ (by decide)⟩
  have given : wholeInput [⟨.data (seventeenEncrypted.take 1), ⟨false, 16⟩, false⟩,
      ⟨.data (seventeenEncrypted.drop 1), ⟨false, 16⟩, false⟩] = seventeenEncrypted := by decide
  exact ((padding_is_exact addKeyByte_permutes).1 _ _ modeCipher_textbook modeCipher_textbook _ _ _ _ _ _ _
    _ _ _ _ _ rfl encrypts decrypts).2 given

/-! ## What the updates refuse -/

/-- The round trip of the sample cipher in whatever updates meet `allowed` and have room. -/
def PiecesRoundTrip (allowed : Chunk → Prop) : Prop :=
  ∀ chunks chunks' : List Chunk,
    (∀ c ∈ chunks ++ chunks', allowed c ∧ c.input.isNull = false ∧ c.output.isNull = false ∧
      c.input.length + 16 ≤ c.output.size) →
    wholeInput chunks' = (updateAllAndFinish (modeKeyEnv psaAlgCbcPkcs7)
      (some (modeKeyCtx psaAlgCbcPkcs7 .encryption true)) chunks ⟨false, 16⟩).1 →
    updateAllAndFinish (modeKeyEnv psaAlgCbcPkcs7) (some (modeKeyCtx psaAlgCbcPkcs7 .decryption true))
      chunks' ⟨false, 16⟩ = (wholeInput chunks, .success)

/-- Bytes with more room than they need. -/
def roomy (bytes : Bytes) (overlap : Bool) : Chunk := ⟨.data bytes, ⟨false, bytes.length + 16⟩, overlap⟩

private theorem roomy_allowed (bytes : Bytes) :
    (roomy bytes false).overlap = false ∧ (roomy bytes false).input.isNull = false ∧
      (roomy bytes false).output.isNull = false ∧
      (roomy bytes false).input.length + 16 ≤ (roomy bytes false).output.size :=
  ⟨rfl, rfl, rfl, Nat.le_refl _⟩

/-- Two pieces of zeros are encrypted to more than they are. -/
private theorem pieces_encrypted {n : Nat} (fits : n ≤ uint32Max) (blocks : n % 16 = 0) :
    n + n ≤ (updateAllAndFinish (modeKeyEnv psaAlgCbcPkcs7)
      (some (modeKeyCtx psaAlgCbcPkcs7 .encryption true))
      [roomy (List.replicate n 0) false, roomy (List.replicate n 0) false] ⟨false, 16⟩).1.length := by
  have length : (roomy (List.replicate n 0) false).input.length = n := List.length_replicate
  have size : (roomy (List.replicate n 0) false).output.size = n + 16 := by
    show (List.replicate n (0 : Byte)).length + 16 = _
    rw [List.length_replicate]
  have sound : (roomy (List.replicate n 0) false).Sound := ⟨nofun, nofun, by rw [length]; exact fits, rfl⟩
  have calls : PaddedCalls (modeKeyEnv psaAlgCbcPkcs7) .encryption 1 (modeKeyAttributes psaAlgCbcPkcs7)
      (List.replicate 16 0x5a) (List.replicate 16 0) (modeKeyCtx psaAlgCbcPkcs7 .encryption true)
      [roomy (List.replicate n 0) false, roomy (List.replicate n 0) false] ⟨false, 16⟩ := by
    refine ⟨rfl, sample_begins .encryption, ?_, ?_, ⟨nofun, fun _ => Nat.le_refl 16⟩⟩
    · intro c member
      have same : c = roomy (List.replicate n 0) false := by simpa using member
      rw [same]
      exact sound
    · have count (t : Nat) : modeCount psaAlgCbcPkcs7 .encryption 16 t = t / 16 := rfl
      refine ⟨?_, ?_, trivial⟩
      · show modeCount psaAlgCbcPkcs7 .encryption 16 _ * 16 ≤ _
        rw [length, size, count]
        omega
      · show modeCount psaAlgCbcPkcs7 .encryption 16 (0 + _ -
          modeCount psaAlgCbcPkcs7 .encryption 16 _ * 16 + _) * 16 ≤ _
        rw [length, size, count, count]
        omega
  have total : (wholeInput [roomy (List.replicate n 0) false, roomy (List.replicate n 0) false]).length =
      n + n := by
    simp only [wholeInput, roomy, InBuf.bytes, List.map_cons, List.map_nil, List.flatten_cons,
      List.flatten_nil, List.length_append, List.length_replicate, List.length_nil]
    omega
  have applied (block : Bytes) (sized : block.length = blockLength false) :=
    blockFunction_whole modeCipher_textbook .encryption (List.replicate 16 0x5a) false sized
  have held : (List.replicate 16 (0 : Byte)).length = blockLength false := rfl
  rw [calls.computes modeCipher_textbook]
  show n + n ≤ (textbookMode _ _ (blockLength false)
    (blockFunction addKeyByte addKeyByte false .encryption (List.replicate 16 0x5a)) _ _).1.length
  rw [textbookMode_encrypt_length (blockLength_pos false) applied held, total]
  show n + n ≤ ((n + n) / 16 + 1) * 16
  omega

private theorem long_refused {n : Nat} (fits : n ≤ uint32Max) (long : n + n > uint32Max)
    (blocks : n % 16 = 0) : ¬PiecesRoundTrip fun c => c.overlap = false := by
  intro agree
  have many := pieces_encrypted fits blocks
  generalize made : (updateAllAndFinish (modeKeyEnv psaAlgCbcPkcs7)
    (some (modeKeyCtx psaAlgCbcPkcs7 .encryption true))
    [roomy (List.replicate n 0) false, roomy (List.replicate n 0) false] ⟨false, 16⟩).1 = encrypted at many
  have returned := agree [roomy (List.replicate n 0) false, roomy (List.replicate n 0) false]
    [roomy encrypted false] ?_ ?_
  · have ended : (updateAllAndFinish (modeKeyEnv psaAlgCbcPkcs7)
        (some (modeKeyCtx psaAlgCbcPkcs7 .decryption true)) [roomy encrypted false] ⟨false, 16⟩).2 =
          .badState := by
      have length : (roomy encrypted false).input.length > uint32Max := Nat.lt_of_lt_of_le long many
      show (psaCipherFinish (modeKeyEnv psaAlgCbcPkcs7) (psaCipherUpdate _ _ _ _ _ _).2 _ _).1.status = _
      rw [update_too_long length]
      rfl
    rw [returned] at ended
    cases ended
  · intro c member
    simp only [List.cons_append, List.nil_append, List.mem_cons, List.not_mem_nil, or_false] at member
    rcases member with rfl | rfl | rfl
    · exact roomy_allowed _
    · exact roomy_allowed _
    · exact roomy_allowed _
  · rw [made]
    exact List.append_nil _

/-- Two pieces of 2^31 bytes are encrypted, but their ciphertext is not decrypted in one update, since its
length does not fit `word32`; and a decryption in place is refused. -/
theorem long_and_overlapping_decryptions_refused :
    (¬PiecesRoundTrip fun c => c.overlap = false) ∧
      ¬PiecesRoundTrip fun c => c.input.length ≤ uint32Max := by
  refine ⟨long_refused (show 2147483648 ≤ uint32Max by decide) (by decide) (by decide), fun agree => ?_⟩
  have returned := agree [roomy [7] false] [roomy (updateAllAndFinish (modeKeyEnv psaAlgCbcPkcs7)
    (some (modeKeyCtx psaAlgCbcPkcs7 .encryption true)) [roomy [7] false] ⟨false, 16⟩).1 true]
    (by decide) (by decide)
  exact absurd returned (by decide)

end WolfPSA.Guarantees
