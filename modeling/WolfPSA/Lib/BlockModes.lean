import WolfPSA.Lib.Blocks

/-!
# Modes of a block cipher

One block of electronic codebook and of cipher block chaining, over a block function that may be
either direction of the cipher, and the padding of PKCS #7. A mode over a message is `blockwise` of
its step, from the register that holds the previous ciphertext block.
-/

namespace WolfPSA.Lib

variable {w : Nat}

/-- The block function alone; the register is not used. -/
def ecbStep (f : List (BitVec w) → List (BitVec w)) (register block : List (BitVec w)) :
    List (BitVec w) × List (BitVec w) := (f block, register)

/-- The block is combined with the previous ciphertext block and encrypted. -/
def cbcEncryptStep (f : List (BitVec w) → List (BitVec w)) (register block : List (BitVec w)) :
    List (BitVec w) × List (BitVec w) :=
  let output := f (List.zipWith (· ^^^ ·) block register)
  (output, output)

/-- The block is decrypted and combined with the previous ciphertext block. -/
def cbcDecryptStep (f : List (BitVec w) → List (BitVec w)) (register block : List (BitVec w)) :
    List (BitVec w) × List (BitVec w) :=
  (List.zipWith (· ^^^ ·) (f block) register, block)

/-- The bytes that fill the last block, each the number of them. -/
def pkcs7Padding (n length : Nat) : List (BitVec w) :=
  List.replicate (n - length % n) (BitVec.ofNat w (n - length % n))

/-- The text of a last block, if its last byte counts the bytes at its end that repeat it. -/
def pkcs7Unpad (n : Nat) (block : List (BitVec w)) : Option (List (BitVec w)) :=
  let count := (block.getD (n - 1) 0).toNat
  if 1 ≤ count ∧ count ≤ n ∧ block.drop (n - count) = List.replicate count (BitVec.ofNat w count) then
    some (block.take (n - count))
  else none

/-! ## Cipher block chaining back and forth -/

section

variable {n : Nat} {f g : List (BitVec w) → List (BitVec w)}

theorem zipWith_xor_length {a b : List (BitVec w)} (left : a.length = n) (right : b.length = n) :
    (List.zipWith (· ^^^ ·) a b).length = n := by
  rw [List.length_zipWith, left, right, Nat.min_self]

/-- What has been combined twice with the same bytes is back. -/
theorem zipWith_xor_cancel {a b : List (BitVec w)} (same : a.length = b.length) :
    List.zipWith (· ^^^ ·) (List.zipWith (· ^^^ ·) a b) b = a := by
  induction a generalizing b with
  | nil => rfl
  | cons x a ih =>
    cases b with
    | nil => cases same
    | cons y b =>
      have rest : a.length = b.length := Nat.succ.inj same
      simp only [List.zipWith_cons_cons, ih rest, BitVec.xor_assoc, BitVec.xor_self, BitVec.xor_zero]

theorem blockwise_cbcEncrypt_succ (k : Nat) (register input : List (BitVec w)) :
    blockwise n (cbcEncryptStep f) (k + 1) register input =
      let first := f (List.zipWith (· ^^^ ·) (input.take n) register)
      (first ++ (blockwise n (cbcEncryptStep f) k first (input.drop n)).1,
        (blockwise n (cbcEncryptStep f) k first (input.drop n)).2) := rfl

theorem blockwise_cbcDecrypt_succ (k : Nat) (register input : List (BitVec w)) :
    blockwise n (cbcDecryptStep g) (k + 1) register input =
      (List.zipWith (· ^^^ ·) (g (input.take n)) register ++
          (blockwise n (cbcDecryptStep g) k (input.take n) (input.drop n)).1,
        (blockwise n (cbcDecryptStep g) k (input.take n) (input.drop n)).2) := rfl

theorem blockwise_cbcEncrypt_length (whole : ∀ block, block.length = n → (f block).length = n) {k : Nat}
    {register input : List (BitVec w)} (held : register.length = n) (blocks : input.length = k * n) :
    (blockwise n (cbcEncryptStep f) k register input).1.length = k * n := by
  induction k generalizing register input with
  | zero =>
    rw [Nat.zero_mul]
    rfl
  | succ k ih =>
    rw [Nat.succ_mul] at blocks ⊢
    have first : (f (List.zipWith (· ^^^ ·) (input.take n) register)).length = n :=
      whole _ (zipWith_xor_length (by rw [List.length_take]; omega) held)
    have behind : (input.drop n).length = k * n := by
      rw [List.length_drop]
      omega
    rw [blockwise_cbcEncrypt_succ]
    dsimp only
    rw [List.length_append, first, ih first behind, Nat.add_comm]

/-- Decryption from the same register returns the blocks and ends with the register of the encryption. -/
theorem blockwise_cbcDecrypt_encrypt (whole : ∀ block, block.length = n → (f block).length = n)
    (inverse : ∀ block, block.length = n → g (f block) = block) {k : Nat}
    {register input : List (BitVec w)} (held : register.length = n) (blocks : input.length = k * n) :
    blockwise n (cbcDecryptStep g) k register (blockwise n (cbcEncryptStep f) k register input).1 =
      (input, (blockwise n (cbcEncryptStep f) k register input).2) := by
  induction k generalizing register input with
  | zero =>
    have none : input = [] := List.eq_nil_of_length_eq_zero (by omega)
    rw [none]
    rfl
  | succ k ih =>
    rw [Nat.succ_mul] at blocks
    have cut : (input.take n).length = n := by
      rw [List.length_take]
      omega
    have behind : (input.drop n).length = k * n := by
      rw [List.length_drop]
      omega
    have mixed := zipWith_xor_length cut held
    have first := whole _ mixed
    rw [blockwise_cbcEncrypt_succ, blockwise_cbcDecrypt_succ]
    dsimp only
    rw [List.take_left' first, List.drop_left' first, ih first behind, inverse _ mixed,
      zipWith_xor_cancel (cut.trans held.symm), List.take_append_drop]

end

/-! ## Padding -/

/-- The text with `k` bytes of value `k` behind it, for a `k` from 1 to `n`. -/
def PaddedTo (n : Nat) (text padded : List (BitVec w)) : Prop :=
  ∃ k, 1 ≤ k ∧ k ≤ n ∧ padded = text ++ List.replicate k (BitVec.ofNat w k)

/-- The text of a block is what stands before its padding. -/
theorem pkcs7Unpad_iff {n : Nat} (small : n < 2 ^ w) {block text : List (BitVec w)}
    (whole : block.length = n) : pkcs7Unpad n block = some text ↔ PaddedTo n text block := by
  unfold pkcs7Unpad
  dsimp only
  constructor
  · intro accepted
    split_ifs at accepted with padded
    obtain ⟨least, most, repeats⟩ := padded
    cases accepted
    refine ⟨_, least, most, ?_⟩
    rw [← repeats, List.take_append_drop]
  · rintro ⟨k, least, most, rfl⟩
    rw [List.length_append, List.length_replicate] at whole
    have last : (text ++ List.replicate k (BitVec.ofNat w k)).getD (n - 1) 0 = BitVec.ofNat w k := by
      rw [List.getD_eq_getElem?_getD, List.getElem?_append_right (by omega),
        List.getElem?_replicate_of_lt (by omega)]
      rfl
    have count : (BitVec.ofNat w k).toNat = k := by
      rw [BitVec.toNat_ofNat, Nat.mod_eq_of_lt (by omega)]
    have front : n - k = text.length := by omega
    rw [last, count, front, List.drop_left, List.take_left, if_pos ⟨least, most, rfl⟩]

/-- A text that is padded in its last block is padded as a whole. -/
theorem paddedTo_append_iff {n : Nat} {front block text : List (BitVec w)} (whole : block.length = n) :
    PaddedTo n text (front ++ block) ↔ ∃ rest, text = front ++ rest ∧ PaddedTo n rest block := by
  constructor
  · rintro ⟨k, least, most, same⟩
    rcases List.append_eq_append_iff.mp same with ⟨rest, before, behind⟩ | ⟨extra, before, behind⟩
    · exact ⟨rest, before, k, least, most, behind⟩
    · -- the padding is at most a block, so it does not reach into the front
      have lengths := congrArg List.length behind
      rw [List.length_replicate, List.length_append, whole] at lengths
      have none : extra = [] := List.eq_nil_of_length_eq_zero (by omega)
      rw [none, List.append_nil] at before
      rw [none, List.nil_append] at behind
      exact ⟨[], by rw [before, List.append_nil], k, least, most, by rw [behind, List.nil_append]⟩
  · rintro ⟨rest, rfl, k, least, most, rfl⟩
    exact ⟨k, least, most, by rw [List.append_assoc]⟩

/-- The padding of a message is a padding. -/
theorem pkcs7Padding_paddedTo {n : Nat} (positive : 0 < n) (text : List (BitVec w)) :
    PaddedTo n text (text ++ pkcs7Padding n text.length) := by
  have below := Nat.mod_lt text.length positive
  exact ⟨n - text.length % n, by omega, by omega, rfl⟩

end WolfPSA.Lib
