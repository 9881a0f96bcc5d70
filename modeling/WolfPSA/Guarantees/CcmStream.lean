import WolfPSA.Lib.Ccm
import WolfPSA.Lib.Outcomes
import WolfPSA.Source.AeadCcm

/-!
# Streaming CCM against its definition

The counter mode and the CBC-MAC that `psa_aead.c` writes out are those of SP 800-38C, byte by byte. What
the state holds behind some payload is said once (`CcmAt`); one byte of the loop keeps it, and so does
every piece. AES on blocks is any function; a call of it that fails is the only way to fail.
-/

namespace WolfPSA.Guarantees
open Lib Source

/-- An error of `wc_AesEncryptDirect` on a block. -/
def CipherError (encrypt : EncryptBlock) (e : WcError) : Prop :=
  ∃ block : Bytes, block.length = 16 ∧ encrypt block = .error e

/-- The status of such an error. -/
def CipherFailure (encrypt : EncryptBlock) (status : Failure) : Prop :=
  ∃ e, CipherError encrypt e ∧ status = wcFailure e

/-- `wc_AesEncryptDirect` writes what `E` says, or fails. -/
def EncryptsAs (encrypt : EncryptBlock) (E : Bytes → Bytes) : Prop :=
  ∀ block : Bytes, block.length = 16 → Yields (CipherError encrypt) (· = E block) (encrypt block)

theorem wcCall_yields {α : Type} {encrypt : EncryptBlock} {P : α → Prop} {x : Except WcError α}
    (holds : Yields (CipherError encrypt) P x) : Yields (CipherFailure encrypt) P (wcCall x) :=
  holds.mapError fun e failed => ⟨e, failed, rfl⟩

/-! ## Blocks -/

theorem length_zeroPadded {bytes : Bytes} (short : bytes.length ≤ 16) :
    (zeroPadded bytes).length = 16 := by
  unfold zeroPadded
  rw [List.length_append, List.length_replicate]
  omega

theorem length_xorBlock {a b : Bytes} (left : a.length = 16) (right : b.length = 16) :
    (xorBlock a b).length = 16 := zipWith_xor_length left right

/-- A block of zeros changes nothing. -/
theorem zipWith_xor_zero {block : Bytes} {n : Nat} (length : block.length = n) :
    List.zipWith (· ^^^ ·) block (List.replicate n 0) = block := by
  subst length
  induction block with
  | nil => rfl
  | cons b rest ih =>
    rw [List.length_cons, List.replicate_succ, List.zipWith_cons_cons, ih]
    exact congrArg (· :: rest) BitVec.xor_zero

/-- The order of the operands does not matter. -/
theorem xorBlock_comm (a b : Bytes) : xorBlock a b = xorBlock b a := by
  unfold xorBlock
  rw [List.zipWith_comm]
  exact congrArg (List.zipWith · b a) (funext fun x => funext fun y => BitVec.xor_comm y x)

/-- A block through the CBC-MAC. -/
theorem cbcMac_zeroPadded (E : Bytes → Bytes) (y : Bytes) {bytes : Bytes} (short : bytes.length ≤ 16) :
    cbcMac E y (zeroPadded bytes) = E (xorBlock y (zeroPadded bytes)) := by
  rw [cbcMac_block E (length_zeroPadded short), xorBlock_comm]
  rfl

theorem pad16_short {bytes : Bytes} (some : bytes ≠ []) (short : bytes.length ≤ 16) :
    pad16 bytes = zeroPadded bytes := by
  have positive := List.length_pos_of_ne_nil some
  unfold pad16 zeroPadded
  congr 2
  omega

theorem pad16_nil : pad16 [] = [] := rfl

/-- The first block of padded bytes. -/
theorem pad16_take_drop (bytes : Bytes) (long : 16 ≤ bytes.length) :
    pad16 bytes = bytes.take 16 ++ pad16 (bytes.drop 16) := by
  have first : (bytes.take 16).length = 16 := by
    rw [List.length_take]
    omega
  have whole := pad16_append (show (bytes.take 16).length % 16 = 0 by rw [first]) (bytes.drop 16)
  rwa [List.take_append_drop] at whole

/-- A byte more at the end of a block that is being filled. -/
theorem zeroPadded_push {bytes : Bytes} (short : bytes.length < 16) (b : Byte) :
    (zeroPadded bytes).set bytes.length ((zeroPadded bytes).getD bytes.length 0 ^^^ b) =
      zeroPadded (bytes ++ [b]) := by
  obtain ⟨left, room⟩ : ∃ left, 16 - bytes.length = left + 1 := ⟨15 - bytes.length, by omega⟩
  have rest : 16 - (bytes ++ [b]).length = left := by
    rw [List.length_append, List.length_singleton]
    omega
  unfold zeroPadded
  rw [room, rest, List.replicate_succ, List.getD_append_right _ _ _ _ (Nat.le_refl _), Nat.sub_self,
    List.getD_cons_zero, List.set_append_right _ _ (Nat.le_refl _), Nat.sub_self, List.set_cons_zero,
    List.append_assoc]
  exact congrArg (bytes ++ · :: List.replicate left 0) (BitVec.zero_xor)

/-- Padded bytes go through the CBC-MAC a block at a time. -/
theorem cbcMac_pad16_step (E : Bytes → Bytes) (y : Bytes) {bytes : Bytes} (some : bytes ≠ []) :
    cbcMac E y (pad16 bytes) =
      cbcMac E (E (xorBlock y (zeroPadded (bytes.take 16)))) (pad16 (bytes.drop 16)) := by
  rw [← cbcMac_zeroPadded E y (List.length_take_le 16 bytes)]
  rcases Nat.lt_or_ge bytes.length 16 with less | long
  · rw [List.take_of_length_le (Nat.le_of_lt less), List.drop_eq_nil_of_le (Nat.le_of_lt less), pad16_nil,
      cbcMac_nil, pad16_short some (Nat.le_of_lt less)]
  · have first : (bytes.take 16).length = 16 := by
      rw [List.length_take]
      omega
    have exact : zeroPadded (bytes.take 16) = bytes.take 16 := by
      unfold zeroPadded
      rw [first, Nat.sub_self]
      exact List.append_nil _
    rw [exact, pad16_take_drop bytes long, cbcMac_append E (by rw [first])]

/-! ## Counter -/

/-- The loop adds the carry to the last bytes it has left, as a number. -/
theorem ccmCtrIncFrom_eq (front : Bytes) (x : Nat) (done : Bytes) (left : Nat) (carry : Bool)
    (block : front.length + left + done.length = 16) :
    ccmCtrIncFrom done.length (front ++ beBytes left x ++ done) (if carry then 1 else 0) left =
      front ++ beBytes left (x + if carry then 1 else 0) ++ done := by
  induction left generalizing x done carry with
  | zero => rfl
  | succ left ih =>
    have position : 15 - done.length = (front ++ beBytes left (x / 256)).length := by
      rw [List.length_append, length_beBytes]
      omega
    have split : front ++ beBytes (left + 1) x ++ done =
        (front ++ beBytes left (x / 256)) ++ BitVec.ofNat 8 x :: done := by
      rw [beBytes_succ]
      simp only [List.append_assoc, List.cons_append, List.nil_append]
    -- the byte with the carry, and what it carries on
    have next : BitVec.ofNat 8 x + (if carry then 1 else 0) =
        BitVec.ofNat 8 (x + if carry then 1 else 0) := by
      cases carry with
      | false => exact (BitVec.add_zero _)
      | true => exact (BitVec.ofNat_add x 1).symm
    have carried : ((if carry then 1 else 0 : Byte) &&&
        if BitVec.ofNat 8 (x + if carry then 1 else 0) = 0 then 1 else 0) =
          if carry && (x + 1) % 256 == 0 then 1 else 0 := by
      cases carry with
      | false => simp
      | true =>
        have zero : BitVec.ofNat 8 (x + 1) = 0 ↔ (x + 1) % 256 = 0 := by
          rw [← BitVec.toNat_inj, BitVec.toNat_ofNat]
          rfl
        simp only [if_true, Bool.true_and, beq_iff_eq]
        by_cases wraps : (x + 1) % 256 = 0
        · rw [if_pos (zero.mpr wraps), if_pos wraps]
          rfl
        · rw [if_neg (mt zero.mp wraps), if_neg wraps]
          rfl
    have number : (x + if carry then 1 else 0) / 256 =
        x / 256 + if carry && (x + 1) % 256 == 0 then 1 else 0 := by
      cases carry with
      | false => rfl
      | true =>
        simp only [if_true, Bool.true_and, beq_iff_eq]
        split <;> omega
    rw [split, ccmCtrIncFrom]
    rw [position, List.getD_append_right _ _ _ _ (Nat.le_refl _), Nat.sub_self, List.getD_cons_zero, next,
      List.set_append_right _ _ (Nat.le_refl _), Nat.sub_self, List.set_cons_zero, carried]
    have rest := ih (x / 256) (BitVec.ofNat 8 (x + if carry then 1 else 0) :: done)
      (carry && (x + 1) % 256 == 0) (by rw [List.length_cons]; omega)
    rw [List.length_cons] at rest
    rw [rest, beBytes_succ, number]
    simp only [List.append_assoc, List.cons_append, List.nil_append]

/-- `wolfpsa_aead_ccm_ctr_inc` goes from one counter block to the next. -/
theorem wolfpsaAeadCcmCtrInc_counterBlock {nonce : Bytes} (short : nonce.length ≤ 15) (i : Nat) :
    wolfpsaAeadCcmCtrInc (Ccm.counterBlock nonce i) (15 - nonce.length) =
      Ccm.counterBlock nonce (i + 1) := by
  have moved := ccmCtrIncFrom_eq ([BitVec.ofNat 8 (15 - nonce.length - 1)] ++ nonce) i []
    (15 - nonce.length) true (by rw [List.length_append, List.length_singleton, List.length_nil]; omega)
  rw [List.append_nil, List.append_nil] at moved
  exact moved

theorem beBytes_zero (n : Nat) : beBytes n 0 = List.replicate n 0 := by
  induction n with
  | zero => rfl
  | succ n ih =>
    rw [beBytes_succ, Nat.zero_div, ih, List.replicate_succ']
    rfl

/-- The counter block of the tag. -/
theorem zeroPadded_counterBlock (nonce : Bytes) :
    zeroPadded ([BitVec.ofNat 8 (15 - nonce.length - 1)] ++ nonce) = Ccm.counterBlock nonce 0 := by
  have left : 16 - ([BitVec.ofNat 8 (15 - nonce.length - 1)] ++ nonce).length = 15 - nonce.length := by
    rw [List.length_append, List.length_singleton]
    omega
  unfold zeroPadded Ccm.counterBlock
  rw [left, beBytes_zero]

/-- The counter block of the first key stream block. -/
theorem ccmFirstCtr_eq {nonce : Bytes} (short : nonce.length < 15) :
    ccmFirstCtr nonce = Ccm.counterBlock nonce 1 := by
  obtain ⟨q, size⟩ : ∃ q, 15 - nonce.length = q + 1 := ⟨14 - nonce.length, by omega⟩
  unfold ccmFirstCtr Ccm.counterBlock
  dsimp only
  rw [size, Nat.add_sub_cancel, beBytes_succ, show 1 / 256 = 0 from rfl, beBytes_zero, List.append_assoc]
  rfl

/-! ## Additional data -/

section

variable {encrypt : EncryptBlock} {E : Bytes → Bytes} (encrypts : EncryptsAs encrypt E)
  (sixteen : ∀ b, (E b).length = 16)
include encrypts sixteen

/-- Enough rounds take the padded data through the CBC-MAC. -/
theorem ccmMacAad_yields {rounds : Nat} {mac aad : Bytes} (start : mac.length = 16)
    (enough : aad.length ≤ rounds) :
    Yields (CipherError encrypt) (· = cbcMac E mac (pad16 aad)) (ccmMacAad encrypt rounds mac aad) := by
  induction rounds generalizing mac aad with
  | zero =>
    rw [List.eq_nil_of_length_eq_zero (Nat.le_zero.mp enough)]
    exact rfl
  | succ rounds ih =>
    unfold ccmMacAad
    split
    · rename_i some
      have short : (aad.take 16).length ≤ 16 := List.length_take_le _ _
      refine (encrypts _ (length_xorBlock start (length_zeroPadded short))).bind ?_
      rintro _ rfl
      refine (ih (sixteen _) (by rw [List.length_drop]; omega)).mono ?_
      rintro _ rfl
      rw [cbcMac_pad16_step E mac (List.ne_nil_of_length_pos some)]
    · rename_i none
      rw [List.eq_nil_of_length_eq_zero (Nat.eq_zero_of_not_pos none)]
      exact rfl

end

/-- The prefix is written for lengths of a `word32`. -/
theorem ccmAadPrefix_eq {n : Nat} (word : n < 2 ^ 32) : ccmAadPrefix n = Ccm.encodedLength n := by
  have twice : n / 256 / 256 = n / 2 ^ 16 := Nat.div_div_eq_div_mul n 256 256
  have thrice : n / 2 ^ 16 / 256 = n / 2 ^ 24 := Nat.div_div_eq_div_mul n (2 ^ 16) 256
  unfold ccmAadPrefix Ccm.encodedLength
  by_cases short : n < 0xFF00
  · rw [if_pos (by omega), if_pos short]
    rfl
  · rw [if_neg (by omega), if_neg short, if_pos word, beBytes_succ, beBytes_succ, twice, beBytes_succ,
      thrice]
    rfl

theorem length_ccmAadPrefix (n : Nat) : (ccmAadPrefix n).length ≤ 6 ∧ 2 ≤ (ccmAadPrefix n).length := by
  unfold ccmAadPrefix
  split
  · exact ⟨Nat.le_add_left 2 4, Nat.le_refl 2⟩
  · exact ⟨Nat.le_refl 6, Nat.le_add_left 2 4⟩

section

variable {encrypt : EncryptBlock} {E : Bytes → Bytes} (encrypts : EncryptsAs encrypt E)
  (sixteen : ∀ b, (E b).length = 16)
include encrypts sixteen

/-- The additional data behind its length. -/
theorem ccmAad_yields {mac aad : Bytes} (start : mac.length = 16) (word : aad.length < 2 ^ 32) :
    Yields (CipherError encrypt) (· = cbcMac E mac (Ccm.formattedAad aad)) (ccmAad encrypt mac aad) := by
  unfold ccmAad Ccm.formattedAad
  by_cases none : aad.length = 0
  · rw [if_pos none, if_neg (by omega)]
    exact rfl
  · rw [if_neg none, if_pos (by omega), ← ccmAadPrefix_eq word]
    obtain ⟨most, least⟩ := length_ccmAadPrefix aad.length
    generalize ccmAadPrefix aad.length = front at most least
    have short : (front ++ aad.take (16 - front.length)).length ≤ 16 := by
      rw [List.length_append, List.length_take]
      omega
    refine (encrypts _ (length_xorBlock start (length_zeroPadded short))).bind ?_
    rintro _ rfl
    refine (ccmMacAad_yields encrypts sixteen (sixteen _) (by rw [List.length_drop]; omega)).mono ?_
    rintro _ rfl
    have some : front ++ aad ≠ [] :=
      List.ne_nil_of_length_pos (by rw [List.length_append]; omega)
    have before : front.take 16 = front := List.take_of_length_le (by omega)
    have behind : front.drop 16 = [] := List.drop_eq_nil_of_le (by omega)
    rw [cbcMac_pad16_step E mac some, List.take_append, List.drop_append, before, behind, List.nil_append]

end

/-! ## The state behind some payload -/

/-- What is authenticated before the payload. -/
def ccmHeader (nonce aad : Bytes) (tagLength payloadLength : Nat) : Bytes :=
  Ccm.firstBlock nonce aad.length tagLength payloadLength ++ Ccm.formattedAad aad

theorem length_ccmHeader {nonce : Bytes} (short : nonce.length ≤ 15) (aad : Bytes)
    (tagLength payloadLength : Nat) : (ccmHeader nonce aad tagLength payloadLength).length % 16 = 0 := by
  have rest := Ccm.length_formattedAad aad
  unfold ccmHeader
  rw [List.length_append, Ccm.length_firstBlock short]
  omega

/-- The state behind a payload of the whole blocks `front` and the rest `tail`. Key stream block `i` is in
use. -/
structure CcmAt (E : Bytes → Bytes) (nonce header front tail : Bytes) (i : Nat) (st : CcmState) :
    Prop where
  whole : front.length % 16 = 0
  short : tail.length < 16
  position : (front ++ tail).length = 16 * i + st.ksOff
  within : st.ksOff ≤ 16
  used : i = 0 ∨ 0 < st.ksOff
  lenSz : st.lenSz = 15 - nonce.length
  ctr : st.ctr = Ccm.counterBlock nonce (i + 1)
  ks : st.ks = E st.ctr
  mac : st.mac = cbcMac E (List.replicate 16 0) (header ++ front)
  mblk : st.mblk = zeroPadded tail
  mfill : st.mfill = tail.length

/-- The state behind the payload `text`. -/
def CcmBehind (E : Bytes → Bytes) (nonce header text : Bytes) (st : CcmState) : Prop :=
  ∃ front tail i, text = front ++ tail ∧ CcmAt E nonce header front tail i st

section

variable {encrypt : EncryptBlock} {E : Bytes → Bytes} (encrypts : EncryptsAs encrypt E)
  (sixteen : ∀ b, (E b).length = 16) {nonce header : Bytes} (fits : nonce.length ≤ 15)
include encrypts

include fits in
/-- The key stream block for the next byte. -/
theorem ccmRefill_yields {front tail : Bytes} {i : Nat} {st : CcmState}
    (here : CcmAt E nonce header front tail i st) :
    Yields (CipherError encrypt)
      (fun st' => ∃ j ks off, (front ++ tail).length = 16 * j + off ∧ off < 16 ∧
        ks = E (Ccm.counterBlock nonce (j + 1)) ∧
        st' = { st with ctr := Ccm.counterBlock nonce (j + 1), ks := ks, ksOff := off })
      (ccmRefill encrypt st) := by
  have position := here.position
  have within := here.within
  unfold ccmRefill
  split
  · rename_i empty
    have moved : wolfpsaAeadCcmCtrInc st.ctr st.lenSz = Ccm.counterBlock nonce (i + 1 + 1) := by
      rw [here.ctr, here.lenSz, wolfpsaAeadCcmCtrInc_counterBlock fits]
    dsimp only
    rw [moved]
    refine (encrypts _ (Ccm.length_counterBlock fits _)).bind ?_
    rintro _ rfl
    exact ⟨i + 1, _, 0, by omega, by decide, rfl, rfl⟩
  · rename_i left
    refine Yields.ok ⟨i, st.ks, st.ksOff, position, by omega, ?_, ?_⟩
    · rw [here.ks, here.ctr]
    · rw [← here.ctr]

include sixteen in
/-- The block that is being filled, when it is full. -/
theorem ccmFlush_yields {front : Bytes} (tail : Bytes) {st : CcmState} (aligned : header.length % 16 = 0)
    (whole : front.length % 16 = 0) (short : tail.length ≤ 16)
    (mac : st.mac = cbcMac E (List.replicate 16 0) (header ++ front)) (mblk : st.mblk = zeroPadded tail)
    (mfill : st.mfill = tail.length) :
    Yields (CipherError encrypt)
      (fun st' => ∃ front' tail', front ++ tail = front' ++ tail' ∧ front'.length % 16 = 0 ∧
        tail'.length < 16 ∧ st' = { st with
          mac := cbcMac E (List.replicate 16 0) (header ++ front'), mblk := zeroPadded tail',
          mfill := tail'.length })
      (ccmFlush encrypt st) := by
  have length := length_cbcMac sixteen (List.length_replicate : (List.replicate 16 (0 : Byte)).length = 16)
    (header ++ front)
  unfold ccmFlush
  rw [mac, mblk, mfill]
  split
  · rename_i full
    have exact : zeroPadded tail = tail := by
      unfold zeroPadded
      rw [full, Nat.sub_self]
      exact List.append_nil _
    refine (encrypts _ (length_xorBlock length (length_zeroPadded short))).bind ?_
    rintro _ rfl
    refine Yields.ok ⟨front ++ tail, [], (List.append_nil _).symm, ?_, Nat.zero_lt_succ 15, ?_⟩
    · rw [List.length_append]
      omega
    · have joined := cbcMac_append E (show (header ++ front).length % 16 = 0 by
        rw [List.length_append]; omega) (List.replicate 16 0) tail
      rw [← cbcMac_zeroPadded E _ short, exact, ← List.append_assoc, joined]
      rfl
  · rename_i part
    refine Yields.ok ⟨front, tail, rfl, whole, by omega, ?_⟩
    rw [← mac, ← mblk, ← mfill]

omit encrypts in
/-- The byte of the key stream that the state stands at. -/
theorem keyStream_at {i off : Nat} (inside : off < 16) :
    Ccm.keyStream E nonce (16 * i + off) = (E (Ccm.counterBlock nonce (i + 1))).getD off 0 := by
  unfold Ccm.keyStream blockStream ofList
  rw [Nat.mul_add_div (by decide), Nat.div_eq_of_lt inside, Nat.mul_add_mod, Nat.mod_eq_of_lt inside]
  rfl

include sixteen fits in
/-- One byte of the loop. -/
theorem ccmByte_yields {text : Bytes} {st : CcmState} (aligned : header.length % 16 = 0)
    (here : CcmBehind E nonce header text st) (direction : Bool) (b : Byte) :
    Yields (CipherError encrypt)
      (fun r => r.1 = b ^^^ Ccm.keyStream E nonce text.length ∧
        CcmBehind E nonce header (text ++ [if direction then b else r.1]) r.2)
      (ccmByte encrypt direction st b) := by
  obtain ⟨front, tail, i, rfl, here⟩ := here
  unfold ccmByte
  refine (ccmRefill_yields encrypts fits here).bind ?_
  rintro _ ⟨j, ks, off, position, inside, rfl, rfl⟩
  have out : b ^^^ (E (Ccm.counterBlock nonce (j + 1))).getD off 0 =
      b ^^^ Ccm.keyStream E nonce (front ++ tail).length := by
    rw [position, keyStream_at inside]
  dsimp only
  rw [out, here.mblk, here.mfill, zeroPadded_push here.short]
  generalize same : (if direction then b else b ^^^ Ccm.keyStream E nonce (front ++ tail).length) = t
  have longer : (tail ++ [t]).length = tail.length + 1 := List.length_append
  have room := here.short
  refine Yields.bind (ccmFlush_yields encrypts sixteen (tail ++ [t]) aligned here.whole (by omega) here.mac
    rfl longer.symm) ?_
  rintro _ ⟨front', tail', text, whole, short, rfl⟩
  refine Yields.ok ⟨rfl, front', tail', j, ?_, ?_⟩
  · dsimp only
    rw [same, List.append_assoc, text]
  · refine ⟨whole, short, ?_, inside, .inr (Nat.succ_pos off), here.lenSz, rfl, rfl, rfl, rfl, rfl⟩
    rw [← text, ← List.append_assoc, List.length_append, position]
    rfl

include sixteen fits in
/-- A piece of payload: it goes on where the text before it ended. -/
theorem ccmBytes_yields {text : Bytes} {st : CcmState} (aligned : header.length % 16 = 0)
    (here : CcmBehind E nonce header text st) (direction : Bool) (input : Bytes) :
    Yields (CipherError encrypt)
      (fun r => r.1 = xorFrom (Ccm.keyStream E nonce) text.length input ∧
        CcmBehind E nonce header (text ++ if direction then input else r.1) r.2)
      (ccmBytes encrypt direction st input) := by
  induction input generalizing text st with
  | nil =>
    refine Yields.ok ⟨rfl, ?_⟩
    rw [ite_self, List.append_nil]
    exact here
  | cons b rest ih =>
    unfold ccmBytes
    refine (ccmByte_yields encrypts sixteen fits aligned here direction b).bind ?_
    rintro ⟨out, st'⟩ ⟨rfl, moved⟩
    refine (ih moved).bind ?_
    rintro ⟨outs, st''⟩ ⟨rfl, behind⟩
    rw [List.length_append, List.length_singleton] at behind ⊢
    refine Yields.ok ⟨rfl, ?_⟩
    rw [List.append_assoc] at behind
    cases direction with
    | false => exact behind
    | true => exact behind

include sixteen fits in
/-- The tag of the payload. -/
theorem wolfpsaAeadCcmFinish_yields {text : Bytes} {st : CcmState} (aligned : header.length % 16 = 0)
    (here : CcmBehind E nonce header text st) (tagLength : Nat) :
    Yields (CipherFailure encrypt)
      (· = (xorBlock (cbcMac E (List.replicate 16 0) (header ++ pad16 text))
        (E (Ccm.counterBlock nonce 0))).take tagLength)
      (wolfpsaAeadCcmFinish encrypt st nonce tagLength) := by
  obtain ⟨front, tail, i, rfl, here⟩ := here
  have joined := cbcMac_append E (show (header ++ front).length % 16 = 0 by
    have := here.whole; rw [List.length_append]; omega) (List.replicate 16 0) (pad16 tail)
  have length := length_cbcMac sixteen (List.length_replicate : (List.replicate 16 (0 : Byte)).length = 16)
    (header ++ front)
  rw [pad16_append here.whole, ← List.append_assoc, joined]
  have last : Yields (CipherError encrypt)
      (· = cbcMac E (cbcMac E (List.replicate 16 0) (header ++ front)) (pad16 tail))
      (ccmLastMac encrypt st) := by
    have short := Nat.le_of_lt here.short
    unfold ccmLastMac
    rw [here.mac, here.mblk, here.mfill]
    split
    · rename_i part
      refine (encrypts _ (length_xorBlock length (length_zeroPadded short))).mono ?_
      rintro _ rfl
      rw [pad16_short (List.ne_nil_of_length_pos part) short, cbcMac_zeroPadded E _ short]
    · rename_i none
      rw [List.eq_nil_of_length_eq_zero (Nat.eq_zero_of_not_pos none)]
      exact rfl
  unfold wolfpsaAeadCcmFinish
  refine (wcCall_yields last).bind ?_
  rintro _ rfl
  rw [here.lenSz, zeroPadded_counterBlock]
  refine (wcCall_yields (encrypts _ (Ccm.length_counterBlock fits 0))).bind ?_
  rintro _ rfl
  exact Yields.ok rfl

include sixteen in
/-- The state before the payload. -/
theorem ccmStart_yields {aad : Bytes} {tagLength payloadLength : Nat} (size : nonce.length < 15)
    (word : aad.length < 2 ^ 32) (field : payloadLength < 256 ^ (15 - nonce.length)) :
    Yields (CipherFailure encrypt)
      (CcmBehind E nonce (ccmHeader nonce aad tagLength payloadLength) [])
      (ccmStart encrypt nonce aad tagLength payloadLength) := by
  have first : ccmB0 nonce aad.length tagLength payloadLength =
      Ccm.firstBlock nonce aad.length tagLength payloadLength := rfl
  have whole : (Ccm.firstBlock nonce aad.length tagLength payloadLength).length = 16 :=
    Ccm.length_firstBlock (Nat.le_of_lt size) _ _ _
  have zeros : (List.replicate 16 (0 : Byte)).length = 16 := List.length_replicate
  unfold ccmStart
  dsimp only
  rw [lengthRest_eq, Nat.div_eq_of_lt field, first]
  refine (wcCall_yields (encrypts _ whole)).bind ?_
  rintro _ rfl
  refine (wcCall_yields (ccmAad_yields encrypts sixteen (sixteen _) word)).bind ?_
  rintro _ rfl
  rw [ccmFirstCtr_eq size]
  refine (wcCall_yields (encrypts _ (Ccm.length_counterBlock (Nat.le_of_lt size) 1))).bind ?_
  rintro _ rfl
  refine Yields.ok ⟨[], [], 0, rfl, rfl, Nat.zero_lt_succ 15, rfl, Nat.zero_le 16, .inl rfl, rfl, rfl, rfl,
    ?_, rfl, rfl⟩
  have begun : cbcMac E (List.replicate 16 0) (Ccm.firstBlock nonce aad.length tagLength payloadLength) =
      E (Ccm.firstBlock nonce aad.length tagLength payloadLength) := by
    rw [cbcMac_block E whole, zipWith_xor_zero whole]
  unfold ccmHeader
  rw [List.append_nil, cbcMac_append E (by rw [whole]), begun]

end

end WolfPSA.Guarantees
