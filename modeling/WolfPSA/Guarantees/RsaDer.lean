import WolfPSA.Source.RsaExport

/-!
# The export of an RSA public key is its DER encoding

The helpers compute sizes and write bytes in separate functions. Each of them is the length of, or writes,
one encoding that is given here as a list, and that encoding follows the rules of DER.
-/

namespace WolfPSA.Guarantees
open Lib Source

/-! ## Length octets -/

private theorem shiftRight_eight (len : Nat) : len >>> 8 = len / 256 := Nat.shiftRight_eq_div_pow len 8

theorem countOctets_zero (count : Nat) : countOctets count 0 = count := by
  rw [countOctets, if_neg (by decide)]

theorem countOctets_pos (count : Nat) {len : Nat} (some : 0 < len) :
    countOctets count len = countOctets (count + 1) (len / 256) := by
  rw [countOctets, if_pos some, shiftRight_eight]

theorem countOctets_add (count len : Nat) : countOctets count len = count + countOctets 0 len := by
  induction len using Nat.strongRecOn generalizing count with
  | ind len ih =>
    rcases Nat.eq_zero_or_pos len with rfl | some
    · rw [countOctets_zero, countOctets_zero, Nat.add_zero]
    · have smaller : len / 256 < len := Nat.div_lt_self some (by decide)
      rw [countOctets_pos count some, countOctets_pos 0 some, ih _ smaller (count + 1), ih _ smaller (0 + 1)]
      omega

/-- The loop counts the digits of the length to the base 256. -/
theorem countOctets_bounds (len : Nat) :
    len < 256 ^ countOctets 0 len ∧ (0 < len → ∃ k, countOctets 0 len = k + 1 ∧ 256 ^ k ≤ len) := by
  induction len using Nat.strongRecOn with
  | ind len ih =>
    rcases Nat.eq_zero_or_pos len with rfl | some
    · rw [countOctets_zero]
      exact ⟨by decide, nofun⟩
    · obtain ⟨below, least⟩ := ih (len / 256) (Nat.div_lt_self some (by decide))
      have count : countOctets 0 len = countOctets 0 (len / 256) + 1 := by
        rw [countOctets_pos 0 some, countOctets_add, Nat.add_comm]
      rw [count]
      refine ⟨?_, fun _ => ⟨_, rfl, ?_⟩⟩
      · rw [Nat.pow_succ]
        omega
      · rcases Nat.eq_zero_or_pos (len / 256) with none | more
        · rw [none, countOctets_zero]
          exact some
        · obtain ⟨k, same, high⟩ := least more
          rw [same, Nat.pow_succ]
          omega

/-- The octets of a length. -/
def lengthOctets (len : Nat) : Bytes :=
  if len < 128 then [BitVec.ofNat 8 len]
  else BitVec.ofNat 8 (128 + countOctets 0 len) :: beBytes (countOctets 0 len) len

theorem psaDerLenSize_eq (len : Nat) : psaDerLenSize len = (lengthOctets len).length := by
  unfold psaDerLenSize lengthOctets
  split
  · rfl
  · rw [countOctets_add, List.length_cons, length_beBytes, Nat.add_comm]

/-- A length in memory has eight octets at most. -/
private theorem countOctets_le {len : Nat} (small : len < 2 ^ 64) : countOctets 0 len ≤ 8 := by
  rcases Nat.eq_zero_or_pos len with rfl | some
  · rw [countOctets_zero]
    decide
  · obtain ⟨k, same, least⟩ := (countOctets_bounds len).2 some
    have few : k < 8 := by
      by_contra many
      have := Nat.pow_le_pow_right (show 0 < 256 by decide) (Nat.le_of_not_lt many)
      omega
    omega

theorem derLength_lengthOctets {len : Nat} (small : len < 2 ^ 64) : DerLength (lengthOctets len) len := by
  unfold lengthOctets
  split
  · exact .inl ⟨‹_›, rfl⟩
  · rename_i long
    have few := countOctets_le small
    obtain ⟨below, least⟩ := countOctets_bounds len
    obtain ⟨k, same, full⟩ := least (by omega)
    refine .inr ⟨Nat.le_of_not_lt long, beBytes (countOctets 0 len) len, ?_, ?_, beNat_beBytes below, ?_⟩
    · rw [length_beBytes]
      omega
    · rw [same] at below ⊢
      exact beBytes_head below full
    · rw [length_beBytes]

/-- The loop fills the octets behind the first one. -/
private theorem writeOctets_eq {out : Bytes} {i : Nat} (room : i < out.length) (len : Nat) :
    writeOctets out i len = out.take 1 ++ beBytes i len ++ out.drop (i + 1) := by
  induction i generalizing out len with
  | zero => exact (List.take_append_drop 1 out).symm.trans (by rw [beBytes, leBytes]; simp)
  | succ i ih =>
    have low : BitVec.ofNat 8 (len &&& 0xff) = BitVec.ofNat 8 len := by
      apply BitVec.eq_of_toNat_eq
      rw [BitVec.toNat_ofNat, BitVec.toNat_ofNat, show (0xff : Nat) = 2 ^ 8 - 1 from rfl,
        Nat.and_two_pow_sub_one_eq_mod, Nat.mod_mod]
    have kept : (out.set (i + 1) (BitVec.ofNat 8 len)).take 1 = out.take 1 := by
      rw [List.take_set, List.set_eq_of_length_le (by rw [List.length_take]; omega)]
    have last : (out.set (i + 1) (BitVec.ofNat 8 len)).drop (i + 1) =
        BitVec.ofNat 8 len :: out.drop (i + 2) := by
      rw [List.drop_set, if_neg (Nat.lt_irrefl _), Nat.sub_self, List.drop_eq_getElem_cons room]
      rfl
    rw [writeOctets, low, shiftRight_eight, ih (by rw [List.length_set]; omega), kept, last, beBytes_succ]
    simp

private theorem set_zero {out : Bytes} (room : 0 < out.length) (b : Byte) :
    out.set 0 b = b :: out.drop 1 := by
  cases out with
  | nil => cases room
  | cons _ _ => rfl

theorem psaDerWriteLen_eq {out : Bytes} {len : Nat} (small : len < 2 ^ 64)
    (room : (lengthOctets len).length ≤ out.length) :
    psaDerWriteLen out len =
      (lengthOctets len ++ out.drop (lengthOctets len).length, (lengthOctets len).length) := by
  unfold psaDerWriteLen lengthOctets at *
  split
  · rw [if_pos ‹_›, List.length_singleton] at room
    rw [set_zero room]
    rfl
  · rename_i long
    rw [if_neg long, List.length_cons, length_beBytes] at room
    have few := countOctets_le small
    have flag : ∀ k ≤ 8, 0x80 ||| k = 128 + k := by decide
    have byte : (BitVec.ofNat 8 (128 + countOctets 0 len)).toNat = 128 + countOctets 0 len := by
      rw [BitVec.toNat_ofNat]
      omega
    dsimp only
    rw [flag _ few, set_zero (by omega)]
    rw [writeOctets_eq (by rw [List.length_cons, List.length_drop]; omega), List.take_succ_cons, List.take_zero,
      List.drop_succ_cons, List.drop_drop, List.length_cons, length_beBytes, Nat.add_comm 1]
    refine Prod.ext rfl ?_
    show (BitVec.ofNat 8 (128 + countOctets 0 len)).toNat - 0x80 + 1 = _
    rw [byte]
    omega

/-! ## Integers -/

/-- The digits of an integer without leading zeros. -/
def stripped (val : Bytes) : Bytes := val.drop (leadingZeros val)

/-- The contents octets: the digits, behind a zero when the top bit of the first one is set. -/
def integerContents (val : Bytes) : Bytes :=
  match stripped val with
  | [] => [0]
  | b :: rest => if b.msb then 0 :: b :: rest else b :: rest

def integerBytes (val : Bytes) : Bytes :=
  0x02 :: lengthOctets (integerContents val).length ++ integerContents val

private theorem leadingZeros_le (val : Bytes) : leadingZeros val ≤ val.length := by
  induction val with
  | nil => exact Nat.le_refl 0
  | cons b rest ih =>
    unfold leadingZeros
    split
    · exact Nat.succ_le_succ ih
    · exact Nat.zero_le _

private theorem stripped_cons (b : Byte) (rest : Bytes) :
    stripped (b :: rest) = if b = 0 then stripped rest else b :: rest := by
  unfold stripped
  rw [leadingZeros]
  split <;> rfl

private theorem stripped_head (val : Bytes) : (stripped val).head? ≠ some 0 := by
  induction val with
  | nil => exact nofun
  | cons b rest ih =>
    rw [stripped_cons]
    split
    · exact ih
    · rename_i other
      exact fun zero => other (Option.some.inj zero)

theorem beNat_stripped (val : Bytes) : beNat (stripped val) = beNat val := by
  induction val with
  | nil => rfl
  | cons b rest ih =>
    rw [stripped_cons]
    split
    · rename_i zero
      rw [ih, zero, beNat, show ((0 : BitVec 8).toNat = 0) from rfl, Nat.zero_mul, Nat.zero_add]
    · rfl

private theorem length_stripped (val : Bytes) : (stripped val).length = val.length - leadingZeros val :=
  List.length_drop

private theorem topBit_iff : ∀ b : BitVec 8, b &&& 0x80 ≠ 0 ↔ b.msb = true := by decide

/-- The digit at the offset is the first one that is left. -/
private theorem getD_leadingZeros {val rest : Bytes} {b : Byte} (digits : stripped val = b :: rest) :
    val.getD (leadingZeros val) 0 = b := by
  have first : (val.drop (leadingZeros val)).head? = some b := by
    rw [show val.drop (leadingZeros val) = b :: rest from digits]
    rfl
  rw [List.head?_drop] at first
  rw [List.getD_eq_getElem?_getD, first]
  rfl

private theorem offset_eq_length_iff (val : Bytes) : leadingZeros val = val.length ↔ stripped val = [] := by
  have most := leadingZeros_le val
  rw [← List.length_eq_zero_iff, length_stripped]
  omega

/-- What the helpers find at the front of the digits. -/
private theorem integer_cases (val : Bytes) :
    (leadingZeros val = val.length ∧ stripped val = [] ∧ integerContents val = [0]) ∨
      (leadingZeros val ≠ val.length ∧ ∃ b rest, stripped val = b :: rest ∧ b ≠ 0 ∧
        val.getD (leadingZeros val) 0 = b ∧
        integerContents val = if b.msb then 0 :: b :: rest else b :: rest) := by
  cases digits : stripped val with
  | nil =>
    refine .inl ⟨(offset_eq_length_iff val).mpr digits, rfl, ?_⟩
    unfold integerContents
    rw [digits]
  | cons b rest =>
    refine .inr ⟨fun same => ?_, b, rest, rfl, fun zero => ?_, getD_leadingZeros digits, ?_⟩
    · rw [(offset_eq_length_iff val).mp same] at digits
      cases digits
    · refine stripped_head val ?_
      rw [digits, zero]
      rfl
    · unfold integerContents
      rw [digits]

theorem psaDerIntSize_eq (val : Bytes) : psaDerIntSize val = (integerBytes val).length := by
  unfold psaDerIntSize integerBytes
  dsimp only
  rcases integer_cases val with ⟨all, -, contents⟩ | ⟨some, b, rest, digits, -, first, contents⟩
  · rw [if_pos all, contents]
    rfl
  · have length : val.length - leadingZeros val = rest.length + 1 := by
      rw [← length_stripped, digits]
      rfl
    rw [if_neg some, first, length, contents, List.length_append, List.length_cons, ← psaDerLenSize_eq]
    by_cases top : b.msb = true
    · rw [if_pos ((topBit_iff b).mpr top), if_pos top, List.length_cons, List.length_cons]
      omega
    · rw [if_neg (fun set => top ((topBit_iff b).mp set)), if_neg top, List.length_cons,
        Nat.add_zero (rest.length + 1)]
      omega

private theorem length_integerContents_le (val : Bytes) : (integerContents val).length ≤ val.length + 1 := by
  rcases integer_cases val with ⟨-, -, contents⟩ | ⟨-, b, rest, digits, -, -, contents⟩
  · rw [contents]
    exact Nat.succ_le_succ (Nat.zero_le _)
  · have length := length_stripped val
    rw [digits, List.length_cons] at length
    rw [contents]
    split
    · rw [List.length_cons, List.length_cons]
      omega
    · rw [List.length_cons]
      omega

/-- The contents follow the rules and denote the number. -/
theorem derContents_integerContents (val : Bytes) : DerContents (integerContents val) (beNat val) := by
  rcases integer_cases val with ⟨-, none, contents⟩ | ⟨-, b, rest, digits, other, -, contents⟩
  · have zero : beNat val = 0 := by
      rw [← beNat_stripped, none]
      rfl
    rw [contents, zero]
    exact ⟨rfl, List.cons_ne_nil _ _, fun a b rest same => by cases same⟩
  · have value : beNat (b :: rest) = beNat val := by rw [← digits, beNat_stripped]
    by_cases top : b.msb = true
    · rw [contents, if_pos top]
      refine ⟨?_, List.cons_ne_nil _ _, fun x y more same => ?_⟩
      · unfold contentsValue
        rw [List.headD_cons, if_neg (by decide), beNat, value, show ((0 : BitVec 8).toNat = 0) from rfl,
          Nat.zero_mul, Nat.zero_add]
      · cases same
        exact ⟨fun both => absurd (top.symm.trans both.2) (by decide), fun both => absurd both.1 (by decide)⟩
    · rw [contents, if_neg top]
      refine ⟨?_, List.cons_ne_nil _ _, fun x y more same => ?_⟩
      · unfold contentsValue
        rw [List.headD_cons, if_neg top, value]
      · cases same
        refine ⟨fun both => other both.1, fun both => top ?_⟩
        rw [both.1]
        decide

theorem derInteger_integerBytes {val : Bytes} (small : val.length < 2 ^ 63) :
    DerInteger (integerBytes val) (beNat val) := by
  have most := length_integerContents_le val
  exact ⟨_, _, derLength_lengthOctets (by omega), derContents_integerContents val, rfl⟩

/-! ## Writing -/

private theorem copyTo_append {front tail : Bytes} {position : Nat} (here : position = front.length)
    (bytes : Bytes) : copyTo (front ++ tail) position bytes = front ++ bytes ++ tail.drop bytes.length := by
  subst here
  unfold copyTo
  rw [List.take_left, List.drop_append, List.drop_eq_nil_of_le (by omega), Nat.add_sub_cancel_left,
    List.nil_append]

private theorem set_append {front tail : Bytes} {position : Nat} (here : position = front.length)
    (room : 0 < tail.length) (b : Byte) :
    (front ++ tail).set position b = front ++ [b] ++ tail.drop 1 := by
  subst here
  rw [List.set_append_right _ _ (Nat.le_refl _), Nat.sub_self, set_zero room, List.append_assoc]
  rfl

theorem psaDerWriteInt_eq {out val : Bytes} (small : val.length < 2 ^ 63)
    (room : (integerBytes val).length ≤ out.length) :
    psaDerWriteInt out val =
      (integerBytes val ++ out.drop (integerBytes val).length, (integerBytes val).length) := by
  have most := length_integerContents_le val
  unfold integerBytes at room ⊢
  rw [List.length_append, List.length_cons] at room
  unfold psaDerWriteInt
  rw [set_zero (by omega)]
  dsimp only
  rcases integer_cases val with ⟨all, -, contents⟩ | ⟨some, b, rest, digits, -, first, contents⟩
  · rw [contents] at room ⊢
    have three : 3 ≤ out.length := room
    rw [if_pos all]
    match out, three with
    | _ :: _ :: _ :: _, _ => rfl
  · have length : val.length - leadingZeros val = rest.length + 1 := by
      rw [← length_stripped, digits]
      rfl
    rw [if_neg some, first, length, show val.drop (leadingZeros val) = b :: rest from digits]
    rw [List.drop_succ_cons, List.drop_zero, List.take_succ_cons, List.take_zero]
    by_cases top : b.msb = true
    · have set := (topBit_iff b).mpr top
      rw [contents, if_pos top] at room most ⊢
      rw [show ((0 : Byte) :: b :: rest).length = rest.length + 1 + 1 from rfl] at room most ⊢
      rw [if_pos set, if_pos set, psaDerWriteLen_eq (by omega) (by rw [List.length_drop]; omega)]
      dsimp only
      generalize lengthOctets (rest.length + 1 + 1) = octets at room ⊢
      rw [← List.append_assoc, set_append (by rw [List.length_append, List.length_singleton])
        (by rw [List.length_drop, List.length_drop]; omega), copyTo_append (by simp; omega)]
      simp only [List.drop_drop, List.length_append, List.length_cons, List.append_assoc, List.cons_append,
        List.nil_append, Prod.mk.injEq]
      refine ⟨?_, by omega⟩
      congr 6
      omega
    · have unset : ¬(b &&& 0x80 ≠ 0) := fun set => top ((topBit_iff b).mp set)
      rw [contents, if_neg top] at room most ⊢
      rw [show (b :: rest).length = rest.length + 1 from rfl] at room most ⊢
      rw [if_neg unset, if_neg unset, Nat.add_zero,
        psaDerWriteLen_eq (by omega) (by rw [List.length_drop]; omega)]
      dsimp only
      generalize lengthOctets (rest.length + 1) = octets at room ⊢
      rw [← List.append_assoc, copyTo_append (by simp; omega)]
      simp only [List.drop_drop, List.length_append, List.length_cons, List.append_assoc, List.cons_append,
        List.nil_append, Prod.mk.injEq]
      refine ⟨?_, by omega⟩
      congr 5
      omega

/-! ## The key -/

/-- The encoding of modulus and exponent. -/
def rsaPublicKeyBytes (n e : Bytes) : Bytes :=
  0x30 :: lengthOctets ((integerBytes n).length + (integerBytes e).length) ++ (integerBytes n ++ integerBytes e)

theorem length_lengthOctets_le {len : Nat} (small : len < 2 ^ 64) : (lengthOctets len).length ≤ 9 := by
  rw [← psaDerLenSize_eq]
  unfold psaDerLenSize
  split
  · decide
  · have few := countOctets_le small
    rw [countOctets_add]
    omega

theorem length_integerBytes_le {val : Bytes} (small : val.length < 2 ^ 63) :
    (integerBytes val).length ≤ val.length + 11 := by
  have most := length_integerContents_le val
  have octets := length_lengthOctets_le (show (integerContents val).length < 2 ^ 64 by omega)
  unfold integerBytes
  rw [List.length_append, List.length_cons]
  omega

theorem length_rsaPublicKeyBytes_le {n e : Bytes} (small : n.length + e.length < 2 ^ 63) :
    (rsaPublicKeyBytes n e).length ≤ n.length + e.length + 32 := by
  have nSize := length_integerBytes_le (show n.length < 2 ^ 63 by omega)
  have eSize := length_integerBytes_le (show e.length < 2 ^ 63 by omega)
  have octets := length_lengthOctets_le
    (show (integerBytes n).length + (integerBytes e).length < 2 ^ 64 by omega)
  unfold rsaPublicKeyBytes
  rw [List.length_append, List.length_append, List.length_cons]
  omega

theorem rsaPublicKeySize_eq (n e : Bytes) :
    rsaPublicKeySize n e = (rsaPublicKeyBytes n e).length := by
  unfold rsaPublicKeySize rsaPublicKeyBytes
  dsimp only
  rw [psaDerIntSize_eq, psaDerIntSize_eq, psaDerLenSize_eq, List.length_append, List.length_append,
    List.length_cons, Nat.add_comm 1]

/-- A writer that is given the buffer behind what is written. -/
private theorem take_append_written {front tail : Bytes} {position : Nat} (here : position = front.length) :
    (front ++ tail).take position = front ∧ (front ++ tail).drop position = tail := by
  subst here
  exact ⟨List.take_left, List.drop_left⟩

/-- The export is the encoding, in as many bytes as were computed for it. -/
theorem rsaPublicKeyExport_eq {n e buffer : Bytes} (small : n.length + e.length < 2 ^ 63)
    (room : (rsaPublicKeyBytes n e).length ≤ buffer.length) :
    rsaPublicKeyExport n e buffer = .ok ⟨rsaPublicKeyBytes n e ++ buffer.drop (rsaPublicKeyBytes n e).length,
      (rsaPublicKeyBytes n e).length, (rsaPublicKeyBytes n e).length⟩ := by
  have nSize := length_integerBytes_le (show n.length < 2 ^ 63 by omega)
  have eSize := length_integerBytes_le (show e.length < 2 ^ 63 by omega)
  unfold rsaPublicKeyExport
  rw [rsaPublicKeySize_eq, psaDerIntSize_eq, psaDerIntSize_eq, if_neg (by omega)]
  unfold rsaPublicKeyBytes at room ⊢
  rw [List.length_append, List.length_append, List.length_cons] at room
  dsimp only
  rw [set_zero (by omega), List.drop_succ_cons, List.drop_zero, List.take_succ_cons, List.take_zero,
    psaDerWriteLen_eq (by omega) (by rw [List.length_drop]; omega)]
  generalize lengthOctets _ = octets at room ⊢
  dsimp only
  rw [← List.append_assoc]
  have here : 1 + octets.length = ([(0x30 : Byte)] ++ octets).length := by
    rw [List.length_append, List.length_singleton]
  rw [(take_append_written here).1, (take_append_written here).2,
    psaDerWriteInt_eq (show n.length < 2 ^ 63 by omega) (by simp only [List.length_drop]; omega)]
  dsimp only
  rw [← List.append_assoc ([(0x30 : Byte)] ++ octets)]
  have next : 1 + octets.length + (integerBytes n).length =
      ([(0x30 : Byte)] ++ octets ++ integerBytes n).length := by
    rw [List.length_append, ← here]
  rw [(take_append_written next).1, (take_append_written next).2,
    psaDerWriteInt_eq (show e.length < 2 ^ 63 by omega) (by simp only [List.length_drop]; omega)]
  dsimp only
  simp only [List.drop_drop, List.length_append, List.length_cons, List.append_assoc, List.cons_append,
    List.nil_append]
  congr 2
  · congr 5
    omega
  · omega

/-- Whatever the integers and their leading zeros, the size that is computed is the number of bytes that are
written, these are the DER encoding of the sequence of both, and reading them gives the integers back. -/
theorem rsa_export_is_der (n e buffer : Bytes) (addressable : n.length + e.length < 2 ^ 63) :
    ∃ der, DerIntegerPair der (beNat n) (beNat e) ∧
      readIntegerPair der = some ((beNat n : Int), (beNat e : Int)) ∧ rsaPublicKeySize n e = der.length ∧
      rsaPublicKeyExport n e buffer =
        if buffer.length < der.length then .error ⟨.bufferTooSmall, failing⟩
        else .ok ⟨der ++ buffer.drop der.length, der.length, der.length⟩ := by
  have nSize := length_integerBytes_le (show n.length < 2 ^ 63 by omega)
  have eSize := length_integerBytes_le (show e.length < 2 ^ 63 by omega)
  have encoded : DerIntegerPair (rsaPublicKeyBytes n e) (beNat n) (beNat e) :=
    ⟨_, _, _, derInteger_integerBytes (by omega), derInteger_integerBytes (by omega),
      derLength_lengthOctets (by omega), rfl⟩
  refine ⟨rsaPublicKeyBytes n e, encoded, readIntegerPair_of encoded, rsaPublicKeySize_eq n e, ?_⟩
  split
  · rename_i short
    unfold rsaPublicKeyExport
    rw [rsaPublicKeySize_eq, if_pos short]
  · exact rsaPublicKeyExport_eq addressable (by omega)

/-- A modulus of one byte with its top bit set, behind a zero byte, and the exponent 3. -/
theorem rsa_export_is_der_small :
    DerIntegerPair [0x30, 0x07, 0x02, 0x02, 0x00, 0x8f, 0x02, 0x01, 0x03] 143 3 ∧
      rsaPublicKeyExport [0x00, 0x8f] [0x03] (List.replicate 12 0xee) =
        .ok ⟨[0x30, 0x07, 0x02, 0x02, 0x00, 0x8f, 0x02, 0x01, 0x03, 0xee, 0xee, 0xee], 9, 9⟩ := by
  obtain ⟨der, encoded, -, size, exported⟩ := rsa_export_is_der [0x00, 0x8f] [0x03] (List.replicate 12 0xee)
    (by decide)
  have nine : der.length = 9 := size.symm
  have bytes : rsaPublicKeyExport [0x00, 0x8f] [0x03] (List.replicate 12 0xee) =
      .ok ⟨[0x30, 0x07, 0x02, 0x02, 0x00, 0x8f, 0x02, 0x01, 0x03, 0xee, 0xee, 0xee], 9, 9⟩ := rfl
  rw [nine, if_neg (by decide), bytes] at exported
  have whole : [0x30, 0x07, 0x02, 0x02, 0x00, 0x8f, 0x02, 0x01, 0x03] ++ [0xee, 0xee, 0xee] = der ++ _ :=
    (RsaExport.mk.inj (Except.ok.inj exported)).1
  rw [← List.append_inj_left whole nine.symm] at encoded
  exact ⟨encoded, bytes⟩

end WolfPSA.Guarantees
