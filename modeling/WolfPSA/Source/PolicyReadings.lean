import WolfPSA.Source.KeyPolicy
import WolfPSA.Source.Mac

/-!
# How a policy is read

The predicates that decide whether a permitted algorithm covers a requested one, each in terms of
the fields of the two algorithm identifiers: base algorithm, length field and minimum-length flag for
MAC and AEAD policies, family and hash for signature policies. `wolfpsa_policy_alg_permits`
(`psa_key_storage.c:2858-2883`) is the reading that `psa_check_key_usage` has of its own.
-/

namespace WolfPSA.Source

/-! ## Lengths of message authentication codes -/

/-- The effective length `e` satisfies the policy, for a base algorithm of the given full length. -/
def AcceptsLength (full : Nat) (p : Algorithm) (e : Nat) : Prop :=
  if macIsWildcard p then (if psaMacTruncatedLength p = 0 then full else psaMacTruncatedLength p) ≤ e
  else e = if psaMacTruncatedLength p = 0 then full else psaMacTruncatedLength p

theorem macAlgPermitted_iff {attributes : KeyAttributes} {p a : Algorithm}
    (set : p ≠ psaAlgNone) :
    wolfpsaMacAlgPermitted attributes p a = true ↔
      psaAlgFullLengthMac p = psaAlgFullLengthMac a ∧
      AcceptsLength (psaMacLength attributes.type (psaAlgFullLengthMac a)) p
        (psaMacLength attributes.type a) := by
  unfold wolfpsaMacAlgPermitted AcceptsLength
  by_cases base : psaAlgFullLengthMac p = psaAlgFullLengthMac a
  · rw [if_neg (by simp [set, base]), base]
    simp only [beq_iff_eq, true_and]
    unfold macIsWildcard
    split <;> simp
  · rw [if_pos (by simp [base])]
    simp [base]

theorem macAlgPermitted_none (attributes : KeyAttributes) (a : Algorithm) :
    wolfpsaMacAlgPermitted attributes psaAlgNone a = false := by
  simp [wolfpsaMacAlgPermitted]

/-! ## Tag lengths

An AEAD policy without a tag length permits nothing. -/

/-- The tag length `t` satisfies the policy. -/
def AcceptsTag (p : Algorithm) (t : Nat) : Prop :=
  psaMacTruncatedLength p ≠ 0 ∧
    if macIsWildcard p then psaMacTruncatedLength p ≤ t else t = psaMacTruncatedLength p

theorem shortenedTag_zero (p : Algorithm) :
    psaAlgAeadWithShortenedTag p 0 = psaAlgFullLengthMac p := by
  simp [psaAlgAeadWithShortenedTag, psaAlgFullLengthMac, psaAlgAeadTagLengthMask,
    psaAlgAeadAtLeastThisLengthFlag, psaAlgMacTruncationMask, psaAlgMacAtLeastThisLengthFlag]

theorem aeadEqual_iff (p q : Algorithm) :
    psaAlgAeadEqual p q = true ↔ psaAlgFullLengthMac p = psaAlgFullLengthMac q := by
  have distributed (x y z : Algorithm) : (x ^^^ y) &&& z = x &&& z ^^^ y &&& z := by
    ext i bound
    simp [Bool.and_xor_distrib_right]
  unfold psaAlgAeadEqual
  rw [beq_iff_eq, distributed]
  exact BitVec.xor_eq_zero_iff

/-- The default-tag algorithm of a policy has the base of the policy, if there is one. -/
theorem fullLength_defaultTag {p : Algorithm}
    (known : psaAlgAeadWithDefaultLengthTag p ≠ 0) :
    psaAlgFullLengthMac (psaAlgAeadWithDefaultLengthTag p) = psaAlgFullLengthMac p := by
  unfold psaAlgAeadWithDefaultLengthTag at known ⊢
  simp only [shortenedTag_zero, beq_iff_eq] at known ⊢
  split_ifs at known ⊢ with ccm gcm chacha xchacha ascon
  · exact ccm.symm
  · exact gcm.symm
  · exact chacha.symm
  · exact xchacha.symm
  · exact ascon.symm
  · exact absurd rfl known

theorem defaultTag_congr {p q : Algorithm}
    (base : psaAlgFullLengthMac p = psaAlgFullLengthMac q) :
    psaAlgAeadWithDefaultLengthTag p = psaAlgAeadWithDefaultLengthTag q := by
  unfold psaAlgAeadWithDefaultLengthTag
  simp only [shortenedTag_zero, base]

theorem aeadAlgPermitted_iff {p a : Algorithm} (known : psaAlgAeadWithDefaultLengthTag a ≠ 0) :
    wolfpsaAeadAlgPermitted p a = true ↔
      psaAlgFullLengthMac p = psaAlgFullLengthMac a ∧ AcceptsTag p (psaMacTruncatedLength a) := by
  have bases : psaAlgAeadWithDefaultLengthTag p = psaAlgAeadWithDefaultLengthTag a ↔
      psaAlgFullLengthMac p = psaAlgFullLengthMac a := by
    refine ⟨fun same => ?_, defaultTag_congr⟩
    have knownP : psaAlgAeadWithDefaultLengthTag p ≠ 0 := same ▸ known
    rw [← fullLength_defaultTag knownP, same, fullLength_defaultTag known]
  rw [← bases]
  show (if psaMacTruncatedLength p == 0 || psaAlgAeadWithDefaultLengthTag p !=
      psaAlgAeadWithDefaultLengthTag a then false
    else if macIsWildcard p then decide (psaMacTruncatedLength a ≥ psaMacTruncatedLength p)
    else psaMacTruncatedLength a == psaMacTruncatedLength p) = true ↔ _
  unfold AcceptsTag
  by_cases permits : psaMacTruncatedLength p = 0 ∨
      psaAlgAeadWithDefaultLengthTag p ≠ psaAlgAeadWithDefaultLengthTag a
  · rw [if_pos (by simpa using permits)]
    simp only [Bool.false_eq_true, false_iff]
    tauto
  · rw [if_neg (by simpa using permits)]
    simp only [not_or, not_not] at permits
    cases macIsWildcard p <;> simp [permits]

/-! ## Families and hashes -/

theorem getHash_eq_iff (p q : Algorithm) :
    psaAlgGetHash p = psaAlgGetHash q ↔ p &&& psaAlgHashMask = q &&& psaAlgHashMask := by
  have inj (x y : Algorithm) (same : psaAlgCategoryHash ||| x &&& psaAlgHashMask =
      psaAlgCategoryHash ||| y &&& psaAlgHashMask) : x &&& psaAlgHashMask = y &&& psaAlgHashMask := by
    have fields := congrArg (· &&& psaAlgHashMask) same
    simpa [psaAlgCategoryHash, psaAlgHashMask, BitVec.and_or_distrib_right, BitVec.and_assoc]
      using fields
  have nonzero (x : Algorithm) : psaAlgCategoryHash ||| x &&& psaAlgHashMask ≠ psaAlgNone := by
    intro zero
    have fields := congrArg (· &&& psaAlgCategoryHash) zero
    simp [psaAlgCategoryHash, psaAlgHashMask, psaAlgNone, BitVec.and_or_distrib_right,
      BitVec.and_assoc] at fields
  unfold psaAlgGetHash
  by_cases zeroP : p &&& psaAlgHashMask = 0 <;> by_cases zeroQ : q &&& psaAlgHashMask = 0
  · simp [zeroP, zeroQ]
  · rw [if_pos (by simpa using zeroP), if_neg (by simpa using zeroQ), zeroP]
    exact ⟨fun same => absurd same.symm (nonzero q), fun same => absurd same.symm zeroQ⟩
  · rw [if_neg (by simpa using zeroP), if_pos (by simpa using zeroQ), zeroQ]
    exact ⟨fun same => absurd same (nonzero p), fun same => absurd same zeroP⟩
  · rw [if_neg (by simpa using zeroP), if_neg (by simpa using zeroQ)]
    exact ⟨inj p q, fun same => by rw [same]⟩

theorem getHash_any_iff (p : Algorithm) :
    psaAlgGetHash p = psaAlgAnyHash ↔ p &&& psaAlgHashMask = 0xff := by
  have any : psaAlgAnyHash = psaAlgGetHash 0xff := by decide
  rw [any, getHash_eq_iff]
  rfl

theorem getHash_none_iff (p : Algorithm) :
    psaAlgGetHash p = psaAlgNone ↔ p &&& psaAlgHashMask = 0 := by
  have none : psaAlgNone = psaAlgGetHash 0 := by decide
  rw [none, getHash_eq_iff]
  rfl

/-- A signature algorithm is its family and its hash. -/
theorem sign_ext {p q : Algorithm}
    (family : p &&& ~~~psaAlgHashMask = q &&& ~~~psaAlgHashMask)
    (hash : psaAlgGetHash p = psaAlgGetHash q) : p = q := by
  have parts (x : Algorithm) : x = x &&& ~~~psaAlgHashMask ||| x &&& psaAlgHashMask := by
    rw [← BitVec.and_or_distrib_left]
    exact BitVec.and_allOnes.symm
  rw [parts p, parts q, family, (getHash_eq_iff p q).mp hash]

theorem isEcdsa_of_family {p q : Algorithm}
    (family : p &&& ~~~psaAlgHashMask = q &&& ~~~psaAlgHashMask) :
    psaAlgIsEcdsa p = psaAlgIsEcdsa q := by
  unfold psaAlgIsEcdsa
  rw [family]

theorem isHashMlDsa_of_family {p q : Algorithm}
    (family : p &&& ~~~psaAlgHashMask = q &&& ~~~psaAlgHashMask) :
    psaAlgIsHashMlDsa p = psaAlgIsHashMlDsa q := by
  have masked (x : Algorithm) : x &&& ~~~0x000001ff = x &&& ~~~psaAlgHashMask &&& ~~~0x000001ff := by
    rw [BitVec.and_assoc]
    rfl
  unfold psaAlgIsHashMlDsa
  rw [masked p, masked q, family]

theorem signGetHash_any_iff (p : Algorithm) :
    psaAlgSignGetHash p = psaAlgAnyHash ↔
      psaAlgIsSignHash p = true ∧ psaAlgGetHash p = psaAlgAnyHash := by
  rw [getHash_any_iff]
  have any (x : Algorithm) : x &&& psaAlgHashMask ||| psaAlgCategoryHash = psaAlgAnyHash ↔
      x &&& psaAlgHashMask = 0xff := by
    constructor
    · intro same
      have fields := congrArg (· &&& psaAlgHashMask) same
      simpa [psaAlgCategoryHash, psaAlgHashMask, psaAlgAnyHash, BitVec.and_or_distrib_right,
        BitVec.and_assoc] using fields
    · intro same
      rw [same]
      decide
  unfold psaAlgSignGetHash psaAlgIsHashAndSign
  by_cases signHash : psaAlgIsSignHash p = true
  · rw [signHash]
    by_cases unset : p &&& psaAlgHashMask = 0
    · simp [unset, psaAlgAnyHash]
    · rw [if_pos (by simpa using unset), any]
      simp
  · rw [if_neg (by simp [signHash])]
    simp [signHash, psaAlgAnyHash]

theorem signAlgPermitted_iff (p a : Algorithm) (u : KeyUsage) :
    wolfpsaSignAlgPermitted p a u = true ↔
      p = a ∨
      (psaAlgIsSignHash a = true ∧ psaAlgSignGetHash p = psaAlgAnyHash ∧
        psaAlgSignGetHash a ≠ psaAlgAnyHash ∧
        p &&& ~~~psaAlgHashMask = a &&& ~~~psaAlgHashMask) ∨
      (u &&& (psaKeyUsageVerifyHash ||| psaKeyUsageVerifyMessage) ≠ 0 ∧
        (psaAlgIsEcdsa a = true ∧ psaAlgIsEcdsa p = true ∧ psaAlgGetHash a = psaAlgGetHash p ∧
            psaAlgGetHash a ≠ psaAlgNone ∨
          psaAlgIsHashMlDsa a = true ∧ psaAlgIsHashMlDsa p = true ∧
            psaAlgGetHash a ≠ psaAlgAnyHash ∧
            (psaAlgGetHash p = psaAlgAnyHash ∨ psaAlgGetHash p = psaAlgGetHash a))) := by
  have chain (same wildcard verify ecdsa mlDsa : Bool) :
      (if same then true else if wildcard then true
        else if verify then if ecdsa then true else mlDsa else false) =
        (same || wildcard || verify && (ecdsa || mlDsa)) := by
    cases same <;> cases wildcard <;> cases verify <;> cases ecdsa <;> rfl
  unfold wolfpsaSignAlgPermitted
  rw [chain]
  simp only [Bool.or_eq_true, Bool.and_eq_true, beq_iff_eq, bne_iff_ne, and_assoc, or_assoc]

theorem asymmetricAlgPermitted_iff {p a : Algorithm} {u : KeyUsage}
    (sign : psaAlgIsSign a = true) :
    wolfpsaAsymmetricAlgPermitted p a u = true ↔
      p ≠ psaAlgNone ∧ wolfpsaSignAlgPermitted p a u = true := by
  have noAgreement : psaAlgIsKeyAgreement a = false := by
    rw [psaAlgIsKeyAgreement, beq_iff_eq.mp sign]
    decide
  unfold wolfpsaAsymmetricAlgPermitted
  rw [noAgreement]
  by_cases unset : p = psaAlgNone <;> simp [unset]

theorem isSign_of_isSignHash {p : Algorithm} (signHash : psaAlgIsSignHash p = true) :
    psaAlgIsSign p = true := by
  simp only [psaAlgIsSignHash, Bool.and_eq_true] at signHash
  exact signHash.1.1

theorem isSign_of_isHashMlDsa {p : Algorithm} (mlDsa : psaAlgIsHashMlDsa p = true) :
    psaAlgIsSign p = true := by
  have masked : p &&& psaAlgCategoryMask = p &&& ~~~0x000001ff &&& psaAlgCategoryMask := by
    rw [BitVec.and_assoc]
    rfl
  rw [psaAlgIsSign, masked, beq_iff_eq.mp mlDsa]
  decide

/-! ## The reading of the usage query -/

/-- `wolfpsa_policy_alg_permits`. -/
def wolfpsaPolicyAlgPermits (keyAlg alg : Algorithm) : Bool :=
  if keyAlg == psaAlgNone then false
  else if keyAlg == alg then true
  else
    psaAlgIsSignHash alg && psaAlgSignGetHash keyAlg == psaAlgAnyHash &&
      psaAlgSignGetHash alg != psaAlgAnyHash &&
      keyAlg &&& ~~~psaAlgHashMask == alg &&& ~~~psaAlgHashMask

/-- `wolfpsa_key_permits_alg`. -/
def wolfpsaKeyPermitsAlg (attributes : KeyAttributes) (alg : Algorithm) : Bool :=
  wolfpsaPolicyAlgPermits attributes.alg alg || wolfpsaPolicyAlgPermits attributes.alg2 alg

/-- The decision of `psa_check_key_usage` on the attributes of the key it found. -/
def checkKeyUsageAttributes (attributes : KeyAttributes) (alg : Algorithm) (usage : KeyUsage) :
    Status :=
  if !hasUsage attributes.usage usage then .notPermitted
  else if alg != psaAlgNone && !wolfpsaKeyPermitsAlg attributes alg then .notPermitted
  else .success

theorem policyAlgPermits_iff (p a : Algorithm) :
    wolfpsaPolicyAlgPermits p a = true ↔
      p ≠ psaAlgNone ∧ (p = a ∨
        (psaAlgIsSignHash a = true ∧ psaAlgSignGetHash p = psaAlgAnyHash ∧
          psaAlgSignGetHash a ≠ psaAlgAnyHash ∧
          p &&& ~~~psaAlgHashMask = a &&& ~~~psaAlgHashMask)) := by
  unfold wolfpsaPolicyAlgPermits
  by_cases unset : p = psaAlgNone
  · simp [unset]
  by_cases same : p = a
  · simp [same]
  · rw [if_neg (by simpa using unset), if_neg (by simpa using same)]
    simp only [Bool.and_eq_true, beq_iff_eq, bne_iff_ne, and_assoc, ne_eq, unset, not_false_eq_true,
      same, false_or, true_and]

end WolfPSA.Source
