import WolfPSA.Guarantees.CopySignature

/-!
# The readings of one policy

A policy is read by the entry points, by the intersection of `psa_copy_key` and by the query
`psa_check_key_usage`, each with a predicate of its own. The readings of `PSA_ALG_ANY_HASH` should
cover the same algorithms, and the query should answer as the operation would. The first fails for
the hashless member of a family, the second for every policy that covers an algorithm it does not
name.
-/

namespace WolfPSA.Guarantees
open Lib Source Prog

/-! ## The ANY_HASH wildcard -/

/-- The policy of a hash-and-sign family with the hash `PSA_ALG_ANY_HASH`. -/
def anyHashPolicy (family : Algorithm) : Algorithm :=
  family &&& ~~~psaAlgHashMask ||| psaAlgHashMask

private theorem anyHashPolicy_family (family : Algorithm) :
    anyHashPolicy family &&& ~~~psaAlgHashMask = family &&& ~~~psaAlgHashMask := by
  simp [anyHashPolicy, BitVec.and_or_distrib_right, BitVec.and_assoc]

private theorem anyHashPolicy_getHash (family : Algorithm) :
    psaAlgGetHash (anyHashPolicy family) = psaAlgAnyHash := by
  rw [getHash_any_iff]
  simp [anyHashPolicy, psaAlgHashMask, BitVec.and_or_distrib_right, BitVec.and_assoc]

private theorem anyHashPolicy_signHash {family : Algorithm} (sign : psaAlgIsSign family = true) :
    psaAlgIsSignHash (anyHashPolicy family) = true := by
  have hash := anyHashPolicy_getHash family
  have category : anyHashPolicy family &&& psaAlgCategoryMask = family &&& psaAlgCategoryMask := by
    simp [anyHashPolicy, psaAlgHashMask, psaAlgCategoryMask, BitVec.and_or_distrib_right,
      BitVec.and_assoc]
  have notPure : anyHashPolicy family ≠ psaAlgPureEddsa := by
    intro same
    rw [same] at hash
    exact absurd hash (by decide)
  have notCtx : anyHashPolicy family ≠ psaAlgEddsaCtx := by
    intro same
    rw [same] at hash
    exact absurd hash (by decide)
  rw [psaAlgIsSignHash, psaAlgIsSign, category, beq_iff_eq.mp sign]
  simp [notPure, notCtx]

/-- A concrete signature algorithm does not have the hash `PSA_ALG_ANY_HASH`. -/
private theorem named_of_concrete {a : Algorithm} (concrete : psaAlgIsWildcard a = false) :
    psaAlgSignGetHash a ≠ psaAlgAnyHash := by
  intro any
  have hashed : psaAlgIsHashAndSign a = true := by
    by_contra unhashed
    rw [psaAlgSignGetHash, if_neg unhashed] at any
    exact absurd any (by decide)
  rw [psaAlgIsWildcard, if_pos hashed, any] at concrete
  exact absurd concrete (by decide)

/-- The signature algorithm is of the family, its hash aside. -/
def MemberOf (family a : Algorithm) : Prop :=
  psaAlgIsSignHash a = true ∧ family &&& ~~~psaAlgHashMask = a &&& ~~~psaAlgHashMask

section

variable {family a : Algorithm} (sign : psaAlgIsSign family = true)
  (concrete : psaAlgIsWildcard a = false)

include sign concrete

private theorem anyHashPolicy_ne : anyHashPolicy family ≠ a := by
  intro same
  refine named_of_concrete concrete ?_
  rw [← same, signGetHash_any_iff]
  exact ⟨anyHashPolicy_signHash sign, anyHashPolicy_getHash family⟩

private theorem signing_covers_iff {u : KeyUsage} (signing : ¬Verifies u) :
    wolfpsaSignAlgPermitted (anyHashPolicy family) a u = true ↔ MemberOf family a := by
  have wildcard : psaAlgSignGetHash (anyHashPolicy family) = psaAlgAnyHash :=
    (signGetHash_any_iff _).mpr ⟨anyHashPolicy_signHash sign, anyHashPolicy_getHash family⟩
  rw [signAlgPermitted_iff, anyHashPolicy_family]
  constructor
  · rintro (same | ⟨signHash, -, -, member⟩ | ⟨verify, -⟩)
    · exact absurd same (anyHashPolicy_ne sign concrete)
    · exact ⟨signHash, member⟩
    · exact absurd verify signing
  · rintro ⟨signHash, member⟩
    exact .inr (.inl ⟨signHash, wildcard, named_of_concrete concrete, member⟩)

private theorem query_covers_iff :
    wolfpsaPolicyAlgPermits (anyHashPolicy family) a = true ↔ MemberOf family a := by
  have wildcard : psaAlgSignGetHash (anyHashPolicy family) = psaAlgAnyHash :=
    (signGetHash_any_iff _).mpr ⟨anyHashPolicy_signHash sign, anyHashPolicy_getHash family⟩
  have set : anyHashPolicy family ≠ psaAlgNone := by
    intro none
    rw [none] at wildcard
    exact absurd wildcard (by decide)
  rw [policyAlgPermits_iff, anyHashPolicy_family]
  constructor
  · rintro ⟨-, same | ⟨signHash, -, -, member⟩⟩
    · exact absurd same (anyHashPolicy_ne sign concrete)
    · exact ⟨signHash, member⟩
  · rintro ⟨signHash, member⟩
    exact ⟨set, .inr ⟨signHash, wildcard, named_of_concrete concrete, member⟩⟩

/-- The intersection keeps a hashless member of the PKCS#1 v1.5 family only. -/
private theorem intersect_covers_iff :
    wolfpsaAlgIntersect (anyHashPolicy family) a = some a ↔
      MemberOf family a ∧ (psaAlgGetHash a ≠ psaAlgNone ∨
        family &&& ~~~psaAlgHashMask = psaAlgRsaPkcs1v15SignBase) := by
  have signHashPolicy := anyHashPolicy_signHash sign
  have category := beq_iff_eq.mp (isSign_of_isSignHash signHashPolicy)
  have noMac : psaAlgIsMac (anyHashPolicy family) = false := by
    rw [psaAlgIsMac, category]
    decide
  have noAead : psaAlgIsAead (anyHashPolicy family) = false := by
    rw [psaAlgIsAead, category]
    decide
  unfold wolfpsaAlgIntersect
  rw [if_neg (by simpa using anyHashPolicy_ne sign concrete), anyHashPolicy_family, signHashPolicy,
    noMac, noAead]
  by_cases member : MemberOf family a
  · have named : (psaAlgGetHash a == psaAlgAnyHash) = false := by
      refine beq_false_of_ne fun any => named_of_concrete concrete ?_
      exact (signGetHash_any_iff a).mpr ⟨member.1, any⟩
    rw [if_pos (by simpa using ⟨member.2, member.1⟩)]
    unfold signPolicyIntersect
    rw [anyHashPolicy_getHash, anyHashPolicy_family, named]
    by_cases kept : psaAlgGetHash a ≠ psaAlgNone ∨
        family &&& ~~~psaAlgHashMask = psaAlgRsaPkcs1v15SignBase
    · simp [member, kept]
    · simp [member, kept]
  · rw [if_neg (by
      simp only [Bool.and_true, Bool.and_eq_true, beq_iff_eq]
      exact fun both => member ⟨both.2, both.1⟩)]
    simp [member]

end

/-- The three readings of the wildcard agree on `a`, and cover a hashless algorithm only if it is
`PSA_ALG_RSA_PKCS1V15_SIGN_RAW` under its own family. -/
structure AnyHashMeansOneSet (family a : Algorithm) : Prop where
  copies : ∀ u, ¬Verifies u → (wolfpsaSignAlgPermitted (anyHashPolicy family) a u = true ↔
    wolfpsaAlgIntersect (anyHashPolicy family) a = some a)
  queries : ∀ u, ¬Verifies u → (wolfpsaSignAlgPermitted (anyHashPolicy family) a u = true ↔
    wolfpsaPolicyAlgPermits (anyHashPolicy family) a = true)
  hashless : psaAlgGetHash a = psaAlgNone → ∀ u, ¬Verifies u →
    (wolfpsaSignAlgPermitted (anyHashPolicy family) a u = true ↔
      a = psaAlgRsaPkcs1v15SignBase ∧ MemberOf family a)

/-- A hashless algorithm is the base of its family. -/
private theorem eq_family_of_hashless {family a : Algorithm} (hashless : psaAlgGetHash a = psaAlgNone)
    (member : family &&& ~~~psaAlgHashMask = a &&& ~~~psaAlgHashMask) :
    a = family &&& ~~~psaAlgHashMask := by
  refine sign_ext (by rw [← member, BitVec.and_assoc, BitVec.and_self]) ?_
  rw [hashless, eq_comm, getHash_none_iff, BitVec.and_assoc]
  simp [psaAlgHashMask]

/-- The three readings of `PSA_ALG_ANY_HASH` agree on a concrete signature algorithm exactly when it
is not the hashless member of the family, `PSA_ALG_RSA_PKCS1V15_SIGN_RAW` apart. -/
theorem any_hash_means_one_set_iff {family a : Algorithm} (sign : psaAlgIsSign family = true)
    (concrete : psaAlgIsWildcard a = false) :
    AnyHashMeansOneSet family a ↔
      ¬(a = family &&& ~~~psaAlgHashMask ∧ psaAlgIsSignHash a = true ∧
        a ≠ psaAlgRsaPkcs1v15SignBase) := by
  have signs : ¬Verifies psaKeyUsageSignHash := by
    unfold Verifies
    decide
  constructor
  · rintro agree ⟨base, signHash, notRaw⟩
    have hashless : psaAlgGetHash a = psaAlgNone := by
      rw [getHash_none_iff, base, BitVec.and_assoc]
      simp [psaAlgHashMask]
    have member : MemberOf family a := by
      refine ⟨signHash, ?_⟩
      rw [base, BitVec.and_assoc, BitVec.and_self]
    have covered := (signing_covers_iff sign concrete signs).mpr member
    exact notRaw ((agree.hashless hashless _ signs).mp covered).1
  · intro spared
    have kept (member : MemberOf family a) : psaAlgGetHash a ≠ psaAlgNone ∨
        family &&& ~~~psaAlgHashMask = psaAlgRsaPkcs1v15SignBase := by
      by_contra dropped
      simp only [not_or, not_not] at dropped
      have base := eq_family_of_hashless dropped.1 member.2
      exact spared ⟨base, member.1, fun raw => dropped.2 (base.symm.trans raw)⟩
    refine ⟨fun u signing => ?_, fun u signing => ?_, fun hashless u signing => ?_⟩
    · rw [signing_covers_iff sign concrete signing, intersect_covers_iff sign concrete]
      exact ⟨fun member => ⟨member, kept member⟩, fun both => both.1⟩
    · rw [signing_covers_iff sign concrete signing, query_covers_iff sign concrete]
    · rw [signing_covers_iff sign concrete signing]
      refine ⟨fun member => ⟨?_, member⟩, fun both => both.2⟩
      exact (eq_family_of_hashless hashless member.2).trans
        ((kept member).resolve_left (not_not.mpr hashless))

theorem any_hash_covers_ecdsa_sha256 :
    AnyHashMeansOneSet psaAlgEcdsaBase (psaAlgEcdsa psaAlgSha256) :=
  (any_hash_means_one_set_iff (by decide) (by decide)).mpr (by decide)

/-- `PSA_ALG_ECDSA(PSA_ALG_ANY_HASH)` lets a key sign under `PSA_ALG_ECDSA_ANY`, and no copy of it. -/
theorem ecdsa_any_signs_but_is_not_copied :
    ¬AnyHashMeansOneSet psaAlgEcdsaBase psaAlgEcdsaBase := by
  intro agree
  have signs : ¬Verifies psaKeyUsageSignHash := by
    unfold Verifies
    decide
  have copied := (agree.copies psaKeyUsageSignHash signs).mp (by decide)
  exact absurd copied (by decide)

/-! ## The usage query -/

/-- The operation families with a policy check of their own. -/
inductive PolicyUser where
  | mac
  | aead
  | signature
  deriving DecidableEq

/-- The concrete algorithms and the usage flags of an operation family. The AEAD algorithms are those
of the five families of the API. -/
def PolicyUser.Uses : PolicyUser → Algorithm → KeyUsage → Prop
  | .mac, a, u => psaAlgIsMac a = true ∧ psaAlgIsWildcard a = false ∧
    u ∈ [psaKeyUsageSignMessage, psaKeyUsageVerifyMessage]
  | .aead, a, u => psaAlgIsAead a = true ∧ psaAlgAeadWithDefaultLengthTag a ≠ 0 ∧
    psaAlgIsWildcard a = false ∧ u ∈ [psaKeyUsageEncrypt, psaKeyUsageDecrypt]
  | .signature, a, u => psaAlgIsSign a = true ∧ psaAlgIsWildcard a = false ∧ u ∈ signatureUsages

/-- The test of one permitted algorithm. -/
def PolicyUser.permits (attributes : KeyAttributes) (p a : Algorithm) (u : KeyUsage) :
    PolicyUser → Bool
  | .mac => wolfpsaMacAlgPermitted attributes p a
  | .aead => wolfpsaAeadAlgPermitted p a
  | .signature => wolfpsaAsymmetricAlgPermitted p a u

/-- The usage and algorithm tests of `wolfpsa_mac_check_key`, `wolfpsa_aead_check_key` and
`wolfpsa_asymmetric_check_key`. -/
def PolicyUser.passes (user : PolicyUser) (attributes : KeyAttributes) (a : Algorithm)
    (u : KeyUsage) : Bool :=
  hasUsage attributes.usage u &&
    (user.permits attributes attributes.alg a u || user.permits attributes attributes.alg2 a u)

/-- The MAC check: the key, its type, and the two tests. -/
theorem wolfpsaMacCheckKey_ok_iff {getKeyData : KeyLookup} {key : KeyId} {u : KeyUsage}
    {a : Algorithm} {attributes : KeyAttributes} {data : Bytes}
    (found : getKeyData key = .ok (attributes, data)) :
    wolfpsaMacCheckKey getKeyData key u a = .ok (attributes, data) ↔
      (psaAlgIsHmac a = true ∧ attributes.type = psaKeyTypeHmac ∨
        psaAlgIsHmac a = false ∧ psaAlgIsBlockCipherMac a = true ∧
          attributes.type = psaKeyTypeAes) ∧
      PolicyUser.mac.passes attributes a u = true := by
  unfold wolfpsaMacCheckKey PolicyUser.passes PolicyUser.permits
  rw [found]
  dsimp only
  generalize wolfpsaMacAlgPermitted attributes attributes.alg a = first
  generalize wolfpsaMacAlgPermitted attributes attributes.alg2 a = second
  cases psaAlgIsHmac a <;> cases first <;> split_ifs <;> simp_all

/-- The AEAD check on the attributes: algorithm and type suit each other, and the two tests. -/
theorem wolfpsaAeadCheckAttributes_iff {attributes : KeyAttributes} {u : KeyUsage} {a : Algorithm}
    (streams : (psaAlgAeadEqual a psaAlgGcm || psaAlgAeadEqual a psaAlgCcm ||
      psaAlgAeadEqual a psaAlgChacha20Poly1305) = true) :
    wolfpsaAeadCheckAttributes attributes u a = .success ↔
      attributes.type = (if psaAlgAeadEqual a psaAlgChacha20Poly1305 then psaKeyTypeChacha20
        else psaKeyTypeAes) ∧ PolicyUser.aead.passes attributes a u = true := by
  have tagged (p : Algorithm) (none : psaAlgAeadGetTagLength a = 0) :
      wolfpsaAeadAlgPermitted p a = false := by
    unfold wolfpsaAeadAlgPermitted
    rw [none]
    by_cases zero : psaAlgAeadGetTagLength p = 0
    · simp [zero]
    · simp [zero, Ne.symm zero]
  unfold wolfpsaAeadCheckAttributes PolicyUser.passes PolicyUser.permits wolfpsaAeadKeyPermitsAlg
  rw [if_pos streams]
  by_cases none : psaAlgAeadGetTagLength a = 0
  · rw [tagged _ none, tagged _ none, none]
    split_ifs <;> simp_all
  · generalize wolfpsaAeadAlgPermitted attributes.alg a = first
    generalize wolfpsaAeadAlgPermitted attributes.alg2 a = second
    cases psaAlgAeadEqual a psaAlgChacha20Poly1305 <;> cases first <;> split_ifs <;> simp_all

theorem wolfpsaAsymmetricCheckAttributes_iff (attributes : KeyAttributes) (u : KeyUsage)
    (a : Algorithm) : wolfpsaAsymmetricCheckAttributes attributes u a = .success ↔
      PolicyUser.signature.passes attributes a u = true := by
  unfold wolfpsaAsymmetricCheckAttributes PolicyUser.passes PolicyUser.permits
  dsimp only
  generalize wolfpsaAsymmetricAlgPermitted attributes.alg a u = first
  cases first <;> split_ifs <;> simp_all

/-! ### What a policy covers -/

/-- The policy names the algorithm: it is the algorithm itself or the `PSA_ALG_ANY_HASH` policy of
its family. -/
def Names (p a : Algorithm) : Prop := p = a ∨ psaAlgIsSignHash a = true ∧ p = anyHashPolicy a

/-- The policy covers the algorithm in the eyes of the operation although it does not name it: by a
minimum length, by the other encoding of the full length of a MAC, or, in verification, as the other
variant of ECDSA or HashML-DSA. -/
def CoversUnnamed (type : KeyType) (p a : Algorithm) (u : KeyUsage) : PolicyUser → Prop
  | .mac => psaAlgFullLengthMac p = psaAlgFullLengthMac a ∧
    let full := psaMacLength type (psaAlgFullLengthMac a)
    if macIsWildcard p then
      (if psaMacTruncatedLength p = 0 then full else psaMacTruncatedLength p) ≤ psaMacLength type a
    else
      psaMacTruncatedLength p = 0 ∧ psaMacTruncatedLength a ≠ 0 ∧ psaMacTruncatedLength a = full ∨
        psaMacTruncatedLength a = 0 ∧ psaMacTruncatedLength p ≠ 0 ∧ psaMacTruncatedLength p = full
  | .aead => psaAlgFullLengthMac p = psaAlgFullLengthMac a ∧ macIsWildcard p = true ∧
    psaMacTruncatedLength p ≠ 0 ∧ psaMacTruncatedLength p ≤ psaMacTruncatedLength a
  | .signature => Verifies u ∧
    (psaAlgIsEcdsa a = true ∧ psaAlgIsEcdsa p = true ∧ psaAlgGetHash a = psaAlgGetHash p ∧
        psaAlgGetHash a ≠ psaAlgNone ∨
      psaAlgIsHashMlDsa a = true ∧ psaAlgIsHashMlDsa p = true ∧ psaAlgGetHash a ≠ psaAlgAnyHash ∧
        (psaAlgGetHash p = psaAlgAnyHash ∨ psaAlgGetHash p = psaAlgGetHash a))

/-- The AEAD algorithm has no tag: nothing permits it. -/
def PolicyUser.Tagless (a : Algorithm) (user : PolicyUser) : Prop :=
  user = .aead ∧ psaMacTruncatedLength a = 0

section

variable {attributes : KeyAttributes} {p a : Algorithm} {u : KeyUsage}

private theorem names_iff_eq (noSign : psaAlgIsSignHash a = false) : Names p a ↔ p = a := by
  simp [Names, noSign]

/-- The query permits exactly what a policy names. -/
private theorem policyAlgPermits_names (set : a ≠ psaAlgNone)
    (concrete : psaAlgSignGetHash a ≠ psaAlgAnyHash) :
    wolfpsaPolicyAlgPermits p a = true ↔ Names p a := by
  rw [policyAlgPermits_iff, signGetHash_any_iff]
  constructor
  · rintro ⟨-, same | ⟨signHash, ⟨-, any⟩, -, family⟩⟩
    · exact .inl same
    · refine .inr ⟨signHash, sign_ext ?_ ?_⟩
      · rw [family, anyHashPolicy_family]
      · rw [any, anyHashPolicy_getHash]
  · rintro (rfl | ⟨signHash, rfl⟩)
    · exact ⟨set, .inl rfl⟩
    · have signHash' := anyHashPolicy_signHash (isSign_of_isSignHash signHash)
      refine ⟨?_, .inr ⟨signHash, ⟨signHash', anyHashPolicy_getHash a⟩, concrete,
        anyHashPolicy_family a⟩⟩
      intro none
      rw [none] at signHash'
      exact absurd signHash' (by decide)

private theorem macPermits_iff (mac : psaAlgIsMac a = true) (concrete : macIsWildcard a = false) :
    wolfpsaMacAlgPermitted attributes p a = true ↔
      p = a ∨ CoversUnnamed attributes.type p a u .mac := by
  by_cases unset : p = psaAlgNone
  · have foreign : psaAlgFullLengthMac p ≠ psaAlgFullLengthMac a := by
      intro base
      have category := category_of_base base
      rw [beq_iff_eq.mp mac, unset] at category
      exact absurd category (by decide)
    have different : p ≠ a := fun same => foreign (by rw [same])
    rw [unset, macAlgPermitted_none]
    rw [unset] at foreign different
    simp [CoversUnnamed, foreign, different]
  · rw [macAlgPermitted_iff unset]
    have effective := psaMacLength_eq attributes.type a
    by_cases base : psaAlgFullLengthMac p = psaAlgFullLengthMac a
    · simp only [base, true_and, CoversUnnamed, AcceptsLength]
      cases wild : macIsWildcard p with
      | true =>
        have different : p ≠ a := by
          rintro rfl
          rw [wild] at concrete
          cases concrete
        simp [different]
      | false =>
        have same_iff : p = a ↔ psaMacTruncatedLength p = psaMacTruncatedLength a :=
          ⟨fun same => by rw [same], fun lengths => lengthPolicy_ext base lengths
            (wild.trans concrete.symm)⟩
        rw [same_iff, effective]
        simp only [Bool.false_eq_true, if_false]
        split_ifs <;> omega
    · have different : p ≠ a := fun same => base (by rw [same])
      simp [base, different, CoversUnnamed]

private theorem aeadPermits_iff (known : psaAlgAeadWithDefaultLengthTag a ≠ 0)
    (concrete : macIsWildcard a = false) :
    wolfpsaAeadAlgPermitted p a = true ↔
      p = a ∧ psaMacTruncatedLength a ≠ 0 ∨ CoversUnnamed attributes.type p a u .aead := by
  rw [aeadAlgPermitted_iff known]
  by_cases base : psaAlgFullLengthMac p = psaAlgFullLengthMac a
  · simp only [base, true_and, CoversUnnamed, AcceptsTag]
    cases wild : macIsWildcard p with
    | true =>
      have different : p ≠ a := by
        rintro rfl
        rw [wild] at concrete
        cases concrete
      simp [different]
    | false =>
      have same_iff : p = a ↔ psaMacTruncatedLength p = psaMacTruncatedLength a :=
        ⟨fun same => by rw [same], fun lengths => lengthPolicy_ext base lengths
          (wild.trans concrete.symm)⟩
      rw [same_iff]
      simp only [Bool.false_eq_true, if_false, false_and, or_false]
      omega
  · have different : p ≠ a := fun same => base (by rw [same])
    simp [base, different, CoversUnnamed]

private theorem signPermits_iff (sign : psaAlgIsSign a = true)
    (concrete : psaAlgSignGetHash a ≠ psaAlgAnyHash) :
    wolfpsaAsymmetricAlgPermitted p a u = true ↔
      Names p a ∨ CoversUnnamed attributes.type p a u .signature := by
  have set : a ≠ psaAlgNone := by
    rintro rfl
    exact absurd sign (by decide)
  rw [← policyAlgPermits_names set concrete, asymmetricAlgPermitted_iff sign, signAlgPermitted_iff,
    policyAlgPermits_iff]
  by_cases unset : p = psaAlgNone
  · subst unset
    have noEcdsa : psaAlgIsEcdsa psaAlgNone = false := by decide
    have noMlDsa : psaAlgIsHashMlDsa psaAlgNone = false := by decide
    simp [CoversUnnamed, noEcdsa, noMlDsa]
  · simp only [ne_eq, unset, not_false_eq_true, true_and, or_assoc]
    rfl

private theorem wildcard_eq_of_length (length : psaAlgIsMac a = true ∨ psaAlgIsAead a = true) :
    psaAlgIsSignHash a = false ∧ psaAlgIsWildcard a = macIsWildcard a := by
  have category : a &&& psaAlgCategoryMask = psaAlgCategoryMac ∨
      a &&& psaAlgCategoryMask = psaAlgCategoryAead := length.imp beq_iff_eq.mp beq_iff_eq.mp
  have noSign : psaAlgIsSignHash a = false := by
    rw [psaAlgIsSignHash, psaAlgIsSign]
    rcases category with mac | aead
    · rw [mac]
      rfl
    · rw [aead]
      rfl
  have unhashed : psaAlgIsHashAndSign a = false := by rw [psaAlgIsHashAndSign, noSign]; rfl
  refine ⟨noSign, ?_⟩
  rw [psaAlgIsWildcard, if_neg (by simp [unhashed])]
  rcases category with mac | aead
  · rw [if_pos (by rw [psaAlgIsMac, mac]; rfl)]
    rfl
  · rw [if_neg (by rw [psaAlgIsMac, aead]; decide), if_pos (by rw [psaAlgIsAead, aead]; rfl)]
    rfl

variable {user : PolicyUser}

/-- What the query permits, for the algorithms of an operation family. -/
private theorem query_iff (uses : user.Uses a u) :
    checkKeyUsageAttributes attributes a u = .success ↔ hasUsage attributes.usage u = true ∧
      (Names attributes.alg a ∨ Names attributes.alg2 a) := by
  obtain ⟨set, concrete⟩ : a ≠ psaAlgNone ∧ psaAlgSignGetHash a ≠ psaAlgAnyHash := by
    cases user with
    | mac =>
      refine ⟨?_, named_of_concrete uses.2.1⟩
      rintro rfl
      exact absurd uses.1 (by decide)
    | aead =>
      refine ⟨?_, named_of_concrete uses.2.2.1⟩
      rintro rfl
      exact absurd uses.1 (by decide)
    | signature =>
      refine ⟨?_, named_of_concrete uses.2.1⟩
      rintro rfl
      exact absurd uses.1 (by decide)
  unfold checkKeyUsageAttributes wolfpsaKeyPermitsAlg
  rw [← policyAlgPermits_names set concrete, ← policyAlgPermits_names set concrete]
  generalize wolfpsaPolicyAlgPermits attributes.alg a = first
  cases first <;> split_ifs <;> simp_all

private theorem permits_iff (uses : user.Uses a u) :
    user.permits attributes p a u = true ↔
      Names p a ∧ ¬user.Tagless a ∨ CoversUnnamed attributes.type p a u user := by
  cases user with
  | mac =>
    obtain ⟨noSign, wildcard⟩ := wildcard_eq_of_length (.inl uses.1)
    rw [names_iff_eq noSign]
    simpa [PolicyUser.permits, PolicyUser.Tagless] using macPermits_iff uses.1 (wildcard ▸ uses.2.1)
  | aead =>
    obtain ⟨noSign, wildcard⟩ := wildcard_eq_of_length (.inr uses.1)
    rw [names_iff_eq noSign]
    simpa [PolicyUser.permits, PolicyUser.Tagless] using
      aeadPermits_iff uses.2.1 (wildcard ▸ uses.2.2.1)
  | signature =>
    simpa [PolicyUser.permits, PolicyUser.Tagless] using
      signPermits_iff uses.1 (named_of_concrete uses.2.1)

private theorem not_covers_of_tagless (tagless : user.Tagless a) :
    ¬CoversUnnamed attributes.type p a u user := by
  obtain ⟨rfl, zero⟩ := tagless
  rintro ⟨-, -, nonzero, bound⟩
  omega

/-- The policies of the key name the algorithm, or do not cover it at all. -/
def NamedOrUncovered (user : PolicyUser) (attributes : KeyAttributes) (a : Algorithm)
    (u : KeyUsage) : Prop :=
  (Names attributes.alg a ∨ Names attributes.alg2 a) ∧ ¬user.Tagless a ∨
    ¬Names attributes.alg a ∧ ¬Names attributes.alg2 a ∧
      ¬CoversUnnamed attributes.type attributes.alg a u user ∧
      ¬CoversUnnamed attributes.type attributes.alg2 a u user

private theorem query_passes_iff (uses : user.Uses a u) :
    (checkKeyUsageAttributes attributes a u = .success ↔ user.passes attributes a u = true) ↔
      (hasUsage attributes.usage u = true → NamedOrUncovered user attributes a u) := by
  rw [query_iff uses, PolicyUser.passes, Bool.and_eq_true, Bool.or_eq_true, permits_iff uses,
    permits_iff uses]
  unfold NamedOrUncovered
  by_cases granted : hasUsage attributes.usage u = true
  · simp only [granted, true_and, forall_const]
    by_cases tagless : user.Tagless a
    · simp only [tagless, not_true_eq_false, and_false, false_or, not_covers_of_tagless tagless,
        or_false, not_false_eq_true, and_true, iff_false, not_or]
    · simp only [tagless, not_false_eq_true, and_true]
      by_cases named : Names attributes.alg a <;> by_cases named2 : Names attributes.alg2 a <;>
        simp [named, named2]
  · simp [granted]

end

/-! ### The query as it runs -/

/-- `psa_check_key_usage` behind its look-up. -/
private def queryStatus (a : Algorithm) (u : KeyUsage) : Except Failure KeyAttributes → Status
  | .error status => status.val
  | .ok told => checkKeyUsageAttributes told a u

/-- `psa_check_key_usage` answers as the operation would, for every key that is found and every
concrete algorithm and usage of the operation, exactly when the key lacks the usage, or the policies
of the key name the algorithm, or they do not cover it. -/
theorem check_key_usage_truthful_iff {store : StoreConfig} {w : World} {faults : Nat → Fault}
    {key : KeyId} {attributes : KeyAttributes} {data : Bytes}
    (found : KeyFound store w key attributes data)
    (answered : ∃ told, (runOn store faults (psaGetKeyAttributes key) w).1 = .ok told)
    {user : PolicyUser} {a : Algorithm} {u : KeyUsage} (uses : user.Uses a u) :
    ((runOn store faults (psaCheckKeyUsage key a u) w).1 = .success ↔
        user.passes attributes a u = true) ↔
      (hasUsage attributes.usage u = true → NamedOrUncovered user attributes a u) := by
  obtain ⟨told, answer⟩ := answered
  have same : told = { attributes with id := key } := by
    have spec := (runOn_post (psaGetKeyAttributes_spec store w key) faults).2 told answer
    cases found with
    | volatile node equal =>
      rcases spec with ⟨node', found', rfl⟩ | ⟨missing, -⟩
      · rw [node] at found'
        rw [equal, Option.some.inj found']
      · rw [node] at missing
        cases missing
    | persistent missing record equal =>
      rcases spec with ⟨node', found', -⟩ | ⟨-, header, rest, record', rfl⟩
      · rw [missing] at found'
        cases found'
      · have joined := Option.some.inj (record.record.symm.trans record'.record)
        obtain ⟨rfl, rfl⟩ := List.append_inj joined (record.header.trans record'.header.symm)
        rw [equal]
  have queried : (runOn store faults (psaCheckKeyUsage key a u) w).1 =
      checkKeyUsageAttributes attributes a u := by
    have mapped := runOn_map store faults (psaGetKeyAttributes key) (queryStatus a u) w
    rw [answer, same] at mapped
    have program : psaCheckKeyUsage key a u =
        psaGetKeyAttributes key >>= fun r => pure (queryStatus a u r) := by
      unfold psaCheckKeyUsage
      congr 1
      funext r
      cases r <;> rfl
    rw [program]
    exact mapped
  rw [queried]
  exact query_passes_iff uses

/-- A volatile HMAC key that may sign, with the given permitted algorithm. -/
def signingHmacKey (alg : Algorithm) : KeyAttributes :=
  ⟨psaKeyTypeHmac, 256, psaKeyLifetimeVolatile, psaKeyUsageSignMessage, alg, psaAlgNone,
    psaKeyIdVendorMin⟩

/-- The attributes of the only key of a world are told. -/
private theorem oneKey_told (attributes : KeyAttributes) (data : Bytes) :
    ∃ told, (runOn freshStore (fun _ => calmFault) (psaGetKeyAttributes psaKeyIdVendorMin)
      (oneKeyWorld attributes data)).1 = .ok told :=
  ⟨_, (psaGetKeyAttributes_calm usable_freshStore
    (keyFound_oneKeyWorld freshStore attributes data)).run fun _ => calm_calmFault⟩

theorem exact_hmac_policy_queried :
    (runOn freshStore (fun _ => calmFault)
      (psaCheckKeyUsage psaKeyIdVendorMin (psaAlgHmac psaAlgSha256) psaKeyUsageSignMessage)
      (oneKeyWorld (signingHmacKey (psaAlgHmac psaAlgSha256)) (List.replicate 32 0))).1 = .success ↔
    PolicyUser.mac.passes (signingHmacKey (psaAlgHmac psaAlgSha256)) (psaAlgHmac psaAlgSha256)
      psaKeyUsageSignMessage = true :=
  (check_key_usage_truthful_iff (keyFound_oneKeyWorld _ _ _) (oneKey_told _ _)
    (show PolicyUser.mac.Uses _ _ from ⟨by decide, by decide, by decide⟩)).mpr fun _ => .inl ⟨.inl (.inl rfl), by simp [PolicyUser.Tagless]⟩

/-- A key that may sign with HMAC-SHA-256 tags of at least 16 bytes signs with the full tag, and the
query denies it. -/
theorem query_denies_permitted_hmac :
    ¬((runOn freshStore (fun _ => calmFault)
      (psaCheckKeyUsage psaKeyIdVendorMin (psaAlgHmac psaAlgSha256) psaKeyUsageSignMessage)
      (oneKeyWorld (signingHmacKey (psaAlgAtLeastThisLengthMac (psaAlgHmac psaAlgSha256) 16))
        (List.replicate 32 0))).1 = .success ↔
    PolicyUser.mac.passes (signingHmacKey (psaAlgAtLeastThisLengthMac (psaAlgHmac psaAlgSha256) 16))
      (psaAlgHmac psaAlgSha256) psaKeyUsageSignMessage = true) := by
  decide +kernel

end WolfPSA.Guarantees
