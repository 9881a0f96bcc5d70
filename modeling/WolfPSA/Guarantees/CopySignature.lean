import WolfPSA.Guarantees.CopyPolicy

/-!
# Copies of signature keys

The copy of a signature key keeps the concrete side of a wildcard pair. Verification then widens a
concrete ECDSA algorithm to its randomised or deterministic twin, which the wildcard does not cover.
-/

namespace WolfPSA.Guarantees
open Lib Source

/-! ## Families and hashes -/

/-- The other ECDSA algorithm with the same hash. -/
def ecdsaTwin (alg : Algorithm) : Algorithm :=
  if alg &&& psaAlgEcdsaDeterministicFlag = 0 then psaAlgDeterministicEcdsa alg else psaAlgEcdsa alg

private theorem isEcdsa_cases {p : Algorithm} (ecdsa : psaAlgIsEcdsa p = true) :
    (p = psaAlgEcdsa p ∧ ecdsaTwin p = psaAlgDeterministicEcdsa p) ∨
      (p = psaAlgDeterministicEcdsa p ∧ ecdsaTwin p = psaAlgEcdsa p) := by
  have parts : p = (p &&& ~~~psaAlgHashMask &&& ~~~psaAlgEcdsaDeterministicFlag) |||
      (p &&& psaAlgEcdsaDeterministicFlag) ||| p &&& psaAlgHashMask := by
    rw [BitVec.and_assoc, ← BitVec.and_or_distrib_left, ← BitVec.and_or_distrib_left]
    exact BitVec.and_allOnes.symm
  rw [beq_iff_eq.mp ecdsa] at parts
  have flag : p &&& psaAlgEcdsaDeterministicFlag = 0 ∨
      p &&& psaAlgEcdsaDeterministicFlag = psaAlgEcdsaDeterministicFlag := by
    rw [show psaAlgEcdsaDeterministicFlag = BitVec.twoPow 32 8 by decide, BitVec.and_twoPow]
    split <;> simp
  unfold ecdsaTwin
  rcases flag with unset | set
  · refine .inl ⟨?_, if_pos unset⟩
    rw [unset] at parts
    exact parts
  · refine .inr ⟨?_, if_neg (by rw [set]; decide)⟩
    rw [set] at parts
    exact parts

private theorem ecdsa_fields (h : Algorithm) :
    psaAlgEcdsa h &&& ~~~psaAlgHashMask = psaAlgEcdsaBase ∧
    psaAlgDeterministicEcdsa h &&& ~~~psaAlgHashMask = psaAlgDeterministicEcdsaBase ∧
    psaAlgEcdsa h &&& psaAlgHashMask = h &&& psaAlgHashMask ∧
    psaAlgDeterministicEcdsa h &&& psaAlgHashMask = h &&& psaAlgHashMask := by
  simp [psaAlgEcdsa, psaAlgDeterministicEcdsa, psaAlgHashMask, psaAlgEcdsaBase,
    psaAlgDeterministicEcdsaBase, BitVec.and_or_distrib_right, BitVec.and_assoc]

/-- What the twin of a concrete ECDSA algorithm is. -/
private theorem ecdsaTwin_spec {c : Algorithm} (ecdsa : psaAlgIsEcdsa c = true) :
    psaAlgIsEcdsa (ecdsaTwin c) = true ∧ psaAlgGetHash (ecdsaTwin c) = psaAlgGetHash c ∧
      ecdsaTwin c &&& ~~~psaAlgHashMask ≠ c &&& ~~~psaAlgHashMask ∧
      ∀ a, psaAlgIsEcdsa a = true → psaAlgGetHash a = psaAlgGetHash c → a = c ∨ a = ecdsaTwin c := by
  obtain ⟨family, family', hash, hash'⟩ := ecdsa_fields c
  have bases : psaAlgEcdsaBase ≠ psaAlgDeterministicEcdsaBase := by decide
  have both (a : Algorithm) (ecdsaA : psaAlgIsEcdsa a = true)
      (same : psaAlgGetHash a = psaAlgGetHash c) :
      a = psaAlgEcdsa c ∨ a = psaAlgDeterministicEcdsa c := by
    rw [getHash_eq_iff] at same
    rcases isEcdsa_cases ecdsaA with ⟨shape, -⟩ | ⟨shape, -⟩
    · exact .inl (by rw [shape, psaAlgEcdsa, psaAlgEcdsa, same])
    · exact .inr (by rw [shape, psaAlgDeterministicEcdsa, psaAlgDeterministicEcdsa, same])
  rcases isEcdsa_cases ecdsa with ⟨shape, twin⟩ | ⟨shape, twin⟩ <;> rw [twin]
  · refine ⟨by rw [psaAlgIsEcdsa, family']; decide, (getHash_eq_iff _ _).mpr hash', ?_, ?_⟩
    · rw [family', (congrArg (· &&& ~~~psaAlgHashMask) shape).trans family]
      decide
    · exact fun a ecdsaA same => (both a ecdsaA same).imp_left (·.trans shape.symm)
  · refine ⟨by rw [psaAlgIsEcdsa, family]; decide, (getHash_eq_iff _ _).mpr hash, ?_, ?_⟩
    · rw [family, (congrArg (· &&& ~~~psaAlgHashMask) shape).trans family']
      decide
    · exact fun a ecdsaA same => (both a ecdsaA same).symm.imp_left (·.trans shape.symm)

private theorem isSign_of_isEcdsa {p : Algorithm} (ecdsa : psaAlgIsEcdsa p = true) :
    psaAlgIsSign p = true ∧ psaAlgIsSignHash p = true ∧ psaAlgIsHashMlDsa p = false := by
  obtain ⟨family, family', -, -⟩ := ecdsa_fields p
  have category (q : Algorithm) (same : p &&& ~~~psaAlgHashMask = q &&& ~~~psaAlgHashMask) :
      p &&& psaAlgCategoryMask = q &&& psaAlgCategoryMask := by
    have masked (x : Algorithm) :
        x &&& psaAlgCategoryMask = x &&& ~~~psaAlgHashMask &&& psaAlgCategoryMask := by
      rw [BitVec.and_assoc]
      rfl
    rw [masked p, masked q, same]
  -- one of the two bases has the family of `p`
  obtain ⟨base, fixed, sign, eddsa, eddsaCtx, mlDsa⟩ : ∃ base : Algorithm,
      p &&& ~~~psaAlgHashMask = base &&& ~~~psaAlgHashMask ∧ psaAlgIsSign base = true ∧
        base &&& ~~~psaAlgHashMask ≠ psaAlgPureEddsa &&& ~~~psaAlgHashMask ∧
        base &&& ~~~psaAlgHashMask ≠ psaAlgEddsaCtx &&& ~~~psaAlgHashMask ∧
        psaAlgIsHashMlDsa base = false := by
    rcases isEcdsa_cases ecdsa with ⟨shape, -⟩ | ⟨shape, -⟩
    · exact ⟨psaAlgEcdsaBase, (congrArg (· &&& ~~~psaAlgHashMask) shape).trans family, by decide⟩
    · exact ⟨psaAlgDeterministicEcdsaBase,
        (congrArg (· &&& ~~~psaAlgHashMask) shape).trans family', by decide⟩
  have isSign : psaAlgIsSign p = true := by
    rw [psaAlgIsSign, category base fixed]
    exact sign
  refine ⟨isSign, ?_, (isHashMlDsa_of_family fixed).trans mlDsa⟩
  have notPure : p ≠ psaAlgPureEddsa := by
    rintro rfl
    exact eddsa fixed.symm
  have notCtx : p ≠ psaAlgEddsaCtx := by
    rintro rfl
    exact eddsaCtx fixed.symm
  simp [psaAlgIsSignHash, isSign, notPure, notCtx]

/-! ## Permitted algorithms -/

/-- Only a signature policy permits a signature algorithm. -/
private theorem isSign_of_permitted {p a : Algorithm} {u : KeyUsage} (sign : psaAlgIsSign a = true)
    (permitted : wolfpsaSignAlgPermitted p a u = true) : psaAlgIsSign p = true := by
  rw [signAlgPermitted_iff, signGetHash_any_iff] at permitted
  rcases permitted with rfl | ⟨-, ⟨signHash, -⟩, -⟩ | ⟨-, ⟨-, ecdsa, -⟩ | ⟨-, mlDsa, -⟩⟩
  · exact sign
  · exact isSign_of_isSignHash signHash
  · exact (isSign_of_isEcdsa ecdsa).1
  · exact isSign_of_isHashMlDsa mlDsa

/-- An ECDSA wildcard and a concrete algorithm of its family: verification widens the concrete one
to its twin, which the wildcard does not cover. -/
structure TwinPair (wild concrete : Algorithm) : Prop where
  ecdsa : psaAlgIsEcdsa wild = true
  any : psaAlgGetHash wild = psaAlgAnyHash
  family : wild &&& ~~~psaAlgHashMask = concrete &&& ~~~psaAlgHashMask
  named : psaAlgGetHash concrete ≠ psaAlgAnyHash
  hashed : psaAlgGetHash concrete ≠ psaAlgNone

/-- The usage asks for verification. -/
def Verifies (u : KeyUsage) : Prop :=
  u &&& (psaKeyUsageVerifyHash ||| psaKeyUsageVerifyMessage) ≠ 0

private theorem verifies_verifyMessage : Verifies psaKeyUsageVerifyMessage := by
  unfold Verifies
  decide

/-- What the concrete side of a wildcard pair permits, the wildcard permits too, the twin apart. -/
private theorem wildcard_permits {wild concrete a : Algorithm} {u : KeyUsage}
    (signWild : psaAlgIsSignHash wild = true) (signConcrete : psaAlgIsSignHash concrete = true)
    (any : psaAlgGetHash wild = psaAlgAnyHash) (named : psaAlgGetHash concrete ≠ psaAlgAnyHash)
    (family : wild &&& ~~~psaAlgHashMask = concrete &&& ~~~psaAlgHashMask)
    (permitted : wolfpsaSignAlgPermitted concrete a u = true) :
    wolfpsaSignAlgPermitted wild a u = true ∨
      Verifies u ∧ TwinPair wild concrete ∧ a = ecdsaTwin concrete := by
  have self : wolfpsaSignAlgPermitted wild concrete u = true := by
    rw [signAlgPermitted_iff]
    refine .inr (.inl ⟨signConcrete, (signGetHash_any_iff wild).mpr ⟨signWild, any⟩, ?_, family⟩)
    exact fun wildcard => named ((signGetHash_any_iff concrete).mp wildcard).2
  rw [signAlgPermitted_iff concrete] at permitted
  rcases permitted with rfl | ⟨-, wildcard, -⟩ | ⟨verify, ⟨ecdsaA, ecdsa, same, hashed⟩ |
    ⟨mlDsaA, mlDsa, namedA, -⟩⟩
  · exact .inl self
  · exact absurd ((signGetHash_any_iff concrete).mp wildcard).2 named
  · rcases (ecdsaTwin_spec ecdsa).2.2.2 a ecdsaA same with rfl | twin
    · exact .inl self
    · refine .inr ⟨verify, ⟨?_, any, family, named, same ▸ hashed⟩, twin⟩
      rw [isEcdsa_of_family family, ecdsa]
  · left
    rw [signAlgPermitted_iff]
    refine .inr (.inr ⟨verify, .inr ⟨mlDsaA, ?_, namedA, .inl any⟩⟩)
    rw [isHashMlDsa_of_family family, mlDsa]

/-- An intersection that permits a signature algorithm comes from equal policies or from a wildcard
pair. -/
private theorem signIntersect_cases {s d c : Algorithm} (signC : psaAlgIsSign c = true)
    (met : wolfpsaAlgIntersect s d = some c) :
    s = d ∧ c = s ∨
      psaAlgIsSignHash s = true ∧ psaAlgIsSignHash d = true ∧
        s &&& ~~~psaAlgHashMask = d &&& ~~~psaAlgHashMask ∧
        (psaAlgGetHash s = psaAlgAnyHash ∧ psaAlgGetHash d ≠ psaAlgAnyHash ∧ c = d ∨
          psaAlgGetHash d = psaAlgAnyHash ∧ psaAlgGetHash s ≠ psaAlgAnyHash ∧ c = s) := by
  -- the arms for length policies stay in their category
  have lengthArm {category : Algorithm} (other : category ≠ psaAlgCategorySign)
      (of : s &&& psaAlgCategoryMask = category)
      (base : psaAlgFullLengthMac s = psaAlgFullLengthMac d)
      (value : lengthPolicyIntersect psaMacTruncatedLength macIsWildcard psaAlgAtLeastThisLengthMac
        s d = some c) : False := by
    have kept := category_of_base (lengthPolicyIntersect_base base value)
    exact other (of.symm.trans (kept.symm.trans (beq_iff_eq.mp signC)))
  unfold wolfpsaAlgIntersect at met
  split at met
  · rename_i same
    exact .inl ⟨beq_iff_eq.mp same, (Option.some.inj met).symm⟩
  split at met
  · rename_i arm
    simp only [Bool.and_eq_true, beq_iff_eq] at arm
    obtain ⟨⟨family, signS⟩, signD⟩ := arm
    refine .inr ⟨signS, signD, family, ?_⟩
    unfold signPolicyIntersect at met
    by_cases anyS : psaAlgGetHash s = psaAlgAnyHash <;>
      by_cases anyD : psaAlgGetHash d = psaAlgAnyHash <;> simp [anyS, anyD] at met
    · exact .inl ⟨anyS, anyD, met.2.symm⟩
    · exact .inr ⟨anyD, anyS, met.2.symm⟩
  split at met
  · rename_i arm
    simp only [Bool.and_eq_true, beq_iff_eq] at arm
    exact (lengthArm (by decide) (beq_iff_eq.mp arm.1.1) arm.2 met).elim
  split at met
  · rename_i arm
    simp only [Bool.and_eq_true, beq_iff_eq, shortenedTag_zero] at arm
    exact (lengthArm (by decide) (beq_iff_eq.mp arm.1.1) arm.2 met).elim
  · cases met

/-- What the copy's slot permits, the slots it was made from permit too, twins apart. -/
private theorem slot_permits {s d c a : Algorithm} {u : KeyUsage} (sign : psaAlgIsSign a = true)
    (met : wolfpsaAlgIntersect s d = some c)
    (permitted : wolfpsaAsymmetricAlgPermitted c a u = true) :
    (wolfpsaAsymmetricAlgPermitted s a u = true ∨
      Verifies u ∧ TwinPair s d ∧ a = ecdsaTwin d) ∧
    (wolfpsaAsymmetricAlgPermitted d a u = true ∨
      Verifies u ∧ TwinPair d s ∧ a = ecdsaTwin s) := by
  rw [asymmetricAlgPermitted_iff sign] at permitted
  simp only [asymmetricAlgPermitted_iff sign]
  have set {p : Algorithm} (signHash : psaAlgIsSignHash p = true) : p ≠ psaAlgNone := by
    rintro rfl
    exact absurd signHash (by decide)
  rcases signIntersect_cases (isSign_of_permitted sign permitted.2) met with
    ⟨rfl, rfl⟩ | ⟨signS, signD, family, ⟨any, named, rfl⟩ | ⟨any, named, rfl⟩⟩
  · exact ⟨.inl permitted, .inl permitted⟩
  · refine ⟨?_, .inl permitted⟩
    exact (wildcard_permits signS signD any named family permitted.2).imp_left
      fun wild => ⟨set signS, wild⟩
  · refine ⟨.inl permitted, ?_⟩
    exact (wildcard_permits signD signS any named family.symm permitted.2).imp_left
      fun wild => ⟨set signD, wild⟩

/-- At a twin pair the intersection is the concrete algorithm, in either order. -/
private theorem twinPair_intersect {wild concrete : Algorithm} (pair : TwinPair wild concrete) :
    wolfpsaAlgIntersect wild concrete = some concrete ∧
      wolfpsaAlgIntersect concrete wild = some concrete := by
  have ecdsa : psaAlgIsEcdsa concrete = true := by
    rw [← isEcdsa_of_family pair.family, pair.ecdsa]
  have different : wild ≠ concrete := by
    rintro rfl
    exact pair.named pair.any
  have signWild := (isSign_of_isEcdsa pair.ecdsa).2.1
  have signConcrete := (isSign_of_isEcdsa ecdsa).2.1
  unfold wolfpsaAlgIntersect signPolicyIntersect
  simp [different, different.symm, pair.family, signWild, signConcrete, pair.any, pair.named,
    pair.hashed]

/-- The concrete side of a twin pair permits the twin for verification; the wildcard does not. -/
private theorem twinPair_permits {wild concrete : Algorithm} {u : KeyUsage}
    (pair : TwinPair wild concrete) (verify : Verifies u) :
    wolfpsaAsymmetricAlgPermitted concrete (ecdsaTwin concrete) u = true ∧
      wolfpsaAsymmetricAlgPermitted wild (ecdsaTwin concrete) u = false := by
  have ecdsa : psaAlgIsEcdsa concrete = true := by
    rw [← isEcdsa_of_family pair.family, pair.ecdsa]
  obtain ⟨ecdsaTwin, same, other, -⟩ := ecdsaTwin_spec ecdsa
  obtain ⟨sign, -, noMlDsa⟩ := isSign_of_isEcdsa ecdsaTwin
  constructor
  · rw [asymmetricAlgPermitted_iff sign, signAlgPermitted_iff]
    refine ⟨?_, .inr (.inr ⟨verify, .inl ⟨ecdsaTwin, ecdsa, same, same ▸ pair.hashed⟩⟩)⟩
    rintro rfl
    exact absurd ecdsa (by decide)
  · rw [Bool.eq_false_iff, ne_eq, asymmetricAlgPermitted_iff sign, signAlgPermitted_iff]
    rintro ⟨-, equal | ⟨-, -, -, family⟩ | ⟨-, ⟨-, -, hash, -⟩ | ⟨mlDsa, -⟩⟩⟩
    · exact pair.named (same.symm.trans (equal ▸ pair.any))
    · exact other (family.symm.trans pair.family)
    · exact pair.named (same.symm.trans (hash.trans pair.any))
    · rw [noMlDsa] at mlDsa
      cases mlDsa

/-- Verification is permitted what any usage is. -/
private theorem permitted_verify {p a : Algorithm} {u v : KeyUsage} (sign : psaAlgIsSign a = true)
    (verify : Verifies v)
    (permitted : wolfpsaAsymmetricAlgPermitted p a u = true) :
    wolfpsaAsymmetricAlgPermitted p a v = true := by
  rw [asymmetricAlgPermitted_iff sign, signAlgPermitted_iff] at permitted ⊢
  obtain ⟨set, equal | wildcard | ⟨-, equivalent⟩⟩ := permitted
  · exact ⟨set, .inl equal⟩
  · exact ⟨set, .inr (.inl wildcard)⟩
  · exact ⟨set, .inr (.inr ⟨verify, equivalent⟩)⟩

/-! ## Copies -/

/-- The usage and algorithm checks of the sign and verify entry points. -/
def signAdmits (attributes : KeyAttributes) (u : KeyUsage) (a : Algorithm) : Bool :=
  wolfpsaAsymmetricCheckAttributes attributes u a == .success

def signatureUsages : List KeyUsage :=
  [psaKeyUsageSignHash, psaKeyUsageSignMessage, psaKeyUsageVerifyHash, psaKeyUsageVerifyMessage]

/-- A successful copy admits no concrete signature algorithm, for no usage, that the source key or
the requested policy does not. -/
def CopyNeverGains (cfg : ImportConfig) (store : StoreConfig) (w : World) (faults : Nat → Fault)
    (source : KeyId) (src requested : KeyAttributes) : Prop :=
  ∀ id, (runOn store faults (psaCopyKey cfg source requested) w).1 = (.success, id) →
    ∃ copy data,
      KeyStored store w copy data id (runOn store faults (psaCopyKey cfg source requested) w).2 ∧
      ∀ u ∈ signatureUsages, ∀ a, psaAlgIsSign a = true → psaAlgIsWildcard a = false →
        signAdmits copy u a = true →
        signAdmits src u a = true ∧ signAdmits (withPolicy src requested) u a = true

/-- A key with the wildcard `wild` in one slot and `other` in the other, intersected with
`concrete`, gains the twin of `concrete`. -/
structure GainsTwin (wild other concrete : Algorithm) : Prop where
  pair : TwinPair wild concrete
  uncovered :
    wolfpsaAsymmetricAlgPermitted other (ecdsaTwin concrete) psaKeyUsageVerifyMessage = false

/-- The copy keeps a verification usage, and one of the four slots gains a twin. -/
structure CopyGainsTwin (src requested : KeyAttributes) : Prop where
  verifies : Verifies (src.usage &&& requested.usage)
  slot : GainsTwin src.alg src.alg2 requested.alg ∨ GainsTwin requested.alg requested.alg2 src.alg ∨
    GainsTwin src.alg2 src.alg requested.alg2 ∨ GainsTwin requested.alg2 requested.alg src.alg2

private theorem signAdmits_iff (attributes : KeyAttributes) (u : KeyUsage) (a : Algorithm) :
    signAdmits attributes u a = true ↔ hasUsage attributes.usage u = true ∧
      (wolfpsaAsymmetricAlgPermitted attributes.alg a u = true ∨
        wolfpsaAsymmetricAlgPermitted attributes.alg2 a u = true) := by
  unfold signAdmits wolfpsaAsymmetricCheckAttributes
  cases hasUsage attributes.usage u <;>
    cases wolfpsaAsymmetricAlgPermitted attributes.alg a u <;>
    cases wolfpsaAsymmetricAlgPermitted attributes.alg2 a u <;> decide

private theorem hasUsage_and {x y u : KeyUsage} (held : hasUsage (x &&& y) u = true) :
    hasUsage x u = true ∧ hasUsage y u = true := by
  simp only [hasUsage, beq_iff_eq] at held ⊢
  constructor
  · rw [← held, BitVec.and_assoc, ← BitVec.and_assoc x x, BitVec.and_self]
  · rw [← held, BitVec.and_assoc, BitVec.and_comm x, ← BitVec.and_assoc y, ← BitVec.and_assoc y,
      BitVec.and_self]

/-- A key that holds a usage asking for verification verifies. -/
private theorem verifies_of_hasUsage {x u : KeyUsage} (held : hasUsage x u = true)
    (verify : Verifies u) : Verifies x := by
  intro none
  apply verify
  rw [← beq_iff_eq.mp held, BitVec.and_comm x u, BitVec.and_assoc, none]
  exact BitVec.and_zero

section

variable {cfg : ImportConfig} {store : StoreConfig} {w : World} {faults : Nat → Fault}
  {src requested : KeyAttributes} {data : Bytes} {source : KeyId}

/-- A slot of the copy with its partners in the other slot. -/
private theorem slot_never_gains {s s' d d' c a : Algorithm} {u : KeyUsage}
    (sign : psaAlgIsSign a = true) (met : wolfpsaAlgIntersect s d = some c)
    (permitted : wolfpsaAsymmetricAlgPermitted c a u = true)
    (noSource : Verifies u → ¬GainsTwin s s' d) (noRequested : Verifies u → ¬GainsTwin d d' s) :
    (wolfpsaAsymmetricAlgPermitted s a u = true ∨ wolfpsaAsymmetricAlgPermitted s' a u = true) ∧
      (wolfpsaAsymmetricAlgPermitted d a u = true ∨
        wolfpsaAsymmetricAlgPermitted d' a u = true) := by
  -- the twin is then permitted by the other slot
  have covered {wild other concrete : Algorithm} (verify : Verifies u)
      (pair : TwinPair wild concrete) (twin : a = ecdsaTwin concrete)
      (spared : ¬GainsTwin wild other concrete) :
      wolfpsaAsymmetricAlgPermitted other a u = true := by
    by_contra uncovered
    refine spared ⟨pair, ?_⟩
    rw [← twin, Bool.eq_false_iff]
    exact fun permitted => uncovered (permitted_verify sign verify permitted)
  obtain ⟨ofSource, ofRequested⟩ := slot_permits sign met permitted
  constructor
  · rcases ofSource with direct | ⟨verify, pair, twin⟩
    · exact .inl direct
    · exact .inr (covered verify pair twin (noSource verify))
  · rcases ofRequested with direct | ⟨verify, pair, twin⟩
    · exact .inl direct
    · exact .inr (covered verify pair twin (noRequested verify))

private theorem copyNeverGains_of_noTwin (spared : ¬CopyGainsTwin src requested)
    (found : KeyFound store w source src data) :
    CopyNeverGains cfg store w faults source src requested := by
  intro id succeeded
  obtain ⟨copy, attr, granted, sized, stored⟩ := copy_granted found succeeded
  obtain ⟨-, met, met2, usage, -⟩ := copyKeyAttributes_ok granted
  refine ⟨attr, data, stored, fun u _ a sign _ admitted => ?_⟩
  rw [signAdmits_iff, sized] at admitted
  obtain ⟨held, permitted⟩ := admitted
  simp only [usage] at held permitted
  obtain ⟨heldS, heldD⟩ := hasUsage_and held
  have verifies (verify : Verifies u) : Verifies (src.usage &&& requested.usage) :=
    verifies_of_hasUsage held verify
  rw [signAdmits_iff, signAdmits_iff]
  rcases permitted with first | second
  · obtain ⟨ofSource, ofRequested⟩ := slot_never_gains sign met first
      (fun verify gain => spared ⟨verifies verify, .inl gain⟩)
      (fun verify gain => spared ⟨verifies verify, .inr (.inl gain)⟩)
    exact ⟨⟨heldS, ofSource⟩, heldD, ofRequested⟩
  · have met : wolfpsaAlgIntersect src.alg2 requested.alg2 = some copy.alg2 := by
      unfold wolfpsaAlg2Intersect at met2
      split at met2
      · -- a dropped slot permits nothing
        rw [← Option.some.inj met2, asymmetricAlgPermitted_iff sign] at second
        exact absurd rfl second.1
      · exact met2
    obtain ⟨ofSource, ofRequested⟩ := slot_never_gains sign met second
      (fun verify gain => spared ⟨verifies verify, .inr (.inr (.inl gain))⟩)
      (fun verify gain => spared ⟨verifies verify, .inr (.inr (.inr gain))⟩)
    exact ⟨⟨heldS, ofSource.symm⟩, heldD, ofRequested.symm⟩

/-! Conversely, the twin of the concrete algorithm is a permission gained. -/

private theorem verifies_cases {x : KeyUsage} (verify : Verifies x) :
    ∃ u ∈ signatureUsages, Verifies u ∧ hasUsage x u = true := by
  have flag (i : Nat) : x &&& BitVec.twoPow 32 i = 0 ∨ x &&& BitVec.twoPow 32 i = BitVec.twoPow 32 i := by
    rw [BitVec.and_twoPow]
    split <;> simp
  have hash : psaKeyUsageVerifyHash = BitVec.twoPow 32 13 := by decide
  have message : psaKeyUsageVerifyMessage = BitVec.twoPow 32 11 := by decide
  rcases flag 13 with noHash | held
  · rcases flag 11 with noMessage | held
    · refine absurd ?_ verify
      rw [BitVec.and_or_distrib_left, hash, message, noHash, noMessage]
      decide
    · refine ⟨psaKeyUsageVerifyMessage, by simp [signatureUsages], verifies_verifyMessage, ?_⟩
      rw [hasUsage, message, held, beq_self_eq_true]
  · refine ⟨psaKeyUsageVerifyHash, by simp [signatureUsages], by unfold Verifies; decide, ?_⟩
    rw [hasUsage, hash, held, beq_self_eq_true]

/-- The key with the wildcard does not admit the twin. -/
private theorem gainsTwin_not_admits {attributes : KeyAttributes} {wild other concrete : Algorithm}
    {u : KeyUsage} (gain : GainsTwin wild other concrete) (verify : Verifies u)
    (slots : attributes.alg = wild ∧ attributes.alg2 = other ∨
      attributes.alg = other ∧ attributes.alg2 = wild) :
    signAdmits attributes u (ecdsaTwin concrete) = false := by
  have ecdsa : psaAlgIsEcdsa concrete = true := by
    rw [← isEcdsa_of_family gain.pair.family, gain.pair.ecdsa]
  have sign := (isSign_of_isEcdsa (ecdsaTwin_spec ecdsa).1).1
  have wildFails := (twinPair_permits gain.pair verify).2
  have otherFails : wolfpsaAsymmetricAlgPermitted other (ecdsaTwin concrete) u = false := by
    rw [Bool.eq_false_iff]
    intro permitted
    have verifyMessage := permitted_verify sign verifies_verifyMessage permitted
    rw [gain.uncovered] at verifyMessage
    cases verifyMessage
  rw [Bool.eq_false_iff, ne_eq, signAdmits_iff]
  rcases slots with ⟨rfl, rfl⟩ | ⟨rfl, rfl⟩ <;> simp [wildFails, otherFails]

/-- The twin of a concrete algorithm is concrete. -/
private theorem twinPair_concrete {wild concrete : Algorithm} (pair : TwinPair wild concrete) :
    psaAlgIsSign (ecdsaTwin concrete) = true ∧ psaAlgIsWildcard (ecdsaTwin concrete) = false := by
  have ecdsa : psaAlgIsEcdsa concrete = true := by
    rw [← isEcdsa_of_family pair.family, pair.ecdsa]
  obtain ⟨ecdsaTwin, same, -, -⟩ := ecdsaTwin_spec ecdsa
  obtain ⟨sign, signHash, -⟩ := isSign_of_isEcdsa ecdsaTwin
  refine ⟨sign, ?_⟩
  have hashAndSign : psaAlgIsHashAndSign (Guarantees.ecdsaTwin concrete) = true := by
    have hashed := pair.hashed
    rw [← same, ne_eq, getHash_none_iff] at hashed
    rw [psaAlgIsHashAndSign, signHash, bne_iff_ne.mpr hashed]
    rfl
  unfold psaAlgIsWildcard
  rw [if_pos hashAndSign, beq_eq_false_iff_ne]
  intro any
  exact pair.named (same.symm.trans ((signGetHash_any_iff _).mp any).2)

private theorem not_copyNeverGains_of_twin {copy attr : KeyAttributes}
    (gain : CopyGainsTwin src requested) (granted : copyKeyAttributes src requested = .ok copy)
    (accepted : importCheck cfg copy data = .ok attr)
    (fits : keyHeaderLength + data.length ≤ intMax) :
    ¬CopyNeverGains cfg freshStore (oneKeyWorld src data) (fun _ => calmFault) psaKeyIdVendorMin src
      requested := by
  intro never
  obtain ⟨id, succeeded⟩ := copy_made granted accepted fits
  obtain ⟨made, stored, granted', sized, held⟩ :=
    copy_granted (keyFound_oneKeyWorld freshStore src data) succeeded
  obtain ⟨held', data', other, kept⟩ := never id succeeded
  obtain ⟨-, usage, alg, alg2⟩ := held.unique other
  obtain ⟨-, met, met2, usage', -⟩ := copyKeyAttributes_ok granted'
  obtain ⟨u, listed, verify, holds⟩ := verifies_cases gain.verifies
  have holdsCopy : hasUsage held'.usage u = true := by rw [usage, sized, usage', holds]
  have slotAlg : held'.alg = made.alg := by rw [alg, sized]
  have slotAlg2 : held'.alg2 = made.alg2 := by rw [alg2, sized]
  have second {wild concrete : Algorithm} (pair : TwinPair wild concrete) :
      wild ≠ psaAlgNone ∧ concrete ≠ psaAlgNone := by
    constructor
    · rintro rfl
      exact absurd pair.ecdsa (by decide)
    · rintro rfl
      exact pair.hashed (by decide)
  -- the copy admits the twin of the concrete side
  have admits {wild concrete : Algorithm} (pair : TwinPair wild concrete)
      (slot : held'.alg = concrete ∨ held'.alg2 = concrete) :
      signAdmits held' u (ecdsaTwin concrete) = true := by
    rw [signAdmits_iff]
    have permitted := (twinPair_permits pair verify).1
    rcases slot with rfl | rfl
    · exact ⟨holdsCopy, .inl permitted⟩
    · exact ⟨holdsCopy, .inr permitted⟩
  have refute {wild concrete : Algorithm} (pair : TwinPair wild concrete)
      (slot : held'.alg = concrete ∨ held'.alg2 = concrete) :=
    kept u listed _ (twinPair_concrete pair).1 (twinPair_concrete pair).2 (admits pair slot)
  rcases gain.slot with gain | gain | gain | gain
  · have kept := (refute gain.pair (.inl (slotAlg.trans (Option.some.inj
      (met.symm.trans (twinPair_intersect gain.pair).1))))).1
    rw [gainsTwin_not_admits gain verify (.inl ⟨rfl, rfl⟩)] at kept
    cases kept
  · have kept := (refute gain.pair (.inl (slotAlg.trans (Option.some.inj
      (met.symm.trans (twinPair_intersect gain.pair).2))))).2
    have fails : signAdmits (withPolicy src requested) u _ = false :=
      gainsTwin_not_admits gain verify (.inl ⟨rfl, rfl⟩)
    rw [fails] at kept
    cases kept
  · obtain ⟨setS, setD⟩ := second gain.pair
    rw [wolfpsaAlg2Intersect, if_neg (by simp [setS, setD]),
      (twinPair_intersect gain.pair).1] at met2
    have kept := (refute gain.pair (.inr (slotAlg2.trans (Option.some.inj met2).symm))).1
    rw [gainsTwin_not_admits gain verify (.inr ⟨rfl, rfl⟩)] at kept
    cases kept
  · obtain ⟨setD, setS⟩ := second gain.pair
    rw [wolfpsaAlg2Intersect, if_neg (by simp [setS, setD]),
      (twinPair_intersect gain.pair).2] at met2
    have kept := (refute gain.pair (.inr (slotAlg2.trans (Option.some.inj met2).symm))).2
    have fails : signAdmits (withPolicy src requested) u _ = false :=
      gainsTwin_not_admits gain verify (.inr ⟨rfl, rfl⟩)
    rw [fails] at kept
    cases kept

end

/-- Copying a key never gains a permission to sign or verify unless a slot gains an ECDSA twin; and a
copy that is not refused for other reasons does gain it then. -/
theorem copied_signature_policy_never_gains_iff (cfg : ImportConfig)
    (src requested : KeyAttributes) (data : Bytes) :
    (¬CopyGainsTwin src requested →
      ∀ store w faults source, KeyFound store w source src data →
        CopyNeverGains cfg store w faults source src requested) ∧
    ∀ copy attr, copyKeyAttributes src requested = .ok copy →
      importCheck cfg copy data = .ok attr → keyHeaderLength + data.length ≤ intMax →
      (∀ store w faults source, KeyFound store w source src data →
        CopyNeverGains cfg store w faults source src requested) → ¬CopyGainsTwin src requested := by
  constructor
  · exact fun spared store w faults source found => copyNeverGains_of_noTwin spared found
  · intro copy attr granted accepted fits never gain
    exact not_copyNeverGains_of_twin gain granted accepted fits
      (never _ _ _ _ (keyFound_oneKeyWorld freshStore src data))

/-- A build that knows the curve and accepts the key data. -/
def eccImport : ImportConfig :=
  ⟨false, ⟨fun _ _ => .error .notCompiledIn, fun _ _ => true, fun _ _ _ => .ok ()⟩⟩

/-- A volatile secp256r1 key pair that may be copied and verify, with the given algorithm. -/
def ecdsaKey (alg : Algorithm) : KeyAttributes :=
  ⟨0x7112, 256, psaKeyLifetimeVolatile, psaKeyUsageCopy ||| psaKeyUsageVerifyMessage, alg,
    psaAlgNone, psaKeyIdNull⟩

/-- The private key 1. -/
def ecdsaKeyData : Bytes := List.replicate 31 0 ++ [1]

theorem same_ecdsa_policy_never_gains :
    let key := ecdsaKey (psaAlgEcdsa psaAlgSha256)
    CopyNeverGains eccImport freshStore (oneKeyWorld key ecdsaKeyData) (fun _ => calmFault)
      psaKeyIdVendorMin key key := by
  intro key
  refine (copied_signature_policy_never_gains_iff eccImport key key ecdsaKeyData).1 ?_ _ _ _ _
    (keyFound_oneKeyWorld freshStore _ _)
  rintro ⟨-, ⟨pair, -⟩ | ⟨pair, -⟩ | ⟨pair, -⟩ | ⟨pair, -⟩⟩
  · exact absurd pair.any (by decide)
  · exact absurd pair.any (by decide)
  · exact absurd pair.ecdsa (by decide)
  · exact absurd pair.ecdsa (by decide)

/-- A key for `ECDSA(ANY_HASH)` copied to `ECDSA(SHA-256)`: the copy verifies
`DETERMINISTIC_ECDSA(SHA-256)`, which the source key does not. -/
theorem copied_ecdsa_wildcard_gains_deterministic :
    ¬CopyNeverGains eccImport freshStore
      (oneKeyWorld (ecdsaKey (psaAlgEcdsa psaAlgAnyHash)) ecdsaKeyData) (fun _ => calmFault)
      psaKeyIdVendorMin (ecdsaKey (psaAlgEcdsa psaAlgAnyHash))
      (ecdsaKey (psaAlgEcdsa psaAlgSha256)) := by
  have pair : TwinPair (psaAlgEcdsa psaAlgAnyHash) (psaAlgEcdsa psaAlgSha256) := by
    constructor <;> decide
  have granted : copyKeyAttributes (ecdsaKey (psaAlgEcdsa psaAlgAnyHash))
      (ecdsaKey (psaAlgEcdsa psaAlgSha256)) = .ok (ecdsaKey (psaAlgEcdsa psaAlgSha256)) := rfl
  have accepted : importCheck eccImport (ecdsaKey (psaAlgEcdsa psaAlgSha256)) ecdsaKeyData =
      .ok (ecdsaKey (psaAlgEcdsa psaAlgSha256)) := rfl
  refine not_copyNeverGains_of_twin ⟨?_, .inl ⟨pair, by decide⟩⟩ granted accepted (by decide)
  unfold Verifies
  decide

end WolfPSA.Guarantees
