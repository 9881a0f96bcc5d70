import WolfPSA.Guarantees.KeyCreation
import WolfPSA.Source.PolicyReadings

/-!
# What a copied key may be used for

`psa_copy_key` gives the copy the intersection of two policies; the entry points decide what a
policy permits. For MAC and AEAD policies the intersection should be the exact meet, for signature
policies it should never gain a permission. Both fail where the two views of a policy differ: an
explicit length against the full length of the algorithm, and a concrete ECDSA algorithm that
verification widens to its twin.
-/

namespace WolfPSA.Guarantees
open Lib Source

variable {cfg : ImportConfig} {store : StoreConfig} {w : World} {faults : Nat → Fault}
  {src requested : KeyAttributes} {data : Bytes} {source : KeyId}

/-! ## Copies that are made -/

/-- The key `src` under the requested policy. -/
def withPolicy (src requested : KeyAttributes) : KeyAttributes :=
  { src with usage := requested.usage, alg := requested.alg, alg2 := requested.alg2 }

/-- Everything but the two permitted algorithms lets the key be copied. -/
structure Copyable (cfg : ImportConfig) (src : KeyAttributes) (data : Bytes)
    (requested : KeyAttributes) : Prop where
  mayCopy : src.usage &&& psaKeyUsageCopy ≠ 0
  type : requested.type ≠ 0 → requested.type = src.type
  bits : requested.bits ≠ 0 → requested.bits = src.bits
  lifetime : requested.lifetime = src.lifetime
  accepted : ∀ copy, copyKeyAttributes src requested = .ok copy →
    ∃ attr, importCheck cfg copy data = .ok attr
  fits : keyHeaderLength + data.length ≤ intMax

/-- The key added under `id`, with all that a look-up will find of it: a record holds no enrollment
algorithm. -/
structure KeyStored (store : StoreConfig) (w : World) (attr : KeyAttributes) (data : Bytes)
    (id : KeyId) (s : World) : Prop where
  added : KeyAdded store w attr data id s
  unenrolled : psaKeyLifetimeIsVolatile attr.lifetime = false → attr.alg2 = psaAlgNone

/-- Type and policy of a stored key. -/
theorem KeyStored.unique {s : World} {id : KeyId} {attr attr' : KeyAttributes}
    {data' : Bytes} (left : KeyStored store w attr data id s)
    (right : KeyStored store w attr' data' id s) :
    attr'.type = attr.type ∧ attr'.usage = attr.usage ∧ attr'.alg = attr.alg ∧
      attr'.alg2 = attr.alg2 := by
  cases left.added with
  | volatile _ _ linked =>
    cases right.added with
    | volatile _ _ linked' =>
      have same := (List.cons.inj (linked.symm.trans linked')).1
      simp only [VolatileKey.mk.injEq] at same
      obtain ⟨-, rfl, -⟩ := same
      exact ⟨rfl, rfl, rfl, rfl⟩
    | persistent _ _ _ _ _ unlinked =>
      have lengths := congrArg List.length (linked.symm.trans unlinked)
      simp at lengths
  | persistent lifetime _ _ committed _ unlinked =>
    cases right.added with
    | volatile _ _ linked' =>
      have lengths := congrArg List.length (linked'.symm.trans unlinked)
      simp at lengths
    | persistent lifetime' _ _ committed' =>
      have records := Option.some.inj (committed.symm.trans committed')
      have headers := (List.append_inj records (by simp)).1
      have read := congrArg psaKeyAttributesDeserialize headers
      rw [deserialize_keyHeader, deserialize_keyHeader] at read
      simp only [KeyAttributes.mk.injEq] at read
      obtain ⟨type, -, -, usage, alg, -⟩ := read
      exact ⟨type.symm, usage.symm, alg.symm,
        (right.unenrolled lifetime').trans (left.unenrolled lifetime).symm⟩

/-- A successful copy stored the source key's data under the attributes computed from both
policies. -/
theorem copy_granted {id : KeyId} (found : KeyFound store w source src data)
    (succeeded : (runOn store faults (psaCopyKey cfg source requested) w).1 = (.success, id)) :
    ∃ copy attr, copyKeyAttributes src requested = .ok copy ∧
      attr = { copy with bits := attr.bits } ∧
      KeyStored store w attr data id (runOn store faults (psaCopyKey cfg source requested) w).2 := by
  have outcome := runOn_post (psaCopyKey_spec cfg store source requested w) faults
  rw [succeeded] at outcome
  generalize answered : (Status.success, id) = r at outcome
  cases outcome with
  | refused failed => exact absurd (Prod.mk.inj answered).1.symm failed
  | imported found' granted outcome =>
    obtain ⟨rfl, rfl⟩ := found.unique found'
    rw [← answered] at outcome
    obtain ⟨attr, accepted, -, added, -⟩ := outcome.of_success
    obtain ⟨-, -, sized, unenrolled⟩ := importCheck_ok accepted
    refine ⟨_, attr, granted, sized, added, ?_⟩
    rw [sized]
    exact unenrolled

/-- A copy that the checks accept is made in a process that holds the source key. -/
theorem copy_made {copy attr : KeyAttributes}
    (granted : copyKeyAttributes src requested = .ok copy)
    (accepted : importCheck cfg copy data = .ok attr)
    (fits : keyHeaderLength + data.length ≤ intMax) :
    ∃ id, (runOn freshStore (fun _ => calmFault) (psaCopyKey cfg psaKeyIdVendorMin requested)
      (oneKeyWorld src data)).1 = (.success, id) := by
  obtain ⟨id, answered, -⟩ := (psaCopyKey_calm usable_freshStore granted accepted fits).run
    fun _ => calm_calmFault
  exact ⟨id, answered⟩

private theorem copyKeyAttributes_of_copyable {alg : Algorithm}
    (copyable : Copyable cfg src data requested) (dropped : requested.alg2 = psaAlgNone)
    (met : wolfpsaAlgIntersect src.alg requested.alg = some alg) :
    ∃ copy, copyKeyAttributes src requested = .ok copy := by
  have met2 : wolfpsaAlg2Intersect src.alg2 requested.alg2 = some psaAlgNone := by
    simp [wolfpsaAlg2Intersect, dropped]
  unfold copyKeyAttributes
  rw [if_neg copyable.mayCopy, if_neg (fun wrong => wrong.2 (copyable.type wrong.1)),
    if_neg (fun wrong => wrong.2 (copyable.bits wrong.1)), met, met2]
  dsimp only
  rw [if_neg (not_not.mpr copyable.lifetime)]
  exact ⟨_, rfl⟩

/-! ## Length policies -/

/-- For each key, what an entry point admits; the copy admits what both policies admit, and two
policies are refused only if they admit nothing together. -/
structure CopyIsMeet (admits : KeyAttributes → Algorithm → Bool) (cfg : ImportConfig)
    (store : StoreConfig) (w : World) (faults : Nat → Fault) (source : KeyId)
    (src requested : KeyAttributes) : Prop where
  granted : ∀ id, (runOn store faults (psaCopyKey cfg source requested) w).1 = (.success, id) →
    ∃ copy data,
      KeyStored store w copy data id (runOn store faults (psaCopyKey cfg source requested) w).2 ∧
      ∀ a, admits copy a = (admits src a && admits (withPolicy src requested) a)
  refused : wolfpsaAlgIntersect src.alg requested.alg = none →
    ∀ a, (admits src a && admits (withPolicy src requested) a) = false

/-- `wolfpsa_mac_setup` admits the concrete algorithm for a key with these attributes: the
permitted-algorithm check and the length checks. -/
def macAdmits (attributes : KeyAttributes) (a : Algorithm) : Bool :=
  psaAlgIsMac a && !macIsWildcard a &&
    (wolfpsaMacAlgPermitted attributes attributes.alg a ||
      wolfpsaMacAlgPermitted attributes attributes.alg2 a) &&
    macSetupLengths a (psaMacLength attributes.type a)
      (psaMacLength attributes.type (psaAlgFullLengthMac a)) == .success

/-- The same for `wolfpsa_aead_setup`. -/
def aeadAdmits (sizes : AeadTagSizes) (attributes : KeyAttributes) (a : Algorithm) : Bool :=
  aeadSetupGate a == .success &&
    (psaAlgAeadEqual a psaAlgGcm || psaAlgAeadEqual a psaAlgCcm ||
      psaAlgAeadEqual a psaAlgChacha20Poly1305) &&
    wolfpsaAeadKeyPermitsAlg attributes a && aeadSetupTagLength sizes a == .success

/-- Of two policies of one base algorithm, `p` names the full length implicitly and `q` an explicit
length that is no stronger or weaker than it: a minimum above the full length, or exactly the full
length. -/
def LengthMismatch (full : Nat) (p q : Algorithm) : Prop :=
  psaMacTruncatedLength p = 0 ∧ psaMacTruncatedLength q ≠ 0 ∧
    if macIsWildcard q then psaMacTruncatedLength q > full else psaMacTruncatedLength q = full

/-- The two MAC policies are intersected as the entry points read them. -/
def LengthsAgree (type : KeyType) (s d : Algorithm) : Prop :=
  psaAlgFullLengthMac s = psaAlgFullLengthMac d → psaMacLength type (psaAlgFullLengthMac s) ≠ 0 →
    ¬LengthMismatch (psaMacLength type (psaAlgFullLengthMac s)) s d ∧
    ¬LengthMismatch (psaMacLength type (psaAlgFullLengthMac s)) d s

private theorem ne_none_of_isMac {p : Algorithm} (mac : psaAlgIsMac p = true) : p ≠ psaAlgNone := by
  rintro rfl
  exact absurd mac (by decide)

private theorem macSetupLengths_success {a : Algorithm} {macLength full : Nat}
    (admitted : macSetupLengths a macLength full = .success) :
    full ≠ 0 ∧ macLength ≤ full := by
  unfold macSetupLengths at admitted
  split at admitted
  · cases admitted
  · rename_i fine
    simp only [Bool.or_eq_true, beq_iff_eq, decide_eq_true_eq, not_or] at fine
    omega

/-- What one policy of a key of the given type admits, in terms of lengths. -/
private def AdmitsMac (type : KeyType) (p a : Algorithm) : Prop :=
  (psaAlgIsMac a = true ∧ macIsWildcard a = false ∧
    macSetupLengths a (psaMacLength type a) (psaMacLength type (psaAlgFullLengthMac a)) =
      .success) ∧
  psaAlgFullLengthMac p = psaAlgFullLengthMac a ∧
  AcceptsLength (psaMacLength type (psaAlgFullLengthMac a)) p (psaMacLength type a)

private theorem macAdmits_iff {attributes : KeyAttributes} {a : Algorithm}
    (plain : attributes.alg2 = psaAlgNone) (mac : psaAlgIsMac attributes.alg = true) :
    macAdmits attributes a = true ↔ AdmitsMac attributes.type attributes.alg a := by
  unfold macAdmits AdmitsMac
  rw [plain, macAlgPermitted_none, Bool.or_false]
  simp only [Bool.and_eq_true, macAlgPermitted_iff (ne_none_of_isMac mac), Bool.not_eq_true',
    beq_iff_eq]
  tauto

/-- The intersection of two MAC policies goes through the arm for length policies. -/
private theorem algIntersect_mac {s d : Algorithm} (macS : psaAlgIsMac s = true)
    (macD : psaAlgIsMac d = true) :
    wolfpsaAlgIntersect s d =
      if s = d then some s
      else if psaAlgFullLengthMac s = psaAlgFullLengthMac d then
        lengthPolicyIntersect psaMacTruncatedLength macIsWildcard psaAlgAtLeastThisLengthMac s d
      else none := by
  have category := beq_iff_eq.mp macS
  have noSign : psaAlgIsSignHash s = false := by
    simp [psaAlgIsSignHash, psaAlgIsSign, category, psaAlgCategoryMac, psaAlgCategorySign]
  have noAead : psaAlgIsAead s = false := by
    simp [psaAlgIsAead, category, psaAlgCategoryMac, psaAlgCategoryAead]
  unfold wolfpsaAlgIntersect
  simp only [beq_iff_eq, noSign, Bool.and_false, Bool.false_and, Bool.false_eq_true, if_false, macS,
    macD, Bool.true_and, noAead]

/-- What the intersection of two length policies can be. -/
theorem lengthPolicyIntersect_cases (s d : Algorithm) :
    (macIsWildcard s = true ∧ macIsWildcard d = true ∧
      lengthPolicyIntersect psaMacTruncatedLength macIsWildcard psaAlgAtLeastThisLengthMac s d =
        some (psaAlgAtLeastThisLengthMac s
          (wolfpsaTagLenRestrict (psaMacTruncatedLength s) (psaMacTruncatedLength d)))) ∨
    (macIsWildcard s = true ∧ macIsWildcard d = false ∧
      lengthPolicyIntersect psaMacTruncatedLength macIsWildcard psaAlgAtLeastThisLengthMac s d =
        if wolfpsaTagLenPermitted (psaMacTruncatedLength d) (psaMacTruncatedLength s) then some d
        else none) ∨
    (macIsWildcard s = false ∧ macIsWildcard d = true ∧
      lengthPolicyIntersect psaMacTruncatedLength macIsWildcard psaAlgAtLeastThisLengthMac s d =
        if wolfpsaTagLenPermitted (psaMacTruncatedLength s) (psaMacTruncatedLength d) then some s
        else none) ∨
    (macIsWildcard s = false ∧ macIsWildcard d = false ∧
      lengthPolicyIntersect psaMacTruncatedLength macIsWildcard psaAlgAtLeastThisLengthMac s d =
        none) := by
  unfold lengthPolicyIntersect
  cases macIsWildcard s <;> cases macIsWildcard d <;> simp

private theorem tagLenPermitted_iff (l min : Nat) :
    wolfpsaTagLenPermitted l min = true ↔ l = 0 ∨ min ≠ 0 ∧ min ≤ l := by
  unfold wolfpsaTagLenPermitted
  split <;> simp only [decide_eq_true_eq] <;> omega

private theorem tagLenRestrict_eq (a b : Nat) :
    wolfpsaTagLenRestrict a b = if a = 0 ∨ b = 0 then 0 else max a b := by
  unfold wolfpsaTagLenRestrict
  split_ifs <;> omega

theorem lengthPolicyIntersect_base {s d c : Algorithm}
    (base : psaAlgFullLengthMac s = psaAlgFullLengthMac d)
    (met : lengthPolicyIntersect psaMacTruncatedLength macIsWildcard psaAlgAtLeastThisLengthMac
      s d = some c) : psaAlgFullLengthMac c = psaAlgFullLengthMac s := by
  rcases lengthPolicyIntersect_cases s d with ⟨-, -, value⟩ | ⟨-, -, value⟩ | ⟨-, -, value⟩ |
    ⟨-, -, value⟩ <;> rw [value] at met
  · cases met
    exact psaAlgFullLengthMac_atLeast s _
  · split at met
    · cases met
      exact base.symm
    · cases met
  · split at met
    · cases met
      rfl
    · cases met
  · cases met

/-- Where the lengths agree, the intersection of two length policies accepts what both accept. -/
private theorem lengthPolicyIntersect_some {full : Nat} {s d c : Algorithm}
    (forward : ¬LengthMismatch full s d) (backward : ¬LengthMismatch full d s)
    (met : lengthPolicyIntersect psaMacTruncatedLength macIsWildcard psaAlgAtLeastThisLengthMac
      s d = some c) {e : Nat} (within : e ≤ full) :
    AcceptsLength full c e ↔ AcceptsLength full s e ∧ AcceptsLength full d e := by
  unfold LengthMismatch at forward backward
  rcases lengthPolicyIntersect_cases s d with ⟨wildS, wildD, value⟩ | ⟨wildS, wildD, value⟩ |
    ⟨wildS, wildD, value⟩ | ⟨wildS, wildD, value⟩ <;> rw [value] at met
  · cases met
    have boundS := psaMacTruncatedLength_lt s
    have boundD := psaMacTruncatedLength_lt d
    have restricted : (if psaMacTruncatedLength s = 0 ∨ psaMacTruncatedLength d = 0 then 0
        else max (psaMacTruncatedLength s) (psaMacTruncatedLength d)) < 64 := by
      split_ifs <;> omega
    rw [tagLenRestrict_eq]
    simp only [AcceptsLength, wildS, wildD, macIsWildcard_atLeast, if_true,
      psaMacTruncatedLength_atLeast s restricted] at forward backward ⊢
    split_ifs <;> omega
  · split at met
    · rename_i permitted
      rw [tagLenPermitted_iff] at permitted
      cases met
      simp only [AcceptsLength, wildS, wildD, if_true, Bool.false_eq_true, if_false]
        at forward backward ⊢
      split_ifs <;> omega
    · cases met
  · split at met
    · rename_i permitted
      rw [tagLenPermitted_iff] at permitted
      cases met
      simp only [AcceptsLength, wildS, wildD, if_true, Bool.false_eq_true, if_false]
        at forward backward ⊢
      split_ifs <;> omega
    · cases met
  · cases met

/-- Where the lengths agree, two policies without an intersection accept nothing together. -/
private theorem lengthPolicyIntersect_none {full : Nat} {s d : Algorithm} (different : s ≠ d)
    (forward : ¬LengthMismatch full s d) (backward : ¬LengthMismatch full d s)
    (base : psaAlgFullLengthMac s = psaAlgFullLengthMac d)
    (unmet : lengthPolicyIntersect psaMacTruncatedLength macIsWildcard psaAlgAtLeastThisLengthMac
      s d = none) {e : Nat} (within : e ≤ full) :
    ¬(AcceptsLength full s e ∧ AcceptsLength full d e) := by
  unfold LengthMismatch at forward backward
  rcases lengthPolicyIntersect_cases s d with ⟨wildS, wildD, value⟩ | ⟨wildS, wildD, value⟩ |
    ⟨wildS, wildD, value⟩ | ⟨wildS, wildD, value⟩ <;> rw [value] at unmet
  · cases unmet
  · split at unmet
    · cases unmet
    · rename_i permitted
      rw [tagLenPermitted_iff] at permitted
      simp only [AcceptsLength, wildS, wildD, if_true, Bool.false_eq_true, if_false]
        at forward backward ⊢
      split_ifs <;> omega
  · split at unmet
    · cases unmet
    · rename_i permitted
      rw [tagLenPermitted_iff] at permitted
      simp only [AcceptsLength, wildS, wildD, if_true, Bool.false_eq_true, if_false]
        at forward backward ⊢
      split_ifs <;> omega
  · -- two exact lengths of one base algorithm are the same policy
    have lengths : psaMacTruncatedLength s ≠ psaMacTruncatedLength d := fun same =>
      different (lengthPolicy_ext base same (wildS.trans wildD.symm))
    simp only [AcceptsLength, wildS, wildD, Bool.false_eq_true, if_false] at forward backward ⊢
    split_ifs <;> omega

private theorem isMac_of_base {p q : Algorithm} (base : psaAlgFullLengthMac p = psaAlgFullLengthMac q)
    (mac : psaAlgIsMac q = true) : psaAlgIsMac p = true := by
  rw [psaAlgIsMac, category_of_base base]
  exact mac

private theorem isMac_of_intersect {s d c : Algorithm} (macS : psaAlgIsMac s = true)
    (macD : psaAlgIsMac d = true) (met : wolfpsaAlgIntersect s d = some c) :
    psaAlgIsMac c = true := by
  rw [algIntersect_mac macS macD] at met
  split at met
  · cases met
    exact macS
  split at met
  · rename_i base
    exact isMac_of_base (lengthPolicyIntersect_base base met) macS
  · cases met

private theorem macIntersect_some {type : KeyType} {s d c : Algorithm} (macS : psaAlgIsMac s = true)
    (macD : psaAlgIsMac d = true) (agree : LengthsAgree type s d)
    (met : wolfpsaAlgIntersect s d = some c) (a : Algorithm) :
    AdmitsMac type c a ↔ AdmitsMac type s a ∧ AdmitsMac type d a := by
  rw [algIntersect_mac macS macD] at met
  split at met
  · rename_i same
    subst same
    cases met
    exact (and_self_iff).symm
  split at met
  · rename_i base
    have baseC := lengthPolicyIntersect_base base met
    unfold AdmitsMac
    rw [baseC, ← base]
    by_cases concrete : (psaAlgIsMac a = true ∧ macIsWildcard a = false ∧
        macSetupLengths a (psaMacLength type a) (psaMacLength type (psaAlgFullLengthMac a)) =
          .success) ∧ psaAlgFullLengthMac s = psaAlgFullLengthMac a
    · obtain ⟨nonzero, within⟩ := macSetupLengths_success concrete.1.2.2
      rw [← concrete.2] at nonzero within ⊢
      obtain ⟨forward, backward⟩ := agree base nonzero
      have key := lengthPolicyIntersect_some forward backward met within
      tauto
    · tauto
  · cases met

private theorem macIntersect_none {type : KeyType} {s d : Algorithm} (macS : psaAlgIsMac s = true)
    (macD : psaAlgIsMac d = true) (agree : LengthsAgree type s d)
    (unmet : wolfpsaAlgIntersect s d = none) (a : Algorithm) :
    ¬(AdmitsMac type s a ∧ AdmitsMac type d a) := by
  rw [algIntersect_mac macS macD] at unmet
  rintro ⟨⟨concrete, baseS, acceptsS⟩, -, baseD, acceptsD⟩
  have base := baseS.trans baseD.symm
  by_cases same : s = d
  · rw [if_pos same] at unmet
    cases unmet
  rw [if_neg same, if_pos base] at unmet
  obtain ⟨nonzero, within⟩ := macSetupLengths_success concrete.2.2
  rw [← baseS] at nonzero within acceptsS acceptsD
  obtain ⟨forward, backward⟩ := agree base nonzero
  exact lengthPolicyIntersect_none same forward backward base unmet within ⟨acceptsS, acceptsD⟩

/-- Where the lengths agree, the copy of a MAC key has the meet of the two policies. -/
private theorem copyIsMeet_mac (plain : src.alg2 = psaAlgNone)
    (plain' : requested.alg2 = psaAlgNone) (macS : psaAlgIsMac src.alg = true)
    (macD : psaAlgIsMac requested.alg = true)
    (agree : LengthsAgree src.type src.alg requested.alg)
    (found : KeyFound store w source src data) :
    CopyIsMeet macAdmits cfg store w faults source src requested := by
  have requestedAdmits (a : Algorithm) : macAdmits (withPolicy src requested) a = true ↔
      AdmitsMac src.type requested.alg a := macAdmits_iff plain' macD
  constructor
  · intro id succeeded
    obtain ⟨copy, attr, granted, sized, stored⟩ := copy_granted found succeeded
    obtain ⟨-, met, met2, -, -, -, -, type, -⟩ := copyKeyAttributes_ok granted
    have plainCopy : attr.alg2 = psaAlgNone := by
      rw [sized]
      simpa [wolfpsaAlg2Intersect, plain] using met2.symm
    have typed : attr.type = src.type := by rw [sized, type]
    have policy : attr.alg = copy.alg := by rw [sized]
    have macC := isMac_of_intersect macS macD met
    refine ⟨attr, data, stored, fun a => ?_⟩
    rw [Bool.eq_iff_iff, Bool.and_eq_true, macAdmits_iff plainCopy (policy ▸ macC),
      macAdmits_iff plain macS, requestedAdmits, typed, policy]
    exact macIntersect_some macS macD agree met a
  · intro unmet a
    rw [Bool.eq_false_iff, ne_eq, Bool.and_eq_true, macAdmits_iff plain macS, requestedAdmits]
    exact macIntersect_none macS macD agree unmet a

/-! Conversely, at a mismatch the full-length algorithm tells the two views apart. -/

private theorem lengthMismatch_full {full : Nat} {p q : Algorithm}
    (mismatch : LengthMismatch full p q) :
    AcceptsLength full p full ∧ (AcceptsLength full q full ↔ macIsWildcard q = false) := by
  obtain ⟨implicit, explicit, compared⟩ := mismatch
  unfold AcceptsLength
  rw [if_pos implicit, if_neg explicit]
  cases wild : macIsWildcard q with
  | true =>
    simp only [wild, if_true] at compared ⊢
    exact ⟨by simp, by simpa using compared⟩
  | false =>
    simp only [wild, Bool.false_eq_true, if_false] at compared ⊢
    exact ⟨by simp, by simpa using compared.symm⟩

/-- At a mismatch the intersection accepts the full length if the explicit side is a wildcard, and
there is none if it is exact. -/
private theorem lengthMismatch_intersect {full : Nat} {p q s d : Algorithm}
    (mismatch : LengthMismatch full p q) (sides : s = p ∧ d = q ∨ s = q ∧ d = p) :
    (macIsWildcard q = true → ∃ c, lengthPolicyIntersect psaMacTruncatedLength macIsWildcard
        psaAlgAtLeastThisLengthMac s d = some c ∧ AcceptsLength full c full) ∧
    (macIsWildcard q = false → lengthPolicyIntersect psaMacTruncatedLength macIsWildcard
        psaAlgAtLeastThisLengthMac s d = none) := by
  have accepted := (lengthMismatch_full mismatch).1
  obtain ⟨implicit, explicit, -⟩ := mismatch
  have lax : wolfpsaTagLenPermitted 0 (psaMacTruncatedLength q) = true := by
    simp [tagLenPermitted_iff]
  have strict : wolfpsaTagLenPermitted (psaMacTruncatedLength q) 0 = false := by
    simpa [wolfpsaTagLenPermitted] using explicit
  have zero (x y : Nat) (unset : x = 0 ∨ y = 0) : wolfpsaTagLenRestrict x y = 0 := if_pos unset
  have weakest (x : Algorithm) : AcceptsLength full (psaAlgAtLeastThisLengthMac x 0) full := by
    simp [AcceptsLength, macIsWildcard_atLeast, psaMacTruncatedLength_atLeast x (by decide : 0 < 64)]
  rcases sides with ⟨rfl, rfl⟩ | ⟨rfl, rfl⟩
  · constructor
    · intro wild
      unfold lengthPolicyIntersect
      rw [wild, implicit, lax, zero _ _ (.inl rfl)]
      cases macIsWildcard s
      · exact ⟨s, rfl, accepted⟩
      · exact ⟨_, rfl, weakest s⟩
    · intro exact
      unfold lengthPolicyIntersect
      rw [exact, implicit, strict]
      cases macIsWildcard s <;> rfl
  · constructor
    · intro wild
      unfold lengthPolicyIntersect
      rw [wild, implicit, lax, zero _ _ (.inr rfl)]
      cases macIsWildcard d
      · exact ⟨d, rfl, accepted⟩
      · exact ⟨_, rfl, weakest s⟩
    · intro exact
      unfold lengthPolicyIntersect
      rw [exact, implicit, strict]
      cases macIsWildcard d <;> rfl

/-- The full-length algorithm of a policy, as the entry points see it. -/
private theorem policyAdmits_full {type : KeyType} {s p : Algorithm} (mac : psaAlgIsMac s = true)
    (nonzero : psaMacLength type (psaAlgFullLengthMac s) ≠ 0)
    (base : psaAlgFullLengthMac p = psaAlgFullLengthMac s) :
    AdmitsMac type p (psaAlgFullLengthMac s) ↔
      AcceptsLength (psaMacLength type (psaAlgFullLengthMac s)) p
        (psaMacLength type (psaAlgFullLengthMac s)) := by
  have lengths : macSetupLengths (psaAlgFullLengthMac s) (psaMacLength type (psaAlgFullLengthMac s))
      (psaMacLength type (psaAlgFullLengthMac s)) = .success := by
    unfold macSetupLengths
    rw [truncationMask_bne_zero, psaMacTruncatedLength_full, if_neg (by simp [nonzero]),
      if_neg (by simp)]
  unfold AdmitsMac
  rw [psaAlgFullLengthMac_full, base]
  simp [lengths, isMac_of_base (psaAlgFullLengthMac_full s) mac]

/-- If the intersection is the meet of the two policies, their lengths agree. -/
private theorem lengthsAgree_of_meet {type : KeyType} {s d : Algorithm}
    (macS : psaAlgIsMac s = true) (macD : psaAlgIsMac d = true)
    (some_meets : ∀ c, wolfpsaAlgIntersect s d = some c →
      ∀ a, AdmitsMac type c a ↔ AdmitsMac type s a ∧ AdmitsMac type d a)
    (none_meets : wolfpsaAlgIntersect s d = none →
      ∀ a, ¬(AdmitsMac type s a ∧ AdmitsMac type d a)) : LengthsAgree type s d := by
  intro base nonzero
  -- one argument for both orientations of the mismatch
  have key (p q : Algorithm) (sides : s = p ∧ d = q ∨ s = q ∧ d = p) :
      ¬LengthMismatch (psaMacLength type (psaAlgFullLengthMac s)) p q := by
    intro mismatch
    obtain ⟨acceptsP, acceptsQ⟩ := lengthMismatch_full mismatch
    obtain ⟨wildMeets, exactMeets⟩ := lengthMismatch_intersect mismatch sides
    have different : s ≠ d := by
      rintro rfl
      rcases sides with ⟨rfl, rfl⟩ | ⟨rfl, rfl⟩ <;> exact mismatch.2.1 mismatch.1
    have intersect := algIntersect_mac macS macD
    rw [if_neg different, if_pos base] at intersect
    have admitsS := policyAdmits_full macS nonzero (rfl : psaAlgFullLengthMac s = _)
    have admitsD := policyAdmits_full macS nonzero base.symm
    cases wild : macIsWildcard q with
    | true =>
      obtain ⟨c, met, acceptsC⟩ := wildMeets wild
      have baseC := lengthPolicyIntersect_base base met
      have both := (some_meets c (intersect.trans met) _).mp
        ((policyAdmits_full macS nonzero baseC).mpr acceptsC)
      rw [admitsS, admitsD] at both
      simp only [wild, Bool.true_eq_false, iff_false] at acceptsQ
      rcases sides with ⟨rfl, rfl⟩ | ⟨rfl, rfl⟩
      · exact acceptsQ both.2
      · exact acceptsQ both.1
    | false =>
      refine none_meets (intersect.trans (exactMeets wild)) (psaAlgFullLengthMac s) ?_
      rw [admitsS, admitsD]
      have acceptsQ := acceptsQ.mpr wild
      rcases sides with ⟨rfl, rfl⟩ | ⟨rfl, rfl⟩
      · exact ⟨acceptsP, acceptsQ⟩
      · exact ⟨acceptsQ, acceptsP⟩
  exact ⟨key s d (.inl ⟨rfl, rfl⟩), key d s (.inr ⟨rfl, rfl⟩)⟩

private theorem lengthsAgree_of_copyIsMeet (plain : src.alg2 = psaAlgNone)
    (plain' : requested.alg2 = psaAlgNone) (macS : psaAlgIsMac src.alg = true)
    (macD : psaAlgIsMac requested.alg = true) (copyable : Copyable cfg src data requested)
    (meets : CopyIsMeet macAdmits cfg freshStore (oneKeyWorld src data) (fun _ => calmFault)
      psaKeyIdVendorMin src requested) : LengthsAgree src.type src.alg requested.alg := by
  have requestedAdmits (a : Algorithm) : macAdmits (withPolicy src requested) a = true ↔
      AdmitsMac src.type requested.alg a := macAdmits_iff plain' macD
  refine lengthsAgree_of_meet macS macD ?_ ?_
  · intro c met a
    obtain ⟨made, granted⟩ := copyKeyAttributes_of_copyable copyable plain' met
    obtain ⟨attr, accepted⟩ := copyable.accepted made granted
    obtain ⟨id, succeeded⟩ := copy_made granted accepted copyable.fits
    obtain ⟨made', stored, granted', sized, held⟩ :=
      copy_granted (keyFound_oneKeyWorld freshStore src data) succeeded
    obtain ⟨copy, data', held', admits⟩ := meets.granted id succeeded
    obtain ⟨type, -, alg, alg2⟩ := held.unique held'
    obtain ⟨-, met', met2, -, -, -, -, type', -⟩ := copyKeyAttributes_ok granted'
    have policy : copy.alg = c := by
      rw [alg, sized]
      exact Option.some.inj (met'.symm.trans met)
    have plainCopy : copy.alg2 = psaAlgNone := by
      rw [alg2, sized]
      simpa [wolfpsaAlg2Intersect, plain] using met2.symm
    have typed : copy.type = src.type := by rw [type, sized, type']
    have macC : psaAlgIsMac copy.alg = true := by
      rw [policy]
      exact (isMac_of_intersect macS macD met)
    have equal := admits a
    rwa [Bool.eq_iff_iff, Bool.and_eq_true, macAdmits_iff plainCopy macC, macAdmits_iff plain macS,
      requestedAdmits, typed, policy] at equal
  · intro unmet a
    have disjoint := meets.refused unmet a
    rwa [Bool.eq_false_iff, ne_eq, Bool.and_eq_true, macAdmits_iff plain macS, requestedAdmits]
      at disjoint

/-! ### Tag lengths

An AEAD policy without a tag length permits nothing, so the two views never differ. -/

/-- The algorithms with a streaming back end. -/
private def AeadFamily (a : Algorithm) : Prop :=
  (psaAlgAeadEqual a psaAlgGcm || psaAlgAeadEqual a psaAlgCcm ||
    psaAlgAeadEqual a psaAlgChacha20Poly1305) = true

private theorem AeadFamily.known {a : Algorithm} (family : AeadFamily a) :
    psaAlgAeadWithDefaultLengthTag a ≠ 0 := by
  simp only [AeadFamily, Bool.or_eq_true, aeadEqual_iff] at family
  rcases family with (base | base) | base <;> rw [defaultTag_congr base] <;> decide

/-- What one AEAD policy admits, in terms of tag lengths. -/
private def TagAdmits (sizes : AeadTagSizes) (p a : Algorithm) : Prop :=
  (aeadSetupGate a = .success ∧ AeadFamily a ∧ aeadSetupTagLength sizes a = .success) ∧
    psaAlgFullLengthMac p = psaAlgFullLengthMac a ∧ AcceptsTag p (psaMacTruncatedLength a)

private theorem aeadAdmits_iff {sizes : AeadTagSizes} {attributes : KeyAttributes} {a : Algorithm}
    (plain : attributes.alg2 = psaAlgNone) :
    aeadAdmits sizes attributes a = true ↔ TagAdmits sizes attributes.alg a := by
  have nothing : wolfpsaAeadAlgPermitted psaAlgNone a = false := rfl
  unfold aeadAdmits TagAdmits wolfpsaAeadKeyPermitsAlg
  rw [plain, nothing, Bool.or_false]
  by_cases family : AeadFamily a
  · simp only [Bool.and_eq_true, aeadAlgPermitted_iff family.known, beq_iff_eq]
    rw [show (_ = true) = AeadFamily a from rfl]
    tauto
  · simp only [Bool.and_eq_true, beq_iff_eq]
    rw [show (_ = true) = AeadFamily a from rfl]
    tauto

private theorem algIntersect_aead {s d : Algorithm} (aeadS : psaAlgIsAead s = true)
    (aeadD : psaAlgIsAead d = true) :
    wolfpsaAlgIntersect s d =
      if s = d then some s
      else if psaAlgFullLengthMac s = psaAlgFullLengthMac d then
        lengthPolicyIntersect psaMacTruncatedLength macIsWildcard psaAlgAtLeastThisLengthMac s d
      else none := by
  have category := beq_iff_eq.mp aeadS
  have noSign : psaAlgIsSignHash s = false := by
    simp [psaAlgIsSignHash, psaAlgIsSign, category, psaAlgCategoryAead, psaAlgCategorySign]
  have noMac : psaAlgIsMac s = false := by
    simp [psaAlgIsMac, category, psaAlgCategoryMac, psaAlgCategoryAead]
  unfold wolfpsaAlgIntersect
  simp only [beq_iff_eq, noSign, Bool.and_false, Bool.false_and, Bool.false_eq_true, if_false, aeadS,
    aeadD, Bool.true_and, noMac, shortenedTag_zero]
  rfl

private theorem tagIntersect_some {s d c : Algorithm}
    (met : lengthPolicyIntersect psaMacTruncatedLength macIsWildcard psaAlgAtLeastThisLengthMac
      s d = some c) (t : Nat) : AcceptsTag c t ↔ AcceptsTag s t ∧ AcceptsTag d t := by
  rcases lengthPolicyIntersect_cases s d with ⟨wildS, wildD, value⟩ | ⟨wildS, wildD, value⟩ |
    ⟨wildS, wildD, value⟩ | ⟨wildS, wildD, value⟩ <;> rw [value] at met
  · cases met
    have boundS := psaMacTruncatedLength_lt s
    have boundD := psaMacTruncatedLength_lt d
    have restricted : (if psaMacTruncatedLength s = 0 ∨ psaMacTruncatedLength d = 0 then 0
        else max (psaMacTruncatedLength s) (psaMacTruncatedLength d)) < 64 := by
      split_ifs <;> omega
    rw [tagLenRestrict_eq]
    simp only [AcceptsTag, wildS, wildD, macIsWildcard_atLeast, if_true,
      psaMacTruncatedLength_atLeast s restricted]
    split_ifs <;> omega
  · split at met
    · rename_i permitted
      rw [tagLenPermitted_iff] at permitted
      cases met
      simp only [AcceptsTag, wildS, wildD, if_true, Bool.false_eq_true, if_false]
      omega
    · cases met
  · split at met
    · rename_i permitted
      rw [tagLenPermitted_iff] at permitted
      cases met
      simp only [AcceptsTag, wildS, wildD, if_true, Bool.false_eq_true, if_false]
      omega
    · cases met
  · cases met

private theorem tagIntersect_none {s d : Algorithm} (different : s ≠ d)
    (base : psaAlgFullLengthMac s = psaAlgFullLengthMac d)
    (unmet : lengthPolicyIntersect psaMacTruncatedLength macIsWildcard psaAlgAtLeastThisLengthMac
      s d = none) (t : Nat) : ¬(AcceptsTag s t ∧ AcceptsTag d t) := by
  rcases lengthPolicyIntersect_cases s d with ⟨wildS, wildD, value⟩ | ⟨wildS, wildD, value⟩ |
    ⟨wildS, wildD, value⟩ | ⟨wildS, wildD, value⟩ <;> rw [value] at unmet
  · cases unmet
  · split at unmet
    · cases unmet
    · rename_i permitted
      rw [tagLenPermitted_iff] at permitted
      simp only [AcceptsTag, wildS, wildD, if_true, Bool.false_eq_true, if_false]
      omega
  · split at unmet
    · cases unmet
    · rename_i permitted
      rw [tagLenPermitted_iff] at permitted
      simp only [AcceptsTag, wildS, wildD, if_true, Bool.false_eq_true, if_false]
      omega
  · have lengths : psaMacTruncatedLength s ≠ psaMacTruncatedLength d := fun same =>
      different (lengthPolicy_ext base same (wildS.trans wildD.symm))
    simp only [AcceptsTag, wildS, wildD, Bool.false_eq_true, if_false]
    omega

private theorem copyIsMeet_aead (sizes : AeadTagSizes) (plain : src.alg2 = psaAlgNone)
    (plain' : requested.alg2 = psaAlgNone) (aeadS : psaAlgIsAead src.alg = true)
    (aeadD : psaAlgIsAead requested.alg = true) (found : KeyFound store w source src data) :
    CopyIsMeet (aeadAdmits sizes) cfg store w faults source src requested := by
  have requestedAdmits (a : Algorithm) : aeadAdmits sizes (withPolicy src requested) a = true ↔
      TagAdmits sizes requested.alg a := aeadAdmits_iff plain'
  constructor
  · intro id succeeded
    obtain ⟨copy, attr, granted, sized, stored⟩ := copy_granted found succeeded
    obtain ⟨-, met, met2, -⟩ := copyKeyAttributes_ok granted
    have plainCopy : attr.alg2 = psaAlgNone := by
      rw [sized]
      simpa [wolfpsaAlg2Intersect, plain] using met2.symm
    have policy : attr.alg = copy.alg := by rw [sized]
    refine ⟨attr, data, stored, fun a => ?_⟩
    rw [Bool.eq_iff_iff, Bool.and_eq_true, aeadAdmits_iff plainCopy, aeadAdmits_iff plain,
      requestedAdmits, policy]
    rw [algIntersect_aead aeadS aeadD] at met
    split at met
    · rename_i same
      rw [← same, Option.some.inj met]
      exact (and_self_iff).symm
    split at met
    · rename_i base
      have key := tagIntersect_some met (psaMacTruncatedLength a)
      unfold TagAdmits
      rw [lengthPolicyIntersect_base base met, ← base]
      tauto
    · cases met
  · intro unmet a
    rw [Bool.eq_false_iff, ne_eq, Bool.and_eq_true, aeadAdmits_iff plain, requestedAdmits]
    rintro ⟨⟨-, baseS, acceptsS⟩, -, baseD, acceptsD⟩
    have base := baseS.trans baseD.symm
    rw [algIntersect_aead aeadS aeadD] at unmet
    by_cases same : src.alg = requested.alg
    · rw [if_pos same] at unmet
      cases unmet
    rw [if_neg same, if_pos base] at unmet
    exact tagIntersect_none same base unmet _ ⟨acceptsS, acceptsD⟩

/-- Without enrollment algorithms, copying a MAC key computes the meet of the two policies whenever
their lengths agree, and, unless the copy is refused for other reasons, only then; copying an AEAD
key always does. -/
theorem copied_length_policy_is_meet_iff (sizes : AeadTagSizes) (cfg : ImportConfig)
    (src requested : KeyAttributes) (data : Bytes) (plain : src.alg2 = psaAlgNone)
    (plain' : requested.alg2 = psaAlgNone) :
    (psaAlgIsMac src.alg = true → psaAlgIsMac requested.alg = true →
      (LengthsAgree src.type src.alg requested.alg →
        ∀ store w faults source, KeyFound store w source src data →
          CopyIsMeet macAdmits cfg store w faults source src requested) ∧
      (Copyable cfg src data requested →
        (∀ store w faults source, KeyFound store w source src data →
          CopyIsMeet macAdmits cfg store w faults source src requested) →
        LengthsAgree src.type src.alg requested.alg)) ∧
    (psaAlgIsAead src.alg = true → psaAlgIsAead requested.alg = true →
      ∀ store w faults source, KeyFound store w source src data →
        CopyIsMeet (aeadAdmits sizes) cfg store w faults source src requested) := by
  refine ⟨fun macS macD => ⟨?_, ?_⟩, ?_⟩
  · exact fun agree store w faults source found => copyIsMeet_mac plain plain' macS macD agree found
  · intro copyable meets
    exact lengthsAgree_of_copyIsMeet plain plain' macS macD copyable
      (meets _ _ _ _ (keyFound_oneKeyWorld freshStore src data))
  · exact fun aeadS aeadD store w faults source found =>
      copyIsMeet_aead sizes plain plain' aeadS aeadD found

/-- A volatile HMAC-SHA-256 key that may be copied, with the given algorithm. -/
def hmacKey (alg : Algorithm) : KeyAttributes :=
  ⟨psaKeyTypeHmac, 256, psaKeyLifetimeVolatile, psaKeyUsageCopy ||| psaKeyUsageSignMessage, alg,
    psaAlgNone, psaKeyIdNull⟩

/-- A minimum of 16 bytes and a minimum of 20 bytes meet in a minimum of 20 bytes. -/
theorem hmac_minimums_meet :
    let s := psaAlgAtLeastThisLengthMac (psaAlgHmac psaAlgSha256) 16
    let d := psaAlgAtLeastThisLengthMac (psaAlgHmac psaAlgSha256) 20
    (hmacKey s).alg2 = psaAlgNone ∧ (hmacKey d).alg2 = psaAlgNone ∧
      CopyIsMeet macAdmits plainImport freshStore (oneKeyWorld (hmacKey s) (List.replicate 32 0))
        (fun _ => calmFault) psaKeyIdVendorMin (hmacKey s) (hmacKey d) := by
  intro s d
  have agree : LengthsAgree psaKeyTypeHmac s d := by
    intro _ _
    unfold LengthMismatch
    decide
  exact ⟨rfl, rfl, ((copied_length_policy_is_meet_iff ⟨4, fun _ => true⟩ plainImport (hmacKey s)
    (hmacKey d) (List.replicate 32 0) rfl rfl).1 (by decide) (by decide)).1 agree _ _ _ _
    (keyFound_oneKeyWorld freshStore _ _)⟩

/-- `PSA_ALG_HMAC(SHA-256)` and its truncation to 32 bytes both admit HMAC-SHA-256, and the copy is
refused for want of a common algorithm. -/
theorem full_length_truncation_refused :
    ¬CopyIsMeet macAdmits plainImport freshStore
      (oneKeyWorld (hmacKey (psaAlgHmac psaAlgSha256)) (List.replicate 32 0)) (fun _ => calmFault)
      psaKeyIdVendorMin (hmacKey (psaAlgHmac psaAlgSha256))
      (hmacKey (psaAlgTruncatedMac (psaAlgHmac psaAlgSha256) 32)) := by
  intro meets
  exact absurd (meets.refused (by decide) (psaAlgHmac psaAlgSha256)) (by decide)

end WolfPSA.Guarantees
