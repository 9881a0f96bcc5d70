import WolfPSA.Guarantees.PublicHalves

/-!
# Two processes that agree on a key by encapsulation

`psa_encapsulate` and `psa_decapsulate` over both store back ends, as functions of the key map, with a
correct ML-KEM for wolfCrypt. The peer encapsulates under the public half that the owner has exported;
what the owner decapsulates is the key that the peer has got.
-/

namespace WolfPSA.Guarantees
open Lib Source Prog

/-! ## The calls as functions of the map -/

/-- The import of the shared secret into a map. -/
def mapImportSecret (cfg : ImportConfig) (m : KeyMap) (attributes : KeyAttributes) (secret : Bytes) :
    (Status × KeyId) × KeyMap :=
  let imported := m.importKey cfg attributes secret
  if imported.1.1 ≠ .success then ((imported.1.1, psaKeyIdNull), imported.2) else imported

def mapEncapsulate (cfg : ImportConfig) (wc : WcMlKem) (rng : Except WcError wc.Rng) (m : KeyMap)
    (key : KeyId) (alg : Algorithm) (attributes : KeyAttributes) (ciphertextSize : Nat) :
    Encapsulation × KeyMap :=
  match kemRequest alg attributes with
  | .error status => (⟨status.val, psaKeyIdNull, []⟩, m)
  | .ok () =>
    match m.getKeyData key with
    | .error status => (⟨status.val, psaKeyIdNull, []⟩, m)
    | .ok (keyAttr, keyData) =>
      match encapsulateWith wc rng alg ciphertextSize keyAttr keyData with
      | .error status => (⟨status.val, psaKeyIdNull, []⟩, m)
      | .ok (ciphertext, ss) =>
        let imported := mapImportSecret cfg m attributes ss
        (⟨imported.1.1, imported.1.2, if imported.1.1 ≠ .success then [] else ciphertext⟩, imported.2)

def mapDecapsulate (cfg : ImportConfig) (wc : WcMlKem) (m : KeyMap) (key : KeyId) (alg : Algorithm)
    (ciphertext : Bytes) (attributes : KeyAttributes) : (Status × KeyId) × KeyMap :=
  match kemRequest alg attributes with
  | .error status => ((status.val, psaKeyIdNull), m)
  | .ok () =>
    match m.getKeyData key with
    | .error status => ((status.val, psaKeyIdNull), m)
    | .ok (keyAttr, keyData) =>
      match decapsulateWith wc alg ciphertext keyAttr keyData with
      | .error status => ((status.val, psaKeyIdNull), m)
      | .ok ss => mapImportSecret cfg m attributes ss

/-! ## wolfCrypt -/

/-- wolfCrypt's ML-KEM is correct: sizes are those of the parameter set, the secret has 32 bytes, and
a pair opens what was made under its encoded public key. -/
structure LawfulMlKem (wc : WcMlKem) : Prop where
  secret : ∀ {key rng ct ss}, wc.encapsulate key rng = .ok (ct, ss) → ss.length = wolfpsaMlkemSsSize
  opened : ∀ {key ct ss}, wc.decapsulate key ct = .ok ss → ss.length = wolfpsaMlkemSsSize
  expanded : ∀ {bits type fresh seed key size}, mlkemBitsToType bits = some type →
    wc.init type = .ok fresh → wc.makeKeyWithRandom fresh seed = .ok key →
    wc.cipherTextSize key = .ok size →
    size = psaEncapsulateCiphertextSize psaKeyTypeMlKemKeyPair bits psaAlgMlKem ∧
      ∀ rng ct ss, wc.encapsulate key rng = .ok (ct, ss) → ct.length = size
  decoded : ∀ {bits type fresh bytes key size}, mlkemBitsToType bits = some type →
    wc.init type = .ok fresh → wc.decodePublicKey fresh bytes = .ok key →
    wc.cipherTextSize key = .ok size →
    size = psaEncapsulateCiphertextSize psaKeyTypeMlKemKeyPair bits psaAlgMlKem ∧
      ∀ rng ct ss, wc.encapsulate key rng = .ok (ct, ss) → ct.length = size
  correct : ∀ {type fresh seed pair n bytes half size rng ct ss}, wc.init type = .ok fresh →
    wc.makeKeyWithRandom fresh seed = .ok pair → wc.encodePublicKey pair n = .ok bytes →
    wc.decodePublicKey fresh bytes = .ok half → wc.cipherTextSize half = .ok size →
    wc.encapsulate half rng = .ok (ct, ss) →
    wc.cipherTextSize pair = .ok size ∧ wc.decapsulate pair ct = .ok ss

section

variable {wc : WcMlKem} {rng : Except WcError wc.Rng} (lawful : LawfulMlKem wc) {alg : Algorithm}
  {keyAttr : KeyAttributes} {keyData ct ss : Bytes} {ciphertextSize : Nat}

theorem mlkemKeyInit_ok_iff {bits : Nat} {fresh : wc.Key} :
    mlkemKeyInit wc bits = .ok fresh ↔
      ∃ type, mlkemBitsToType bits = some type ∧ wc.init type = .ok fresh := by
  unfold mlkemKeyInit
  cases mlkemBitsToType bits with
  | none => simp [refuse]
  | some type => simp

theorem kemRequest_ok_iff {attributes : KeyAttributes} :
    kemRequest alg attributes = .ok () ↔ alg = psaAlgMlKem ∧
      psaKeyTypeIsUnstructured attributes.type = true ∧
      (attributes.bits = 0 ∨ attributes.bits.toNat = 256) := by
  unfold kemRequest wolfpsaKemCheckOutputAttributes
  rw [except_bind_ok_iff]
  simp only [require_bind_ok_iff, require_ok_iff, Bool.or_eq_true, beq_iff_eq]
  constructor
  · rintro ⟨_, accepted, unstructured, bits⟩
    refine ⟨?_, unstructured, bits⟩
    unfold wolfpsaKemCheckAlg at accepted
    split at accepted
    · rename_i same
      exact same
    split at accepted
    · cases accepted
    · cases accepted
  · rintro ⟨rfl, unstructured, bits⟩
    exact ⟨(), rfl, unstructured, bits⟩

/-- The key may be used with the KEM. -/
structure KemPolicy (types : List KeyType) (usage : KeyUsage) (alg : Algorithm)
    (keyAttr : KeyAttributes) : Prop where
  typed : keyAttr.type ∈ types
  granted : keyAttr.usage &&& usage ≠ 0
  permitted : wolfpsaKeyPermitsAlg keyAttr alg = true

theorem kemKeyPermitted_ok_iff {types : List KeyType} {usage : KeyUsage} :
    kemKeyPermitted types usage alg keyAttr = .ok () ↔ KemPolicy types usage alg keyAttr := by
  unfold kemKeyPermitted
  simp only [require_bind_ok_iff, require_ok_iff, List.contains_iff_mem, bne_iff_ne]
  constructor
  · rintro ⟨typed, granted, permitted⟩
    exact ⟨typed, granted, permitted⟩
  · rintro ⟨typed, granted, permitted⟩
    exact ⟨typed, granted, permitted⟩

/-- The key object that a peer encapsulates with. -/
structure EncapsulatedWith (wc : WcMlKem) (keyAttr : KeyAttributes) (keyData ct ss : Bytes)
    (type : MlKemType) (fresh key : wc.Key) (r : wc.Rng) : Prop where
  bits : mlkemBitsToType keyAttr.bits.toNat = some type
  started : wc.init type = .ok fresh
  loaded : mlkemEncapsulationKey wc keyAttr.type fresh keyData = .ok key
  sized : ∃ size, wc.cipherTextSize key = .ok size
  made : wc.encapsulate key r = .ok (ct, ss)

/-- What the encapsulation has checked, and what it has used. -/
theorem encapsulateWith_ok (made : encapsulateWith wc rng alg ciphertextSize keyAttr keyData =
    .ok (ct, ss)) :
    KemPolicy [psaKeyTypeMlKemKeyPair, psaKeyTypeMlKemPublicKey] psaKeyUsageEncrypt alg keyAttr ∧
      psaEncapsulateCiphertextSize keyAttr.type keyAttr.bits.toNat alg ≤ ciphertextSize ∧
      ∃ type fresh key r, EncapsulatedWith wc keyAttr keyData ct ss type fresh key r := by
  unfold encapsulateWith wolfpsaMlkemEncapsulate at made
  simp only [except_bind_ok_iff, require_ok_iff, wcCall_ok_iff, mlkemKeyInit_ok_iff,
    decide_eq_true_eq] at made
  obtain ⟨_, policy, _, room, fresh, ⟨type, bits, started⟩, key, loaded, size, sized, _, -, r, -,
    made⟩ := made
  exact ⟨kemKeyPermitted_ok_iff.mp policy, room, type, fresh, key, r, bits, started, loaded,
    ⟨size, sized⟩, made⟩

/-- The key object that the owner decapsulates with. -/
structure DecapsulatedWith (wc : WcMlKem) (keyAttr : KeyAttributes) (keyData ct ss : Bytes)
    (type : MlKemType) (fresh key : wc.Key) : Prop where
  bits : mlkemBitsToType keyAttr.bits.toNat = some type
  started : wc.init type = .ok fresh
  expanded : wc.makeKeyWithRandom fresh keyData = .ok key
  sized : wc.cipherTextSize key = .ok ct.length
  opened : wc.decapsulate key ct = .ok ss

theorem decapsulateWith_ok_iff :
    decapsulateWith wc alg ct keyAttr keyData = .ok ss ↔
      KemPolicy [psaKeyTypeMlKemKeyPair] psaKeyUsageDecrypt alg keyAttr ∧
        keyData.length = wolfpsaMlkemSeedSize ∧ ct.length < 2 ^ 32 ∧
        ∃ type fresh key, DecapsulatedWith wc keyAttr keyData ct ss type fresh key := by
  unfold decapsulateWith
  simp only [except_bind_ok_iff, require_ok_iff, beq_iff_eq]
  constructor
  · rintro ⟨_, policy, _, seed, opened⟩
    unfold wolfpsaMlkemDecapsulate at opened
    split at opened
    · cases opened
    rename_i type bits
    simp only [except_bind_ok_iff, require_ok_iff, wcCall_ok_iff, fitWord32_iff, List.mem_singleton,
      forall_eq, beq_iff_eq] at opened
    obtain ⟨_, word, fresh, started, key, expanded, size, sized, _, same, opened⟩ := opened
    have short : ct.length < 2 ^ 32 := by
      unfold uint32Max at word
      omega
    have cast : toWord32 ct.length = ct.length := Nat.mod_eq_of_lt short
    rw [cast] at same opened
    rw [← seed, List.take_length] at expanded
    rw [List.take_length] at opened
    rw [← same] at sized
    exact ⟨kemKeyPermitted_ok_iff.mp policy, seed, short, type, fresh, key, bits, started, expanded,
      sized, opened⟩
  · rintro ⟨policy, seed, short, type, fresh, key, bits, started, expanded, sized, opened⟩
    have cast : toWord32 ct.length = ct.length := Nat.mod_eq_of_lt short
    refine ⟨(), kemKeyPermitted_ok_iff.mpr policy, (), seed, ?_⟩
    unfold wolfpsaMlkemDecapsulate
    rw [bits]
    simp only [except_bind_ok_iff, require_ok_iff, wcCall_ok_iff, fitWord32_iff, List.mem_singleton,
      forall_eq, beq_iff_eq]
    refine ⟨(), ?_, fresh, started, key, ?_, ct.length, sized, (), cast, ?_⟩
    · unfold uint32Max
      omega
    · rw [← seed, List.take_length]
      exact expanded
    · rw [cast, List.take_length]
      exact opened

variable {attributes ownerAttr : KeyAttributes} {seed bytes : Bytes} {dataSize : Nat}

/-- The public half of a seed, as `wolfpsa_mlkem_export_public` encodes it. -/
theorem exportPublic_ok {bits : Nat}
    (exported : wolfpsaMlkemExportPublic wc bits seed dataSize = .ok bytes) :
    ∃ type fresh pair n, mlkemBitsToType bits = some type ∧ wc.init type = .ok fresh ∧
      wc.makeKeyWithRandom fresh (seed.take wolfpsaMlkemSeedSize) = .ok pair ∧
      wc.encodePublicKey pair n = .ok bytes := by
  unfold wolfpsaMlkemExportPublic at exported
  simp only [except_bind_ok_iff, wcCall_ok_iff, mlkemKeyInit_ok_iff] at exported
  obtain ⟨fresh, ⟨type, bits, started⟩, pair, expanded, n, -, _, -, encoded⟩ := exported
  exact ⟨type, fresh, pair, n, bits, started, expanded, encoded⟩

include lawful in
/-- The secret of a peer who holds the public half of a seed is what the seed opens. -/
theorem secrets_agree (policy : KemPolicy [psaKeyTypeMlKemKeyPair] psaKeyUsageDecrypt alg ownerAttr)
    (seedSize : seed.length = wolfpsaMlkemSeedSize)
    (exported : wolfpsaMlkemExportPublic wc ownerAttr.bits.toNat seed dataSize = .ok bytes)
    (half : keyAttr.type = psaKeyTypeMlKemPublicKey) (bits : keyAttr.bits = ownerAttr.bits)
    (made : encapsulateWith wc rng alg ciphertextSize keyAttr bytes = .ok (ct, ss)) :
    decapsulateWith wc alg ct ownerAttr seed = .ok ss := by
  obtain ⟨-, -, type, fresh, key, r, sameType, started, loaded, ⟨size, sized⟩, made⟩ :=
    encapsulateWith_ok made
  obtain ⟨type', fresh', pair, n, ownerType, started', expanded, encoded⟩ := exportPublic_ok exported
  rw [← bits, sameType] at ownerType
  obtain rfl := Option.some.inj ownerType
  obtain rfl := Except.ok.inj (started.symm.trans started')
  unfold mlkemEncapsulationKey at loaded
  rw [if_pos half] at loaded
  simp only [except_bind_ok_iff, wcCall_ok_iff] at loaded
  obtain ⟨_, -, _, -, _, -, decoded⟩ := loaded
  rw [← seedSize, List.take_length] at expanded
  obtain ⟨-, lengths⟩ := lawful.decoded sameType started decoded sized
  have whole := lengths r ct ss made
  obtain ⟨pairSized, opened⟩ := lawful.correct started expanded encoded decoded sized made
  have bound : psaEncapsulateCiphertextSize psaKeyTypeMlKemKeyPair keyAttr.bits.toNat psaAlgMlKem <
      2 ^ 32 := by
    unfold psaEncapsulateCiphertextSize
    split_ifs <;> omega
  have size := (lawful.decoded sameType started decoded sized).1
  rw [← whole] at pairSized
  exact decapsulateWith_ok_iff.mpr ⟨policy, seedSize, by omega, type, fresh, pair, bits ▸ sameType,
    started, expanded, pairSized, opened⟩

end

/-! ## The calls on a store -/

section

variable {backend : StoreBackend} {good : World → Prop} {w : World} {cfg : ImportConfig}
  (lawful : LawfulStore backend good)
include lawful

theorem importSecret_moves {attributes : KeyAttributes} {secret : Bytes} (holds : good w)
    (fits : keyHeaderLength + secret.length ≤ intMax) :
    Moves backend good w (mapImportSecret cfg (keyMap backend w) attributes secret)
      (importSecret cfg attributes secret) := by
  refine triple_bind_of (psaImportKey_moves lawful holds fits) ?_
  rintro imported s ⟨answer, moved, kept⟩
  unfold mapImportSecret
  dsimp only
  rw [← answer]
  split
  · exact ⟨rfl, moved, kept⟩
  · exact ⟨answer, moved, kept⟩

theorem psaEncapsulate_moves {wc : WcMlKem} (kem : LawfulMlKem wc) (rng : Except WcError wc.Rng)
    {key : KeyId} (alg : Algorithm) (attributes : KeyAttributes) (ciphertextSize : Nat)
    (holds : good w) (named : key ≠ psaKeyIdNull) :
    Moves backend good w
      (mapEncapsulate cfg wc rng (keyMap backend w) key alg attributes ciphertextSize)
      (psaEncapsulate cfg wc rng key alg attributes ciphertextSize) := by
  unfold psaEncapsulate mapEncapsulate
  cases kemRequest alg attributes with
  | error status => exact ⟨rfl, rfl, holds⟩
  | ok _ =>
    refine triple_bind_of (wolfpsaGetKeyData_reads lawful holds named) ?_
    rintro _ s ⟨rfl, rfl⟩
    cases (keyMap backend s).getKeyData key with
    | error status => exact ⟨rfl, rfl, holds⟩
    | ok found =>
      obtain ⟨keyAttr, keyData⟩ := found
      dsimp only
      cases made : encapsulateWith wc rng alg ciphertextSize keyAttr keyData with
      | error status => exact ⟨rfl, rfl, holds⟩
      | ok pair =>
        obtain ⟨ct, ss⟩ := pair
        obtain ⟨-, -, _, _, _, _, used⟩ := encapsulateWith_ok made
        have length := kem.secret used.made
        have fits : keyHeaderLength + ss.length ≤ intMax := by
          rw [length]
          decide
        refine triple_bind_of (importSecret_moves lawful holds fits) ?_
        rintro _ s' ⟨rfl, moved, kept⟩
        exact ⟨rfl, moved, kept⟩

theorem psaDecapsulate_moves {wc : WcMlKem} (kem : LawfulMlKem wc) {key : KeyId} (alg : Algorithm)
    (ciphertext : Bytes) (attributes : KeyAttributes) (holds : good w) (named : key ≠ psaKeyIdNull) :
    Moves backend good w (mapDecapsulate cfg wc (keyMap backend w) key alg ciphertext attributes)
      (psaDecapsulate cfg wc key alg ciphertext attributes) := by
  unfold psaDecapsulate mapDecapsulate
  cases kemRequest alg attributes with
  | error status => exact ⟨rfl, rfl, holds⟩
  | ok _ =>
    refine triple_bind_of (wolfpsaGetKeyData_reads lawful holds named) ?_
    rintro _ s ⟨rfl, rfl⟩
    cases (keyMap backend s).getKeyData key with
    | error status => exact ⟨rfl, rfl, holds⟩
    | ok found =>
      obtain ⟨keyAttr, keyData⟩ := found
      dsimp only
      cases made : decapsulateWith wc alg ciphertext keyAttr keyData with
      | error status => exact ⟨rfl, rfl, holds⟩
      | ok ss =>
        obtain ⟨-, -, -, _, _, _, used⟩ := decapsulateWith_ok_iff.mp made
        have length := kem.opened used.opened
        have fits : keyHeaderLength + ss.length ≤ intMax := by
          rw [length]
          decide
        exact importSecret_moves lawful holds fits

end

/-! ## In any environment -/

section

variable {backend : StoreBackend} {admitted : (Nat → Fault) → Prop} {w : World} {cfg : ImportConfig}
  {wc : WcMlKem} (steady : SteadyReads backend)

/-- A refusal gives the null key. -/
theorem importSecret_refused (attributes : KeyAttributes) (secret : Bytes) :
    Triple (keyHandler backend) admitted (fun _ => True)
      (fun r _ => r.1 ≠ .success → r.2 = psaKeyIdNull) (importSecret cfg attributes secret) w := by
  refine triple_bind_of (triple_any _ _) fun imported s _ => ?_
  split
  · exact fun _ => rfl
  · rename_i succeeded
    exact fun failed => absurd failed succeeded

include steady

theorem psaEncapsulate_steady (rng : Except WcError wc.Rng) (key : KeyId) (alg : Algorithm)
    (attributes : KeyAttributes) (ciphertextSize : Nat) :
    Triple (keyHandler backend) admitted (fun _ => True)
      (fun r s => (r.status ≠ .success → r.outputKey = psaKeyIdNull ∧ r.ciphertext = []) ∧
        ((∃ keyAttr keyData ct ss, kemRequest alg attributes = .ok () ∧
          (keyMap backend w).getKeyData key = .ok (keyAttr, keyData) ∧
          encapsulateWith wc rng alg ciphertextSize keyAttr keyData = .ok (ct, ss) ∧
          (r.status = .success → r.ciphertext = ct)) ∨ (r.status ≠ .success ∧ s = w)))
      (psaEncapsulate cfg wc rng key alg attributes ciphertextSize) w := by
  unfold psaEncapsulate
  cases kemRequest alg attributes with
  | error status => exact ⟨fun _ => ⟨rfl, rfl⟩, .inr ⟨status.property, rfl⟩⟩
  | ok _ =>
    refine triple_bind_of (wolfpsaGetKeyData_steady steady key) ?_
    rintro (status | ⟨keyAttr, keyData⟩) s ⟨rfl, read⟩
    · exact ⟨fun _ => ⟨rfl, rfl⟩, .inr ⟨status.property, rfl⟩⟩
    have found := read (keyAttr, keyData) rfl
    dsimp only
    cases made : encapsulateWith wc rng alg ciphertextSize keyAttr keyData with
    | error status => exact ⟨fun _ => ⟨rfl, rfl⟩, .inr ⟨status.property, rfl⟩⟩
    | ok pair =>
      obtain ⟨ct, ss⟩ := pair
      refine triple_bind_of (importSecret_refused attributes ss) fun imported s' refused => ?_
      refine ⟨fun failed => ⟨refused failed, if_pos failed⟩,
        .inl ⟨keyAttr, keyData, ct, ss, rfl, found, made, fun succeeded => ?_⟩⟩
      exact if_neg (not_not.mpr succeeded)

theorem psaDecapsulate_steady (key : KeyId) (alg : Algorithm) (ciphertext : Bytes)
    (attributes : KeyAttributes) :
    Triple (keyHandler backend) admitted (fun _ => True)
      (fun r s => (r.1 ≠ .success → r.2 = psaKeyIdNull) ∧
        ((∃ keyAttr keyData ss, kemRequest alg attributes = .ok () ∧
          (keyMap backend w).getKeyData key = .ok (keyAttr, keyData) ∧
          decapsulateWith wc alg ciphertext keyAttr keyData = .ok ss) ∨ (r.1 ≠ .success ∧ s = w)))
      (psaDecapsulate cfg wc key alg ciphertext attributes) w := by
  unfold psaDecapsulate
  cases kemRequest alg attributes with
  | error status => exact ⟨fun _ => rfl, .inr ⟨status.property, rfl⟩⟩
  | ok _ =>
    refine triple_bind_of (wolfpsaGetKeyData_steady steady key) ?_
    rintro (status | ⟨keyAttr, keyData⟩) s ⟨rfl, read⟩
    · exact ⟨fun _ => rfl, .inr ⟨status.property, rfl⟩⟩
    have found := read (keyAttr, keyData) rfl
    dsimp only
    cases opened : decapsulateWith wc alg ciphertext keyAttr keyData with
    | error status => exact ⟨fun _ => rfl, .inr ⟨status.property, rfl⟩⟩
    | ok ss =>
      exact (importSecret_refused attributes ss).mono (fun _ => id) fun _ _ refused =>
        ⟨refused, .inl ⟨keyAttr, keyData, ss, rfl, found, opened⟩⟩

end

/-! ## Between two processes -/

/-- The ciphertext of a parameter set. -/
def mlKemCiphertextSize (keyAttr : KeyAttributes) : Nat :=
  psaEncapsulateCiphertextSize psaKeyTypeMlKemKeyPair keyAttr.bits.toNat psaAlgMlKem

section

variable {wc : WcMlKem} {rng : Except WcError wc.Rng} (lawful : LawfulMlKem wc) {alg : Algorithm}
  {keyAttr : KeyAttributes} {keyData ct ss : Bytes} {ciphertextSize : Nat}
include lawful

theorem encapsulateWith_length
    (made : encapsulateWith wc rng alg ciphertextSize keyAttr keyData = .ok (ct, ss)) :
    ct.length = mlKemCiphertextSize keyAttr := by
  obtain ⟨policy, -, type, fresh, key, r, bits, started, loaded, ⟨size, sized⟩, made⟩ :=
    encapsulateWith_ok made
  unfold mlkemEncapsulationKey at loaded
  split at loaded
  · simp only [except_bind_ok_iff, wcCall_ok_iff] at loaded
    obtain ⟨_, -, _, -, _, -, decoded⟩ := loaded
    obtain ⟨whole, lengths⟩ := lawful.decoded bits started decoded sized
    exact (lengths r ct ss made).trans whole
  split at loaded
  · simp only [except_bind_ok_iff, wcCall_ok_iff] at loaded
    obtain ⟨_, -, expanded⟩ := loaded
    obtain ⟨whole, lengths⟩ := lawful.expanded bits started expanded sized
    exact (lengths r ct ss made).trans whole
  · cases loaded

theorem decapsulateWith_length (opened : decapsulateWith wc alg ct keyAttr keyData = .ok ss) :
    ct.length = mlKemCiphertextSize keyAttr := by
  obtain ⟨-, -, -, type, fresh, key, bits, started, expanded, sized, -⟩ :=
    decapsulateWith_ok_iff.mp opened
  exact (lawful.expanded bits started expanded sized).1

end

/-- Attributes under which any secret may be imported. -/
structure SecretRequest (cfg : ImportConfig) (requested sized : KeyAttributes) : Prop where
  admitted : kemRequest psaAlgMlKem requested = .ok ()
  imports : ∀ secret : Bytes, secret.length = wolfpsaMlkemSsSize →
    importCheck cfg requested secret = .ok sized

/-- What an owner of key pairs in the world `w` and a peer in the world `w'` have of the KEM. -/
structure KemBetween (backend backend' : StoreBackend) (cfg : ImportConfig) (wc : WcPublic)
    (w w' : World) : Prop where
  /-- In any environment: who encapsulates, and what is left of a failure. -/
  encapsulates : ∀ rng key alg requested ciphertextSize faults,
    let made := (runKey backend' faults
      (psaEncapsulate cfg wc.mlkem rng key alg requested ciphertextSize) w').1
    (made.status ≠ .success → made.outputKey = psaKeyIdNull ∧ made.ciphertext = []) ∧
      (made.status = .success → alg = psaAlgMlKem ∧ ∃ keyAttr keyData,
        (keyMap backend' w').getKeyData key = .ok (keyAttr, keyData) ∧
        KemPolicy [psaKeyTypeMlKemKeyPair, psaKeyTypeMlKemPublicKey] psaKeyUsageEncrypt alg keyAttr ∧
        made.ciphertext.length = mlKemCiphertextSize keyAttr ∧
        made.ciphertext.length ≤ ciphertextSize)
  /-- In any environment: who decapsulates, and what. -/
  decapsulates : ∀ key alg ciphertext requested faults,
    let opened := (runKey backend faults
      (psaDecapsulate cfg wc.mlkem key alg ciphertext requested) w).1
    (opened.1 ≠ .success → opened.2 = psaKeyIdNull) ∧
      (opened.1 = .success → alg = psaAlgMlKem ∧ ∃ keyAttr keyData,
        (keyMap backend w).getKeyData key = .ok (keyAttr, keyData) ∧
        KemPolicy [psaKeyTypeMlKemKeyPair] psaKeyUsageDecrypt alg keyAttr ∧
        ciphertext.length = mlKemCiphertextSize keyAttr)
  /-- The peer holds what the owner's pair was exported as: the secrets are one. -/
  agrees : ∀ {id ownerAttr seed dataSize faults bytes peerId peerAttr rng requested sized newId
      ciphertextSize faults' requested' sized' newId' faults''},
    (keyMap backend w).getKeyData id = .ok (ownerAttr, seed) →
    KemPolicy [psaKeyTypeMlKemKeyPair] psaKeyUsageDecrypt psaAlgMlKem ownerAttr →
    (runKey backend faults (psaExportPublicKey (publicKeyOf wc) id dataSize) w).1 = .ok bytes →
    (keyMap backend' w').getKeyData peerId = .ok (peerAttr, bytes) →
    peerAttr.type = psaKeyTypeMlKemPublicKey → peerAttr.bits = ownerAttr.bits →
    SecretRequest cfg requested sized → FreshId (keyMap backend' w') sized newId →
    SecretRequest cfg requested' sized' → FreshId (keyMap backend w) sized' newId' →
    (∀ n, CalmFaults (faults' n)) → (∀ n, CalmFaults (faults'' n)) →
    let made := runKey backend' faults'
      (psaEncapsulate cfg wc.mlkem rng peerId psaAlgMlKem requested ciphertextSize) w'
    made.1.status = .success → ∃ secret w₁, secret.length = wolfpsaMlkemSsSize ∧
      made.1.outputKey = newId ∧ HoldsKey (keyMap backend' made.2) sized secret newId ∧
      runKey backend faults''
        (psaDecapsulate cfg wc.mlkem id psaAlgMlKem made.1.ciphertext requested') w =
        ((.success, newId'), w₁) ∧ HoldsKey (keyMap backend w₁) sized' secret newId'

section

variable {backend : StoreBackend} {good : World → Prop} {cfg : ImportConfig} {w : World}

/-- The import of a secret under a fresh identifier. -/
theorem mapImportSecret_fresh {m : KeyMap} {requested sized : KeyAttributes} {secret : Bytes}
    {id : KeyId} (passed : importCheck cfg requested secret = .ok sized) (fresh : FreshId m sized id) :
    (mapImportSecret cfg m requested secret).1 = (.success, id) ∧
      HoldsKey (mapImportSecret cfg m requested secret).2 sized secret id := by
  obtain ⟨success, holds⟩ := importKey_sized passed fresh
  unfold mapImportSecret
  dsimp only
  rw [success, if_neg (not_not.mpr rfl)]
  exact ⟨success, holds⟩

/-- The public half of an ML-KEM pair is what `wolfpsa_mlkem_export_public` makes of its seed. -/
theorem exported_mlKem {wc : WcPublic} {attributes : KeyAttributes} {seed bytes : Bytes}
    {dataSize : Nat} (pair : attributes.type = psaKeyTypeMlKemKeyPair)
    (exported : exportPublicData (publicKeyOf wc) attributes seed dataSize = .ok bytes) :
    seed.length = wolfpsaMlkemSeedSize ∧
      wolfpsaMlkemExportPublic wc.mlkem attributes.bits.toNat seed dataSize = .ok bytes := by
  unfold exportPublicData at exported
  rw [pair, if_neg (by decide), show psaKeyTypeIsMlDsa psaKeyTypeMlKemKeyPair = false from rfl,
    show psaKeyTypeIsMlKem psaKeyTypeMlKemKeyPair = true from rfl, if_neg (by simp)] at exported
  split at exported
  · cases exported
  rename_i size
  have seedSize : seed.length = 64 := by simpa using size
  refine ⟨seedSize, ?_⟩
  unfold publicKeyOf at exported
  rw [if_neg (by decide), if_neg (by decide), if_neg (by decide), if_pos (by decide)] at exported
  exact exported

theorem encapsulates_policy {wc : WcMlKem} (shipped : ShippedStore backend good)
    (kem : LawfulMlKem wc) (rng : Except WcError wc.Rng) (key : KeyId) (alg : Algorithm)
    (requested : KeyAttributes) (ciphertextSize : Nat) (faults : Nat → Nat → Fault) :
    let made := (runKey backend faults
      (psaEncapsulate cfg wc rng key alg requested ciphertextSize) w).1
    (made.status ≠ .success → made.outputKey = psaKeyIdNull ∧ made.ciphertext = []) ∧
      (made.status = .success → alg = psaAlgMlKem ∧ ∃ keyAttr keyData,
        (keyMap backend w).getKeyData key = .ok (keyAttr, keyData) ∧
        KemPolicy [psaKeyTypeMlKemKeyPair, psaKeyTypeMlKemPublicKey] psaKeyUsageEncrypt alg keyAttr ∧
        made.ciphertext.length = mlKemCiphertextSize keyAttr ∧
        made.ciphertext.length ≤ ciphertextSize) := by
  intro made
  obtain ⟨refused, took⟩ := (psaEncapsulate_steady shipped.steady rng key alg requested
    ciphertextSize).run_every faults
  refine ⟨refused, fun succeeded => ?_⟩
  rcases took with ⟨keyAttr, keyData, ct, ss, request, found, done, same⟩ | ⟨failed, -⟩
  · obtain ⟨policy, room, -⟩ := encapsulateWith_ok done
    have alg := (kemRequest_ok_iff.mp request).1
    have length := encapsulateWith_length kem done
    have out : made.ciphertext = ct := same succeeded
    refine ⟨alg, keyAttr, keyData, found, policy, ?_, ?_⟩
    · rw [out, length]
    · rw [out, length]
      refine Nat.le_trans (Nat.le_of_eq ?_) room
      unfold mlKemCiphertextSize
      rw [alg]
      rcases List.mem_pair.mp policy.typed with type | type
      · rw [type]
      · rw [type]
        rfl
  · exact absurd succeeded failed

theorem decapsulates_policy {wc : WcMlKem} (shipped : ShippedStore backend good)
    (kem : LawfulMlKem wc) (key : KeyId) (alg : Algorithm) (ciphertext : Bytes)
    (requested : KeyAttributes) (faults : Nat → Nat → Fault) :
    let opened := (runKey backend faults (psaDecapsulate cfg wc key alg ciphertext requested) w).1
    (opened.1 ≠ .success → opened.2 = psaKeyIdNull) ∧
      (opened.1 = .success → alg = psaAlgMlKem ∧ ∃ keyAttr keyData,
        (keyMap backend w).getKeyData key = .ok (keyAttr, keyData) ∧
        KemPolicy [psaKeyTypeMlKemKeyPair] psaKeyUsageDecrypt alg keyAttr ∧
        ciphertext.length = mlKemCiphertextSize keyAttr) := by
  intro opened
  obtain ⟨refused, took⟩ := (psaDecapsulate_steady shipped.steady key alg ciphertext
    requested).run_every faults
  refine ⟨refused, fun succeeded => ?_⟩
  rcases took with ⟨keyAttr, keyData, ss, request, found, done⟩ | ⟨failed, -⟩
  · exact ⟨(kemRequest_ok_iff.mp request).1, keyAttr, keyData, found,
      (decapsulateWith_ok_iff.mp done).1, decapsulateWith_length kem done⟩
  · exact absurd succeeded failed

end

/-- Every two processes, over both back ends: whatever the environments do, the two calls act on keys
whose policy allows it and on ciphertexts of the parameter set; and where nothing fails, the key that a
peer gets under an exported public half is the key that the owner decapsulates. -/
theorem kem_agreement {backend backend' : StoreBackend} {good good' : World → Prop}
    (shipped : ShippedStore backend good) (shipped' : ShippedStore backend' good')
    (cfg : ImportConfig) {wc : WcPublic} (kem : LawfulMlKem wc.mlkem) (counter counter' : KeyId)
    (calls calls' : List (StoreOp × (Nat → Nat → Fault))) (calm : ∀ call ∈ calls, CalmCall call)
    (calm' : ∀ call ∈ calls', CalmCall call) :
    KemBetween backend backend' cfg wc
      (run (storeStep backend cfg) (emptyStore counter) calls).2
      (run (storeStep backend' cfg) (emptyStore counter') calls').2 := by
  have stored := run_storedKeys cfg shipped counter calls calm
  have stored' := run_storedKeys cfg shipped' counter' calls' calm'
  generalize (run (storeStep backend cfg) (emptyStore counter) calls).2 = w at stored
  generalize (run (storeStep backend' cfg) (emptyStore counter') calls').2 = w' at stored'
  refine ⟨fun rng key alg requested size faults =>
      encapsulates_policy shipped' kem rng key alg requested size faults,
    fun key alg ct requested faults => decapsulates_policy shipped kem key alg ct requested faults, ?_⟩
  intro id ownerAttr seed dataSize faults bytes peerId peerAttr rng requested sized newId
    ciphertextSize faults' requested' sized' newId' faults'' found policy exported peer half bits
    secrets fresh secrets' fresh' calmPeer calmOwner made succeeded
  have pair := List.mem_singleton.mp policy.typed
  -- what the peer holds
  have spec : ReadsIfOk backend (fun _ => True) w
      (mapExportPublicKey (publicKeyOf wc) (keyMap backend w) id dataSize)
      (psaExportPublicKey (publicKeyOf wc) id dataSize) :=
    psaExportPublicKey_steady shipped.steady (publicKeyOf wc) id dataSize
  obtain ⟨attributes, data, same, -, answer⟩ :=
    mapExportPublicKey_ok_iff.mp ((spec.run_every faults).2 bytes exported)
  obtain ⟨rfl, rfl⟩ := Prod.mk.inj (Except.ok.inj (same.symm.trans found))
  obtain ⟨seedSize, encoded⟩ := exported_mlKem pair answer
  -- the peer
  have peerNamed := (stored'.checked.getKeyData peer).1
  have moves : Moves backend' good' w' (mapEncapsulate cfg wc.mlkem rng (keyMap backend' w') peerId
      psaAlgMlKem requested ciphertextSize)
      (psaEncapsulate cfg wc.mlkem rng peerId psaAlgMlKem requested ciphertextSize) :=
    psaEncapsulate_moves shipped'.lawful kem rng psaAlgMlKem requested ciphertextSize stored'.good
      peerNamed
  obtain ⟨answered, moved, -⟩ := moves.run calmPeer
  have answered : made.1 = _ := answered
  have moved : keyMap backend' made.2 = _ := moved
  unfold mapEncapsulate at answered moved
  rw [secrets.admitted, peer] at answered moved
  dsimp only at answered moved
  cases wrapped : encapsulateWith wc.mlkem rng psaAlgMlKem ciphertextSize peerAttr bytes with
  | error status =>
    rw [wrapped] at answered
    rw [answered] at succeeded
    exact absurd succeeded status.property
  | ok pairOf =>
    obtain ⟨ct, ss⟩ := pairOf
    rw [wrapped] at answered moved
    dsimp only at answered moved
    obtain ⟨-, -, _, _, _, _, used⟩ := encapsulateWith_ok wrapped
    have length := kem.secret used.made
    obtain ⟨success, holds⟩ := mapImportSecret_fresh (secrets.imports ss length) fresh
    rw [success, if_neg (not_not.mpr rfl)] at answered
    rw [← moved] at holds
    -- the owner
    have opens := secrets_agree kem policy seedSize encoded half bits wrapped
    have named := (stored.checked.getKeyData found).1
    have ownerMoves : Moves backend good w
        (mapDecapsulate cfg wc.mlkem (keyMap backend w) id psaAlgMlKem ct requested')
        (psaDecapsulate cfg wc.mlkem id psaAlgMlKem ct requested') :=
      psaDecapsulate_moves shipped.lawful kem psaAlgMlKem ct requested' stored.good named
    obtain ⟨answered', moved', -⟩ := ownerMoves.run calmOwner
    have value : mapDecapsulate cfg wc.mlkem (keyMap backend w) id psaAlgMlKem ct requested' =
        mapImportSecret cfg (keyMap backend w) requested' ss := by
      unfold mapDecapsulate
      rw [secrets'.admitted, found]
      dsimp only
      rw [opens]
    obtain ⟨success', holds'⟩ := mapImportSecret_fresh (secrets'.imports ss length) fresh'
    rw [value] at answered' moved'
    rw [success'] at answered'
    rw [← moved'] at holds'
    refine ⟨ss, (runKey backend faults'' (psaDecapsulate cfg wc.mlkem id psaAlgMlKem ct requested')
      w).2, length, by rw [answered], holds, ?_, holds'⟩
    rw [answered]
    exact Prod.ext answered' rfl

/-! ### A vector of ML-KEM-512 -/

/-- The seed `d || z` of the pair. -/
def vectorSeed : Bytes :=
  beBytes 32 0x7c9935a0b07694aa0c6d10e4db6b1add2fd81a25ccb148032dcd739936737f2d ++
    beBytes 32 0xb505d7cfad1b497499323c8686325e4792f267aafa3f87ca60d01cb54f29202a

/-- The random bytes of the encapsulation. -/
def vectorCoins : Bytes :=
  beBytes 32 0x147c03f7a5bebba406c8fae1874d7f13c80efe79a3a9a874cc09fe76f6997615

def vectorSecret : Bytes :=
  beBytes 32 0x319839e82ab6b222de7b619e80da8391522bbb37677018494a4742c53f9abfdf

def vectorEncapsulationKey : Bytes :=
  [0x400865ed10b619aa5811139bc086825782b2b7124f757c83ae794444bc78a478,
    0x96acf1262c81351077893bfc56f90449c2fa5f6e586dd37c0b9b581992638cb7,
    0xe7bcbbb99afe4781d80a50e69463fbd988722c3635423e27466c71dcc674527c,
    0xcd728968cbcdc00c5c9035bb0af2c9922c7881a41dd2875273925131230f6ca5,
    0x9e9136b39f956c93b3b2d14c641b089e07d0a840c893ecd76bbf92c805456668,
    0xd07c621491c5c054991a656f511619556eb97782e27a3c785124c70b0daba6c6,
    0x24d18e0f9793f96ba9e1599b17b30dccc0b4f3766a07b23b257309cd76aba072,
    0xc2b9c9744394c6ab9cb6c54a97b5c57861a58dc0a03519832ee32a07654a070c,
    0x0c8c4e8648addc355f274fc6b92a087b3f9751923e44274f858c49caba72b658,
    0x51b3adc48936955097cad9553f5a263f1844b52a020ff7ca89e881a01b95d957,
    0xa3153c0a5e0a1ccd66b1821a2b8632546e24c7cbbc4cb08808cac37f7da6b16f,
    0x8aced052cdb2564948f1ab0f768a0d3286ccc7c3749c63c781530fa1ae670542,
    0x855004a645b522881ec1412bdae342085a9dd5f8126af96bbdb0c1af69a15562,
    0xcb2a155a100309d1b641d08b2d4ed17bfbf0bc04265f9b10c108f850309504d7,
    0x72811bba8e2be16249aa737d879fc7fb255ee7a6a0a753bd93741c61658ec074,
    0xf6e002b019345769113cc013ff7494ba8378b11a172260aaa53421bde03a3558,
    0x9d57e322fefa4100a4743926ab7d62258b87b31ccbb5e6b89cb10b271aa05d99,
    0x4bb5708b23ab327ecb93c0f3156869f0883da2064f795e0e2ab7d3c64d61d230,
    0x3fc3a29e1619923ca801e59fd752ca6e7649d303c9d20788e1214651b06995eb,
    0x260c929a1344a849b25ca0a01f1eb52913686bba619e23714464031a78439287,
    0xfca78f4c0476223eea61b7f25a7ce42cca901b2aea129817894ba3470823854f,
    0x3e5b28d86ba979e54671862d90470b1e7838972a81a48107d6ac0611406b21fb,
    0xcce1db7702ea9dd6ba6e40527b9dc663f3c93bad056dc28511f66c3e0b928db8,
    0x879d22c592685cc775a6cd574ac3bce3b27591c821929076358a2200b377365f,
    0x7efb9e40c3bf0ff0432986ae4bc1a242ce9921aa9e22448819585dea308eb039].flatMap (beBytes 32)

def vectorCiphertext : Bytes :=
  [0x113db2dd06871235e7bc36c9dcaa528fc26ce5db9ecc1dc32e957d7ffb3c7429,
    0xd50c3c3577a515d3183a1b9d267b936b7eb8f543a3afb77765ca7938f78aa643,
    0x8ce80a06a6966d0d06af75ba3e0d4f37bac73369f5a729f73e85729edd97c8c2,
    0xa8cc2619e4cf7b6091869e909fd47d9709149204b0837d8d6f25d267972be63b,
    0xad34b544523c01c09de3b1fa1d6b7b059eee9e652062fe870f68c68005339ea1,
    0x81e1d0767c152aeb38faf0f9245ae59d5cb0d2b7f201229ed97020d0623a4610,
    0x0d097b0ce1154e028ae6194de05de97dd9ae2e85ffd25d95eb22effe5ba19cd8,
    0x07c530ebaa9fe9f642ccacff47ed15c22bfe3036ebf8ad9c8ed23240aeebaa24,
    0xd135755100b85ecee3174906e46312062ceecac75de5275256c2c1a653fd6915,
    0xb1b30c8ecbb6fd4280437453173a96238bc7d108892343e033bcd98e437e789f,
    0xc5bebaa12b2634b51ed0d589f11143a021d8ecce594fdd48dae84c8063ef3581,
    0xbc378a48da4e51bb175b0db47f9dcf99318c30225ca7fa79c879bf1c9397b5cc,
    0xc5efad94c500ed7f9f385d088e34932221fc0fc9afe51f687554813169769547,
    0x8abdc8736f10095a6b92ec679fe0e2ae5d8b335355d58dae4d4f0b17aa5d1e52,
    0xf1d45584a892c34ce4b04fcd00981d51caa16064bad92d019dc3aded91968411,
    0x2b29daa28b9dae09b86b21a93310d5fbc6527b224b9ce87d2782bb294673f0ec,
    0x06f26b087652a18d6ad7b1c93303ef0561c0fc9cd4f678f606f192cf5df92b15,
    0x48f5dd2687edbeccfc6d4e9de4bd50d3c74fb275abd9b3e90277db4a0069c0a2,
    0xa7136f50cead4b2f1995faaf168040e9e4beb7c5722049d6da6402992fcea450,
    0x97df7c1c20fb068222000576935a0806773451921f54c55fbf593a4f147c1fef,
    0x3acaf0cfa907ae48c8c06312cfdf5186904bec7fed4ed933c9256ab04cbfa03a,
    0x967c1f7ead4ab40df116be660e27ca2b543526d4b9684c31e1e42383b969f896,
    0x299d71390cc85b703202acadecfa8c40965c08c53b5671e0d59455bc5a8586c6,
    0x55db8c2ade4ba8877f19b6000e18f8feadda7ede8fe80aa662d694c6d8c33b52].flatMap (beBytes 32)

/-- ML-KEM-512 of the vector. -/
def vectorMlKem : WcMlKem where
  Key := Unit
  Rng := Bytes
  init type := if type = .mlKem512 then .ok () else .error .notCompiledIn
  makeKeyWithRandom _ seed := if seed = vectorSeed then .ok () else .error .badFuncArg
  publicKeySize _ := .ok 800
  encodePublicKey _ size := if size = 800 then .ok vectorEncapsulationKey else .error .badFuncArg
  decodePublicKey _ bytes := if bytes = vectorEncapsulationKey then .ok () else .error .badFuncArg
  cipherTextSize _ := .ok 768
  encapsulate _ coins :=
    if coins = vectorCoins then .ok (vectorCiphertext, vectorSecret) else .error .badFuncArg
  decapsulate _ ct := if ct = vectorCiphertext then .ok vectorSecret else .error .badFuncArg

theorem length_vectorSecret : vectorSecret.length = 32 := length_beBytes 32 _

theorem length_vectorEncapsulationKey : vectorEncapsulationKey.length = 800 := by decide +kernel

theorem length_vectorCiphertext : vectorCiphertext.length = 768 := by decide +kernel

/-- The ciphertext of the vector has the size of its parameter set. -/
theorem vectorMlKem_sized {bits : Nat} {type : MlKemType}
    (set : mlkemBitsToType bits = some type) (started : vectorMlKem.init type = .ok ()) :
    768 = psaEncapsulateCiphertextSize psaKeyTypeMlKemKeyPair bits psaAlgMlKem ∧
      ∀ rng ct ss, vectorMlKem.encapsulate () rng = .ok (ct, ss) → ct.length = 768 := by
  obtain ⟨rfl, -⟩ := onlyFor_ok started
  have bits : bits = 512 := by
    unfold mlkemBitsToType at set
    split_ifs at set with first
    · exact first
    all_goals cases set
  refine ⟨by rw [bits]; rfl, fun rng ct ss made => ?_⟩
  obtain ⟨-, same⟩ := onlyFor_ok made
  rw [← (Prod.mk.inj same).1, length_vectorCiphertext]

theorem vectorMlKem_decapsulate (key : Unit) (ct : Bytes) : vectorMlKem.decapsulate key ct =
    if ct = vectorCiphertext then .ok vectorSecret else .error .badFuncArg := rfl

theorem lawful_vectorMlKem : LawfulMlKem vectorMlKem where
  secret := by
    intro key rng ct ss made
    obtain ⟨-, same⟩ := onlyFor_ok made
    rw [← (Prod.mk.inj same).2, length_vectorSecret]
    rfl
  opened := by
    intro key ct ss opens
    obtain ⟨-, rfl⟩ := onlyFor_ok opens
    exact length_vectorSecret
  expanded := by
    intro bits type fresh seed key size set started _ sized
    cases sized
    exact vectorMlKem_sized set started
  decoded := by
    intro bits type fresh bytes key size set started _ sized
    cases sized
    exact vectorMlKem_sized set started
  correct := by
    intro type fresh seed pair n bytes half size rng ct ss _ _ _ _ sized made
    cases sized
    obtain ⟨-, same⟩ := onlyFor_ok made
    obtain ⟨rfl, rfl⟩ := Prod.mk.inj same
    exact ⟨rfl, (vectorMlKem_decapsulate pair vectorCiphertext).trans (if_pos rfl)⟩

/-- wolfCrypt with the vectors of ML-KEM. -/
def vectorKem : WcPublic := { vectorPublic with mlkem := vectorMlKem }

/-- A volatile ML-KEM-512 pair that decapsulates. -/
def mlKemPairKey : KeyAttributes :=
  ⟨psaKeyTypeMlKemKeyPair, 512, psaKeyLifetimeVolatile, psaKeyUsageDecrypt, psaAlgMlKem, psaAlgNone,
    psaKeyIdNull⟩

/-- Its public half with a peer. -/
def mlKemPeerKey : KeyAttributes :=
  { mlKemPairKey with type := psaKeyTypeMlKemPublicKey, usage := psaKeyUsageEncrypt }

/-- What both of them make of the secret: a key for key derivation. -/
def sharedSecretKey : KeyAttributes :=
  ⟨psaKeyTypeDerive, 256, psaKeyLifetimeVolatile, psaKeyUsageDerive, psaAlgNone, psaAlgNone,
    psaKeyIdNull⟩

theorem request_sharedSecretKey : SecretRequest plainImport sharedSecretKey sharedSecretKey where
  admitted := rfl
  imports := by
    intro secret length
    have length : secret.length = 32 := length
    have typed : importCheckType plainImport.wc sharedSecretKey secret = .success := by
      have value : importCheckType plainImport.wc sharedSecretKey secret =
          if secret.length * 8 > psaMaxKeyBits ∨ 256 ≠ secret.length * 8 then .invalidArgument
          else .success := rfl
      rw [value, length, if_neg (by decide)]
    unfold importCheck
    rw [length, if_neg (by decide), if_neg (by decide), if_neg (by decide), if_neg (by decide),
      if_neg (by decide), if_neg (by decide)]
    exact dif_neg (not_not.mpr typed)

/-- A pair in a process on files, its public key in one on Zephyr. -/
theorem mlKem512_agreement :
    let owner := (run (storeStep (posixBackend freshStore) plainImport) (emptyStore psaKeyIdVendorMin)
      (importCalls mlKemPairKey vectorSeed)).2
    let peer := (run (storeStep zephyrBackend plainImport) (emptyStore psaKeyIdVendorMin)
      (importCalls mlKemPeerKey vectorEncapsulationKey)).2
    let made := runKey zephyrBackend (fun _ _ => calmFault) (psaEncapsulate plainImport
      vectorKem.mlkem (.ok vectorCoins) psaKeyIdVendorMin psaAlgMlKem sharedSecretKey 768) peer
    made.1.status = .success ∧ made.1.ciphertext = vectorCiphertext ∧ ∃ secret w₁,
      HoldsKey (keyMap zephyrBackend made.2) sharedSecretKey secret (psaKeyIdVendorMin + 1) ∧
      runKey (posixBackend freshStore) (fun _ _ => calmFault) (psaDecapsulate plainImport vectorKem.mlkem
        psaKeyIdVendorMin psaAlgMlKem made.1.ciphertext sharedSecretKey) owner =
        ((.success, psaKeyIdVendorMin + 1), w₁) ∧
      HoldsKey (keyMap (posixBackend freshStore) w₁) sharedSecretKey secret
        (psaKeyIdVendorMin + 1) := by
  intro owner peer made
  have kem : LawfulMlKem vectorKem.mlkem := lawful_vectorMlKem
  have between : KemBetween (posixBackend freshStore) zephyrBackend plainImport vectorKem owner peer :=
    kem_agreement (.posix usable_freshStore) .zephyr plainImport kem psaKeyIdVendorMin
      psaKeyIdVendorMin (importCalls mlKemPairKey vectorSeed)
      (importCalls mlKemPeerKey vectorEncapsulationKey) (calm_importCalls (by decide))
      (calm_importCalls (by rw [length_vectorEncapsulationKey]; decide))
  have exported : (runKey (posixBackend freshStore) (fun _ _ => calmFault)
      (psaExportPublicKey (publicKeyOf vectorKem) psaKeyIdVendorMin 800) owner).1 =
      .ok vectorEncapsulationKey := by decide +kernel
  have succeeded : made.1.status = .success := by decide +kernel
  have sent : made.1.ciphertext = vectorCiphertext := by decide +kernel
  have found : (keyMap (posixBackend freshStore) owner).getKeyData psaKeyIdVendorMin =
      .ok (mlKemPairKey, vectorSeed) := by decide +kernel
  have peerFound : (keyMap zephyrBackend peer).getKeyData psaKeyIdVendorMin =
      .ok (mlKemPeerKey, vectorEncapsulationKey) := by decide +kernel
  have fresh : FreshId (keyMap (posixBackend freshStore) owner) sharedSecretKey
      (psaKeyIdVendorMin + 1) :=
    ⟨by unfold AssignedId; decide, fun _ => rfl, by decide +kernel, by decide +kernel⟩
  have peerFresh : FreshId (keyMap zephyrBackend peer) sharedSecretKey (psaKeyIdVendorMin + 1) :=
    ⟨by unfold AssignedId; decide, fun _ => (by decide +kernel), by decide +kernel, by decide +kernel⟩
  clear_value owner peer
  obtain ⟨secret, w₁, -, -, holds, opened, holds'⟩ :=
    between.agrees found ⟨by decide, by decide, rfl⟩ exported peerFound rfl rfl
      request_sharedSecretKey peerFresh request_sharedSecretKey fresh (fun _ _ => calm_calmFault)
      (fun _ _ => calm_calmFault) succeeded
  exact ⟨succeeded, sent, secret, w₁, holds, opened, holds'⟩

end WolfPSA.Guarantees
