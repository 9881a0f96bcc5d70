import WolfPSA.Source.PublicKeys
import WolfPSA.Guarantees.KeyWrapping
import WolfPSA.Guarantees.RsaDer

/-!
# Public halves of stored keys

`psa_export_public_key` over both store back ends. What it hands out for a key of one process is a
public key for every other: `psa_import_key` takes it, with the size of the pair or with none, and the
export of the new key gives the same bytes.
-/

namespace WolfPSA.Guarantees
open Lib Source Prog

/-! ## The call as a function of the map -/

/-- What `psa_export_public_key` hands out of a map. -/
def mapExportPublicKey (publicKeyOf : PublicKeyOf) (m : KeyMap) (id : KeyId) (dataSize : Nat) :
    Except Failure Bytes :=
  match m.getKeyData id with
  | .error status => .error status
  | .ok (attributes, data) =>
    if !hasPublicKey attributes.type then .error ⟨.invalidArgument, failing⟩
    else exportPublicData publicKeyOf attributes data dataSize

theorem mapExportPublicKey_ok_iff {publicKeyOf : PublicKeyOf} {m : KeyMap} {id : KeyId}
    {dataSize : Nat} {bytes : Bytes} :
    mapExportPublicKey publicKeyOf m id dataSize = .ok bytes ↔
      ∃ attributes data, m.getKeyData id = .ok (attributes, data) ∧
        hasPublicKey attributes.type = true ∧
        exportPublicData publicKeyOf attributes data dataSize = .ok bytes := by
  unfold mapExportPublicKey
  cases m.getKeyData id with
  | error status => simp
  | ok found =>
    obtain ⟨attributes, data⟩ := found
    cases gate : hasPublicKey attributes.type <;> simp [gate]

/-- A key found in the map is either a volatile node or the record cut behind its header. -/
theorem getKeyData_missing {m : KeyMap} {id : KeyId} (missing : m.find id = none) :
    m.getKeyData id = match m.openRecord id with
      | .error status => .error status
      | .ok (header, rest) =>
        match KeyMap.recordData header rest with
        | .error status => .error status
        | .ok data => .ok (psaKeyAttributesDeserialize header, data) := by
  unfold KeyMap.getKeyData
  generalize m.find id = found at missing
  subst missing
  rfl

section

variable {backend : StoreBackend} {admitted : (Nat → Fault) → Prop} {w : World}
  (steady : SteadyReads backend)
include steady

/-- Whatever the environment does, a public key that is handed out is the one of the map. -/
theorem psaExportPublicKey_steady (publicKeyOf : PublicKeyOf) (id : KeyId) (dataSize : Nat) :
    ReadsIfOk backend admitted w (mapExportPublicKey publicKeyOf (keyMap backend w) id dataSize)
      (psaExportPublicKey publicKeyOf id dataSize) := by
  refine triple_ask trivial (fun _ => rfl) fun init => ?_
  split
  · exact ⟨rfl, nofun⟩
  refine ⟨trivial, fun faults _ => ?_⟩
  dsimp only [keyHandler, localHandler]
  have looked : (keyMap backend w).find id = wolfpsaVolatileFind w id := rfl
  cases got : volatileGet (faults 0) w id with
  | ok found =>
    obtain ⟨attributes, data⟩ := found
    obtain ⟨node, present, taken⟩ := volatileGet_ok got
    change Triple _ _ _ _ (if !hasPublicKey attributes.type then _ else _) w
    split
    · exact ⟨rfl, nofun⟩
    rename_i gate
    refine ⟨rfl, fun bytes same => mapExportPublicKey_ok_iff.mpr ⟨attributes, data, ?_, ?_, same⟩⟩
    · unfold KeyMap.getKeyData
      rw [looked, present]
      exact taken
    · simpa using gate
  | error status =>
    change Triple _ _ _ _ (if status.val ≠ .invalidHandle then _ else _) w
    split
    · exact ⟨rfl, nofun⟩
    rename_i absent
    have missing := volatileGet_absent got (not_not.mp absent)
    refine triple_bind_of (psaGetKeyAttributes_steady steady id) ?_
    rintro (status | attributes) s ⟨rfl, described⟩
    · exact ⟨rfl, nofun⟩
    have described := described attributes rfl
    dsimp only
    split
    · exact ⟨rfl, nofun⟩
    rename_i gate
    refine triple_bind_of (openRecord_steady steady id s) ?_
    rintro (status | ⟨header, ctx⟩) s ⟨rfl, opened⟩
    · exact ⟨rfl, nofun⟩
    obtain ⟨noTemp, whole, record⟩ := opened header ctx rfl
    refine triple_bind_of (readRecordData_steady steady noTemp) ?_
    rintro (status | data) s ⟨rfl, read⟩
    · exact ⟨rfl, nofun⟩
    refine ⟨rfl, fun bytes same => ?_⟩
    -- both look-ups have met the same record
    have cut := keyMap_openRecord whole record
    unfold KeyMap.getKeyAttributes at described
    rw [looked, missing, cut] at described
    cases described
    refine mapExportPublicKey_ok_iff.mpr ⟨psaKeyAttributesDeserialize header, data, ?_, ?_, same⟩
    · rw [getKeyData_missing (looked.trans missing), cut]
      dsimp only
      rw [read data rfl]
    · simpa using gate

end

section

variable {backend : StoreBackend} {good : World → Prop} {w : World}
  (lawful : LawfulStore backend good)
include lawful

/-- Where nothing fails, the call is the function of the map for every key that is there. -/
theorem psaExportPublicKey_reads (publicKeyOf : PublicKeyOf) {id : KeyId} (dataSize : Nat)
    {attributes : KeyAttributes} {data : Bytes} (holds : good w) (named : id ≠ psaKeyIdNull)
    (found : (keyMap backend w).getKeyData id = .ok (attributes, data)) :
    Reads backend w (mapExportPublicKey publicKeyOf (keyMap backend w) id dataSize)
      (psaExportPublicKey publicKeyOf id dataSize) := by
  unfold mapExportPublicKey
  rw [found]
  dsimp only
  refine calm_act calm_checkInit ?_
  rw [dif_neg (by simp)]
  refine calm_act (calm_volatileGet id) ?_
  cases present : (keyMap backend w).find id with
  | some node =>
    unfold KeyMap.getKeyData at found
    rw [present] at found
    dsimp only at found ⊢
    rw [found]
    dsimp only
    split
    · exact ⟨rfl, rfl⟩
    · exact ⟨rfl, rfl⟩
  | none =>
    dsimp only
    rw [if_neg (not_not.mpr (rfl : Status.invalidHandle = .invalidHandle))]
    refine triple_bind_of (psaGetKeyAttributes_reads lawful holds named) ?_
    rintro _ s ⟨rfl, rfl⟩
    rw [getKeyAttributes_of_getKeyData found]
    dsimp only
    split
    · exact ⟨rfl, rfl⟩
    refine triple_bind_of (openRecord_reads lawful holds named) ?_
    rintro r s ⟨rfl, opened⟩
    rw [getKeyData_missing present] at found
    cases cut : (keyMap backend s).openRecord id with
    | error status =>
      rw [cut] at found
      cases found
    | ok record =>
      rw [cut] at found opened
      obtain ⟨ctx, rfl, content, handle⟩ := opened
      refine triple_bind_of (readRecordData_reads lawful handle) ?_
      rintro _ s' ⟨rfl, rfl⟩
      dsimp only at found
      rw [← content] at found
      cases read : KeyMap.recordData record.1 ctx.rest with
      | error status =>
        rw [read] at found
        cases found
      | ok plain =>
        rw [read] at found
        cases found
        exact ⟨rfl, rfl⟩

end

/-! ## Public key data -/

/-- Data that `psa_import_key` takes for a public key of the type, with the size or with none. -/
structure PublicKeyData (wc : WcKeys) (type : KeyType) (bits : BitVec 16) (data : Bytes) : Prop where
  nonempty : data ≠ []
  fits : keyHeaderLength + data.length ≤ intMax
  typed : ∀ attr : KeyAttributes, attr.type = type → attr.bits = bits →
    importCheckType wc attr data = .success
  sized : ∀ attr : KeyAttributes, attr.type = type → attr.bits = 0 ∨ attr.bits = bits →
    importBits wc attr data = .ok bits.toNat

/-- Attributes under which a public key of the type and the size may be imported. -/
structure PublicRequest (type : KeyType) (bits : BitVec 16) (requested : KeyAttributes) : Prop where
  type : requested.type = type
  bits : requested.bits = 0 ∨ requested.bits = bits
  location : psaKeyLifetimeGetLocation requested.lifetime = 0
  alg2 : requested.alg2 = psaAlgNone
  usage : wolfpsaUsageFlagsValid requested.usage = true

theorem PublicKeyData.importCheck {cfg : ImportConfig} {type : KeyType} {bits : BitVec 16}
    {data : Bytes} {requested : KeyAttributes} (key : PublicKeyData cfg.wc type bits data)
    (some : type ≠ psaKeyTypeNone) (request : PublicRequest type bits requested) :
    importCheck cfg requested data = .ok { requested with bits := bits } := by
  have passed : importCheckType cfg.wc { requested with bits := bits } data = .success :=
    key.typed _ request.type rfl
  have fits := key.fits
  unfold Source.importCheck
  rw [if_neg (by rw [List.length_eq_zero_iff]; exact key.nonempty), if_neg (by omega),
    if_neg (by simp [request.location]), if_neg (by simp [request.alg2]),
    if_neg (by simp [request.usage]), if_neg (by rw [request.type]; exact some), key.sized requested request.type request.bits]
  dsimp only
  rw [BitVec.ofNat_toNat, BitVec.setWidth_eq, dif_neg (not_not.mpr passed)]

/-! ### Elliptic curves -/

section

variable {type c : KeyType}

theorem eccPublic_and (ecc : psaKeyTypeIsEccPublicKey type = true) :
    type &&& ~~~psaKeyTypeEccCurveMask = psaKeyTypeEccPublicKeyBase := by
  unfold psaKeyTypeIsEccPublicKey at ecc
  simpa using ecc

/-- The curve byte is no part of the type's category. -/
theorem publicKeyOfKeyPair_and (type : KeyType) :
    psaKeyTypePublicKeyOfKeyPair type &&& ~~~psaKeyTypeEccCurveMask =
      psaKeyTypePublicKeyOfKeyPair (type &&& ~~~psaKeyTypeEccCurveMask) := by
  unfold psaKeyTypePublicKeyOfKeyPair
  rw [BitVec.and_assoc, BitVec.and_assoc, BitVec.and_comm (~~~psaKeyTypeCategoryFlagPair)]

theorem eccPublic_ne (ecc : psaKeyTypeIsEccPublicKey type = true)
    (other : psaKeyTypeIsEccPublicKey c = false) : (type == c) = false := by
  rw [beq_eq_false_iff_ne]
  rintro rfl
  rw [ecc] at other
  cases other

/-- A type whose public half is an elliptic-curve type is none of the other types with public keys. -/
theorem eccPublic_publicKeyOf_ne (ecc : psaKeyTypeIsEccPublicKey type = true)
    (other : c &&& ~~~psaKeyTypeEccCurveMask ≠ psaKeyTypeEccPublicKeyBase) :
    (psaKeyTypePublicKeyOfKeyPair type == c) = false := by
  rw [beq_eq_false_iff_ne]
  rintro rfl
  rw [publicKeyOfKeyPair_and, eccPublic_and ecc] at other
  exact other (by decide)

theorem eccPublic_isEcc (ecc : psaKeyTypeIsEccPublicKey type = true) :
    psaKeyTypeIsEcc type = true := by
  unfold psaKeyTypeIsEcc
  rw [publicKeyOfKeyPair_and, eccPublic_and ecc]
  decide

theorem eccPublic_not_byteString (ecc : psaKeyTypeIsEccPublicKey type = true) :
    isByteStringType type = false := by
  have ne {c : KeyType} (other : psaKeyTypeIsEccPublicKey c = false) := eccPublic_ne ecc other
  unfold isByteStringType
  rw [ne rfl, ne rfl, ne rfl, ne rfl, ne rfl, ne rfl]
  rfl

theorem importCheckType_eccPublic {wc : WcKeys} {attr : KeyAttributes} {data : Bytes}
    (ecc : psaKeyTypeIsEccPublicKey attr.type = true) :
    importCheckType wc attr data = importCheckEcc wc attr data := by
  have mlDsa : psaKeyTypeIsMlDsa attr.type = false := eccPublic_publicKeyOf_ne ecc (by decide)
  have mlKem : psaKeyTypeIsMlKem attr.type = false := eccPublic_publicKeyOf_ne ecc (by decide)
  have ne {c : KeyType} (other : psaKeyTypeIsEccPublicKey c = false) := eccPublic_ne ecc other
  unfold importCheckType
  dsimp only
  rw [ne rfl, ne rfl, ne rfl, ne rfl, ne rfl, ne rfl, ne rfl, ne rfl, ne rfl, ne rfl, mlDsa, mlKem,
    eccPublic_not_byteString ecc, ecc]
  rfl

/-- The curve tables are one table. -/
theorem eccBits_of_eccLength {family : Byte} {bits : Nat}
    (known : wolfpsaEccLengthFromBits family bits ≠ 0) :
    wolfpsaEccBitsFromLength family (wolfpsaEccLengthFromBits family bits) = bits ∧ bits ≠ 0 := by
  unfold wolfpsaEccLengthFromBits at known ⊢
  cases found : (eccSizes family).find? fun entry => entry.2 == bits with
  | none =>
    rw [found] at known
    exact absurd rfl known
  | some entry =>
    have here := List.mem_of_find?_eq_some found
    have same := List.find?_some found
    rw [beq_iff_eq] at same
    subst same
    dsimp only [Option.map, Option.getD]
    unfold wolfpsaEccBitsFromLength
    unfold eccSizes at here ⊢
    split_ifs at here ⊢
    all_goals
      simp only [List.mem_cons, List.not_mem_nil, or_false] at here
    · rcases here with rfl | rfl | rfl | rfl | rfl <;> decide
    · rcases here with rfl | rfl | rfl <;> decide
    · rcases here with rfl | rfl | rfl <;> decide
    · rcases here with rfl | rfl <;> decide
    · rcases here with rfl | rfl <;> decide

/-- What the elliptic-curve check of a public key takes has the length of its curve. -/
theorem importCheckEcc_public {wc : WcKeys} {attr : KeyAttributes} {data : Bytes}
    (ecc : psaKeyTypeIsEccPublicKey attr.type = true)
    (passed : importCheckEcc wc attr data = .success) :
    wolfpsaInferKeyBits attr.type data.length = .ok attr.bits.toNat ∧ attr.bits ≠ 0 := by
  have ne {c : KeyType} (other : psaKeyTypeIsEccPublicKey c = false) := eccPublic_ne ecc other
  unfold importCheckEcc at passed
  unfold wolfpsaInferKeyBits
  dsimp only at passed ⊢
  rw [ne rfl, ne rfl, ne rfl, ne rfl, eccPublic_not_byteString ecc, eccPublic_isEcc ecc]
  rw [ecc, Bool.true_and] at passed ⊢
  generalize (!(psaKeyTypeEccGetFamily attr.type == psaEccFamilyMontgomery ||
    psaKeyTypeEccGetFamily attr.type == psaEccFamilyTwistedEdwards)) = point at passed ⊢
  rw [if_neg (by decide), if_pos rfl]
  split at passed
  · cases passed
  rename_i shape
  split at passed
  · cases passed
  split at passed
  · cases passed
  rename_i known
  generalize (if point = true then (data.length - 1) / 2 else data.length) = coordinate at passed ⊢
  split at passed
  · cases passed
  rename_i exact
  obtain ⟨inferred, some⟩ := eccBits_of_eccLength known
  rw [if_neg, not_not.mp exact, inferred, if_neg some]
  · exact ⟨rfl, fun zero => some (by rw [zero]; rfl)⟩
  · cases point with
    | false => simp
    | true =>
      simp only [Bool.true_and, Bool.or_eq_true, decide_eq_true_eq, beq_iff_eq, bne_iff_ne] at shape ⊢
      omega

/-- The check reads type and size alone. -/
theorem importCheckEcc_congr {wc : WcKeys} {attr attr' : KeyAttributes} {data : Bytes}
    (type : attr'.type = attr.type) (bits : attr'.bits = attr.bits) :
    importCheckEcc wc attr' data = importCheckEcc wc attr data := by
  unfold importCheckEcc
  rw [type, bits]

theorem eccPublic_publicKeyData {wc : WcKeys} {attr : KeyAttributes} {data : Bytes}
    (ecc : psaKeyTypeIsEccPublicKey attr.type = true) (nonempty : data ≠ [])
    (fits : keyHeaderLength + data.length ≤ intMax)
    (passed : importCheckEcc wc attr data = .success) :
    PublicKeyData wc attr.type attr.bits data := by
  obtain ⟨inferred, some⟩ := importCheckEcc_public ecc passed
  have notRsa : psaKeyTypeIsRsa attr.type = false := eccPublic_publicKeyOf_ne ecc (by decide)
  refine ⟨nonempty, fits, fun other type bits => ?_, fun other type bits => ?_⟩
  · rw [importCheckType_eccPublic (type ▸ ecc), importCheckEcc_congr type bits, passed]
  · unfold importBits
    rw [type, notRsa, if_neg (by decide)]
    rcases bits with zero | same
    · rw [if_pos zero, inferred]
    · rw [same, if_neg some]

end

/-! ### Public keys of a fixed length -/

/-- The length of a parameter set names the set. -/
theorem publicKeyBits_of_length {type : KeyType} {bits length : Nat}
    (passed : publicKeyLengthOk type bits length = .success) :
    publicKeyBitsFromLength type length = some bits ∧ bits ≠ 0 := by
  unfold publicKeyLengthOk at passed
  split at passed
  · cases passed
  rename_i expected found
  split at passed
  · cases passed
  rename_i same
  rw [not_not.mp same]
  unfold publicKeyBitsFromLength
  have here : (bits, expected) ∈ publicKeySizes type := by
    obtain ⟨front, back, split, -⟩ := List.lookup_eq_some_iff.mp found
    rw [split]
    simp
  unfold publicKeySizes at here ⊢
  split_ifs at here ⊢
  all_goals
    simp only [List.mem_cons, List.not_mem_nil, or_false, Prod.mk.injEq] at here
  · rcases here with ⟨rfl, rfl⟩ | ⟨rfl, rfl⟩ | ⟨rfl, rfl⟩ <;> decide
  · rcases here with ⟨rfl, rfl⟩ | ⟨rfl, rfl⟩ | ⟨rfl, rfl⟩ <;> decide
  · rcases here with ⟨rfl, rfl⟩ | ⟨rfl, rfl⟩ <;> decide
  · rcases here with ⟨rfl, rfl⟩ | ⟨rfl, rfl⟩ <;> decide
  · rcases here with ⟨rfl, rfl⟩ | ⟨rfl, rfl⟩ <;> decide

/-- The types whose public keys have one length for each parameter set. -/
inductive FixedPublicType : KeyType → Prop where
  | mlDsa : FixedPublicType psaKeyTypeMlDsaPublicKey
  | mlKem : FixedPublicType psaKeyTypeMlKemPublicKey
  | lms : FixedPublicType psaKeyTypeLmsPublicKey
  | hss : FixedPublicType psaKeyTypeHssPublicKey
  | xmss : FixedPublicType psaKeyTypeXmssPublicKey
  | xmssMt : FixedPublicType psaKeyTypeXmssMtPublicKey

theorem importCheckType_fixed {wc : WcKeys} {attr : KeyAttributes} {data : Bytes}
    (fixed : FixedPublicType attr.type) :
    importCheckType wc attr data = publicKeyLengthOk attr.type attr.bits.toNat data.length := by
  unfold importCheckType
  generalize attr.type = type at fixed ⊢
  cases fixed <;> rfl

theorem fixedPublic_publicKeyData {wc : WcKeys} {type : KeyType} {bits : BitVec 16} {data : Bytes}
    (fixed : FixedPublicType type) (nonempty : data ≠ [])
    (fits : keyHeaderLength + data.length ≤ intMax)
    (passed : publicKeyLengthOk type bits.toNat data.length = .success) :
    PublicKeyData wc type bits data := by
  obtain ⟨inferred, sized⟩ := publicKeyBits_of_length passed
  refine ⟨nonempty, fits, fun other sameType sameBits => ?_, fun other sameType sameBits => ?_⟩
  · rw [importCheckType_fixed (sameType ▸ fixed), sameType, sameBits, passed]
  · have infers : wolfpsaInferKeyBits type data.length = .ok bits.toNat := by
      have plain : (type == psaKeyTypeAes || type == psaKeyTypeDes || type == psaKeyTypeChacha20 ||
          type == psaKeyTypeXchacha20 || isByteStringType type) = false := by
        cases fixed <;> rfl
      have notEcc : psaKeyTypeIsEcc type = false := by cases fixed <;> rfl
      have notDh : psaKeyTypeIsDh type = false := by cases fixed <;> rfl
      unfold wolfpsaInferKeyBits
      rw [plain, notEcc, notDh, inferred]
      rfl
    have notRsa : psaKeyTypeIsRsa type = false := by cases fixed <;> rfl
    unfold importBits
    rw [sameType, notRsa, if_neg (by decide)]
    rcases sameBits with zero | same
    · rw [if_pos zero, infers]
    · rw [same, if_neg (fun zero => sized (by rw [zero]; rfl))]

/-! ### RSA -/

theorem rsaPublic_publicKeyData {wc : WcKeys} {bits : BitVec 16} {data : Bytes} (nonempty : data ≠ [])
    (fits : keyHeaderLength + data.length ≤ intMax)
    (decodes : wolfpsaRsaKeyBits wc psaKeyTypeRsaPublicKey data = .ok bits.toNat) :
    PublicKeyData wc psaKeyTypeRsaPublicKey bits data := by
  refine ⟨nonempty, fits, fun other type _ => ?_, fun other type same => ?_⟩
  · unfold importCheckType
    rw [type]
    rfl
  · unfold importBits
    rw [type, if_pos (by decide), decodes]
    dsimp only
    rw [if_neg]
    rintro ⟨declared, different⟩
    rcases same with zero | same
    · exact declared zero
    · exact different (by rw [same])

/-! ## wolfCrypt -/

/-- wolfCrypt writes public keys in the lengths of their formats, and takes them back. -/
structure LawfulPublic (wc : WcPublic) (keys : WcKeys) : Prop where
  rsa : ∀ {type data decoded key n e}, keys.rsaDecode type data = .ok decoded →
    wc.rsa.privateKeyDecode data = .ok key →
    wc.rsa.flattenPublicKey key (wc.rsa.encryptSize key) = .ok (n, e) →
    n.length ≤ 512 ∧ e.length ≤ 512 ∧ keys.rsaDecode psaKeyTypeRsaPublicKey (rsaPublicKeyBytes n e) =
      .ok { decoded with consumed := (rsaPublicKeyBytes n e).length }
  ecc : ∀ {type bits curve data key made size bytes},
    wcPsaGetEccCurveId wc.build type bits = some curve →
    wc.ecc.importPrivateKey data curve = .ok key → wc.ecc.makePub key = .ok made →
    wc.ecc.exportX963 made size = .ok bytes →
    bytes.length = 1 + 2 * psaBitsToBytes bits ∧ bytes.length ≤ size ∧ bytes.head? = some 0x04 ∧
      keys.eccImport (psaKeyTypePublicKeyOfKeyPair type) bits bytes = .ok ()
  ed25519 : ∀ {key size bytes}, wc.ed25519.exportPublic key size = .ok bytes →
    bytes.length = ed25519PubKeySize
  ed448 : ∀ {key size bytes}, wc.ed448.exportPublic key size = .ok bytes →
    bytes.length = ed448PubKeySize
  x25519 : ∀ {key bytes}, wc.x25519.exportPublic key = .ok bytes → bytes.length = curve25519KeySize
  x448 : ∀ {key bytes}, wc.x448.exportPublic key = .ok bytes → bytes.length = curve448KeySize
  mldsa : ∀ {bits level blank fresh seed key}, mldsaBitsToLevel bits = some level →
    wc.mldsa.init = .ok blank → wc.mldsa.setParams blank level = .ok fresh →
    wc.mldsa.makeKeyFromSeed fresh seed = .ok key →
    (∀ size, wc.mldsa.pubSize key = .ok size → size = mlDsaPublicKeySize bits) ∧
      ∀ room bytes, wc.mldsa.exportPubRaw key room = .ok bytes → bytes.length = mlDsaPublicKeySize bits
  mlkem : ∀ {bits type fresh seed key}, mlkemBitsToType bits = some type →
    wc.mlkem.init type = .ok fresh → wc.mlkem.makeKeyWithRandom fresh seed = .ok key →
    (∀ size, wc.mlkem.publicKeySize key = .ok size → size = mlKemPublicKeySize bits) ∧
      ∀ size bytes, wc.mlkem.encodePublicKey key size = .ok bytes → bytes.length = size

/-- A key of the store and the public key data that were exported of it. -/
structure PublicHalf (wc : WcKeys) (attributes : KeyAttributes) (dataSize : Nat) (bytes : Bytes) :
    Prop where
  fits : bytes.length ≤ dataSize
  publicKey : PublicKeyData wc (psaKeyTypePublicKeyOfKeyPair attributes.type) attributes.bits bytes

section

variable {wc : WcPublic} {cfg : ImportConfig} {attributes : KeyAttributes} {data bytes : Bytes}
  {dataSize : Nat}

/-- The size that is stored. -/
theorem importCheck_sized {requested : KeyAttributes}
    (accepted : importCheck cfg requested data = .ok attributes) :
    ∃ bits, importBits cfg.wc requested data = .ok bits ∧ attributes.bits = BitVec.ofNat 16 bits := by
  unfold importCheck at accepted
  split_ifs at accepted
  split at accepted
  · split at accepted <;> cases accepted
  rename_i bits sized
  dsimp only at accepted
  split at accepted
  · cases accepted
  · cases accepted
    exact ⟨bits, sized, rfl⟩

/-- The size of a stored RSA key is that of its modulus. -/
theorem importCheck_rsa (accepted : importCheck cfg attributes data = .ok attributes)
    (rsa : psaKeyTypeIsRsa attributes.type = true) :
    wolfpsaRsaKeyBits cfg.wc attributes.type data = .ok attributes.bits.toNat := by
  obtain ⟨bits, sized, same⟩ := importCheck_sized accepted
  unfold importBits at sized
  rw [if_pos rsa] at sized
  cases decoded : wolfpsaRsaKeyBits cfg.wc attributes.type data with
  | error status =>
    rw [decoded] at sized
    cases sized
  | ok size =>
    rw [decoded] at sized
    dsimp only at sized
    split at sized
    · cases sized
    cases sized
    have small : bits < 2 ^ 16 := by
      unfold wolfpsaRsaKeyBits at decoded
      split at decoded
      · cases decoded
      split_ifs at decoded with malformed outside
      cases decoded
      unfold psaVendorRsaMaxKeyBits at outside
      omega
    rw [same, BitVec.toNat_ofNat, Nat.mod_eq_of_lt small]

theorem storedAsPublicKey_cases {type : KeyType} (stored : storedAsPublicKey type = true) :
    type = psaKeyTypeRsaPublicKey ∨ psaKeyTypeIsEccPublicKey type = true ∨ FixedPublicType type := by
  unfold storedAsPublicKey at stored
  simp only [Bool.or_eq_true, beq_iff_eq] at stored
  rcases stored with ((((((rsa | ecc) | rfl) | rfl) | rfl) | rfl) | rfl) | rfl
  · exact .inl rsa
  · exact .inr (.inl ecc)
  · exact .inr (.inr .mlDsa)
  · exact .inr (.inr .mlKem)
  · exact .inr (.inr .lms)
  · exact .inr (.inr .hss)
  · exact .inr (.inr .xmss)
  · exact .inr (.inr .xmssMt)

/-- The public half of a public key type is the type. -/
theorem eccPublic_publicKeyOf {type : KeyType} (ecc : psaKeyTypeIsEccPublicKey type = true) :
    psaKeyTypePublicKeyOfKeyPair type = type := by
  have high := eccPublic_and ecc
  have flag : type &&& psaKeyTypeCategoryFlagPair = 0#16 := by
    have inside : type &&& psaKeyTypeCategoryFlagPair =
        type &&& ~~~psaKeyTypeEccCurveMask &&& psaKeyTypeCategoryFlagPair := by
      rw [BitVec.and_assoc]
      rfl
    rw [inside, high]
    decide
  have parts : type &&& (psaKeyTypeCategoryFlagPair ||| ~~~psaKeyTypeCategoryFlagPair) = type := by
    rw [BitVec.or_not_self, BitVec.and_allOnes]
  rw [BitVec.and_or_distrib_left, flag, BitVec.zero_or] at parts
  exact parts

/-- Public keys are handed out as they are. -/
theorem storedPublic_half (accepted : importCheck cfg attributes data = .ok attributes)
    (fits : keyHeaderLength + data.length ≤ intMax)
    (stored : storedAsPublicKey attributes.type = true) (room : data.length ≤ dataSize) :
    PublicHalf cfg.wc attributes dataSize data := by
  refine ⟨room, ?_⟩
  obtain ⟨nonempty, -⟩ := importCheck_ok accepted
  have passed := importCheck_type accepted
  rcases storedAsPublicKey_cases stored with rsa | ecc | fixed
  · have decodes := importCheck_rsa accepted (by rw [rsa]; decide)
    rw [rsa] at decodes ⊢
    exact rsaPublic_publicKeyData nonempty fits decodes
  · rw [eccPublic_publicKeyOf ecc]
    rw [importCheckType_eccPublic ecc] at passed
    exact eccPublic_publicKeyData ecc nonempty fits passed
  · rw [importCheckType_fixed fixed] at passed
    rw [show psaKeyTypePublicKeyOfKeyPair attributes.type = attributes.type by
      generalize attributes.type = type at fixed
      cases fixed <;> rfl]
    exact fixedPublic_publicKeyData fixed nonempty fits passed

/-! ### Key pairs -/

theorem eccPair_publicKeyOf {type : KeyType} (pair : psaKeyTypeIsEccKeyPair type = true) :
    psaKeyTypeIsEccPublicKey (psaKeyTypePublicKeyOfKeyPair type) = true ∧
      psaKeyTypeEccGetFamily (psaKeyTypePublicKeyOfKeyPair type) = psaKeyTypeEccGetFamily type := by
  unfold psaKeyTypeIsEccKeyPair at pair
  unfold psaKeyTypeIsEccPublicKey psaKeyTypeEccGetFamily
  constructor
  · rw [publicKeyOfKeyPair_and, beq_iff_eq.mp pair]
    decide
  · unfold psaKeyTypePublicKeyOfKeyPair
    rw [BitVec.setWidth_and, show (~~~psaKeyTypeCategoryFlagPair).setWidth 8 = BitVec.allOnes 8 by decide,
      BitVec.and_allOnes]

/-- The curves that wolfCrypt knows are in the table of `psa_import_key`. -/
theorem eccLength_of_curve {build : EccBuild} {type : KeyType} {bits : Nat} {curve : EccCurve}
    (known : wcPsaGetEccCurveId build type bits = some curve) (ecc : psaKeyTypeIsEcc type = true) :
    wolfpsaEccLengthFromBits (psaKeyTypeEccGetFamily type) bits = psaBitsToBytes bits ∧
      1 ≤ psaBitsToBytes bits := by
  unfold wcPsaGetEccCurveId at known
  dsimp only at known
  rw [if_pos ecc] at known
  generalize psaKeyTypeEccGetFamily type = family at known ⊢
  obtain ⟨entry, found, -⟩ := Option.map_eq_some_iff.mp known
  have same := List.find?_some found
  have here := List.mem_of_find?_eq_some found
  simp only [Bool.and_eq_true, beq_iff_eq] at same
  obtain ⟨⟨rfl, rfl⟩, -⟩ := same
  simp only [List.mem_cons, List.not_mem_nil, or_false] at here
  rcases here with rfl | rfl | rfl | rfl | rfl | rfl | rfl | rfl | rfl | rfl | rfl | rfl | rfl
  all_goals
    dsimp only
    decide

/-- The point of a Weierstrass pair. -/
theorem weierstrass_checked {keys : WcKeys} {attr : KeyAttributes} {length : Nat}
    (ecc : psaKeyTypeIsEccPublicKey attr.type = true)
    (edwards : psaKeyTypeEccGetFamily attr.type ≠ psaEccFamilyTwistedEdwards)
    (montgomery : psaKeyTypeEccGetFamily attr.type ≠ psaEccFamilyMontgomery)
    (expected : wolfpsaEccLengthFromBits (psaKeyTypeEccGetFamily attr.type) attr.bits.toNat = length)
    (positive : 1 ≤ length) (whole : bytes.length = 1 + 2 * length) (head : bytes.head? = some 0x04)
    (imports : keys.eccImport attr.type attr.bits.toNat bytes = .ok ()) :
    importCheckEcc keys attr bytes = .success := by
  unfold importCheckEcc
  dsimp only
  rw [ecc, expected, imports, head, whole, beq_eq_false_iff_ne.mpr edwards,
    beq_eq_false_iff_ne.mpr montgomery]
  have odd : (1 + 2 * length) % 2 = 1 := by omega
  rw [if_neg (by simp; omega), if_neg (by simp), if_neg (by omega), if_neg (by simp)]
  split
  · rfl
  · rfl

/-- The raw key of an Edwards or Montgomery pair. -/
theorem rawKey_checked {keys : WcKeys} {attr : KeyAttributes}
    (raw : psaKeyTypeEccGetFamily attr.type = psaEccFamilyMontgomery ∨
      psaKeyTypeEccGetFamily attr.type = psaEccFamilyTwistedEdwards)
    (some : bytes ≠ [])
    (whole : wolfpsaEccLengthFromBits (psaKeyTypeEccGetFamily attr.type) attr.bits.toNat =
      bytes.length) : importCheckEcc keys attr bytes = .success := by
  have length : bytes.length ≠ 0 := by
    rw [ne_eq, List.length_eq_zero_iff]
    exact some
  have family : (psaKeyTypeEccGetFamily attr.type == psaEccFamilyMontgomery ||
      psaKeyTypeEccGetFamily attr.type == psaEccFamilyTwistedEdwards) = true := by
    simpa using raw
  unfold importCheckEcc
  dsimp only
  rw [whole, family, Bool.not_true, Bool.and_false, if_neg (by simp), if_neg (by simp), if_neg length,
    if_neg (by simp)]
  rfl

variable (lawful : LawfulPublic wc cfg.wc)

theorem storageWcCall_ok_iff {α : Type} {ret : Except WcError α} {a : α} :
    storageWcCall ret = .ok a ↔ ret = .ok a := mapError_ok_iff

/-- The DER encoding in the buffer. -/
theorem rsaPublicKeyExport_ok {n e : Bytes} {written : RsaExport}
    (small : n.length + e.length < 2 ^ 63)
    (exported : rsaPublicKeyExport n e (List.replicate dataSize 0) = .ok written) :
    written.buffer.take written.dataLength = rsaPublicKeyBytes n e ∧
      (rsaPublicKeyBytes n e).length ≤ dataSize := by
  by_cases room : (rsaPublicKeyBytes n e).length ≤ dataSize
  · rw [rsaPublicKeyExport_eq small (by rw [List.length_replicate]; exact room)] at exported
    cases exported
    exact ⟨List.take_left, room⟩
  · unfold rsaPublicKeyExport at exported
    rw [rsaPublicKeySize_eq, List.length_replicate, if_pos (by omega)] at exported
    cases exported

include lawful in
theorem rsaPair_half (accepted : importCheck cfg attributes data = .ok attributes)
    (rsa : psaKeyTypeIsRsa attributes.type = true)
    (exported : exportPublicKeyRsa wc.rsa data dataSize = .ok bytes) :
    PublicHalf cfg.wc attributes dataSize bytes := by
  obtain ⟨-, bound, -⟩ := importCheck_ok accepted
  have decodes := importCheck_rsa accepted rsa
  unfold exportPublicKeyRsa at exported
  simp only [except_bind_ok_iff, storageWcCall_ok_iff, require_ok_iff] at exported
  obtain ⟨_, -, key, decoded, _, -, ⟨n, e⟩, flattened, written, der, answer⟩ := exported
  cases answer
  have whole : data.take (toWord32 data.length) = data := by
    unfold toWord32 intMax at *
    rw [Nat.mod_eq_of_lt (by omega), List.take_length]
  rw [whole] at decoded
  unfold wolfpsaRsaKeyBits at decodes
  split at decodes
  · cases decodes
  rename_i found taken
  split_ifs at decodes with malformed outside
  obtain ⟨nFits, eFits, again⟩ := lawful.rsa taken decoded flattened
  have small : n.length + e.length < 2 ^ 63 := by omega
  obtain ⟨same, room⟩ := rsaPublicKeyExport_ok small der
  have most := length_rsaPublicKeyBytes_le small
  rw [same]
  refine ⟨room, ?_⟩
  rw [show psaKeyTypePublicKeyOfKeyPair attributes.type = psaKeyTypeRsaPublicKey from beq_iff_eq.mp rsa]
  refine rsaPublic_publicKeyData (by simp [rsaPublicKeyBytes]) ?_ ?_
  · unfold keyHeaderLength intMax
    omega
  · unfold wolfpsaRsaKeyBits
    rw [again]
    dsimp only
    rw [if_neg, if_neg outside, decodes]
    rintro (short | none | even)
    · exact short rfl
    · exact malformed (.inr (.inl none))
    · exact malformed (.inr (.inr even))

/-- The public half of an elliptic-curve pair that passes the check of its type. -/
theorem eccPair_half (pair : psaKeyTypeIsEccKeyPair attributes.type = true)
    (room : bytes.length ≤ dataSize) (nonempty : bytes ≠ []) (small : bytes.length ≤ 2 ^ 16)
    (passed : importCheckEcc cfg.wc
      { attributes with type := psaKeyTypePublicKeyOfKeyPair attributes.type } bytes = .success) :
    PublicHalf cfg.wc attributes dataSize bytes := by
  have fits : keyHeaderLength + bytes.length ≤ intMax := by
    unfold keyHeaderLength intMax
    omega
  exact ⟨room, eccPublic_publicKeyData (eccPair_publicKeyOf pair).1 nonempty fits passed⟩

include lawful in
theorem weierstrassPair_half (pair : psaKeyTypeIsEccKeyPair attributes.type = true)
    (edwards : psaKeyTypeEccGetFamily attributes.type ≠ psaEccFamilyTwistedEdwards)
    (montgomery : psaKeyTypeEccGetFamily attributes.type ≠ psaEccFamilyMontgomery)
    (exported : psaAsymmetricExportPublicKeyEcc wc.build wc.ecc attributes.type attributes.bits.toNat
      data dataSize = .ok bytes) : PublicHalf cfg.wc attributes dataSize bytes := by
  obtain ⟨half, family⟩ := eccPair_publicKeyOf pair
  unfold psaAsymmetricExportPublicKeyEcc at exported
  simp only [pair, if_true, except_bind_ok_iff, require_ok_iff, wcCall_ok_iff, mapError_ok_iff]
    at exported
  obtain ⟨_, -, curve, pinned, _, -, _, -, ecc, ⟨key, imported, made⟩, written⟩ := exported
  have known : wcPsaGetEccCurveId wc.build attributes.type attributes.bits.toNat = some curve := by
    unfold requireCurve at pinned
    split at pinned
    · cases pinned
    · rename_i found
      cases pinned
      exact found
  obtain ⟨whole, room, head, imports⟩ := lawful.ecc known imported made written
  have isEcc : psaKeyTypeIsEcc attributes.type = true := half
  obtain ⟨expected, positive⟩ := eccLength_of_curve known isEcc
  have short : psaBitsToBytes attributes.bits.toNat ≤ 2 ^ 13 := by
    have bits := attributes.bits.isLt
    unfold psaBitsToBytes
    omega
  refine eccPair_half pair room ?_ (by omega) ?_
  · rintro rfl
    cases head
  · refine weierstrass_checked half ?_ ?_ ?_ positive whole head imports
    · exact family ▸ edwards
    · exact family ▸ montgomery
    · rw [← expected]
      exact congrArg (wolfpsaEccLengthFromBits · _) family

/-- A type that is a pair or a public key, and no public key, is the pair. -/
theorem pair_of_not_stored {type : KeyType} {family : Byte} {bits expected : Nat}
    (checked : ((type == psaKeyTypeEccKeyPair family || type == psaKeyTypeEccPublicKey family) &&
      bits == expected) = true) (notStored : storedAsPublicKey type = false)
    (stored : storedAsPublicKey (psaKeyTypeEccPublicKey family) = true) :
    type = psaKeyTypeEccKeyPair family ∧ bits = expected := by
  simp only [Bool.and_eq_true, Bool.or_eq_true, beq_iff_eq] at checked
  obtain ⟨rfl | rfl, same⟩ := checked
  · exact ⟨rfl, same⟩
  · rw [stored] at notStored
    cases notStored

/-- The public half of an Edwards or Montgomery pair is as long as its curve says. -/
theorem rawPair_half {family : Byte}
    (raw : family = psaEccFamilyMontgomery ∨ family = psaEccFamilyTwistedEdwards)
    (pair : psaKeyTypeIsEccKeyPair attributes.type = true)
    (same : psaKeyTypeEccGetFamily attributes.type = family) (room : bytes.length ≤ dataSize)
    (positive : 0 < bytes.length) (small : bytes.length ≤ 2 ^ 16)
    (table : wolfpsaEccLengthFromBits family attributes.bits.toNat = bytes.length) :
    PublicHalf cfg.wc attributes dataSize bytes := by
  have kept : psaKeyTypeEccGetFamily (psaKeyTypePublicKeyOfKeyPair attributes.type) = family :=
    (eccPair_publicKeyOf pair).2.trans same
  have nonempty : bytes ≠ [] := List.ne_nil_of_length_pos positive
  refine eccPair_half pair room nonempty small (rawKey_checked ?_ nonempty ?_)
  · rw [kept]
    exact raw
  · rw [kept]
    exact table

theorem edwardsPair_half {curve : EdCurve} {pubKeySize : Nat} {ed : WcEdPublic}
    (lengths : ∀ {key size bytes}, ed.exportPublic key size = .ok bytes → bytes.length = pubKeySize)
    (table : wolfpsaEccLengthFromBits psaEccFamilyTwistedEdwards curve.bits = pubKeySize)
    (positive : 0 < pubKeySize) (small : pubKeySize ≤ 2 ^ 16)
    (notStored : storedAsPublicKey attributes.type = false)
    (exported : edwardsExportPublicKey curve pubKeySize ed attributes.type attributes.bits.toNat data
      dataSize = .ok bytes) : PublicHalf cfg.wc attributes dataSize bytes := by
  unfold edwardsExportPublicKey at exported
  simp only [except_bind_ok_iff, require_ok_iff, wcCall_ok_iff, decide_eq_true_eq] at exported
  obtain ⟨_, checked, _, -, _, room, _, -, key, -, written⟩ := exported
  obtain ⟨pair, size⟩ := pair_of_not_stored checked notStored (by decide)
  have length := lengths written
  refine rawPair_half (.inr rfl) ?_ ?_ (by omega) (by omega) (by omega) ?_
  · rw [pair]
    decide
  · rw [pair]
    decide
  · rw [size, table, length]

theorem montgomeryPair_half {expectedBits keySize : Nat} {blinded : Bool} {mont : WcMontgomeryPublic}
    (lengths : ∀ {key bytes}, mont.exportPublic key = .ok bytes → bytes.length = keySize)
    (table : wolfpsaEccLengthFromBits psaEccFamilyMontgomery expectedBits = keySize)
    (positive : 0 < keySize) (small : keySize ≤ 2 ^ 16)
    (notStored : storedAsPublicKey attributes.type = false)
    (exported : montgomeryExportPublicKey expectedBits keySize blinded mont attributes.type
      attributes.bits.toNat data dataSize = .ok bytes) :
    PublicHalf cfg.wc attributes dataSize bytes := by
  unfold montgomeryExportPublicKey at exported
  simp only [require_bind_ok_iff, decide_eq_true_eq] at exported
  obtain ⟨checked, room, -, exported⟩ := exported
  obtain ⟨pair, size⟩ := pair_of_not_stored checked notStored (by decide)
  rw [pair, if_pos (by decide)] at exported
  simp only [except_bind_ok_iff, wcCall_ok_iff] at exported
  obtain ⟨_, -, key, -, ready, -, written⟩ := exported
  have length := lengths written
  refine rawPair_half (.inl rfl) ?_ ?_ (by omega) (by omega) (by omega) ?_
  · rw [pair]
    decide
  · rw [pair]
    decide
  · rw [size, table, length]

/-- The public key of a parameter set has the length that the import asks for. -/
theorem fixedPair_half {publicType : KeyType} {length : Nat} (fixed : FixedPublicType publicType)
    (type : psaKeyTypePublicKeyOfKeyPair attributes.type = publicType)
    (room : bytes.length ≤ dataSize) (small : bytes.length ≤ 2 ^ 16) (positive : 0 < length)
    (whole : bytes.length = length)
    (sized : (publicKeySizes publicType).lookup attributes.bits.toNat = some length) :
    PublicHalf cfg.wc attributes dataSize bytes := by
  refine ⟨room, type ▸ fixedPublic_publicKeyData fixed ?_ ?_ ?_⟩
  · rintro rfl
    exact absurd whole (by simp; omega)
  · unfold keyHeaderLength intMax
    omega
  · unfold publicKeyLengthOk
    rw [sized]
    dsimp only
    rw [if_neg (not_not.mpr whole)]

include lawful in
theorem mlDsaPair_half (mlDsa : psaKeyTypeIsMlDsa attributes.type = true)
    (exported : wolfpsaMldsaExportPublic wc.mldsa attributes.bits.toNat data dataSize = .ok bytes) :
    PublicHalf cfg.wc attributes dataSize bytes := by
  unfold wolfpsaMldsaExportPublic at exported
  simp only [except_bind_ok_iff, require_ok_iff, wcCall_ok_iff, decide_eq_true_eq] at exported
  obtain ⟨_, -, fresh, initialised, key, expanded, size, sized, _, room, written⟩ := exported
  unfold mldsaKeyInit at initialised
  split at initialised
  · cases initialised
  rename_i level known
  obtain ⟨blank, started, set⟩ := except_bind_ok_iff.mp (wcCall_ok_iff.mp initialised)
  obtain ⟨sizes, lengths⟩ := lawful.mldsa known started set expanded
  have whole := lengths dataSize bytes written
  rw [sizes size sized] at room
  have table : (publicKeySizes psaKeyTypeMlDsaPublicKey).lookup attributes.bits.toNat =
      some (mlDsaPublicKeySize attributes.bits.toNat) ∧
      0 < mlDsaPublicKeySize attributes.bits.toNat ∧
      mlDsaPublicKeySize attributes.bits.toNat ≤ 2 ^ 16 := by
    generalize attributes.bits.toNat = bits at known ⊢
    unfold mldsaBitsToLevel at known
    split_ifs at known with least middle most
    · rw [beq_iff_eq.mp least]
      decide
    · rw [beq_iff_eq.mp middle]
      decide
    · rw [beq_iff_eq.mp most]
      decide
  exact fixedPair_half .mlDsa (beq_iff_eq.mp mlDsa) (by omega) (by omega) table.2.1 whole table.1

include lawful in
theorem mlKemPair_half (mlKem : psaKeyTypeIsMlKem attributes.type = true)
    (exported : wolfpsaMlkemExportPublic wc.mlkem attributes.bits.toNat data dataSize = .ok bytes) :
    PublicHalf cfg.wc attributes dataSize bytes := by
  unfold wolfpsaMlkemExportPublic at exported
  simp only [except_bind_ok_iff, require_ok_iff, wcCall_ok_iff, decide_eq_true_eq] at exported
  obtain ⟨fresh, initialised, key, expanded, size, sized, _, room, written⟩ := exported
  unfold mlkemKeyInit at initialised
  split at initialised
  · cases initialised
  rename_i type known
  obtain ⟨sizes, lengths⟩ := lawful.mlkem known (wcCall_ok_iff.mp initialised) expanded
  have whole := lengths size bytes written
  rw [sizes size sized] at room whole
  have table : (publicKeySizes psaKeyTypeMlKemPublicKey).lookup attributes.bits.toNat =
      some (mlKemPublicKeySize attributes.bits.toNat) ∧
      0 < mlKemPublicKeySize attributes.bits.toNat ∧
      mlKemPublicKeySize attributes.bits.toNat ≤ 2 ^ 16 := by
    generalize attributes.bits.toNat = bits at known ⊢
    unfold mlkemBitsToType at known
    split_ifs at known with least middle most
    · rw [least]
      decide
    · rw [middle]
      decide
    · rw [most]
      decide
  exact fixedPair_half .mlKem (beq_iff_eq.mp mlKem) (by omega) (by omega) table.2.1 whole table.1

include lawful in
/-- Every back end writes public key data of the pair's size. -/
theorem pair_half (accepted : importCheck cfg attributes data = .ok attributes)
    (notStored : storedAsPublicKey attributes.type = false)
    (exported : publicKeyOf wc attributes.type attributes.bits data dataSize = .ok bytes) :
    PublicHalf cfg.wc attributes dataSize bytes := by
  unfold publicKeyOf at exported
  split at exported
  · rename_i rsa
    exact rsaPair_half lawful accepted rsa exported
  split at exported
  · split at exported
    · split at exported
      · exact edwardsPair_half lawful.ed25519 rfl (by decide) (by decide) notStored exported
      split at exported
      · exact edwardsPair_half lawful.ed448 rfl (by decide) (by decide) notStored exported
      · cases exported
    rename_i edwards
    split at exported
    · split at exported
      · exact montgomeryPair_half lawful.x25519 rfl (by decide) (by decide) notStored exported
      split at exported
      · exact montgomeryPair_half lawful.x448 rfl (by decide) (by decide) notStored exported
      · cases exported
    rename_i montgomery
    refine weierstrassPair_half lawful ?_ edwards montgomery exported
    unfold psaAsymmetricExportPublicKeyEcc at exported
    have checked := (require_bind_ok_iff.mp exported).1
    rw [Bool.or_eq_true] at checked
    refine checked.resolve_right fun half => ?_
    unfold storedAsPublicKey at notStored
    rw [half] at notStored
    simp at notStored
  split at exported
  · rename_i mlDsa
    exact mlDsaPair_half lawful mlDsa exported
  split at exported
  · rename_i mlKem
    exact mlKemPair_half lawful mlKem exported
  · cases exported

include lawful in
theorem exported_half (accepted : importCheck cfg attributes data = .ok attributes)
    (fits : keyHeaderLength + data.length ≤ intMax)
    (exported : exportPublicData (publicKeyOf wc) attributes data dataSize = .ok bytes) :
    PublicHalf cfg.wc attributes dataSize bytes := by
  unfold exportPublicData at exported
  split at exported
  · rename_i stored
    split at exported
    · cases exported
    · rename_i room
      cases exported
      exact storedPublic_half accepted fits stored (Nat.le_of_not_lt room)
  rename_i notStored
  split at exported
  · cases exported
  split at exported
  · cases exported
  · exact pair_half lawful accepted (by simpa using notStored) exported

end

/-! ## Between two processes -/

theorem publicKeyOfKeyPair_idem (type : KeyType) :
    psaKeyTypePublicKeyOfKeyPair (psaKeyTypePublicKeyOfKeyPair type) =
      psaKeyTypePublicKeyOfKeyPair type := by
  unfold psaKeyTypePublicKeyOfKeyPair
  rw [BitVec.and_assoc, BitVec.and_self]

/-- The public half of a type that has one is a type that is handed out as it is. -/
theorem storedAsPublicKey_publicKeyOf {type : KeyType} (gate : hasPublicKey type = true) :
    storedAsPublicKey (psaKeyTypePublicKeyOfKeyPair type) = true ∧
      hasPublicKey (psaKeyTypePublicKeyOfKeyPair type) = true ∧
      psaKeyTypePublicKeyOfKeyPair type ≠ psaKeyTypeNone := by
  unfold hasPublicKey at gate
  simp only [Bool.or_eq_true, beq_iff_eq] at gate
  rcases gate with ((((((rsa | ecc) | mlDsa) | mlKem) | rfl) | rfl) | rfl) | rfl
  · rw [show psaKeyTypePublicKeyOfKeyPair type = psaKeyTypeRsaPublicKey from beq_iff_eq.mp rsa]
    decide
  · have half : psaKeyTypeIsEccPublicKey (psaKeyTypePublicKeyOfKeyPair type) = true := ecc
    refine ⟨?_, ?_, fun none => ?_⟩
    · unfold storedAsPublicKey
      rw [half]
      simp
    · unfold hasPublicKey psaKeyTypeIsEcc
      rw [publicKeyOfKeyPair_idem, show (_ == _) = true from ecc]
      simp
    · rw [none] at half
      exact absurd half (by decide)
  · rw [show psaKeyTypePublicKeyOfKeyPair type = psaKeyTypeMlDsaPublicKey from beq_iff_eq.mp mlDsa]
    decide
  · rw [show psaKeyTypePublicKeyOfKeyPair type = psaKeyTypeMlKemPublicKey from beq_iff_eq.mp mlKem]
    decide
  · decide
  · decide
  · decide
  · decide

/-- An import under a fresh identifier, with the size that the checks find. -/
theorem importKey_sized {cfg : ImportConfig} {m : KeyMap} {requested sized : KeyAttributes}
    {data : Bytes} {id : KeyId} (passed : importCheck cfg requested data = .ok sized)
    (fresh : FreshId m sized id) :
    (m.importKey cfg requested data).1 = (.success, id) ∧
      HoldsKey (m.importKey cfg requested data).2 sized data id := by
  have again : importCheck cfg sized data = .ok sized := importCheck_again passed sized.id
  have same : m.importKey cfg requested data = m.importKey cfg sized data := by
    unfold KeyMap.importKey
    rw [passed, again]
  rw [same]
  exact importKey_fresh again fresh

section

variable {backend backend' : StoreBackend} {good good' : World → Prop} {cfg : ImportConfig}
  {w w' : World}

/-- A public key is imported, and handed out again as it came. -/
theorem import_export_public (shipped : ShippedStore backend good)
    (stored : StoredKeys backend good cfg w) {bytes : Bytes} {type : KeyType} {bits : BitVec 16}
    (gate : hasPublicKey type = true)
    (key : PublicKeyData cfg.wc (psaKeyTypePublicKeyOfKeyPair type) bits bytes)
    {requested : KeyAttributes} {newId : KeyId}
    (request : PublicRequest (psaKeyTypePublicKeyOfKeyPair type) bits requested)
    (fresh : FreshId (keyMap backend w) { requested with bits := bits } newId)
    {faults : Nat → Nat → Fault} (calm : ∀ n, CalmFaults (faults n)) :
    ∃ w₁, runKey backend faults (psaImportKey cfg requested bytes) w = ((.success, newId), w₁) ∧
      StoredKeys backend good cfg w₁ ∧
      HoldsKey (keyMap backend w₁) { requested with bits := bits } bytes newId ∧
      ∀ (publicKeyOf : PublicKeyOf) (room : Nat) (faults' : Nat → Nat → Fault),
        (∀ n, CalmFaults (faults' n)) → bytes.length ≤ room →
        runKey backend faults' (psaExportPublicKey publicKeyOf newId room) w₁ = (.ok bytes, w₁) := by
  have lawful := shipped.lawful
  obtain ⟨handedOut, exportable, typed⟩ := storedAsPublicKey_publicKeyOf gate
  have passed := key.importCheck typed request
  have spec : Moves backend good w ((keyMap backend w).importKey cfg requested bytes)
      (psaImportKey cfg requested bytes) := psaImportKey_moves lawful stored.good key.fits
  have ran := spec.run calm
  change (runKey backend faults (psaImportKey cfg requested bytes) w).1 = _ ∧
    keyMap backend (runKey backend faults (psaImportKey cfg requested bytes) w).2 = _ ∧
    good (runKey backend faults (psaImportKey cfg requested bytes) w).2 at ran
  generalize runKey backend faults (psaImportKey cfg requested bytes) w = called at ran ⊢
  obtain ⟨answered, moved, kept⟩ := ran
  obtain ⟨success, holds⟩ := importKey_sized passed fresh
  have small : ((keyMap backend w).importKey cfg requested bytes).2.Small :=
    stored.small.importKey key.fits
  have checked := stored.checked.importKey requested bytes
  rw [success] at answered
  rw [← moved] at holds small checked
  refine ⟨called.2, Prod.ext answered rfl, ⟨kept, small, checked⟩, holds, ?_⟩
  intro publicKeyOf room faults' calm' fits
  obtain ⟨held, found, same, -⟩ := holds
  have half : held.type = psaKeyTypePublicKeyOfKeyPair type := same.trans request.type
  have value : mapExportPublicKey publicKeyOf (keyMap backend called.2) newId room = .ok bytes := by
    refine mapExportPublicKey_ok_iff.mpr ⟨held, bytes, found, half ▸ exportable, ?_⟩
    unfold exportPublicData
    rw [half, if_pos handedOut, if_neg (by omega)]
  have read := (psaExportPublicKey_reads lawful publicKeyOf room kept fresh.named found).run calm'
  rw [value] at read
  exact Prod.ext read.1 read.2

end

/-- A public key that one process hands out is a public key in every other: whatever the environment of
the export does, its bytes are at most as many as the caller has room for, another process imports them
under the public type, with the size of the pair or with none, and hands the same bytes out again. -/
theorem public_half_travels {backend backend' : StoreBackend} {good good' : World → Prop}
    (shipped : ShippedStore backend good) (shipped' : ShippedStore backend' good')
    (cfg : ImportConfig) {wc : WcPublic} (lawful : LawfulPublic wc cfg.wc) (counter counter' : KeyId)
    (calls calls' : List (StoreOp × (Nat → Nat → Fault))) (calm : ∀ call ∈ calls, CalmCall call)
    (calm' : ∀ call ∈ calls', CalmCall call) :
    let w := (run (storeStep backend cfg) (emptyStore counter) calls).2
    let w' := (run (storeStep backend' cfg) (emptyStore counter') calls').2
    ∀ (id : KeyId) (dataSize : Nat) (faults : Nat → Nat → Fault) (bytes : Bytes),
      (runKey backend faults (psaExportPublicKey (publicKeyOf wc) id dataSize) w).1 = .ok bytes →
      (runKey backend faults (psaExportPublicKey (publicKeyOf wc) id dataSize) w).2 = w ∧
        bytes.length ≤ dataSize ∧
        ∃ attributes data, (keyMap backend w).getKeyData id = .ok (attributes, data) ∧
          ∀ requested newId, PublicRequest (psaKeyTypePublicKeyOfKeyPair attributes.type)
              attributes.bits requested →
            FreshId (keyMap backend' w') { requested with bits := attributes.bits } newId →
            ∀ faults', (∀ n, CalmFaults (faults' n)) →
            ∃ w₁, runKey backend' faults' (psaImportKey cfg requested bytes) w' =
                ((.success, newId), w₁) ∧
              HoldsKey (keyMap backend' w₁) { requested with bits := attributes.bits } bytes newId ∧
              ∀ (otherPublicKeyOf : PublicKeyOf) (room : Nat) (faults'' : Nat → Nat → Fault),
                (∀ n, CalmFaults (faults'' n)) → bytes.length ≤ room →
                runKey backend' faults'' (psaExportPublicKey otherPublicKeyOf newId room) w₁ =
                  (.ok bytes, w₁) := by
  intro w w' id dataSize faults bytes exported
  have stored : StoredKeys backend good cfg w := run_storedKeys cfg shipped counter calls calm
  have stored' : StoredKeys backend' good' cfg w' := run_storedKeys cfg shipped' counter' calls' calm'
  have spec : ReadsIfOk backend (fun _ => True) w
      (mapExportPublicKey (publicKeyOf wc) (keyMap backend w) id dataSize)
      (psaExportPublicKey (publicKeyOf wc) id dataSize) :=
    psaExportPublicKey_steady shipped.steady (publicKeyOf wc) id dataSize
  have steady := spec.run_every faults
  obtain ⟨attributes, data, found, gate, answer⟩ :=
    mapExportPublicKey_ok_iff.mp (steady.2 bytes exported)
  have half := exported_half lawful ((stored.checked.getKeyData found).2 attributes.id)
    (stored.small.getKeyData found) answer
  refine ⟨steady.1, half.fits, attributes, data, found, ?_⟩
  intro requested newId request fresh faults' calmNow
  obtain ⟨w₁, imported, -, holds, again⟩ :=
    import_export_public shipped' stored' gate half.publicKey request fresh calmNow
  exact ⟨w₁, imported, holds, again⟩

/-- An answer that only one input gets is that answer. -/
theorem onlyFor_ok {α β : Type} {cond : Prop} {decidable : Decidable cond} {value result : α}
    {error : β} (answered : (if cond then Except.ok value else Except.error error) = .ok result) :
    cond ∧ value = result := by
  split at answered
  · rename_i holds
    exact ⟨holds, Except.ok.inj answered⟩
  · cases answered

/-! ### The keys of RFC 7748, section 6.1 -/

def alicePrivate : Bytes :=
  [0x77, 0x07, 0x6d, 0x0a, 0x73, 0x18, 0xa5, 0x7d, 0x3c, 0x16, 0xc1, 0x72, 0x51, 0xb2, 0x66, 0x45,
    0xdf, 0x4c, 0x2f, 0x87, 0xeb, 0xc0, 0x99, 0x2a, 0xb1, 0x77, 0xfb, 0xa5, 0x1d, 0xb9, 0x2c, 0x2a]
def alicePublic : Bytes :=
  [0x85, 0x20, 0xf0, 0x09, 0x89, 0x30, 0xa7, 0x54, 0x74, 0x8b, 0x7d, 0xdc, 0xb4, 0x3e, 0xf7, 0x5a,
    0x0d, 0xbf, 0x3a, 0x0d, 0x26, 0x38, 0x1a, 0xf4, 0xeb, 0xa4, 0xa9, 0x8e, 0xaa, 0x9b, 0x4e, 0x6a]
def bobPrivate : Bytes :=
  [0x5d, 0xab, 0x08, 0x7e, 0x62, 0x4a, 0x8a, 0x4b, 0x79, 0xe1, 0x7f, 0x8b, 0x83, 0x80, 0x0e, 0xe6,
    0x6f, 0x3b, 0xb1, 0x29, 0x26, 0x18, 0xb6, 0xfd, 0x1c, 0x2f, 0x8b, 0x27, 0xff, 0x88, 0xe0, 0xeb]
def bobPublic : Bytes :=
  [0xde, 0x9e, 0xdb, 0x7d, 0x7b, 0x7d, 0xc1, 0xb4, 0xd3, 0x5b, 0x61, 0xc2, 0xec, 0xe4, 0x35, 0x37,
    0x3f, 0x83, 0x43, 0xc8, 0x5b, 0x78, 0x67, 0x4d, 0xad, 0xfc, 0x7e, 0x14, 0x6f, 0x88, 0x2b, 0x4f]

/-- The public keys of the two vectors; elsewhere zeros. -/
def vectorPoint (scalar : Bytes) : Bytes :=
  if scalar = alicePrivate then alicePublic
  else if scalar = bobPrivate then bobPublic
  else List.replicate 32 0

/-- X25519 of the vectors. -/
def vectorX25519 : WcMontgomeryPublic where
  Key := Bytes
  init := .ok ()
  importPrivate := .ok
  setRng := .ok
  exportPublic key := .ok (vectorPoint key)

/-- A wolfCrypt without the other back ends. -/
def vectorPublic : WcPublic where
  build := ⟨false, false, false, false, true, false⟩
  rsa := ⟨Unit, .error .notCompiledIn, fun _ => .error .notCompiledIn, fun _ => 0, fun _ => false,
    fun _ _ => .error .notCompiledIn⟩
  ecc := ⟨Unit, .error .notCompiledIn, fun _ _ => .error .notCompiledIn, fun _ => .error .notCompiledIn,
    fun _ _ => .error .notCompiledIn, fun _ _ => .error (.wc .notCompiledIn)⟩
  ed25519 := ⟨Unit, .error .notCompiledIn, fun _ => .error .notCompiledIn,
    fun _ => .error .notCompiledIn, fun _ => .error .notCompiledIn, fun _ _ => .error .notCompiledIn⟩
  ed448 := ⟨Unit, .error .notCompiledIn, fun _ => .error .notCompiledIn,
    fun _ => .error .notCompiledIn, fun _ => .error .notCompiledIn, fun _ _ => .error .notCompiledIn⟩
  x25519 := vectorX25519
  x448 := ⟨Unit, .error .notCompiledIn, fun _ => .error .notCompiledIn, fun _ => .error .notCompiledIn,
    fun _ => .error .notCompiledIn⟩
  mldsa := ⟨⟨Unit, .error .notCompiledIn, fun _ _ => .error .notCompiledIn,
    fun _ _ => .error .notCompiledIn, fun _ _ => .error .notCompiledIn, fun _ => .error .notCompiledIn,
    .error .notCompiledIn, fun _ _ _ _ => .error .notCompiledIn, fun _ _ _ _ => .error .notCompiledIn,
    fun _ _ _ _ _ => .error .notCompiledIn, fun _ _ _ _ _ => .error .notCompiledIn,
    fun _ _ _ _ => .error .notCompiledIn, fun _ _ _ _ _ => .error .notCompiledIn⟩,
    fun _ => .error .notCompiledIn, fun _ _ => .error .notCompiledIn⟩
  mlkem := ⟨Unit, Unit, fun _ => .error .notCompiledIn, fun _ _ => .error .notCompiledIn,
    fun _ => .error .notCompiledIn, fun _ _ => .error .notCompiledIn, fun _ _ => .error .notCompiledIn,
    fun _ => .error .notCompiledIn, fun _ _ => .error .notCompiledIn, fun _ _ => .error .notCompiledIn⟩

theorem length_vectorPoint (scalar : Bytes) : (vectorPoint scalar).length = 32 := by
  unfold vectorPoint
  split
  · rfl
  split
  · rfl
  · exact List.length_replicate

theorem lawful_vectorPublic : LawfulPublic vectorPublic plainImport.wc where
  rsa := by
    intro type data decoded key n e _ decodes
    cases decodes
  ecc := by
    intro type bits curve data key made size bytes _ imported
    cases imported
  ed25519 := by
    intro key size bytes written
    cases written
  ed448 := by
    intro key size bytes written
    cases written
  x25519 := by
    intro key bytes written
    cases written
    exact length_vectorPoint key
  x448 := by
    intro key bytes written
    cases written
  mldsa := by
    intro bits level blank fresh seed key _ started
    cases started
  mlkem := by
    intro bits type fresh seed key _ started
    cases started

/-- A volatile X25519 pair for key agreement. -/
def x25519PairKey : KeyAttributes :=
  ⟨psaKeyTypeEccKeyPair psaEccFamilyMontgomery, 255, psaKeyLifetimeVolatile, psaKeyUsageDerive,
    psaAlgEcdh, psaAlgNone, psaKeyIdNull⟩

/-- The attributes under which a peer takes the public key, without a size. -/
def x25519PeerKey : KeyAttributes :=
  { x25519PairKey with type := psaKeyTypeEccPublicKey psaEccFamilyMontgomery, bits := 0, usage := 0 }

/-- A process that has imported one key. -/
def importCalls (attributes : KeyAttributes) (data : Bytes) :
    List (StoreOp × (Nat → Nat → Fault)) :=
  [(.importKey attributes data, fun _ _ => calmFault)]

theorem calm_importCalls {attributes : KeyAttributes} {data : Bytes}
    (fits : keyHeaderLength + data.length ≤ intMax) :
    ∀ call ∈ importCalls attributes data, CalmCall call := by
  unfold importCalls
  simp only [List.mem_singleton, forall_eq]
  exact ⟨fits, trivial, fun _ _ => calm_calmFault⟩

/-- Alice's key pair in a process on files, her public key in one on Zephyr. -/
theorem alice_public_key_travels :
    LawfulPublic vectorPublic plainImport.wc ∧
      (runKey (posixBackend freshStore) (fun _ _ => calmFault)
        (psaExportPublicKey (publicKeyOf vectorPublic) psaKeyIdVendorMin 32)
        (run (storeStep (posixBackend freshStore) plainImport) (emptyStore psaKeyIdVendorMin)
          (importCalls x25519PairKey alicePrivate)).2).1 = .ok alicePublic ∧
      ∃ w₁, runKey zephyrBackend (fun _ _ => calmFault)
          (psaImportKey plainImport x25519PeerKey alicePublic) (emptyStore psaKeyIdVendorMin) =
          ((.success, psaKeyIdVendorMin), w₁) ∧
        runKey zephyrBackend (fun _ _ => calmFault)
          (psaExportPublicKey (publicKeyOf vectorPublic) psaKeyIdVendorMin 32) w₁ =
          (.ok alicePublic, w₁) := by
  have exported : (runKey (posixBackend freshStore) (fun _ _ => calmFault)
      (psaExportPublicKey (publicKeyOf vectorPublic) psaKeyIdVendorMin 32)
      (run (storeStep (posixBackend freshStore) plainImport) (emptyStore psaKeyIdVendorMin)
        (importCalls x25519PairKey alicePrivate)).2).1 = .ok alicePublic := rfl
  refine ⟨lawful_vectorPublic, exported, ?_⟩
  obtain ⟨-, -, attributes, data, found, travels⟩ :=
    public_half_travels (.posix usable_freshStore) .zephyr plainImport lawful_vectorPublic
      psaKeyIdVendorMin psaKeyIdVendorMin (importCalls x25519PairKey alicePrivate) []
      (calm_importCalls (by decide)) (by simp) psaKeyIdVendorMin 32 (fun _ _ => calmFault) alicePublic
      exported
  have known : (keyMap (posixBackend freshStore)
      (run (storeStep (posixBackend freshStore) plainImport) (emptyStore psaKeyIdVendorMin)
        (importCalls x25519PairKey alicePrivate)).2).getKeyData psaKeyIdVendorMin =
      .ok (x25519PairKey, alicePrivate) := rfl
  obtain ⟨rfl, rfl⟩ := Prod.mk.inj (Except.ok.inj (known.symm.trans found))
  obtain ⟨w₁, imported, -, again⟩ := travels x25519PeerKey psaKeyIdVendorMin
    ⟨by decide, .inl rfl, by decide, rfl, by decide⟩
    ⟨by unfold AssignedId; decide, fun _ => rfl, rfl, rfl⟩ (fun _ _ => calmFault)
    (fun _ _ => calm_calmFault)
  exact ⟨w₁, imported, again (publicKeyOf vectorPublic) 32 (fun _ _ => calmFault)
    (fun _ _ => calm_calmFault) (by decide)⟩

end WolfPSA.Guarantees
