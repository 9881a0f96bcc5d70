import WolfPSA.Lib.Bytes
import WolfPSA.Source.Values

/-!
# What a key must look like to be stored

The checks of `psa_import_key` on attributes and key data (`src/psa_key_storage.c:1181-1513`), the
size inference they use, and the serialized record (`psa_key_storage.c:968-1061, 1551-1573`) in the
byte order of an LP64 little-endian machine. wolfCrypt's decoders of RSA and elliptic-curve keys
are parameters.
-/

namespace WolfPSA.Source
open Lib

/-! ## Elliptic-curve tables -/

def psaEccFamilySecpK1 : Byte := 0x17
def psaEccFamilySecpR1 : Byte := 0x12
def psaEccFamilyBrainpoolPR1 : Byte := 0x30
def psaEccFamilyMontgomery : Byte := 0x41
def psaEccFamilyTwistedEdwards : Byte := 0x42

def psaKeyTypeIsEccKeyPair (type : KeyType) : Bool :=
  type &&& ~~~psaKeyTypeEccCurveMask == psaKeyTypeEccKeyPairBase

def psaKeyTypeIsEccPublicKey (type : KeyType) : Bool :=
  type &&& ~~~psaKeyTypeEccCurveMask == psaKeyTypeEccPublicKeyBase

/-- `PSA_KEY_TYPE_ECC_GET_FAMILY` of an elliptic-curve type. -/
def psaKeyTypeEccGetFamily (type : KeyType) : Byte := type.setWidth 8

/-- Coordinate sizes in bytes and curve sizes in bits, per family: the table both
`wolfpsa_ecc_bits_from_length` and `wolfpsa_ecc_length_from_bits` spell out. -/
def eccSizes (family : Byte) : List (Nat × Nat) :=
  if family == psaEccFamilySecpR1 then [(24, 192), (28, 224), (32, 256), (48, 384), (66, 521)]
  else if family == psaEccFamilySecpK1 then [(24, 192), (28, 224), (32, 256)]
  else if family == psaEccFamilyBrainpoolPR1 then [(32, 256), (48, 384), (64, 512)]
  else if family == psaEccFamilyMontgomery then [(32, 255), (56, 448)]
  else if family == psaEccFamilyTwistedEdwards then [(32, 255), (57, 448)]
  else []

/-- `wolfpsa_ecc_bits_from_length`, 0 for a length without a curve. -/
def wolfpsaEccBitsFromLength (family : Byte) (lengthBytes : Nat) : Nat :=
  ((eccSizes family).lookup lengthBytes).getD 0

/-- `wolfpsa_ecc_length_from_bits`, 0 for a size without a curve. -/
def wolfpsaEccLengthFromBits (family : Byte) (bits : Nat) : Nat :=
  (((eccSizes family).find? fun entry => entry.2 == bits).map Prod.fst).getD 0

/-! ## Post-quantum types -/

def psaKeyTypeMlDsaKeyPair : KeyType := 0x7002
def psaKeyTypeMlDsaPublicKey : KeyType := 0x4002
def psaKeyTypeMlKemKeyPair : KeyType := 0x7004
def psaKeyTypeMlKemPublicKey : KeyType := 0x4004
def psaKeyTypeLmsPublicKey : KeyType := 0x4007
def psaKeyTypeHssPublicKey : KeyType := 0x4008
def psaKeyTypeXmssPublicKey : KeyType := 0x400b
def psaKeyTypeXmssMtPublicKey : KeyType := 0x400d

def psaKeyTypeIsMlDsa (type : KeyType) : Bool :=
  psaKeyTypePublicKeyOfKeyPair type == psaKeyTypeMlDsaPublicKey

def psaKeyTypeIsMlKem (type : KeyType) : Bool :=
  psaKeyTypePublicKeyOfKeyPair type == psaKeyTypeMlKemPublicKey

/-- Parameter-set sizes in bits and public key lengths in bytes of the types whose public keys have
a fixed length per parameter set. -/
def publicKeySizes (type : KeyType) : List (Nat × Nat) :=
  if type == psaKeyTypeMlDsaPublicKey then [(128, 1312), (192, 1952), (256, 2592)]
  else if type == psaKeyTypeMlKemPublicKey then [(512, 800), (768, 1184), (1024, 1568)]
  else if type == psaKeyTypeLmsPublicKey then [(192, 48), (256, 56)]
  else if type == psaKeyTypeHssPublicKey then [(192, 52), (256, 60)]
  else if type == psaKeyTypeXmssPublicKey || type == psaKeyTypeXmssMtPublicKey then
    [(192, 52), (256, 68)]
  else []

/-- The `switch` on the declared size that fixes the length of such a public key. -/
def publicKeyLengthOk (type : KeyType) (bits dataLength : Nat) : Status :=
  match (publicKeySizes type).lookup bits with
  | none => .invalidArgument
  | some expected => if dataLength ≠ expected then .invalidArgument else .success

/-- The `switch` on the length that infers the size of such a public key. -/
def publicKeyBitsFromLength (type : KeyType) (dataLength : Nat) : Option Nat :=
  ((publicKeySizes type).find? fun entry => entry.2 == dataLength).map Prod.fst

/-! ## Checks of `psa_import_key` -/

/-- What wolfCrypt finds in RSA key data: bytes consumed, modulus bits, and whether the exponent is
odd and at least 3. -/
structure RsaDecoded where
  consumed : Nat
  modulusBits : Nat
  exponentValid : Bool
  deriving DecidableEq, Repr

/-- wolfCrypt as the import checks use it. -/
structure WcKeys where
  rsaDecode : KeyType → Bytes → Except WcError RsaDecoded
  /-- `wc_psa_get_ecc_curve_id` finds a curve. -/
  eccCurveKnown : KeyType → Nat → Bool
  /-- `wc_ecc_import_private_key_ex` or `wc_ecc_import_x963_ex`. -/
  eccImport : KeyType → Nat → Bytes → Except WcError Unit

/-- The build option `WOLFPSA_ENROLLMENT_ALG` and wolfCrypt. -/
structure ImportConfig where
  enrollmentAlg : Bool
  wc : WcKeys

/-- `PSA_MAX_KEY_BITS`. -/
def psaMaxKeyBits : Nat := 0xfff8

/-- `PSA_VENDOR_RSA_MAX_KEY_BITS` and `RSA_MIN_SIZE` of `user_settings.h`. -/
def psaVendorRsaMaxKeyBits : Nat := 4096
def rsaMinSize : Nat := 1024

/-- `wolfpsa_key_data_status`. -/
def wolfpsaKeyDataStatus : WcError → Status
  | .memoryE => .insufficientMemory
  | .rngFailureE => .insufficientEntropy
  | .wcHwE => .hardwareFailure
  | _ => .invalidArgument

/-- `wolfpsa_rsa_key_bits`. -/
def wolfpsaRsaKeyBits (wc : WcKeys) (type : KeyType) (data : Bytes) : Except Status Nat :=
  match wc.rsaDecode type data with
  | .error e => .error (wolfpsaKeyDataStatus e)
  | .ok rsa =>
    if rsa.consumed ≠ data.length ∨ rsa.modulusBits = 0 ∨ rsa.exponentValid = false then
      .error .invalidArgument
    else if rsa.modulusBits % 8 ≠ 0 ∨ rsa.modulusBits < rsaMinSize ∨
        rsa.modulusBits > psaVendorRsaMaxKeyBits then .error .notSupported
    else .ok rsa.modulusBits

/-- `wolfpsa_usage_flags_valid`: no bit outside the known flags. -/
def wolfpsaUsageFlagsValid (usage : KeyUsage) : Bool := usage &&& ~~~0x0003ff03 == 0

/-- The types whose size is the data length in bits. -/
def isByteStringType (type : KeyType) : Bool :=
  type == psaKeyTypeHmac || type == psaKeyTypeRawData || type == psaKeyTypeDerive ||
    type == psaKeyTypePassword || type == psaKeyTypePasswordHash || type == psaKeyTypePepper

/-- `wolfpsa_infer_key_bits` for attributes without a size. -/
def wolfpsaInferKeyBits (type : KeyType) (dataLength : Nat) : Except Status Nat :=
  if type == psaKeyTypeAes || type == psaKeyTypeDes || type == psaKeyTypeChacha20 ||
      type == psaKeyTypeXchacha20 || isByteStringType type then
    if dataLength = 0 ∨ dataLength * 8 > psaMaxKeyBits then .error .invalidArgument
    else .ok (dataLength * 8)
  else if psaKeyTypeIsEcc type then
    let family := psaKeyTypeEccGetFamily type
    let raw := family == psaEccFamilyMontgomery || family == psaEccFamilyTwistedEdwards
    if psaKeyTypeIsEccPublicKey type && !raw &&
        (decide (dataLength < 2) || (dataLength - 1) % 2 != 0) then .error .invalidArgument
    else
      let bits := wolfpsaEccBitsFromLength family
        (if psaKeyTypeIsEccPublicKey type && !raw then (dataLength - 1) / 2 else dataLength)
      if bits = 0 then .error .invalidArgument else .ok bits
  else if psaKeyTypeIsDh type then .ok (dataLength * 8 % 2 ^ 16)
  else
    match publicKeyBitsFromLength type dataLength with
    | none => .error .invalidArgument
    | some bits => .ok bits

/-- The elliptic-curve arm of the type checks. -/
def importCheckEcc (wc : WcKeys) (attr : KeyAttributes) (data : Bytes) : Status :=
  let family := psaKeyTypeEccGetFamily attr.type
  let raw := family == psaEccFamilyMontgomery || family == psaEccFamilyTwistedEdwards
  let point := psaKeyTypeIsEccPublicKey attr.type && !raw
  let expected := wolfpsaEccLengthFromBits family attr.bits.toNat
  if point && (decide (data.length < 3) || data.length % 2 == 0) then .invalidArgument
  else if point && data.head? != some 0x04 then .invalidArgument
  else if expected = 0 then .notSupported
  else if (if point then (data.length - 1) / 2 else data.length) ≠ expected then .invalidArgument
  else if raw || !wc.eccCurveKnown attr.type attr.bits.toNat then .success
  else
    match wc.eccImport attr.type attr.bits.toNat data with
    | .error e => wolfpsaKeyDataStatus e
    | .ok _ => .success

/-- The checks per key type (`psa_key_storage.c:1268-1513`). -/
def importCheckType (wc : WcKeys) (attr : KeyAttributes) (data : Bytes) : Status :=
  let bits := attr.bits.toNat
  let type := attr.type
  if (type == psaKeyTypeChacha20 || type == psaKeyTypeXchacha20) &&
      (bits != 256 || data.length != 32) then .invalidArgument
  else if type == psaKeyTypeAes then
    if bits != 128 && bits != 192 && bits != 256 then .invalidArgument
    else if data.length != 16 && data.length != 24 && data.length != 32 then .invalidArgument
    else if bits ≠ data.length * 8 then .invalidArgument
    else .success
  else if type == psaKeyTypeDes then
    if data.length = 16 then .notSupported
    else if data.length ≠ 24 then .invalidArgument
    else if bits ≠ data.length * 8 then .invalidArgument
    else .success
  else if isByteStringType type then
    if data.length * 8 > psaMaxKeyBits ∨ bits ≠ data.length * 8 then .invalidArgument
    else .success
  else if type == psaKeyTypeMlDsaKeyPair then
    if bits != 128 && bits != 192 && bits != 256 then .invalidArgument
    else if data.length ≠ 32 then .invalidArgument
    else .success
  else if type == psaKeyTypeMlKemKeyPair then
    if bits != 512 && bits != 768 && bits != 1024 then .invalidArgument
    else if data.length ≠ 64 then .invalidArgument
    else .success
  else if psaKeyTypeIsMlDsa type then publicKeyLengthOk psaKeyTypeMlDsaPublicKey bits data.length
  else if psaKeyTypeIsMlKem type then publicKeyLengthOk psaKeyTypeMlKemPublicKey bits data.length
  else if type == psaKeyTypeLmsPublicKey || type == psaKeyTypeHssPublicKey ||
      type == psaKeyTypeXmssPublicKey || type == psaKeyTypeXmssMtPublicKey then
    publicKeyLengthOk type bits data.length
  else if psaKeyTypeIsEccPublicKey type || psaKeyTypeIsEccKeyPair type then
    importCheckEcc wc attr data
  else .success

/-- The size the record gets: decoded for RSA, declared, or inferred. -/
def importBits (wc : WcKeys) (attr : KeyAttributes) (data : Bytes) : Except Status Nat :=
  if psaKeyTypeIsRsa attr.type then
    match wolfpsaRsaKeyBits wc attr.type data with
    | .error status => .error status
    | .ok bits =>
      if attr.bits ≠ 0 ∧ attr.bits.toNat ≠ bits then .error .invalidArgument else .ok bits
  else if attr.bits = 0 then wolfpsaInferKeyBits attr.type data.length
  else .ok attr.bits.toNat

/-- Every check of `psa_import_key` before it looks at the store; the attributes to be stored. -/
def importCheck (cfg : ImportConfig) (attr : KeyAttributes) (data : Bytes) :
    Except Failure KeyAttributes :=
  if data.length = 0 then .error ⟨.invalidArgument, failing⟩
  else if data.length > intMax then .error ⟨.invalidArgument, failing⟩
  else if psaKeyLifetimeGetLocation attr.lifetime ≠ 0 then .error ⟨.notSupported, failing⟩
  else if attr.alg2 ≠ psaAlgNone ∧
      (cfg.enrollmentAlg && psaKeyLifetimeIsVolatile attr.lifetime) = false then
    .error ⟨.notSupported, failing⟩
  else if wolfpsaUsageFlagsValid attr.usage = false then .error ⟨.invalidArgument, failing⟩
  else if attr.type = psaKeyTypeNone then .error ⟨.notSupported, failing⟩
  else
    match importBits cfg.wc attr data with
    | .error status =>
      if refused : status ≠ .success then .error ⟨status, refused⟩
      else .error ⟨.invalidArgument, failing⟩
    | .ok bits =>
      let sized := { attr with bits := BitVec.ofNat 16 bits }
      if refused : importCheckType cfg.wc sized data ≠ .success then .error ⟨_, refused⟩
      else .ok sized

/-- What accepted key data looks like: the attributes to be stored differ from the requested ones in
the size only. -/
theorem importCheck_ok {cfg : ImportConfig} {attr checked : KeyAttributes} {data : Bytes}
    (accepted : importCheck cfg attr data = .ok checked) :
    data ≠ [] ∧ data.length ≤ intMax ∧ checked = { attr with bits := checked.bits } ∧
      (psaKeyLifetimeIsVolatile attr.lifetime = false → attr.alg2 = psaAlgNone) := by
  unfold importCheck at accepted
  split at accepted
  · cases accepted
  rename_i nonempty
  split at accepted
  · cases accepted
  rename_i bound
  split at accepted
  · cases accepted
  split at accepted
  · cases accepted
  rename_i enrollment
  split at accepted
  · cases accepted
  split at accepted
  · cases accepted
  split at accepted
  · split at accepted <;> cases accepted
  rename_i bits sized
  simp only at accepted
  split at accepted
  · cases accepted
  cases accepted
  refine ⟨fun empty => nonempty (by simp [empty]), Nat.le_of_not_gt bound, rfl, fun persistent => ?_⟩
  by_contra set
  exact enrollment ⟨set, by simp [persistent]⟩

/-- The attributes to be stored have passed the checks of their type. -/
theorem importCheck_type {cfg : ImportConfig} {attr checked : KeyAttributes} {data : Bytes}
    (accepted : importCheck cfg attr data = .ok checked) :
    importCheckType cfg.wc checked data = .success := by
  unfold importCheck at accepted
  split_ifs at accepted
  split at accepted
  · split at accepted <;> cases accepted
  · dsimp only at accepted
    split at accepted
    · cases accepted
    · rename_i passed
      cases accepted
      exact not_not.mp passed

/-- A size that was decoded, declared or inferred is found again when it is declared. -/
private theorem importBits_again {wc : WcKeys} {attr : KeyAttributes} {data : Bytes} {bits : Nat}
    (found : importBits wc attr data = .ok bits) (id : KeyId) :
    ∃ again, importBits wc { attr with bits := BitVec.ofNat 16 bits, id := id } data = .ok again ∧
      BitVec.ofNat 16 again = BitVec.ofNat 16 bits := by
  unfold importBits at found ⊢
  dsimp only at found ⊢
  by_cases rsa : psaKeyTypeIsRsa attr.type = true
  · rw [if_pos rsa] at found ⊢
    cases decoded : wolfpsaRsaKeyBits wc attr.type data with
    | error status =>
      rw [decoded] at found
      cases found
    | ok size =>
      rw [decoded] at found
      dsimp only at found ⊢
      split at found
      · cases found
      cases found
      have small : bits < 2 ^ 16 := by
        unfold wolfpsaRsaKeyBits at decoded
        split at decoded
        · cases decoded
        split_ifs at decoded with malformed outside
        cases decoded
        unfold psaVendorRsaMaxKeyBits at outside
        omega
      refine ⟨bits, ?_, rfl⟩
      rw [if_neg]
      rw [BitVec.toNat_ofNat, Nat.mod_eq_of_lt small]
      simp
  · rw [if_neg rsa] at found ⊢
    by_cases unset : BitVec.ofNat 16 bits = 0
    · rw [if_pos unset]
      by_cases declared : attr.bits = 0
      · rw [if_pos declared] at found
        exact ⟨bits, found, rfl⟩
      · rw [if_neg declared] at found
        cases found
        rw [BitVec.ofNat_toNat, BitVec.setWidth_eq] at unset
        exact absurd unset declared
    · rw [if_neg unset]
      exact ⟨_, rfl, by rw [BitVec.ofNat_toNat, BitVec.setWidth_eq]⟩

/-- Attributes that were accepted are accepted again, under any identifier. -/
theorem importCheck_again {cfg : ImportConfig} {attr checked : KeyAttributes} {data : Bytes}
    (accepted : importCheck cfg attr data = .ok checked) (id : KeyId) :
    importCheck cfg { checked with id := id } data = .ok { checked with id := id } := by
  have passed := importCheck_type accepted
  unfold importCheck at accepted
  split_ifs at accepted with nonempty bound location enrollment usage typed
  split at accepted
  · split at accepted <;> cases accepted
  rename_i bits sized
  dsimp only at accepted
  split at accepted
  · cases accepted
  cases accepted
  obtain ⟨again, found, same⟩ := importBits_again sized id
  unfold importCheck
  rw [if_neg nonempty, if_neg bound, if_neg location, if_neg enrollment, if_neg usage, if_neg typed]
  rw [found]
  dsimp only
  rw [same, dif_neg]
  exact not_not.mpr passed

/-! No check of key data reports a missing key. -/

theorem wolfpsaKeyDataStatus_ne_invalidHandle (e : WcError) :
    wolfpsaKeyDataStatus e ≠ .invalidHandle := by
  cases e <;> simp [wolfpsaKeyDataStatus]

theorem importBits_ne_invalidHandle {wc : WcKeys} {attr : KeyAttributes} {data : Bytes}
    {status : Status} (refused : importBits wc attr data = .error status) :
    status ≠ .invalidHandle := by
  unfold importBits wolfpsaRsaKeyBits wolfpsaInferKeyBits at refused
  dsimp only at refused
  split at refused
  · split at refused
    · rename_i failed
      cases refused
      split at failed
      · cases failed
        exact wolfpsaKeyDataStatus_ne_invalidHandle _
      · split_ifs at failed <;> cases failed <;> decide
    · split at refused <;> cases refused
      decide
  split at refused
  · split_ifs at refused
    all_goals first
      | cases refused; done
      | cases refused; decide
      | skip
    split at refused <;> cases refused
    decide
  · cases refused

theorem importCheckType_ne_invalidHandle (wc : WcKeys) (attr : KeyAttributes) (data : Bytes) :
    importCheckType wc attr data ≠ .invalidHandle := by
  have sizes (type : KeyType) (bits n : Nat) : publicKeyLengthOk type bits n ≠ .invalidHandle := by
    unfold publicKeyLengthOk
    split
    · decide
    · split <;> decide
  have curve : importCheckEcc wc attr data ≠ .invalidHandle := by
    unfold importCheckEcc
    dsimp only
    iterate 5 refine ite_ne_of_ne (by decide) ?_
    split
    · exact wolfpsaKeyDataStatus_ne_invalidHandle _
    · decide
  unfold importCheckType
  dsimp only
  repeat' first
    | exact sizes _ _ _
    | exact curve
    | apply ite_ne_of_ne
  all_goals decide

theorem importCheck_ne_invalidHandle {cfg : ImportConfig} {attr : KeyAttributes} {data : Bytes}
    {status : Failure} (refused : importCheck cfg attr data = .error status) :
    status.val ≠ .invalidHandle := by
  unfold importCheck at refused
  split_ifs at refused
  iterate 6
    cases refused
    decide
  split at refused
  · rename_i failed
    split at refused <;> cases refused
    · exact importBits_ne_invalidHandle failed
    · decide
  · dsimp only at refused
    split at refused <;> cases refused
    exact importCheckType_ne_invalidHandle _ _ _

/-! ## The stored record -/

/-- The five attributes and the data length, as `psa_key_attributes_serialize` and the copy of
`data_length` lay them out. -/
def keyHeader (attr : KeyAttributes) (dataLength : Nat) : Bytes :=
  leBytes 2 attr.type.toNat ++ leBytes 2 attr.bits.toNat ++ leBytes 4 attr.usage.toNat ++
    leBytes 4 attr.alg.toNat ++ leBytes 4 attr.lifetime.toNat ++ leBytes 8 dataLength

/-- The length of the header, `attr_length + sizeof(size_t)`. -/
def keyHeaderLength : Nat := 24

/-- The record of a key: header, then data. -/
def keyRecord (attr : KeyAttributes) (data : Bytes) : Bytes := keyHeader attr data.length ++ data

/-- `psa_key_attributes_deserialize` into initialised attributes; a record has no enrollment
algorithm and no identifier. -/
def psaKeyAttributesDeserialize (header : Bytes) : KeyAttributes where
  type := BitVec.ofNat 16 (leNat (header.take 2))
  bits := BitVec.ofNat 16 (leNat ((header.drop 2).take 2))
  usage := BitVec.ofNat 32 (leNat ((header.drop 4).take 4))
  alg := BitVec.ofNat 32 (leNat ((header.drop 8).take 4))
  lifetime := BitVec.ofNat 32 (leNat ((header.drop 12).take 4))
  alg2 := psaAlgNone
  id := psaKeyIdNull

/-- The data length field of a header. -/
def keyHeaderDataLength (header : Bytes) : Nat := leNat ((header.drop 16).take 8)

@[simp] theorem length_keyHeader (attr : KeyAttributes) (dataLength : Nat) :
    (keyHeader attr dataLength).length = keyHeaderLength := by
  simp [keyHeader, keyHeaderLength]

@[simp] theorem length_keyRecord (attr : KeyAttributes) (data : Bytes) :
    (keyRecord attr data).length = keyHeaderLength + data.length := by
  simp [keyRecord]

private theorem ofNat_leNat_leBytes {w n : Nat} (x : BitVec w) (width : 2 ^ w = 256 ^ n) :
    BitVec.ofNat w (leNat (leBytes n x.toNat)) = x := by
  rw [leNat_leBytes_of_lt (width ▸ x.isLt), BitVec.ofNat_toNat, BitVec.setWidth_eq]

/-- Reading a header back gives the attributes it was written from, without the two fields a record
does not hold. -/
theorem deserialize_keyHeader (attr : KeyAttributes) (dataLength : Nat) :
    psaKeyAttributesDeserialize (keyHeader attr dataLength) =
      { attr with alg2 := psaAlgNone, id := psaKeyIdNull } := by
  unfold psaKeyAttributesDeserialize keyHeader
  simp only [List.append_assoc, List.take_append, List.drop_append, length_leBytes]
  simp [ofNat_leNat_leBytes, List.take_of_length_le, List.drop_eq_nil_of_le]

theorem keyHeaderDataLength_keyHeader (attr : KeyAttributes) {dataLength : Nat}
    (bound : dataLength < 256 ^ 8) : keyHeaderDataLength (keyHeader attr dataLength) = dataLength := by
  unfold keyHeaderDataLength keyHeader
  simp only [List.append_assoc, List.take_append, List.drop_append, length_leBytes]
  simp [List.take_of_length_le, List.drop_eq_nil_of_le, leNat_leBytes_of_lt bound]

end WolfPSA.Source
