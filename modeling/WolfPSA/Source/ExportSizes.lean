import WolfPSA.Source.KeyStorage

/-!
# Export buffer sizes

The macros of `wolfpsa/psa/crypto_sizes.h` from which callers size a buffer for a key.
-/

namespace WolfPSA.Source

def psaKeyTypeDsaPublicKey : KeyType := 0x4005
def psaKeyTypeDsaKeyPair : KeyType := 0x7005

/-- `PSA_KEY_EXPORT_ASN1_INTEGER_MAX_SIZE`. -/
def psaKeyExportAsn1IntegerMaxSize (bits : Nat) : Nat := bits / 8 + 5

def psaKeyExportRsaPublicKeyMaxSize (bits : Nat) : Nat := psaKeyExportAsn1IntegerMaxSize bits + 11

def psaKeyExportDsaPublicKeyMaxSize (bits : Nat) : Nat :=
  psaKeyExportAsn1IntegerMaxSize bits * 3 + 59

def psaKeyExportDsaKeyPairMaxSize (bits : Nat) : Nat :=
  psaKeyExportAsn1IntegerMaxSize bits * 3 + 75

def psaKeyExportEccPublicKeyMaxSize (bits : Nat) : Nat := 2 * psaBitsToBytes bits + 1

/-- The public key sizes of ML-DSA and ML-KEM by parameter set. -/
def mlDsaPublicKeySize (bits : Nat) : Nat :=
  if bits = 128 then 1312 else if bits = 192 then 1952 else if bits = 256 then 2592 else 0

def mlKemPublicKeySize (bits : Nat) : Nat :=
  if bits = 512 then 800 else if bits = 768 then 1184 else if bits = 1024 then 1568 else 0

/-- `PSA_KEY_TYPE_ECC_KEY_PAIR(PSA_ECC_FAMILY_MONTGOMERY)`. -/
def eccMontgomeryKeyPair : KeyType := psaKeyTypeEccKeyPairBase ||| psaEccFamilyMontgomery.setWidth 16

/-- `PSA_EXPORT_KEY_OUTPUT_SIZE`; 0 for a type it does not know. -/
def psaExportKeyOutputSize (type : KeyType) (bits : Nat) : Nat :=
  if psaKeyTypeIsUnstructured type then psaBitsToBytes bits
  else if psaKeyTypeIsDh type then psaBitsToBytes bits
  else if type = psaKeyTypeRsaKeyPair then psaKeyExportRsaKeyPairMaxSize bits
  else if type = psaKeyTypeRsaPublicKey then psaKeyExportRsaPublicKeyMaxSize bits
  else if type = psaKeyTypeDsaKeyPair then psaKeyExportDsaKeyPairMaxSize bits
  else if type = psaKeyTypeDsaPublicKey then psaKeyExportDsaPublicKeyMaxSize bits
  else if type = eccMontgomeryKeyPair then psaBitsToBytes bits
  else if psaKeyTypeIsEccKeyPair type then psaKeyExportEccKeyPairMaxSize bits
  else if psaKeyTypeIsEccPublicKey type then psaKeyExportEccPublicKeyMaxSize bits
  else if type = psaKeyTypeMlDsaKeyPair then 32
  else if type = psaKeyTypeMlDsaPublicKey then mlDsaPublicKeySize bits
  else if type = psaKeyTypeMlKemKeyPair then 64
  else if type = psaKeyTypeMlKemPublicKey then mlKemPublicKeySize bits
  else 0

/-- The key types the build wants, and its largest curve and finite-field group. -/
structure ExportConfig where
  eccKeyPair : Bool
  rsaKeyPair : Bool
  dhKeyPair : Bool
  eccPublicKey : Bool
  rsaPublicKey : Bool
  dhPublicKey : Bool
  mlKem : Bool
  mlDsa : Bool
  eccMaxCurveBits : Nat
  ecc_le : eccMaxCurveBits ≤ 521
  ffdhMaxKeyBits : Nat
  ffdh_le : ffdhMaxKeyBits ≤ 8192

/-- `#if defined(..) && (size > sofar)`. -/
def atLeastSize (wanted : Bool) (size sofar : Nat) : Nat :=
  if wanted && decide (size > sofar) then size else sofar

/-- `PSA_EXPORT_KEY_PAIR_MAX_SIZE`. -/
def psaExportKeyPairMaxSize (config : ExportConfig) : Nat :=
  atLeastSize config.mlDsa 32 <| atLeastSize config.mlKem 64 <|
    atLeastSize config.dhKeyPair (psaBitsToBytes config.ffdhMaxKeyBits) <|
    atLeastSize config.rsaKeyPair (psaKeyExportRsaKeyPairMaxSize psaVendorRsaMaxKeyBits) <|
    atLeastSize config.eccKeyPair (psaKeyExportEccKeyPairMaxSize config.eccMaxCurveBits) 1

/-- `PSA_EXPORT_PUBLIC_KEY_MAX_SIZE`. -/
def psaExportPublicKeyMaxSize (config : ExportConfig) : Nat :=
  atLeastSize config.mlKem 1568 <| atLeastSize config.mlDsa 2592 <|
    atLeastSize config.dhPublicKey (psaBitsToBytes config.ffdhMaxKeyBits) <|
    atLeastSize config.rsaPublicKey (psaKeyExportRsaPublicKeyMaxSize psaVendorRsaMaxKeyBits) <|
    atLeastSize config.eccPublicKey (psaKeyExportEccPublicKeyMaxSize config.eccMaxCurveBits) 1

/-- `PSA_EXPORT_KEY_PAIR_OR_PUBLIC_MAX_SIZE`. -/
def psaExportKeyPairOrPublicMaxSize (config : ExportConfig) : Nat :=
  if psaExportKeyPairMaxSize config > psaExportPublicKeyMaxSize config then
    psaExportKeyPairMaxSize config
  else psaExportPublicKeyMaxSize config

theorem atLeastSize_le {wanted : Bool} {size sofar bound : Nat} (fits : size ≤ bound)
    (below : sofar ≤ bound) : atLeastSize wanted size sofar ≤ bound := by
  unfold atLeastSize
  split
  · exact fits
  · exact below

theorem psaExportKeyPairOrPublicMaxSize_le (config : ExportConfig) :
    psaExportKeyPairOrPublicMaxSize config ≤ 2592 := by
  have group : psaBitsToBytes config.ffdhMaxKeyBits ≤ 2592 := by
    have bound := config.ffdh_le
    unfold psaBitsToBytes
    omega
  have curve := config.ecc_le
  have eccPair : psaKeyExportEccKeyPairMaxSize config.eccMaxCurveBits ≤ 2592 := by
    unfold psaKeyExportEccKeyPairMaxSize psaBitsToBytes
    split <;> omega
  have eccPublic : psaKeyExportEccPublicKeyMaxSize config.eccMaxCurveBits ≤ 2592 := by
    unfold psaKeyExportEccPublicKeyMaxSize psaBitsToBytes
    omega
  have pair : psaExportKeyPairMaxSize config ≤ 2592 :=
    atLeastSize_le (by decide) (atLeastSize_le (by decide) (atLeastSize_le group
      (atLeastSize_le (by decide) (atLeastSize_le eccPair (by decide)))))
  have pub : psaExportPublicKeyMaxSize config ≤ 2592 :=
    atLeastSize_le (by decide) (atLeastSize_le (by decide) (atLeastSize_le group
      (atLeastSize_le (by decide) (atLeastSize_le eccPublic (by decide)))))
  unfold psaExportKeyPairOrPublicMaxSize
  split
  · exact pair
  · exact pub

private theorem ite_le {p : Prop} [Decidable p] {a b bound : Nat} (left : a ≤ bound)
    (right : b ≤ bound) : (if p then a else b) ≤ bound := by
  split
  · exact left
  · exact right

/-- The macro stays far below an `int`. -/
theorem psaExportKeyOutputSize_le (type : KeyType) {bits : Nat} (bound : bits < 2 ^ 16) :
    psaExportKeyOutputSize type bits ≤ 2 ^ 16 := by
  have raw : psaBitsToBytes bits ≤ 2 ^ 16 := by
    unfold psaBitsToBytes
    omega
  have rsaPair : psaKeyExportRsaKeyPairMaxSize bits ≤ 2 ^ 16 := by
    unfold psaKeyExportRsaKeyPairMaxSize
    omega
  have rsaPublic : psaKeyExportRsaPublicKeyMaxSize bits ≤ 2 ^ 16 := by
    unfold psaKeyExportRsaPublicKeyMaxSize psaKeyExportAsn1IntegerMaxSize
    omega
  have dsaPair : psaKeyExportDsaKeyPairMaxSize bits ≤ 2 ^ 16 := by
    unfold psaKeyExportDsaKeyPairMaxSize psaKeyExportAsn1IntegerMaxSize
    omega
  have dsaPublic : psaKeyExportDsaPublicKeyMaxSize bits ≤ 2 ^ 16 := by
    unfold psaKeyExportDsaPublicKeyMaxSize psaKeyExportAsn1IntegerMaxSize
    omega
  have eccPair : psaKeyExportEccKeyPairMaxSize bits ≤ 2 ^ 16 := ite_le (by decide) raw
  have eccPublic : psaKeyExportEccPublicKeyMaxSize bits ≤ 2 ^ 16 := by
    unfold psaKeyExportEccPublicKeyMaxSize psaBitsToBytes
    omega
  have mlDsa : mlDsaPublicKeySize bits ≤ 2 ^ 16 :=
    ite_le (by decide) (ite_le (by decide) (ite_le (by decide) (by decide)))
  have mlKem : mlKemPublicKeySize bits ≤ 2 ^ 16 :=
    ite_le (by decide) (ite_le (by decide) (ite_le (by decide) (by decide)))
  exact ite_le raw (ite_le raw (ite_le rsaPair (ite_le rsaPublic (ite_le dsaPair (ite_le dsaPublic
    (ite_le raw (ite_le eccPair (ite_le eccPublic (ite_le (by decide) (ite_le mlDsa
    (ite_le (by decide) (ite_le mlKem (by decide)))))))))))))

end WolfPSA.Source
