import WolfPSA.Lib.Prog
import WolfPSA.Source.KeyDerivationOutput
import WolfPSA.Source.KeyImport
import WolfPSA.Source.PolicyReadings

/-!
# Key storage

The calls of `src/psa_key_storage.c` that create, read and destroy keys, as programs over the
volatile key list, the global lock, the allocator and the store interface of
`wolfpsa/psa_store.h`. A critical section of the volatile list and a store call are single actions
here; `Source/StorePosix.lean` expands the store calls.
-/

namespace WolfPSA.Source
open Lib

/-! ## Interface -/

abbrev Path := List Char

/-- `WOLFPSA_FileStoreCtx`. A read handle reads the file it opened, whatever happens to the name
afterwards: `rest` is what that file still holds. -/
structure StoreCtx where
  isWrite : Bool
  hasTemp : Bool
  writeFailed : Bool
  finalName : Path
  tempName : Path
  rest : Bytes
  deriving DecidableEq, Repr

/-- Return codes of the store (`psa_store.h`) and of wolfCrypt that pass through it. -/
def storeOk : Int := 0
def storeNotAvailable : Int := -4
def storeIoError : Int := -5
def memoryE : Int := -125

/-- The allocations of the modelled calls. -/
inductive AllocSite where
  | recordBuffer
  | keyData
  | storeCtx
  | generated
  | generatedPublic
  | plaintext
  deriving DecidableEq, Repr

/-- What a call does outside the store: initialisation check, allocator, id counter, volatile
key list, random and key generators. -/
inductive LocalAct where
  | checkInit
  | malloc (site : AllocSite)
  | nextKeyId
  | volatileStore (id : KeyId) (attributes : KeyAttributes) (data : Bytes)
  | volatileRemove (id : KeyId)
  | volatileGet (id : KeyId)
  | volatileGetAttributes (id : KeyId)
  | generateRandom (length : Nat)
  | generateKeyPair (type : KeyType) (bits : Nat) (capacity : Nat)

/-- The calls of `psa_store.h` on key records. -/
inductive StoreAct where
  | open (id : KeyId)
  | openSz (id : KeyId) (variableSz : Nat)
  | read (ctx : StoreCtx) (length : Nat)
  | write (ctx : StoreCtx) (buffer : Bytes) (length : Int)
  | close (ctx : StoreCtx)
  | remove (id : KeyId)

inductive KeyAct where
  | lock
  | unlock
  | here (a : LocalAct)
  | store (a : StoreAct)

abbrev LocalRes : LocalAct → Type
  | .checkInit | .volatileStore .. | .volatileRemove _ => Status
  | .malloc _ => Bool
  | .nextKeyId => Option KeyId
  | .volatileGet _ => Except Failure (KeyAttributes × Bytes)
  | .volatileGetAttributes _ => Except Failure KeyAttributes
  | .generateRandom _ | .generateKeyPair .. => Except Failure Bytes

/-- The answers of the store; a code other than `storeOk` is an error. -/
abbrev StoreRes : StoreAct → Type
  | .open _ | .openSz .. => Except Int StoreCtx
  | .read .. => Bytes × StoreCtx
  | .write .. => Int × StoreCtx
  | .close _ | .remove _ => Int

abbrev KeyRes : KeyAct → Type
  | .lock | .unlock => Unit
  | .here a => LocalRes a
  | .store a => StoreRes a

abbrev KeyProg := Prog KeyAct KeyRes

def wolfpsaLock : KeyProg Unit := .perform KeyAct.lock
def wolfpsaUnlock : KeyProg Unit := .perform KeyAct.unlock
def psaKeyStorageCheckInit : KeyProg Status := .perform (KeyAct.here .checkInit)
def xmalloc (site : AllocSite) : KeyProg Bool := .perform (KeyAct.here (.malloc site))
def takeNextKeyId : KeyProg (Option KeyId) := .perform (KeyAct.here .nextKeyId)
def wolfpsaVolatileStore (id : KeyId) (attributes : KeyAttributes) (data : Bytes) :
    KeyProg Status := .perform (KeyAct.here (.volatileStore id attributes data))
def wolfpsaVolatileRemove (id : KeyId) : KeyProg Status :=
  .perform (KeyAct.here (.volatileRemove id))
def wolfpsaVolatileGet (id : KeyId) : KeyProg (Except Failure (KeyAttributes × Bytes)) :=
  .perform (KeyAct.here (.volatileGet id))
def wolfpsaVolatileGetAttributes (id : KeyId) : KeyProg (Except Failure KeyAttributes) :=
  .perform (KeyAct.here (.volatileGetAttributes id))
def psaGenerateRandom (length : Nat) : KeyProg (Except Failure Bytes) :=
  .perform (KeyAct.here (.generateRandom length))
def psaAsymmetricGenerateKey (type : KeyType) (bits capacity : Nat) :
    KeyProg (Except Failure Bytes) := .perform (KeyAct.here (.generateKeyPair type bits capacity))
def wolfPSAStoreOpen (id : KeyId) : KeyProg (Except Int StoreCtx) :=
  .perform (KeyAct.store (.open id))
def wolfPSAStoreOpenSz (id : KeyId) (variableSz : Nat) : KeyProg (Except Int StoreCtx) :=
  .perform (KeyAct.store (.openSz id variableSz))
def wolfPSAStoreRead (ctx : StoreCtx) (length : Nat) : KeyProg (Bytes × StoreCtx) :=
  .perform (KeyAct.store (.read ctx length))
def wolfPSAStoreWrite (ctx : StoreCtx) (buffer : Bytes) (length : Int) :
    KeyProg (Int × StoreCtx) := .perform (KeyAct.store (.write ctx buffer length))
def wolfPSAStoreClose (ctx : StoreCtx) : KeyProg Int := .perform (KeyAct.store (.close ctx))
def wolfPSAStoreRemove (id : KeyId) : KeyProg Int := .perform (KeyAct.store (.remove id))

/-- `(int)x` of a non-negative value. -/
def toInt32 (x : Nat) : Int := (BitVec.ofNat 32 x).toInt

/-- `wolfpsa_store_open_status`. -/
def wolfpsaStoreOpenStatus (ret : Int) : Failure :=
  if ret = memoryE then ⟨.insufficientMemory, failing⟩ else ⟨.storageFailure, failing⟩

/-- How every reader of a record reports a failed open. -/
def openFailure (ret : Int) : Failure :=
  if ret = storeNotAvailable then ⟨.invalidHandle, failing⟩ else wolfpsaStoreOpenStatus ret

/-- `wolfpsa_validate_stored_key_data_length`. -/
def wolfpsaValidateStoredKeyDataLength (length : Nat) : Status :=
  if length = 0 ∨ length > intMax then .dataInvalid else .success

/-! ## Reading keys -/

/-- The open and the header read that every reader of a persistent record starts with. -/
def openRecord (id : KeyId) : KeyProg (Except Failure (Bytes × StoreCtx)) := do
  match ← wolfPSAStoreOpen id with
  | .error ret => pure (.error (openFailure ret))
  | .ok ctx =>
    let header ← wolfPSAStoreRead ctx keyHeaderLength
    if header.1.length ≠ keyHeaderLength then
      let _ ← wolfPSAStoreClose header.2
      pure (.error ⟨.storageFailure, failing⟩)
    else pure (.ok header)

/-- The read of the key data from the handle the header came from. -/
def readRecordData (header : Bytes × StoreCtx) : KeyProg (Except Failure Bytes) := do
  let length := keyHeaderDataLength header.1
  if wolfpsaValidateStoredKeyDataLength length ≠ .success then
    let _ ← wolfPSAStoreClose header.2
    pure (.error ⟨.dataInvalid, failing⟩)
  else if !(← xmalloc .keyData) then
    let _ ← wolfPSAStoreClose header.2
    pure (.error ⟨.insufficientMemory, failing⟩)
  else
    let data ← wolfPSAStoreRead header.2 length
    let _ ← wolfPSAStoreClose data.2
    if data.1.length ≠ length then pure (.error ⟨.storageFailure, failing⟩)
    else pure (.ok data.1)

/-- `wolfpsa_get_key_data`. -/
def wolfpsaGetKeyData (id : KeyId) : KeyProg (Except Failure (KeyAttributes × Bytes)) := do
  let init ← psaKeyStorageCheckInit
  if refused : init ≠ .success then pure (.error ⟨init, refused⟩)
  else
    match ← wolfpsaVolatileGet id with
    | .ok found => pure (.ok found)
    | .error status =>
      if status.val ≠ .invalidHandle then pure (.error status)
      else
        match ← openRecord id with
        | .error status => pure (.error status)
        | .ok header =>
          match ← readRecordData header with
          | .error status => pure (.error status)
          | .ok data => pure (.ok (psaKeyAttributesDeserialize header.1, data))

/-- `psa_get_key_attributes`. -/
def psaGetKeyAttributes (id : KeyId) : KeyProg (Except Failure KeyAttributes) := do
  let init ← psaKeyStorageCheckInit
  if refused : init ≠ .success then pure (.error ⟨init, refused⟩)
  else
    match ← wolfpsaVolatileGetAttributes id with
    | .ok attributes => pure (.ok { attributes with id := id })
    | .error _ =>
      match ← openRecord id with
      | .error status => pure (.error status)
      | .ok header =>
        let _ ← wolfPSAStoreClose header.2
        pure (.ok { psaKeyAttributesDeserialize header.1 with id := id })

/-- `psa_check_key_usage`. -/
def psaCheckKeyUsage (id : KeyId) (alg : Algorithm) (usage : KeyUsage) : KeyProg Status := do
  match ← psaGetKeyAttributes id with
  | .error status => pure status.val
  | .ok attributes => pure (checkKeyUsageAttributes attributes alg usage)

/-- `psa_export_key` into a buffer of `dataSize` bytes. -/
def psaExportKey (id : KeyId) (dataSize : Nat) : KeyProg (Except Failure Bytes) := do
  let init ← psaKeyStorageCheckInit
  if refused : init ≠ .success then pure (.error ⟨init, refused⟩)
  else
    match ← wolfpsaVolatileGet id with
    | .ok (attributes, data) =>
      if attributes.usage &&& psaKeyUsageExport = 0 then pure (.error ⟨.notPermitted, failing⟩)
      else if dataSize < data.length then pure (.error ⟨.bufferTooSmall, failing⟩)
      else pure (.ok data)
    | .error status =>
      if status.val ≠ .invalidHandle then pure (.error status)
      else
        match ← openRecord id with
        | .error status => pure (.error status)
        | .ok header =>
          let length := keyHeaderDataLength header.1
          -- the export is authorised from the handle the data is read from
          if (psaKeyAttributesDeserialize header.1).usage &&& psaKeyUsageExport = 0 then
            let _ ← wolfPSAStoreClose header.2
            pure (.error ⟨.notPermitted, failing⟩)
          else if wolfpsaValidateStoredKeyDataLength length ≠ .success then
            let _ ← wolfPSAStoreClose header.2
            pure (.error ⟨.dataInvalid, failing⟩)
          else if dataSize < length then
            let _ ← wolfPSAStoreClose header.2
            pure (.error ⟨.bufferTooSmall, failing⟩)
          else
            let data ← wolfPSAStoreRead header.2 length
            let _ ← wolfPSAStoreClose data.2
            if data.1.length ≠ length then pure (.error ⟨.storageFailure, failing⟩)
            else pure (.ok data.1)

/-! ### Public keys -/

/-- The types `psa_export_public_key` accepts. -/
def hasPublicKey (type : KeyType) : Bool :=
  psaKeyTypeIsRsa type || psaKeyTypeIsEcc type || psaKeyTypeIsMlDsa type ||
    psaKeyTypeIsMlKem type || type == psaKeyTypeLmsPublicKey || type == psaKeyTypeHssPublicKey ||
    type == psaKeyTypeXmssPublicKey || type == psaKeyTypeXmssMtPublicKey

/-- The types whose stored bytes are handed out as they are. -/
def storedAsPublicKey (type : KeyType) : Bool :=
  type == psaKeyTypeRsaPublicKey || psaKeyTypeIsEccPublicKey type ||
    type == psaKeyTypeMlDsaPublicKey || type == psaKeyTypeMlKemPublicKey ||
    type == psaKeyTypeLmsPublicKey || type == psaKeyTypeHssPublicKey ||
    type == psaKeyTypeXmssPublicKey || type == psaKeyTypeXmssMtPublicKey

/-- The back ends that compute a public key: type, size, private key data, output size. -/
abbrev PublicKeyOf := KeyType → BitVec 16 → Bytes → Nat → Except Failure Bytes

/-- The second half of `psa_export_public_key`: the dispatch on the type with the data at hand. -/
def exportPublicData (publicKeyOf : PublicKeyOf) (attributes : KeyAttributes) (data : Bytes)
    (dataSize : Nat) : Except Failure Bytes :=
  if storedAsPublicKey attributes.type then
    if dataSize < data.length then .error ⟨.bufferTooSmall, failing⟩ else .ok data
  else if psaKeyTypeIsMlDsa attributes.type && data.length != 32 then
    .error ⟨.dataInvalid, failing⟩
  else if psaKeyTypeIsMlKem attributes.type && data.length != 64 then
    .error ⟨.dataInvalid, failing⟩
  else publicKeyOf attributes.type attributes.bits data dataSize

/-- `psa_export_public_key`. A persistent key is looked up twice: its attributes, then its data. -/
def psaExportPublicKey (publicKeyOf : PublicKeyOf) (id : KeyId) (dataSize : Nat) :
    KeyProg (Except Failure Bytes) := do
  let init ← psaKeyStorageCheckInit
  if refused : init ≠ .success then pure (.error ⟨init, refused⟩)
  else
    match ← wolfpsaVolatileGet id with
    | .ok (attributes, data) =>
      if !hasPublicKey attributes.type then pure (.error ⟨.invalidArgument, failing⟩)
      else pure (exportPublicData publicKeyOf attributes data dataSize)
    | .error status =>
      if status.val ≠ .invalidHandle then pure (.error status)
      else
        match ← psaGetKeyAttributes id with
        | .error status => pure (.error status)
        | .ok attributes =>
          if !hasPublicKey attributes.type then pure (.error ⟨.invalidArgument, failing⟩)
          else
            match ← openRecord id with
            | .error status => pure (.error status)
            | .ok header =>
              match ← readRecordData header with
              | .error status => pure (.error status)
              | .ok data => pure (exportPublicData publicKeyOf attributes data dataSize)

/-! ## Creating and destroying keys -/

/-- The persistent branch of `psa_import_key` under the lock: probe, write and close. The result is
a status to return at once, or the `ret` the verdict is computed from. -/
def importPersistent (id : KeyId) (attr : KeyAttributes) (data : Bytes) :
    KeyProg (Except Failure Int) := do
  let _ ← wolfpsaLock
  match ← wolfPSAStoreOpen id with
  | .ok ctx =>
    let _ ← wolfPSAStoreClose ctx
    let _ ← wolfpsaUnlock
    pure (.error ⟨.alreadyExists, failing⟩)
  | .error ret =>
    if ret ≠ storeNotAvailable then
      let _ ← wolfpsaUnlock
      pure (.error (wolfpsaStoreOpenStatus ret))
    else
      match ← wolfPSAStoreOpenSz id data.length with
      | .error ret =>
        let _ ← wolfpsaUnlock
        pure (.ok ret)
      | .ok ctx =>
        let written ← wolfPSAStoreWrite ctx (keyRecord attr data)
          (toInt32 (keyHeaderLength + data.length))
        let closeRet ← wolfPSAStoreClose written.2
        let _ ← wolfpsaUnlock
        pure (.ok (if written.1 ≥ 0 ∧ closeRet ≠ storeOk then closeRet else written.1))

/-- The verdict at the end of `psa_import_key`. -/
def importVerdict (ret : Int) (id : KeyId) (dataLength : Nat) : Status × KeyId :=
  if ret < 0 then ((wolfpsaStoreOpenStatus ret).val, psaKeyIdNull)
  else if ret ≠ ((keyHeaderLength + dataLength : Nat) : Int) then (.storageFailure, psaKeyIdNull)
  else (.success, id)

/-- `psa_import_key` once the identifier is chosen. The caller's `*key_id` already holds it, and the
failure to allocate the record buffer leaves it there. -/
def importStore (attr : KeyAttributes) (data : Bytes) (id : KeyId) :
    KeyProg (Status × KeyId) := do
  if !(← xmalloc .recordBuffer) then pure (.insufficientMemory, id)
  else if psaKeyLifetimeIsVolatile attr.lifetime then
    let status ← wolfpsaVolatileStore id attr data
    if status ≠ .success then pure (status, psaKeyIdNull)
    else pure (importVerdict (toInt32 (keyHeaderLength + data.length)) id data.length)
  else
    match ← importPersistent id attr data with
    | .error status => pure (status.val, psaKeyIdNull)
    | .ok ret => pure (importVerdict ret id data.length)

/-- `psa_import_key`. -/
def psaImportKey (cfg : ImportConfig) (attributes : KeyAttributes) (data : Bytes) :
    KeyProg (Status × KeyId) :=
  match importCheck cfg attributes data with
  | .error status => pure (status.val, psaKeyIdNull)
  | .ok attr => do
    let init ← psaKeyStorageCheckInit
    if init ≠ .success then pure (init, psaKeyIdNull)
    else if psaKeyLifetimeIsVolatile attr.lifetime || attr.id == psaKeyIdNull then
      match ← takeNextKeyId with
      | none => pure (.insufficientStorage, psaKeyIdNull)
      | some id => importStore attr data id
    else importStore attr data attr.id

/-- `psa_destroy_key`. -/
def psaDestroyKey (id : KeyId) : KeyProg Status :=
  if id = psaKeyIdNull then pure .success
  else do
    let init ← psaKeyStorageCheckInit
    if init ≠ .success then pure init
    else
      let removed ← wolfpsaVolatileRemove id
      if removed = .success then pure .success
      else
        let ret ← wolfPSAStoreRemove id
        if ret = storeNotAvailable then pure .invalidHandle
        else if ret ≠ 0 then pure (wolfpsaStoreOpenStatus ret).val
        else pure .success

/-- `psa_copy_key`. The policy is decided and the data read from one look-up. -/
def psaCopyKey (cfg : ImportConfig) (source : KeyId) (requested : KeyAttributes) :
    KeyProg (Status × KeyId) := do
  let init ← psaKeyStorageCheckInit
  if init ≠ .success then pure (init, psaKeyIdNull)
  else
    match ← wolfpsaVolatileGet source with
    | .ok (attributes, data) =>
      match copyKeyAttributes attributes requested with
      | .error status => pure (status.val, psaKeyIdNull)
      | .ok copy => psaImportKey cfg copy data
    | .error status =>
      if status.val ≠ .invalidHandle then pure (status.val, psaKeyIdNull)
      else
        match ← openRecord source with
        | .error status => pure (status.val, psaKeyIdNull)
        | .ok header =>
          match copyKeyAttributes (psaKeyAttributesDeserialize header.1) requested with
          | .error status =>
            let _ ← wolfPSAStoreClose header.2
            pure (status.val, psaKeyIdNull)
          | .ok copy =>
            match ← readRecordData header with
            | .error status => pure (status.val, psaKeyIdNull)
            | .ok data => psaImportKey cfg copy data

/-! ### Generated keys -/

/-- `PSA_KEY_EXPORT_RSA_KEY_PAIR_MAX_SIZE` and `PSA_KEY_EXPORT_ECC_KEY_PAIR_MAX_SIZE`. -/
def psaKeyExportRsaKeyPairMaxSize (bits : Nat) : Nat := 9 * ((bits / 2 + 1) / 8 + 5) + 14
def psaKeyExportEccKeyPairMaxSize (bits : Nat) : Nat :=
  if bits = 448 then 57 else psaBitsToBytes bits

/-- The key data of `psa_generate_key`, up to its call of `psa_import_key`. -/
def generateKeyData (attributes : KeyAttributes) : KeyProg (Except Failure Bytes) := do
  let type := attributes.type
  let bits := attributes.bits.toNat
  let family := psaKeyTypeEccGetFamily type
  if bits = 0 then pure (.error ⟨.invalidArgument, failing⟩)
  else if psaKeyTypeIsPublicKey type then pure (.error ⟨.invalidArgument, failing⟩)
  else if !wolfpsaUsageFlagsValid attributes.usage then pure (.error ⟨.invalidArgument, failing⟩)
  else if psaKeyTypeIsUnstructured type || type == psaKeyTypeHmac || type == psaKeyTypeAes ||
      type == psaKeyTypeDes || type == psaKeyTypeChacha20 || type == psaKeyTypeXchacha20 then
    if !(← xmalloc .generated) then pure (.error ⟨.insufficientMemory, failing⟩)
    else psaGenerateRandom (psaBitsToBytes bits)
  else if type == psaKeyTypeRsaKeyPair then
    if !(← xmalloc .generated) then pure (.error ⟨.insufficientMemory, failing⟩)
    else psaAsymmetricGenerateKey type bits (psaKeyExportRsaKeyPairMaxSize bits)
  else if psaKeyTypeIsEccKeyPair type then
    if (family == psaEccFamilyTwistedEdwards || family == psaEccFamilyMontgomery) &&
        bits != 255 && bits != 448 then pure (.error ⟨.invalidArgument, failing⟩)
    else if !(← xmalloc .generated) then pure (.error ⟨.insufficientMemory, failing⟩)
    else if !(← xmalloc .generatedPublic) then
      pure (.error ⟨.insufficientMemory, failing⟩)
    else
      psaAsymmetricGenerateKey type bits
        (if family == psaEccFamilyTwistedEdwards then psaBitsToBytes bits + 1
          else psaKeyExportEccKeyPairMaxSize bits)
  else if type == psaKeyTypeMlDsaKeyPair then
    if bits != 128 && bits != 192 && bits != 256 then pure (.error ⟨.invalidArgument, failing⟩)
    else psaGenerateRandom 32
  else if type == psaKeyTypeMlKemKeyPair then
    if bits != 512 && bits != 768 && bits != 1024 then pure (.error ⟨.invalidArgument, failing⟩)
    else psaGenerateRandom 64
  else pure (.error ⟨.notSupported, failing⟩)

/-- `psa_generate_key`. -/
def psaGenerateKey (cfg : ImportConfig) (attributes : KeyAttributes) :
    KeyProg (Status × KeyId) := do
  match ← generateKeyData attributes with
  | .error status => pure (status.val, psaKeyIdNull)
  | .ok data => psaImportKey cfg attributes data

/-! ### Keys of a derivation -/

variable {Hmac Cmac : Type}

/-- `psa_key_derivation_output_key` with `psa_import_key` as it runs on the store. -/
def kdfOutputKey (cfg : ImportConfig) (env : KdfEnv Hmac Cmac) (operation : KdfOperation)
    (attributes : Option KeyAttributes) (keyNull : Bool) : KeyProg (KdfResult × KdfOperation) :=
  match operation with
  | none => pure (.ofStatus .badState, none)
  | some ctx =>
    if ctx.errorState then pure (.ofStatus .badState, some ctx)
    else
      let refuse (status : Status) : KeyProg (KdfResult × KdfOperation) :=
        pure (.ofStatus status, some (wolfpsaKdfDone ctx status))
      match attributes with
      | none => refuse .invalidArgument
      | some attrs =>
        let keyLen := psaBitsToBytes attrs.bits.toNat
        if keyNull then refuse .invalidArgument
        else if keyLen == 0 then refuse .invalidArgument
        else if !ctx.canOutputKey then refuse .notPermitted
        else if !psaKeyTypeIsUnstructured attrs.type then refuse .invalidArgument
        else if !env.alloc .keyBuffer then refuse .insufficientMemory
        else
          let derived := psaKeyDerivationOutputBytes env (some ctx) ⟨false, keyLen⟩
          if derived.1.status = some .success then do
            let imported ← psaImportKey cfg attrs (derived.1.bytes.take keyLen)
            pure (kdfDoneAfter (⟨some imported.1, [], imported.2⟩, derived.2))
          else pure (kdfDoneAfter (⟨derived.1.status, [], psaKeyIdNull⟩, derived.2))

/-- `psa_key_derivation_verify_key` with its two look-ups as they run on the store. -/
def kdfVerifyKey (env : KdfEnv Hmac Cmac) (operation : KdfOperation) (expected : KeyId) :
    KeyProg (KdfResult × KdfOperation) :=
  match operation with
  | none => pure (.ofStatus .badState, none)
  | some ctx =>
    if ctx.errorState then pure (.ofStatus .badState, some ctx)
    else do
      match ← psaGetKeyAttributes expected with
      | .error status => pure (.ofStatus status.val, some (wolfpsaKdfDone ctx status.val))
      | .ok attributes =>
        if kdfVerifyKeyCheck ctx attributes ≠ .success then
          pure (.ofStatus (kdfVerifyKeyCheck ctx attributes),
            some (wolfpsaKdfDone ctx (kdfVerifyKeyCheck ctx attributes)))
        else
          match ← wolfpsaGetKeyData expected with
          | .error status => pure (.ofStatus status.val, some (wolfpsaKdfDone ctx status.val))
          | .ok (_, data) =>
            pure (kdfDoneAfter (psaKeyDerivationVerifyBytes env (some ctx) (.data data)))

end WolfPSA.Source
