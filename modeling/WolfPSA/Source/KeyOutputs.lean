import WolfPSA.Source.KeyMap

/-!
# What a failed read leaves in its outputs

`wolfpsa_get_key_data` and `psa_export_key` with the memory behind their output pointers, and the
laws under which a read leaves the store alone.
-/

namespace WolfPSA.Source
open Lib Prog

/-! ## Output parameters -/

/-- `wolfpsa_get_key_data`: status, `*key_data` and `*key_data_length`. -/
structure KeyDataOutputs where
  status : Status
  keyData : Option Bytes
  keyDataLength : Nat
  deriving DecidableEq, Repr

/-- `wolfpsa_get_key_data` with its outputs. The length field of the header goes straight into
`*key_data_length`. -/
def wolfpsaGetKeyDataOutputs (id : KeyId) : KeyProg KeyDataOutputs := do
  let init ← psaKeyStorageCheckInit
  if init ≠ .success then pure ⟨init, none, 0⟩
  else
    match ← wolfpsaVolatileGet id with
    | .ok found => pure ⟨.success, some found.2, found.2.length⟩
    | .error status =>
      if status.val ≠ .invalidHandle then pure ⟨status.val, none, 0⟩
      else
        match ← openRecord id with
        | .error status => pure ⟨status.val, none, 0⟩
        | .ok header =>
          let length := keyHeaderDataLength header.1
          if wolfpsaValidateStoredKeyDataLength length ≠ .success then
            let _ ← wolfPSAStoreClose header.2
            pure ⟨.dataInvalid, none, length⟩
          else if !(← xmalloc .keyData) then
            let _ ← wolfPSAStoreClose header.2
            pure ⟨.insufficientMemory, none, length⟩
          else
            let data ← wolfPSAStoreRead header.2 length
            let _ ← wolfPSAStoreClose data.2
            if data.1.length ≠ length then pure ⟨.storageFailure, none, 0⟩
            else pure ⟨.success, some data.1, length⟩

/-- `psa_export_key`: status, the caller's buffer and `*data_length`. -/
structure ExportOutputs where
  status : Status
  data : Bytes
  dataLength : Nat
  deriving DecidableEq, Repr

/-- Bytes written to the front of a buffer. -/
def overwrite (buffer bytes : Bytes) : Bytes := bytes ++ buffer.drop bytes.length

/-- `psa_export_key` into `buffer`, with its outputs. A short read has already put key bytes into
the caller's buffer, and `wc_ForceZero` takes them out again. -/
def psaExportKeyOutputs (id : KeyId) (buffer : Bytes) : KeyProg ExportOutputs := do
  let init ← psaKeyStorageCheckInit
  if init ≠ .success then pure ⟨init, buffer, 0⟩
  else
    match ← wolfpsaVolatileGet id with
    | .ok (attributes, data) =>
      if attributes.usage &&& psaKeyUsageExport = 0 then pure ⟨.notPermitted, buffer, 0⟩
      else if buffer.length < data.length then pure ⟨.bufferTooSmall, buffer, 0⟩
      else pure ⟨.success, overwrite buffer data, data.length⟩
    | .error status =>
      if status.val ≠ .invalidHandle then pure ⟨status.val, buffer, 0⟩
      else
        match ← openRecord id with
        | .error status => pure ⟨status.val, buffer, 0⟩
        | .ok header =>
          let length := keyHeaderDataLength header.1
          if (psaKeyAttributesDeserialize header.1).usage &&& psaKeyUsageExport = 0 then
            let _ ← wolfPSAStoreClose header.2
            pure ⟨.notPermitted, buffer, 0⟩
          else if wolfpsaValidateStoredKeyDataLength length ≠ .success then
            let _ ← wolfPSAStoreClose header.2
            pure ⟨.dataInvalid, buffer, 0⟩
          else if buffer.length < length then
            let _ ← wolfPSAStoreClose header.2
            pure ⟨.bufferTooSmall, buffer, 0⟩
          else
            let data ← wolfPSAStoreRead header.2 length
            let _ ← wolfPSAStoreClose data.2
            if data.1.length ≠ length then
              pure ⟨.storageFailure,
                overwrite (overwrite buffer data.1) (List.replicate length 0), 0⟩
            else pure ⟨.success, overwrite buffer data.1, length⟩

/-! The calls of `Source/KeyStorage.lean` are these with the outputs of a failed call forgotten. -/

/-- What a caller takes from `wolfpsa_get_key_data`. -/
def KeyDataOutputs.taken (o : KeyDataOutputs) : Status × Option Bytes := (o.status, o.keyData)

def takenKey : Except Failure (KeyAttributes × Bytes) → Status × Option Bytes
  | .error status => (status.val, none)
  | .ok (_, data) => (.success, some data)

theorem wolfpsaGetKeyDataOutputs_taken (id : KeyId) :
    (wolfpsaGetKeyDataOutputs id >>= fun o => pure o.taken) =
      (wolfpsaGetKeyData id >>= fun r => pure (takenKey r)) := by
  unfold wolfpsaGetKeyDataOutputs wolfpsaGetKeyData readRecordData
  rw [Prog.bind_assoc, Prog.bind_assoc]
  congr 1
  funext init
  by_cases refused : init ≠ .success
  · rw [if_pos refused, dif_pos refused]
    rfl
  rw [if_neg refused, dif_neg refused, Prog.bind_assoc, Prog.bind_assoc]
  congr 1
  funext got
  cases got with
  | ok found => rfl
  | error status =>
    dsimp only
    split
    · rfl
    rw [Prog.bind_assoc, Prog.bind_assoc]
    congr 1
    funext opened
    cases opened with
    | error status => rfl
    | ok header =>
      dsimp only
      split
      · rfl
      rw [Prog.bind_assoc, Prog.bind_assoc, Prog.bind_assoc]
      congr 1
      funext granted
      cases granted with
      | false => rfl
      | true =>
        simp only [Bool.not_true, Bool.false_eq_true, if_false]
        rw [Prog.bind_assoc, Prog.bind_assoc]
        congr 1
        funext data
        rw [Prog.bind_assoc, Prog.bind_assoc]
        congr 1
        funext closed
        split <;> rfl

/-- What a caller takes from `psa_export_key`: as many bytes of the buffer as the length says. -/
def ExportOutputs.taken (o : ExportOutputs) : Status × Bytes :=
  (o.status, o.data.take o.dataLength)

def takenBytes : Except Failure Bytes → Status × Bytes
  | .error status => (status.val, [])
  | .ok data => (.success, data)

theorem take_overwrite (buffer bytes : Bytes) :
    (overwrite buffer bytes).take bytes.length = bytes := by
  unfold overwrite
  rw [List.take_append_of_le_length (Nat.le_refl _), List.take_length]

theorem psaExportKeyOutputs_taken (id : KeyId) (buffer : Bytes) :
    (psaExportKeyOutputs id buffer >>= fun o => pure o.taken) =
      (psaExportKey id buffer.length >>= fun r => pure (takenBytes r)) := by
  have whole (data : Bytes) : ExportOutputs.taken ⟨.success, overwrite buffer data, data.length⟩ =
      takenBytes (.ok data) := by
    unfold ExportOutputs.taken takenBytes
    rw [take_overwrite]
  unfold psaExportKeyOutputs psaExportKey
  rw [Prog.bind_assoc, Prog.bind_assoc]
  congr 1
  funext init
  by_cases refused : init ≠ .success
  · rw [if_pos refused, dif_pos refused]
    rfl
  rw [if_neg refused, dif_neg refused, Prog.bind_assoc, Prog.bind_assoc]
  congr 1
  funext got
  cases got with
  | ok found =>
    dsimp only
    split
    · rfl
    split
    · rfl
    · exact congrArg Prog.ret (whole found.2)
  | error status =>
    dsimp only
    split
    · rfl
    rw [Prog.bind_assoc, Prog.bind_assoc]
    congr 1
    funext opened
    cases opened with
    | error status => rfl
    | ok header =>
      dsimp only
      split
      · rfl
      split
      · rfl
      split
      · rfl
      rw [Prog.bind_assoc, Prog.bind_assoc]
      congr 1
      funext data
      rw [Prog.bind_assoc, Prog.bind_assoc]
      congr 1
      funext closed
      by_cases full : data.1.length = keyHeaderDataLength header.1
      · rw [if_neg (not_not.mpr full), if_neg (not_not.mpr full), ← full]
        exact congrArg Prog.ret (whole data.1)
      · rw [if_pos full, if_pos full]
        rfl

/-! ## Reads leave the store alone -/

/-- Reading does not move the world, whatever the environment does. -/
structure SteadyReads (backend : StoreBackend) : Prop where
  opens : ∀ faults id w, (backend.call faults (.open id) w).2 = w ∧
    ∀ ctx, (backend.call faults (.open id) w).1 = .ok ctx → ctx.hasTemp = false
  reads : ∀ faults ctx n w, (backend.call faults (.read ctx n) w).2 = w
  closes : ∀ faults ctx w, ctx.hasTemp = false → (backend.call faults (.close ctx) w).2 = w

theorem steady_posixBackend (store : StoreConfig) : SteadyReads (posixBackend store) where
  opens faults id w := by
    have answer := (posixOpen_spec store w id).run_every faults
    refine ⟨answer.1, fun ctx granted => ?_⟩
    have opened := answer.2
    rw [show ((posixOpen store id).run sysHandler faults w).1 = .ok ctx from granted] at opened
    exact opened.2
  reads faults ctx n w := ((posixRead_spec ctx n w).run_every faults).1
  closes faults ctx w reads := (posixClose_read_spec w reads).run_every faults

theorem steady_zephyrBackend : SteadyReads zephyrBackend where
  opens faults id w := by
    refine ⟨rfl, fun ctx granted => ?_⟩
    have opened : zephyrOpen faults id w = .ok ctx := granted
    unfold zephyrOpen at opened
    iterate 6
      split at opened
      · cases opened
    cases opened
    rfl
  reads _ _ _ _ := rfl
  closes _ _ _ _ := rfl

section

variable {backend : StoreBackend} {admitted : (Nat → Fault) → Prop} (steady : SteadyReads backend)
include steady

/-- Closing a handle for reading and returning. -/
theorem close_steady {α : Type} {ctx : StoreCtx} {value : α} {post : α → World → Prop} {w : World}
    (noTemp : ctx.hasTemp = false) (holds : post value w) :
    Triple (keyHandler backend) admitted (fun _ => True) post
      (wolfPSAStoreClose ctx >>= fun _ => pure value) w := by
  refine ⟨trivial, fun faults _ => ?_⟩
  show post value (backend.call faults (.close ctx) w).2
  rw [steady.closes faults ctx w noTemp]
  exact holds

theorem openRecord_steady (id : KeyId) (w : World) :
    Triple (keyHandler backend) admitted (fun _ => True)
      (fun r s => s = w ∧ ∀ header ctx, r = .ok (header, ctx) → ctx.hasTemp = false ∧
        header.length = keyHeaderLength ∧ backend.record w id = some (header ++ ctx.rest))
      (openRecord id) w := by
  refine ⟨trivial, fun faults _ => ?_⟩
  obtain ⟨still, handle⟩ := steady.opens faults id w
  have asked : keyHandler backend faults (.store (.open id)) w =
      ((backend.call faults (.open id) w).1, w) := Prod.ext rfl still
  rw [asked]
  cases opened : (backend.call faults (.open id) w).1 with
  | error code => exact ⟨rfl, fun header ctx same => by cases same⟩
  | ok ctx =>
    have record := backend.opened opened
    have noTemp := handle ctx opened
    refine ⟨trivial, fun faults' _ => ?_⟩
    obtain ⟨count, -, answer⟩ := backend.reads faults' ctx keyHeaderLength w
    have read : keyHandler backend faults' (.store (.read ctx keyHeaderLength)) w =
        ((ctx.rest.take count, { ctx with rest := ctx.rest.drop (ctx.rest.take count).length }), w) :=
      Prod.ext answer (steady.reads faults' ctx keyHeaderLength w)
    rw [read]
    show Triple _ _ _ _ (if (ctx.rest.take count).length ≠ keyHeaderLength then _ else _) w
    by_cases short : (ctx.rest.take count).length ≠ keyHeaderLength
    · rw [if_pos short]
      exact close_steady steady noTemp ⟨rfl, fun header ctx same => by cases same⟩
    · rw [if_neg short]
      refine ⟨rfl, fun header ctx' same => ?_⟩
      obtain ⟨rfl, rfl⟩ := Prod.mk.inj (Except.ok.inj same)
      refine ⟨noTemp, not_not.mp short, ?_⟩
      rw [record, take_append_drop_length]

/-- The read of `n` bytes of a handle and its close. -/
theorem readClose_steady {α : Type} {ctx : StoreCtx} {n : Nat} {k : Bytes × StoreCtx → KeyProg α}
    {post : α → World → Prop} {w : World} (noTemp : ctx.hasTemp = false)
    (next : ∀ count ≤ n, ∀ ctx', Triple (keyHandler backend) admitted (fun _ => True) post
      (k (ctx.rest.take count, ctx')) w) :
    Triple (keyHandler backend) admitted (fun _ => True) post
      (wolfPSAStoreRead ctx n >>= fun data => wolfPSAStoreClose data.2 >>= fun _ => k data) w := by
  refine ⟨trivial, fun faults _ => ?_⟩
  obtain ⟨count, bound, answer⟩ := backend.reads faults ctx n w
  have read : keyHandler backend faults (.store (.read ctx n)) w =
      ((ctx.rest.take count, { ctx with rest := ctx.rest.drop (ctx.rest.take count).length }), w) :=
    Prod.ext answer (steady.reads faults ctx n w)
  rw [read]
  refine ⟨trivial, fun faults' _ => ?_⟩
  show Triple _ _ _ _ _ (backend.call faults' (.close _) w).2
  rw [steady.closes faults' _ w (by exact noTemp)]
  exact next count bound _

end

/-! ## Reads in any environment

A read that succeeds gives what the map holds. -/

section

variable {backend : StoreBackend} {admitted : (Nat → Fault) → Prop} {w : World}

/-- The call leaves the world alone, and an answer that is no failure is `r`. -/
abbrev ReadsIfOk {α : Type} (backend : StoreBackend) (admitted : (Nat → Fault) → Prop) (w : World)
    (r : Except Failure α) (p : KeyProg (Except Failure α)) : Prop :=
  Triple (keyHandler backend) admitted (fun _ => True)
    (fun value s => s = w ∧ ∀ a, value = .ok a → r = .ok a) p w

theorem volatileGet_ok {fault : Fault} {id : KeyId} {found : KeyAttributes × Bytes}
    (got : volatileGet fault w id = .ok found) :
    ∃ node, wolfpsaVolatileFind w id = some node ∧ KeyMap.volatileKey node = .ok found := by
  unfold volatileGet at got
  split at got
  · cases got
  rename_i node present
  refine ⟨node, present, ?_⟩
  unfold KeyMap.volatileKey
  split at got
  · cases got
  rename_i nonempty
  split at got
  · cases got
  · rw [if_neg nonempty, ← got]

theorem volatileGet_absent {fault : Fault} {id : KeyId} {status : Failure}
    (got : volatileGet fault w id = .error status) (absent : status.val = .invalidHandle) :
    wolfpsaVolatileFind w id = none := by
  obtain ⟨node, _, ok⟩ | ⟨status', failed, missing⟩ := volatileGet_cases fault w id
  · rw [got] at ok
    cases ok
  · rw [got] at failed
    cases failed
    exact missing absent

theorem DataRead.enough {header rest data : Bytes} (read : DataRead header rest data) :
    ¬ rest.length < keyHeaderDataLength header := by
  have length := read.length
  rw [read.taken, List.length_take] at length
  omega

/-- The record that a successful open has found, cut behind its header. -/
theorem keyMap_openRecord {id : KeyId} {header rest : Bytes} (whole : header.length = keyHeaderLength)
    (record : backend.record w id = some (header ++ rest)) :
    (keyMap backend w).openRecord id = .ok (header, rest) := by
  have present : (keyMap backend w).records id = some (header ++ rest) := record
  unfold KeyMap.openRecord
  rw [present]
  dsimp only
  rw [if_neg (by rw [List.length_append]; omega), ← whole, List.take_left, List.drop_left]

variable (steady : SteadyReads backend)
include steady

theorem readRecordData_steady {header : Bytes} {ctx : StoreCtx} (noTemp : ctx.hasTemp = false) :
    ReadsIfOk backend admitted w (KeyMap.recordData header ctx.rest)
      (readRecordData (header, ctx)) := by
  unfold readRecordData
  dsimp only
  split
  · exact close_steady steady noTemp ⟨rfl, nofun⟩
  rename_i valid
  refine triple_ask trivial (fun _ => rfl) fun granted => ?_
  cases granted with
  | false => exact close_steady steady noTemp ⟨rfl, nofun⟩
  | true =>
    refine readClose_steady steady noTemp fun count bound ctx' => ?_
    dsimp only
    split
    · exact ⟨rfl, nofun⟩
    rename_i full
    refine ⟨rfl, fun data same => ?_⟩
    cases same
    have read := dataRead_of_length bound (not_not.mp full) (not_not.mp valid)
    unfold KeyMap.recordData
    rw [if_neg valid, if_neg read.enough, read.taken]

theorem wolfpsaGetKeyData_steady (id : KeyId) :
    ReadsIfOk backend admitted w ((keyMap backend w).getKeyData id) (wolfpsaGetKeyData id) := by
  refine triple_ask trivial (fun _ => rfl) fun init => ?_
  split
  · exact ⟨rfl, nofun⟩
  refine ⟨trivial, fun faults _ => ?_⟩
  dsimp only [keyHandler, localHandler]
  have looked : (keyMap backend w).find id = wolfpsaVolatileFind w id := rfl
  cases got : volatileGet (faults 0) w id with
  | ok found =>
    obtain ⟨node, present, taken⟩ := volatileGet_ok got
    refine ⟨rfl, fun a same => ?_⟩
    cases same
    unfold KeyMap.getKeyData
    rw [looked, present]
    exact taken
  | error status =>
    change Triple _ _ _ _ (if status.val ≠ .invalidHandle then _ else _) w
    split
    · exact ⟨rfl, nofun⟩
    rename_i absent
    have missing := volatileGet_absent got (not_not.mp absent)
    refine triple_bind_of (openRecord_steady steady id w) ?_
    rintro (status | ⟨header, ctx⟩) s ⟨rfl, opened⟩
    · exact ⟨rfl, nofun⟩
    obtain ⟨noTemp, whole, record⟩ := opened header ctx rfl
    refine triple_bind_of (readRecordData_steady steady noTemp) ?_
    rintro (status | data) s ⟨rfl, read⟩
    · exact ⟨rfl, nofun⟩
    refine ⟨rfl, fun a same => ?_⟩
    cases same
    unfold KeyMap.getKeyData
    rw [looked, missing, keyMap_openRecord whole record]
    dsimp only
    rw [read data rfl]

theorem psaGetKeyAttributes_steady (id : KeyId) :
    ReadsIfOk backend admitted w ((keyMap backend w).getKeyAttributes id)
      (psaGetKeyAttributes id) := by
  refine triple_ask trivial (fun _ => rfl) fun init => ?_
  split
  · exact ⟨rfl, nofun⟩
  refine ⟨trivial, fun faults _ => ?_⟩
  dsimp only [keyHandler, localHandler]
  have looked : (keyMap backend w).find id = wolfpsaVolatileFind w id := rfl
  cases found : wolfpsaVolatileFind w id with
  | some node =>
    refine ⟨rfl, fun a same => ?_⟩
    cases same
    unfold KeyMap.getKeyAttributes
    rw [looked, found]
  | none =>
    change Triple _ _ _ _ (openRecord id >>= _) w
    refine triple_bind_of (openRecord_steady steady id w) ?_
    rintro (status | ⟨header, ctx⟩) s ⟨rfl, opened⟩
    · exact ⟨rfl, nofun⟩
    obtain ⟨noTemp, whole, record⟩ := opened header ctx rfl
    refine close_steady steady noTemp ⟨rfl, fun a same => ?_⟩
    cases same
    unfold KeyMap.getKeyAttributes
    rw [looked, found, keyMap_openRecord whole record]

theorem psaExportKey_steady (id : KeyId) (dataSize : Nat) :
    ReadsIfOk backend admitted w ((keyMap backend w).exportKey id dataSize)
      (psaExportKey id dataSize) := by
  refine triple_ask trivial (fun _ => rfl) fun init => ?_
  split
  · exact ⟨rfl, nofun⟩
  refine ⟨trivial, fun faults _ => ?_⟩
  dsimp only [keyHandler, localHandler]
  have looked : (keyMap backend w).find id = wolfpsaVolatileFind w id := rfl
  cases got : volatileGet (faults 0) w id with
  | ok found =>
    obtain ⟨node, present, taken⟩ := volatileGet_ok got
    change Triple _ _ _ _ (if found.1.usage &&& psaKeyUsageExport = 0 then _ else _) w
    split
    · exact ⟨rfl, nofun⟩
    rename_i exportable
    split
    · exact ⟨rfl, nofun⟩
    rename_i room
    refine ⟨rfl, fun a same => ?_⟩
    cases same
    unfold KeyMap.exportKey
    rw [looked, present]
    dsimp only
    rw [taken]
    dsimp only
    rw [KeyMap.exportData, if_neg exportable, if_neg room]
  | error status =>
    change Triple _ _ _ _ (if status.val ≠ .invalidHandle then _ else _) w
    split
    · exact ⟨rfl, nofun⟩
    rename_i absent
    have missing := volatileGet_absent got (not_not.mp absent)
    refine triple_bind_of (openRecord_steady steady id w) ?_
    rintro (status | ⟨header, ctx⟩) s ⟨rfl, opened⟩
    · exact ⟨rfl, nofun⟩
    obtain ⟨noTemp, whole, record⟩ := opened header ctx rfl
    dsimp only
    split
    · exact close_steady steady noTemp ⟨rfl, nofun⟩
    rename_i exportable
    split
    · exact close_steady steady noTemp ⟨rfl, nofun⟩
    rename_i valid
    split
    · exact close_steady steady noTemp ⟨rfl, nofun⟩
    rename_i room
    refine readClose_steady steady noTemp fun count bound ctx' => ?_
    dsimp only
    split
    · exact ⟨rfl, nofun⟩
    rename_i full
    refine ⟨rfl, fun data same => ?_⟩
    cases same
    have read := dataRead_of_length bound (not_not.mp full) (not_not.mp valid)
    unfold KeyMap.exportKey
    rw [looked, missing, keyMap_openRecord whole record]
    dsimp only
    rw [KeyMap.exportRecord, if_neg exportable, if_neg valid, if_neg room, if_neg read.enough,
      read.taken]

end
end WolfPSA.Source
