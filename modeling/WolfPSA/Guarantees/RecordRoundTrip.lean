import WolfPSA.Guarantees.StoreRefinement
import WolfPSA.Source.KeyOutputs

/-!
# Records that come back whole, or not at all

A persistent record is written by one function and parsed by every reader on its own. Over both store
back ends, each reader gets the attributes and the data of the record that `psa_import_key` wrote, as
far as the policy of the key lets it; and from a record that was cut anywhere no reader gets a byte.
-/

namespace WolfPSA.Guarantees
open Lib Source Prog

/-- The back ends of the repository and the worlds they work in. -/
inductive ShippedStore : StoreBackend → (World → Prop) → Prop
  | posix {store : StoreConfig} (usable : StoreUsable store) :
      ShippedStore (posixBackend store) (NoTemps store)
  | zephyr : ShippedStore zephyrBackend fun _ => True

theorem ShippedStore.lawful {backend : StoreBackend} {good : World → Prop}
    (shipped : ShippedStore backend good) : LawfulStore backend good := by
  cases shipped with
  | posix usable => exact lawful_posixBackend usable
  | zephyr => exact lawful_zephyrBackend

theorem ShippedStore.steady {backend : StoreBackend} {good : World → Prop}
    (shipped : ShippedStore backend good) : SteadyReads backend := by
  cases shipped with
  | posix _ => exact steady_posixBackend _
  | zephyr => exact steady_zephyrBackend

/-! An import that succeeds has written a record of an `int` length: every code of the store is an
`int`. -/

private theorem toInt32_le (n : Nat) : toInt32 n ≤ intMax := by
  unfold toInt32 intMax
  rw [BitVec.toInt_eq_toNat_cond]
  have bound := (BitVec.ofNat 32 n).isLt
  split <;> omega

private theorem ShippedStore.write_le {backend : StoreBackend} {good : World → Prop}
    (shipped : ShippedStore backend good) (faults : Nat → Fault) (ctx : StoreCtx) (buffer : Bytes)
    {length : Int} (bound : length ≤ intMax) (w : World) :
    (backend.call faults (.write ctx buffer length) w).1.1 ≤ intMax := by
  have error : storeIoError ≤ intMax := by decide
  have memory : memoryE ≤ intMax := by decide
  cases shipped with
  | posix _ =>
    have spec : Triple sysHandler (fun _ => True) (fun _ => True)
        (fun r _ => r.1 ≤ (intMax : Int)) (posixWrite ctx buffer length) w := by
      refine ⟨trivial, fun moved _ => ?_⟩
      show Triple _ _ _ _ (if toInt32 (transferred moved (toSizeT length) buffer.length) = length
        then _ else _) _
      split
      · refine ⟨trivial, fun flushed _ => ?_⟩
        show Triple _ _ _ _ (if (!flushed.fails) = true then _ else _) _
        split
        · exact toInt32_le _
        · exact error
      · exact toInt32_le _
    exact spec.run_every faults
  | zephyr =>
    show (zephyrWrite faults ctx buffer length w).1.1 ≤ intMax
    unfold zephyrWrite
    split
    · exact error
    split
    · exact memory
    dsimp only
    split
    · exact bound
    split
    · exact error
    · exact bound

private theorem ShippedStore.close_le {backend : StoreBackend} {good : World → Prop}
    (shipped : ShippedStore backend good) (faults : Nat → Fault) (ctx : StoreCtx) (w : World) :
    (backend.call faults (.close ctx) w).1 ≤ (intMax : Int) := by
  have ok : storeOk ≤ intMax := by decide
  have error : storeIoError ≤ intMax := by decide
  cases shipped with
  | posix _ =>
    have spec : Triple sysHandler (fun _ => True) (fun _ => True)
        (fun code _ => code ≤ (intMax : Int)) (posixClose ctx) w := by
      refine ⟨trivial, fun closed _ => ?_⟩
      show Triple _ _ _ _ (if _ then _ else _) _
      split
      · refine ⟨trivial, fun renamed _ => ?_⟩
        show Triple _ _ _ _ (if _ then _ else _) _
        split
        · exact ok
        · exact ⟨trivial, fun _ _ => error⟩
      split
      · refine ⟨trivial, fun _ _ => ?_⟩
        show (if _ then _ else _) ≤ (intMax : Int)
        split
        · exact error
        · exact ok
      · show (if _ then _ else _) ≤ (intMax : Int)
        split
        · exact ok
        · exact error
    exact spec.run_every faults
  | zephyr => exact ok

section

variable {backend : StoreBackend} {good : World → Prop} {cfg : ImportConfig}
  {admitted : (Nat → Fault) → Prop} (shipped : ShippedStore backend good)
include shipped

private theorem importPersistent_le (attr : KeyAttributes) (data : Bytes) (id : KeyId) (w : World) :
    Triple (keyHandler backend) admitted (fun _ => True)
      (fun r _ => ∀ code, r = .ok code → code ≤ (intMax : Int)) (importPersistent id attr data) w := by
  have returned {status : Failure} {s : World} :
      Triple (keyHandler backend) admitted (fun _ => True)
        (fun (r : Except Failure Int) _ => ∀ code, r = .ok code → code ≤ (intMax : Int))
        (wolfpsaUnlock >>= fun _ => pure (.error status)) s :=
    triple_act trivial fun _ _ _ _ _ code same => by cases same
  refine triple_act trivial fun _ _ _ _ _ => ?_
  refine triple_act trivial fun _ _ probed _ _ => ?_
  cases probed with
  | ok ctx => exact triple_act trivial fun _ _ _ _ _ => returned
  | error code =>
    dsimp only
    split
    · exact returned
    refine triple_act trivial fun faults _ opened s answer => ?_
    cases opened with
    | error code =>
      have negative := backend.refuses (congrArg Prod.fst answer)
      refine triple_act trivial fun _ _ _ _ _ code' same => ?_
      obtain rfl := Except.ok.inj same
      exact Int.le_trans (Int.le_of_lt negative) (by decide)
    | ok ctx =>
      refine triple_act trivial fun faults _ written s' wrote => ?_
      have writtenBound := shipped.write_le faults ctx (keyRecord attr data)
        (toInt32_le (keyHeaderLength + data.length)) s
      rw [show backend.call faults (.write ctx _ _) s = (written, s') from wrote] at writtenBound
      refine triple_act trivial fun faults _ closed s'' shut => ?_
      have closedBound := shipped.close_le faults written.2 s'
      rw [show backend.call faults (.close _) s' = (closed, s'') from shut] at closedBound
      refine triple_act trivial fun _ _ _ _ _ code same => ?_
      obtain rfl := Except.ok.inj same
      split
      · exact closedBound
      · exact writtenBound

omit shipped in
private theorem fits_of_success {code : Int} {id : KeyId} {n : Nat} (bound : code ≤ intMax)
    (stored : (importVerdict code id n).1 = .success) : keyHeaderLength + n ≤ intMax := by
  unfold importVerdict at stored
  split at stored
  · unfold wolfpsaStoreOpenStatus at stored
    split at stored <;> simp at stored
  split at stored
  · simp at stored
  · omega

private theorem importStore_fits (attr : KeyAttributes) (data : Bytes) (id : KeyId) (w : World) :
    Triple (keyHandler backend) admitted (fun _ => True)
      (fun r _ => r.1 = .success → keyHeaderLength + data.length ≤ intMax)
      (importStore attr data id) w := by
  refine triple_act trivial fun _ _ granted _ _ => ?_
  split
  · exact nofun
  split
  · refine triple_act trivial fun _ _ stored _ _ => ?_
    split
    · rename_i failed
      exact fun success => absurd success failed
    · exact fun success => fits_of_success (toInt32_le _) success
  refine triple_bind_of (importPersistent_le shipped attr data id _) ?_
  rintro (status | code) s bound
  · exact fun success => absurd success status.property
  · exact fun success => fits_of_success (bound code rfl) success

/-- An import that succeeds has written a record of an `int` length. -/
theorem psaImportKey_fits (attributes : KeyAttributes) (data : Bytes) (w : World) :
    Triple (keyHandler backend) admitted (fun _ => True)
      (fun r _ => r.1 = .success → keyHeaderLength + data.length ≤ intMax)
      (psaImportKey cfg attributes data) w := by
  unfold psaImportKey
  split
  · rename_i status _
    exact fun success => absurd success status.property
  refine triple_act trivial fun _ _ init _ _ => ?_
  split
  · rename_i refused
    exact fun success => absurd success refused
  split
  · refine triple_act trivial fun _ _ assigned _ _ => ?_
    split
    · exact nofun
    · exact importStore_fits shipped _ data _ _
  · exact importStore_fits shipped _ data _ _

end

/-! ## Whole records -/

/-- The record of a key is in the store under `id`, and no volatile key hides it. -/
structure HoldsRecord (backend : StoreBackend) (good : World → Prop) (attr : KeyAttributes)
    (data : Bytes) (w : World) (id : KeyId) : Prop where
  good : good w
  named : id ≠ psaKeyIdNull
  visible : wolfpsaVolatileFind w id = none
  record : backend.record w id = some (keyRecord attr data)

section

variable {backend : StoreBackend} {good : World → Prop} {cfg : ImportConfig}
  {attributes attr : KeyAttributes} {data : Bytes} {w : World} {id : KeyId}

theorem keyRecord_cut (attr : KeyAttributes) (data : Bytes) :
    (keyRecord attr data).take keyHeaderLength = keyHeader attr data.length ∧
      (keyRecord attr data).drop keyHeaderLength = data := by
  unfold keyRecord
  rw [← length_keyHeader attr data.length]
  exact ⟨List.take_left, List.drop_left⟩

theorem HoldsRecord.opened (held : HoldsRecord backend good attr data w id) :
    (keyMap backend w).openRecord id = .ok (keyHeader attr data.length, data) := by
  have present : (keyMap backend w).records id = some (keyRecord attr data) := held.record
  obtain ⟨front, back⟩ := keyRecord_cut attr data
  unfold KeyMap.openRecord
  rw [present]
  dsimp only
  rw [if_neg (by rw [length_keyRecord]; omega), front, back]

theorem HoldsRecord.find (held : HoldsRecord backend good attr data w id) :
    (keyMap backend w).find id = none := held.visible

/-- The data length field of a record says how long its data is. -/
theorem dataLength_eq (attr : KeyAttributes) (bound : data.length ≤ intMax) :
    keyHeaderDataLength (keyHeader attr data.length) = data.length := by
  refine keyHeaderDataLength_keyHeader attr ?_
  unfold intMax at bound
  omega

theorem validLength (nonempty : data ≠ []) (bound : data.length ≤ intMax) :
    wolfpsaValidateStoredKeyDataLength data.length = .success := by
  have positive := List.length_pos_iff.mpr nonempty
  unfold wolfpsaValidateStoredKeyDataLength
  rw [if_neg (by omega)]

theorem recordData_whole (attr : KeyAttributes) (nonempty : data ≠ [])
    (bound : data.length ≤ intMax) :
    KeyMap.recordData (keyHeader attr data.length) data = .ok data := by
  unfold KeyMap.recordData
  rw [dataLength_eq attr bound]
  dsimp only
  rw [if_neg (not_not.mpr (validLength nonempty bound)), if_neg (by omega), List.take_length]

/-- The attributes a record holds. -/
def recordAttributes (attr : KeyAttributes) : KeyAttributes :=
  { attr with alg2 := psaAlgNone, id := psaKeyIdNull }

theorem getKeyData_whole (held : HoldsRecord backend good attr data w id) (nonempty : data ≠ [])
    (bound : data.length ≤ intMax) :
    (keyMap backend w).getKeyData id = .ok (recordAttributes attr, data) := by
  unfold KeyMap.getKeyData
  rw [held.find, held.opened]
  dsimp only
  rw [recordData_whole attr nonempty bound, deserialize_keyHeader]
  rfl

theorem getKeyAttributes_whole (held : HoldsRecord backend good attr data w id) :
    (keyMap backend w).getKeyAttributes id = .ok { recordAttributes attr with id := id } := by
  unfold KeyMap.getKeyAttributes
  rw [held.find, held.opened]
  dsimp only
  rw [deserialize_keyHeader]
  rfl

theorem exportKey_whole (held : HoldsRecord backend good attr data w id) (nonempty : data ≠ [])
    (bound : data.length ≤ intMax) (exportable : attr.usage &&& psaKeyUsageExport ≠ 0)
    {dataSize : Nat} (fits : data.length ≤ dataSize) :
    (keyMap backend w).exportKey id dataSize = .ok data := by
  unfold KeyMap.exportKey
  rw [held.find, held.opened]
  dsimp only
  unfold KeyMap.exportRecord
  rw [dataLength_eq attr bound, deserialize_keyHeader]
  dsimp only
  rw [if_neg exportable, if_neg (not_not.mpr (validLength nonempty bound)),
    if_neg (Nat.not_lt.mpr fits), if_neg (by omega), List.take_length]

/-- A request for the policy of the key, with its type and size given or left open. -/
structure SamePolicy (attr requested : KeyAttributes) : Prop where
  type : requested.type = 0 ∨ requested.type = attr.type
  bits : requested.bits = 0 ∨ requested.bits = attr.bits
  usage : requested.usage = attr.usage
  alg : requested.alg = attr.alg
  alg2 : requested.alg2 = psaAlgNone
  lifetime : requested.lifetime = attr.lifetime

theorem copyKeyAttributes_same {requested : KeyAttributes} (same : SamePolicy attr requested)
    (copyable : attr.usage &&& psaKeyUsageCopy ≠ 0) :
    copyKeyAttributes (recordAttributes attr) requested =
      .ok { attr with alg2 := psaAlgNone, id := requested.id } := by
  obtain ⟨type, bits, usage, alg, alg2, lifetime⟩ := same
  have met : wolfpsaAlgIntersect attr.alg requested.alg = some attr.alg := by
    rw [alg]
    simp [wolfpsaAlgIntersect]
  have met2 : wolfpsaAlg2Intersect psaAlgNone requested.alg2 = some psaAlgNone := by
    simp [wolfpsaAlg2Intersect]
  have typed : (if requested.type = 0 then attr.type else requested.type) = attr.type := by
    rcases type with unset | given
    · rw [if_pos unset]
    · rw [given, ite_self]
  have sized : (if requested.bits = 0 then attr.bits else requested.bits) = attr.bits := by
    rcases bits with unset | given
    · rw [if_pos unset]
    · rw [given, ite_self]
  unfold copyKeyAttributes recordAttributes
  dsimp only
  rw [if_neg copyable, if_neg (fun wrong => type.elim wrong.1 wrong.2),
    if_neg (fun wrong => bits.elim wrong.1 wrong.2), met, met2]
  dsimp only
  rw [if_neg (not_not.mpr lifetime), typed, sized, usage, lifetime, BitVec.and_self]

/-- A record does not hold the identifier. -/
theorem keyRecord_of_id (attr : KeyAttributes) (data : Bytes) (id : KeyId) :
    keyRecord { attr with alg2 := psaAlgNone, id := id } data = keyRecord attr data := rfl

theorem copyKey_whole {requested : KeyAttributes} (held : HoldsRecord backend good attr data w id)
    (accepted : importCheck cfg attributes data = .ok attr)
    (persistent : psaKeyLifetimeIsVolatile attributes.lifetime = false)
    (same : SamePolicy attr requested) (copyable : attr.usage &&& psaKeyUsageCopy ≠ 0)
    (named : requested.id ≠ psaKeyIdNull) (fresh : backend.record w requested.id = none) :
    (keyMap backend w).copyKey cfg id requested = ((.success, requested.id),
      (keyMap backend w).setRecord requested.id (some (keyRecord attr data))) := by
  obtain ⟨nonempty, bound, sized, noEnrollment⟩ := importCheck_ok accepted
  have lifetime : psaKeyLifetimeIsVolatile attr.lifetime = false := by
    rw [sized]
    exact persistent
  have alg2 : attr.alg2 = psaAlgNone := by
    rw [sized]
    exact noEnrollment persistent
  have again : importCheck cfg { attr with alg2 := psaAlgNone, id := requested.id } data =
      .ok { attr with alg2 := psaAlgNone, id := requested.id } := by
    rw [← alg2]
    exact importCheck_again accepted requested.id
  have absent : (keyMap backend w).records requested.id = none := fresh
  unfold KeyMap.copyKey
  rw [held.find, held.opened]
  dsimp only
  unfold KeyMap.copyData
  rw [deserialize_keyHeader, show ({ attr with alg2 := psaAlgNone, id := psaKeyIdNull } :
    KeyAttributes) = recordAttributes attr from rfl, copyKeyAttributes_same same copyable,
    recordData_whole attr nonempty bound]
  dsimp only
  unfold KeyMap.importKey
  rw [again]
  dsimp only
  rw [if_neg (by simp [lifetime, named])]
  unfold KeyMap.addKey
  dsimp only
  rw [if_neg (by simp [lifetime]), absent]
  dsimp only
  rw [keyRecord_of_id]

end

/-! ## Torn records -/

section

variable {backend : StoreBackend} {admitted : (Nat → Fault) → Prop} {attr : KeyAttributes}
  {data : Bytes} {w : World} {id : KeyId}

/-- What is in the store under `id` is a strict part of the record of a key: the first `n` bytes. -/
structure TornRecord (backend : StoreBackend) (attr : KeyAttributes) (data : Bytes) (w : World)
    (id : KeyId) (n : Nat) : Prop where
  visible : wolfpsaVolatileFind w id = none
  strict : n < (keyRecord attr data).length
  record : backend.record w id = some ((keyRecord attr data).take n)

/-- A torn record with a whole header announces more data than it has. -/
theorem TornRecord.short {n : Nat} {header rest : Bytes}
    (torn : TornRecord backend attr data w id n) (whole : header.length = keyHeaderLength)
    (cut : backend.record w id = some (header ++ rest)) :
    header = keyHeader attr data.length ∧ rest.length < data.length := by
  have parts : header ++ rest = (keyRecord attr data).take n :=
    Option.some.inj (cut.symm.trans torn.record)
  have strict := torn.strict
  have total := congrArg List.length parts
  rw [List.length_append, List.length_take, Nat.min_eq_left (Nat.le_of_lt strict), whole] at total
  rw [length_keyRecord] at strict
  refine ⟨?_, by omega⟩
  calc header = (header ++ rest).take keyHeaderLength := by rw [← whole, List.take_left]
    _ = (keyRecord attr data).take keyHeaderLength := by
      rw [parts, List.take_take, Nat.min_eq_left (by omega)]
    _ = keyHeader attr data.length := (keyRecord_cut attr data).1

/-- The volatile list has nothing to say about the key. -/
private theorem volatileGet_missing (missing : wolfpsaVolatileFind w id = none)
    (faults : Nat → Fault) : keyHandler backend faults (.here (.volatileGet id)) w =
      (.error ⟨.invalidHandle, failing⟩, w) := by
  show (volatileGet (faults 0) w id, w) = _
  unfold volatileGet
  rw [missing]

variable {n : Nat} (steady : SteadyReads backend) (torn : TornRecord backend attr data w id n)
  (bound : data.length ≤ intMax)
include steady torn bound

/-- The read of the data of a torn record fails. -/
theorem readRecordData_torn {header : Bytes} {ctx : StoreCtx} (noTemp : ctx.hasTemp = false)
    (whole : header.length = keyHeaderLength)
    (cut : backend.record w id = some (header ++ ctx.rest)) :
    Triple (keyHandler backend) admitted (fun _ => True)
      (fun r s => s = w ∧ ∃ status, r = .error status) (readRecordData (header, ctx)) w := by
  obtain ⟨rfl, short⟩ := torn.short whole cut
  unfold readRecordData
  dsimp only
  rw [dataLength_eq attr bound]
  split
  · exact close_steady steady noTemp ⟨rfl, _, rfl⟩
  refine ⟨trivial, fun faults _ => ?_⟩
  show Triple _ _ _ _ (if !(!(faults 0).denied .keyData) then _ else _) w
  split
  · exact close_steady steady noTemp ⟨rfl, _, rfl⟩
  refine readClose_steady steady noTemp fun count _ _ => ?_
  rw [if_pos (by rw [List.length_take]; omega)]
  exact ⟨rfl, _, rfl⟩

theorem wolfpsaGetKeyDataOutputs_torn :
    Triple (keyHandler backend) admitted (fun _ => True)
      (fun o _ => o.status ≠ .success ∧ o.keyData = none ∧
        ((∀ faults, admitted faults → (faults 0).denied .keyData = false) → o.keyDataLength = 0))
      (wolfpsaGetKeyDataOutputs id) w := by
  refine ⟨trivial, fun init _ => ?_⟩
  show Triple _ _ _ _ (if (if (init 0).fails then (init 0).status.val else Status.success) ≠ .success
    then _ else _) w
  by_cases refused : (if (init 0).fails then (init 0).status.val else Status.success) ≠ .success
  · rw [if_pos refused]
    exact ⟨refused, rfl, fun _ => rfl⟩
  rw [if_neg refused]
  refine ⟨trivial, fun faults _ => ?_⟩
  rw [volatileGet_missing torn.visible]
  show Triple _ _ _ _ (openRecord id >>= _) w
  refine triple_bind_of (openRecord_steady steady id w) ?_
  rintro (status | ⟨header, ctx⟩) s ⟨rfl, opened⟩
  · exact ⟨status.property, rfl, fun _ => rfl⟩
  obtain ⟨noTemp, whole, cut⟩ := opened header ctx rfl
  obtain ⟨rfl, short⟩ := torn.short whole cut
  have positive : data ≠ [] := by
    rintro rfl
    simp at short
  dsimp only
  rw [dataLength_eq attr bound, if_neg (not_not.mpr (validLength positive bound))]
  refine ⟨trivial, fun alloc allowed => ?_⟩
  show Triple _ _ _ _ (if !(!(alloc 0).denied .keyData) then _ else _) s
  by_cases denied : (alloc 0).denied .keyData = true
  · -- the length stays as the header announced it
    rw [if_pos (by simp [denied])]
    refine close_steady steady noTemp ⟨nofun, rfl, fun granted => ?_⟩
    rw [granted alloc allowed] at denied
    cases denied
  rw [if_neg (by simp [denied])]
  refine readClose_steady steady noTemp fun count _ _ => ?_
  rw [if_pos (by rw [List.length_take]; omega)]
  exact ⟨nofun, rfl, fun _ => rfl⟩

/-- `buffer` holds what the caller put there, or zeros where key bytes were. -/
def NoKeyBytes (length : Nat) (buffer after : Bytes) : Prop :=
  after = buffer ∨ after = overwrite buffer (List.replicate length 0)

omit steady torn bound in
theorem overwrite_overwrite {buffer first second : Bytes} (longer : first.length ≤ second.length) :
    overwrite (overwrite buffer first) second = overwrite buffer second := by
  unfold overwrite
  rw [List.drop_append, List.drop_eq_nil_of_le longer, List.nil_append, List.drop_drop]
  congr 2
  omega

theorem psaExportKeyOutputs_torn (buffer : Bytes) :
    Triple (keyHandler backend) admitted (fun _ => True)
      (fun o _ => o.status ≠ .success ∧ NoKeyBytes data.length buffer o.data ∧ o.dataLength = 0)
      (psaExportKeyOutputs id buffer) w := by
  refine ⟨trivial, fun init _ => ?_⟩
  show Triple _ _ _ _ (if (if (init 0).fails then (init 0).status.val else Status.success) ≠ .success
    then _ else _) w
  by_cases refused : (if (init 0).fails then (init 0).status.val else Status.success) ≠ .success
  · rw [if_pos refused]
    exact ⟨refused, .inl rfl, rfl⟩
  rw [if_neg refused]
  refine ⟨trivial, fun faults _ => ?_⟩
  rw [volatileGet_missing torn.visible]
  show Triple _ _ _ _ (openRecord id >>= _) w
  refine triple_bind_of (openRecord_steady steady id w) ?_
  rintro (status | ⟨header, ctx⟩) s ⟨rfl, opened⟩
  · exact ⟨status.property, .inl rfl, rfl⟩
  obtain ⟨noTemp, whole, cut⟩ := opened header ctx rfl
  obtain ⟨rfl, short⟩ := torn.short whole cut
  dsimp only
  rw [dataLength_eq attr bound]
  split
  · exact close_steady steady noTemp ⟨nofun, .inl rfl, rfl⟩
  split
  · exact close_steady steady noTemp ⟨nofun, .inl rfl, rfl⟩
  split
  · exact close_steady steady noTemp ⟨nofun, .inl rfl, rfl⟩
  refine readClose_steady steady noTemp fun count _ _ => ?_
  have partly : (ctx.rest.take count).length < data.length := by
    rw [List.length_take]
    omega
  rw [if_pos (Nat.ne_of_lt partly)]
  refine ⟨nofun, .inr ?_, rfl⟩
  exact overwrite_overwrite (by rw [List.length_replicate]; exact Nat.le_of_lt partly)

omit bound in
private theorem psaGetKeyAttributes_still :
    Triple (keyHandler backend) admitted (fun _ => True) (fun _ s => s = w)
      (psaGetKeyAttributes id) w := by
  refine ⟨trivial, fun init _ => ?_⟩
  show Triple _ _ _ _ (if _ : _ then _ else _) w
  split
  · rfl
  refine ⟨trivial, fun faults _ => ?_⟩
  have missed : keyHandler backend faults (.here (.volatileGetAttributes id)) w =
      (.error ⟨.invalidHandle, failing⟩, w) := by
    simp only [keyHandler, localHandler, torn.visible]
  rw [missed]
  show Triple _ _ _ _ (openRecord id >>= _) w
  refine triple_bind_of (openRecord_steady steady id w) ?_
  rintro (status | ⟨header, ctx⟩) s ⟨rfl, opened⟩
  · rfl
  · exact close_steady steady (opened header ctx rfl).1 rfl

theorem psaExportPublicKey_torn (publicKeyOf : PublicKeyOf) (dataSize : Nat) :
    Triple (keyHandler backend) admitted (fun _ => True) (fun r _ => ∃ status, r = .error status)
      (psaExportPublicKey publicKeyOf id dataSize) w := by
  refine ⟨trivial, fun init _ => ?_⟩
  show Triple _ _ _ _ (if _ : _ then _ else _) w
  split
  · exact ⟨_, rfl⟩
  refine ⟨trivial, fun faults _ => ?_⟩
  rw [volatileGet_missing torn.visible]
  show Triple _ _ _ _ (psaGetKeyAttributes id >>= _) w
  refine triple_bind_of (psaGetKeyAttributes_still steady torn) ?_
  rintro (status | attributes) s rfl
  · exact ⟨status, rfl⟩
  dsimp only
  split
  · exact ⟨_, rfl⟩
  refine triple_bind_of (openRecord_steady steady id s) ?_
  rintro (status | ⟨header, ctx⟩) s ⟨rfl, opened⟩
  · exact ⟨status, rfl⟩
  obtain ⟨noTemp, whole, cut⟩ := opened header ctx rfl
  refine triple_bind_of (readRecordData_torn steady torn bound noTemp whole cut) ?_
  rintro _ s' ⟨-, status, rfl⟩
  exact ⟨status, rfl⟩

theorem psaCopyKey_torn (cfg : ImportConfig) (requested : KeyAttributes) :
    Triple (keyHandler backend) admitted (fun _ => True)
      (fun r s => r.1 ≠ .success ∧ r.2 = psaKeyIdNull ∧ s = w) (psaCopyKey cfg id requested) w := by
  refine ⟨trivial, fun init _ => ?_⟩
  show Triple _ _ _ _ (if (if (init 0).fails then (init 0).status.val else Status.success) ≠ .success
    then _ else _) w
  by_cases refused : (if (init 0).fails then (init 0).status.val else Status.success) ≠ .success
  · rw [if_pos refused]
    exact ⟨refused, rfl, rfl⟩
  rw [if_neg refused]
  refine ⟨trivial, fun faults _ => ?_⟩
  rw [volatileGet_missing torn.visible]
  show Triple _ _ _ _ (openRecord id >>= _) w
  refine triple_bind_of (openRecord_steady steady id w) ?_
  rintro (status | ⟨header, ctx⟩) s ⟨rfl, opened⟩
  · exact ⟨status.property, rfl, rfl⟩
  obtain ⟨noTemp, whole, cut⟩ := opened header ctx rfl
  dsimp only
  split
  · rename_i status _
    exact close_steady steady noTemp ⟨status.property, rfl, rfl⟩
  refine triple_bind_of (readRecordData_torn steady torn bound noTemp whole cut) ?_
  rintro _ s' ⟨rfl, status, rfl⟩
  exact ⟨status.property, rfl, rfl⟩

end

/-! ## Round trip and truncation -/

/-- The run of a key call on a back end. -/
def runKey {α : Type} (backend : StoreBackend) (faults : Nat → Nat → Fault) (p : KeyProg α)
    (w : World) : α × World :=
  p.run (keyHandler backend) faults w

/-- Every reader gets the key back, the ones that the policy restricts as far as it lets them. -/
structure ReadsBack (backend : StoreBackend) (cfg : ImportConfig) (attr : KeyAttributes)
    (data : Bytes) (w : World) (id : KeyId) (faults : Nat → Nat → Fault) : Prop where
  keyData : (runKey backend faults (wolfpsaGetKeyData id) w).1 = .ok (recordAttributes attr, data)
  attributes : (runKey backend faults (psaGetKeyAttributes id) w).1 =
    .ok { recordAttributes attr with id := id }
  exported : attr.usage &&& psaKeyUsageExport ≠ 0 → ∀ dataSize, data.length ≤ dataSize →
    (runKey backend faults (psaExportKey id dataSize) w).1 = .ok data
  copied : attr.usage &&& psaKeyUsageCopy ≠ 0 → ∀ requested, SamePolicy attr requested →
    requested.id ≠ psaKeyIdNull → backend.record w requested.id = none →
    (runKey backend faults (psaCopyKey cfg id requested) w).1 = (.success, requested.id) ∧
      backend.record (runKey backend faults (psaCopyKey cfg id requested) w).2 requested.id =
        some (keyRecord attr data)

/-- No reader of key data gets a byte of a torn record. -/
structure ReadsNothing (backend : StoreBackend) (attr : KeyAttributes) (data : Bytes) (w : World)
    (id : KeyId) (faults : Nat → Nat → Fault) : Prop where
  keyData : (runKey backend faults (wolfpsaGetKeyDataOutputs id) w).1.status ≠ .success ∧
    (runKey backend faults (wolfpsaGetKeyDataOutputs id) w).1.keyData = none
  keyDataLength : (∀ k n, (faults k n).denied .keyData = false) →
    (runKey backend faults (wolfpsaGetKeyDataOutputs id) w).1.keyDataLength = 0
  exported : ∀ buffer,
    (runKey backend faults (psaExportKeyOutputs id buffer) w).1.status ≠ .success ∧
      NoKeyBytes data.length buffer (runKey backend faults (psaExportKeyOutputs id buffer) w).1.data ∧
      (runKey backend faults (psaExportKeyOutputs id buffer) w).1.dataLength = 0
  exportedPublic : ∀ publicKeyOf dataSize, ∃ status,
    (runKey backend faults (psaExportPublicKey publicKeyOf id dataSize) w).1 = .error status
  copied : ∀ cfg requested,
    (runKey backend faults (psaCopyKey cfg id requested) w).1.1 ≠ .success ∧
      (runKey backend faults (psaCopyKey cfg id requested) w).1.2 = psaKeyIdNull ∧
      (runKey backend faults (psaCopyKey cfg id requested) w).2 = w

section

variable {backend : StoreBackend} {good : World → Prop} {cfg : ImportConfig}
  {attributes attr : KeyAttributes} {data : Bytes} {w : World} {id : KeyId}

theorem readsBack (shipped : ShippedStore backend good)
    (accepted : importCheck cfg attributes data = .ok attr)
    (persistent : psaKeyLifetimeIsVolatile attributes.lifetime = false)
    (fits : keyHeaderLength + data.length ≤ intMax)
    (held : HoldsRecord backend good attr data w id) {faults : Nat → Nat → Fault}
    (calm : ∀ n, CalmFaults (faults n)) : ReadsBack backend cfg attr data w id faults := by
  obtain ⟨nonempty, bound, -⟩ := importCheck_ok accepted
  have lawful := shipped.lawful
  constructor
  · have got := (wolfpsaGetKeyData_reads lawful held.good held.named).run calm
    exact got.1.trans (getKeyData_whole held nonempty bound)
  · have got := (psaGetKeyAttributes_reads lawful held.good held.named).run calm
    exact got.1.trans (getKeyAttributes_whole held)
  · intro exportable dataSize large
    have got := (psaExportKey_reads lawful dataSize held.good held.named).run calm
    exact got.1.trans (exportKey_whole held nonempty bound exportable large)
  · intro copyable requested same named fresh
    have small (found : KeyAttributes) (bytes : Bytes)
        (got : (keyMap backend w).getKeyData id = .ok (found, bytes)) :
        keyHeaderLength + bytes.length ≤ intMax := by
      rw [getKeyData_whole held nonempty bound] at got
      cases got
      exact fits
    have spec : Moves backend good w _ (psaCopyKey cfg id requested) :=
      psaCopyKey_moves lawful held.good held.named small
    obtain ⟨answered, moved, -⟩ := spec.run calm
    rw [copyKey_whole held accepted persistent same copyable named fresh] at answered moved
    refine ⟨answered, ?_⟩
    have records := congrArg (fun m => m.records requested.id) moved
    exact records.trans (Function.update_self _ _ _)

theorem readsNothing {n : Nat} (shipped : ShippedStore backend good)
    (torn : TornRecord backend attr data w id n) (bound : data.length ≤ intMax)
    (faults : Nat → Nat → Fault) : ReadsNothing backend attr data w id faults := by
  have steady := shipped.steady
  constructor
  · have left := (wolfpsaGetKeyDataOutputs_torn steady torn bound).run_every faults
    exact ⟨left.1, left.2.1⟩
  · intro granted
    have spec : Triple (keyHandler backend) (fun f => (f 0).denied .keyData = false) _ _ _ w :=
      wolfpsaGetKeyDataOutputs_torn steady torn bound
    exact (spec.run fun k => granted k 0).2.2 fun _ allowed => allowed
  · exact fun buffer => (psaExportKeyOutputs_torn steady torn bound buffer).run_every faults
  · exact fun publicKeyOf dataSize =>
      (psaExportPublicKey_torn steady torn bound publicKeyOf dataSize).run_every faults
  · exact fun cfg requested => (psaCopyKey_torn steady torn bound cfg requested).run_every faults

/-- What a persistent import that succeeds does to the map. -/
theorem importKey_persistent {m : KeyMap}
    (persistent : psaKeyLifetimeIsVolatile attributes.lifetime = false)
    (stored : (m.importKey cfg attributes data).1 = (.success, id)) :
    ∃ attr, importCheck cfg attributes data = .ok attr ∧ id ≠ psaKeyIdNull ∧
      (m.importKey cfg attributes data).2.records id = some (keyRecord attr data) ∧
      (m.importKey cfg attributes data).2.volatileKeys = m.volatileKeys := by
  -- an identifier that is not null and a record that is not there yet
  have added (m' : KeyMap) (attr : KeyAttributes) (id' : KeyId)
      (lifetime : psaKeyLifetimeIsVolatile attr.lifetime = false) (named : id' ≠ psaKeyIdNull)
      (stored : (m'.addKey attr data id').1 = (.success, id)) :
      id ≠ psaKeyIdNull ∧ (m'.addKey attr data id').2.records id = some (keyRecord attr data) ∧
        (m'.addKey attr data id').2.volatileKeys = m'.volatileKeys := by
    unfold KeyMap.addKey at stored ⊢
    rw [if_neg (by simp [lifetime])] at stored ⊢
    split at stored
    · simp at stored
    · simp only [Prod.mk.injEq, true_and] at stored
      subst stored
      exact ⟨named, Function.update_self _ _ _, rfl⟩
  unfold KeyMap.importKey at stored ⊢
  cases accepted : importCheck cfg attributes data with
  | error status =>
    rw [accepted] at stored
    exact absurd (congrArg Prod.fst stored) status.property
  | ok attr =>
    rw [accepted] at stored
    have lifetime : psaKeyLifetimeIsVolatile attr.lifetime = false := by
      rw [(importCheck_ok accepted).2.2.1]
      exact persistent
    refine ⟨attr, rfl, ?_⟩
    dsimp only at stored ⊢
    split at stored
    · rename_i assigns
      rw [if_pos assigns]
      split at stored
      · simp at stored
      rename_i left
      rw [if_neg left]
      have named : m.nextKeyId ≠ psaKeyIdNull := by
        intro null
        exact left (.inl (by rw [null]; decide))
      exact added _ attr _ lifetime named stored
    · rename_i given
      rw [if_neg given]
      exact added m attr _ lifetime (by rintro null; simp [null] at given) stored

end

/-- The 128-bit AES key of a witness, exportable and copyable. -/
def openAesKey : KeyAttributes :=
  { persistentAesKey with usage := psaKeyUsageExport ||| psaKeyUsageCopy }

end WolfPSA.Guarantees
