import WolfPSA.Source.KeyThreads

/-!
# Keys as a map

What the calls of `src/psa_key_storage.c` are for, said over a map from key identifiers to records:
each call is a function of the map. A store back end that keeps a few laws when nothing fails makes
every call answer as that function does.
-/

namespace WolfPSA.Source
open Lib Prog

/-! ## The map -/

/-- The keys of a process: its counter, its volatile keys and the persistent records. -/
structure KeyMap where
  nextKeyId : KeyId
  volatileKeys : List VolatileKey
  records : KeyId → Option Bytes

namespace KeyMap

def find (m : KeyMap) (id : KeyId) : Option VolatileKey :=
  m.volatileKeys.find? fun node => node.id == id

/-- The map with one record written or, for `none`, removed. -/
def setRecord (m : KeyMap) (id : KeyId) (content : Option Bytes) : KeyMap :=
  { m with records := Function.update m.records id content }

/-- The volatile key of `id` as `wolfpsa_volatile_get` hands it out. -/
def volatileKey (node : VolatileKey) : Except Failure (KeyAttributes × Bytes) :=
  if node.data = [] then .error ⟨.dataInvalid, failing⟩ else .ok (node.attributes, node.data)

/-- The record of `id`, cut behind its header. -/
def openRecord (m : KeyMap) (id : KeyId) : Except Failure (Bytes × Bytes) :=
  match m.records id with
  | none => .error ⟨.invalidHandle, failing⟩
  | some record =>
    if record.length < keyHeaderLength then .error ⟨.storageFailure, failing⟩
    else .ok (record.take keyHeaderLength, record.drop keyHeaderLength)

/-- The key data behind a header. -/
def recordData (header rest : Bytes) : Except Failure Bytes :=
  let length := keyHeaderDataLength header
  if wolfpsaValidateStoredKeyDataLength length ≠ .success then .error ⟨.dataInvalid, failing⟩
  else if rest.length < length then .error ⟨.storageFailure, failing⟩
  else .ok (rest.take length)

def getKeyData (m : KeyMap) (id : KeyId) : Except Failure (KeyAttributes × Bytes) :=
  match m.find id with
  | some node => volatileKey node
  | none =>
    match m.openRecord id with
    | .error status => .error status
    | .ok (header, rest) =>
      match recordData header rest with
      | .error status => .error status
      | .ok data => .ok (psaKeyAttributesDeserialize header, data)

def getKeyAttributes (m : KeyMap) (id : KeyId) : Except Failure KeyAttributes :=
  match m.find id with
  | some node => .ok { node.attributes with id := id }
  | none =>
    match m.openRecord id with
    | .error status => .error status
    | .ok (header, _) => .ok { psaKeyAttributesDeserialize header with id := id }

/-- A key handed out into a buffer of `dataSize` bytes. -/
def exportData (attributes : KeyAttributes) (data : Bytes) (dataSize : Nat) :
    Except Failure Bytes :=
  if attributes.usage &&& psaKeyUsageExport = 0 then .error ⟨.notPermitted, failing⟩
  else if dataSize < data.length then .error ⟨.bufferTooSmall, failing⟩
  else .ok data

def exportRecord (header rest : Bytes) (dataSize : Nat) : Except Failure Bytes :=
  let length := keyHeaderDataLength header
  if (psaKeyAttributesDeserialize header).usage &&& psaKeyUsageExport = 0 then
    .error ⟨.notPermitted, failing⟩
  else if wolfpsaValidateStoredKeyDataLength length ≠ .success then
    .error ⟨.dataInvalid, failing⟩
  else if dataSize < length then .error ⟨.bufferTooSmall, failing⟩
  else if rest.length < length then .error ⟨.storageFailure, failing⟩
  else .ok (rest.take length)

def exportKey (m : KeyMap) (id : KeyId) (dataSize : Nat) : Except Failure Bytes :=
  match m.find id with
  | some node =>
    match volatileKey node with
    | .error status => .error status
    | .ok (attributes, data) => exportData attributes data dataSize
  | none =>
    match m.openRecord id with
    | .error status => .error status
    | .ok (header, rest) => exportRecord header rest dataSize

/-- A new key under `id`; an identifier that is taken is refused. -/
def addKey (m : KeyMap) (attr : KeyAttributes) (data : Bytes) (id : KeyId) :
    (Status × KeyId) × KeyMap :=
  if psaKeyLifetimeIsVolatile attr.lifetime then
    if (m.find id).isSome then ((.alreadyExists, psaKeyIdNull), m)
    else ((.success, id), { m with volatileKeys := ⟨id, attr, data⟩ :: m.volatileKeys })
  else
    match m.records id with
    | some _ => ((.alreadyExists, psaKeyIdNull), m)
    | none => ((.success, id), m.setRecord id (some (keyRecord attr data)))

def importKey (cfg : ImportConfig) (m : KeyMap) (attributes : KeyAttributes) (data : Bytes) :
    (Status × KeyId) × KeyMap :=
  match importCheck cfg attributes data with
  | .error status => ((status.val, psaKeyIdNull), m)
  | .ok attr =>
    if psaKeyLifetimeIsVolatile attr.lifetime || attr.id == psaKeyIdNull then
      if m.nextKeyId < psaKeyIdVendorMin ∨ m.nextKeyId > psaKeyIdVendorMax then
        ((.insufficientStorage, psaKeyIdNull), m)
      else addKey { m with nextKeyId := m.nextKeyId + 1 } attr data m.nextKeyId
    else addKey m attr data attr.id

def destroyKey (m : KeyMap) (id : KeyId) : Status × KeyMap :=
  if id = psaKeyIdNull then (.success, m)
  else if (m.find id).isSome then
    (.success, { m with volatileKeys := m.volatileKeys.eraseP fun node => node.id == id })
  else
    match m.records id with
    | none => (.invalidHandle, m)
    | some _ => (.success, m.setRecord id none)

/-- The copy of a key at hand. -/
def copyData (cfg : ImportConfig) (m : KeyMap) (attributes requested : KeyAttributes)
    (data : Except Failure Bytes) : (Status × KeyId) × KeyMap :=
  match copyKeyAttributes attributes requested with
  | .error status => ((status.val, psaKeyIdNull), m)
  | .ok copy =>
    match data with
    | .error status => ((status.val, psaKeyIdNull), m)
    | .ok data => importKey cfg m copy data

def copyKey (cfg : ImportConfig) (m : KeyMap) (source : KeyId) (requested : KeyAttributes) :
    (Status × KeyId) × KeyMap :=
  match m.find source with
  | some node =>
    match volatileKey node with
    | .error status => ((status.val, psaKeyIdNull), m)
    | .ok (attributes, data) => copyData cfg m attributes requested (.ok data)
  | none =>
    match m.openRecord source with
    | .error status => ((status.val, psaKeyIdNull), m)
    | .ok (header, rest) =>
      copyData cfg m (psaKeyAttributesDeserialize header) requested (recordData header rest)

/-- Every key of the map has a record of an `int` length. -/
structure Small (m : KeyMap) : Prop where
  volatile : ∀ node ∈ m.volatileKeys, keyHeaderLength + node.data.length ≤ intMax
  records : ∀ id record, m.records id = some record → record.length ≤ intMax

namespace Small

variable {m : KeyMap} (small : m.Small)
include small

theorem getKeyData {id : KeyId} {attributes : KeyAttributes} {data : Bytes}
    (got : m.getKeyData id = .ok (attributes, data)) :
    keyHeaderLength + data.length ≤ intMax := by
  unfold KeyMap.getKeyData at got
  split at got
  · rename_i node found
    have member := List.mem_of_find?_eq_some found
    unfold KeyMap.volatileKey at got
    split at got
    · cases got
    · cases got
      exact small.volatile node member
  split at got
  · cases got
  rename_i header rest opened
  split at got
  · cases got
  rename_i bytes read
  cases got
  unfold openRecord at opened
  split at opened
  · cases opened
  rename_i record present
  have bound := small.records id record present
  split at opened
  · cases opened
  cases opened
  unfold KeyMap.recordData at read
  dsimp only at read
  split at read
  · cases read
  split at read
  · cases read
  cases read
  rw [List.length_take, List.length_drop]
  omega

theorem setRecord {id : KeyId} {content : Option Bytes}
    (fits : ∀ record, content = some record → record.length ≤ intMax) :
    (m.setRecord id content).Small := by
  refine ⟨small.volatile, fun other record present => ?_⟩
  unfold KeyMap.setRecord at present
  dsimp only at present
  by_cases same : other = id
  · subst same
    rw [Function.update_self] at present
    exact fits record present
  · rw [Function.update_of_ne same] at present
    exact small.records other record present

theorem addKey {attr : KeyAttributes} {data : Bytes} (id : KeyId)
    (fits : keyHeaderLength + data.length ≤ intMax) : (m.addKey attr data id).2.Small := by
  unfold KeyMap.addKey
  split
  · split
    · exact small
    · refine ⟨fun node member => ?_, small.records⟩
      rcases List.mem_cons.mp member with rfl | older
      · exact fits
      · exact small.volatile node older
  · split
    · exact small
    · refine small.setRecord fun record present => ?_
      rw [← Option.some.inj present, length_keyRecord]
      exact fits

theorem importKey {cfg : ImportConfig} {attributes : KeyAttributes} {data : Bytes}
    (fits : keyHeaderLength + data.length ≤ intMax) :
    (m.importKey cfg attributes data).2.Small := by
  unfold KeyMap.importKey
  split
  · exact small
  split
  · split
    · exact small
    · have counted : Small { m with nextKeyId := m.nextKeyId + 1 } :=
        ⟨small.volatile, small.records⟩
      exact counted.addKey _ fits
  · exact small.addKey _ fits

theorem copyData {cfg : ImportConfig} {attributes requested : KeyAttributes}
    {data : Except Failure Bytes}
    (fits : ∀ bytes, data = .ok bytes → keyHeaderLength + bytes.length ≤ intMax) :
    (m.copyData cfg attributes requested data).2.Small := by
  unfold KeyMap.copyData
  split
  · exact small
  split
  · exact small
  · exact small.importKey (fits _ rfl)

theorem copyKey {cfg : ImportConfig} {source : KeyId} {requested : KeyAttributes} :
    (m.copyKey cfg source requested).2.Small := by
  have fits (attributes : KeyAttributes) (data : Bytes)
      (got : m.getKeyData source = .ok (attributes, data)) := small.getKeyData got
  unfold KeyMap.getKeyData at fits
  unfold KeyMap.copyKey
  split
  · rename_i found
    rw [found] at fits
    split
    · exact small
    · rename_i got
      refine small.copyData fun bytes same => ?_
      cases same
      exact fits _ _ got
  · rename_i missing
    rw [missing] at fits
    split
    · exact small
    · rename_i opened
      rw [opened] at fits
      refine small.copyData fun bytes read => ?_
      dsimp only at fits
      rw [read] at fits
      exact fits _ _ rfl

theorem destroyKey (id : KeyId) : (m.destroyKey id).2.Small := by
  unfold KeyMap.destroyKey
  split
  · exact small
  split
  · exact ⟨fun node member => small.volatile node (List.mem_of_mem_eraseP member), small.records⟩
  split
  · exact small
  · exact small.setRecord (by simp)

end Small

end KeyMap

/-! ## Stores that keep the map -/

/-- No call of the environment fails. -/
def CalmFaults (faults : Nat → Fault) : Prop := ∀ n, Calm (faults n)

/-- The map a world holds through a back end. -/
def keyMap (backend : StoreBackend) (w : World) : KeyMap :=
  ⟨w.nextKeyId, w.volatileKeys, backend.record w⟩

/-- A handle for reading. -/
structure ReadHandle (ctx : StoreCtx) : Prop where
  reads : ctx.isWrite = false
  noTemp : ctx.hasTemp = false

/-- What a back end owes its callers when nothing fails, in the worlds that are `good` for it. The
three calls that write a record are one law: between them the back ends differ. -/
structure LawfulStore (backend : StoreBackend) (good : World → Prop) : Prop where
  /-- The records are in the files alone. -/
  frame : ∀ {w w' : World}, w'.files = w.files →
    backend.record w' = backend.record w ∧ (good w → good w')
  missing : ∀ {faults w id}, CalmFaults faults → good w → id ≠ psaKeyIdNull →
    backend.record w id = none →
    backend.call faults (.open id) w = (.error storeNotAvailable, w)
  found : ∀ {faults w id record}, CalmFaults faults → good w → id ≠ psaKeyIdNull →
    backend.record w id = some record →
    ∃ ctx, backend.call faults (.open id) w = (.ok ctx, w) ∧ ctx.rest = record ∧ ReadHandle ctx
  read : ∀ {faults w ctx n}, CalmFaults faults → ReadHandle ctx →
    backend.call faults (.read ctx n) w =
      ((ctx.rest.take n, { ctx with rest := ctx.rest.drop n }), w)
  closed : ∀ {faults w ctx}, CalmFaults faults → ReadHandle ctx →
    backend.call faults (.close ctx) w = (storeOk, w)
  writes : ∀ {w id buffer}, good w → id ≠ psaKeyIdNull → buffer ≠ [] → buffer.length ≤ intMax →
    ∀ faults, CalmFaults faults → ∀ n, ∃ ctx w₁,
      backend.call faults (.openSz id n) w = (.ok ctx, w₁) ∧
    ∀ faults, CalmFaults faults → ∃ ctx' w₂,
      backend.call faults (.write ctx buffer (toInt32 buffer.length)) w₁ =
        ((toInt32 buffer.length, ctx'), w₂) ∧
    ∀ faults, CalmFaults faults → ∃ w₃, backend.call faults (.close ctx') w₂ = (storeOk, w₃) ∧
      good w₃ ∧ keyMap backend w₃ = (keyMap backend w).setRecord id (some buffer)
  removes : ∀ {faults w id}, CalmFaults faults → good w → id ≠ psaKeyIdNull →
    backend.record w id ≠ none → ∃ w', backend.call faults (.remove id) w = (storeOk, w') ∧
      good w' ∧ keyMap backend w' = (keyMap backend w).setRecord id none
  removesNothing : ∀ {faults w id}, CalmFaults faults → good w → id ≠ psaKeyIdNull →
    backend.record w id = none → backend.call faults (.remove id) w = (storeNotAvailable, w)

/-! ## Calls on a lawful store -/

section

variable {backend : StoreBackend} {good : World → Prop} {cfg : ImportConfig} {w : World}

/-- The call reads: it answers with `r` and leaves the world alone. -/
abbrev Reads {α : Type} (backend : StoreBackend) (w : World) (r : α) (p : KeyProg α) : Prop :=
  Triple (keyHandler backend) CalmFaults (fun _ => True) (fun value s => value = r ∧ s = w) p w

/-- The call answers and moves the map as `r` says. -/
abbrev Moves {α : Type} (backend : StoreBackend) (good : World → Prop) (w : World)
    (r : α × KeyMap) (p : KeyProg α) : Prop :=
  Triple (keyHandler backend) CalmFaults (fun _ => True)
    (fun value s => value = r.1 ∧ keyMap backend s = r.2 ∧ good s) p w

/-- An action that answers `r` and leads to `w'` whatever the calm environment does. -/
theorem calm_act {α : Type} {a : KeyAct} {k : KeyRes a → KeyProg α} {post : α → World → Prop}
    {r : KeyRes a} {w' : World}
    (answer : ∀ faults, CalmFaults faults → keyHandler backend faults a w = (r, w'))
    (next : Triple (keyHandler backend) CalmFaults (fun _ => True) post (k r) w') :
    Triple (keyHandler backend) CalmFaults (fun _ => True) post (perform a >>= k) w := by
  refine ⟨trivial, fun faults calm => ?_⟩
  rw [answer faults calm]
  exact next

/-- A read is short exactly when the file is. -/
private theorem length_take_ne_iff (bytes : Bytes) (n : Nat) :
    (bytes.take n).length ≠ n ↔ bytes.length < n := by
  rw [List.length_take]
  omega

theorem calm_checkInit (faults : Nat → Fault) (calm : CalmFaults faults) :
    keyHandler backend faults (.here .checkInit) w = (.success, w) := by
  simp [keyHandler, localHandler, (calm 0).runs]

theorem calm_malloc (site : AllocSite) (faults : Nat → Fault) (calm : CalmFaults faults) :
    keyHandler backend faults (.here (.malloc site)) w = (true, w) := by
  simp [keyHandler, localHandler, (calm 0).allocates]

/-- `wolfpsa_volatile_get` without faults. -/
theorem calm_volatileGet (id : KeyId) (faults : Nat → Fault) (calm : CalmFaults faults) :
    keyHandler backend faults (.here (.volatileGet id)) w =
      (match (keyMap backend w).find id with
        | none => .error ⟨.invalidHandle, failing⟩
        | some node => KeyMap.volatileKey node, w) := by
  show (volatileGet (faults 0) w id, w) = _
  have same : (keyMap backend w).find id = wolfpsaVolatileFind w id := rfl
  unfold volatileGet KeyMap.volatileKey
  rw [same]
  cases wolfpsaVolatileFind w id with
  | none => rfl
  | some node => simp [(calm 0).runs]

/-- `wolfpsa_volatile_store` without faults. -/
theorem calm_volatileStore {data : Bytes} (id : KeyId) (attr : KeyAttributes)
    (nonempty : data ≠ []) (faults : Nat → Fault) (calm : CalmFaults faults) :
    keyHandler backend faults (.here (.volatileStore id attr data)) w =
      if ((keyMap backend w).find id).isSome then (.alreadyExists, w)
      else (.success, { w with volatileKeys := ⟨id, attr, data⟩ :: w.volatileKeys }) := by
  show volatileStore (faults 0) w id attr data = _
  have same : (keyMap backend w).find id = wolfpsaVolatileFind w id := rfl
  unfold volatileStore
  rw [if_neg nonempty, same]
  split
  · rfl
  · simp [(calm 0).runs]

theorem importVerdict_fits {n : Nat} (fits : keyHeaderLength + n ≤ intMax) (id : KeyId) :
    importVerdict (toInt32 (keyHeaderLength + n)) id n = (.success, id) := by
  rw [importVerdict_stored (by omega), if_pos fits]

theorem volatileKey_ne_invalidHandle {node : VolatileKey} {status : Failure}
    (refused : KeyMap.volatileKey node = .error status) : status.val ≠ .invalidHandle := by
  unfold KeyMap.volatileKey at refused
  split at refused
  · cases refused
    decide
  · cases refused

section

theorem LawfulStore.good_of_files (lawful : LawfulStore backend good) {w' : World} (holds : good w)
    (files : w'.files = w.files) : good w' :=
  (lawful.frame files).2 holds

/-- A world with the files of `w` holds its records. -/
theorem LawfulStore.keyMap_eq (lawful : LawfulStore backend good) {w' : World}
    (files : w'.files = w.files) :
    keyMap backend w' = ⟨w'.nextKeyId, w'.volatileKeys, backend.record w⟩ := by
  unfold keyMap
  rw [(lawful.frame files).1]

variable (lawful : LawfulStore backend good)
include lawful

theorem close_reads {α : Type} {ctx : StoreCtx} (handle : ReadHandle ctx) (value : α) :
    Reads backend w value (wolfPSAStoreClose ctx >>= fun _ => pure value) :=
  calm_act (fun _ calm => lawful.closed calm handle) ⟨rfl, rfl⟩

theorem openRecord_reads {id : KeyId} (holds : good w) (named : id ≠ psaKeyIdNull) :
    Triple (keyHandler backend) CalmFaults (fun _ => True)
      (fun r s => s = w ∧ match (keyMap backend w).openRecord id with
        | .error status => r = .error status
        | .ok (header, rest) => ∃ ctx, r = .ok (header, ctx) ∧ ctx.rest = rest ∧ ReadHandle ctx)
      (openRecord id) w := by
  unfold KeyMap.openRecord
  cases present : (keyMap backend w).records id with
  | none =>
    refine calm_act (fun _ calm => lawful.missing calm holds named present) ⟨rfl, ?_⟩
    simp [openFailure]
  | some record =>
    refine ⟨trivial, fun faults calm => ?_⟩
    obtain ⟨ctx, opened, content, handle⟩ := lawful.found calm holds named present
    rw [show keyHandler backend faults (.store (.open id)) w = (.ok ctx, w) from opened]
    refine calm_act (fun _ calm => lawful.read calm handle) ?_
    have cut := length_take_ne_iff record keyHeaderLength
    dsimp only
    rw [content]
    by_cases short : record.length < keyHeaderLength
    · rw [if_pos (cut.mpr short), if_pos short]
      exact calm_act (fun _ calm => lawful.closed calm ⟨handle.reads, handle.noTemp⟩) ⟨rfl, rfl⟩
    · rw [if_neg (fun long => short (cut.mp long)), if_neg short]
      exact ⟨rfl, _, rfl, rfl, handle.reads, handle.noTemp⟩

theorem readRecordData_reads {header : Bytes} {ctx : StoreCtx} (handle : ReadHandle ctx) :
    Reads backend w (KeyMap.recordData header ctx.rest) (readRecordData (header, ctx)) := by
  unfold readRecordData KeyMap.recordData
  dsimp only
  by_cases valid : wolfpsaValidateStoredKeyDataLength (keyHeaderDataLength header) = .success
  · rw [if_neg (not_not.mpr valid), if_neg (not_not.mpr valid)]
    refine calm_act (calm_malloc .keyData) ?_
    rw [if_neg (show ¬(!true) = true by decide)]
    refine calm_act (fun _ calm => lawful.read calm handle) ?_
    refine calm_act (fun _ calm => lawful.closed calm ⟨handle.reads, handle.noTemp⟩) ?_
    have cut := length_take_ne_iff ctx.rest (keyHeaderDataLength header)
    dsimp only
    by_cases short : ctx.rest.length < keyHeaderDataLength header
    · rw [if_pos (cut.mpr short), if_pos short]
      exact ⟨rfl, rfl⟩
    · rw [if_neg (fun long => short (cut.mp long)), if_neg short]
      exact ⟨rfl, rfl⟩
  · rw [if_pos valid, if_pos valid]
    exact close_reads lawful handle _

theorem wolfpsaGetKeyData_reads {id : KeyId} (holds : good w) (named : id ≠ psaKeyIdNull) :
    Reads backend w ((keyMap backend w).getKeyData id) (wolfpsaGetKeyData id) := by
  refine calm_act calm_checkInit ?_
  rw [dif_neg (by simp)]
  refine calm_act (calm_volatileGet id) ?_
  unfold KeyMap.getKeyData
  cases (keyMap backend w).find id with
  | some node =>
    dsimp only
    cases got : KeyMap.volatileKey node with
    | ok found => exact ⟨rfl, rfl⟩
    | error status =>
      dsimp only
      rw [if_pos (volatileKey_ne_invalidHandle got)]
      exact ⟨rfl, rfl⟩
  | none =>
    dsimp only
    rw [if_neg (by simp)]
    refine triple_bind_of (openRecord_reads lawful holds named) ?_
    rintro r s ⟨rfl, opened⟩
    cases found : (keyMap backend s).openRecord id with
    | error status =>
      rw [found] at opened
      subst opened
      exact ⟨rfl, rfl⟩
    | ok cut =>
      rw [found] at opened
      obtain ⟨ctx, rfl, content, handle⟩ := opened
      refine triple_bind_of (readRecordData_reads lawful handle) ?_
      rintro _ s' ⟨rfl, rfl⟩
      dsimp only
      rw [← content]
      cases KeyMap.recordData cut.1 ctx.rest with
      | error status => exact ⟨rfl, rfl⟩
      | ok data => exact ⟨rfl, rfl⟩

theorem psaGetKeyAttributes_reads {id : KeyId} (holds : good w) (named : id ≠ psaKeyIdNull) :
    Reads backend w ((keyMap backend w).getKeyAttributes id) (psaGetKeyAttributes id) := by
  refine calm_act calm_checkInit ?_
  rw [dif_neg (by simp)]
  refine calm_act (fun _ _ => rfl) ?_
  unfold KeyMap.getKeyAttributes
  have same : (keyMap backend w).find id = wolfpsaVolatileFind w id := rfl
  rw [same]
  cases wolfpsaVolatileFind w id with
  | some node => exact ⟨rfl, rfl⟩
  | none =>
    refine triple_bind_of (openRecord_reads lawful holds named) ?_
    rintro r s ⟨rfl, opened⟩
    cases found : (keyMap backend s).openRecord id with
    | error status =>
      rw [found] at opened
      subst opened
      exact ⟨rfl, rfl⟩
    | ok cut =>
      rw [found] at opened
      obtain ⟨ctx, rfl, -, handle⟩ := opened
      exact close_reads lawful handle _

theorem exportRecord_reads {header : Bytes} {ctx : StoreCtx} (dataSize : Nat)
    (handle : ReadHandle ctx) :
    Reads backend w (KeyMap.exportRecord header ctx.rest dataSize)
      (if (psaKeyAttributesDeserialize header).usage &&& psaKeyUsageExport = 0 then
        wolfPSAStoreClose ctx >>= fun _ => pure (.error ⟨.notPermitted, failing⟩)
      else if wolfpsaValidateStoredKeyDataLength (keyHeaderDataLength header) ≠ .success then
        wolfPSAStoreClose ctx >>= fun _ => pure (.error ⟨.dataInvalid, failing⟩)
      else if dataSize < keyHeaderDataLength header then
        wolfPSAStoreClose ctx >>= fun _ => pure (.error ⟨.bufferTooSmall, failing⟩)
      else
        wolfPSAStoreRead ctx (keyHeaderDataLength header) >>= fun data =>
          wolfPSAStoreClose data.2 >>= fun _ =>
            if data.1.length ≠ keyHeaderDataLength header then
              pure (.error ⟨.storageFailure, failing⟩)
            else pure (.ok data.1)) := by
  unfold KeyMap.exportRecord
  dsimp only
  split
  · exact close_reads lawful handle _
  split
  · exact close_reads lawful handle _
  split
  · exact close_reads lawful handle _
  refine calm_act (fun _ calm => lawful.read calm handle) ?_
  refine calm_act (fun _ calm => lawful.closed calm ⟨handle.reads, handle.noTemp⟩) ?_
  have cut := length_take_ne_iff ctx.rest (keyHeaderDataLength header)
  dsimp only
  by_cases short : ctx.rest.length < keyHeaderDataLength header
  · rw [if_pos (cut.mpr short), if_pos short]
    exact ⟨rfl, rfl⟩
  · rw [if_neg (fun long => short (cut.mp long)), if_neg short]
    exact ⟨rfl, rfl⟩

theorem psaExportKey_reads {id : KeyId} (dataSize : Nat) (holds : good w)
    (named : id ≠ psaKeyIdNull) :
    Reads backend w ((keyMap backend w).exportKey id dataSize) (psaExportKey id dataSize) := by
  refine calm_act calm_checkInit ?_
  rw [dif_neg (by simp)]
  refine calm_act (calm_volatileGet id) ?_
  unfold KeyMap.exportKey
  cases (keyMap backend w).find id with
  | some node =>
    dsimp only
    cases got : KeyMap.volatileKey node with
    | ok found =>
      obtain ⟨attributes, data⟩ := found
      dsimp only
      unfold KeyMap.exportData
      split
      · exact ⟨rfl, rfl⟩
      split
      · exact ⟨rfl, rfl⟩
      · exact ⟨rfl, rfl⟩
    | error status =>
      dsimp only
      rw [if_pos (volatileKey_ne_invalidHandle got)]
      exact ⟨rfl, rfl⟩
  | none =>
    dsimp only
    rw [if_neg (by simp)]
    refine triple_bind_of (openRecord_reads lawful holds named) ?_
    rintro r s ⟨rfl, opened⟩
    cases found : (keyMap backend s).openRecord id with
    | error status =>
      rw [found] at opened
      subst opened
      exact ⟨rfl, rfl⟩
    | ok cut =>
      rw [found] at opened
      obtain ⟨ctx, rfl, content, handle⟩ := opened
      dsimp only
      rw [← content]
      exact exportRecord_reads lawful dataSize handle

/-! ### Calls that move the map -/

theorem importPersistent_moves {attr : KeyAttributes} {data : Bytes} {id : KeyId}
    (holds : good w) (named : id ≠ psaKeyIdNull) (fits : keyHeaderLength + data.length ≤ intMax) :
    Triple (keyHandler backend) CalmFaults (fun _ => True)
      (fun r s => match (keyMap backend w).records id with
        | some _ => r = .error ⟨.alreadyExists, failing⟩ ∧ s = w
        | none => r = .ok (toInt32 (keyHeaderLength + data.length)) ∧ good s ∧
          keyMap backend s = (keyMap backend w).setRecord id (some (keyRecord attr data)))
      (importPersistent id attr data) w := by
  refine calm_act (fun _ _ => rfl) ?_
  cases present : (keyMap backend w).records id with
  | some record =>
    refine ⟨trivial, fun faults calm => ?_⟩
    obtain ⟨ctx, opened, -, handle⟩ := lawful.found calm holds named present
    rw [show keyHandler backend faults (.store (.open id)) w = (.ok ctx, w) from opened]
    refine calm_act (fun _ calm => lawful.closed calm handle) ?_
    exact calm_act (fun _ _ => rfl) ⟨rfl, rfl⟩
  | none =>
    refine calm_act (fun _ calm => lawful.missing calm holds named present) ?_
    dsimp only
    rw [if_neg (by simp)]
    have nonempty : keyRecord attr data ≠ [] := by
      intro empty
      have length := length_keyRecord attr data
      rw [empty, List.length_nil] at length
      simp [keyHeaderLength] at length
      omega
    have written := lawful.writes holds named nonempty
      (by rw [length_keyRecord]; exact fits)
    rw [length_keyRecord] at written
    refine ⟨trivial, fun faults calm => ?_⟩
    obtain ⟨ctx, w₁, opened, written⟩ := written faults calm data.length
    rw [show keyHandler backend faults (.store (.openSz id data.length)) w = (.ok ctx, w₁)
      from opened]
    refine ⟨trivial, fun faults calm => ?_⟩
    obtain ⟨ctx', w₂, wrote, written⟩ := written faults calm
    rw [show keyHandler backend faults (.store (.write ctx _ _)) w₁ = _ from wrote]
    refine ⟨trivial, fun faults calm => ?_⟩
    obtain ⟨w₃, closed, kept, moved⟩ := written faults calm
    rw [show keyHandler backend faults (.store (.close ctx')) w₂ = _ from closed]
    refine calm_act (fun _ _ => rfl) ?_
    exact ⟨by simp, kept, moved⟩

theorem importStore_moves (attr : KeyAttributes) {data : Bytes} {id : KeyId} (holds : good w)
    (named : id ≠ psaKeyIdNull) (nonempty : data ≠ [])
    (fits : keyHeaderLength + data.length ≤ intMax) :
    Moves backend good w ((keyMap backend w).addKey attr data id) (importStore attr data id) := by
  refine calm_act (calm_malloc .recordBuffer) ?_
  rw [if_neg (show ¬(!true) = true by decide)]
  unfold KeyMap.addKey
  split
  · -- the volatile list
    have answer (faults : Nat → Fault) (calm : CalmFaults faults) :
        keyHandler backend faults (.here (.volatileStore id attr data)) w = _ :=
      calm_volatileStore id attr nonempty faults calm
    by_cases taken : ((keyMap backend w).find id).isSome = true
    · simp only [if_pos taken] at answer ⊢
      exact calm_act answer ⟨rfl, rfl, holds⟩
    · simp only [if_neg taken] at answer ⊢
      exact calm_act answer ⟨importVerdict_fits fits id, lawful.keyMap_eq rfl,
        lawful.good_of_files holds rfl⟩
  · refine triple_bind_of (importPersistent_moves lawful holds named fits) ?_
    intro r s moved
    cases present : (keyMap backend w).records id with
    | some record =>
      rw [present] at moved
      obtain ⟨rfl, rfl⟩ := moved
      exact ⟨rfl, rfl, holds⟩
    | none =>
      rw [present] at moved
      obtain ⟨rfl, kept, same⟩ := moved
      exact ⟨importVerdict_fits fits id, same, kept⟩

theorem psaImportKey_moves {attributes : KeyAttributes} {data : Bytes} (holds : good w)
    (fits : keyHeaderLength + data.length ≤ intMax) :
    Moves backend good w ((keyMap backend w).importKey cfg attributes data)
      (psaImportKey cfg attributes data) := by
  unfold psaImportKey KeyMap.importKey
  cases accepted : importCheck cfg attributes data with
  | error status => exact ⟨rfl, rfl, holds⟩
  | ok attr =>
    have nonempty := (importCheck_ok accepted).1
    dsimp only
    refine calm_act calm_checkInit ?_
    rw [if_neg (show ¬Status.success ≠ .success by decide)]
    split
    · have counter : (keyMap backend w).nextKeyId = w.nextKeyId := rfl
      rw [counter]
      by_cases spent : w.nextKeyId < psaKeyIdVendorMin ∨ w.nextKeyId > psaKeyIdVendorMax
      · rw [if_pos spent]
        exact calm_act (fun faults _ => show keyHandler backend faults (.here .nextKeyId) w =
          (none, w) from if_pos spent) ⟨rfl, rfl, holds⟩
      · rw [if_neg spent]
        have named : w.nextKeyId ≠ psaKeyIdNull := by
          rintro null
          exact spent (.inl (by rw [null]; decide))
        have kept : good { w with nextKeyId := w.nextKeyId + 1 } := lawful.good_of_files holds rfl
        refine calm_act (fun faults _ => show keyHandler backend faults (.here .nextKeyId) w =
          (some w.nextKeyId, { w with nextKeyId := w.nextKeyId + 1 }) from if_neg spent) ?_
        have moved := importStore_moves lawful attr kept named nonempty fits
        have counted : keyMap backend { w with nextKeyId := w.nextKeyId + 1 } =
            { keyMap backend w with nextKeyId := w.nextKeyId + 1 } := lawful.keyMap_eq rfl
        rw [counted] at moved
        exact moved
    · rename_i given
      exact importStore_moves lawful attr holds (by rintro null; simp [null] at given) nonempty fits

theorem psaCopyKey_moves {source : KeyId} {requested : KeyAttributes} (holds : good w)
    (named : source ≠ psaKeyIdNull)
    (fits : ∀ attributes data, (keyMap backend w).getKeyData source = .ok (attributes, data) →
      keyHeaderLength + data.length ≤ intMax) :
    Moves backend good w ((keyMap backend w).copyKey cfg source requested)
      (psaCopyKey cfg source requested) := by
  refine calm_act calm_checkInit ?_
  rw [if_neg (show ¬Status.success ≠ .success by decide)]
  refine calm_act (calm_volatileGet source) ?_
  unfold KeyMap.copyKey
  unfold KeyMap.getKeyData at fits
  cases found : (keyMap backend w).find source with
  | some node =>
    rw [found] at fits
    dsimp only at fits ⊢
    cases got : KeyMap.volatileKey node with
    | error status =>
      dsimp only
      rw [if_pos (volatileKey_ne_invalidHandle got)]
      exact ⟨rfl, rfl, holds⟩
    | ok key =>
      dsimp only
      unfold KeyMap.copyData
      cases copyKeyAttributes key.1 requested with
      | error status => exact ⟨rfl, rfl, holds⟩
      | ok copy => exact psaImportKey_moves lawful holds (fits _ _ got)
  | none =>
    rw [found] at fits
    dsimp only at fits ⊢
    rw [if_neg (by simp)]
    refine triple_bind_of (openRecord_reads lawful holds named) ?_
    rintro r s ⟨rfl, opened⟩
    cases cut : (keyMap backend s).openRecord source with
    | error status =>
      rw [cut] at opened
      subst opened
      exact ⟨rfl, rfl, holds⟩
    | ok parts =>
      rw [cut] at opened fits
      obtain ⟨ctx, rfl, content, handle⟩ := opened
      dsimp only
      unfold KeyMap.copyData
      cases copyKeyAttributes (psaKeyAttributesDeserialize parts.1) requested with
      | error status =>
        exact calm_act (fun _ calm => lawful.closed calm handle) ⟨rfl, rfl, holds⟩
      | ok copy =>
        refine triple_bind_of (readRecordData_reads lawful handle) ?_
        rintro _ s' ⟨rfl, rfl⟩
        dsimp only
        rw [← content]
        cases read : KeyMap.recordData parts.1 ctx.rest with
        | error status => exact ⟨rfl, rfl, holds⟩
        | ok data =>
          dsimp only at fits
          rw [← content, read] at fits
          exact psaImportKey_moves lawful holds (fits _ _ rfl)

theorem psaDestroyKey_moves {id : KeyId} (holds : good w) :
    Moves backend good w ((keyMap backend w).destroyKey id) (psaDestroyKey id) := by
  unfold psaDestroyKey KeyMap.destroyKey
  by_cases null : id = psaKeyIdNull
  · rw [if_pos null, if_pos null]
    exact ⟨rfl, rfl, holds⟩
  rw [if_neg null, if_neg null]
  refine calm_act calm_checkInit ?_
  rw [if_neg (show ¬Status.success ≠ .success by decide)]
  have same : (keyMap backend w).find id = wolfpsaVolatileFind w id := rfl
  rw [same]
  by_cases linked : (wolfpsaVolatileFind w id).isSome = true
  · rw [if_pos linked]
    refine calm_act (fun faults _ =>
      show keyHandler backend faults (.here (.volatileRemove id)) w = _ from if_pos linked) ?_
    exact ⟨rfl, lawful.keyMap_eq rfl, lawful.good_of_files holds rfl⟩
  · rw [if_neg linked]
    refine calm_act (fun faults _ =>
      show keyHandler backend faults (.here (.volatileRemove id)) w = _ from if_neg linked) ?_
    rw [if_neg (show ¬Status.invalidHandle = .success by decide)]
    cases present : (keyMap backend w).records id with
    | none =>
      exact calm_act (fun _ calm => lawful.removesNothing calm holds null present)
        ⟨rfl, rfl, holds⟩
    | some record =>
      refine ⟨trivial, fun faults calm => ?_⟩
      obtain ⟨w', removed, kept, moved⟩ := lawful.removes calm holds null
        (show backend.record w id ≠ none by
          rw [show backend.record w id = some record from present]
          simp)
      rw [show keyHandler backend faults (.store (.remove id)) w = (storeOk, w') from removed]
      exact ⟨rfl, moved, kept⟩

end

end

end WolfPSA.Source
