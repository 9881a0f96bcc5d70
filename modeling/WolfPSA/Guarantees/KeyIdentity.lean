import WolfPSA.Guarantees.KeyCreation
import WolfPSA.Lib.Trace

/-!
# One meaning for every key identifier

Volatile identifiers come from a counter over the vendor range that restarts with the process;
persistent identifiers come from the caller. The two never meet as long as callers keep out of the
vendor range, which `psa_import_key` does not check.
-/

namespace WolfPSA.Guarantees
open Lib Source Prog

variable {store : StoreConfig} {cfg : ImportConfig} {admitted : Fault → Prop}

/-! ## The key an identifier names -/

/-- In `s`, `id` names one key, whether the volatile list or the store holds it. -/
inductive NamesOnly (store : StoreConfig) (s : World) (id : KeyId) (attr : KeyAttributes)
    (data : Bytes) : Prop
  | volatile {older : List VolatileKey} (linked : s.volatileKeys = ⟨id, attr, data⟩ :: older)
      (fresh : older.find? (fun node => node.id == id) = none)
      (absent : storedRecord store s id = none)
  | persistent (usable : StoreUsable store) (missing : wolfpsaVolatileFind s id = none)
      (record : storedRecord store s id = some (keyRecord attr data))
      (unenrolled : attr.alg2 = psaAlgNone)

/-- What the three calls on `id` do when they act on the key `attr`, `data` and on no other: what
they report is that key, what they remove is that key, and nothing but the environment makes them
fail. -/
structure ActsOn (store : StoreConfig) (s : World) (id : KeyId) (attr : KeyAttributes)
    (data : Bytes) : Prop where
  attributes : ∀ faults found, (runOn store faults (psaGetKeyAttributes id) s).1 = .ok found →
    found = { attr with id := id }
  exported : ∀ faults size bytes, (runOn store faults (psaExportKey id size) s).1 = .ok bytes →
    bytes = data
  destroyed : ∀ faults, (runOn store faults (psaDestroyKey id) s).1 = .success →
    wolfpsaVolatileFind (runOn store faults (psaDestroyKey id) s).2 id = none ∧
    storedRecord store (runOn store faults (psaDestroyKey id) s).2 id = none ∧
    ∀ other ≠ id,
      wolfpsaVolatileFind (runOn store faults (psaDestroyKey id) s).2 other =
        wolfpsaVolatileFind s other ∧
      storedRecord store (runOn store faults (psaDestroyKey id) s).2 other =
        storedRecord store s other
  answers : ∀ faults, (∀ n, Calm (faults n)) →
    (runOn store faults (psaGetKeyAttributes id) s).1 = .ok { attr with id := id } ∧
    (∀ size, attr.usage &&& psaKeyUsageExport ≠ 0 → data.length ≤ size →
      (runOn store faults (psaExportKey id size) s).1 = .ok data) ∧
    (runOn store faults (psaDestroyKey id) s).1 = .success

section

variable {s : World} {id : KeyId} {attr : KeyAttributes} {data : Bytes}

private theorem find_head {older : List VolatileKey}
    (linked : s.volatileKeys = ⟨id, attr, data⟩ :: older) :
    wolfpsaVolatileFind s id = some ⟨id, attr, data⟩ := by
  simp [wolfpsaVolatileFind, linked]

private theorem recordRead_keyRecord {header rest : Bytes}
    (record : storedRecord store s id = some (keyRecord attr data))
    (read : RecordRead store s id header rest) :
    header = keyHeader attr data.length ∧ rest = data := by
  have same : header ++ rest = keyHeader attr data.length ++ data :=
    Option.some.inj (read.record.symm.trans record)
  exact List.append_inj same (by rw [read.header, length_keyHeader])

private theorem deserialize_with_id (unenrolled : attr.alg2 = psaAlgNone) :
    { psaKeyAttributesDeserialize (keyHeader attr data.length) with id := id } =
      { attr with id := id } := by
  rw [deserialize_keyHeader, ← unenrolled]

private theorem keyDataLength_eq (bound : data.length ≤ intMax) :
    keyHeaderDataLength (keyHeader attr data.length) = data.length :=
  keyHeaderDataLength_keyHeader attr (Nat.lt_of_le_of_lt bound (by decide))

private theorem namesOnly_attributes (names : NamesOnly store s id attr data)
    (faults : Nat → Fault) {found : KeyAttributes}
    (granted : (runOn store faults (psaGetKeyAttributes id) s).1 = .ok found) :
    found = { attr with id := id } := by
  obtain ⟨-, answer⟩ := runOn_post (psaGetKeyAttributes_spec store s id) faults
  rcases answer found granted with ⟨node, present, rfl⟩ | ⟨absent, header, rest, read, rfl⟩
  · cases names with
    | volatile linked =>
      rw [find_head linked] at present
      rw [← Option.some.inj present]
    | persistent _ missing =>
      rw [missing] at present
      cases present
  · cases names with
    | volatile linked =>
      rw [find_head linked] at absent
      cases absent
    | persistent _ _ record unenrolled =>
      rw [(recordRead_keyRecord record read).1]
      exact deserialize_with_id unenrolled

private theorem namesOnly_exported (names : NamesOnly store s id attr data)
    (bound : data.length ≤ intMax) (faults : Nat → Fault) {size : Nat} {bytes : Bytes}
    (granted : (runOn store faults (psaExportKey id size) s).1 = .ok bytes) : bytes = data := by
  obtain ⟨-, answer⟩ := runOn_post (psaExportKey_spec store s id size) faults
  obtain ⟨attributes, found, -⟩ := answer bytes granted
  cases found with
  | volatile present _ same =>
    cases names with
    | volatile linked =>
      rw [find_head linked] at present
      rw [same, ← Option.some.inj present]
    | persistent _ missing =>
      rw [missing] at present
      cases present
  | persistent absent read _ taken =>
    cases names with
    | volatile linked =>
      rw [find_head linked] at absent
      cases absent
    | persistent _ _ record =>
      obtain ⟨rfl, rfl⟩ := recordRead_keyRecord record read
      rw [taken.taken, keyDataLength_eq bound, List.take_length]

/-- Unlinking the node of `id` leaves the look-ups of other identifiers alone. -/
private theorem find_eraseP_other {keys : List VolatileKey} {other : KeyId} (different : other ≠ id) :
    (keys.eraseP fun node => node.id == id).find? (fun node => node.id == other) =
      keys.find? fun node => node.id == other := by
  induction keys with
  | nil => rfl
  | cons node older ih =>
    by_cases here : node.id = id
    · have skipped : (node.id == other) = false := by simpa [here] using different.symm
      rw [List.eraseP_cons_of_pos (by simpa using here), List.find?_cons, skipped]
    · rw [List.eraseP_cons_of_neg (by simpa using here), List.find?_cons, List.find?_cons, ih]

private theorem destroyOutcome_only {s' : World} (names : NamesOnly store s id attr data)
    (named : id ≠ psaKeyIdNull) (outcome : DestroyOutcome store id s .success s') :
    wolfpsaVolatileFind s' id = none ∧ storedRecord store s' id = none ∧
      ∀ other ≠ id, wolfpsaVolatileFind s' other = wolfpsaVolatileFind s other ∧
        storedRecord store s' other = storedRecord store s other := by
  unfold wolfpsaVolatileFind
  cases outcome with
  | kept failed => exact absurd rfl (failed.resolve_right named)
  | volatile found unlinked records =>
    cases names with
    | volatile linked fresh absent =>
      refine ⟨?_, (records id).trans absent, fun other different => ⟨?_, records other⟩⟩
      · rw [unlinked, linked, List.eraseP_cons_of_pos (by simp)]
        exact fresh
      · rw [unlinked, find_eraseP_other different]
    | persistent _ missing => exact absurd missing found
  | persistent missing _ removed others volatile =>
    refine ⟨?_, removed, fun other different => ⟨by rw [volatile], others other different⟩⟩
    rw [volatile]
    exact missing

private theorem namesOnly_destroyed (names : NamesOnly store s id attr data)
    (named : id ≠ psaKeyIdNull) (faults : Nat → Fault)
    (succeeded : (runOn store faults (psaDestroyKey id) s).1 = .success) :
    wolfpsaVolatileFind (runOn store faults (psaDestroyKey id) s).2 id = none ∧
    storedRecord store (runOn store faults (psaDestroyKey id) s).2 id = none ∧
    ∀ other ≠ id,
      wolfpsaVolatileFind (runOn store faults (psaDestroyKey id) s).2 other =
        wolfpsaVolatileFind s other ∧
      storedRecord store (runOn store faults (psaDestroyKey id) s).2 other =
        storedRecord store s other := by
  have outcome := runOn_post (psaDestroyKey_spec store id s) faults
  rw [succeeded] at outcome
  exact destroyOutcome_only names named outcome

/-! Without faults the calls do answer. -/

private theorem recordRead_of_record (record : storedRecord store s id = some (keyRecord attr data)) :
    RecordRead store s id (keyHeader attr data.length) data :=
  ⟨record, length_keyHeader attr data.length⟩

private theorem namesOnly_attributes_calm (names : NamesOnly store s id attr data) :
    Triple sysHandler Calm (fun _ => True) (fun r _ => r = .ok { attr with id := id })
      (onPosix store (psaGetKeyAttributes id)) s := by
  refine triple_here trivial fun init calm => ?_
  dsimp only [localHandler]
  rw [dif_neg (by simp [calm.runs])]
  refine triple_here trivial fun _ _ => ?_
  dsimp only [localHandler]
  cases names with
  | volatile linked =>
    rw [find_head linked]
    rfl
  | persistent usable missing record unenrolled =>
    rw [missing]
    refine triple_calls (openRecord_calm usable (recordRead_of_record record))
      (fun _ _ => trivial) ?_
    rintro _ s₁ ⟨rfl, ctx, rfl, -, reads⟩
    refine triple_call (posixClose_read_spec s₁ reads) (fun _ _ => trivial) ?_
    rintro _ s₁ -
    exact congrArg Except.ok (deserialize_with_id unenrolled)

private theorem namesOnly_exported_calm (names : NamesOnly store s id attr data)
    (nonempty : data ≠ []) (bound : data.length ≤ intMax) {size : Nat}
    (exportable : attr.usage &&& psaKeyUsageExport ≠ 0) (fits : data.length ≤ size) :
    Triple sysHandler Calm (fun _ => True) (fun r _ => r = .ok data)
      (onPosix store (psaExportKey id size)) s := by
  refine triple_here trivial fun init calm => ?_
  dsimp only [localHandler]
  rw [dif_neg (by simp [calm.runs])]
  refine triple_here trivial fun got calm => ?_
  dsimp only [localHandler, volatileGet]
  cases names with
  | volatile linked =>
    rw [find_head linked]
    simp only [if_neg nonempty, calm.runs, Bool.false_eq_true, if_false, if_neg exportable,
      if_neg (Nat.not_lt.mpr fits)]
    rfl
  | persistent usable missing record =>
    rw [missing]
    dsimp only
    rw [if_neg (by simp)]
    refine triple_calls (openRecord_calm usable (recordRead_of_record record))
      (fun _ _ => trivial) ?_
    rintro _ s₁ ⟨rfl, ctx, rfl, content, reads⟩
    have valid : wolfpsaValidateStoredKeyDataLength data.length = .success := by
      unfold wolfpsaValidateStoredKeyDataLength
      rw [if_neg (by simp [nonempty, Nat.not_lt.mpr bound])]
    have usage : (psaKeyAttributesDeserialize (keyHeader attr data.length)).usage = attr.usage := by
      rw [deserialize_keyHeader]
    dsimp only
    rw [usage, if_neg exportable, keyDataLength_eq bound, if_neg (not_not.mpr valid),
      if_neg (Nat.not_lt.mpr fits)]
    refine triple_call (posixRead_calm ctx data.length s₁) (fun _ _ => trivial) ?_
    rintro _ s₂ ⟨rfl, rfl⟩
    refine triple_call (posixClose_read_spec s₂ reads) (fun _ _ => trivial) ?_
    rintro _ s₃ -
    dsimp only
    rw [content, List.take_length, if_neg (not_not.mpr rfl)]
    rfl

private theorem namesOnly_destroyed_calm (names : NamesOnly store s id attr data) :
    Triple sysHandler Calm (fun _ => True) (fun r _ => r = .success)
      (onPosix store (psaDestroyKey id)) s := by
  unfold psaDestroyKey
  split
  · rfl
  refine triple_here trivial fun init calm => ?_
  dsimp only [localHandler]
  rw [if_neg (by simp [calm.runs])]
  refine triple_here trivial fun _ _ => ?_
  dsimp only [localHandler]
  cases names with
  | volatile linked =>
    rw [find_head linked]
    rfl
  | persistent usable missing record =>
    rw [missing]
    refine triple_call (posixRemove_calm usable (by simp [record])) (fun _ _ => trivial) ?_
    rintro _ s₁ ⟨rfl, -⟩
    rfl

/-- An identifier that names one key is used for that key and for no other. -/
theorem NamesOnly.actsOn (names : NamesOnly store s id attr data) (named : id ≠ psaKeyIdNull)
    (nonempty : data ≠ []) (bound : data.length ≤ intMax) : ActsOn store s id attr data where
  attributes faults _ := namesOnly_attributes names faults
  exported faults _ _ := namesOnly_exported names bound faults
  destroyed := namesOnly_destroyed names named
  answers _ calm := ⟨(namesOnly_attributes_calm names).run calm,
    fun _ exportable fits => (namesOnly_exported_calm names nonempty bound exportable fits).run calm,
    (namesOnly_destroyed_calm names).run calm⟩

end

/-! ## Runs of key calls -/

/-- The calls that create and destroy keys, and the restart of the process. -/
inductive KeyCall where
  | importKey (attributes : KeyAttributes) (data : Bytes)
  | copyKey (source : KeyId) (requested : KeyAttributes)
  | destroyKey (id : KeyId)
  | restart

/-- One call with the faults it meets. A restart empties the volatile list and resets the counter;
the files stay. -/
def keyStep (cfg : ImportConfig) (store : StoreConfig) (w : World) :
    KeyCall × (Nat → Fault) → (Status × KeyId) × World
  | (.importKey attributes data, faults) => runOn store faults (psaImportKey cfg attributes data) w
  | (.copyKey source requested, faults) => runOn store faults (psaCopyKey cfg source requested) w
  | (.destroyKey id, faults) =>
    let r := runOn store faults (psaDestroyKey id) w
    ((r.1, psaKeyIdNull), r.2)
  | (.restart, _) =>
    ((.success, psaKeyIdNull), { w with nextKeyId := psaKeyIdVendorMin, volatileKeys := [] })

/-- No key, volatile or persistent. -/
structure EmptyStore (store : StoreConfig) (w : World) : Prop where
  volatile : w.volatileKeys = []
  records : ∀ id, storedRecord store w id = none

/-- No identifier names both a volatile key and a record. -/
def OneMeaning (store : StoreConfig) (s : World) : Prop :=
  ∀ id, wolfpsaVolatileFind s id ≠ none → storedRecord store s id = none

/-- `PSA_KEY_ID_VENDOR_MIN .. PSA_KEY_ID_VENDOR_MAX`, where the counter assigns identifiers. -/
def VendorId (id : KeyId) : Prop := psaKeyIdVendorMin ≤ id ∧ id ≤ psaKeyIdVendorMax

/-- A persistent key comes with an identifier of its own, outside the vendor range. -/
def OwnId (attributes : KeyAttributes) : Prop :=
  psaKeyLifetimeIsVolatile attributes.lifetime = false →
    attributes.id ≠ psaKeyIdNull ∧ ¬VendorId attributes.id

def KeepsApart : KeyCall → Prop
  | .importKey attributes _ => OwnId attributes
  | .copyKey _ requested => OwnId requested
  | .destroyKey _ | .restart => True

/-- The invariant: the volatile list lives in the vendor range, the records outside it. -/
structure Separated (store : StoreConfig) (s : World) : Prop where
  volatile : ∀ node ∈ s.volatileKeys, VendorId node.id
  records : ∀ id, storedRecord store s id ≠ none → ¬VendorId id

section

variable {w s : World} {attr attributes : KeyAttributes} {data : Bytes} {id : KeyId}

theorem Separated.oneMeaning (apart : Separated store s) : OneMeaning store s := by
  intro id found
  obtain ⟨node, present⟩ := Option.ne_none_iff_exists'.mp found
  have named : node.id = id := by simpa using List.find?_some present
  have vendor := apart.volatile node (List.mem_of_find?_eq_some present)
  by_contra recorded
  exact apart.records id recorded (named ▸ vendor)

private theorem separated_of_sameKeys (same : SameKeys store w s) (apart : Separated store w) :
    Separated store s :=
  ⟨same.volatile ▸ apart.volatile, fun id present => apart.records id (same.records id ▸ present)⟩

/-- The identifier a key gets lies on its side of the border. -/
private theorem assignedId_side (assigned : AssignedId attr id) (own : OwnId attr) :
    VendorId id ↔ psaKeyLifetimeIsVolatile attr.lifetime = true := by
  unfold AssignedId at assigned
  cases lifetime : psaKeyLifetimeIsVolatile attr.lifetime with
  | true =>
    rw [if_pos (by simp [lifetime])] at assigned
    exact ⟨fun _ => rfl, fun _ => assigned⟩
  | false =>
    obtain ⟨given, outside⟩ := own lifetime
    rw [if_neg (by simp [lifetime, given])] at assigned
    subst assigned
    exact ⟨fun vendor => absurd vendor outside, by simp⟩

private theorem separated_of_keyAdded (apart : Separated store w) (assigned : AssignedId attr id)
    (own : OwnId attr) (added : KeyAdded store w attr data id s) : Separated store s := by
  have side := assignedId_side assigned own
  cases added with
  | volatile lifetime _ linked records =>
    constructor
    · intro node member
      rw [linked] at member
      rcases List.mem_cons.mp member with rfl | older
      · exact side.mpr lifetime
      · exact apart.volatile node older
    · exact fun other present => apart.records other (records other ▸ present)
  | persistent lifetime _ _ _ others volatile =>
    refine ⟨volatile ▸ apart.volatile, fun other present => ?_⟩
    by_cases here : other = id
    · subst here
      rw [side, lifetime]
      simp
    · exact apart.records other (others other here ▸ present)

private theorem ownId_of_accepted (accepted : importCheck cfg attributes data = .ok attr)
    (own : OwnId attributes) : OwnId attr := by
  rw [(importCheck_ok accepted).2.2.1]
  exact own

private theorem separated_of_importOutcome {r : Status × KeyId} (apart : Separated store w)
    (own : OwnId attributes)
    (outcome : ImportOutcome cfg store admitted attributes data w r s) : Separated store s := by
  cases outcome with
  | refused _ same => exact separated_of_sameKeys same apart
  | noBuffer _ _ _ _ same => exact separated_of_sameKeys same apart
  | stored accepted assigned added =>
    exact separated_of_keyAdded apart assigned (ownId_of_accepted accepted own) added

private theorem separated_of_copyOutcome {source : KeyId} {r : Status × KeyId}
    (apart : Separated store w) (own : OwnId attributes)
    (outcome : CopyOutcome cfg store admitted source attributes w r s) : Separated store s := by
  cases outcome with
  | refused _ same => exact separated_of_sameKeys same apart
  | imported _ granted outcome =>
    obtain ⟨-, -, -, -, lifetime, requested, named, -⟩ := copyKeyAttributes_ok granted
    refine separated_of_importOutcome apart ?_ outcome
    unfold OwnId
    rwa [lifetime, ← requested, named]

private theorem separated_of_destroyOutcome {status : Status} (apart : Separated store w)
    (outcome : DestroyOutcome store id w status s) : Separated store s := by
  cases outcome with
  | kept _ same => exact separated_of_sameKeys same apart
  | volatile _ unlinked records =>
    constructor
    · intro node member
      rw [unlinked] at member
      exact apart.volatile node (List.mem_of_mem_eraseP member)
    · exact fun other present => apart.records other (records other ▸ present)
  | persistent _ _ removed others volatile =>
    refine ⟨volatile ▸ apart.volatile, fun other present => ?_⟩
    have different : other ≠ id := by
      rintro rfl
      exact present removed
    exact apart.records other (others other different ▸ present)

private theorem keyStep_separated (call : KeyCall × (Nat → Fault)) (own : KeepsApart call.1)
    (apart : Separated store w) : Separated store (keyStep cfg store w call).2 := by
  obtain ⟨call, faults⟩ := call
  cases call with
  | importKey attributes data =>
    exact separated_of_importOutcome apart own
      (runOn_post (psaImportKey_spec cfg store attributes data w) faults)
  | copyKey source requested =>
    exact separated_of_copyOutcome apart own
      (runOn_post (psaCopyKey_spec cfg store source requested w) faults)
  | destroyKey id =>
    exact separated_of_destroyOutcome apart (runOn_post (psaDestroyKey_spec store id w) faults)
  | restart => exact ⟨by simp [keyStep], apart.records⟩

private theorem run_separated {calls : List (KeyCall × (Nat → Fault))} (empty : EmptyStore store w)
    (own : ∀ call ∈ calls, KeepsApart call.1) :
    Separated store (run (keyStep cfg store) w calls).2 := by
  refine run_state_invariant (Separated store) ?_ (fun s call => keyStep_separated call) calls own
  exact ⟨by simp [empty.volatile], fun id present => absurd (empty.records id) present⟩

/-- With one meaning for every identifier, the identifier of a new key names that key only. -/
private theorem namesOnly_of_keyAdded (single : OneMeaning store s)
    (unenrolled : psaKeyLifetimeIsVolatile attr.lifetime = false → attr.alg2 = psaAlgNone)
    (added : KeyAdded store w attr data id s) : NamesOnly store s id attr data := by
  cases added with
  | volatile lifetime fresh linked records =>
    refine .volatile linked fresh (single id ?_)
    simp [find_head linked]
  | persistent lifetime usable absent committed others volatile =>
    refine .persistent usable ?_ committed (unenrolled lifetime)
    by_contra found
    simp [single id found] at committed

private theorem import_actsOn {faults : Nat → Fault} (apart : Separated store w)
    (own : OwnId attributes)
    (imported : (runOn store faults (psaImportKey cfg attributes data) w).1 = (.success, id)) :
    ∃ attr, importCheck cfg attributes data = .ok attr ∧
      ActsOn store (runOn store faults (psaImportKey cfg attributes data) w).2 id attr data := by
  have outcome := runOn_post (psaImportKey_spec cfg store attributes data w) faults
  have single := (separated_of_importOutcome apart own outcome).oneMeaning
  rw [imported] at outcome
  obtain ⟨attr, accepted, assigned, added, -⟩ := outcome.of_success
  obtain ⟨nonempty, bound, sized, unenrolled⟩ := importCheck_ok accepted
  refine ⟨attr, accepted, NamesOnly.actsOn ?_ assigned.ne_null nonempty bound⟩
  refine namesOnly_of_keyAdded single ?_ added
  rw [sized]
  exact unenrolled

end

/-- From an empty store, every run whose persistent keys come with identifiers of their own keeps
one meaning for every identifier, and the identifier of a key just imported is used for that key
only. -/
theorem own_ids_have_one_meaning (cfg : ImportConfig) (store : StoreConfig) (w : World)
    (calls : List (KeyCall × (Nat → Fault))) (empty : EmptyStore store w)
    (own : ∀ call ∈ calls, KeepsApart call.1) :
    OneMeaning store (run (keyStep cfg store) w calls).2 ∧
    ∀ attributes data faults id, KeepsApart (.importKey attributes data) →
      (runOn store faults (psaImportKey cfg attributes data)
        (run (keyStep cfg store) w calls).2).1 = (.success, id) →
      ∃ attr, importCheck cfg attributes data = .ok attr ∧
        ActsOn store (runOn store faults (psaImportKey cfg attributes data)
          (run (keyStep cfg store) w calls).2).2 id attr data :=
  have apart := run_separated empty own
  ⟨apart.oneMeaning, fun _ _ _ _ => import_actsOn apart⟩

/-- The AES key as a volatile key, and as a persistent one under the counter's first identifier. -/
def volatileAesKey : KeyAttributes := { persistentAesKey with lifetime := psaKeyLifetimeVolatile }
def vendorAesKey : KeyAttributes := { persistentAesKey with id := psaKeyIdVendorMin }

def aesImport (attributes : KeyAttributes) : KeyCall × (Nat → Fault) :=
  (.importKey attributes (List.replicate 16 0), fun _ => calmFault)

theorem own_ids_have_one_meaning_aes :
    OneMeaning freshStore (run (keyStep plainImport freshStore) freshWorld
      [aesImport volatileAesKey]).2 ∧
    ∃ attr, importCheck plainImport persistentAesKey (List.replicate 16 0) = .ok attr ∧
      ActsOn freshStore (run (keyStep plainImport freshStore) freshWorld
        [aesImport volatileAesKey, aesImport persistentAesKey]).2 1 attr (List.replicate 16 0) := by
  have result := own_ids_have_one_meaning plainImport freshStore freshWorld
    [aesImport volatileAesKey] ⟨rfl, fun id => by
      unfold storedRecord
      cases wolfPSAStoreName freshStore.dir id <;> rfl⟩
    (by simp +decide [aesImport, KeepsApart, OwnId])
  exact ⟨result.1, result.2 persistentAesKey (List.replicate 16 0) (fun _ => calmFault) 1
    (by simp +decide [KeepsApart, OwnId, VendorId]) (by decide +kernel)⟩

/-- A persistent key under the first identifier of the vendor range, then a volatile key: both are
imported, and both have that identifier. -/
theorem vendor_id_names_two_keys :
    ¬OneMeaning freshStore (run (keyStep plainImport freshStore) freshWorld
      [aesImport vendorAesKey, aesImport volatileAesKey]).2 := by
  intro single
  exact absurd (single psaKeyIdVendorMin (by decide +kernel)) (by decide +kernel)

end WolfPSA.Guarantees
