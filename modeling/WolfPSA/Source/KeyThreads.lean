import WolfPSA.Lib.Interleave
import WolfPSA.Source.KeyCalls
import WolfPSA.Source.StoreZephyr

/-!
# Key calls among threads

The key calls with single store calls and critical sections of the global lock as their steps. Other
threads run between any two steps, so each call is specified by what its own look-ups met.
-/

namespace WolfPSA.Source
open Lib Prog

/-! ## Store back ends -/

/-- A back end of `psa_store.h`, its calls taken as single steps, and the records it holds. A handle
for reading is a snapshot: it delivers the record as it was at the open. -/
structure StoreBackend where
  call : (Nat → Fault) → (a : StoreAct) → World → StoreRes a × World
  record : World → KeyId → Option Bytes
  opened : ∀ {faults id w ctx}, (call faults (.open id) w).1 = .ok ctx →
    record w id = some ctx.rest
  reads : ∀ faults ctx n w, ∃ count ≤ n, (call faults (.read ctx n) w).1 =
    (ctx.rest.take count, { ctx with rest := ctx.rest.drop (ctx.rest.take count).length })
  refuses : ∀ {faults id n w code}, (call faults (.openSz id n) w).1 = .error code → code < 0

/-- The POSIX store. -/
def posixBackend (store : StoreConfig) : StoreBackend where
  call faults a w := (posix store (.store a)).run sysHandler faults w
  record := storedRecord store
  opened {faults id w ctx} granted := by
    have answer := ((posixOpen_spec store w id).run_every faults).2
    rw [show ((posixOpen store id).run sysHandler faults w).1 = .ok ctx from granted] at answer
    exact answer.1
  reads faults ctx n w := ((posixRead_spec ctx n w).run_every faults).2
  refuses {faults id n w code} refused := by
    have answer := ((posixOpenSz_spec store w id).run_every faults).2
    rw [show ((posixOpenSz store id).run sysHandler faults w).1 = .error code from refused] at answer
    exact answer

/-- The Zephyr store. -/
def zephyrBackend : StoreBackend where
  call := zephyr
  record w id := if id = psaKeyIdNull then none else w.files (itsName id)
  opened {faults id w ctx} granted := by
    have opened : zephyrOpen faults id w = .ok ctx := granted
    unfold zephyrOpen at opened
    split at opened
    · cases opened
    rename_i named
    split at opened
    · cases opened
    split at opened
    · cases opened
    rename_i object held
    split at opened
    · cases opened
    split at opened
    · cases opened
    split at opened
    · cases opened
    cases opened
    rw [if_neg named, held]
  reads faults ctx n w := by
    show ∃ count ≤ n, zephyrRead ctx n = _
    unfold zephyrRead
    split
    · exact ⟨0, Nat.zero_le n, by simp⟩
    · refine ⟨n, Nat.le_refl n, ?_⟩
      rcases Nat.le_total n ctx.rest.length with within | beyond
      · rw [List.length_take, Nat.min_eq_left within]
      · rw [List.take_of_length_le beyond, List.drop_length, List.drop_eq_nil_of_le beyond]
  refuses {faults id n w code} refused := by
    have opened : zephyrOpenSz faults id = .error code := refused
    unfold zephyrOpenSz at opened
    split at opened
    · cases opened
      decide
    split at opened
    · cases opened
      decide
    · cases opened

/-- The world under the steps of a key call. -/
def keyHandler (backend : StoreBackend) : Handler (Nat → Fault) World KeyAct KeyRes
  | _, .lock, w => ((), w)
  | _, .unlock, w => ((), w)
  | faults, .here a, w => localHandler (faults 0) a w
  | faults, .store a, w => backend.call faults a w

/-- `WOLFPSA_LOCK`: `psa_import_key` holds it over its probe and its write, and every access to the
volatile list, the counter or the initialisation state is a critical section of its own. -/
def keyLockUse : KeyAct → LockUse
  | .lock => .acquire
  | .unlock => .release
  | .here (.malloc _) | .here (.generateRandom _) | .here (.generateKeyPair ..) => .free
  | .here _ => .guarded
  | .store _ => .free

/-! ## Look-ups -/

/-- The action looks the key up. -/
def looksUp (id : KeyId) : KeyAct → Bool
  | .here (.volatileGet i) | .here (.volatileGetAttributes i) | .store (.open i) => i == id
  | _ => false

/-- A world in which the call looked the key up. -/
def LookedUp (trail : Trail KeyAct World) (id : KeyId) (w : World) : Prop :=
  ∃ a, (a, w) ∈ trail ∧ looksUp id a = true

theorem LookedUp.mono {trail trail' : Trail KeyAct World} {id : KeyId} {w : World}
    (looked : LookedUp trail id w) (later : trail <:+ trail') : LookedUp trail' id w := by
  obtain ⟨a, member, looks⟩ := looked
  exact ⟨a, later.subset member, looks⟩

/-- A key that `w` holds under `id`, in the volatile list or in the store. -/
inductive HeldKey (backend : StoreBackend) (w : World) (id : KeyId) (attributes : KeyAttributes)
    (data : Bytes) : Prop
  | volatile {node : VolatileKey} (found : wolfpsaVolatileFind w id = some node)
      (attributes_eq : attributes = node.attributes) (data_eq : data = node.data)
  | persistent {header rest : Bytes} (record : backend.record w id = some (header ++ rest))
      (length : header.length = keyHeaderLength)
      (attributes_eq : attributes = psaKeyAttributesDeserialize header)
      (read : DataRead header rest data)

/-- The attributes a call found, with the look-ups that found them. -/
inductive AttributesFound (backend : StoreBackend) (trail : Trail KeyAct World) (id : KeyId)
    (attributes : KeyAttributes) : Prop
  | volatile {w : World} {node : VolatileKey} (looked : LookedUp trail id w)
      (found : wolfpsaVolatileFind w id = some node)
      (attributes_eq : attributes = { node.attributes with id := id })
  | persistent {w₀ w : World} {header rest : Bytes} (missed : LookedUp trail id w₀)
      (missing : wolfpsaVolatileFind w₀ id = none) (looked : LookedUp trail id w)
      (record : backend.record w id = some (header ++ rest))
      (length : header.length = keyHeaderLength)
      (attributes_eq : attributes = { psaKeyAttributesDeserialize header with id := id })

/-- The key a call found, attributes and data from one look-up. -/
inductive KeyTaken (backend : StoreBackend) (trail : Trail KeyAct World) (id : KeyId)
    (attributes : KeyAttributes) (data : Bytes) : Prop
  | volatile {w : World} {node : VolatileKey} (looked : LookedUp trail id w)
      (found : wolfpsaVolatileFind w id = some node) (attributes_eq : attributes = node.attributes)
      (data_eq : data = node.data)
  | persistent {w₀ w : World} {header rest : Bytes} (missed : LookedUp trail id w₀)
      (missing : wolfpsaVolatileFind w₀ id = none) (looked : LookedUp trail id w)
      (record : backend.record w id = some (header ++ rest))
      (length : header.length = keyHeaderLength)
      (attributes_eq : attributes = psaKeyAttributesDeserialize header)
      (read : DataRead header rest data)

section

variable {backend : StoreBackend} {trail trail' : Trail KeyAct World} {id : KeyId}
  {attributes attributes' : KeyAttributes} {data : Bytes}

theorem AttributesFound.mono (found : AttributesFound backend trail id attributes)
    (later : trail <:+ trail') : AttributesFound backend trail' id attributes := by
  cases found with
  | volatile looked found same => exact .volatile (looked.mono later) found same
  | persistent missed missing looked record length same =>
    exact .persistent (missed.mono later) missing (looked.mono later) record length same

theorem KeyTaken.mono (taken : KeyTaken backend trail id attributes data)
    (later : trail <:+ trail') : KeyTaken backend trail' id attributes data := by
  cases taken with
  | volatile looked found same content => exact .volatile (looked.mono later) found same content
  | persistent missed missing looked record length same read =>
    exact .persistent (missed.mono later) missing (looked.mono later) record length same read

/-- What one look-up took is a key that the world of that look-up held. -/
theorem KeyTaken.held (taken : KeyTaken backend trail id attributes data) :
    ∃ w, LookedUp trail id w ∧ HeldKey backend w id attributes data := by
  cases taken with
  | volatile looked found same content => exact ⟨_, looked, .volatile found same content⟩
  | persistent _ _ looked record length same read =>
    exact ⟨_, looked, .persistent record length same read⟩

/-- What `id` names is the same at every look-up of the call. -/
def SteadyLookups (backend : StoreBackend) (trail : Trail KeyAct World) (id : KeyId) : Prop :=
  ∀ w w', LookedUp trail id w → LookedUp trail id w' →
    wolfpsaVolatileFind w id = wolfpsaVolatileFind w' id ∧ backend.record w id = backend.record w' id

/-- With steady look-ups, attributes and data taken apart are those of one key. -/
theorem AttributesFound.eq_of_steady (found : AttributesFound backend trail id attributes)
    (taken : KeyTaken backend trail id attributes' data) (steady : SteadyLookups backend trail id) :
    attributes = { attributes' with id := id } := by
  cases found with
  | volatile looked found same =>
    cases taken with
    | volatile looked' found' same' =>
      have nodes := (steady _ _ looked looked').1
      rw [found, found'] at nodes
      rw [same, same', Option.some.inj nodes]
    | persistent missed missing =>
      have nodes := (steady _ _ looked missed).1
      rw [found, missing] at nodes
      cases nodes
  | persistent missed missing looked record length same =>
    cases taken with
    | volatile looked' found' =>
      have nodes := (steady _ _ looked' missed).1
      rw [found', missing] at nodes
      cases nodes
    | persistent _ _ looked' record' length' same' =>
      have records := (steady _ _ looked looked').2
      rw [record, record'] at records
      have headers := (List.append_inj (Option.some.inj records) (length.trans length'.symm)).1
      rw [same, same', headers]

end

/-! ## Reading calls -/

section

variable (backend : StoreBackend) (trail : Trail KeyAct World) (id : KeyId)

theorem lookedUp_open (w : World) : LookedUp ((KeyAct.store (.open id), w) :: trail) id w :=
  ⟨_, List.mem_cons_self, by simp [looksUp]⟩

theorem lookedUp_get (w : World) :
    LookedUp ((KeyAct.here (.volatileGet id), w) :: trail) id w :=
  ⟨_, List.mem_cons_self, by simp [looksUp]⟩

theorem lookedUp_getAttributes (w : World) :
    LookedUp ((KeyAct.here (.volatileGetAttributes id), w) :: trail) id w :=
  ⟨_, List.mem_cons_self, by simp [looksUp]⟩

/-- Closing a handle and returning. -/
theorem close_amid {α : Type} {ctx : StoreCtx} {value : α}
    {post : Trail KeyAct World → α → Prop} (holds : ∀ trail', trail <:+ trail' → post trail' value) :
    Amid (keyHandler backend) post (wolfPSAStoreClose ctx >>= fun _ => pure value) trail :=
  amid_act fun _ _ => holds _ (List.suffix_cons _ _)

theorem openRecord_amid :
    Amid (keyHandler backend) (fun trail' r => ∀ header ctx, r = .ok (header, ctx) →
        ∃ w, LookedUp trail' id w ∧ backend.record w id = some (header ++ ctx.rest) ∧
          header.length = keyHeaderLength)
      (openRecord id) trail := by
  refine amid_act fun w faults => ?_
  cases opened : (keyHandler backend faults (KeyAct.store (.open id)) w).1 with
  | error code => exact fun header ctx same => by cases same
  | ok ctx =>
    have record := backend.opened opened
    refine amid_act fun w' faults' => ?_
    obtain ⟨count, -, answer⟩ := backend.reads faults' ctx keyHeaderLength w'
    have read : (keyHandler backend faults' (KeyAct.store (.read ctx keyHeaderLength)) w').1 = _ :=
      answer
    rw [read]
    dsimp only
    by_cases short : (ctx.rest.take count).length ≠ keyHeaderLength
    · rw [if_pos short]
      exact close_amid _ _ fun _ _ header ctx same => by cases same
    · rw [if_neg short]
      intro header ctx' same
      obtain ⟨rfl, rfl⟩ := Prod.mk.inj (Except.ok.inj same)
      refine ⟨w, (lookedUp_open trail id w).mono (List.suffix_cons _ _), ?_, not_not.mp short⟩
      rw [record, take_append_drop_length]

theorem readRecordData_amid (header : Bytes × StoreCtx) :
    Amid (keyHandler backend) (fun _ r => ∀ data, r = .ok data →
        DataRead header.1 header.2.rest data)
      (readRecordData header) trail := by
  unfold readRecordData
  dsimp only
  by_cases valid : wolfpsaValidateStoredKeyDataLength (keyHeaderDataLength header.1) = .success
  · rw [if_neg (not_not.mpr valid)]
    refine amid_act fun w faults => ?_
    cases (keyHandler backend faults (KeyAct.here (.malloc .keyData)) w).1 with
    | false => exact close_amid _ _ fun _ _ data same => by cases same
    | true =>
      refine amid_act fun w' faults' => ?_
      obtain ⟨count, bound, answer⟩ :=
        backend.reads faults' header.2 (keyHeaderDataLength header.1) w'
      have read : (keyHandler backend faults'
          (KeyAct.store (.read header.2 (keyHeaderDataLength header.1))) w').1 = _ := answer
      rw [read]
      refine amid_act fun _ _ => ?_
      dsimp only
      by_cases full : (header.2.rest.take count).length = keyHeaderDataLength header.1
      · rw [if_neg (not_not.mpr full)]
        intro data same
        obtain rfl := Except.ok.inj same
        exact dataRead_of_length bound full valid
      · rw [if_pos full]
        exact fun data same => by cases same
  · rw [if_pos valid]
    exact close_amid _ _ fun _ _ data same => by cases same

theorem psaGetKeyAttributes_amid :
    Amid (keyHandler backend) (fun trail' r => ∀ attributes, r = .ok attributes →
        AttributesFound backend trail' id attributes)
      (psaGetKeyAttributes id) trail := by
  refine amid_act fun w faults => ?_
  split
  · exact fun attributes same => by cases same
  refine amid_act fun w' faults' => ?_
  dsimp only [keyHandler, localHandler]
  cases found : wolfpsaVolatileFind w' id with
  | some node =>
    intro attributes same
    exact .volatile (lookedUp_getAttributes _ id w') found (Except.ok.inj same).symm
  | none =>
    refine amid_bind_of (openRecord_amid backend _ id) ?_
    rintro trail' (status | ⟨header, ctx⟩) later opened
    · exact fun attributes same => by cases same
    obtain ⟨w'', looked, record, length⟩ := opened header ctx rfl
    refine close_amid _ _ fun trail'' latest attributes same => ?_
    exact .persistent ((lookedUp_getAttributes _ id w').mono (later.trans latest)) found
      (looked.mono latest) record length (Except.ok.inj same).symm

/-- The read of a record after the volatile list had nothing. -/
theorem readRecord_amid {w₀ : World} (missed : LookedUp trail id w₀)
    (missing : wolfpsaVolatileFind w₀ id = none) {α : Type} {k : Bytes × StoreCtx → Bytes → α}
    {fail : Failure → α} {post : Trail KeyAct World → α → Prop}
    (failed : ∀ trail' status, post trail' (fail status))
    (taken : ∀ trail' header data, trail <:+ trail' →
      KeyTaken backend trail' id (psaKeyAttributesDeserialize header.1) data →
      post trail' (k header data)) :
    Amid (keyHandler backend) post
      (openRecord id >>= fun
        | .error status => pure (fail status)
        | .ok header => readRecordData header >>= fun
          | .error status => pure (fail status)
          | .ok data => pure (k header data)) trail := by
  refine amid_bind_of (openRecord_amid backend trail id) ?_
  rintro trail' (status | header) later opened
  · exact failed trail' status
  obtain ⟨w, looked, record, length⟩ := opened header.1 header.2 rfl
  refine amid_bind_of (readRecordData_amid backend trail' header) ?_
  rintro trail'' (status | data) latest read
  · exact failed trail'' status
  · exact taken trail'' header data (later.trans latest)
      (.persistent (missed.mono (later.trans latest)) missing (looked.mono latest) record length rfl
        (read data rfl))

theorem wolfpsaGetKeyData_amid :
    Amid (keyHandler backend) (fun trail' r => ∀ attributes data, r = .ok (attributes, data) →
        KeyTaken backend trail' id attributes data)
      (wolfpsaGetKeyData id) trail := by
  refine amid_act fun w faults => ?_
  split
  · exact fun attributes data same => by cases same
  refine amid_act fun w' faults' => ?_
  dsimp only [keyHandler, localHandler]
  rcases volatileGet_cases (faults' 0) w' id with ⟨node, found, got⟩ | ⟨status, got, missing⟩
  · rw [got]
    intro attributes data same
    obtain ⟨rfl, rfl⟩ := Prod.mk.inj (Except.ok.inj same)
    exact .volatile (lookedUp_get _ id w') found rfl rfl
  · rw [got]
    dsimp only
    by_cases other : status.val ≠ .invalidHandle
    · rw [if_pos other]
      exact fun attributes data same => by cases same
    rw [if_neg other]
    refine readRecord_amid backend _ id (lookedUp_get _ id w') (missing (not_not.mp other)) ?_ ?_
    · exact fun trail' status attributes data same => by cases same
    · intro trail' header data later taken attributes data' same
      obtain ⟨rfl, rfl⟩ := Prod.mk.inj (Except.ok.inj same)
      exact taken

end

/-! ## What an import reports -/

/-- `psa_key_storage_check_init` fails only when the lock cannot be created, with
`PSA_ERROR_GENERIC_ERROR`. -/
def InitFaults (faults : Nat → Fault) : Prop := ∀ n, (faults n).status.val = .genericError

section

variable {backend : StoreBackend} {r : Status × KeyId}

theorem importVerdict_ne_invalidHandle (ret : Int) (id : KeyId) (n : Nat) :
    (importVerdict ret id n).1 ≠ .invalidHandle := by
  unfold importVerdict wolfpsaStoreOpenStatus
  split_ifs <;> simp

theorem importPersistent_ne_invalidHandle {id : KeyId} {attr : KeyAttributes} {data : Bytes}
    {status : Failure}
    (outcome : Outcome (keyHandler backend) InitFaults (importPersistent id attr data)
      (.error status)) : status.val ≠ .invalidHandle := by
  obtain ⟨_, _, -, outcome⟩ := outcome_perform outcome
  obtain ⟨_, _, -, outcome⟩ := outcome_perform outcome
  split at outcome
  · obtain ⟨_, _, -, outcome⟩ := outcome_perform outcome
    obtain ⟨_, _, -, outcome⟩ := outcome_perform outcome
    cases outcome
    decide
  split at outcome
  · obtain ⟨_, _, -, outcome⟩ := outcome_perform outcome
    cases outcome
    unfold wolfpsaStoreOpenStatus
    split <;> decide
  obtain ⟨_, _, -, outcome⟩ := outcome_perform outcome
  split at outcome
  · obtain ⟨_, _, -, outcome⟩ := outcome_perform outcome
    cases outcome
  · iterate 3 obtain ⟨_, _, -, outcome⟩ := outcome_perform outcome
    cases outcome

theorem importStore_ne_invalidHandle {attr : KeyAttributes} {data : Bytes} {id : KeyId}
    (outcome : Outcome (keyHandler backend) InitFaults (importStore attr data id) r) :
    r.1 ≠ .invalidHandle := by
  obtain ⟨_, _, -, outcome⟩ := outcome_perform outcome
  split at outcome
  · cases outcome
    simp
  split at outcome
  · obtain ⟨w, faults, -, outcome⟩ := outcome_perform outcome
    have answer : (keyHandler backend faults (.here (.volatileStore id attr data)) w).1 ≠
        .invalidHandle := by
      show (volatileStore (faults 0) w id attr data).1 ≠ .invalidHandle
      unfold volatileStore
      split_ifs <;> simp
    split at outcome
    · cases outcome
      exact answer
    · cases outcome
      exact importVerdict_ne_invalidHandle _ _ _
  · obtain ⟨stored, persistent, outcome⟩ := outcome_bind outcome
    cases stored with
    | error status =>
      cases outcome
      exact importPersistent_ne_invalidHandle persistent
    | ok ret =>
      cases outcome
      exact importVerdict_ne_invalidHandle _ _ _

/-- `psa_import_key` never reports a missing key, whatever the store and the other threads do. -/
theorem psaImportKey_ne_invalidHandle {cfg : ImportConfig} {attributes : KeyAttributes}
    {data : Bytes}
    (outcome : Outcome (keyHandler backend) InitFaults (psaImportKey cfg attributes data) r) :
    r.1 ≠ .invalidHandle := by
  unfold psaImportKey at outcome
  split at outcome
  · rename_i refused
    cases outcome
    exact importCheck_ne_invalidHandle refused
  obtain ⟨w, faults, admitted, outcome⟩ := outcome_perform outcome
  have answer : (keyHandler backend faults (.here .checkInit) w).1 ≠ .invalidHandle := by
    show (if (faults 0).fails then (faults 0).status.val else Status.success) ≠ .invalidHandle
    rw [admitted 0]
    split <;> decide
  split at outcome
  · cases outcome
    exact answer
  split at outcome
  · obtain ⟨_, _, -, outcome⟩ := outcome_perform outcome
    split at outcome
    · cases outcome
      decide
    · exact importStore_ne_invalidHandle outcome
  · exact importStore_ne_invalidHandle outcome

end

end WolfPSA.Source
