import Mathlib
import WolfPSA.Guarantees.KeyIdentity
import WolfPSA.Guarantees.OneWinner

/-!
# Identifiers of volatile keys

`psa_import_key` takes the identifier of a volatile key from a counter that only moves forward.
Whatever calls run, in whatever order and with whatever failures on the way, no identifier is handed
out twice, and when the range is used up the counter stays behind it.
-/

namespace WolfPSA.Guarantees
open Lib Source Prog

/-! ## What moves the counter and the list -/

/-- The store keeps its records in files: it does not touch what the process holds in memory. -/
def LeavesProcess (backend : StoreBackend) : Prop :=
  ∀ faults a w, (backend.call faults a w).2.nextKeyId = w.nextKeyId ∧
    (backend.call faults a w).2.volatileKeys = w.volatileKeys

/-- A program that makes system calls on files and allocates, and does nothing else. -/
def FilesOnly {α : Type} : SysProg α → Prop
  | .ret _ => True
  | .act (.fs _) next => ∀ r, FilesOnly (next r)
  | .act (.here (.malloc _)) next => ∀ r, FilesOnly (next r)
  | .act (.here _) _ => False

private theorem fsHandler_process (fault : Fault) (a : FsAct) (w : World) :
    (fsHandler fault a w).2.nextKeyId = w.nextKeyId ∧
      (fsHandler fault a w).2.volatileKeys = w.volatileKeys := by
  cases a with
  | mkstemp dir =>
    unfold fsHandler
    dsimp only
    split
    · exact ⟨rfl, rfl⟩
    · exact ⟨rfl, rfl⟩
  | unlink path =>
    unfold fsHandler
    dsimp only
    split
    · exact ⟨rfl, rfl⟩
    · exact ⟨rfl, rfl⟩
  | rename old new =>
    unfold fsHandler
    dsimp only
    split
    · exact ⟨rfl, rfl⟩
    · split
      · exact ⟨rfl, rfl⟩
      · exact ⟨rfl, rfl⟩
  | remove path =>
    unfold fsHandler
    dsimp only
    split
    · exact ⟨rfl, rfl⟩
    · split
      · exact ⟨rfl, rfl⟩
      · exact ⟨rfl, rfl⟩
  | fopen _ | checkPath _ | mkdir _ | rmdir _ | fchmod _ | fdopen _ | fread _ _ | fwrite _ _ _
  | fflush _ | fclose => exact ⟨rfl, rfl⟩

theorem FilesOnly.run {α : Type} {p : SysProg α} (only : FilesOnly p) (faults : Nat → Fault)
    (w : World) : (p.run sysHandler faults w).2.nextKeyId = w.nextKeyId ∧
      (p.run sysHandler faults w).2.volatileKeys = w.volatileKeys := by
  induction p generalizing w faults with
  | ret value => exact ⟨rfl, rfl⟩
  | act a next ih =>
    match a with
    | .fs a =>
      obtain ⟨counter, keys⟩ := ih (fsHandler (faults 0) a w).1 (only _) (fun n => faults (n + 1))
        (fsHandler (faults 0) a w).2
      obtain ⟨counter', keys'⟩ := fsHandler_process (faults 0) a w
      exact ⟨counter.trans counter', keys.trans keys'⟩
    | .here (.malloc site) =>
      exact ih _ (only _) (fun n => faults (n + 1)) w

private theorem filesOnly_bind {α β : Type} {p : SysProg α} {k : α → SysProg β} (first : FilesOnly p)
    (second : ∀ value, FilesOnly (k value)) : FilesOnly (p >>= k) := by
  induction p with
  | ret value => exact second value
  | act a next ih =>
    match a with
    | .fs a => exact fun r => ih r (first r)
    | .here (.malloc site) => exact fun r => ih r (first r)

private theorem filesOnly_ite {α : Type} {c : Prop} [Decidable c] {p q : SysProg α}
    (yes : FilesOnly p) (no : FilesOnly q) : FilesOnly (if c then p else q) := by
  split
  · exact yes
  · exact no

private theorem filesOnly_ensureDir (dir : Path) : FilesOnly (wolfPSAStoreEnsureDir dir) := by
  intro checked
  refine filesOnly_ite trivial fun made => ?_
  cases made with
  | created =>
    intro verdict
    cases verdict with
    | ok => exact trivial
    | rejected => exact fun _ => trivial
    | unknown => exact trivial
  | «exists» => exact fun _ => trivial
  | failed => exact trivial

private theorem filesOnly_createTemp (dir : Path) :
    FilesOnly (wolfPSAStoreCreateTempFile dir) := by
  intro made
  cases made with
  | none => exact trivial
  | some path =>
    intro moded
    refine filesOnly_ite (fun _ => trivial) fun opened => ?_
    exact filesOnly_ite (fun _ => trivial) trivial

theorem leavesProcess_posixBackend (store : StoreConfig) : LeavesProcess (posixBackend store) := by
  intro faults a w
  refine FilesOnly.run ?_ faults w
  cases a with
  | «open» id =>
    show FilesOnly (posixOpen store id)
    unfold posixOpen
    refine filesOnly_ite trivial ?_
    cases wolfPSAStoreName store.dir id with
    | none => exact trivial
    | some name =>
      intro granted
      refine filesOnly_ite trivial fun opened => ?_
      cases opened with
      | error errno => cases errno <;> exact trivial
      | ok content =>
        cases wolfPSAStoreDirOfName name with
        | none => exact fun _ => trivial
        | some dir => exact fun verdict => filesOnly_ite trivial fun _ => trivial
  | openSz id n =>
    show FilesOnly (posixOpenSz store id)
    unfold posixOpenSz
    refine filesOnly_ite trivial ?_
    cases wolfPSAStoreName store.dir id with
    | none => exact trivial
    | some name =>
      intro granted
      refine filesOnly_ite trivial ?_
      cases wolfPSAStoreDirOfName name with
      | none => exact trivial
      | some dir =>
        refine filesOnly_bind (filesOnly_ensureDir dir) fun present => ?_
        refine filesOnly_ite trivial ?_
        refine filesOnly_bind (filesOnly_createTemp dir) fun temp => ?_
        cases temp <;> exact trivial
  | read ctx n => exact fun _ => trivial
  | write ctx buffer length =>
    intro count
    exact filesOnly_ite (fun flushed => filesOnly_ite trivial trivial) trivial
  | close ctx =>
    intro closed
    refine filesOnly_ite (fun renamed => filesOnly_ite trivial fun _ => trivial) ?_
    exact filesOnly_ite (fun _ => trivial) trivial
  | remove id =>
    show FilesOnly (posixRemove store id)
    unfold posixRemove
    refine filesOnly_ite trivial ?_
    cases wolfPSAStoreName store.dir id with
    | none => exact trivial
    | some name =>
      intro removed
      cases removed with
      | ok _ => exact trivial
      | error errno => cases errno <;> exact trivial

theorem leavesProcess_zephyrBackend : LeavesProcess zephyrBackend := by
  intro faults a w
  cases a with
  | «open» _ | openSz _ _ | read _ _ | close _ => exact ⟨rfl, rfl⟩
  | write ctx buffer length =>
    show (zephyrWrite faults ctx buffer length w).2.nextKeyId = w.nextKeyId ∧
      (zephyrWrite faults ctx buffer length w).2.volatileKeys = w.volatileKeys
    unfold zephyrWrite
    dsimp only
    split
    · exact ⟨rfl, rfl⟩
    split
    · exact ⟨rfl, rfl⟩
    split
    · exact ⟨rfl, rfl⟩
    split
    · exact ⟨rfl, rfl⟩
    · exact ⟨rfl, rfl⟩
  | remove id =>
    show (zephyrRemove faults id w).2.nextKeyId = w.nextKeyId ∧
      (zephyrRemove faults id w).2.volatileKeys = w.volatileKeys
    unfold zephyrRemove
    split
    · exact ⟨rfl, rfl⟩
    split
    · exact ⟨rfl, rfl⟩
    split
    · exact ⟨rfl, rfl⟩
    · exact ⟨rfl, rfl⟩

/-! ## The counter -/

/-- The counter is outside the range of identifiers it may hand out. -/
def Spent (w : World) : Prop := w.nextKeyId < psaKeyIdVendorMin ∨ w.nextKeyId > psaKeyIdVendorMax

instance (w : World) : Decidable (Spent w) :=
  inferInstanceAs (Decidable (_ ∨ _))

theorem localHandler_nextKeyId (fault : Fault) (w : World) :
    localHandler fault .nextKeyId w =
      if Spent w then (none, w) else (some w.nextKeyId, { w with nextKeyId := w.nextKeyId + 1 }) :=
  rfl

/-- The identifier an action takes from the counter. -/
def takenId (a : KeyAct) (w : World) : Option KeyId :=
  match a with
  | .here .nextKeyId => if Spent w then none else some w.nextKeyId
  | _ => none

/-- The identifiers that were taken in a run and who took them, most recent first. -/
def takenIds (actions : Actions KeyAct World) : List (Nat × KeyId) :=
  actions.flatMap fun e => (takenId e.2.1 e.2.2).toList.map (e.1, ·)

/-- The identifiers member `t` has taken. -/
def idsOf (t : Nat) (taken : List (Nat × KeyId)) : List KeyId :=
  (taken.filter (·.1 == t)).map Prod.snd

theorem mem_idsOf {t : Nat} {taken : List (Nat × KeyId)} {id : KeyId} :
    id ∈ idsOf t taken ↔ (t, id) ∈ taken := by
  simp [idsOf]

section

variable {backend : StoreBackend} (leaves : LeavesProcess backend)
include leaves

/-- Taking an identifier moves the counter to the next one; nothing else moves it. -/
theorem keyHandler_counter (faults : Nat → Fault) (a : KeyAct) (w : World) :
    (keyHandler backend faults a w).2.nextKeyId =
      if (takenId a w).isSome then w.nextKeyId + 1 else w.nextKeyId := by
  match a with
  | .lock | .unlock => rfl
  | .store a => exact (leaves faults a w).1
  | .here .nextKeyId =>
    show (localHandler (faults 0) .nextKeyId w).2.nextKeyId = _
    rw [localHandler_nextKeyId]
    unfold takenId
    dsimp only
    by_cases spent : Spent w
    · rw [if_pos spent, if_pos spent]
      rfl
    · rw [if_neg spent, if_neg spent]
      rfl
  | .here (.volatileStore id attributes data) =>
    show (volatileStore (faults 0) w id attributes data).2.nextKeyId = w.nextKeyId
    unfold volatileStore
    split_ifs <;> rfl
  | .here (.volatileRemove id) =>
    show (localHandler (faults 0) (.volatileRemove id) w).2.nextKeyId = w.nextKeyId
    unfold localHandler
    dsimp only
    split <;> rfl
  | .here .checkInit | .here (.malloc _) | .here (.volatileGet _) | .here (.volatileGetAttributes _)
  | .here (.generateRandom _) | .here (.generateKeyPair ..) => rfl

/-- No action puts a second node with one identifier into the volatile list. -/
theorem keyHandler_distinct (faults : Nat → Fault) (a : KeyAct) {w : World}
    (distinct : (w.volatileKeys.map (·.id)).Nodup) :
    ((keyHandler backend faults a w).2.volatileKeys.map (·.id)).Nodup := by
  match a with
  | .lock | .unlock => exact distinct
  | .store a =>
    show ((backend.call faults a w).2.volatileKeys.map (·.id)).Nodup
    rw [(leaves faults a w).2]
    exact distinct
  | .here .nextKeyId =>
    show ((localHandler (faults 0) .nextKeyId w).2.volatileKeys.map (·.id)).Nodup
    unfold localHandler
    dsimp only
    split
    · exact distinct
    · exact distinct
  | .here (.volatileStore id attributes data) =>
    show ((volatileStore (faults 0) w id attributes data).2.volatileKeys.map (·.id)).Nodup
    unfold volatileStore
    split
    · exact distinct
    split
    · exact distinct
    rename_i free
    split
    · exact distinct
    refine List.nodup_cons.mpr ⟨fun member => free ?_, distinct⟩
    obtain ⟨node, linked, same⟩ := List.mem_map.mp member
    unfold wolfpsaVolatileFind
    rw [List.find?_isSome]
    exact ⟨node, linked, by simpa using same⟩
  | .here (.volatileRemove id) =>
    show ((localHandler (faults 0) (.volatileRemove id) w).2.volatileKeys.map (·.id)).Nodup
    unfold localHandler
    dsimp only
    split
    · exact distinct.sublist (List.eraseP_sublist.map _)
    · exact distinct
  | .here .checkInit | .here (.malloc _) | .here (.volatileGet _) | .here (.volatileGetAttributes _)
  | .here (.generateRandom _) | .here (.generateKeyPair ..) => exact distinct

/-- A node of the volatile list was there before, or the action has put it there. -/
theorem keyHandler_nodes (faults : Nat → Fault) (a : KeyAct) {w : World} {node : VolatileKey}
    (linked : node ∈ (keyHandler backend faults a w).2.volatileKeys) :
    node ∈ w.volatileKeys ∨
      a = KeyAct.here (.volatileStore node.id node.attributes node.data) := by
  match a with
  | .lock | .unlock => exact .inl linked
  | .store a =>
    have same : (keyHandler backend faults (KeyAct.store a) w).2.volatileKeys = w.volatileKeys :=
      (leaves faults a w).2
    rw [same] at linked
    exact .inl linked
  | .here .nextKeyId =>
    have same : (keyHandler backend faults (KeyAct.here .nextKeyId) w).2.volatileKeys =
        w.volatileKeys := by
      show (localHandler (faults 0) .nextKeyId w).2.volatileKeys = _
      rw [localHandler_nextKeyId]
      split <;> rfl
    rw [same] at linked
    exact .inl linked
  | .here (.volatileStore id attributes data) =>
    have linked' : node ∈ (volatileStore (faults 0) w id attributes data).2.volatileKeys := linked
    unfold volatileStore at linked'
    split_ifs at linked'
    · exact .inl linked'
    · exact .inl linked'
    · exact .inl linked'
    · rcases List.mem_cons.mp linked' with rfl | old
      · exact .inr rfl
      · exact .inl old
  | .here (.volatileRemove id) =>
    have linked' : node ∈ (localHandler (faults 0) (.volatileRemove id) w).2.volatileKeys := linked
    unfold localHandler at linked'
    dsimp only at linked'
    split at linked'
    · exact .inl (List.mem_of_mem_eraseP linked')
    · exact .inl linked'
  | .here .checkInit | .here (.malloc _) | .here (.volatileGet _) | .here (.volatileGetAttributes _)
  | .here (.generateRandom _) | .here (.generateKeyPair ..) => exact .inl linked

end

/-- A spent counter stays where it is. -/
theorem keyHandler_spent {backend : StoreBackend} (leaves : LeavesProcess backend)
    (faults : Nat → Fault) (a : KeyAct) {w : World} (spent : Spent w) :
    Spent (keyHandler backend faults a w).2 := by
  have untaken : takenId a w = none := by
    unfold takenId
    split
    · exact if_pos spent
    · rfl
  have kept := keyHandler_counter leaves faults a w
  rw [untaken] at kept
  have same : (keyHandler backend faults a w).2.nextKeyId = w.nextKeyId := kept
  unfold Spent
  rw [same]
  exact spent

/-! ## What a call takes and stores -/

/-- Whatever the answers, the program puts a node into the volatile list only under an identifier it
has taken from the counter, and returns as `post` tells of the identifiers it has taken. -/
def StoresTaken {α : Type} (backend : StoreBackend) (post : List KeyId → α → Prop) :
    List KeyId → KeyProg α → Prop
  | ids, .ret value => post ids value
  | ids, .act a next =>
    (∀ id attributes data, a = KeyAct.here (.volatileStore id attributes data) → id ∈ ids) ∧
      ∀ w faults, StoresTaken backend post ((takenId a w).toList ++ ids)
        (next (keyHandler backend faults a w).1)

section

variable {backend : StoreBackend} {α β : Type} {post : List KeyId → α → Prop} {ids : List KeyId}

/-- An action that takes and stores nothing. -/
private theorem storesTaken_act {a : KeyAct} {k : KeyRes a → KeyProg β}
    {post : List KeyId → β → Prop} (takes : ∀ w, takenId a w = none)
    (stores : ∀ id attributes data, a ≠ KeyAct.here (.volatileStore id attributes data))
    (next : ∀ answer, StoresTaken backend post ids (k answer)) :
    StoresTaken backend post ids (perform a >>= k) := by
  refine ⟨fun id attributes data same => absurd same (stores id attributes data), fun w faults => ?_⟩
  rw [takes w]
  exact next _

private theorem storesTaken_bind {p : KeyProg α} {k : α → KeyProg β} {post : List KeyId → β → Prop}
    (first : StoresTaken backend (fun ids value => StoresTaken backend post ids (k value)) ids p) :
    StoresTaken backend post ids (p >>= k) := by
  induction p generalizing ids with
  | ret value => exact first
  | act a next ih => exact ⟨first.1, fun w faults => ih _ (first.2 w faults)⟩

private theorem storesTaken_importPersistent {post : List KeyId → Except Failure Int → Prop}
    (id : KeyId) (attr : KeyAttributes) (data : Bytes) (all : ∀ r, post ids r) :
    StoresTaken backend post ids (importPersistent id attr data) := by
  refine storesTaken_act (fun _ => rfl) nofun fun _ => ?_
  refine storesTaken_act (fun _ => rfl) nofun fun probed => ?_
  cases probed with
  | ok ctx =>
    refine storesTaken_act (fun _ => rfl) nofun fun _ => ?_
    exact storesTaken_act (fun _ => rfl) nofun fun _ => all _
  | error code =>
    dsimp only
    split
    · exact storesTaken_act (fun _ => rfl) nofun fun _ => all _
    refine storesTaken_act (fun _ => rfl) nofun fun opened => ?_
    cases opened with
    | error code => exact storesTaken_act (fun _ => rfl) nofun fun _ => all _
    | ok ctx =>
      refine storesTaken_act (fun _ => rfl) nofun fun _ => ?_
      refine storesTaken_act (fun _ => rfl) nofun fun _ => ?_
      exact storesTaken_act (fun _ => rfl) nofun fun _ => all _

/-- The call has created a volatile key only under an identifier it has taken. -/
def TookId (volatile : Bool) (ids : List KeyId) (r : Status × KeyId) : Prop :=
  volatile = true → r.1 = .success → r.2 ∈ ids

private theorem TookId.failed {volatile : Bool} {status : Failure} {id : KeyId} :
    TookId volatile ids (status.val, id) :=
  fun _ succeeded => absurd succeeded status.property

private theorem storesTaken_importStore {attr : KeyAttributes} {id : KeyId} (data : Bytes)
    (taken : psaKeyLifetimeIsVolatile attr.lifetime = true → id ∈ ids) :
    StoresTaken backend (TookId (psaKeyLifetimeIsVolatile attr.lifetime)) ids
      (importStore attr data id) := by
  refine storesTaken_act (fun _ => rfl) nofun fun granted => ?_
  split
  · exact fun _ succeeded => by cases succeeded
  by_cases volatile : psaKeyLifetimeIsVolatile attr.lifetime = true
  · rw [if_pos volatile]
    refine ⟨fun id' attributes data' same => ?_, fun w faults => ?_⟩
    · cases same
      exact taken volatile
    show StoresTaken backend _ ids
      (if (keyHandler backend faults (KeyAct.here (.volatileStore id attr data)) w).1 ≠ .success
        then _ else _)
    split
    · rename_i failed
      exact fun _ succeeded => absurd succeeded failed
    · intro _ succeeded
      unfold importVerdict at succeeded ⊢
      split at succeeded
      · exact absurd succeeded (wolfpsaStoreOpenStatus _).property
      split at succeeded
      · cases succeeded
      · rename_i positive exact
        rw [if_neg positive, if_neg exact]
        exact taken volatile
  · rw [if_neg volatile]
    refine storesTaken_bind (storesTaken_importPersistent id attr data fun r => ?_)
    cases r with
    | error status => exact TookId.failed
    | ok code => exact fun volatile' => absurd volatile' volatile

theorem storesTaken_psaImportKey (cfg : ImportConfig) (attributes : KeyAttributes) (data : Bytes) :
    StoresTaken backend (TookId (psaKeyLifetimeIsVolatile attributes.lifetime)) ids
      (psaImportKey cfg attributes data) := by
  unfold psaImportKey
  cases accepted : importCheck cfg attributes data with
  | error status => exact TookId.failed
  | ok attr =>
    have lifetime : attr.lifetime = attributes.lifetime := by rw [(importCheck_ok accepted).2.2.1]
    rw [← lifetime]
    refine storesTaken_act (fun _ => rfl) nofun fun init => ?_
    by_cases failed : init ≠ .success
    · rw [if_pos failed]
      exact fun _ succeeded => absurd succeeded failed
    rw [if_neg failed]
    by_cases assigns : (psaKeyLifetimeIsVolatile attr.lifetime || attr.id == psaKeyIdNull) = true
    · rw [if_pos assigns]
      refine ⟨nofun, fun w faults => ?_⟩
      show StoresTaken backend _ _ (match (localHandler (faults 0) .nextKeyId w).1 with
        | none => _
        | some id => importStore attr data id)
      rw [localHandler_nextKeyId]
      by_cases spent : Spent w
      · rw [if_pos spent]
        exact fun _ succeeded => by cases succeeded
      · rw [if_neg spent]
        refine storesTaken_importStore data fun _ => ?_
        simp [takenId, spent]
    · rw [if_neg assigns]
      refine storesTaken_importStore data fun volatile => ?_
      simp [volatile] at assigns

/-- A program that takes and stores nothing, before one that may. -/
private theorem storesTaken_openRecord {post : List KeyId → Except Failure (Bytes × StoreCtx) → Prop}
    (id : KeyId) (all : ∀ r, post ids r) : StoresTaken backend post ids (openRecord id) := by
  refine storesTaken_act (fun _ => rfl) nofun fun opened => ?_
  cases opened with
  | error code => exact all _
  | ok ctx =>
    refine storesTaken_act (fun _ => rfl) nofun fun read => ?_
    split
    · exact storesTaken_act (fun _ => rfl) nofun fun _ => all _
    · exact all _

private theorem storesTaken_readRecordData {post : List KeyId → Except Failure Bytes → Prop}
    (header : Bytes × StoreCtx) (all : ∀ r, post ids r) :
    StoresTaken backend post ids (readRecordData header) := by
  unfold readRecordData
  dsimp only
  split
  · exact storesTaken_act (fun _ => rfl) nofun fun _ => all _
  refine storesTaken_act (fun _ => rfl) nofun fun granted => ?_
  split
  · exact storesTaken_act (fun _ => rfl) nofun fun _ => all _
  refine storesTaken_act (fun _ => rfl) nofun fun read => ?_
  refine storesTaken_act (fun _ => rfl) nofun fun _ => ?_
  split
  · exact all _
  · exact all _

theorem storesTaken_psaCopyKey (cfg : ImportConfig) (source : KeyId) (requested : KeyAttributes) :
    StoresTaken backend (TookId (psaKeyLifetimeIsVolatile requested.lifetime)) ids
      (psaCopyKey cfg source requested) := by
  have imported {src copy : KeyAttributes} (data : Bytes)
      (granted : copyKeyAttributes src requested = .ok copy) :
      StoresTaken backend (TookId (psaKeyLifetimeIsVolatile requested.lifetime)) ids
        (psaImportKey cfg copy data) := by
    obtain ⟨-, -, -, -, kept, asked, -⟩ := copyKeyAttributes_ok granted
    rw [asked, ← kept]
    exact storesTaken_psaImportKey cfg copy data
  refine storesTaken_act (fun _ => rfl) nofun fun init => ?_
  by_cases failed : init ≠ .success
  · rw [if_pos failed]
    exact fun _ succeeded => absurd succeeded failed
  rw [if_neg failed]
  refine storesTaken_act (fun _ => rfl) nofun fun got => ?_
  cases got with
  | ok key =>
    dsimp only
    cases granted : copyKeyAttributes key.1 requested with
    | error status => exact TookId.failed
    | ok copy => exact imported key.2 granted
  | error status =>
    dsimp only
    split
    · exact TookId.failed
    refine storesTaken_bind (storesTaken_openRecord source fun opened => ?_)
    cases opened with
    | error status => exact TookId.failed
    | ok header =>
      dsimp only
      cases granted : copyKeyAttributes (psaKeyAttributesDeserialize header.1) requested with
      | error status => exact storesTaken_act (fun _ => rfl) nofun fun _ => TookId.failed
      | ok copy =>
        refine storesTaken_bind (storesTaken_readRecordData header fun read => ?_)
        cases read with
        | error status => exact TookId.failed
        | ok data => exact imported data granted

theorem storesTaken_psaDestroyKey {post : List KeyId → Status → Prop} (id : KeyId)
    (all : ∀ r, post ids r) : StoresTaken backend post ids (psaDestroyKey id) := by
  unfold psaDestroyKey
  split
  · exact all _
  refine storesTaken_act (fun _ => rfl) nofun fun init => ?_
  split
  · exact all _
  refine storesTaken_act (fun _ => rfl) nofun fun removed => ?_
  split
  · exact all _
  refine storesTaken_act (fun _ => rfl) nofun fun code => ?_
  split
  · exact all _
  split
  · exact all _
  · exact all _

end

/-! ## Threads -/

/-- A call that may create or destroy a key. -/
inductive IdCall where
  | importKey (attributes : KeyAttributes) (data : Bytes)
  | copyKey (source : KeyId) (requested : KeyAttributes)
  | destroyKey (id : KeyId)

/-- The call with its status and the identifier it reports. -/
def IdCall.program (cfg : ImportConfig) : IdCall → KeyProg (Status × KeyId)
  | .importKey attributes data => psaImportKey cfg attributes data
  | .copyKey source requested => psaCopyKey cfg source requested
  | .destroyKey id => do pure (← psaDestroyKey id, psaKeyIdNull)

/-- The call asks for a volatile key. -/
def IdCall.asksVolatile : IdCall → Bool
  | .importKey attributes _ => psaKeyLifetimeIsVolatile attributes.lifetime
  | .copyKey _ requested => psaKeyLifetimeIsVolatile requested.lifetime
  | .destroyKey _ => false

/-- Any number of calls, each one a member of the crew. Calls that one thread makes one after another
are members of which the next one takes its first turn after the one before has returned. -/
def idCrew (cfg : ImportConfig) (calls : Nat → IdCall) (w : World) :
    Crew KeyAct KeyRes World (Status × KeyId) :=
  ⟨w, none, fun t => (calls t).program cfg⟩

theorem storesTaken_program {backend : StoreBackend} (cfg : ImportConfig) (call : IdCall) :
    StoresTaken backend (TookId call.asksVolatile) [] (call.program cfg) := by
  cases call with
  | importKey attributes data => exact storesTaken_psaImportKey cfg attributes data
  | copyKey source requested => exact storesTaken_psaCopyKey cfg source requested
  | destroyKey id =>
    exact storesTaken_bind (storesTaken_psaDestroyKey id fun _ => nofun)

/-- A process that has just started, on whatever its store already holds. -/
def ProcessStart (w : World) : Prop :=
  w.nextKeyId = psaKeyIdVendorMin ∧ w.volatileKeys = []

/-- What holds of the history and the crew in every run: the identifiers taken so far rise to the
counter, and what is in the list and what the calls go on to report was taken. -/
structure FreshIds (backend : StoreBackend) (calls : Nat → IdCall) (actions : Actions KeyAct World)
    (c : Crew KeyAct KeyRes World (Status × KeyId)) : Prop where
  rising : (takenIds actions).Pairwise fun later earlier => earlier.2 < later.2
  taken : ∀ e ∈ takenIds actions, psaKeyIdVendorMin ≤ e.2 ∧ e.2 ≤ psaKeyIdVendorMax ∧
    e.2 < c.state.nextKeyId
  counter : psaKeyIdVendorMin ≤ c.state.nextKeyId
  distinct : (c.state.volatileKeys.map (·.id)).Nodup
  linked : ∀ node ∈ c.state.volatileKeys, ∃ t, (t, node.id) ∈ takenIds actions
  members : ∀ t, StoresTaken backend (TookId (calls t).asksVolatile) (idsOf t (takenIds actions))
    (c.threads t)

private theorem takenId_some {a : KeyAct} {w : World} {id : KeyId} (took : takenId a w = some id) :
    id = w.nextKeyId ∧ ¬Spent w := by
  unfold takenId at took
  split at took
  · split at took
    · cases took
    · rename_i left
      exact ⟨(Option.some.inj took).symm, left⟩
  · cases took

section

variable {backend : StoreBackend} {calls : Nat → IdCall}

private theorem counter_rises (leaves : LeavesProcess backend) (faults : Nat → Fault) (a : KeyAct)
    (w : World) (id : KeyId) : id < w.nextKeyId ∨ takenId a w = some id →
      id < (keyHandler backend faults a w).2.nextKeyId := by
  rw [keyHandler_counter leaves]
  cases took : takenId a w with
  | none => simp
  | some id' =>
    obtain ⟨rfl, left⟩ := takenId_some took
    unfold Spent psaKeyIdVendorMin psaKeyIdVendorMax at left
    rintro (below | same)
    · show id < w.nextKeyId + 1
      bv_omega
    · cases same
      show w.nextKeyId < w.nextKeyId + 1
      bv_omega

/-- One action of any member keeps the invariant. -/
theorem FreshIds.act (leaves : LeavesProcess backend) {actions : Actions KeyAct World}
    {c : Crew KeyAct KeyRes World (Status × KeyId)} (fresh : FreshIds backend calls actions c)
    (t : Nat) (faults : Nat → Fault) {a : KeyAct} {k : KeyRes a → KeyProg (Status × KeyId)}
    (remaining : c.threads t = act a k) (holder : Option (Option Nat)) :
    FreshIds backend calls ((t, a, c.state) :: actions)
      ⟨(keyHandler backend faults a c.state).2, holder,
        Function.update c.threads t (k (keyHandler backend faults a c.state).1)⟩ := by
  have split : takenIds ((t, a, c.state) :: actions) =
      (takenId a c.state).toList.map (t, ·) ++ takenIds actions := rfl
  have mine := fresh.members t
  rw [remaining] at mine
  obtain ⟨stores, next⟩ := mine
  constructor
  · rw [split, List.pairwise_append]
    refine ⟨?_, fresh.rising, ?_⟩
    · cases takenId a c.state <;> simp
    · intro later first earlier before
      cases took : takenId a c.state with
      | none => simp [took] at first
      | some id =>
        obtain ⟨rfl, -⟩ := takenId_some took
        have same : later = (t, c.state.nextKeyId) := by simpa [took] using first
        rw [same]
        exact (fresh.taken earlier before).2.2
  · intro e member
    rw [split, List.mem_append] at member
    rcases member with first | before
    · cases took : takenId a c.state with
      | none => simp [took] at first
      | some id =>
        have same : e = (t, id) := by simpa [took] using first
        subst same
        obtain ⟨rfl, left⟩ := takenId_some took
        refine ⟨?_, ?_, counter_rises leaves faults a c.state _ (.inr took)⟩
        · exact BitVec.not_lt.mp fun below => left (.inl below)
        · exact BitVec.not_lt.mp fun above => left (.inr above)
    · obtain ⟨low, high, below⟩ := fresh.taken e before
      exact ⟨low, high, counter_rises leaves faults a c.state _ (.inl below)⟩
  · show psaKeyIdVendorMin ≤ (keyHandler backend faults a c.state).2.nextKeyId
    rw [keyHandler_counter leaves]
    have low := fresh.counter
    cases took : takenId a c.state with
    | none => exact low
    | some id =>
      obtain ⟨rfl, left⟩ := takenId_some took
      show psaKeyIdVendorMin ≤ c.state.nextKeyId + 1
      unfold Spent at left
      unfold psaKeyIdVendorMin psaKeyIdVendorMax at *
      bv_omega
  · exact keyHandler_distinct leaves faults a fresh.distinct
  · intro node member
    rw [split]
    rcases keyHandler_nodes leaves faults a member with old | put
    · obtain ⟨u, took⟩ := fresh.linked node old
      exact ⟨u, List.mem_append_right _ took⟩
    · exact ⟨t, List.mem_append_right _ (mem_idsOf.mp (stores _ _ _ put))⟩
  · intro u
    dsimp only
    rw [split]
    unfold idsOf
    rw [List.filter_append, List.map_append]
    by_cases same : u = t
    · subst same
      rw [Function.update_self]
      have first : (((takenId a c.state).toList.map ((u, ·) : KeyId → Nat × KeyId)).filter
          (·.1 == u)).map Prod.snd = (takenId a c.state).toList := by
        cases takenId a c.state <;> simp
      rw [first]
      exact next c.state faults
    · rw [Function.update_of_ne same]
      have first : ((takenId a c.state).toList.map ((t, ·) : KeyId → Nat × KeyId)).filter
          (·.1 == u) = [] := by
        have other : ¬t = u := fun equal => same equal.symm
        cases takenId a c.state <;> simp [other]
      rw [first]
      exact fresh.members u

theorem freshIds_run (leaves : LeavesProcess backend) (cfg : ImportConfig) (calls : Nat → IdCall)
    {w : World} (start : ProcessStart w) (turns : List (Nat × (Nat → Fault))) :
    FreshIds backend calls ((idCrew cfg calls w).history (keyHandler backend) keyLockUse turns)
      ((idCrew cfg calls w).run (keyHandler backend) keyLockUse turns) := by
  refine Crew.history_invariant (FreshIds backend calls) ?_ ?_ turns
  · refine ⟨List.Pairwise.nil, nofun, ?_, ?_, ?_, fun t => storesTaken_program cfg (calls t)⟩
    · show psaKeyIdVendorMin ≤ w.nextKeyId
      rw [start.1]
      exact BitVec.le_refl _
    · show (w.volatileKeys.map (·.id)).Nodup
      simp [start.2]
    · show ∀ node ∈ w.volatileKeys, _
      simp [start.2]
  · intro actions c t faults a k remaining _ fresh
    exact fresh.act leaves t faults remaining _

/-! ## The end of the range -/

/-- The initialisation check of the key storage passes. -/
def InitPasses (faults : Nat → Fault) : Prop := (faults 0).fails = false

private theorem checkInit_passes {faults : Nat → Fault} (passes : InitPasses faults) (w : World) :
    keyHandler backend faults (KeyAct.here .checkInit) w = (.success, w) := by
  show (if (faults 0).fails then (faults 0).status.val else .success, w) = _
  rw [passes]
  rfl

private theorem takeNextKeyId_spent (faults : Nat → Fault) {w : World} (spent : Spent w) :
    keyHandler backend faults (KeyAct.here .nextKeyId) w = (none, w) := by
  show localHandler (faults 0) .nextKeyId w = _
  rw [localHandler_nextKeyId, if_pos spent]

/-- With a spent counter an accepted volatile import is refused, whatever runs beside it. -/
private theorem psaImportKey_spent {cfg : ImportConfig} {attributes attr : KeyAttributes}
    {data : Bytes} (accepted : importCheck cfg attributes data = .ok attr)
    (volatile : psaKeyLifetimeIsVolatile attributes.lifetime = true) :
    Under (keyHandler backend) InitPasses Spent (· = (.insufficientStorage, psaKeyIdNull))
      (psaImportKey cfg attributes data) := by
  have lifetime : attr.lifetime = attributes.lifetime := by rw [(importCheck_ok accepted).2.2.1]
  unfold psaImportKey
  rw [accepted]
  refine under_act fun w faults _ passes => ?_
  rw [checkInit_passes passes, if_neg (show ¬Status.success ≠ .success by decide),
    if_pos (by simp [lifetime, volatile])]
  refine under_act fun w faults spent _ => ?_
  rw [takeNextKeyId_spent faults spent]
  rfl

end

/-- No identifier is handed out twice: what the counter gave is in the vendor range and pairwise
distinct, every volatile key has such an identifier, and so has every call that reports one. -/
structure DistinctIds (calls : Nat → IdCall) (actions : Actions KeyAct World)
    (c : Crew KeyAct KeyRes World (Status × KeyId)) : Prop where
  range : ∀ e ∈ takenIds actions, psaKeyIdVendorMin ≤ e.2 ∧ e.2 ≤ psaKeyIdVendorMax
  distinct : ((takenIds actions).map Prod.snd).Nodup
  linked : ∀ node ∈ c.state.volatileKeys, ∃ t, (t, node.id) ∈ takenIds actions
  oneNode : (c.state.volatileKeys.map (·.id)).Nodup
  reported : ∀ t id, (calls t).asksVolatile = true → returned c t = some (.success, id) →
    (t, id) ∈ takenIds actions
  oneCall : ∀ t u id, (calls t).asksVolatile = true → (calls u).asksVolatile = true →
    returned c t = some (.success, id) → returned c u = some (.success, id) → t = u

theorem FreshIds.distinctIds {backend : StoreBackend} {calls : Nat → IdCall}
    {actions : Actions KeyAct World} {c : Crew KeyAct KeyRes World (Status × KeyId)}
    (fresh : FreshIds backend calls actions c) : DistinctIds calls actions c := by
  have apart : ((takenIds actions).map Prod.snd).Nodup := by
    refine List.pairwise_map.mpr (fresh.rising.imp fun {a b} below same => ?_)
    rw [same] at below
    exact BitVec.lt_irrefl _ below
  have reported (t : Nat) (id : KeyId) (asks : (calls t).asksVolatile = true)
      (ended : returned c t = some (.success, id)) : (t, id) ∈ takenIds actions := by
    have mine := fresh.members t
    rw [of_result ended] at mine
    exact mem_idsOf.mp (mine asks rfl)
  refine ⟨fun e member => ?_, apart, fresh.linked, fresh.distinct, reported, ?_⟩
  · obtain ⟨low, high, -⟩ := fresh.taken e member
    exact ⟨low, high⟩
  · intro t u id asks asks' ended ended'
    have same := List.inj_on_of_nodup_map apart (reported t id asks ended)
      (reported u id asks' ended') rfl
    exact congrArg Prod.fst same

/-- A volatile import that begins once the range is used up is refused with
`PSA_ERROR_INSUFFICIENT_STORAGE`. -/
structure RefusesWhenSpent (backend : StoreBackend) (cfg : ImportConfig) (attributes : KeyAttributes)
    (data : Bytes) : Prop where
  amid : ∀ (c : Crew KeyAct KeyRes World (Status × KeyId)) (t : Nat)
    (turns : List (Nat × (Nat → Fault))), Spent c.state →
    c.threads t = psaImportKey cfg attributes data →
    (∀ turn ∈ turns, turn.1 = t → InitPasses turn.2) →
    ∀ r, returned (c.run (keyHandler backend) keyLockUse turns) t = some r →
      r = (.insufficientStorage, psaKeyIdNull)
  alone : ∀ w faults, Spent w → (∀ n, InitPasses (faults n)) →
    runKey backend faults (psaImportKey cfg attributes data) w =
      ((.insufficientStorage, psaKeyIdNull), w)

theorem refusesWhenSpent {backend : StoreBackend} (leaves : LeavesProcess backend)
    {cfg : ImportConfig} {attributes attr : KeyAttributes} {data : Bytes}
    (accepted : importCheck cfg attributes data = .ok attr)
    (volatile : psaKeyLifetimeIsVolatile attributes.lifetime = true) :
    RefusesWhenSpent backend cfg attributes data := by
  constructor
  · intro c t turns spent waits passes r ended
    have goes : Under (keyHandler backend) InitPasses Spent (· = (.insufficientStorage, psaKeyIdNull))
        (c.threads t) := by
      rw [waits]
      exact psaImportKey_spent accepted volatile
    have after : Under (keyHandler backend) InitPasses Spent
        (· = (.insufficientStorage, psaKeyIdNull))
        ((c.run (keyHandler backend) keyLockUse turns).threads t) :=
      Crew.under (fun w faults a => keyHandler_spent leaves faults a) spent goes turns passes
    rw [of_result ended] at after
    exact after
  · intro w faults spent passes
    have lifetime : attr.lifetime = attributes.lifetime := by rw [(importCheck_ok accepted).2.2.1]
    unfold runKey psaImportKey
    rw [accepted]
    show Prog.run _ _ (if (keyHandler backend (faults 0) (KeyAct.here .checkInit) w).1 ≠ .success
      then _ else _) (keyHandler backend (faults 0) (KeyAct.here .checkInit) w).2 = _
    rw [checkInit_passes (passes 0), if_neg (by simp), if_pos (by simp [lifetime, volatile])]
    show Prog.run _ _ (match (keyHandler backend (faults 1) (KeyAct.here .nextKeyId) w).1 with
      | none => _
      | some id => importStore attr data id)
      (keyHandler backend (faults 1) (KeyAct.here .nextKeyId) w).2 = _
    rw [takeNextKeyId_spent (faults 1) spent]
    rfl

/-- Over every interleaving of any number of `psa_import_key`, `psa_copy_key` and `psa_destroy_key`
calls of a process, with every failure on the way, the identifiers of its volatile keys are in the
vendor range and never handed out twice; when the range is used up the counter stays used up and every
further volatile import is refused. -/
theorem volatile_ids_are_fresh {backend : StoreBackend}
    (shipped : (∃ store, backend = posixBackend store) ∨ backend = zephyrBackend)
    (cfg : ImportConfig) (calls : Nat → IdCall) {w : World} (start : ProcessStart w) :
    (∀ turns : List (Nat × (Nat → Fault)),
      DistinctIds calls ((idCrew cfg calls w).history (keyHandler backend) keyLockUse turns)
        ((idCrew cfg calls w).run (keyHandler backend) keyLockUse turns)) ∧
    (∀ turns more : List (Nat × (Nat → Fault)),
      Spent ((idCrew cfg calls w).run (keyHandler backend) keyLockUse turns).state →
      Spent ((idCrew cfg calls w).run (keyHandler backend) keyLockUse (turns ++ more)).state) ∧
    ∀ (attributes attr : KeyAttributes) (data : Bytes),
      importCheck cfg attributes data = .ok attr →
      psaKeyLifetimeIsVolatile attributes.lifetime = true →
      RefusesWhenSpent backend cfg attributes data := by
  have leaves : LeavesProcess backend := by
    rcases shipped with ⟨store, rfl⟩ | rfl
    · exact leavesProcess_posixBackend store
    · exact leavesProcess_zephyrBackend
  refine ⟨fun turns => (freshIds_run leaves cfg calls start turns).distinctIds, ?_, ?_⟩
  · intro turns more spent
    have appended : (idCrew cfg calls w).run (keyHandler backend) keyLockUse (turns ++ more) =
        ((idCrew cfg calls w).run (keyHandler backend) keyLockUse turns).run (keyHandler backend)
          keyLockUse more := List.foldl_append
    rw [appended]
    exact Crew.run_state (fun w faults a => keyHandler_spent leaves faults a) spent more
  · intro attributes attr data accepted volatile
    exact refusesWhenSpent leaves accepted volatile

/-- A process that has handed out the last identifier. -/
def lastIdTaken : World := { freshWorld with nextKeyId := psaKeyIdVendorMax + 1 }

theorem aes_imports_have_fresh_ids :
    ProcessStart freshWorld ∧ Spent lastIdTaken ∧
    (∀ turns : List (Nat × (Nat → Fault)),
      DistinctIds (fun _ => .importKey volatileAesKey (List.replicate 16 0))
        ((idCrew plainImport (fun _ => .importKey volatileAesKey (List.replicate 16 0))
          freshWorld).history (keyHandler (posixBackend freshStore)) keyLockUse turns)
        ((idCrew plainImport (fun _ => .importKey volatileAesKey (List.replicate 16 0))
          freshWorld).run (keyHandler (posixBackend freshStore)) keyLockUse turns)) ∧
    RefusesWhenSpent (posixBackend freshStore) plainImport volatileAesKey
      (List.replicate 16 0) := by
  have start : ProcessStart freshWorld := ⟨rfl, rfl⟩
  have accepted : importCheck plainImport volatileAesKey (List.replicate 16 0) =
      .ok volatileAesKey := rfl
  obtain ⟨distinct, -, refuses⟩ := volatile_ids_are_fresh (.inl ⟨freshStore, rfl⟩) plainImport
    (fun _ => .importKey volatileAesKey (List.replicate 16 0)) start
  exact ⟨start, by decide, distinct, refuses _ _ _ accepted rfl⟩

end WolfPSA.Guarantees
