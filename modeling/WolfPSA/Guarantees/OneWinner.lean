import WolfPSA.Guarantees.RecordRoundTrip
import WolfPSA.Lib.Crew

/-!
# One winner per persistent identifier

Any number of threads create a key under one persistent identifier. `psa_import_key` probes the store
and writes the record under one lock, so the critical sections run one after another: the first one
stores its key, every later one finds the record. The lock comes back on every path through the call,
whatever the store answers.
-/

namespace WolfPSA.Guarantees
open Lib Source Prog

/-! ## The critical section -/

/-- The probe, the write and the verdict as one step: a free identifier takes the record, a taken one
refuses. -/
def ImportSection (backend : StoreBackend) (good : World → Prop) (id : KeyId) (record : Bytes)
    (w : World) (r : Status × KeyId) (w' : World) : Prop :=
  match backend.record w id with
  | none => r = (.success, id) ∧ good w' ∧ backend.record w' id = some record
  | some _ => r = (.alreadyExists, psaKeyIdNull) ∧ w' = w

section

variable {backend : StoreBackend} {good : World → Prop} {cfg : ImportConfig} {id : KeyId}
  {attributes attr : KeyAttributes} {data : Bytes}

/-- `psa_import_key` from its lock on. -/
private theorem importPersistent_approaches (lawful : LawfulStore backend good)
    (named : id ≠ psaKeyIdNull) (fits : keyHeaderLength + data.length ≤ intMax) :
    Approaches (keyHandler backend) keyLockUse CalmFaults good
      (ImportSection backend good id (keyRecord attr data))
      (importPersistent id attr data >>= fun
        | .error status => pure (status.val, psaKeyIdNull)
        | .ok code => pure (importVerdict code id data.length)) := by
  unfold importPersistent
  rw [Prog.bind_assoc]
  refine approaches_lock rfl fun w faults _ holds => ⟨rfl, ?_⟩
  rw [Prog.bind_assoc]
  unfold ImportSection
  cases present : backend.record w id with
  | some record =>
    refine inside_act (.inr rfl) fun faults calm answer s opened => ?_
    obtain ⟨ctx, found, -, handle⟩ := lawful.found calm holds named present
    obtain ⟨rfl, rfl⟩ := Prod.mk.inj (found.symm.trans opened)
    dsimp only
    rw [Prog.bind_assoc]
    refine inside_act (.inr rfl) fun faults calm answer s closed => ?_
    obtain ⟨rfl, rfl⟩ := Prod.mk.inj ((lawful.closed calm handle).symm.trans closed)
    exact inside_release rfl fun _ _ => ⟨_, rfl, rfl, rfl⟩
  | none =>
    refine inside_act (.inr rfl) fun faults calm answer s probed => ?_
    obtain ⟨rfl, rfl⟩ := Prod.mk.inj ((lawful.missing calm holds named present).symm.trans probed)
    dsimp only
    rw [if_neg (by simp), Prog.bind_assoc]
    have nonempty : keyRecord attr data ≠ [] := by
      intro empty
      have length := length_keyRecord attr data
      rw [empty, List.length_nil] at length
      simp only [keyHeaderLength] at length
      omega
    have written := lawful.writes holds named nonempty (by rw [length_keyRecord]; exact fits)
    rw [length_keyRecord] at written
    refine inside_act (.inr rfl) fun faults calm answer s opened => ?_
    obtain ⟨ctx, w₁, granted, written⟩ := written faults calm data.length
    obtain ⟨rfl, rfl⟩ := Prod.mk.inj (granted.symm.trans opened)
    dsimp only
    rw [Prog.bind_assoc]
    refine inside_act (.inr rfl) fun faults calm answer s wrote => ?_
    obtain ⟨ctx', w₂, stored, written⟩ := written faults calm
    obtain ⟨rfl, rfl⟩ := Prod.mk.inj (stored.symm.trans wrote)
    rw [Prog.bind_assoc]
    refine inside_act (.inr rfl) fun faults calm answer s closed => ?_
    obtain ⟨w₃, committed, kept, moved⟩ := written faults calm
    obtain ⟨rfl, rfl⟩ := Prod.mk.inj (committed.symm.trans closed)
    refine inside_release rfl fun _ _ => ⟨_, rfl, ?_, kept, ?_⟩
    · simp [importVerdict_fits fits]
    · have records := congrArg (fun m => m.records id) moved
      exact records.trans (Function.update_self _ _ _)

theorem psaImportKey_approaches (lawful : LawfulStore backend good)
    (accepted : importCheck cfg attributes data = .ok attr)
    (persistent : psaKeyLifetimeIsVolatile attributes.lifetime = false)
    (named : attributes.id ≠ psaKeyIdNull) (fits : keyHeaderLength + data.length ≤ intMax) :
    Approaches (keyHandler backend) keyLockUse CalmFaults good
      (ImportSection backend good attributes.id (keyRecord attr data))
      (psaImportKey cfg attributes data) := by
  have sized := (importCheck_ok accepted).2.2.1
  have lifetime : psaKeyLifetimeIsVolatile attr.lifetime = false := by
    rw [sized]
    exact persistent
  have given : attr.id = attributes.id := by rw [sized]
  unfold psaImportKey
  rw [accepted]
  refine approaches_act (.inl rfl) fun w faults calm => ?_
  rw [calm_checkInit faults calm]
  refine ⟨rfl, ?_⟩
  rw [if_neg (show ¬Status.success ≠ .success by decide), given, if_neg (by simp [lifetime, named])]
  refine approaches_act (.inr rfl) fun w faults calm => ?_
  rw [calm_malloc .recordBuffer faults calm]
  refine ⟨rfl, ?_⟩
  rw [if_neg (show ¬(!true) = true by decide), if_neg (by simp [lifetime])]
  exact importPersistent_approaches lawful named fits

/-! ## The lock comes back -/

private theorem importPersistent_balanced (id : KeyId) (attr : KeyAttributes) (data : Bytes) :
    Balanced keyLockUse false (importPersistent id attr data) := by
  refine ⟨rfl, fun _ probed => ?_⟩
  cases probed with
  | ok ctx => exact fun _ => ⟨rfl, fun _ => rfl⟩
  | error code =>
    show Balanced keyLockUse true (if code ≠ storeNotAvailable then _ else _)
    split
    · exact ⟨rfl, fun _ => rfl⟩
    intro opened
    cases opened with
    | error code => exact ⟨rfl, fun _ => rfl⟩
    | ok ctx => exact fun _ _ => ⟨rfl, fun _ => rfl⟩

private theorem importStore_balanced (attr : KeyAttributes) (data : Bytes) (id : KeyId) :
    Balanced keyLockUse false (importStore attr data id) := by
  intro granted
  show Balanced keyLockUse false (if !granted then _ else _)
  split
  · rfl
  split
  · intro stored
    show Balanced keyLockUse false (if stored ≠ .success then _ else _)
    split <;> rfl
  refine balanced_bind (importPersistent_balanced id attr data) ?_
  rintro (status | code) <;> rfl

/-- Whatever the store answers, `psa_import_key` gives the lock back before it returns. -/
theorem psaImportKey_balanced (cfg : ImportConfig) (attributes : KeyAttributes) (data : Bytes) :
    Balanced keyLockUse false (psaImportKey cfg attributes data) := by
  unfold psaImportKey
  split
  · rfl
  intro init
  show Balanced keyLockUse false (if init ≠ .success then _ else _)
  split
  · rfl
  split
  · intro assigned
    cases assigned with
    | none => rfl
    | some id => exact importStore_balanced _ data id
  · exact importStore_balanced _ data _

/-! ## Sections one after another -/

/-- In a sequence of sections on a free identifier, the first one takes it and every later one is
refused. -/
theorem linear_one_winner {records : Nat → Bytes} {w s : World} {done : List (Nat × (Status × KeyId))}
    (linear : Linear (fun t => ImportSection backend good id (records t)) w done s)
    (absent : backend.record w id = none) :
    done = [] ∧ backend.record s id = none ∨
    ∃ t, (t, (Status.success, id)) ∈ done ∧ backend.record s id = some (records t) ∧
      ∀ u r, (u, r) ∈ done → u = t ∧ r = (.success, id) ∨
        u ≠ t ∧ r = (.alreadyExists, psaKeyIdNull) := by
  induction linear with
  | nil => exact .inl ⟨rfl, absent⟩
  | @cons done s s' t value before once next ih =>
    right
    unfold ImportSection at next
    rcases ih with ⟨rfl, free⟩ | ⟨winner, won, held, others⟩
    · rw [free] at next
      obtain ⟨rfl, -, stored⟩ := next
      refine ⟨t, List.mem_cons_self, stored, fun u r member => .inl ?_⟩
      simpa using member
    · rw [held] at next
      obtain ⟨rfl, rfl⟩ := next
      refine ⟨winner, List.mem_cons_of_mem _ won, held, fun u r member => ?_⟩
      rcases List.mem_cons.mp member with same | earlier
      · obtain ⟨rfl, rfl⟩ := Prod.mk.inj same
        exact .inr ⟨fun equal => once _ (equal ▸ won), rfl⟩
      · exact others u r earlier

end

/-! ## Any number of threads -/

/-- A request to create a persistent key that succeeds whenever it runs alone, nothing fails and the
identifier is free. -/
structure OtherwiseValid (backend : StoreBackend) (good : World → Prop) (cfg : ImportConfig)
    (id : KeyId) (request : KeyAttributes × Bytes) : Prop where
  persistent : psaKeyLifetimeIsVolatile request.1.lifetime = false
  named : request.1.id = id
  alone : ∀ w faults, good w → (∀ n, CalmFaults (faults n)) → backend.record w id = none →
    (runKey backend faults (psaImportKey cfg request.1 request.2) w).1 = (.success, id)

/-- Threads that each call `psa_import_key` with a request of their own. -/
def importCrew (cfg : ImportConfig) (requests : Nat → KeyAttributes × Bytes) (w : World) :
    Crew KeyAct KeyRes World (Status × KeyId) :=
  ⟨w, none, fun t => psaImportKey cfg (requests t).1 (requests t).2⟩

/-- What thread `t` of a crew has returned. -/
def returned (c : Crew KeyAct KeyRes World (Status × KeyId)) (t : Nat) : Option (Status × KeyId) :=
  (c.threads t).result

/-- At most one of the first `count` threads has created the key, the others are refused, and once
all have returned, one has and the record in the store is its own; until then one of them can go
on. -/
structure OneWinner (backend : StoreBackend) (cfg : ImportConfig) (id : KeyId)
    (requests : Nat → KeyAttributes × Bytes) (count : Nat)
    (c : Crew KeyAct KeyRes World (Status × KeyId)) : Prop where
  answers : ∀ t < count, ∀ r, returned c t = some r →
    r = (.success, id) ∨ r = (.alreadyExists, psaKeyIdNull)
  atMostOne : ∀ t < count, ∀ u < count, returned c t = some (.success, id) →
    returned c u = some (.success, id) → t = u
  winner : 0 < count → (∀ t < count, (returned c t).isSome) → c.holder = none ∧
    ∃ t < count, returned c t = some (.success, id) ∧
      (∃ attr, importCheck cfg (requests t).1 (requests t).2 = .ok attr ∧
        backend.record c.state id = some (keyRecord attr (requests t).2)) ∧
      ∀ u < count, u ≠ t → returned c u = some (.alreadyExists, psaKeyIdNull)
  progress : ∀ t < count, returned c t = none → ∃ u < count, c.ready keyLockUse u = true

section

variable {backend : StoreBackend} {good : World → Prop} {cfg : ImportConfig} {id : KeyId}
  {requests : Nat → KeyAttributes × Bytes} {count : Nat} {w : World}

/-- The record a request asks for. -/
def requestedRecord (cfg : ImportConfig) (request : KeyAttributes × Bytes) : Bytes :=
  match importCheck cfg request.1 request.2 with
  | .ok attr => keyRecord attr request.2
  | .error _ => []

private theorem OtherwiseValid.checked {request : KeyAttributes × Bytes}
    (shipped : ShippedStore backend good) (holds : good w) (absent : backend.record w id = none)
    (valid : OtherwiseValid backend good cfg id request) :
    ∃ attr, importCheck cfg request.1 request.2 = .ok attr ∧ id ≠ psaKeyIdNull ∧
      keyHeaderLength + request.2.length ≤ intMax := by
  have calm : ∀ n : Nat, CalmFaults ((fun _ _ => calmFault) n) := fun _ _ => calm_calmFault
  have alone := valid.alone w _ holds calm absent
  have fits := (psaImportKey_fits shipped request.1 request.2 w).run_every _
    (congrArg Prod.fst alone)
  have spec : Moves backend good w _ (psaImportKey cfg request.1 request.2) :=
    psaImportKey_moves shipped.lawful holds fits
  obtain ⟨attr, accepted, named, -⟩ := importKey_persistent valid.persistent
    ((spec.run calm).1.symm.trans alone)
  exact ⟨attr, accepted, named, fits⟩

private theorem requested_approaches {request : KeyAttributes × Bytes}
    (shipped : ShippedStore backend good) (holds : good w) (absent : backend.record w id = none)
    (valid : OtherwiseValid backend good cfg id request) :
    Approaches (keyHandler backend) keyLockUse CalmFaults good
      (ImportSection backend good id (requestedRecord cfg request))
      (psaImportKey cfg request.1 request.2) := by
  obtain ⟨attr, accepted, named, fits⟩ := valid.checked shipped holds absent
  have recorded : requestedRecord cfg request = keyRecord attr request.2 := by
    unfold requestedRecord
    rw [accepted]
  have same := valid.named
  subst same
  rw [recorded]
  exact psaImportKey_approaches shipped.lawful accepted valid.persistent named fits

private theorem importSection_good {record : Bytes} {s s' : World} {r : Status × KeyId}
    (holds : good s) (moved : ImportSection backend good id record s r s') : good s' := by
  unfold ImportSection at moved
  split at moved
  · exact moved.2.1
  · rw [moved.2]
    exact holds

private theorem oneWinner_of_linearized {c : Crew KeyAct KeyRes World (Status × KeyId)}
    {done : List (Nat × (Status × KeyId))} {settled : World}
    (linearized : Linearized (keyHandler backend) keyLockUse CalmFaults good
      (fun t => ImportSection backend good id (requestedRecord cfg (requests t))) (· < count) w c
      done settled)
    (absent : backend.record w id = none)
    (checked : ∀ t < count, ∃ attr, importCheck cfg (requests t).1 (requests t).2 = .ok attr) :
    OneWinner backend cfg id requests count c := by
  have sequence := linear_one_winner linearized.linear absent
  -- the answers of the sections, with the winner if there is one
  have answers {t : Nat} (within : t < count) {r : Status × KeyId} (ended : returned c t = some r) :
      (t, r) ∈ done := linearized.answered within ended
  constructor
  · intro t within r ended
    have answered := answers within ended
    rcases sequence with ⟨rfl, -⟩ | ⟨winner, -, -, others⟩
    · cases answered
    · rcases others t r answered with ⟨-, won⟩ | ⟨-, lost⟩
      · exact .inl won
      · exact .inr lost
  · intro t within u within' first second
    rcases sequence with ⟨rfl, -⟩ | ⟨winner, -, -, others⟩
    · cases answers within first
    · have only {v : Nat} (answered : (v, (Status.success, id)) ∈ done) : v = winner := by
        rcases others v _ answered with ⟨same, -⟩ | ⟨-, lost⟩
        · exact same
        · simp at lost
      rw [only (answers within first), only (answers within' second)]
  · intro positive all
    have free := linearized.released all
    obtain ⟨r, ended⟩ := Option.isSome_iff_exists.mp (all 0 positive)
    have answered := answers positive ended
    rcases sequence with ⟨rfl, -⟩ | ⟨winner, won, stored, others⟩
    · cases answered
    have member := linearized.belong winner _ won
    obtain ⟨value, valued, result⟩ := linearized.returned won
    have success : value = (.success, id) := by
      rcases others winner value valued with ⟨-, same⟩ | ⟨different, -⟩
      · exact same
      · exact absurd rfl different
    refine ⟨free, winner, member, ?_, ?_, fun u within different => ?_⟩
    · rw [← success]
      exact result
    · obtain ⟨attr, accepted⟩ := checked winner member
      refine ⟨attr, accepted, ?_⟩
      rw [linearized.free free, stored]
      unfold requestedRecord
      rw [accepted]
    · obtain ⟨r', ended'⟩ := Option.isSome_iff_exists.mp (all u within)
      rcases others u r' (answers within ended') with ⟨same, -⟩ | ⟨-, lost⟩
      · exact absurd same different
      · rw [ended', lost]
  · intro t within running
    exact linearized.progress within running

end

/-- Any number of threads create a key under one free persistent identifier, each with a request that
alone would succeed. However their store calls and lock operations interleave, exactly one succeeds,
the others are refused with `PSA_ERROR_ALREADY_EXISTS`, and the record is the winner's. Over every
fault, a call that has returned does not have the lock. -/
theorem one_import_wins {backend : StoreBackend} {good : World → Prop}
    (shipped : ShippedStore backend good) (cfg : ImportConfig) {id : KeyId}
    (requests : Nat → KeyAttributes × Bytes) {count : Nat} {w : World} (holds : good w)
    (absent : backend.record w id = none)
    (valid : ∀ t < count, OtherwiseValid backend good cfg id (requests t)) :
    (∀ turns : List (Nat × (Nat → Fault)), (∀ turn ∈ turns, turn.1 < count ∧ CalmFaults turn.2) →
      OneWinner backend cfg id requests count
        ((importCrew cfg requests w).run (keyHandler backend) keyLockUse turns)) ∧
    ∀ (turns : List (Nat × (Nat → Fault))) (t : Nat) (r : Status × KeyId),
      returned ((importCrew cfg requests w).run (keyHandler backend) keyLockUse turns) t = some r →
      ((importCrew cfg requests w).run (keyHandler backend) keyLockUse turns).holder ≠
        some (some t) := by
  constructor
  · intro turns allowed
    obtain ⟨done, settled, linearized⟩ := Crew.linearizes
      (fun t within => requested_approaches shipped holds absent (valid t within))
      (c := importCrew cfg requests w) rfl holds
      (fun t s value s' _ before moved => importSection_good before moved) turns allowed
    refine oneWinner_of_linearized linearized absent fun t within => ?_
    obtain ⟨attr, accepted, -⟩ := (valid t within).checked shipped holds absent
    exact ⟨attr, accepted⟩
  · intro turns t r ended
    have start : (importCrew cfg requests w).Balanced keyLockUse :=
      fun t => psaImportKey_balanced cfg (requests t).1 (requests t).2
    have balanced : ((importCrew cfg requests w).run (keyHandler backend) keyLockUse turns).Balanced
        keyLockUse :=
      Crew.run_invariant start (fun c turn (_ : True) before => before.turn turn) turns
        fun _ _ => trivial
    exact balanced.returned (of_result ended)

/-- What the checks accept and fits a record is otherwise valid. -/
theorem otherwiseValid_of_accepted {backend : StoreBackend} {good : World → Prop}
    (lawful : LawfulStore backend good) {cfg : ImportConfig} {attributes attr : KeyAttributes}
    {data : Bytes} (accepted : importCheck cfg attributes data = .ok attr)
    (persistent : psaKeyLifetimeIsVolatile attributes.lifetime = false)
    (named : attributes.id ≠ psaKeyIdNull) (fits : keyHeaderLength + data.length ≤ intMax) :
    OtherwiseValid backend good cfg attributes.id (attributes, data) where
  persistent := persistent
  named := rfl
  alone w faults holds calm absent := by
    have sized := (importCheck_ok accepted).2.2.1
    have lifetime : psaKeyLifetimeIsVolatile attr.lifetime = false := by
      rw [sized]
      exact persistent
    have given : attr.id = attributes.id := by rw [sized]
    have free : (keyMap backend w).records attributes.id = none := absent
    have spec : Moves backend good w _ (psaImportKey cfg attributes data) :=
      psaImportKey_moves lawful holds fits
    refine (spec.run calm).1.trans ?_
    unfold KeyMap.importKey KeyMap.addKey
    rw [accepted]
    dsimp only
    rw [given, if_neg (by simp [lifetime, named]), if_neg (by simp [lifetime]), free]

/-- Three threads with three AES keys for the identifier 1. -/
def threeAesKeys (t : Nat) : KeyAttributes × Bytes :=
  (persistentAesKey, List.replicate 16 (BitVec.ofNat 8 t))

theorem three_aes_imports_one_winner :
    (∀ t < 3, OtherwiseValid (posixBackend freshStore) (NoTemps freshStore) plainImport 1
      (threeAesKeys t)) ∧
    ∀ turns : List (Nat × (Nat → Fault)), (∀ turn ∈ turns, turn.1 < 3 ∧ CalmFaults turn.2) →
      OneWinner (posixBackend freshStore) plainImport 1 threeAesKeys 3
        ((importCrew plainImport threeAesKeys freshWorld).run
          (keyHandler (posixBackend freshStore)) keyLockUse turns) := by
  have valid (t : Nat) (_ : t < 3) : OtherwiseValid (posixBackend freshStore) (NoTemps freshStore)
      plainImport 1 (threeAesKeys t) := by
    have accepted : importCheck plainImport persistentAesKey
        (List.replicate 16 (BitVec.ofNat 8 t)) = .ok persistentAesKey := rfl
    exact otherwiseValid_of_accepted (lawful_posixBackend usable_freshStore) accepted rfl (by decide)
      (by simp [keyHeaderLength, intMax])
  exact ⟨valid, (one_import_wins (.posix usable_freshStore) plainImport threeAesKeys (fun _ => rfl)
    rfl valid).1⟩

end WolfPSA.Guarantees
