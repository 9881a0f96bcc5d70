import WolfPSA.Source.KeyCalls

/-!
# Creating a key, or not

A persistent import either commits the whole record or changes no record, over every fault and every
point at which the process may stop; and a creation that fails leaves no key behind. Both rest on the
`int` length of the record not wrapping: the entry check bounds the key data by `INT_MAX`, the record
is 24 bytes longer.
-/

namespace WolfPSA.Guarantees
open Lib Source

/-- The run of a key call on the POSIX store. -/
def runOn {α : Type} (store : StoreConfig) (faults : Nat → Fault) (p : KeyProg α) (w : World) :
    α × World :=
  (onPosix store p).run sysHandler faults w

theorem runOn_map {α β : Type} (store : StoreConfig) (faults : Nat → Fault) (p : KeyProg α)
    (f : α → β) (w : World) : (runOn store faults (p >>= fun value => pure (f value)) w).1 =
      f (runOn store faults p w).1 := by
  unfold runOn onPosix
  rw [Prog.expand_bind]
  exact congrArg Prod.fst (Prog.run_bind_ret _ faults _ f w)

/-- A triple over every fault bounds every run on the store. -/
theorem runOn_post {α : Type} {store : StoreConfig} {mid : World → Prop} {post : α → World → Prop}
    {p : KeyProg α} {w : World}
    (spec : Prog.Triple sysHandler (fun _ => True) mid post (onPosix store p) w)
    (faults : Nat → Fault) : post (runOn store faults p w).1 (runOn store faults p w).2 :=
  spec.run_every faults

/-- What the process leaves behind when it stops after `k` system calls. -/
def stopOn {α : Type} (store : StoreConfig) (faults : Nat → Fault) (k : Nat) (p : KeyProg α)
    (w : World) : Bool × World :=
  (onPosix store p).cut sysHandler k faults w

/-! ## A persistent import is atomic -/

/-- The import of one key over one schedule of faults commits the record or nothing. -/
structure AtomicImport (cfg : ImportConfig) (store : StoreConfig) (attributes : KeyAttributes)
    (data : Bytes) (w : World) (faults : Nat → Fault) : Prop where
  success : ∀ id, (runOn store faults (psaImportKey cfg attributes data) w).1 = (.success, id) →
    ∃ bits, storedRecord store (runOn store faults (psaImportKey cfg attributes data) w).2 id =
        some (keyRecord { attributes with bits := bits } data) ∧
      ∀ other ≠ id,
        storedRecord store (runOn store faults (psaImportKey cfg attributes data) w).2 other =
          storedRecord store w other
  failure : (runOn store faults (psaImportKey cfg attributes data) w).1.1 ≠ .success → ∀ id,
    storedRecord store (runOn store faults (psaImportKey cfg attributes data) w).2 id =
      storedRecord store w id
  stopped : ∀ k, (stopOn store faults k (psaImportKey cfg attributes data) w).1 = false → ∀ id,
    storedRecord store (stopOn store faults k (psaImportKey cfg attributes data) w).2 id =
      storedRecord store w id
  kept : ∀ id record, storedRecord store w id = some record →
    storedRecord store (runOn store faults (psaImportKey cfg attributes data) w).2 id = some record

/-- The record of an accepted key has an `int` length. -/
def RecordFits (cfg : ImportConfig) (attributes : KeyAttributes) (data : Bytes) : Prop :=
  ∀ attr, importCheck cfg attributes data = .ok attr → keyHeaderLength + data.length ≤ intMax

section

variable {cfg : ImportConfig} {store : StoreConfig} {attributes attr : KeyAttributes} {data : Bytes}
  {w : World} {faults : Nat → Fault}

private theorem import_run (cfg : ImportConfig) (store : StoreConfig) (attributes : KeyAttributes)
    (data : Bytes) (w : World) (faults : Nat → Fault) :
    ImportOutcome cfg store (fun _ => True) attributes data w
      (runOn store faults (psaImportKey cfg attributes data) w).1
      (runOn store faults (psaImportKey cfg attributes data) w).2 :=
  runOn_post (psaImportKey_spec cfg store attributes data w) faults

/-- A record that was there before an import is there afterwards. -/
private theorem keyAdded_keeps {id : KeyId} {s : World} (added : KeyAdded store w attr data id s)
    {other : KeyId} {record : Bytes} (present : storedRecord store w other = some record) :
    storedRecord store s other = some record := by
  cases added with
  | volatile _ _ _ records => rw [records, present]
  | persistent _ _ absent _ others _ =>
    have different : other ≠ id := by
      rintro rfl
      simp [absent] at present
    rw [others other different, present]

private theorem importOutcome_keeps {admitted : Fault → Prop} {r : Status × KeyId} {s : World}
    (outcome : ImportOutcome cfg store admitted attributes data w r s) {id : KeyId} {record : Bytes}
    (present : storedRecord store w id = some record) : storedRecord store s id = some record := by
  cases outcome with
  | refused _ same => rw [same.records, present]
  | noBuffer _ _ _ _ same => rw [same.records, present]
  | stored _ _ added => exact keyAdded_keeps added present

private theorem importOutcome_failure {admitted : Fault → Prop} {r : Status × KeyId} {s : World}
    (outcome : ImportOutcome cfg store admitted attributes data w r s) (failed : r.1 ≠ .success)
    (fits : RecordFits cfg attributes data) : SameKeys store w s := by
  cases outcome with
  | refused _ same => exact same
  | noBuffer _ _ _ _ same => exact same
  | stored accepted =>
    rw [importVerdict_stored (importCheck_ok accepted).2.1, if_pos (fits _ accepted)] at failed
    exact absurd rfl failed

private theorem atomicImport_of_fits
    (lifetime : psaKeyLifetimeIsVolatile attributes.lifetime = false)
    (fits : RecordFits cfg attributes data) (store : StoreConfig) (w : World)
    (faults : Nat → Fault) : AtomicImport cfg store attributes data w faults := by
  have spec : Prog.Triple sysHandler (fun _ => True) (SameKeys store w) _ _ w :=
    psaImportKey_spec cfg store attributes data w
  have outcome := import_run cfg store attributes data w faults
  constructor
  · intro id answered
    rw [answered] at outcome
    obtain ⟨attr, accepted, -, added, -⟩ := outcome.of_success
    obtain ⟨-, -, sized, -⟩ := importCheck_ok accepted
    cases added with
    | volatile volatile =>
      rw [sized] at volatile
      simp [lifetime] at volatile
    | persistent _ _ _ committed others =>
      refine ⟨attr.bits, ?_, others⟩
      rw [committed, ← sized]
  · exact fun failed id => (importOutcome_failure outcome failed fits).records id
  · exact fun k stopped id => (spec.cut k (fun _ => trivial) stopped).records id
  · exact fun id record present => importOutcome_keeps outcome present

/-! The converse: a record of more than `INT_MAX` bytes is stored and then reported as failed. -/

/-- No fault, and the name `mkstemp` picks. -/
def calmFault : Fault := ⟨false, fun _ => false, ⟨.genericError, failing⟩, 0, 0, ['x'], []⟩

theorem calm_calmFault : Calm calmFault := ⟨rfl, fun _ => rfl⟩

/-- A process that has just started on an empty store in the directory `s`. -/
def freshStore : StoreConfig := ⟨false, ['s']⟩
def freshWorld : World := ⟨psaKeyIdVendorMin, [], fun _ => none⟩

theorem usable_freshStore : StoreUsable freshStore := ⟨rfl, by decide, by decide⟩

/-- Without faults a fresh process stores what it accepts. -/
private theorem import_calm (accepted : importCheck cfg attributes data = .ok attr) :
    ∃ id, AssignedId attr id ∧
      KeyAdded freshStore freshWorld attr data id
        (runOn freshStore (fun _ => calmFault) (psaImportKey cfg attributes data) freshWorld).2 ∧
      (runOn freshStore (fun _ => calmFault) (psaImportKey cfg attributes data) freshWorld).1 =
        importVerdict (toInt32 (keyHeaderLength + data.length)) id data.length := by
  have spec : Prog.Triple sysHandler Calm (fun _ => True)
      (fun r s => ∃ id, AssignedId attr id ∧ KeyAdded freshStore freshWorld attr data id s ∧
        r = importVerdict (toInt32 (keyHeaderLength + data.length)) id data.length)
      (onPosix freshStore (psaImportKey cfg attributes data)) freshWorld := by
    refine psaImportKey_reaches accepted (by decide) (fun _ calm => calm.runs) ?_
    intro id w' assigned _ volatileKeys files
    refine (importStore_calm accepted usable_freshStore
      (fun _ => by simp [wolfpsaVolatileFind, volatileKeys, freshWorld])
      fun path => by rw [files]; rfl).mono (fun _ same => same) ?_
    rintro r s ⟨added, rfl⟩
    have same : SameKeys freshStore freshWorld w' := by
      refine ⟨volatileKeys, fun other => ?_⟩
      rw [storedRecord, files, storedRecord]
    exact ⟨id, assigned, added.of_sameKeys same, rfl⟩
  exact spec.run fun _ => calm_calmFault

/-- A record that does not fit is stored all the same, and the call reports a failure. -/
private theorem import_overflow (accepted : importCheck cfg attributes data = .ok attr)
    (beyond : intMax < keyHeaderLength + data.length) :
    ∃ id, KeyAdded freshStore freshWorld attr data id
        (runOn freshStore (fun _ => calmFault) (psaImportKey cfg attributes data) freshWorld).2 ∧
      (runOn freshStore (fun _ => calmFault) (psaImportKey cfg attributes data) freshWorld).1 =
        (.storageFailure, psaKeyIdNull) := by
  obtain ⟨id, -, added, answered⟩ := import_calm accepted
  refine ⟨id, added, ?_⟩
  rw [answered, importVerdict_stored (importCheck_ok accepted).2.1, if_neg (Nat.not_le.mpr beyond)]

private theorem not_atomicImport_of_overflow
    (lifetime : psaKeyLifetimeIsVolatile attributes.lifetime = false)
    (accepted : importCheck cfg attributes data = .ok attr)
    (beyond : intMax < keyHeaderLength + data.length) :
    ¬AtomicImport cfg freshStore attributes data freshWorld fun _ => calmFault := by
  intro atomic
  obtain ⟨id, added, answered⟩ := import_overflow accepted beyond
  have unchanged := atomic.failure (by rw [answered]; decide) id
  cases added with
  | volatile volatile =>
    rw [(importCheck_ok accepted).2.2.1] at volatile
    simp [lifetime] at volatile
  | persistent _ _ absent committed =>
    rw [committed, absent] at unchanged
    cases unchanged

end

/-- A build without the decoders: only key types that need none are accepted. -/
def plainImport : ImportConfig :=
  ⟨false, ⟨fun _ _ => .error .notCompiledIn, fun _ _ => false, fun _ _ _ => .ok ()⟩⟩

/-- A persistent 128-bit AES key for GCM under the identifier 1. -/
def persistentAesKey : KeyAttributes :=
  ⟨psaKeyTypeAes, 128, psaKeyLifetimePersistent, psaKeyUsageEncrypt, psaAlgGcm, psaAlgNone, 1⟩

/-- A Diffie-Hellman public key: its size is not checked against its data. -/
def dhPublicKey (lifetime : Lifetime) : KeyAttributes :=
  ⟨0x4203, 2048, lifetime, psaKeyUsageExport, psaAlgNone, psaAlgNone, 1⟩

private theorem importCheck_dhPublicKey {lifetime : Lifetime} {data : Bytes}
    (nonempty : data.length ≠ 0) (bound : data.length ≤ intMax)
    (located : psaKeyLifetimeGetLocation lifetime = 0) :
    importCheck plainImport (dhPublicKey lifetime) data = .ok (dhPublicKey lifetime) := by
  have sized : importBits plainImport.wc (dhPublicKey lifetime) data = .ok 2048 := by
    unfold importBits dhPublicKey
    rw [if_neg (show ¬psaKeyTypeIsRsa 0x4203 = true by decide),
      if_neg (show ¬(2048 : BitVec 16) = 0 by decide)]
    rfl
  have typed : importCheckType plainImport.wc (dhPublicKey lifetime) data = .success := by
    simp +decide [importCheckType, dhPublicKey]
  unfold importCheck
  rw [if_neg nonempty, if_neg (Nat.not_lt.mpr bound), if_neg (by simpa [dhPublicKey] using located),
    if_neg (by simp [dhPublicKey]), if_neg (by simp +decide [dhPublicKey]),
    if_neg (by simp +decide [dhPublicKey]), sized]
  exact dif_neg (not_not.mpr typed)

/-- `INT_MAX - 23` bytes of key data. -/
def longKeyData : Bytes := List.replicate (intMax - 23) 0

/-- The call failed, returns no identifier and left every key as it was; or it succeeded. -/
def LeavesNoKey (store : StoreConfig) (w : World) (r : (Status × KeyId) × World) : Prop :=
  r.1.1 ≠ .success → r.1.2 = psaKeyIdNull ∧ SameKeys store w r.2

/-- No allocation of the record buffer fails. -/
def RecordAllocated (faults : Nat → Fault) : Prop :=
  ∀ n, (faults n).denied .recordBuffer = false

/-- The same for a derivation call, which may also never return. -/
def LeavesNoDerivedKey (store : StoreConfig) (w : World) (r : (KdfResult × KdfOperation) × World) :
    Prop :=
  ∀ status, r.1.1.status = some status → status ≠ .success →
    r.1.1.key = psaKeyIdNull ∧ SameKeys store w r.2

section

variable {cfg : ImportConfig} {store : StoreConfig} {attributes attr : KeyAttributes} {data : Bytes}
  {w : World} {faults : Nat → Fault}

/-- The faults of a schedule that allocates record buffers. -/
private def AllocatesRecord (fault : Fault) : Prop := fault.denied .recordBuffer = false

private theorem import_leavesNoKey (allocated : RecordAllocated faults)
    (fits : RecordFits cfg attributes data) :
    LeavesNoKey store w (runOn store faults (psaImportKey cfg attributes data) w) := by
  intro failed
  have outcome : ImportOutcome cfg store AllocatesRecord attributes data w _ _ :=
    (psaImportKey_spec cfg store attributes data w).run allocated
  cases accepted : importCheck cfg attributes data with
  | ok attr => exact outcome.of_failure failed (fun _ granted => granted) (fits attr accepted)
  | error status =>
    unfold runOn psaImportKey
    rw [accepted]
    exact ⟨rfl, .refl w⟩

private theorem createOutcome_leavesNoKey {admitted : Fault → Prop} {r : Status × KeyId} {s : World}
    (outcome : CreateOutcome cfg store admitted attributes w r s)
    (allocated : ∀ fault, admitted fault → fault.denied .recordBuffer = false) :
    LeavesNoKey store w (r, s) := by
  intro failed
  cases outcome with
  | refused _ same => exact ⟨rfl, same⟩
  | imported small outcome =>
    refine outcome.of_failure failed allocated ?_
    unfold keyHeaderLength intMax
    omega

private theorem generate_leavesNoKey (allocated : RecordAllocated faults) :
    LeavesNoKey store w (runOn store faults (psaGenerateKey cfg attributes) w) := by
  have outcome : CreateOutcome cfg store AllocatesRecord attributes w _ _ :=
    (psaGenerateKey_spec cfg store attributes w).run allocated
  exact createOutcome_leavesNoKey outcome fun _ granted => granted

private theorem copyOutcome_leavesNoKey {admitted : Fault → Prop} {source : KeyId}
    {r : Status × KeyId} {s : World}
    (outcome : CopyOutcome cfg store admitted source attributes w r s)
    (allocated : ∀ fault, admitted fault → fault.denied .recordBuffer = false)
    (fits : ∀ src data, KeyFound store w source src data →
      keyHeaderLength + data.length ≤ intMax) : LeavesNoKey store w (r, s) := by
  intro failed
  cases outcome with
  | refused _ same => exact ⟨rfl, same⟩
  | imported found _ outcome => exact outcome.of_failure failed allocated (fits _ _ found)

private theorem copy_leavesNoKey {source : KeyId} (allocated : RecordAllocated faults)
    (fits : ∀ src data, KeyFound store w source src data →
      keyHeaderLength + data.length ≤ intMax) :
    LeavesNoKey store w (runOn store faults (psaCopyKey cfg source attributes) w) := by
  have outcome : CopyOutcome cfg store AllocatesRecord source attributes w _ _ :=
    (psaCopyKey_spec cfg store source attributes w).run allocated
  exact copyOutcome_leavesNoKey outcome (fun _ granted => granted) fits

private theorem outputKeyOutcome_leavesNoKey {admitted : Fault → Prop}
    {requested : Option KeyAttributes} {r : KdfResult} {s : World}
    (outcome : OutputKeyOutcome cfg store admitted requested w r s)
    (allocated : ∀ fault, admitted fault → fault.denied .recordBuffer = false) {status : Status}
    (answered : r.status = some status) (failed : status ≠ .success) :
    r.key = psaKeyIdNull ∧ SameKeys store w s := by
  cases outcome with
  | refused _ cleared same => exact ⟨cleared, same⟩
  | created _ outcome =>
    refine createOutcome_leavesNoKey outcome allocated fun success => failed ?_
    exact (Option.some.inj answered).symm.trans success

private theorem outputKey_leavesNoKey {Hmac Cmac : Type} {env : KdfEnv Hmac Cmac}
    {operation : KdfOperation} {requested : Option KeyAttributes} {keyNull : Bool}
    (allocated : RecordAllocated faults) :
    LeavesNoDerivedKey store w
      (runOn store faults (kdfOutputKey cfg env operation requested keyNull) w) := by
  intro status answered failed
  have outcome : OutputKeyOutcome cfg store AllocatesRecord requested w _ _ :=
    (kdfOutputKey_spec cfg store env operation requested keyNull w).run allocated
  exact outputKeyOutcome_leavesNoKey outcome (fun _ granted => granted) answered failed

/-! Conversely: a long record stays behind, and so does the identifier when there is no buffer. -/

private theorem not_leavesNoKey_of_overflow (accepted : importCheck cfg attributes data = .ok attr)
    (beyond : intMax < keyHeaderLength + data.length) :
    ¬LeavesNoKey freshStore freshWorld
      (runOn freshStore (fun _ => calmFault) (psaImportKey cfg attributes data) freshWorld) := by
  intro clean
  obtain ⟨id, added, answered⟩ := import_overflow accepted beyond
  obtain ⟨-, same⟩ := clean (by rw [answered]; decide)
  cases added with
  | volatile _ _ linked =>
    rw [same.volatile] at linked
    cases linked
  | persistent _ _ absent committed =>
    rw [same.records, absent] at committed
    cases committed

/-- Every call succeeds but the allocation of the record buffer. -/
def noRecordBuffer : Fault := { calmFault with denied := fun site => site == .recordBuffer }

private theorem not_leavesNoKey_of_noRecordBuffer
    (accepted : importCheck cfg attributes data = .ok attr) :
    ¬LeavesNoKey freshStore freshWorld (runOn freshStore (fun _ => noRecordBuffer)
      (psaImportKey cfg attributes data) freshWorld) := by
  have spec : Prog.Triple sysHandler (· = noRecordBuffer) (fun _ => True)
      (fun r _ => ∃ id, id ≠ psaKeyIdNull ∧ r = (Status.insufficientMemory, id))
      (onPosix freshStore (psaImportKey cfg attributes data)) freshWorld := by
    refine psaImportKey_reaches accepted (by decide) (by rintro _ rfl; rfl) ?_
    intro id w' assigned _ _ _
    refine triple_here trivial ?_
    rintro _ rfl
    exact ⟨id, assigned.ne_null, rfl⟩
  obtain ⟨id, assigned, answered⟩ := spec.run (fun _ => rfl : ∀ n : Nat, noRecordBuffer = _)
  intro clean
  have cleared := clean (by rw [runOn, answered]; simp)
  rw [runOn, answered] at cleared
  exact assigned cleared.1

end

end WolfPSA.Guarantees
