import WolfPSA.Source.KeyRecords

/-!
# What key calls do to the stored keys

Every call of `src/psa_key_storage.c` on the POSIX store, specified over every fault: which keys the
world holds when it returns, and that it holds the old keys at every step before.
-/

namespace WolfPSA.Source
open Lib Prog

variable {store : StoreConfig} {cfg : ImportConfig} {admitted : Fault → Prop}

/-- The rule of sequence for an action outside the store. -/
theorem triple_here {α : Type} {a : LocalAct} {k : LocalRes a → KeyProg α} {mid : World → Prop}
    {post : α → World → Prop} {s : World} (start : mid s)
    (next : ∀ fault, admitted fault → Triple sysHandler admitted mid post
      (onPosix store (k (localHandler fault a s).1)) (localHandler fault a s).2) :
    Triple sysHandler admitted mid post
      (onPosix store (Prog.perform (KeyAct.here a) >>= k)) s := ⟨start, next⟩

/-- The same for an action that only looks. -/
theorem triple_here_ask {α : Type} {a : LocalAct} {k : LocalRes a → KeyProg α}
    {mid : World → Prop} {post : α → World → Prop} {s : World} (start : mid s)
    (same : ∀ fault, (localHandler fault a s).2 = s)
    (all : ∀ answer, Triple sysHandler admitted mid post (onPosix store (k answer)) s) :
    Triple sysHandler admitted mid post
      (onPosix store (Prog.perform (KeyAct.here a) >>= k)) s :=
  triple_ask start same all

/-! ## Import -/

/-- `id` is an identifier `psa_import_key` may give the key. -/
def AssignedId (attr : KeyAttributes) (id : KeyId) : Prop :=
  if psaKeyLifetimeIsVolatile attr.lifetime || attr.id == psaKeyIdNull then
    psaKeyIdVendorMin ≤ id ∧ id ≤ psaKeyIdVendorMax
  else id = attr.id

/-- The world `s` holds the keys of `w` and the new key under `id`. -/
inductive KeyAdded (store : StoreConfig) (w : World) (attr : KeyAttributes) (data : Bytes)
    (id : KeyId) (s : World) : Prop
  | volatile (lifetime : psaKeyLifetimeIsVolatile attr.lifetime = true)
      (fresh : wolfpsaVolatileFind w id = none)
      (linked : s.volatileKeys = ⟨id, attr, data⟩ :: w.volatileKeys)
      (records : ∀ other, storedRecord store s other = storedRecord store w other)
  | persistent (lifetime : psaKeyLifetimeIsVolatile attr.lifetime = false)
      (usable : StoreUsable store) (absent : storedRecord store w id = none)
      (committed : storedRecord store s id = some (keyRecord attr data))
      (others : ∀ other ≠ id, storedRecord store s other = storedRecord store w other)
      (volatile : s.volatileKeys = w.volatileKeys)

/-- How `psa_import_key` may end. -/
inductive ImportOutcome (cfg : ImportConfig) (store : StoreConfig) (admitted : Fault → Prop)
    (attributes : KeyAttributes) (data : Bytes) (w : World) : Status × KeyId → World → Prop
  | refused {status : Status} {s : World} (failed : status ≠ .success)
      (same : SameKeys store w s) :
      ImportOutcome cfg store admitted attributes data w (status, psaKeyIdNull) s
  /-- The record buffer could not be allocated: the identifier is out already. -/
  | noBuffer {attr : KeyAttributes} {id : KeyId} {s : World} {fault : Fault}
      (accepted : importCheck cfg attributes data = .ok attr) (assigned : AssignedId attr id)
      (allowed : admitted fault) (denied : fault.denied .recordBuffer = true)
      (same : SameKeys store w s) :
      ImportOutcome cfg store admitted attributes data w (.insufficientMemory, id) s
  | stored {attr : KeyAttributes} {id : KeyId} {s : World}
      (accepted : importCheck cfg attributes data = .ok attr) (assigned : AssignedId attr id)
      (added : KeyAdded store w attr data id s) :
      ImportOutcome cfg store admitted attributes data w
        (importVerdict (toInt32 (keyHeaderLength + data.length)) id data.length) s

/-- A byte count that fits 32 bits is known from its `int` value. -/
private theorem toInt32_injective {a b : Nat} (ha : a < 2 ^ 32) (hb : b < 2 ^ 32)
    (same : toInt32 a = toInt32 b) : a = b := by
  have bits := BitVec.eq_of_toInt_eq same
  have values := congrArg BitVec.toNat bits
  rwa [BitVec.toNat_ofNat, BitVec.toNat_ofNat, Nat.mod_eq_of_lt ha, Nat.mod_eq_of_lt hb] at values

/-- A failed close is what the write path reports unless the write had failed itself. -/
private theorem writeRet_negative {written closeRet : Int} (failed : closeRet < 0) :
    (if written ≥ 0 ∧ closeRet ≠ storeOk then closeRet else written) < 0 := by
  unfold storeOk
  split <;> omega

/-- The branch of `psa_import_key` under the lock: the record appears as a whole or not at all. -/
theorem importPersistent_spec {attr : KeyAttributes} {data : Bytes} {id : KeyId} {w : World}
    (lifetime : psaKeyLifetimeIsVolatile attr.lifetime = false) (bound : data.length ≤ intMax) :
    Triple sysHandler admitted (SameKeys store w)
      (fun r s => match r with
        | .error _ => SameKeys store w s
        | .ok code => code < 0 ∧ SameKeys store w s ∨
            code = toInt32 (keyHeaderLength + data.length) ∧ KeyAdded store w attr data id s)
      (onPosix store (importPersistent id attr data)) w := by
  refine triple_call (show Triple _ _ (· = w) (fun _ s => s = w) _ w from rfl)
    (fun s same => same ▸ .refl s) ?_
  rintro _ s rfl
  refine triple_call (posixOpen_spec store s id) (fun s same => same ▸ .refl s) ?_
  rintro (code | ctx) s ⟨rfl, answer⟩
  · obtain ⟨negative, absent⟩ := answer
    dsimp only
    by_cases missing : code = storeNotAvailable
    · rw [if_neg (by simpa using missing)]
      refine triple_call (posixOpenSz_spec store s id) (fun _ same => same) ?_
      rintro (code' | ctx) s₁ ⟨same, opened⟩
      · exact .inl ⟨opened, same⟩
      obtain ⟨handle, empty⟩ := opened
      refine triple_call (posixWrite_spec handle.temp empty) (fun _ => same.trans) ?_
      rintro ⟨written, ctx'⟩ s₂ ⟨same₂, wrote⟩
      have kept := same.trans same₂
      rcases wrote with latched | ⟨complete, count, within, counted, content⟩
      · -- the latch keeps a later close from renaming
        obtain rfl : ctx' = { ctx with writeFailed := true } := latched
        have handle' : WriteHandle store id { ctx with writeFailed := true } :=
          ⟨handle.usable, handle.isWrite, handle.hasTemp, handle.named, handle.temp⟩
        refine triple_call (posixClose_write_spec handle' rfl) (fun _ => kept.trans) ?_
        rintro closeRet s₃ (⟨same₃, failed⟩ | ⟨-, unlatched, -⟩)
        · exact .inl ⟨writeRet_negative failed, kept.trans same₃⟩
        · cases unlatched
      · obtain ⟨rfl, rfl⟩ := Prod.mk.inj complete
        have total : count = keyHeaderLength + data.length := by
          rw [length_keyRecord] at within
          have small : keyHeaderLength + data.length < 2 ^ 32 := by
            unfold keyHeaderLength intMax at *
            omega
          exact toInt32_injective (Nat.lt_of_le_of_lt within small) small counted
        have whole : s₂.files ctx'.tempName = some (keyRecord attr data) := by
          rw [content, total, ← length_keyRecord attr data, List.take_length]
        refine triple_call (posixClose_write_spec handle whole) (fun _ => kept.trans) ?_
        rintro closeRet s₃ (⟨same₃, failed⟩ | ⟨rfl, -, committed, -, volatile, others⟩)
        · exact .inl ⟨writeRet_negative failed, kept.trans same₃⟩
        · refine .inr ⟨by simp, .persistent lifetime handle.usable ?_ committed ?_ ?_⟩
          · exact (absent missing).resolve_left (by simp [handle.usable.enabled])
          · exact fun other different => (others other different).trans (kept.records other)
          · exact volatile.trans kept.volatile
    · rw [if_pos (by simpa using missing)]
      exact .refl s
  · refine triple_call (posixClose_read_spec s answer.2) (fun s same => same ▸ .refl s) ?_
    rintro _ s rfl
    exact .refl s

theorem KeyAdded.of_sameKeys {w₀ w s : World} {attr : KeyAttributes} {data : Bytes} {id : KeyId}
    (same : SameKeys store w₀ w) (added : KeyAdded store w attr data id s) :
    KeyAdded store w₀ attr data id s := by
  cases added with
  | volatile lifetime fresh linked records =>
    refine .volatile lifetime ?_ (same.volatile ▸ linked) fun other => ?_
    · rwa [wolfpsaVolatileFind, same.volatile] at fresh
    · exact (records other).trans (same.records other)
  | persistent lifetime usable absent committed others volatile =>
    refine .persistent lifetime usable ((same.records id).symm.trans absent) committed ?_
      (volatile.trans same.volatile)
    exact fun other different => (others other different).trans (same.records other)

private theorem importVerdict_negative {code : Int} (negative : code < 0) (id : KeyId) (n : Nat) :
    importVerdict code id n = ((wolfpsaStoreOpenStatus code).val, psaKeyIdNull) :=
  if_pos negative

theorem importStore_spec {attributes attr : KeyAttributes} {data : Bytes} {id : KeyId}
    {w₀ w : World} (accepted : importCheck cfg attributes data = .ok attr)
    (assigned : AssignedId attr id) (start : SameKeys store w₀ w) :
    Triple sysHandler admitted (SameKeys store w₀)
      (ImportOutcome cfg store admitted attributes data w₀)
      (onPosix store (importStore attr data id)) w := by
  obtain ⟨-, bound, -⟩ := importCheck_ok accepted
  refine triple_here start fun alloc allowed => ?_
  dsimp only [localHandler]
  cases denied : alloc.denied .recordBuffer with
  | true => exact .noBuffer accepted assigned allowed denied start
  | false =>
    simp only [Bool.not_false, Bool.not_true, Bool.false_eq_true, if_false]
    cases lifetime : psaKeyLifetimeIsVolatile attr.lifetime with
    | true =>
      simp only [if_true]
      refine triple_here start fun fault _ => ?_
      dsimp only [localHandler, volatileStore]
      split
      · exact .refused (by simp) start
      split
      · exact .refused (by simp) start
      rename_i fresh
      split
      · exact .refused (by simp) start
      refine .stored accepted assigned (.of_sameKeys start ?_)
      exact .volatile lifetime (by simpa using fresh) rfl fun _ => rfl
    | false =>
      simp only [Bool.false_eq_true, if_false]
      refine triple_calls (importPersistent_spec lifetime bound) (fun _ => start.trans) ?_
      rintro (status | code) s outcome
      · exact .refused status.property (start.trans outcome)
      rcases outcome with ⟨negative, same⟩ | ⟨rfl, added⟩
      · show ImportOutcome _ _ _ _ _ _ (importVerdict code id data.length) s
        rw [importVerdict_negative negative]
        exact .refused (wolfpsaStoreOpenStatus code).property (start.trans same)
      · exact .stored accepted assigned (added.of_sameKeys start)

/-- `psa_import_key` over every schedule of admitted faults. -/
theorem psaImportKey_spec (cfg : ImportConfig) (store : StoreConfig) (attributes : KeyAttributes)
    (data : Bytes) (w : World) :
    Triple sysHandler admitted (SameKeys store w)
      (ImportOutcome cfg store admitted attributes data w)
      (onPosix store (psaImportKey cfg attributes data)) w := by
  unfold psaImportKey
  cases accepted : importCheck cfg attributes data with
  | error status => exact .refused status.property (.refl w)
  | ok attr =>
    refine triple_here_ask (.refl w) (fun _ => rfl) fun init => ?_
    by_cases refused : init ≠ .success
    · rw [if_pos refused]
      exact .refused refused (.refl w)
    rw [if_neg refused]
    by_cases assigns : (psaKeyLifetimeIsVolatile attr.lifetime || attr.id == psaKeyIdNull) = true
    · rw [if_pos assigns]
      refine triple_here (.refl w) fun _ _ => ?_
      dsimp only [localHandler]
      by_cases outside : w.nextKeyId < psaKeyIdVendorMin ∨ w.nextKeyId > psaKeyIdVendorMax
      · rw [if_pos outside]
        exact .refused (by simp) (.refl w)
      rw [if_neg outside]
      have vendor : psaKeyIdVendorMin ≤ w.nextKeyId ∧ w.nextKeyId ≤ psaKeyIdVendorMax := by
        simpa [not_or, BitVec.not_lt] using outside
      exact importStore_spec accepted (by rwa [AssignedId, if_pos assigns]) ⟨rfl, fun _ => rfl⟩
    · rw [if_neg assigns]
      exact importStore_spec accepted (by rw [AssignedId, if_neg assigns]) (.refl w)

theorem toInt32_of_le {n : Nat} (bound : n ≤ intMax) : toInt32 n = n := by
  unfold toInt32 intMax at *
  rw [BitVec.toInt_eq_toNat_of_lt (by rw [BitVec.toNat_ofNat]; omega), BitVec.toNat_ofNat,
    Nat.mod_eq_of_lt (by omega)]

private theorem toInt32_of_gt {n : Nat} (beyond : intMax < n) (bound : n < 2 ^ 32) :
    toInt32 n = (n : Int) - 2 ^ 32 := by
  unfold toInt32 intMax at *
  rw [BitVec.toInt_eq_toNat_cond, BitVec.toNat_ofNat, Nat.mod_eq_of_lt bound, if_neg (by omega)]
  norm_cast

/-- The verdict on a stored key: a record longer than `INT_MAX` has a negative `int` length and is
reported as a storage failure. -/
theorem importVerdict_stored {n : Nat} (bound : n ≤ intMax) (id : KeyId) :
    importVerdict (toInt32 (keyHeaderLength + n)) id n =
      if keyHeaderLength + n ≤ intMax then (.success, id) else (.storageFailure, psaKeyIdNull) := by
  unfold importVerdict
  by_cases fits : keyHeaderLength + n ≤ intMax
  · rw [if_pos fits, toInt32_of_le fits, if_neg (by omega), if_neg (by simp)]
  · have small : keyHeaderLength + n < 2 ^ 32 := by
      unfold keyHeaderLength intMax at *
      omega
    rw [if_neg fits, toInt32_of_gt (Nat.lt_of_not_le fits) small, if_pos (by omega)]
    have other : ((keyHeaderLength + n : Nat) : Int) - 2 ^ 32 ≠ memoryE := by
      unfold keyHeaderLength intMax memoryE at *
      omega
    simp only [wolfpsaStoreOpenStatus, if_neg other]

/-- A successful import stored the key, and its record fits an `int`. -/
theorem ImportOutcome.of_success {attributes : KeyAttributes} {data : Bytes} {w s : World}
    {id : KeyId} (outcome : ImportOutcome cfg store admitted attributes data w (.success, id) s) :
    ∃ attr, importCheck cfg attributes data = .ok attr ∧ AssignedId attr id ∧
      KeyAdded store w attr data id s ∧ keyHeaderLength + data.length ≤ intMax := by
  generalize answered : (Status.success, id) = r at outcome
  cases outcome with
  | refused failed => exact absurd (Prod.mk.inj answered).1.symm failed
  | noBuffer => simp at answered
  | stored accepted assigned added =>
    rw [importVerdict_stored (importCheck_ok accepted).2.1] at answered
    split at answered
    · rename_i fits
      obtain ⟨-, rfl⟩ := Prod.mk.inj answered
      exact ⟨_, accepted, assigned, added, fits⟩
    · simp at answered

/-- An import that fails leaves the keys alone and returns no identifier, unless the record buffer
could not be allocated or the record does not fit an `int`. -/
theorem ImportOutcome.of_failure {attributes : KeyAttributes} {data : Bytes} {w s : World}
    {r : Status × KeyId} (outcome : ImportOutcome cfg store admitted attributes data w r s)
    (failed : r.1 ≠ .success)
    (allocated : ∀ fault, admitted fault → fault.denied .recordBuffer = false)
    (fits : keyHeaderLength + data.length ≤ intMax) :
    r.2 = psaKeyIdNull ∧ SameKeys store w s := by
  cases outcome with
  | refused _ same => exact ⟨rfl, same⟩
  | noBuffer _ _ allowed denied => simp [allocated _ allowed] at denied
  | stored accepted =>
    rw [importVerdict_stored (importCheck_ok accepted).2.1, if_pos fits] at failed
    exact absurd rfl failed

/-! ## Reading -/

/-- What a record under `id` gives its readers. -/
structure RecordRead (store : StoreConfig) (w : World) (id : KeyId) (header rest : Bytes) :
    Prop where
  record : storedRecord store w id = some (header ++ rest)
  header : header.length = keyHeaderLength

theorem take_append_drop_length (count : Nat) (bytes : Bytes) :
    bytes.take count ++ bytes.drop (bytes.take count).length = bytes := by
  rcases Nat.le_total count bytes.length with within | beyond
  · rw [List.length_take, Nat.min_eq_left within, List.take_append_drop]
  · rw [List.take_of_length_le beyond, List.drop_length, List.append_nil]

theorem openRecord_spec (store : StoreConfig) (w : World) (id : KeyId) :
    Triple sysHandler admitted (· = w)
      (fun r s => s = w ∧ ∀ header ctx, r = .ok (header, ctx) →
        RecordRead store w id header ctx.rest ∧ ctx.hasTemp = false)
      (onPosix store (openRecord id)) w := by
  refine triple_call (posixOpen_spec store w id) (fun _ same => same) ?_
  rintro (code | ctx) s ⟨rfl, answer⟩
  · exact ⟨rfl, by simp⟩
  obtain ⟨recorded, reads⟩ := answer
  refine triple_call (posixRead_spec ctx keyHeaderLength s) (fun _ same => same) ?_
  rintro _ s ⟨rfl, count, -, rfl⟩
  dsimp only
  by_cases short : (ctx.rest.take count).length ≠ keyHeaderLength
  · rw [if_pos short]
    refine triple_call (posixClose_read_spec s reads) (fun _ same => same) ?_
    rintro _ s rfl
    exact ⟨rfl, by simp⟩
  · rw [if_neg short]
    refine ⟨rfl, fun header ctx' same => ?_⟩
    obtain ⟨rfl, rfl⟩ := Prod.mk.inj (Except.ok.inj same)
    refine ⟨⟨?_, not_not.mp short⟩, reads⟩
    rw [recorded, take_append_drop_length]

/-- The key data behind a header. -/
structure DataRead (header rest data : Bytes) : Prop where
  taken : data = rest.take (keyHeaderDataLength header)
  length : data.length = keyHeaderDataLength header
  valid : wolfpsaValidateStoredKeyDataLength data.length = .success

/-- The rest of a read, however short it came. -/
theorem dataRead_of_length {header rest : Bytes} {count : Nat}
    (bound : count ≤ keyHeaderDataLength header)
    (full : (rest.take count).length = keyHeaderDataLength header)
    (valid : wolfpsaValidateStoredKeyDataLength (keyHeaderDataLength header) = .success) :
    DataRead header rest (rest.take count) := by
  have within : keyHeaderDataLength header ≤ count := by
    rw [← full, List.length_take]
    exact Nat.min_le_left _ _
  obtain rfl := Nat.le_antisymm bound within
  exact ⟨rfl, full, by rwa [full]⟩

theorem readRecordData_spec {header : Bytes × StoreCtx} (w : World)
    (reads : header.2.hasTemp = false) :
    Triple sysHandler admitted (· = w)
      (fun r s => s = w ∧ ∀ data, r = .ok data → DataRead header.1 header.2.rest data)
      (onPosix store (readRecordData header)) w := by
  have closing (status : Failure) : Triple sysHandler admitted (· = w)
      (fun (r : Except Failure Bytes) s =>
        s = w ∧ ∀ data, r = .ok data → DataRead header.1 header.2.rest data)
      (onPosix store (wolfPSAStoreClose header.2 >>= fun _ => pure (Except.error status))) w := by
    refine triple_call (posixClose_read_spec w reads) (fun _ same => same) ?_
    rintro _ s rfl
    exact ⟨rfl, by simp⟩
  unfold readRecordData
  dsimp only
  by_cases valid :
      wolfpsaValidateStoredKeyDataLength (keyHeaderDataLength header.1) = .success
  · rw [if_neg (not_not.mpr valid)]
    refine triple_here_ask rfl (fun _ => rfl) fun granted => ?_
    cases granted with
    | false => exact closing _
    | true =>
      refine triple_call (posixRead_spec header.2 _ w) (fun _ same => same) ?_
      rintro _ s ⟨rfl, count, bound, rfl⟩
      refine triple_call (posixClose_read_spec s reads) (fun _ same => same) ?_
      rintro _ s rfl
      dsimp only
      by_cases full : (header.2.rest.take count).length = keyHeaderDataLength header.1
      · rw [if_neg (not_not.mpr full)]
        refine ⟨rfl, fun data same => ?_⟩
        obtain rfl := Except.ok.inj same
        exact dataRead_of_length bound full valid
      · rw [if_pos full]
        exact ⟨rfl, by simp⟩
  · rw [if_pos valid]
    exact closing _

/-- The key `id` names, as the look-ups find it: the volatile list first, then the store. -/
inductive KeyFound (store : StoreConfig) (w : World) (id : KeyId) (attributes : KeyAttributes)
    (data : Bytes) : Prop
  | volatile {node : VolatileKey} (found : wolfpsaVolatileFind w id = some node)
      (attributes_eq : attributes = node.attributes) (data_eq : data = node.data)
  | persistent {header rest : Bytes} (missing : wolfpsaVolatileFind w id = none)
      (record : RecordRead store w id header rest)
      (attributes_eq : attributes = psaKeyAttributesDeserialize header)
      (read : DataRead header rest data)

/-- An identifier finds one key. -/
theorem KeyFound.unique {w : World} {id : KeyId} {attributes attributes' : KeyAttributes}
    {data data' : Bytes} (left : KeyFound store w id attributes data)
    (right : KeyFound store w id attributes' data') : attributes' = attributes ∧ data' = data := by
  cases left with
  | volatile found same content =>
    cases right with
    | volatile found' same' content' =>
      rw [found] at found'
      cases found'
      exact ⟨same'.trans same.symm, content'.trans content.symm⟩
    | persistent missing =>
      rw [found] at missing
      cases missing
  | persistent missing record same read =>
    cases right with
    | volatile found =>
      rw [missing] at found
      cases found
    | persistent _ record' same' read' =>
      have joined := Option.some.inj (record.record.symm.trans record'.record)
      obtain ⟨rfl, rfl⟩ := List.append_inj joined (record.header.trans record'.header.symm)
      exact ⟨same'.trans same.symm, read'.taken.trans read.taken.symm⟩

/-- What the critical section of `wolfpsa_volatile_get` tells. -/
theorem volatileGet_cases (fault : Fault) (w : World) (id : KeyId) :
    (∃ node, wolfpsaVolatileFind w id = some node ∧
      volatileGet fault w id = .ok (node.attributes, node.data)) ∨
    (∃ status, volatileGet fault w id = .error status ∧
      (status.val = .invalidHandle → wolfpsaVolatileFind w id = none)) := by
  unfold volatileGet
  cases found : wolfpsaVolatileFind w id with
  | none => exact .inr ⟨_, rfl, fun _ => rfl⟩
  | some node =>
    dsimp only
    split
    · exact .inr ⟨_, rfl, by simp⟩
    split
    · exact .inr ⟨_, rfl, by simp⟩
    · exact .inl ⟨node, rfl, rfl⟩

/-- The read half that `psa_copy_key` and `wolfpsa_get_key_data` share behind the header. -/
theorem keyFound_of_reads {w : World} {id : KeyId} {header data : Bytes} {ctx : StoreCtx}
    (missing : wolfpsaVolatileFind w id = none) (record : RecordRead store w id header ctx.rest)
    (read : DataRead header ctx.rest data) :
    KeyFound store w id (psaKeyAttributesDeserialize header) data :=
  .persistent missing record rfl read

/-- `psa_get_key_attributes` reports the attributes of the key it finds, and changes nothing. -/
theorem psaGetKeyAttributes_spec (store : StoreConfig) (w : World) (id : KeyId) :
    Triple sysHandler admitted (· = w)
      (fun r s => s = w ∧ ∀ attributes, r = .ok attributes →
        (∃ node, wolfpsaVolatileFind w id = some node ∧
          attributes = { node.attributes with id := id }) ∨
        (wolfpsaVolatileFind w id = none ∧ ∃ header rest, RecordRead store w id header rest ∧
          attributes = { psaKeyAttributesDeserialize header with id := id }))
      (onPosix store (psaGetKeyAttributes id)) w := by
  refine triple_here_ask rfl (fun _ => rfl) fun init => ?_
  split
  · exact ⟨rfl, by simp⟩
  refine triple_here rfl fun _ _ => ?_
  dsimp only [localHandler]
  cases found : wolfpsaVolatileFind w id with
  | some node =>
    refine ⟨rfl, fun attributes same => .inl ⟨node, rfl, ?_⟩⟩
    exact (Except.ok.inj same).symm
  | none =>
    refine triple_calls (openRecord_spec store w id) (fun _ same => same) ?_
    rintro (status | ⟨header, ctx⟩) s ⟨rfl, opened⟩
    · exact ⟨rfl, by simp⟩
    obtain ⟨record, reads⟩ := opened header ctx rfl
    refine triple_call (posixClose_read_spec s reads) (fun _ same => same) ?_
    rintro _ s rfl
    refine ⟨rfl, fun attributes same => .inr ⟨rfl, header, ctx.rest, record, ?_⟩⟩
    exact (Except.ok.inj same).symm

/-- `psa_export_key` returns the data of a key that carries `PSA_KEY_USAGE_EXPORT`. -/
theorem psaExportKey_spec (store : StoreConfig) (w : World) (id : KeyId) (dataSize : Nat) :
    Triple sysHandler admitted (· = w)
      (fun r s => s = w ∧ ∀ data, r = .ok data → ∃ attributes,
        KeyFound store w id attributes data ∧ attributes.usage &&& psaKeyUsageExport ≠ 0)
      (onPosix store (psaExportKey id dataSize)) w := by
  refine triple_here_ask rfl (fun _ => rfl) fun init => ?_
  split
  · exact ⟨rfl, by simp⟩
  refine triple_here rfl fun fault _ => ?_
  dsimp only [localHandler]
  rcases volatileGet_cases fault w id with ⟨node, found, got⟩ | ⟨status, got, missing⟩
  · rw [got]
    dsimp only
    by_cases denied : node.attributes.usage &&& psaKeyUsageExport = 0
    · rw [if_pos denied]
      exact ⟨rfl, by simp⟩
    rw [if_neg denied]
    by_cases small : dataSize < node.data.length
    · rw [if_pos small]
      exact ⟨rfl, by simp⟩
    rw [if_neg small]
    refine ⟨rfl, fun data same => ⟨node.attributes, .volatile found rfl ?_, denied⟩⟩
    exact (Except.ok.inj same).symm
  · rw [got]
    dsimp only
    by_cases other : status.val ≠ .invalidHandle
    · rw [if_pos other]
      exact ⟨rfl, by simp⟩
    rw [if_neg other]
    refine triple_calls (openRecord_spec store w id) (fun _ same => same) ?_
    rintro (status' | ⟨header, ctx⟩) s ⟨rfl, opened⟩
    · exact ⟨rfl, by simp⟩
    obtain ⟨record, reads⟩ := opened header ctx rfl
    have closing (status : Failure) : Triple sysHandler admitted (· = s)
        (fun (r : Except Failure Bytes) s' => s' = s ∧ ∀ data, r = .ok data → ∃ attributes,
          KeyFound store s id attributes data ∧ attributes.usage &&& psaKeyUsageExport ≠ 0)
        (onPosix store (wolfPSAStoreClose ctx >>= fun _ => pure (Except.error status))) s := by
      refine triple_call (posixClose_read_spec s reads) (fun _ same => same) ?_
      rintro _ s rfl
      exact ⟨rfl, by simp⟩
    dsimp only
    by_cases denied : (psaKeyAttributesDeserialize header).usage &&& psaKeyUsageExport = 0
    · rw [if_pos denied]
      exact closing _
    rw [if_neg denied]
    by_cases valid : wolfpsaValidateStoredKeyDataLength (keyHeaderDataLength header) = .success
    · rw [if_neg (not_not.mpr valid)]
      by_cases small : dataSize < keyHeaderDataLength header
      · rw [if_pos small]
        exact closing _
      rw [if_neg small]
      refine triple_call (posixRead_spec ctx _ s) (fun _ same => same) ?_
      rintro _ s ⟨rfl, count, bound, rfl⟩
      refine triple_call (posixClose_read_spec s reads) (fun _ same => same) ?_
      rintro _ s rfl
      dsimp only
      by_cases full : (ctx.rest.take count).length = keyHeaderDataLength header
      · rw [if_neg (not_not.mpr full)]
        refine ⟨rfl, fun data same => ?_⟩
        obtain rfl := Except.ok.inj same
        exact ⟨_, keyFound_of_reads (missing (not_not.mp other)) record
          (dataRead_of_length bound full valid), denied⟩
      · rw [if_pos full]
        exact ⟨rfl, by simp⟩
    · rw [if_pos valid]
      exact closing _

/-! ## Copy and destroy -/

/-- How `psa_copy_key` may end: refused, or as the import of the source key's data under attributes
computed from the source key's policy. -/
inductive CopyOutcome (cfg : ImportConfig) (store : StoreConfig) (admitted : Fault → Prop)
    (source : KeyId) (requested : KeyAttributes) (w : World) : Status × KeyId → World → Prop
  | refused {status : Status} {s : World} (failed : status ≠ .success)
      (same : SameKeys store w s) :
      CopyOutcome cfg store admitted source requested w (status, psaKeyIdNull) s
  | imported {src copy : KeyAttributes} {data : Bytes} {r : Status × KeyId} {s : World}
      (found : KeyFound store w source src data)
      (granted : copyKeyAttributes src requested = .ok copy)
      (outcome : ImportOutcome cfg store admitted copy data w r s) :
      CopyOutcome cfg store admitted source requested w r s

theorem psaCopyKey_spec (cfg : ImportConfig) (store : StoreConfig) (source : KeyId)
    (requested : KeyAttributes) (w : World) :
    Triple sysHandler admitted (SameKeys store w)
      (CopyOutcome cfg store admitted source requested w)
      (onPosix store (psaCopyKey cfg source requested)) w := by
  refine triple_here_ask (.refl w) (fun _ => rfl) fun init => ?_
  by_cases refused : init ≠ .success
  · rw [if_pos refused]
    exact .refused refused (.refl w)
  rw [if_neg refused]
  refine triple_here (.refl w) fun fault _ => ?_
  dsimp only [localHandler]
  rcases volatileGet_cases fault w source with ⟨node, found, got⟩ | ⟨status, got, missing⟩
  · rw [got]
    dsimp only
    cases granted : copyKeyAttributes node.attributes requested with
    | error status => exact .refused status.property (.refl w)
    | ok copy =>
      refine (psaImportKey_spec cfg store copy node.data w).mono (fun _ same => same) ?_
      exact fun _ _ outcome => .imported (.volatile found rfl rfl) granted outcome
  · rw [got]
    dsimp only
    by_cases other : status.val ≠ .invalidHandle
    · rw [if_pos other]
      exact .refused status.property (.refl w)
    rw [if_neg other]
    refine triple_calls (openRecord_spec store w source) (fun s same => same ▸ .refl s) ?_
    rintro (status' | ⟨header, ctx⟩) s ⟨rfl, opened⟩
    · exact .refused status'.property (.refl s)
    obtain ⟨record, reads⟩ := opened header ctx rfl
    dsimp only
    cases granted : copyKeyAttributes (psaKeyAttributesDeserialize header) requested with
    | error status =>
      refine triple_call (posixClose_read_spec s reads) (fun s same => same ▸ .refl s) ?_
      rintro _ s rfl
      exact .refused status.property (.refl s)
    | ok copy =>
      refine triple_calls (readRecordData_spec s reads) (fun s same => same ▸ .refl s) ?_
      rintro (status'' | data) s ⟨rfl, read⟩
      · exact .refused status''.property (.refl s)
      refine (psaImportKey_spec cfg store copy data s).mono (fun _ same => same) ?_
      exact fun _ _ outcome => .imported
        (keyFound_of_reads (missing (not_not.mp other)) record (read data rfl)) granted outcome

/-- How `psa_destroy_key` may end. -/
inductive DestroyOutcome (store : StoreConfig) (id : KeyId) (w : World) : Status → World → Prop
  | kept {status : Status} {s : World} (failed : status ≠ .success ∨ id = psaKeyIdNull)
      (same : SameKeys store w s) : DestroyOutcome store id w status s
  | volatile {s : World} (found : wolfpsaVolatileFind w id ≠ none)
      (unlinked : s.volatileKeys = w.volatileKeys.eraseP fun node => node.id == id)
      (records : ∀ other, storedRecord store s other = storedRecord store w other) :
      DestroyOutcome store id w .success s
  | persistent {s : World} (missing : wolfpsaVolatileFind w id = none)
      (present : storedRecord store w id ≠ none) (removed : storedRecord store s id = none)
      (others : ∀ other ≠ id, storedRecord store s other = storedRecord store w other)
      (volatile : s.volatileKeys = w.volatileKeys) : DestroyOutcome store id w .success s

theorem psaDestroyKey_spec (store : StoreConfig) (id : KeyId) (w : World) :
    Triple sysHandler admitted (SameKeys store w) (DestroyOutcome store id w)
      (onPosix store (psaDestroyKey id)) w := by
  unfold psaDestroyKey
  by_cases null : id = psaKeyIdNull
  · rw [if_pos null]
    exact .kept (.inr null) (.refl w)
  rw [if_neg null]
  refine triple_here_ask (.refl w) (fun _ => rfl) fun init => ?_
  by_cases refused : init ≠ .success
  · rw [if_pos refused]
    exact .kept (.inl refused) (.refl w)
  rw [if_neg refused]
  refine triple_here (.refl w) fun _ _ => ?_
  dsimp only [localHandler]
  by_cases found : (wolfpsaVolatileFind w id).isSome = true
  · rw [if_pos found]
    exact .volatile (Option.isSome_iff_ne_none.mp found) rfl fun _ => rfl
  rw [if_neg found]
  refine triple_call (posixRemove_spec store w id) (fun s same => same ▸ .refl s) ?_
  rintro code s (⟨rfl, failed⟩ | ⟨rfl, present, removed, volatile, others⟩)
  · by_cases missing : code = storeNotAvailable
    · rw [if_pos missing]
      exact .kept (.inl (by simp)) (.refl s)
    · rw [if_neg missing, if_pos failed]
      exact .kept (.inl (wolfpsaStoreOpenStatus code).property) (.refl s)
  · exact .persistent (by simpa using found) present removed others volatile

/-! ## Generated and derived keys -/

/-- The program changes nothing and produces at most a few kilobytes. -/
private def Generates (store : StoreConfig) (admitted : Fault → Prop) (w : World)
    (p : KeyProg (Except Failure Bytes)) : Prop :=
  Triple sysHandler admitted (· = w)
    (fun r s => s = w ∧ ∀ data, r = .ok data → data.length < 2 ^ 16) (onPosix store p) w

section

variable {w : World}

private theorem generates_refusal (status : Failure) :
    Generates store admitted w (pure (Except.error status)) := ⟨rfl, by simp⟩

private theorem generates_ite {c : Prop} [Decidable c] {p q : KeyProg (Except Failure Bytes)}
    (yes : Generates store admitted w p) (no : Generates store admitted w q) :
    Generates store admitted w (if c then p else q) := by
  split
  · exact yes
  · exact no

private theorem generates_malloc {site : AllocSite} {p : KeyProg (Except Failure Bytes)}
    (next : Generates store admitted w p) :
    Generates store admitted w (xmalloc site >>= fun granted =>
      if !granted then pure (.error ⟨.insufficientMemory, failing⟩) else p) :=
  triple_here_ask rfl (fun _ => rfl) fun _ => generates_ite (generates_refusal _) next

private theorem generates_random {n : Nat} (small : n < 2 ^ 16) :
    Generates store admitted w (psaGenerateRandom n) := by
  refine ⟨rfl, fun fault _ => ⟨rfl, fun data same => ?_⟩⟩
  simp only [sysHandler, localHandler] at same
  split at same
  · cases same
  · rw [← Except.ok.inj same]
    simpa using small

private theorem generates_keyPair {type : KeyType} {bits n : Nat} (small : n < 2 ^ 16) :
    Generates store admitted w (psaAsymmetricGenerateKey type bits n) := by
  refine ⟨rfl, fun fault _ => ⟨rfl, fun data same => ?_⟩⟩
  simp only [sysHandler, localHandler] at same
  split at same
  · cases same
  · rw [← Except.ok.inj same, List.length_take]
    exact Nat.lt_of_le_of_lt (Nat.min_le_left _ _) small

private theorem generateKeyData_generates (attributes : KeyAttributes) :
    Generates store admitted w (generateKeyData attributes) := by
  have bits := attributes.bits.isLt
  have bytes : psaBitsToBytes attributes.bits.toNat + 1 < 2 ^ 16 := by
    unfold psaBitsToBytes
    omega
  have rsa : psaKeyExportRsaKeyPairMaxSize attributes.bits.toNat < 2 ^ 16 := by
    unfold psaKeyExportRsaKeyPairMaxSize
    omega
  have ecc : (if psaKeyTypeEccGetFamily attributes.type == psaEccFamilyTwistedEdwards then
      psaBitsToBytes attributes.bits.toNat + 1
      else psaKeyExportEccKeyPairMaxSize attributes.bits.toNat) < 2 ^ 16 := by
    unfold psaKeyExportEccKeyPairMaxSize
    split
    · exact bytes
    · split <;> omega
  refine generates_ite (generates_refusal _) ?_
  refine generates_ite (generates_refusal _) ?_
  refine generates_ite (generates_refusal _) ?_
  refine generates_ite (generates_malloc (generates_random (by omega))) ?_
  refine generates_ite (generates_malloc (generates_keyPair rsa)) ?_
  refine generates_ite (generates_ite (generates_refusal _)
    (generates_malloc (generates_malloc (generates_keyPair ecc)))) ?_
  refine generates_ite (generates_ite (generates_refusal _) (generates_random (by decide))) ?_
  refine generates_ite (generates_ite (generates_refusal _) (generates_random (by decide))) ?_
  exact generates_refusal _

end

/-- How a call that stores through `psa_import_key` may end. -/
inductive CreateOutcome (cfg : ImportConfig) (store : StoreConfig) (admitted : Fault → Prop)
    (attributes : KeyAttributes) (w : World) : Status × KeyId → World → Prop
  | refused {status : Status} {s : World} (failed : status ≠ .success)
      (same : SameKeys store w s) :
      CreateOutcome cfg store admitted attributes w (status, psaKeyIdNull) s
  | imported {data : Bytes} {r : Status × KeyId} {s : World} (small : data.length < 2 ^ 16)
      (outcome : ImportOutcome cfg store admitted attributes data w r s) :
      CreateOutcome cfg store admitted attributes w r s

theorem psaGenerateKey_spec (cfg : ImportConfig) (store : StoreConfig) (attributes : KeyAttributes)
    (w : World) :
    Triple sysHandler admitted (SameKeys store w) (CreateOutcome cfg store admitted attributes w)
      (onPosix store (psaGenerateKey cfg attributes)) w := by
  refine triple_calls (generateKeyData_generates attributes) (fun s same => same ▸ .refl s) ?_
  rintro (status | data) s ⟨rfl, small⟩
  · exact .refused status.property (.refl s)
  · refine (psaImportKey_spec cfg store attributes data s).mono (fun _ same => same) ?_
    exact fun _ _ outcome => .imported (small data rfl) outcome

/-- How `psa_key_derivation_output_key` may end. -/
inductive OutputKeyOutcome (cfg : ImportConfig) (store : StoreConfig) (admitted : Fault → Prop)
    (attributes : Option KeyAttributes) (w : World) : KdfResult → World → Prop
  | refused {r : KdfResult} {s : World} (failed : r.status ≠ some .success)
      (cleared : r.key = psaKeyIdNull) (same : SameKeys store w s) :
      OutputKeyOutcome cfg store admitted attributes w r s
  | created {attrs : KeyAttributes} {answer : Status × KeyId} {s : World}
      (given : attributes = some attrs)
      (outcome : CreateOutcome cfg store admitted attrs w answer s) :
      OutputKeyOutcome cfg store admitted attributes w ⟨some answer.1, [], answer.2⟩ s

@[simp] theorem kdfDoneAfter_fst (inner : KdfResult × KdfOperation) :
    (kdfDoneAfter inner).1 = inner.1 := by
  unfold kdfDoneAfter
  split <;> rfl

theorem kdfOutputKey_spec {Hmac Cmac : Type} (cfg : ImportConfig) (store : StoreConfig)
    (env : KdfEnv Hmac Cmac) (operation : KdfOperation) (attributes : Option KeyAttributes)
    (keyNull : Bool) (w : World) :
    Triple sysHandler admitted (SameKeys store w)
      (fun r s => OutputKeyOutcome cfg store admitted attributes w r.1 s)
      (onPosix store (kdfOutputKey cfg env operation attributes keyNull)) w := by
  have refusal (status : Status) (after : KdfOperation) (failed : status ≠ .success) :
      Triple sysHandler admitted (SameKeys store w)
        (fun r s => OutputKeyOutcome cfg store admitted attributes w r.1 s)
        (onPosix store (pure (KdfResult.ofStatus status, after))) w :=
    .refused (fun same => failed (Option.some.inj same)) rfl (.refl w)
  cases operation with
  | none => exact refusal _ _ (by decide)
  | some ctx =>
    unfold kdfOutputKey
    dsimp only
    split
    · exact refusal _ _ (by decide)
    cases attributes with
    | none => exact refusal _ _ (by decide)
    | some attrs =>
      dsimp only
      split
      · exact refusal _ _ (by decide)
      split
      · exact refusal _ _ (by decide)
      split
      · exact refusal _ _ (by decide)
      split
      · exact refusal _ _ (by decide)
      split
      · exact refusal _ _ (by decide)
      split
      · refine triple_calls (psaImportKey_spec cfg store attrs _ w) (fun _ same => same) ?_
        intro answer s outcome
        show OutputKeyOutcome cfg store admitted (some attrs) w (kdfDoneAfter _).1 s
        rw [kdfDoneAfter_fst]
        refine .created rfl (.imported ?_ outcome)
        have bits := attrs.bits.isLt
        refine Nat.lt_of_le_of_lt (List.length_take_le _ _) ?_
        unfold psaBitsToBytes
        omega
      · rename_i failed
        show OutputKeyOutcome cfg store admitted (some attrs) w (kdfDoneAfter _).1 w
        rw [kdfDoneAfter_fst]
        exact .refused failed rfl (.refl w)

/-- On the store, `psa_key_derivation_output_key` answers as the call with `psa_import_key` as an
answer does. -/
theorem kdfOutputKey_run {Hmac Cmac : Type} (cfg : ImportConfig) (store : StoreConfig)
    (env : KdfEnv Hmac Cmac) (operation : KdfOperation) (attributes : Option KeyAttributes)
    (keyNull : Bool) (w : World) (faults : Nat → Fault) :
    ((onPosix store (kdfOutputKey cfg env operation attributes keyNull)).run sysHandler
        faults w).1 =
      psaKeyDerivationOutputKey { env with importKey := fun attrs data =>
        ((onPosix store (psaImportKey cfg attrs data)).run sysHandler faults w).1 }
        operation attributes keyNull := by
  cases operation with
  | none => rfl
  | some ctx =>
    unfold kdfOutputKey psaKeyDerivationOutputKey
    dsimp only
    split
    · rfl
    cases attributes with
    | none => rfl
    | some attrs =>
      dsimp only
      split
      · rfl
      split
      · rfl
      split
      · rfl
      split
      · rfl
      split
      · rfl
      -- the output bytes do not depend on how keys are imported
      have derives (importKey : KeyAttributes → Bytes → Status × KeyId) (output : OutBuf) :
          psaKeyDerivationOutputBytes { env with importKey := importKey } (some ctx) output =
            psaKeyDerivationOutputBytes env (some ctx) output := rfl
      simp only [derives]
      by_cases derived : (psaKeyDerivationOutputBytes env (some ctx)
          ⟨false, psaBitsToBytes attrs.bits.toNat⟩).1.status = some .success
      · simp only [if_pos derived]
        rw [onPosix, expand_bind]
        exact congrArg Prod.fst (run_bind_ret sysHandler faults _ _ w)
      · simp only [if_neg derived]
        rfl

/-! ## Without faults -/

private theorem keyRecord_small {data : Bytes} (attr : KeyAttributes)
    (bound : data.length ≤ intMax) : (keyRecord attr data).length < 2 ^ 32 := by
  rw [length_keyRecord]
  unfold keyHeaderLength intMax at *
  omega

theorem importPersistent_calm {attr : KeyAttributes} {data : Bytes} {id : KeyId} {w : World}
    (lifetime : psaKeyLifetimeIsVolatile attr.lifetime = false) (bound : data.length ≤ intMax)
    (usable : StoreUsable store) (absent : storedRecord store w id = none)
    (free : ∀ suffix, w.files (tempName store.dir suffix) = none) :
    Triple sysHandler Calm (fun _ => True)
      (fun r s => r = .ok (toInt32 (keyHeaderLength + data.length)) ∧
        KeyAdded store w attr data id s)
      (onPosix store (importPersistent id attr data)) w := by
  refine triple_call (show Triple _ _ (· = w) (fun _ s => s = w) _ w from rfl)
    (fun _ _ => trivial) ?_
  rintro _ s rfl
  refine triple_call (posixOpen_calm usable s id) (fun _ _ => trivial) ?_
  rintro r s ⟨rfl, probed⟩
  rw [absent] at probed
  obtain rfl := probed
  dsimp only
  rw [if_neg (by simp)]
  refine triple_call ((posixOpenSz_spec store s id).and (posixOpenSz_calm usable id free))
    (fun _ _ => trivial) ?_
  rintro _ s₁ ⟨⟨same, opened⟩, ctx, rfl, unlatched, -⟩
  obtain ⟨handle, empty⟩ := opened
  have small := keyRecord_small attr bound
  dsimp only
  rw [← length_keyRecord attr data]
  refine triple_call ((posixWrite_spec handle.temp empty).and (posixWrite_calm small))
    (fun _ _ => trivial) ?_
  rintro _ s₂ ⟨⟨same₂, wrote⟩, rfl, -⟩
  rcases wrote with latched | ⟨-, count, within, counted, content⟩
  · rw [show ctx = { ctx with writeFailed := true } from latched] at unlatched
    cases unlatched
  obtain rfl := toInt32_injective (Nat.lt_of_le_of_lt within small) small counted
  rw [List.take_length] at content
  refine triple_call ((posixClose_write_spec handle content).and
    (posixClose_calm handle.isWrite handle.hasTemp unlatched content)) (fun _ _ => trivial) ?_
  rintro _ s₃ ⟨closed, rfl, -⟩
  have kept := same.trans same₂
  rcases closed with ⟨-, negative⟩ | ⟨-, -, committed, -, volatile, others⟩
  · simp [storeOk] at negative
  · refine ⟨by simp, .persistent lifetime usable absent committed ?_ ?_⟩
    · exact fun other different => (others other different).trans (kept.records other)
    · exact volatile.trans kept.volatile

theorem importStore_calm {attributes attr : KeyAttributes} {data : Bytes} {id : KeyId} {w : World}
    (accepted : importCheck cfg attributes data = .ok attr) (usable : StoreUsable store)
    (missing : psaKeyLifetimeIsVolatile attr.lifetime = true → wolfpsaVolatileFind w id = none)
    (files : ∀ path, w.files path = none) :
    Triple sysHandler Calm (fun _ => True)
      (fun r s => KeyAdded store w attr data id s ∧
        r = importVerdict (toInt32 (keyHeaderLength + data.length)) id data.length)
      (onPosix store (importStore attr data id)) w := by
  obtain ⟨nonempty, bound, -⟩ := importCheck_ok accepted
  refine triple_here trivial fun alloc calm => ?_
  dsimp only [localHandler]
  rw [calm.allocates, if_neg (by simp)]
  cases lifetime : psaKeyLifetimeIsVolatile attr.lifetime with
  | true =>
    rw [if_pos rfl]
    refine triple_here trivial fun fault calm => ?_
    simp only [localHandler, volatileStore, if_neg nonempty, missing lifetime, calm.runs,
      Option.isSome_none, Bool.false_eq_true, if_false]
    exact ⟨.volatile lifetime (missing lifetime) rfl fun _ => rfl, rfl⟩
  | false =>
    rw [if_neg (by simp)]
    have absent : storedRecord store w id = none := by
      unfold storedRecord
      cases wolfPSAStoreName store.dir id with
      | none => rfl
      | some name => exact files name
    refine triple_calls (importPersistent_calm lifetime bound usable absent fun _ => files _)
      (fun _ _ => trivial) ?_
    rintro _ s ⟨rfl, added⟩
    exact ⟨added, rfl⟩

theorem openRecord_calm {w : World} {id : KeyId} {header rest : Bytes} (usable : StoreUsable store)
    (read : RecordRead store w id header rest) :
    Triple sysHandler Calm (· = w)
      (fun r s => s = w ∧ ∃ ctx, r = .ok (header, ctx) ∧ ctx.rest = rest ∧ ctx.hasTemp = false)
      (onPosix store (openRecord id)) w := by
  refine triple_call (posixOpen_calm usable w id) (fun _ same => same) ?_
  rintro r s ⟨rfl, opened⟩
  rw [read.record] at opened
  obtain ⟨ctx, rfl, content, reads, -⟩ := opened
  refine triple_call (posixRead_calm ctx keyHeaderLength s) (fun _ same => same) ?_
  rintro _ s ⟨rfl, rfl⟩
  have front : ctx.rest.take keyHeaderLength = header := by
    rw [content, List.take_append_of_le_length (Nat.le_of_eq read.header.symm),
      List.take_of_length_le (Nat.le_of_eq read.header)]
  have back : ctx.rest.drop keyHeaderLength = rest := by
    rw [content, ← read.header, List.drop_left]
  dsimp only
  rw [front, back, if_neg (not_not.mpr read.header)]
  exact ⟨rfl, _, rfl, rfl, reads⟩

/-- Without faults `psa_get_key_attributes` answers with the attributes of the key. -/
theorem psaGetKeyAttributes_calm {w : World} {id : KeyId} {attributes : KeyAttributes} {data : Bytes}
    (usable : StoreUsable store) (found : KeyFound store w id attributes data) :
    Triple sysHandler Calm (fun _ => True) (fun r _ => r = .ok { attributes with id := id })
      (onPosix store (psaGetKeyAttributes id)) w := by
  refine triple_here trivial fun init calm => ?_
  dsimp only [localHandler]
  rw [dif_neg (by simp [calm.runs])]
  refine triple_here trivial fun _ _ => ?_
  dsimp only [localHandler]
  cases found with
  | volatile node same =>
    rw [node, same]
    rfl
  | persistent missing record same =>
    rw [missing, same]
    refine triple_calls (openRecord_calm usable record) (fun _ _ => trivial) ?_
    rintro _ s₁ ⟨rfl, ctx, rfl, -, reads⟩
    refine triple_call (posixClose_read_spec s₁ reads) (fun _ _ => trivial) ?_
    rintro _ s₁ -
    rfl

/-- With identifiers left and the actions before it granted, `psa_import_key` gets as far as storing
what its checks accept. -/
theorem psaImportKey_reaches {attributes attr : KeyAttributes} {data : Bytes} {w : World}
    {post : Status × KeyId → World → Prop}
    (accepted : importCheck cfg attributes data = .ok attr)
    (counter : psaKeyIdVendorMin ≤ w.nextKeyId ∧ w.nextKeyId ≤ psaKeyIdVendorMax)
    (granted : ∀ fault, admitted fault → fault.fails = false)
    (stores : ∀ id w', AssignedId attr id →
      (psaKeyLifetimeIsVolatile attr.lifetime = true → id = w.nextKeyId) →
      w'.volatileKeys = w.volatileKeys → w'.files = w.files →
      Triple sysHandler admitted (fun _ => True) post (onPosix store (importStore attr data id)) w') :
    Triple sysHandler admitted (fun _ => True) post
      (onPosix store (psaImportKey cfg attributes data)) w := by
  unfold psaImportKey
  rw [accepted]
  refine triple_here trivial fun init allowed => ?_
  dsimp only [localHandler]
  rw [if_neg (by simp [granted init allowed])]
  by_cases assigns : (psaKeyLifetimeIsVolatile attr.lifetime || attr.id == psaKeyIdNull) = true
  · rw [if_pos assigns]
    refine triple_here trivial fun _ _ => ?_
    dsimp only [localHandler]
    rw [if_neg (by simpa [not_or, BitVec.not_lt] using counter)]
    exact stores w.nextKeyId _ (by rwa [AssignedId, if_pos assigns]) (fun _ => rfl) rfl rfl
  · rw [if_neg assigns]
    refine stores attr.id w (by rw [AssignedId, if_neg assigns]) (fun lifetime => ?_) rfl rfl
    simp [lifetime] at assigns

/-- What the first import of a volatile key leaves in a process whose store is empty. -/
def oneKeyWorld (attributes : KeyAttributes) (data : Bytes) : World :=
  ⟨psaKeyIdVendorMin + 1, [⟨psaKeyIdVendorMin, attributes, data⟩], fun _ => none⟩

theorem keyFound_oneKeyWorld (store : StoreConfig) (attributes : KeyAttributes) (data : Bytes) :
    KeyFound store (oneKeyWorld attributes data) psaKeyIdVendorMin attributes data :=
  .volatile (show wolfpsaVolatileFind _ _ = some ⟨psaKeyIdVendorMin, attributes, data⟩ from rfl)
    rfl rfl

/-- Without faults, a copy that its own checks and those of the import accept is made. -/
theorem psaCopyKey_calm {src requested copy attr : KeyAttributes} {data : Bytes}
    (usable : StoreUsable store) (granted : copyKeyAttributes src requested = .ok copy)
    (accepted : importCheck cfg copy data = .ok attr)
    (fits : keyHeaderLength + data.length ≤ intMax) :
    Triple sysHandler Calm (fun _ => True) (fun r s => ∃ id, r = (.success, id) ∧
        KeyAdded store (oneKeyWorld src data) attr data id s)
      (onPosix store (psaCopyKey cfg psaKeyIdVendorMin requested)) (oneKeyWorld src data) := by
  obtain ⟨nonempty, bound, -⟩ := importCheck_ok accepted
  refine triple_here trivial fun init calm => ?_
  dsimp only [localHandler]
  rw [if_neg (by simp [calm.runs])]
  refine triple_here trivial fun got calm => ?_
  have found : volatileGet got (oneKeyWorld src data) psaKeyIdVendorMin =
      .ok (src, data) := by
    simp [volatileGet, wolfpsaVolatileFind, oneKeyWorld, nonempty, calm.runs]
  dsimp only [localHandler]
  rw [found]
  dsimp only
  rw [granted]
  refine psaImportKey_reaches accepted (by simp [oneKeyWorld]; decide) (fun _ calm => calm.runs) ?_
  intro id w' assigned counted volatileKeys files
  refine (importStore_calm accepted usable ?_ (fun path => by rw [files]; rfl)).mono
    (fun _ _ => trivial) ?_
  · -- the counter has passed the identifier of the source key
    intro lifetime
    have different : (psaKeyIdVendorMin == id) = false := by
      rw [counted lifetime]
      rfl
    rw [wolfpsaVolatileFind, volatileKeys, oneKeyWorld, List.find?_cons, different, List.find?_nil]
  · rintro r s ⟨added, rfl⟩
    refine ⟨id, by rw [importVerdict_stored bound, if_pos fits], added.of_sameKeys ⟨volatileKeys, ?_⟩⟩
    intro other
    unfold storedRecord
    rw [files]

/-- An identifier `psa_import_key` assigns is not `PSA_KEY_ID_NULL`. -/
theorem AssignedId.ne_null {attr : KeyAttributes} {id : KeyId} (assigned : AssignedId attr id) :
    id ≠ psaKeyIdNull := by
  unfold AssignedId at assigned
  split at assigned
  · rintro rfl
    exact absurd assigned.1 (by decide)
  · rename_i given
    rintro rfl
    simp [← assigned] at given

end WolfPSA.Source
