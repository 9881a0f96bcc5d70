import WolfPSA.Guarantees.KeyCreation
import WolfPSA.Source.KeyThreads

/-!
# Policy and bytes from one record

A call that decides on the attributes of a key and then uses its data should take both from one
record, whatever other threads do meanwhile. `psa_export_key` and `psa_copy_key` read both through
one handle. `psa_export_public_key` and `psa_key_derivation_verify_key` look the key up twice: they
need the key to stay the same between their look-ups.
-/

namespace WolfPSA.Guarantees
open Lib Source Prog

variable {backend : StoreBackend} {trail : Trail KeyAct World} {id : KeyId}

/-! ## One look-up -/

/-- `psa_export_key` tests the usage of the key whose data it returns. -/
theorem psaExportKey_amid (backend : StoreBackend) (trail : Trail KeyAct World) (id : KeyId)
    (dataSize : Nat) :
    Amid (keyHandler backend) (fun trail' r => ∀ data, r = .ok data → ∃ attributes,
        KeyTaken backend trail' id attributes data ∧ attributes.usage &&& psaKeyUsageExport ≠ 0)
      (psaExportKey id dataSize) trail := by
  refine amid_act fun w faults => ?_
  split
  · exact fun data same => by cases same
  refine amid_act fun w' faults' => ?_
  dsimp only [keyHandler, localHandler]
  rcases volatileGet_cases (faults' 0) w' id with ⟨node, found, got⟩ | ⟨status, got, missing⟩
  · rw [got]
    dsimp only
    by_cases denied : node.attributes.usage &&& psaKeyUsageExport = 0
    · rw [if_pos denied]
      exact fun data same => by cases same
    rw [if_neg denied]
    by_cases small : dataSize < node.data.length
    · rw [if_pos small]
      exact fun data same => by cases same
    rw [if_neg small]
    intro data same
    refine ⟨node.attributes, .volatile (lookedUp_get _ id w') found rfl ?_, denied⟩
    exact (Except.ok.inj same).symm
  · rw [got]
    dsimp only
    by_cases other : status.val ≠ .invalidHandle
    · rw [if_pos other]
      exact fun data same => by cases same
    rw [if_neg other]
    refine amid_bind_of (openRecord_amid backend _ id) ?_
    rintro trail' (status' | header) later opened
    · exact fun data same => by cases same
    obtain ⟨w'', looked, record, length⟩ := opened header.1 header.2 rfl
    dsimp only
    by_cases denied : (psaKeyAttributesDeserialize header.1).usage &&& psaKeyUsageExport = 0
    · rw [if_pos denied]
      exact close_amid _ _ fun _ _ data same => by cases same
    rw [if_neg denied]
    by_cases valid : wolfpsaValidateStoredKeyDataLength (keyHeaderDataLength header.1) = .success
    · rw [if_neg (not_not.mpr valid)]
      by_cases small : dataSize < keyHeaderDataLength header.1
      · rw [if_pos small]
        exact close_amid _ _ fun _ _ data same => by cases same
      rw [if_neg small]
      refine amid_act fun w₃ faults₃ => ?_
      obtain ⟨count, bound, answer⟩ :=
        backend.reads faults₃ header.2 (keyHeaderDataLength header.1) w₃
      have read : (keyHandler backend faults₃
          (KeyAct.store (.read header.2 (keyHeaderDataLength header.1))) w₃).1 = _ := answer
      rw [read]
      refine amid_act fun w₄ _ => ?_
      dsimp only
      by_cases full : (header.2.rest.take count).length = keyHeaderDataLength header.1
      · rw [if_neg (not_not.mpr full)]
        intro data same
        obtain rfl := Except.ok.inj same
        have grown {a b : KeyAct × World} : trail' <:+ a :: b :: trail' :=
          (List.suffix_cons _ _).trans (List.suffix_cons _ _)
        exact ⟨_, .persistent ((lookedUp_get _ id w').mono (later.trans grown))
          (missing (not_not.mp other)) (looked.mono grown) record length rfl
          (dataRead_of_length bound full valid), denied⟩
      · rw [if_pos full]
        exact fun data same => by cases same
    · rw [if_pos valid]
      exact close_amid _ _ fun _ _ data same => by cases same

/-- The call stored the key: as a node of the volatile list, or as the record it wrote. -/
def Stores (trail : Trail KeyAct World) (attr : KeyAttributes) (data : Bytes) : Prop :=
  ∃ w, (∃ newId, (KeyAct.here (.volatileStore newId attr data), w) ∈ trail) ∨
    ∃ ctx length, (KeyAct.store (.write ctx (keyRecord attr data) length), w) ∈ trail

private theorem importPersistent_amid (trail : Trail KeyAct World) (newId : KeyId)
    (attr : KeyAttributes) (data : Bytes) :
    Amid (keyHandler backend) (fun trail' r => ∀ code, r = .ok code → 0 ≤ code →
        Stores trail' attr data)
      (importPersistent newId attr data) trail := by
  refine amid_act fun _ _ => amid_act fun w faults => ?_
  cases (keyHandler backend faults (KeyAct.store (.open newId)) w).1 with
  | ok ctx => exact amid_act fun _ _ => amid_act fun _ _ code same => by cases same
  | error ret =>
    dsimp only
    split
    · exact amid_act fun _ _ code same => by cases same
    refine amid_act fun w' faults' => ?_
    cases opened : (keyHandler backend faults' (KeyAct.store (.openSz newId data.length)) w').1 with
    | error ret =>
      refine amid_act fun _ _ code same nonnegative => ?_
      have negative := backend.refuses opened
      obtain rfl := Except.ok.inj same
      omega
    | ok ctx =>
      refine amid_act fun w₃ _ => amid_act fun _ _ => amid_act fun _ _ code _ _ => ?_
      exact ⟨w₃, .inr ⟨ctx, toInt32 (keyHeaderLength + data.length), by simp⟩⟩

private theorem importStore_amid (trail : Trail KeyAct World) (attr : KeyAttributes) (data : Bytes)
    (newId : KeyId) :
    Amid (keyHandler backend) (fun trail' r => r.1 = .success → Stores trail' attr data)
      (importStore attr data newId) trail := by
  refine amid_act fun w faults => ?_
  cases (keyHandler backend faults (KeyAct.here (.malloc .recordBuffer)) w).1 with
  | false => exact fun succeeded => by cases succeeded
  | true =>
    simp only [Bool.not_true, Bool.false_eq_true, if_false]
    cases psaKeyLifetimeIsVolatile attr.lifetime with
    | true =>
      rw [if_pos rfl]
      refine amid_act fun w' _ => ?_
      split
      · rename_i failed
        exact fun succeeded => absurd succeeded failed
      · exact fun _ => ⟨w', .inl ⟨newId, by simp⟩⟩
    | false =>
      rw [if_neg (by simp)]
      refine amid_bind_of (importPersistent_amid _ newId attr data) ?_
      rintro trail' (status | code) _ wrote
      · exact fun succeeded => absurd succeeded status.property
      · intro succeeded
        refine wrote code rfl ?_
        by_contra negative
        rw [importVerdict, if_pos (Int.not_le.mp negative)] at succeeded
        exact (wolfpsaStoreOpenStatus code).property succeeded

/-- A successful `psa_import_key` stored the key it was given. -/
theorem psaImportKey_amid (cfg : ImportConfig) (trail : Trail KeyAct World)
    (attributes : KeyAttributes) (data : Bytes) :
    Amid (keyHandler backend) (fun trail' r => r.1 = .success →
        ∃ attr, importCheck cfg attributes data = .ok attr ∧ Stores trail' attr data)
      (psaImportKey cfg attributes data) trail := by
  unfold psaImportKey
  cases accepted : importCheck cfg attributes data with
  | error status => exact fun succeeded => absurd succeeded status.property
  | ok attr =>
    refine amid_act fun w faults => ?_
    split
    · rename_i failed
      exact fun succeeded => absurd succeeded failed
    split
    · refine amid_act fun w' faults' => ?_
      cases (keyHandler backend faults' (KeyAct.here .nextKeyId) w').1 with
      | none => exact fun succeeded => by cases succeeded
      | some newId =>
        exact (importStore_amid _ attr data newId).mono fun _ _ stores succeeded =>
          ⟨attr, rfl, stores succeeded⟩
    · exact (importStore_amid _ attr data attr.id).mono fun _ _ stores succeeded =>
        ⟨attr, rfl, stores succeeded⟩

/-- `psa_copy_key` decides on the policy of the key whose data it stores. -/
theorem psaCopyKey_amid (cfg : ImportConfig) (trail : Trail KeyAct World) (source : KeyId)
    (requested : KeyAttributes) :
    Amid (keyHandler backend) (fun trail' r => r.1 = .success → ∃ src data copy attr,
        KeyTaken backend trail' source src data ∧ copyKeyAttributes src requested = .ok copy ∧
          importCheck cfg copy data = .ok attr ∧ Stores trail' attr data)
      (psaCopyKey cfg source requested) trail := by
  -- the import of what a look-up took
  have imports {trail : Trail KeyAct World} {src copy : KeyAttributes} {data : Bytes}
      (taken : KeyTaken backend trail source src data)
      (granted : copyKeyAttributes src requested = .ok copy) :
      Amid (keyHandler backend) (fun trail' r => r.1 = .success → ∃ src data copy attr,
        KeyTaken backend trail' source src data ∧ copyKeyAttributes src requested = .ok copy ∧
          importCheck cfg copy data = .ok attr ∧ Stores trail' attr data)
        (psaImportKey cfg copy data) trail := by
    refine (psaImportKey_amid cfg trail copy data).extends.mono fun trail' r later succeeded => ?_
    obtain ⟨attr, accepted, stores⟩ := later.2 succeeded
    exact ⟨src, data, copy, attr, taken.mono later.1, granted, accepted, stores⟩
  refine amid_act fun w faults => ?_
  split
  · rename_i failed
    exact fun succeeded => absurd succeeded failed
  refine amid_act fun w' faults' => ?_
  dsimp only [keyHandler, localHandler]
  rcases volatileGet_cases (faults' 0) w' source with ⟨node, found, got⟩ | ⟨status, got, missing⟩
  · rw [got]
    dsimp only
    cases granted : copyKeyAttributes node.attributes requested with
    | error status => exact fun succeeded => absurd succeeded status.property
    | ok copy => exact imports (.volatile (lookedUp_get _ source w') found rfl rfl) granted
  · rw [got]
    dsimp only
    by_cases other : status.val ≠ .invalidHandle
    · rw [if_pos other]
      exact fun succeeded => absurd succeeded status.property
    rw [if_neg other]
    refine amid_bind_of (openRecord_amid backend _ source) ?_
    rintro trail' (status' | header) later opened
    · exact fun succeeded => absurd succeeded status'.property
    obtain ⟨w'', looked, record, length⟩ := opened header.1 header.2 rfl
    dsimp only
    cases granted : copyKeyAttributes (psaKeyAttributesDeserialize header.1) requested with
    | error status =>
      exact close_amid _ _ fun _ _ succeeded => absurd succeeded status.property
    | ok copy =>
      refine amid_bind_of (readRecordData_amid backend trail' header) ?_
      rintro trail'' (status'' | data) latest read
      · exact fun succeeded => absurd succeeded status''.property
      · exact imports (.persistent ((lookedUp_get _ source w').mono (later.trans latest))
          (missing (not_not.mp other)) (looked.mono latest) record length rfl (read data rfl)) granted

/-! ## Two look-ups -/

/-- With steady look-ups, `psa_export_public_key` dispatches on the type of the key whose data it
exports. -/
theorem psaExportPublicKey_amid (trail : Trail KeyAct World) (publicKeyOf : PublicKeyOf) (id : KeyId)
    (dataSize : Nat) :
    Amid (keyHandler backend) (fun trail' r => ∀ bytes, r = .ok bytes →
        SteadyLookups backend trail' id → ∃ attributes data,
          KeyTaken backend trail' id attributes data ∧ hasPublicKey attributes.type = true ∧
            exportPublicData publicKeyOf attributes data dataSize = .ok bytes)
      (psaExportPublicKey publicKeyOf id dataSize) trail := by
  refine amid_act fun w faults => ?_
  split
  · exact fun bytes same => by cases same
  refine amid_act fun w' faults' => ?_
  dsimp only [keyHandler, localHandler]
  rcases volatileGet_cases (faults' 0) w' id with ⟨node, found, got⟩ | ⟨status, got, missing⟩
  · rw [got]
    dsimp only
    cases typed : hasPublicKey node.attributes.type with
    | false => exact fun bytes same => by cases same
    | true =>
      exact fun bytes same _ =>
        ⟨node.attributes, node.data, .volatile (lookedUp_get _ id w') found rfl rfl, typed, same⟩
  · rw [got]
    dsimp only
    by_cases other : status.val ≠ .invalidHandle
    · rw [if_pos other]
      exact fun bytes same => by cases same
    rw [if_neg other]
    refine amid_bind_of (psaGetKeyAttributes_amid backend _ id) ?_
    rintro trail' (status' | attributes) later attributesFound
    · exact fun bytes same => by cases same
    dsimp only
    cases typed : hasPublicKey attributes.type with
    | false => exact fun bytes same => by cases same
    | true =>
      have attributesFound := attributesFound attributes rfl
      refine readRecord_amid backend trail' id ((lookedUp_get _ id w').mono later)
        (missing (not_not.mp other)) ?_ ?_
      · exact fun trail'' status bytes same => by cases same
      · intro trail'' header data latest taken bytes same steady
        have equal := (attributesFound.mono latest).eq_of_steady taken steady
        rw [equal] at typed same
        exact ⟨_, data, taken, typed, same⟩

/-- With steady look-ups, `psa_key_derivation_verify_key` checks the policy of the key it compares
with. -/
theorem kdfVerifyKey_amid {Hmac Cmac : Type} (trail : Trail KeyAct World) (env : KdfEnv Hmac Cmac)
    (operation : KdfOperation) (expected : KeyId) :
    Amid (keyHandler backend) (fun trail' r => r.1.status = some .success →
        SteadyLookups backend trail' expected → ∃ ctx attributes data,
          operation = some ctx ∧ KeyTaken backend trail' expected attributes data ∧
            kdfVerifyKeyCheck ctx attributes = .success ∧
            (psaKeyDerivationVerifyBytes env operation (.data data)).1.status = some .success)
      (kdfVerifyKey env operation expected) trail := by
  cases operation with
  | none => exact fun succeeded => by cases succeeded
  | some ctx =>
    unfold kdfVerifyKey
    dsimp only
    split
    · exact fun succeeded => by cases succeeded
    refine amid_bind_of (psaGetKeyAttributes_amid backend trail expected) ?_
    rintro trail' (status | attributes) later attributesFound
    · exact fun succeeded => absurd (Option.some.inj succeeded) status.property
    have attributesFound := attributesFound attributes rfl
    dsimp only
    by_cases checked : kdfVerifyKeyCheck ctx attributes = .success
    · rw [if_neg (not_not.mpr checked)]
      refine amid_bind_of (wolfpsaGetKeyData_amid backend trail' expected) ?_
      rintro trail'' (status | ⟨attributes', data⟩) latest taken
      · exact fun succeeded => absurd (Option.some.inj succeeded) status.property
      intro succeeded steady
      have taken := taken attributes' data rfl
      have equal := (attributesFound.mono latest).eq_of_steady taken steady
      rw [kdfDoneAfter_fst] at succeeded
      refine ⟨ctx, attributes', data, rfl, taken, ?_, succeeded⟩
      rw [equal] at checked
      exact checked
    · rw [if_pos checked]
      exact fun succeeded => absurd (Option.some.inj succeeded) checked

/-! ## Pools of threads -/

/-- One thread's call and the calls of other threads, before the first step. -/
def keyPool {α : Type} (call : KeyProg α) (w : World) (others : Nat → KeyProg Unit) :
    Pool KeyAct KeyRes World α :=
  ⟨w, none, call, [], others⟩

/-- In every interleaving with any calls of other threads, over any back end whose handles are
snapshots and every fault: `psa_export_key` and `psa_copy_key` take the usage they test, the policy
they compute and the bytes they return or store from one key; `psa_export_public_key` and
`psa_key_derivation_verify_key` do so whenever the identifier names the same at each of their own
look-ups. -/
theorem policy_and_bytes_from_one_record {Hmac Cmac : Type} (backend : StoreBackend) (w : World)
    (others : Nat → KeyProg Unit) (turns : List (Option Nat × (Nat → Fault))) (id : KeyId) :
    (∀ size bytes,
      let end_ := (keyPool (psaExportKey id size) w others).run (keyHandler backend) keyLockUse turns
      end_.observed = .ret (.ok bytes) →
      ∃ w', LookedUp end_.trail id w' ∧ ∃ attributes, HeldKey backend w' id attributes bytes ∧
        attributes.usage &&& psaKeyUsageExport ≠ 0) ∧
    (∀ cfg requested newId,
      let end_ := (keyPool (psaCopyKey cfg id requested) w others).run (keyHandler backend)
        keyLockUse turns
      end_.observed = .ret (.success, newId) →
      ∃ w', LookedUp end_.trail id w' ∧ ∃ src data copy attr, HeldKey backend w' id src data ∧
        copyKeyAttributes src requested = .ok copy ∧ importCheck cfg copy data = .ok attr ∧
        Stores end_.trail attr data) ∧
    (∀ publicKeyOf size bytes,
      let end_ := (keyPool (psaExportPublicKey publicKeyOf id size) w others).run
        (keyHandler backend) keyLockUse turns
      end_.observed = .ret (.ok bytes) → SteadyLookups backend end_.trail id →
      ∃ w', LookedUp end_.trail id w' ∧ ∃ attributes data, HeldKey backend w' id attributes data ∧
        hasPublicKey attributes.type = true ∧
        exportPublicData publicKeyOf attributes data size = .ok bytes) ∧
    ∀ (env : KdfEnv Hmac Cmac) ctx result after,
      let end_ := (keyPool (kdfVerifyKey env (some ctx) id) w others).run (keyHandler backend)
        keyLockUse turns
      end_.observed = .ret (result, after) → result.status = some .success →
      SteadyLookups backend end_.trail id →
      ∃ w', LookedUp end_.trail id w' ∧ ∃ attributes data, HeldKey backend w' id attributes data ∧
        kdfVerifyKeyCheck ctx attributes = .success ∧
        (psaKeyDerivationVerifyBytes env (some ctx) (.data data)).1.status = some .success := by
  refine ⟨?_, ?_, ?_, ?_⟩
  · intro size bytes end_ returned
    obtain ⟨attributes, taken, usage⟩ :=
      Amid.pool (psaExportKey_amid backend [] id size) turns returned bytes rfl
    obtain ⟨w', looked, held⟩ := taken.held
    exact ⟨w', looked, attributes, held, usage⟩
  · intro cfg requested newId end_ returned
    obtain ⟨src, data, copy, attr, taken, granted, accepted, stores⟩ :=
      Amid.pool (psaCopyKey_amid cfg [] id requested) turns returned rfl
    obtain ⟨w', looked, held⟩ := taken.held
    exact ⟨w', looked, src, data, copy, attr, held, granted, accepted, stores⟩
  · intro publicKeyOf size bytes end_ returned steady
    obtain ⟨attributes, data, taken, typed, exported⟩ :=
      Amid.pool (psaExportPublicKey_amid [] publicKeyOf id size) turns returned bytes rfl steady
    obtain ⟨w', looked, held⟩ := taken.held
    exact ⟨w', looked, attributes, data, held, typed, exported⟩
  · intro env ctx result after end_ returned succeeded steady
    obtain ⟨_, attributes, data, same, taken, checked, verified⟩ :=
      Amid.pool (kdfVerifyKey_amid [] env (some ctx) id) turns returned succeeded steady
    obtain rfl := Option.some.inj same
    obtain ⟨w', looked, held⟩ := taken.held
    exact ⟨w', looked, attributes, data, held, checked, verified⟩

/-! ## A key replaced between the look-ups -/

/-- A persistent LMS public key under the identifier 1. -/
def lmsPublicKey : KeyAttributes :=
  ⟨psaKeyTypeLmsPublicKey, 192, psaKeyLifetimePersistent, psaKeyUsageExport, psaAlgNone,
    psaAlgNone, 1⟩

def secretAesBytes : Bytes := List.replicate 16 7

/-- The store after the import of the public key. -/
def publicKeyWorld : World :=
  (runOn freshStore (fun _ => calmFault) (psaImportKey plainImport lmsPublicKey (List.replicate 48 1))
    freshWorld).2

/-- Another thread destroys the public key and imports an AES key in its place. -/
def replaceKey : KeyProg Unit := do
  let _ ← psaDestroyKey 1
  let _ ← psaImportKey plainImport persistentAesKey secretAesBytes
  pure ()

/-- The other thread runs between the two look-ups. -/
def replacedPool (publicKeyOf : PublicKeyOf) : Pool KeyAct KeyRes World (Except Failure Bytes) :=
  (keyPool (psaExportPublicKey publicKeyOf 1 64) publicKeyWorld fun _ => replaceKey).run
    (keyHandler (posixBackend freshStore)) keyLockUse
    ((List.replicate 7 none ++ List.replicate 20 (some 0) ++ List.replicate 10 none).map
      fun thread => (thread, fun _ => calmFault))


/-- No back end that computes public keys. -/
def noPublicKeyOf : PublicKeyOf := fun _ _ _ _ => .error ⟨.notSupported, failing⟩

/-- Whether the record under `id`, read as a key, has a public key that exports as `bytes`. -/
def recordExports (publicKeyOf : PublicKeyOf) (record : Option Bytes) (size : Nat) (bytes : Bytes) :
    Bool :=
  record.any fun record =>
    let header := record.take keyHeaderLength
    let attributes := psaKeyAttributesDeserialize header
    let data := (record.drop keyHeaderLength).take (keyHeaderDataLength header)
    hasPublicKey attributes.type &&
      match exportPublicData publicKeyOf attributes data size with
      | .ok exported => exported == bytes
      | .error _ => false

theorem HeldKey.recordExports {backend : StoreBackend} {w : World} {id : KeyId}
    {attributes : KeyAttributes} {data bytes : Bytes} {publicKeyOf : PublicKeyOf} {size : Nat}
    (held : HeldKey backend w id attributes data) (missing : wolfpsaVolatileFind w id = none)
    (typed : hasPublicKey attributes.type = true)
    (exported : exportPublicData publicKeyOf attributes data size = .ok bytes) :
    Guarantees.recordExports publicKeyOf (backend.record w id) size bytes = true := by
  cases held with
  | volatile found =>
    rw [missing] at found
    cases found
  | @persistent header rest record length same read =>
    have taken := read.taken
    subst same taken
    rw [record, Guarantees.recordExports, Option.any_some, ← length, List.take_left, List.drop_left]
    dsimp only
    rw [typed, exported, Bool.true_and]
    exact beq_self_eq_true bytes

/-- The call that tested an LMS public key returns the AES key that took its place. -/
theorem export_public_key_returns_replacement :
    (replacedPool noPublicKeyOf).observed = .ret (.ok secretAesBytes) ∧
    ¬∃ w', LookedUp (replacedPool noPublicKeyOf).trail 1 w' ∧ ∃ attributes data,
      HeldKey (posixBackend freshStore) w' 1 attributes data ∧
        hasPublicKey attributes.type = true ∧
        exportPublicData noPublicKeyOf attributes data 64 = .ok secretAesBytes := by
  refine ⟨Prog.of_result (by decide +kernel), ?_⟩
  rintro ⟨w', ⟨a, member, -⟩, attributes, data, held, typed, exported⟩
  have unseen : ∀ step ∈ (replacedPool noPublicKeyOf).trail,
      wolfpsaVolatileFind step.2 1 = none ∧
        recordExports noPublicKeyOf (storedRecord freshStore step.2 1) 64 secretAesBytes = false := by
    decide +kernel
  have exports := HeldKey.recordExports held (unseen _ member).1 typed exported
  exact Bool.false_ne_true ((unseen _ member).2.symm.trans exports)

end WolfPSA.Guarantees
