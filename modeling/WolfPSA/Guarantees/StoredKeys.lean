import WolfPSA.Lib.Trace
import WolfPSA.Guarantees.RecordRoundTrip

/-!
# What a stored key has passed

Every key in the volatile list or in the store went through the checks of `psa_import_key`, also when
it came from a copy, and would pass them again.
-/

namespace WolfPSA.Guarantees
open Lib Source

/-- Every key of the map has an identifier, and passes the checks of `psa_import_key` with the
attributes it is stored with. -/
structure Checked (cfg : ImportConfig) (m : KeyMap) : Prop where
  volatile : ∀ node ∈ m.volatileKeys, node.id ≠ psaKeyIdNull ∧
    importCheck cfg node.attributes node.data = .ok node.attributes
  records : ∀ id record, m.records id = some record → id ≠ psaKeyIdNull ∧ ∃ attr data,
    record = keyRecord attr data ∧ attr.alg2 = psaAlgNone ∧ importCheck cfg attr data = .ok attr

section

variable {cfg : ImportConfig} {m : KeyMap} {id : KeyId} {attributes attr : KeyAttributes}
  {data : Bytes}

theorem openRecord_keyRecord (present : m.records id = some (keyRecord attr data)) :
    m.openRecord id = .ok (keyHeader attr data.length, data) := by
  obtain ⟨front, back⟩ := keyRecord_cut attr data
  unfold KeyMap.openRecord
  rw [present]
  dsimp only
  rw [if_neg (by rw [length_keyRecord]; omega), front, back]

/-- A key that a look-up finds has an identifier and passes the checks, under any other as well. -/
theorem Checked.getKeyData (checked : Checked cfg m)
    (found : m.getKeyData id = .ok (attributes, data)) :
    id ≠ psaKeyIdNull ∧ ∀ newId, importCheck cfg { attributes with id := newId } data =
      .ok { attributes with id := newId } := by
  unfold KeyMap.getKeyData at found
  cases present : m.find id with
  | some node =>
    rw [present] at found
    obtain ⟨named, passed⟩ := checked.volatile node (List.mem_of_find?_eq_some present)
    have same : node.id = id := by simpa using List.find?_some present
    dsimp only at found
    unfold KeyMap.volatileKey at found
    split at found
    · cases found
    · cases found
      exact ⟨same ▸ named, importCheck_again passed⟩
  | none =>
    rw [present] at found
    dsimp only at found
    cases recorded : m.records id with
    | none =>
      rw [KeyMap.openRecord, recorded] at found
      cases found
    | some record =>
      obtain ⟨named, attr, plain, rfl, alg2, passed⟩ := checked.records id record recorded
      obtain ⟨nonempty, bound, _⟩ := importCheck_ok passed
      rw [openRecord_keyRecord recorded] at found
      dsimp only at found
      rw [recordData_whole attr nonempty bound, deserialize_keyHeader] at found
      cases found
      refine ⟨named, fun newId => ?_⟩
      have again := importCheck_again passed newId
      rw [← alg2]
      exact again

theorem Checked.setRecord {content : Option Bytes} (checked : Checked cfg m)
    (passes : ∀ record, content = some record → id ≠ psaKeyIdNull ∧ ∃ attr data,
      record = keyRecord attr data ∧ attr.alg2 = psaAlgNone ∧
        importCheck cfg attr data = .ok attr) :
    Checked cfg (m.setRecord id content) := by
  refine ⟨checked.volatile, fun other record present => ?_⟩
  change Function.update m.records id content other = some record at present
  by_cases here : other = id
  · subst here
    rw [Function.update_self] at present
    exact passes record present
  · rw [Function.update_of_ne here] at present
    exact checked.records other record present

theorem Checked.addKey (checked : Checked cfg m) (named : id ≠ psaKeyIdNull)
    (passed : importCheck cfg attr data = .ok attr) :
    Checked cfg (m.addKey attr data id).2 := by
  unfold KeyMap.addKey
  split
  · split
    · exact checked
    · refine ⟨fun node member => ?_, checked.records⟩
      rcases List.mem_cons.mp member with rfl | older
      · exact ⟨named, passed⟩
      · exact checked.volatile node older
  · rename_i persistent
    split
    · exact checked
    · refine checked.setRecord fun record same => ?_
      cases same
      exact ⟨named, attr, data, rfl, (importCheck_ok passed).2.2.2 (by simpa using persistent), passed⟩

theorem Checked.importKey (checked : Checked cfg m) (attributes : KeyAttributes) (data : Bytes) :
    Checked cfg (m.importKey cfg attributes data).2 := by
  unfold KeyMap.importKey
  split
  · exact checked
  rename_i attr accepted
  have passed : importCheck cfg attr data = .ok attr := importCheck_again accepted attr.id
  split
  · split
    · exact checked
    · rename_i left
      have named : m.nextKeyId ≠ psaKeyIdNull := fun null => left (.inl (by rw [null]; decide))
      exact Checked.addKey ⟨checked.volatile, checked.records⟩ named passed
  · rename_i given
    exact checked.addKey (by rintro null; simp [null] at given) passed

theorem Checked.copyKey (checked : Checked cfg m) (source : KeyId) (requested : KeyAttributes) :
    Checked cfg (m.copyKey cfg source requested).2 := by
  have copied (attributes : KeyAttributes) (data : Except Failure Bytes) :
      Checked cfg (m.copyData cfg attributes requested data).2 := by
    unfold KeyMap.copyData
    split
    · exact checked
    split
    · exact checked
    · exact checked.importKey _ _
  unfold KeyMap.copyKey
  split
  · split
    · exact checked
    · exact copied _ _
  · split
    · exact checked
    · exact copied _ _

theorem Checked.destroyKey (checked : Checked cfg m) (id : KeyId) :
    Checked cfg (m.destroyKey id).2 := by
  unfold KeyMap.destroyKey
  split
  · exact checked
  split
  · exact ⟨fun node member => checked.volatile node (List.mem_of_mem_eraseP member), checked.records⟩
  · split
    · exact checked
    · exact checked.setRecord fun _ same => by cases same

end

/-! ## Runs -/

/-- One call on a back end, with the environment of its steps. -/
def storeStep (backend : StoreBackend) (cfg : ImportConfig) (w : World)
    (call : StoreOp × (Nat → Nat → Fault)) : StoreAnswer × World :=
  (call.1.program cfg).run (keyHandler backend) call.2 w

/-- A call that fits the records, names a key and meets an environment that grants it. -/
structure CalmCall (call : StoreOp × (Nat → Nat → Fault)) : Prop where
  fits : call.1.Fits
  named : call.1.Named
  calm : ∀ n, CalmFaults (call.2 n)

/-- What holds of every world that calls reach from an empty store. -/
structure StoredKeys (backend : StoreBackend) (good : World → Prop) (cfg : ImportConfig) (w : World) :
    Prop where
  good : good w
  small : (keyMap backend w).Small
  checked : Checked cfg (keyMap backend w)

theorem storeOp_checked {cfg : ImportConfig} {m : KeyMap} (checked : Checked cfg m) (op : StoreOp) :
    Checked cfg (op.answer cfg m).2 := by
  cases op with
  | importKey attributes data => exact checked.importKey attributes data
  | copyKey source requested => exact checked.copyKey source requested
  | destroyKey id => exact checked.destroyKey id
  | getKeyAttributes _ | exportKey _ _ | getKeyData _ => exact checked

/-- The step lemma. -/
theorem storeStep_storedKeys {backend : StoreBackend} {good : World → Prop} {cfg : ImportConfig}
    {w : World} (lawful : LawfulStore backend good) (call : StoreOp × (Nat → Nat → Fault))
    (calm : CalmCall call) (stored : StoredKeys backend good cfg w) :
    StoredKeys backend good cfg (storeStep backend cfg w call).2 := by
  have spec : Moves backend good w (call.1.answer cfg (keyMap backend w)) (call.1.program cfg) :=
    storeOp_moves lawful stored.good stored.small calm.fits calm.named
  have moved := spec.run calm.calm
  refine ⟨moved.2.2, ?_, ?_⟩
  · rw [storeStep, moved.2.1]
    exact storeOp_small cfg stored.small calm.fits
  · rw [storeStep, moved.2.1]
    exact storeOp_checked stored.checked call.1

theorem storedKeys_empty {backend : StoreBackend} {good : World → Prop} (cfg : ImportConfig)
    (shipped : ShippedStore backend good) (counter : KeyId) :
    StoredKeys backend good cfg (emptyStore counter) := by
  have empty : backend.record (emptyStore counter) = fun _ => none := by
    cases shipped with
    | @posix store _ =>
      funext id
      show (wolfPSAStoreName store.dir id).bind (fun _ => none) = none
      cases wolfPSAStoreName store.dir id <;> rfl
    | zephyr =>
      funext id
      show (if id = psaKeyIdNull then none else none) = none
      split <;> rfl
  refine ⟨?_, small_empty empty, ⟨nofun, fun id record present => ?_⟩⟩
  · cases shipped with
    | posix => exact fun _ => rfl
    | zephyr => trivial
  · rw [show (keyMap backend (emptyStore counter)).records = fun _ => none from empty] at present
    cases present

/-- The run lemma: from an empty store on, every key in it has passed the checks. -/
theorem run_storedKeys {backend : StoreBackend} {good : World → Prop} (cfg : ImportConfig)
    (shipped : ShippedStore backend good) (counter : KeyId)
    (calls : List (StoreOp × (Nat → Nat → Fault))) (calm : ∀ call ∈ calls, CalmCall call) :
    StoredKeys backend good cfg
      (run (storeStep backend cfg) (emptyStore counter) calls).2 :=
  run_state_invariant (StoredKeys backend good cfg) (storedKeys_empty cfg shipped counter)
    (fun _ call => storeStep_storedKeys shipped.lawful call) calls calm

end WolfPSA.Guarantees
