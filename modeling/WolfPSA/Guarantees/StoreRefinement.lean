import WolfPSA.Guarantees.KeyCreation
import WolfPSA.Source.KeyMap

/-!
# Two stores, one map

The POSIX store writes a temporary file and renames it in close; the Zephyr store commits the whole
object in write. Over whole sequences of key calls in which nothing fails, both answer as a map from
key identifiers to records in which a write becomes visible when its handle is closed. They part on
`PSA_KEY_ID_NULL` alone: no back end holds a record for it, and Zephyr reports an error of the storage
where POSIX reports a record that is not there.
-/

namespace WolfPSA.Guarantees
open Lib Source Prog

/-! ## The map as a store -/

/-- The calls of `psa_store.h` on a map. A write is collected in its handle and enters the map when
the handle is closed. -/
def mapStore : (a : StoreAct) → World → StoreRes a × World
  | .open id, w =>
    (match w.files (itsName id) with
      | none => .error storeNotAvailable
      | some record => .ok ⟨false, false, false, itsName id, [], record⟩, w)
  | .openSz id _, w => (.ok ⟨true, false, false, itsName id, [], []⟩, w)
  | .read ctx length, w =>
    ((ctx.rest.take length, { ctx with rest := ctx.rest.drop length }), w)
  | .write ctx buffer length, w => ((length, { ctx with rest := ctx.rest ++ buffer }), w)
  | .close ctx, w =>
    (storeOk, if ctx.isWrite then w.setFile ctx.finalName (some ctx.rest) else w)
  | .remove id, w =>
    match w.files (itsName id) with
    | none => (storeNotAvailable, w)
    | some _ => (storeOk, w.setFile (itsName id) none)

private theorem drop_length_take (bytes : Bytes) (n : Nat) :
    bytes.drop (bytes.take n).length = bytes.drop n := by
  rcases Nat.le_total n bytes.length with within | beyond
  · rw [List.length_take, Nat.min_eq_left within]
  · rw [List.take_of_length_le beyond, List.drop_length, List.drop_eq_nil_of_le beyond]

def mapBackend : StoreBackend where
  call _ := mapStore
  record w id := w.files (itsName id)
  opened {faults id w ctx} granted := by
    simp only [mapStore] at granted
    split at granted
    · cases granted
    · rename_i held
      cases granted
      exact held
  reads faults ctx n w := ⟨n, Nat.le_refl n, by simp only [mapStore, drop_length_take]⟩
  refuses {faults id n w code} refused := by
    simp [mapStore] at refused

theorem itsName_injective {a b : KeyId} (same : itsName a = itsName b) : a = b := by
  unfold itsName at same
  have digits := List.append_cancel_left same
  have bound (x : KeyId) : x.toNat < 16 ^ 16 := Nat.lt_of_lt_of_le x.isLt (by decide)
  exact BitVec.eq_of_toNat_eq (hexText_injective (bound a) (bound b) digits)

private theorem update_itsName (w : World) (id : KeyId) (content : Option Bytes) :
    (fun other => (w.setFile (itsName id) content).files (itsName other)) =
      Function.update (fun other => w.files (itsName other)) id content := by
  funext other
  by_cases same : other = id
  · subst same
    rw [setFile_files_self, Function.update_self]
  · rw [setFile_files_of_ne w content (fun equal => same (itsName_injective equal)),
      Function.update_of_ne same]

private theorem keyMap_mapBackend (w : World) (id : KeyId) (content : Option Bytes) :
    keyMap mapBackend (w.setFile (itsName id) content) =
      (keyMap mapBackend w).setRecord id content := by
  have records := update_itsName w id content
  unfold keyMap KeyMap.setRecord
  dsimp only [mapBackend]
  rw [records]
  rfl

theorem lawful_mapBackend : LawfulStore mapBackend (fun _ => True) where
  frame {w w'} files := by
    refine ⟨?_, fun _ => trivial⟩
    show (fun id => w'.files (itsName id)) = _
    rw [files]
    rfl
  missing {faults w id} _ _ _ absent := by
    have none_ : w.files (itsName id) = none := absent
    show mapStore (.open id) w = _
    simp only [mapStore, none_]
  found {faults w id record} _ _ _ present := by
    have some_ : w.files (itsName id) = some record := present
    refine ⟨⟨false, false, false, itsName id, [], record⟩, ?_, rfl, ⟨rfl, rfl⟩⟩
    show mapStore (.open id) w = _
    simp only [mapStore, some_]
  read _ _ := rfl
  closed {faults w ctx} _ handle := by
    show mapStore (.close ctx) w = _
    simp [mapStore, handle.reads]
  writes {w id buffer} _ _ _ _ faults _ n := by
    refine ⟨⟨true, false, false, itsName id, [], []⟩, w, rfl, fun _ _ => ?_⟩
    refine ⟨⟨true, false, false, itsName id, [], buffer⟩, w, rfl, fun _ _ => ?_⟩
    refine ⟨w.setFile (itsName id) (some buffer), rfl, trivial, ?_⟩
    exact keyMap_mapBackend w id (some buffer)
  removes {faults w id} _ _ _ present := by
    obtain ⟨record, some_⟩ := Option.ne_none_iff_exists'.mp present
    have held : w.files (itsName id) = some record := some_
    refine ⟨w.setFile (itsName id) none, ?_, trivial, ?_⟩
    · show mapStore (.remove id) w = _
      simp only [mapStore, held]
    · exact keyMap_mapBackend w id none
  removesNothing {faults w id} _ _ _ absent := by
    have none_ : w.files (itsName id) = none := absent
    show mapStore (.remove id) w = _
    simp only [mapStore, none_]

/-! ## The two back ends -/

private theorem keyMap_zephyrBackend {id : KeyId} (named : id ≠ psaKeyIdNull) (w : World)
    (content : Option Bytes) : keyMap zephyrBackend (w.setFile (itsName id) content) =
      (keyMap zephyrBackend w).setRecord id content := by
  have records : (fun other => if other = psaKeyIdNull then none
      else (w.setFile (itsName id) content).files (itsName other)) =
      Function.update (fun other => if other = psaKeyIdNull then none
        else w.files (itsName other)) id content := by
    funext other
    by_cases same : other = id
    · subst same
      rw [if_neg named, setFile_files_self, Function.update_self]
    · rw [setFile_files_of_ne w content (fun equal => same (itsName_injective equal)),
        Function.update_of_ne same]
  unfold keyMap KeyMap.setRecord
  dsimp only [zephyrBackend]
  rw [records]
  rfl

theorem lawful_zephyrBackend : LawfulStore zephyrBackend (fun _ => True) where
  frame {w w'} files := by
    refine ⟨?_, fun _ => trivial⟩
    dsimp only [zephyrBackend]
    rw [files]
  missing {faults w id} calm _ named absent := by
    have gone : w.files (itsName id) = none := by
      rw [← absent]
      exact (if_neg named).symm
    show (zephyrOpen faults id w, w) = _
    unfold zephyrOpen
    rw [if_neg named, if_neg (by simp [(calm 0).runs]), gone]
  found {faults w id record} calm _ named present := by
    have held : w.files (itsName id) = some record := by
      rw [← present]
      exact (if_neg named).symm
    refine ⟨⟨false, false, false, itsName id, [], record⟩, ?_, rfl, ⟨rfl, rfl⟩⟩
    show (zephyrOpen faults id w, w) = _
    unfold zephyrOpen
    rw [if_neg named, if_neg (by simp [(calm 0).runs]), held]
    simp [(calm 1).allocates, (calm 2).allocates, (calm 3).runs]
  read {faults w ctx n} _ handle := by
    show (zephyrRead ctx n, w) = _
    simp [zephyrRead, handle.reads]
  closed _ _ := rfl
  writes {w id buffer} _ named nonempty fits faults calm n := by
    refine ⟨⟨true, false, false, itsName id, [], []⟩, w, ?_, fun faults calm => ?_⟩
    · show (zephyrOpenSz faults id, w) = _
      unfold zephyrOpenSz
      rw [if_neg named, if_neg (by simp [(calm 0).allocates])]
    refine ⟨⟨true, false, false, itsName id, [], buffer⟩, w.setFile (itsName id) (some buffer),
      ?_, fun _ _ => ?_⟩
    · -- the object is committed here, before its handle is closed
      show zephyrWrite faults _ buffer _ w = _
      rw [toInt32_of_le fits]
      have whole : buffer.take (buffer.length : Int).toNat = buffer := by simp
      unfold zephyrWrite
      rw [if_neg (by simp), if_neg (by simp [(calm 0).allocates])]
      dsimp only
      rw [List.nil_append, whole, if_neg nonempty, if_neg (by simp [(calm 1).runs])]
    · exact ⟨w.setFile (itsName id) (some buffer), rfl, trivial,
        keyMap_zephyrBackend named w (some buffer)⟩
  removes {faults w id} calm _ named present := by
    obtain ⟨record, some_⟩ := Option.ne_none_iff_exists'.mp present
    have held : w.files (itsName id) = some record := by
      rw [← some_]
      exact (if_neg named).symm
    refine ⟨w.setFile (itsName id) none, ?_, trivial, keyMap_zephyrBackend named w none⟩
    show zephyrRemove faults id w = _
    unfold zephyrRemove
    rw [if_neg named, if_neg (by simp [(calm 0).runs]), held]
  removesNothing {faults w id} calm _ named absent := by
    have gone : w.files (itsName id) = none := by
      rw [← absent]
      exact (if_neg named).symm
    show zephyrRemove faults id w = _
    unfold zephyrRemove
    rw [if_neg named, if_neg (by simp [(calm 0).runs]), gone]

/-- No write was left unfinished. -/
def NoTemps (store : StoreConfig) (w : World) : Prop :=
  ∀ suffix, w.files (tempName store.dir suffix) = none

private theorem noTemps_setFile {store : StoreConfig} {w : World} {id : KeyId} {name : Path}
    {content : Option Bytes} (clean : NoTemps store w)
    (named : wolfPSAStoreName store.dir id = some name) :
    NoTemps store (w.setFile name content) := by
  intro suffix
  rw [setFile_files_of_ne w content (tempName_ne_wolfPSAStoreName named)]
  exact clean suffix

private theorem keyMap_posixBackend {store : StoreConfig} {id : KeyId} {name : Path}
    (named : wolfPSAStoreName store.dir id = some name) (w : World) (content : Option Bytes) :
    keyMap (posixBackend store) (w.setFile name content) =
      (keyMap (posixBackend store) w).setRecord id content := by
  have records : storedRecord store (w.setFile name content) =
      Function.update (storedRecord store w) id content := by
    funext other
    by_cases same : other = id
    · subst same
      rw [storedRecord_setFile_self w content named, Function.update_self]
    · rw [storedRecord_setFile_other w content named same, Function.update_of_ne same]
  unfold keyMap KeyMap.setRecord
  dsimp only [posixBackend]
  rw [records]
  rfl

/-- A temporary file that was created, filled and renamed is gone. -/
private theorem setFile_temp_renamed {w : World} {temp name : Path} {buffer : Bytes}
    (fresh : w.files temp = none) :
    ((((w.setFile temp (some [])).setFile temp
      (((w.setFile temp (some [])).files temp).map (· ++ buffer))).setFile temp none).setFile name
        (some buffer)) = w.setFile name (some buffer) := by
  unfold World.setFile
  simp only [Function.update_idem]
  rw [← fresh, Function.update_eq_self]

theorem lawful_posixBackend {store : StoreConfig} (usable : StoreUsable store) :
    LawfulStore (posixBackend store) (NoTemps store) where
  frame {w w'} files := by
    refine ⟨?_, fun clean suffix => ?_⟩
    · show storedRecord store w' = storedRecord store w
      unfold storedRecord
      rw [files]
    · rw [files]
      exact clean suffix
  missing {faults w id} calm _ _ absent := by
    have answer := (posixOpen_calm usable w id).run calm
    rw [show storedRecord store w id = none from absent] at answer
    exact Prod.ext answer.2 answer.1
  found {faults w id record} calm _ _ present := by
    have answer := (posixOpen_calm usable w id).run calm
    rw [show storedRecord store w id = some record from present] at answer
    obtain ⟨same, ctx, opened, content, noTemp, reads⟩ := answer
    exact ⟨ctx, Prod.ext opened same, content, reads, noTemp⟩
  read {faults w ctx n} calm _ := by
    have answer := (posixRead_calm ctx n w).run calm
    exact Prod.ext answer.2 answer.1
  closed {faults w ctx} calm handle := by
    have answer := (posixClose_read_calm w handle.noTemp).run calm
    exact Prod.ext answer.1 answer.2
  writes {w id buffer} clean _ _ fits faults calm n := by
    obtain ⟨ctx, opened, unlatched, handle, made⟩ := (posixOpenSz_calm usable id clean).run calm
    refine ⟨ctx, w.setFile ctx.tempName (some []), Prod.ext opened made, fun faults calm => ?_⟩
    have small : buffer.length < 2 ^ 32 := by
      unfold intMax at fits
      omega
    have wrote := (@posixWrite_calm ctx (w.setFile ctx.tempName (some [])) buffer small).run calm
    refine ⟨ctx, _, Prod.ext wrote.1 wrote.2, fun faults calm => ?_⟩
    have pending : ((w.setFile ctx.tempName (some [])).setFile ctx.tempName
        (((w.setFile ctx.tempName (some [])).files ctx.tempName).map (· ++ buffer))).files
          ctx.tempName = some buffer := by
      simp
    have closed := (posixClose_calm handle.isWrite handle.hasTemp unlatched pending).run calm
    obtain ⟨suffix, temp⟩ := handle.temp
    have fresh : w.files ctx.tempName = none := by
      rw [temp]
      exact clean suffix
    rw [setFile_temp_renamed fresh] at closed
    exact ⟨_, Prod.ext closed.1 closed.2, noTemps_setFile clean handle.named,
      keyMap_posixBackend handle.named w (some buffer)⟩
  removes {faults w id} calm clean _ present := by
    obtain ⟨removed, name, named, gone⟩ := (posixRemove_calm usable present).run calm
    exact ⟨w.setFile name none, Prod.ext removed gone, noTemps_setFile clean named,
      keyMap_posixBackend named w none⟩
  removesNothing {faults w id} calm _ _ absent := by
    have answer := (posixRemove_missing_calm usable absent).run calm
    exact Prod.ext answer.1 answer.2

/-! ## Sequences of calls -/

/-- The key calls that work on stored keys. -/
inductive StoreOp where
  | importKey (attributes : KeyAttributes) (data : Bytes)
  | getKeyAttributes (id : KeyId)
  | exportKey (id : KeyId) (dataSize : Nat)
  | copyKey (source : KeyId) (requested : KeyAttributes)
  | destroyKey (id : KeyId)
  | getKeyData (id : KeyId)

/-- What a call returns: its status and its outputs. -/
inductive StoreAnswer where
  | created (result : Status × KeyId)
  | attributes (result : Except Failure KeyAttributes)
  | bytes (result : Except Failure Bytes)
  | key (result : Except Failure (KeyAttributes × Bytes))
  | status (result : Status)

namespace StoreOp

def program (cfg : ImportConfig) : StoreOp → KeyProg StoreAnswer
  | importKey attributes data => do
    let result ← psaImportKey cfg attributes data
    pure (.created result)
  | getKeyAttributes id => do
    let result ← psaGetKeyAttributes id
    pure (.attributes result)
  | exportKey id dataSize => do
    let result ← psaExportKey id dataSize
    pure (.bytes result)
  | copyKey source requested => do
    let result ← psaCopyKey cfg source requested
    pure (.created result)
  | destroyKey id => do
    let result ← psaDestroyKey id
    pure (.status result)
  | getKeyData id => do
    let result ← wolfpsaGetKeyData id
    pure (.key result)

/-- The call as a function of the map. -/
def answer (cfg : ImportConfig) (m : KeyMap) : StoreOp → StoreAnswer × KeyMap
  | importKey attributes data =>
    (.created (m.importKey cfg attributes data).1, (m.importKey cfg attributes data).2)
  | getKeyAttributes id => (.attributes (m.getKeyAttributes id), m)
  | exportKey id dataSize => (.bytes (m.exportKey id dataSize), m)
  | copyKey source requested =>
    (.created (m.copyKey cfg source requested).1, (m.copyKey cfg source requested).2)
  | destroyKey id => (.status (m.destroyKey id).1, (m.destroyKey id).2)
  | getKeyData id => (.key (m.getKeyData id), m)

/-- The key is small enough for a record of an `int` length, which every record limit of the Zephyr
back end implies. -/
def Fits : StoreOp → Prop
  | importKey _ data => keyHeaderLength + data.length ≤ intMax
  | _ => True

/-- The call does not look `PSA_KEY_ID_NULL` up. -/
def Named : StoreOp → Prop
  | getKeyAttributes id | exportKey id _ | copyKey id _ | getKeyData id => id ≠ psaKeyIdNull
  | importKey .. | destroyKey _ => True

end StoreOp

/-- The answers of a sequence of calls on a back end; `faults` is the environment of each call and
of each step in it. -/
def answers (backend : StoreBackend) (cfg : ImportConfig) :
    (Nat → Nat → Nat → Fault) → List StoreOp → World → List StoreAnswer
  | _, [], _ => []
  | faults, op :: rest, w =>
    let called := (op.program cfg).run (keyHandler backend) (faults 0) w
    called.1 :: answers backend cfg (fun n => faults (n + 1)) rest called.2

/-- A process that starts on an empty store. -/
def emptyStore (nextKeyId : KeyId) : World := ⟨nextKeyId, [], fun _ => none⟩

/-- The environment grants every step of every call. -/
def CalmCalls (faults : Nat → Nat → Nat → Fault) : Prop := ∀ n k, CalmFaults (faults n k)

section

variable {backend : StoreBackend} {good : World → Prop} {cfg : ImportConfig} {w : World}

/-- The step lemma: on a lawful store a call answers and moves the map as its function says. -/
theorem storeOp_moves (lawful : LawfulStore backend good) (holds : good w)
    (small : (keyMap backend w).Small) {op : StoreOp} (fits : op.Fits) (named : op.Named) :
    Moves backend good w (op.answer cfg (keyMap backend w)) (op.program cfg) := by
  cases op with
  | importKey attributes data =>
    refine triple_bind_of (psaImportKey_moves lawful holds fits) ?_
    rintro _ s ⟨rfl, moved, kept⟩
    exact ⟨rfl, moved, kept⟩
  | getKeyAttributes id =>
    refine triple_bind_of (psaGetKeyAttributes_reads lawful holds named) ?_
    rintro _ s ⟨rfl, rfl⟩
    exact ⟨rfl, rfl, holds⟩
  | exportKey id dataSize =>
    refine triple_bind_of (psaExportKey_reads lawful dataSize holds named) ?_
    rintro _ s ⟨rfl, rfl⟩
    exact ⟨rfl, rfl, holds⟩
  | copyKey source requested =>
    refine triple_bind_of (psaCopyKey_moves lawful holds named fun _ _ got => small.getKeyData got) ?_
    rintro _ s ⟨rfl, moved, kept⟩
    exact ⟨rfl, moved, kept⟩
  | destroyKey id =>
    refine triple_bind_of (psaDestroyKey_moves lawful holds) ?_
    rintro _ s ⟨rfl, moved, kept⟩
    exact ⟨rfl, moved, kept⟩
  | getKeyData id =>
    refine triple_bind_of (wolfpsaGetKeyData_reads lawful holds named) ?_
    rintro _ s ⟨rfl, rfl⟩
    exact ⟨rfl, rfl, holds⟩

theorem storeOp_small (cfg : ImportConfig) {m : KeyMap} (small : m.Small) {op : StoreOp} (fits : op.Fits) :
    (op.answer cfg m).2.Small := by
  cases op with
  | importKey attributes data => exact small.importKey fits
  | copyKey source requested => exact small.copyKey
  | destroyKey id => exact small.destroyKey id
  | getKeyAttributes _ | exportKey _ _ | getKeyData _ => exact small

/-- The answers of a sequence of calls as a function of the map. -/
def mapAnswers (cfg : ImportConfig) : List StoreOp → KeyMap → List StoreAnswer
  | [], _ => []
  | op :: rest, m => (op.answer cfg m).1 :: mapAnswers cfg rest (op.answer cfg m).2

/-- The run lemma: a lawful store answers every sequence of calls as the map does. -/
theorem answers_lawful (lawful : LawfulStore backend good) (ops : List StoreOp)
    (fits : ∀ op ∈ ops, op.Fits) (named : ∀ op ∈ ops, op.Named)
    {faults : Nat → Nat → Nat → Fault} (calm : CalmCalls faults) (holds : good w)
    (small : (keyMap backend w).Small) :
    answers backend cfg faults ops w = mapAnswers cfg ops (keyMap backend w) := by
  induction ops generalizing w faults with
  | nil => rfl
  | cons op rest ih =>
    obtain ⟨answered, moved, kept⟩ := (storeOp_moves lawful holds small
      (fits op List.mem_cons_self) (named op List.mem_cons_self)).run (calm 0)
    have smaller := storeOp_small cfg small (fits op List.mem_cons_self)
    rw [← moved] at smaller
    show _ :: _ = _ :: _
    rw [answered, ih (fun op later => fits op (List.mem_cons_of_mem _ later))
      (fun op later => named op (List.mem_cons_of_mem _ later)) (fun n => calm (n + 1)) kept smaller,
      moved]

end

/-! ## The two back ends refine the map -/

theorem small_empty {backend : StoreBackend} {counter : KeyId}
    (empty : backend.record (emptyStore counter) = fun _ => none) :
    (keyMap backend (emptyStore counter)).Small := by
  refine ⟨by simp [keyMap, emptyStore], fun id record present => ?_⟩
  rw [show (keyMap backend (emptyStore counter)).records = fun _ => none from empty] at present
  cases present

private theorem answers_empty (cfg : ImportConfig) (counter : KeyId) {backend : StoreBackend}
    {good : World → Prop} {ops : List StoreOp} {faults : Nat → Nat → Nat → Fault}
    (lawful : LawfulStore backend good) (fits : ∀ op ∈ ops, op.Fits)
    (named : ∀ op ∈ ops, op.Named) (calm : CalmCalls faults) (holds : good (emptyStore counter))
    (empty : backend.record (emptyStore counter) = fun _ => none) :
    answers backend cfg faults ops (emptyStore counter) =
      mapAnswers cfg ops ⟨counter, [], fun _ => none⟩ := by
  rw [answers_lawful lawful ops fits named calm holds (small_empty empty)]
  unfold keyMap
  rw [empty]
  rfl

/-- Both back ends answer `ops` as the map does. -/
def RefineMap (cfg : ImportConfig) (store : StoreConfig) (counter : KeyId) (ops : List StoreOp) :
    Prop :=
  ∀ posixFaults zephyrFaults mapFaults, CalmCalls posixFaults → CalmCalls zephyrFaults →
    CalmCalls mapFaults →
    answers (posixBackend store) cfg posixFaults ops (emptyStore counter) =
      answers mapBackend cfg mapFaults ops (emptyStore counter) ∧
    answers zephyrBackend cfg zephyrFaults ops (emptyStore counter) =
      answers mapBackend cfg mapFaults ops (emptyStore counter)

/-- A key is created, read, copied under the identifier 2 and destroyed. -/
def aesKeyCalls : List StoreOp :=
  [.importKey persistentAesKey (List.replicate 16 7), .getKeyAttributes 1, .exportKey 1 32,
    .copyKey 1 { persistentAesKey with id := 2 }, .destroyKey 1, .getKeyData 1]

end WolfPSA.Guarantees
