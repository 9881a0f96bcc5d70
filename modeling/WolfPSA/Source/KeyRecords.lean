import WolfPSA.Source.StorePosix

/-!
# Key records in the POSIX store

The committed records are the files under record names; a temporary file is never one of them. Each
store call is specified by what it does to the records, over every fault of every system call it
makes.
-/

namespace WolfPSA.Source
open Lib Prog

variable {store : StoreConfig} {admitted : Fault → Prop}

/-! ## Names -/

theorem wolfPSAStoreName_injective {dir name : Path} {a b : KeyId}
    (ha : wolfPSAStoreName dir a = some name) (hb : wolfPSAStoreName dir b = some name) :
    a = b := by
  unfold wolfPSAStoreName at ha hb
  split at ha
  · cases ha
  · rename_i fits
    rw [if_neg fits] at hb
    have same := (Option.some.inj ha).trans (Option.some.inj hb).symm
    simp only [List.append_assoc, List.append_cancel_left_eq] at same
    have digits := (List.append_inj same (by simp)).1
    have bound (x : KeyId) : x.toNat < 16 ^ 16 :=
      Nat.lt_of_lt_of_le x.isLt (by decide)
    exact BitVec.eq_of_toNat_eq (hexText_injective (bound a) (bound b) digits)

theorem tempName_ne_wolfPSAStoreName {dir suffix name : Path} {id : KeyId}
    (named : wolfPSAStoreName dir id = some name) : tempName dir suffix ≠ name := by
  unfold wolfPSAStoreName at named
  split at named
  · cases named
  · intro same
    have equal := same.trans (Option.some.inj named).symm
    unfold tempName at equal
    simp only [List.append_assoc, List.append_cancel_left_eq] at equal
    revert equal
    simp

private theorem isSeparator_hexDigit (d : Nat) (digit : d < 16) :
    hexDigit d ≠ '/' ∧ hexDigit d ≠ '\\' := by
  have table : ∀ d : Fin 16, hexDigit d ≠ '/' ∧ hexDigit d ≠ '\\' := by decide +kernel
  exact table ⟨d, digit⟩

private theorem not_isSeparator_of_mem_hexText {n x : Nat} {c : Char}
    (within : c ∈ hexText n x) : isSeparator c = false := by
  have slash := hexText_ne (fun d digit => (isSeparator_hexDigit d digit).1) c within
  have backslash := hexText_ne (fun d digit => (isSeparator_hexDigit d digit).2) c within
  simp [isSeparator, slash, backslash]

/-- The directory a record name is created in is the token path. -/
theorem wolfPSAStoreDirOfName_eq {dir name : Path} {id : KeyId}
    (named : wolfPSAStoreName dir id = some name) :
    wolfPSAStoreDirOfName name = if dir = [] then none else some dir := by
  unfold wolfPSAStoreName at named
  split at named
  · cases named
  · -- everything behind the last separator is free of separators
    have base : name = dir ++ ['/'] ++
        ("psa_key_".toList ++ hexText 16 id.toNat ++ ['_'] ++ hexText 16 0) := by
      rw [← Option.some.inj named]
      simp
    have plain : ∀ c ∈ ("psa_key_".toList ++ hexText 16 id.toNat ++ ['_'] ++ hexText 16 0),
        isSeparator c = false := by
      intro c within
      simp only [List.mem_append] at within
      rcases within with ((inHead | inId) | inMid) | inTail
      · have head : ("psa_key_".toList.all fun c => !isSeparator c) = true := by decide
        simpa using List.all_eq_true.mp head c inHead
      · exact not_isSeparator_of_mem_hexText inId
      · rw [List.mem_singleton] at inMid
        subst inMid
        decide
      · exact not_isSeparator_of_mem_hexText inTail
    have dropped : name.reverse.dropWhile (fun c => !isSeparator c) = '/' :: dir.reverse := by
      rw [base, List.reverse_append, List.dropWhile_append_of_pos]
      · simp [isSeparator]
      · intro c within
        simp [plain c (List.mem_reverse.mp within)]
    unfold wolfPSAStoreDirOfName
    rw [dropped]
    simp

/-! ## Records -/

/-- The committed record of a key. -/
def storedRecord (store : StoreConfig) (w : World) (id : KeyId) : Option Bytes :=
  (wolfPSAStoreName store.dir id).bind w.files

/-- Both worlds hold the same keys. Counters and temporary files may differ. -/
structure SameKeys (store : StoreConfig) (w w' : World) : Prop where
  volatile : w'.volatileKeys = w.volatileKeys
  records : ∀ id, storedRecord store w' id = storedRecord store w id

theorem SameKeys.refl (w : World) : SameKeys store w w := ⟨rfl, fun _ => rfl⟩

theorem SameKeys.trans {w₁ w₂ w₃ : World} (first : SameKeys store w₁ w₂)
    (second : SameKeys store w₂ w₃) : SameKeys store w₁ w₃ :=
  ⟨second.volatile.trans first.volatile, fun id => (second.records id).trans (first.records id)⟩

/-- A path of the store that `mkstemp` made up. -/
def IsTemp (store : StoreConfig) (path : Path) : Prop := ∃ suffix, path = tempName store.dir suffix

@[simp] theorem setFile_volatileKeys (w : World) (path : Path) (content : Option Bytes) :
    (w.setFile path content).volatileKeys = w.volatileKeys := rfl

@[simp] theorem setFile_files_self (w : World) (path : Path) (content : Option Bytes) :
    (w.setFile path content).files path = content := by
  simp [World.setFile]

theorem setFile_files_of_ne {path other : Path} (w : World) (content : Option Bytes)
    (different : other ≠ path) : (w.setFile path content).files other = w.files other := by
  simp [World.setFile, different]

/-- Nothing done to a temporary file touches a record. -/
theorem sameKeys_setFile_temp {path : Path} (temp : IsTemp store path) (w : World)
    (content : Option Bytes) : SameKeys store w (w.setFile path content) := by
  obtain ⟨suffix, rfl⟩ := temp
  refine ⟨rfl, fun id => ?_⟩
  unfold storedRecord
  cases named : wolfPSAStoreName store.dir id with
  | none => rfl
  | some name => exact setFile_files_of_ne w content (tempName_ne_wolfPSAStoreName named).symm

theorem storedRecord_setFile_self {name : Path} {id : KeyId} (w : World) (content : Option Bytes)
    (named : wolfPSAStoreName store.dir id = some name) :
    storedRecord store (w.setFile name content) id = content := by
  simp [storedRecord, named]

theorem storedRecord_setFile_other {name : Path} {id other : KeyId} (w : World)
    (content : Option Bytes) (named : wolfPSAStoreName store.dir id = some name)
    (different : other ≠ id) :
    storedRecord store (w.setFile name content) other = storedRecord store w other := by
  unfold storedRecord
  cases otherNamed : wolfPSAStoreName store.dir other with
  | none => rfl
  | some otherName =>
    refine setFile_files_of_ne w content fun same => different ?_
    exact wolfPSAStoreName_injective (same ▸ otherNamed) named

/-! ## Store calls

Each specification starts a call in any world and bounds the worlds it passes through and the ones it
answers in. -/

/-- What an open for reading tells: the handle reads the record as it was at the open. -/
def OpenAnswer (store : StoreConfig) (w : World) (id : KeyId) : Except Int StoreCtx → Prop
  | .ok ctx => storedRecord store w id = some ctx.rest ∧ ctx.hasTemp = false
  | .error code =>
    code < 0 ∧ (code = storeNotAvailable → store.noStore = true ∨ storedRecord store w id = none)

private theorem openAnswer_error {w : World} {id : KeyId} {code : Int} (negative : code < 0)
    (other : code ≠ storeNotAvailable) : OpenAnswer store w id (.error code) :=
  ⟨negative, fun same => absurd same other⟩

theorem posixOpen_spec (store : StoreConfig) (w : World) (id : KeyId) :
    Triple sysHandler admitted (· = w) (fun r s => s = w ∧ OpenAnswer store w id r)
      (posixOpen store id) w := by
  unfold posixOpen
  split
  · rename_i unset
    exact ⟨rfl, by decide, fun _ => .inl unset⟩
  cases named : wolfPSAStoreName store.dir id with
  | none => exact ⟨rfl, openAnswer_error (by decide) (by decide)⟩
  | some name =>
    have recorded : storedRecord store w id = w.files name := by simp [storedRecord, named]
    refine triple_ask rfl (fun _ => rfl) fun granted => ?_
    cases granted with
    | false => exact ⟨rfl, openAnswer_error (by decide) (by decide)⟩
    | true =>
      refine ⟨rfl, fun opened _ => ?_⟩
      simp only [sysHandler, fsHandler]
      by_cases fails : opened.fails = true
      · rw [if_pos fails]
        exact ⟨rfl, openAnswer_error (by decide) (by decide)⟩
      rw [if_neg fails]
      cases found : w.files name with
      | none => exact ⟨rfl, by decide, fun _ => .inr (recorded.trans found)⟩
      | some content =>
        cases wolfPSAStoreDirOfName name with
        | none => exact ⟨rfl, fun closed _ => ⟨rfl, openAnswer_error (by decide) (by decide)⟩⟩
        | some dir =>
          refine triple_ask rfl (fun _ => rfl) fun verdict => ?_
          split
          · exact ⟨rfl, recorded.trans found, rfl⟩
          · exact ⟨rfl, fun closed _ => ⟨rfl, openAnswer_error (by decide) (by decide)⟩⟩

theorem wolfPSAStoreEnsureDir_spec (w : World) (dir : Path) :
    Triple sysHandler admitted (· = w) (fun _ s => s = w) (wolfPSAStoreEnsureDir dir) w := by
  refine triple_ask rfl (fun _ => rfl) fun verdict => ?_
  split
  · rfl
  refine triple_ask rfl (fun _ => rfl) fun made => ?_
  cases made with
  | created =>
    refine triple_ask rfl (fun _ => rfl) fun verdict => ?_
    cases verdict with
    | ok => rfl
    | rejected => exact ⟨rfl, fun _ _ => rfl⟩
    | unknown => rfl
  | «exists» => exact ⟨rfl, fun _ _ => rfl⟩
  | failed => rfl

/-- What a temporary file is once `wolfPSA_StoreCreateTempFile` returns it. -/
theorem wolfPSAStoreCreateTempFile_spec (store : StoreConfig) (w : World) :
    Triple sysHandler admitted (SameKeys store w)
      (fun r s => SameKeys store w s ∧ ∀ temp, r = some temp →
        IsTemp store temp ∧ s.files temp = some [])
      (wolfPSAStoreCreateTempFile store.dir) w := by
  refine ⟨.refl w, fun made _ => ?_⟩
  simp only [sysHandler, fsHandler]
  split
  · exact ⟨.refl w, by simp⟩
  have temp : IsTemp store (tempName store.dir made.suffix) := ⟨_, rfl⟩
  have created := sameKeys_setFile_temp temp w (some [])
  -- either clean-up path removes the temporary file again, or tries to
  have dropped (fault : Fault) : SameKeys store w
      (sysHandler fault (SysAct.fs (.unlink (tempName store.dir made.suffix)))
        (w.setFile (tempName store.dir made.suffix) (some []))).2 := by
    simp only [sysHandler, fsHandler]
    split
    · exact created
    · exact created.trans (sameKeys_setFile_temp temp _ _)
  refine triple_ask created (fun _ => rfl) fun moded => ?_
  cases moded with
  | false => exact ⟨created, fun fault _ => ⟨dropped fault, by simp⟩⟩
  | true =>
    refine triple_ask created (fun _ => rfl) fun opened => ?_
    cases opened with
    | false => exact ⟨created, fun fault _ => ⟨dropped fault, by simp⟩⟩
    | true =>
      refine ⟨created, fun found same => ?_⟩
      rw [← Option.some.inj same]
      exact ⟨temp, by simp⟩

/-- The environment gives the store a directory that record names fit into. -/
structure StoreUsable (store : StoreConfig) : Prop where
  enabled : store.noStore = false
  located : store.dir ≠ []
  short : store.dir.length ≤ 256 - 48 - 1

/-- A handle for writing: its temporary file is empty and will become the record of `id`. -/
structure WriteHandle (store : StoreConfig) (id : KeyId) (ctx : StoreCtx) : Prop where
  usable : StoreUsable store
  isWrite : ctx.isWrite = true
  hasTemp : ctx.hasTemp = true
  named : wolfPSAStoreName store.dir id = some ctx.finalName
  temp : IsTemp store ctx.tempName

/-- What an open for writing tells. -/
def OpenSzAnswer (store : StoreConfig) (s : World) (id : KeyId) : Except Int StoreCtx → Prop
  | .ok ctx => WriteHandle store id ctx ∧ s.files ctx.tempName = some []
  | .error code => code < 0

theorem posixOpenSz_spec (store : StoreConfig) (w : World) (id : KeyId) :
    Triple sysHandler admitted (SameKeys store w)
      (fun r s => SameKeys store w s ∧ OpenSzAnswer store s id r) (posixOpenSz store id) w := by
  unfold posixOpenSz
  split
  · exact ⟨.refl w, show storeNotAvailable < 0 by decide⟩
  rename_i enabled
  cases named : wolfPSAStoreName store.dir id with
  | none => exact ⟨.refl w, show (-1 : Int) < 0 by decide⟩
  | some name =>
    refine triple_ask (.refl w) (fun _ => rfl) fun granted => ?_
    cases granted with
    | false => exact ⟨.refl w, show memoryE < 0 by decide⟩
    | true =>
      have short : ¬store.dir.length > 256 - 48 - 1 := by
        intro long
        simp [wolfPSAStoreName, long] at named
      rw [wolfPSAStoreDirOfName_eq named]
      by_cases located : store.dir = []
      · rw [if_pos located]
        exact ⟨.refl w, show storeIoError < 0 by decide⟩
      · rw [if_neg located]
        have ensured : Triple sysHandler admitted (SameKeys store w) (fun _ s => s = w)
            (wolfPSAStoreEnsureDir store.dir) w :=
          (wolfPSAStoreEnsureDir_spec w store.dir).mono (fun s same => same ▸ .refl s)
            fun _ _ same => same
        refine triple_bind_of ensured fun present s same => ?_
        subst same
        cases present with
        | false => exact ⟨.refl s, show storeIoError < 0 by decide⟩
        | true =>
          refine triple_bind_of (wolfPSAStoreCreateTempFile_spec store s) ?_
          rintro (_ | temp) s' ⟨same, made⟩
          · exact ⟨same, show storeIoError < 0 by decide⟩
          · obtain ⟨isTemp, empty⟩ := made temp rfl
            have usable : StoreUsable store :=
              ⟨by simpa using enabled, located, Nat.le_of_not_gt short⟩
            exact ⟨same, ⟨usable, rfl, rfl, named, isTemp⟩, empty⟩

/-- What a write leaves: either the error latch is set, or as many bytes as the caller's `int` asks
for are in the temporary file. -/
def WriteAnswer (buffer : Bytes) (length : Int) (ctx : StoreCtx) (s : World)
    (r : Int × StoreCtx) : Prop :=
  r.2 = { ctx with writeFailed := true } ∨
    r = (length, ctx) ∧ ∃ count ≤ buffer.length, toInt32 count = length ∧
      s.files ctx.tempName = some (buffer.take count)

theorem posixWrite_spec {ctx : StoreCtx} {s : World} {buffer : Bytes} {length : Int}
    (temp : IsTemp store ctx.tempName) (empty : s.files ctx.tempName = some []) :
    Triple sysHandler admitted (SameKeys store s)
      (fun r s' => SameKeys store s s' ∧ WriteAnswer buffer length ctx s' r)
      (posixWrite ctx buffer length) s := by
  refine ⟨.refl s, fun moved _ => ?_⟩
  simp only [sysHandler, fsHandler, empty, Option.map_some, List.nil_append]
  generalize counted : transferred moved (toSizeT length) buffer.length = count
  have within : count ≤ buffer.length := by
    rw [← counted]
    unfold transferred
    split <;> omega
  have kept := sameKeys_setFile_temp temp s (some (buffer.take count))
  show Triple _ _ _ _ (if toInt32 count = length then _ else _) _
  by_cases complete : toInt32 count = length
  · rw [if_pos complete]
    refine triple_ask kept (fun _ => rfl) fun flushed => ?_
    cases flushed with
    | false => exact ⟨kept, .inl rfl⟩
    | true => exact ⟨kept, .inr ⟨by rw [complete], count, within, complete, by simp⟩⟩
  · rw [if_neg complete]
    exact ⟨kept, .inl rfl⟩

/-- A close that reports success has renamed the temporary file over the record; any other close
leaves the records alone. -/
theorem posixClose_write_spec {ctx : StoreCtx} {s : World} {id : KeyId} {content : Option Bytes}
    (handle : WriteHandle store id ctx) (pending : s.files ctx.tempName = content) :
    Triple sysHandler admitted (SameKeys store s)
      (fun code s' =>
        SameKeys store s s' ∧ code < 0 ∨
        code = storeOk ∧ ctx.writeFailed = false ∧ storedRecord store s' id = content ∧
          content.isSome ∧ s'.volatileKeys = s.volatileKeys ∧
          ∀ other ≠ id, storedRecord store s' other = storedRecord store s other)
      (posixClose ctx) s := by
  have dropped (fault : Fault) :
      SameKeys store s (sysHandler fault (SysAct.fs (.unlink ctx.tempName)) s).2 := by
    simp only [sysHandler, fsHandler]
    split
    · exact .refl s
    · exact sameKeys_setFile_temp handle.temp _ _
  have negative : storeIoError < 0 := by decide
  refine triple_ask (.refl s) (fun _ => rfl) fun closed => ?_
  simp only [handle.isWrite, handle.hasTemp, Bool.true_and, if_true]
  by_cases failed : (ctx.writeFailed || !closed) = true
  · simp only [failed, Bool.not_true, Bool.false_eq_true, if_false, Bool.true_or, if_true]
    exact ⟨.refl s, fun fault _ => .inl ⟨dropped fault, negative⟩⟩
  · simp only [failed, Bool.not_false, if_true]
    refine ⟨.refl s, fun renamed _ => ?_⟩
    simp only [sysHandler, fsHandler, pending]
    cases content with
    | none => exact ⟨.refl s, fun fault _ => .inl ⟨dropped fault, negative⟩⟩
    | some bytes =>
      dsimp only
      by_cases fails : renamed.fails = true
      · rw [if_pos fails]
        exact ⟨.refl s, fun fault _ => .inl ⟨dropped fault, negative⟩⟩
      · rw [if_neg fails]
        have moved := sameKeys_setFile_temp handle.temp s none
        have unlatched : ctx.writeFailed = false := by
          simp only [Bool.or_eq_true, not_or] at failed
          simpa using failed.1
        refine .inr ⟨rfl, unlatched,
          storedRecord_setFile_self _ _ handle.named, rfl, rfl, fun other different => ?_⟩
        rw [storedRecord_setFile_other _ _ handle.named different]
        exact moved.records other

/-- Closing a handle for reading changes nothing. -/
theorem posixClose_read_spec {ctx : StoreCtx} (s : World) (reads : ctx.hasTemp = false) :
    Triple sysHandler admitted (· = s) (fun _ s' => s' = s) (posixClose ctx) s := by
  refine triple_ask rfl (fun _ => rfl) fun closed => ?_
  simp only [reads, Bool.and_false, Bool.false_and, Bool.false_eq_true, if_false]
  rfl

/-- Reading from a handle delivers a prefix of what its file still holds. -/
theorem posixRead_spec (ctx : StoreCtx) (n : Nat) (s : World) :
    Triple sysHandler admitted (· = s)
      (fun r s' => s' = s ∧ ∃ count ≤ n, r = (ctx.rest.take count,
        { ctx with rest := ctx.rest.drop (ctx.rest.take count).length }))
      (posixRead ctx n) s := by
  refine ⟨rfl, fun fault _ => ⟨rfl, transferred fault n ctx.rest.length, ?_, rfl⟩⟩
  unfold transferred
  split <;> omega

/-- A removal that reports success has removed the record of `id`; any other leaves all records. -/
theorem posixRemove_spec (store : StoreConfig) (w : World) (id : KeyId) :
    Triple sysHandler admitted (· = w)
      (fun code s => s = w ∧ code ≠ 0 ∨
        code = 0 ∧ storedRecord store w id ≠ none ∧ storedRecord store s id = none ∧
          s.volatileKeys = w.volatileKeys ∧
          ∀ other ≠ id, storedRecord store s other = storedRecord store w other)
      (posixRemove store id) w := by
  unfold posixRemove
  split
  · exact .inl ⟨rfl, by decide⟩
  cases named : wolfPSAStoreName store.dir id with
  | none => exact .inl ⟨rfl, by decide⟩
  | some name =>
    refine ⟨rfl, fun fault _ => ?_⟩
    simp only [sysHandler, fsHandler]
    by_cases fails : fault.fails = true
    · rw [if_pos fails]
      exact .inl ⟨rfl, by decide⟩
    · rw [if_neg fails]
      cases found : w.files name with
      | none => exact .inl ⟨rfl, by decide⟩
      | some content =>
        refine .inr ⟨rfl, by simp [storedRecord, named, found],
          storedRecord_setFile_self _ _ named, rfl, fun other different => ?_⟩
        exact storedRecord_setFile_other _ _ named different

/-! ## Without faults -/

/-- The environment grants the action. -/
structure Calm (fault : Fault) : Prop where
  runs : fault.fails = false
  allocates : ∀ site, fault.denied site = false

theorem StoreUsable.named (usable : StoreUsable store) (id : KeyId) :
    ∃ name, wolfPSAStoreName store.dir id = some name ∧
      wolfPSAStoreDirOfName name = some store.dir := by
  have short := Nat.not_lt.mpr usable.short
  have named : wolfPSAStoreName store.dir id = some _ := if_neg short
  exact ⟨_, named, by rw [wolfPSAStoreDirOfName_eq named, if_neg usable.located]⟩

theorem posixOpen_calm (usable : StoreUsable store) (w : World) (id : KeyId) :
    Triple sysHandler Calm (· = w)
      (fun r s => s = w ∧ match storedRecord store w id with
        | none => r = .error storeNotAvailable
        | some content => ∃ ctx, r = .ok ctx ∧ ctx.rest = content ∧ ctx.hasTemp = false ∧
          ctx.isWrite = false)
      (posixOpen store id) w := by
  obtain ⟨name, named, located⟩ := usable.named id
  have recorded : storedRecord store w id = w.files name := by simp [storedRecord, named]
  unfold posixOpen
  rw [if_neg (by simp [usable.enabled]), named, recorded]
  refine ⟨rfl, fun alloc calm => ?_⟩
  simp only [sysHandler, localHandler, calm.allocates]
  refine ⟨rfl, fun opened calm => ?_⟩
  simp only [sysHandler, fsHandler, calm.runs, Bool.false_eq_true, if_false]
  cases w.files name with
  | none => exact ⟨rfl, rfl⟩
  | some content =>
    simp only [located]
    refine ⟨rfl, fun checked calm => ?_⟩
    simp only [sysHandler, fsHandler, calm.runs, Bool.not_false, if_true]
    exact ⟨rfl, _, rfl, rfl, rfl, rfl⟩

theorem posixOpenSz_calm (usable : StoreUsable store) {w : World} (id : KeyId)
    (free : ∀ suffix, w.files (tempName store.dir suffix) = none) :
    Triple sysHandler Calm (fun _ => True)
      (fun r s => ∃ ctx, r = .ok ctx ∧ ctx.writeFailed = false ∧ WriteHandle store id ctx ∧
        s = w.setFile ctx.tempName (some []))
      (posixOpenSz store id) w := by
  obtain ⟨name, named, located⟩ := usable.named id
  unfold posixOpenSz
  rw [if_neg (by simp [usable.enabled]), named]
  refine ⟨trivial, fun alloc calm => ?_⟩
  simp only [sysHandler, localHandler, calm.allocates]
  simp only [located]
  refine ⟨trivial, fun checked calm => ?_⟩
  simp only [sysHandler, fsHandler, calm.runs, Bool.not_false, if_true]
  refine ⟨trivial, fun made calm => ?_⟩
  simp only [sysHandler, fsHandler, calm.runs, free, Option.isSome_none, Bool.false_eq_true,
    or_self, if_false]
  refine ⟨trivial, fun moded calm => ?_⟩
  simp only [sysHandler, fsHandler, calm.runs]
  refine ⟨trivial, fun opened calm => ?_⟩
  simp only [sysHandler, fsHandler, calm.runs]
  exact ⟨_, rfl, rfl, ⟨usable, rfl, rfl, named, made.suffix, rfl⟩, rfl⟩

theorem posixWrite_calm {ctx : StoreCtx} {s : World} {buffer : Bytes}
    (small : buffer.length < 2 ^ 32) :
    Triple sysHandler Calm (fun _ => True)
      (fun r s' => r = (toInt32 buffer.length, ctx) ∧
        s' = s.setFile ctx.tempName ((s.files ctx.tempName).map (· ++ buffer)))
      (posixWrite ctx buffer (toInt32 buffer.length)) s := by
  refine ⟨trivial, fun moved calm => ?_⟩
  -- an `int` that has wrapped asks for more bytes than the buffer has
  have whole : buffer.length ≤ toSizeT (toInt32 buffer.length) := by
    unfold toSizeT toInt32
    rw [BitVec.toNat_ofInt, BitVec.toInt_eq_toNat_cond, BitVec.toNat_ofNat,
      Nat.mod_eq_of_lt small]
    split <;> omega
  simp only [sysHandler, fsHandler, transferred, calm.runs, Bool.false_eq_true, if_false,
    Nat.min_eq_right whole]
  show Triple _ _ _ _ (if toInt32 buffer.length = toInt32 buffer.length then _ else _) _
  rw [if_pos rfl]
  refine ⟨trivial, fun flushed calm => ?_⟩
  simp only [sysHandler, fsHandler, calm.runs, List.take_length]
  exact ⟨rfl, rfl⟩

theorem posixClose_calm {ctx : StoreCtx} {s : World} {content : Bytes}
    (isWrite : ctx.isWrite = true) (hasTemp : ctx.hasTemp = true)
    (unlatched : ctx.writeFailed = false) (pending : s.files ctx.tempName = some content) :
    Triple sysHandler Calm (fun _ => True)
      (fun code s' => code = storeOk ∧
        s' = (s.setFile ctx.tempName none).setFile ctx.finalName (some content))
      (posixClose ctx) s := by
  refine ⟨trivial, fun closed calm => ?_⟩
  simp only [sysHandler, fsHandler, calm.runs]
  show Triple _ _ _ _ (if _ then _ else _) s
  simp only [isWrite, hasTemp, unlatched, Bool.not_false, Bool.not_true, Bool.or_false,
    Bool.and_true, if_true]
  refine ⟨trivial, fun renamed calm => ?_⟩
  simp only [sysHandler, fsHandler, pending, calm.runs, Bool.false_eq_true, if_false]
  exact ⟨rfl, rfl⟩

theorem posixClose_read_calm {ctx : StoreCtx} (s : World) (reads : ctx.hasTemp = false) :
    Triple sysHandler Calm (· = s) (fun code s' => code = storeOk ∧ s' = s) (posixClose ctx) s := by
  refine ⟨rfl, fun closed calm => ?_⟩
  simp only [sysHandler, fsHandler, calm.runs, reads, Bool.and_false, Bool.false_and,
    Bool.false_eq_true, if_false]
  exact ⟨rfl, rfl⟩

theorem posixRead_calm (ctx : StoreCtx) (n : Nat) (s : World) :
    Triple sysHandler Calm (· = s)
      (fun r s' => s' = s ∧ r = (ctx.rest.take n, { ctx with rest := ctx.rest.drop n }))
      (posixRead ctx n) s := by
  refine ⟨rfl, fun fault calm => ⟨rfl, ?_⟩⟩
  simp only [sysHandler, fsHandler, transferred, calm.runs, Bool.false_eq_true, if_false]
  rcases Nat.le_total n ctx.rest.length with within | beyond
  · simp [Nat.min_eq_left within]
  · simp [Nat.min_eq_right beyond, List.take_of_length_le beyond, List.drop_eq_nil_of_le beyond]

theorem posixRemove_calm (usable : StoreUsable store) {w : World} {id : KeyId}
    (present : storedRecord store w id ≠ none) :
    Triple sysHandler Calm (fun _ => True)
      (fun code s => code = 0 ∧ ∃ name, wolfPSAStoreName store.dir id = some name ∧
        s = w.setFile name none) (posixRemove store id) w := by
  obtain ⟨name, named, -⟩ := usable.named id
  unfold posixRemove
  rw [if_neg (by simp [usable.enabled]), named]
  refine ⟨trivial, fun fault calm => ?_⟩
  simp only [sysHandler, fsHandler, calm.runs, Bool.false_eq_true, if_false]
  cases found : w.files name with
  | none => exact absurd (by simp [storedRecord, named, found]) present
  | some content => exact ⟨rfl, name, rfl, rfl⟩

theorem posixRemove_missing_calm (usable : StoreUsable store) {w : World} {id : KeyId}
    (absent : storedRecord store w id = none) :
    Triple sysHandler Calm (· = w) (fun code s => code = storeNotAvailable ∧ s = w)
      (posixRemove store id) w := by
  obtain ⟨name, named, -⟩ := usable.named id
  have gone : w.files name = none := by
    rw [← absent]
    simp [storedRecord, named]
  unfold posixRemove
  rw [if_neg (by simp [usable.enabled]), named]
  refine ⟨rfl, fun fault calm => ?_⟩
  simp only [sysHandler, fsHandler, calm.runs, gone, Bool.false_eq_true, if_false]
  exact ⟨rfl, rfl⟩

end WolfPSA.Source
