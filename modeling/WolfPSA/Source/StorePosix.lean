import Mathlib
import WolfPSA.Source.KeyStorage

/-!
# The POSIX store

`src/psa_store_posix.c` as programs over the file system calls it makes, and the world that answers
them. A fault decides what a call answers within what POSIX allows it to answer: an allocation or a
call fails, a transfer stops short, `mkstemp` picks a name. The privacy walk over the directories of
the store path reads and never writes, so its verdict is left to the fault.
-/

namespace WolfPSA.Source
open Lib

/-! ## The file system -/

/-- The environment of the store: `WOLFPSA_NO_STORE` is set, and the token path. -/
structure StoreConfig where
  noStore : Bool
  dir : Path

inductive OpenErrno where
  | enoent
  | other
  deriving DecidableEq, Repr

/-- `wolfPSA_StoreCheckPath`. -/
inductive PathCheck where
  | ok
  | rejected
  | unknown
  deriving DecidableEq, Repr

inductive MkdirResult where
  | created
  | exists
  | failed
  deriving DecidableEq, Repr

inductive FsAct where
  | fopen (path : Path)
  | checkPath (dir : Path)
  | mkdir (dir : Path)
  | rmdir (dir : Path)
  | mkstemp (dir : Path)
  | fchmod (path : Path)
  | fdopen (path : Path)
  | fread (file : Bytes) (n : Nat)
  | fwrite (path : Path) (buffer : Bytes) (n : Nat)
  | fflush (path : Path)
  | fclose
  | unlink (path : Path)
  | rename (old new : Path)
  | remove (path : Path)

abbrev FsRes : FsAct → Type
  | .fopen _ => Except OpenErrno Bytes
  | .checkPath _ => PathCheck
  | .mkdir _ => MkdirResult
  | .mkstemp _ => Option Path
  | .rmdir _ | .unlink _ => Unit
  | .fread .. => Bytes
  | .fwrite .. => Nat
  | .fchmod _ | .fdopen _ | .fflush _ | .fclose | .rename .. => Bool
  | .remove _ => Except OpenErrno Unit

inductive SysAct where
  | here (a : LocalAct)
  | fs (a : FsAct)

abbrev SysRes : SysAct → Type
  | .here a => LocalRes a
  | .fs a => FsRes a

abbrev SysProg := Prog SysAct SysRes

/-! ## Names -/

/-- `wolfPSA_Store_Name` of a key record, `none` for a token path that is too long. -/
def wolfPSAStoreName (dir : Path) (id : KeyId) : Option Path :=
  if dir.length > 256 - 48 - 1 then none
  else some (dir ++ "/psa_key_".toList ++ hexText 16 id.toNat ++ ['_'] ++ hexText 16 0)

def isSeparator (c : Char) : Bool := c == '/' || c == '\\'

/-- `wolfPSA_StoreDirOfName`: what stands before the last separator. -/
def wolfPSAStoreDirOfName (name : Path) : Option Path :=
  match name.reverse.dropWhile (fun c => !isSeparator c) with
  | [] => none
  | _ :: before => if before = [] then none else some before.reverse

/-- A name of `wolfPSA_StoreCreateTempFile`; the suffix stands for process, time and the characters
`mkstemp` picks. -/
def tempName (dir suffix : Path) : Path := dir ++ "/psa_tmp_".toList ++ suffix

/-! ## Store calls -/

def fopen (path : Path) : SysProg (Except OpenErrno Bytes) := .perform (SysAct.fs (.fopen path))
def wolfPSAStoreCheckPath (dir : Path) : SysProg PathCheck := .perform (SysAct.fs (.checkPath dir))
def mkdir (dir : Path) : SysProg MkdirResult := .perform (SysAct.fs (.mkdir dir))
def rmdir (dir : Path) : SysProg Unit := .perform (SysAct.fs (.rmdir dir))
def mkstemp (dir : Path) : SysProg (Option Path) := .perform (SysAct.fs (.mkstemp dir))
def fchmod (path : Path) : SysProg Bool := .perform (SysAct.fs (.fchmod path))
def fdopen (path : Path) : SysProg Bool := .perform (SysAct.fs (.fdopen path))
def fread (file : Bytes) (n : Nat) : SysProg Bytes := .perform (SysAct.fs (.fread file n))
def fwrite (path : Path) (buffer : Bytes) (n : Nat) : SysProg Nat :=
  .perform (SysAct.fs (.fwrite path buffer n))
def fflush (path : Path) : SysProg Bool := .perform (SysAct.fs (.fflush path))
def fclose : SysProg Bool := .perform (SysAct.fs .fclose)
def unlink (path : Path) : SysProg Unit := .perform (SysAct.fs (.unlink path))
def rename (old new : Path) : SysProg Bool := .perform (SysAct.fs (.rename old new))
def remove (path : Path) : SysProg (Except OpenErrno Unit) := .perform (SysAct.fs (.remove path))
def mallocStoreCtx : SysProg Bool := .perform (SysAct.here (.malloc .storeCtx))

/-- `wolfPSA_StoreEnsureDir`. -/
def wolfPSAStoreEnsureDir (dir : Path) : SysProg Bool := do
  if (← wolfPSAStoreCheckPath dir) = .ok then pure true
  else
    match ← mkdir dir with
    | .created =>
      match ← wolfPSAStoreCheckPath dir with
      | .ok => pure true
      | .rejected =>
        let _ ← rmdir dir
        pure false
      | .unknown => pure false
    | .exists =>
      let again ← wolfPSAStoreCheckPath dir
      pure (decide (again = .ok))
    | .failed => pure false

/-- `wolfPSA_StoreCreateTempFile`. -/
def wolfPSAStoreCreateTempFile (dir : Path) : SysProg (Option Path) := do
  match ← mkstemp dir with
  | none => pure none
  | some path =>
    if !(← fchmod path) then
      let _ ← unlink path
      pure none
    else if !(← fdopen path) then
      let _ ← unlink path
      pure none
    else pure (some path)

/-- `wolfPSA_Store_Open` for reading. -/
def posixOpen (store : StoreConfig) (id : KeyId) : SysProg (Except Int StoreCtx) :=
  if store.noStore then pure (.error storeNotAvailable)
  else
    match wolfPSAStoreName store.dir id with
    | none => pure (.error (-1))
    | some name => do
      if !(← mallocStoreCtx) then pure (.error memoryE)
      else
        match ← fopen name with
        | .error .enoent => pure (.error storeNotAvailable)
        | .error .other => pure (.error storeIoError)
        | .ok content =>
          -- a record is only read out of a private directory
          match wolfPSAStoreDirOfName name with
          | none =>
            let _ ← fclose
            pure (.error storeIoError)
          | some dir =>
            if (← wolfPSAStoreCheckPath dir) = .ok then
              pure (.ok ⟨false, false, false, name, [], content⟩)
            else
              let _ ← fclose
              pure (.error storeIoError)

/-- `wolfPSA_Store_OpenSz` for writing. -/
def posixOpenSz (store : StoreConfig) (id : KeyId) : SysProg (Except Int StoreCtx) :=
  if store.noStore then pure (.error storeNotAvailable)
  else
    match wolfPSAStoreName store.dir id with
    | none => pure (.error (-1))
    | some name => do
      if !(← mallocStoreCtx) then pure (.error memoryE)
      else
        match wolfPSAStoreDirOfName name with
        | none => pure (.error storeIoError)
        | some dir =>
          if !(← wolfPSAStoreEnsureDir dir) then pure (.error storeIoError)
          else
            match ← wolfPSAStoreCreateTempFile dir with
            | none => pure (.error storeIoError)
            | some temp => pure (.ok ⟨true, true, false, name, temp, []⟩)

/-- `wolfPSA_Store_Read`. -/
def posixRead (ctx : StoreCtx) (length : Nat) : SysProg (Bytes × StoreCtx) := do
  let bytes ← fread ctx.rest length
  pure (bytes, { ctx with rest := ctx.rest.drop bytes.length })

/-- The conversion of an `int` to `size_t`. -/
def toSizeT (length : Int) : Nat := (BitVec.ofInt 64 length).toNat

/-- `wolfPSA_Store_Write`. -/
def posixWrite (ctx : StoreCtx) (buffer : Bytes) (length : Int) : SysProg (Int × StoreCtx) := do
  let count ← fwrite ctx.tempName buffer (toSizeT length)
  let ret := toInt32 count
  if ret = length then
    if ← fflush ctx.tempName then pure (ret, ctx)
    else pure (storeIoError, { ctx with writeFailed := true })
  else pure (ret, { ctx with writeFailed := true })

/-- `wolfPSA_Store_Close`, with `wolfPSA_StoreCommitTemp` and `wolfPSA_StoreAbortTemp`. -/
def posixClose (ctx : StoreCtx) : SysProg Int := do
  let closed ← fclose
  let failed := ctx.writeFailed || !closed
  if ctx.isWrite && ctx.hasTemp && !failed then
    if ← rename ctx.tempName ctx.finalName then pure storeOk
    else
      let _ ← unlink ctx.tempName
      pure storeIoError
  else if ctx.hasTemp then
    let _ ← unlink ctx.tempName
    pure (if (ctx.isWrite && failed) || !closed then storeIoError else storeOk)
  else pure (if closed then storeOk else storeIoError)

/-- `wolfPSA_Store_Remove`. -/
def posixRemove (store : StoreConfig) (id : KeyId) : SysProg Int :=
  if store.noStore then pure storeNotAvailable
  else
    match wolfPSAStoreName store.dir id with
    | none => pure (-1)
    | some name => do
      match ← remove name with
      | .ok _ => pure 0
      | .error .enoent => pure storeNotAvailable
      | .error .other => pure (-1)

/-- Each action of a key call as system calls. The lock orders threads and does nothing in one. -/
def posix (store : StoreConfig) : (a : KeyAct) → SysProg (KeyRes a)
  | .lock => pure ()
  | .unlock => pure ()
  | .here a => .perform (SysAct.here a)
  | .store (.open id) => posixOpen store id
  | .store (.openSz id _) => posixOpenSz store id
  | .store (.read ctx length) => posixRead ctx length
  | .store (.write ctx buffer length) => posixWrite ctx buffer length
  | .store (.close ctx) => posixClose ctx
  | .store (.remove id) => posixRemove store id

/-- A key call as it runs on the POSIX store. -/
abbrev onPosix {α : Type} (store : StoreConfig) (p : KeyProg α) : SysProg α :=
  p.expand (posix store)

/-! ## The world -/

/-- `wolfpsa_volatile_key_node`. -/
structure VolatileKey where
  id : KeyId
  attributes : KeyAttributes
  data : Bytes
  deriving DecidableEq, Repr

/-- The key storage of a process and the files. -/
structure World where
  nextKeyId : KeyId
  volatileKeys : List VolatileKey
  files : Path → Option Bytes

/-- The world with one file written or, for `none`, removed. -/
def World.setFile (w : World) (path : Path) (content : Option Bytes) : World :=
  { w with files := Function.update w.files path content }

/-- What the environment does to one action. -/
structure Fault where
  fails : Bool
  denied : AllocSite → Bool
  status : Failure
  code : Nat
  count : Nat
  suffix : Path
  bytes : Bytes

/-- `wolfpsa_volatile_find`. -/
def wolfpsaVolatileFind (w : World) (id : KeyId) : Option VolatileKey :=
  w.volatileKeys.find? fun node => node.id == id

/-- The critical section of `wolfpsa_volatile_store`. -/
def volatileStore (fault : Fault) (w : World) (id : KeyId) (attributes : KeyAttributes)
    (data : Bytes) : Status × World :=
  if data = [] then (.invalidArgument, w)
  else if (wolfpsaVolatileFind w id).isSome then (.alreadyExists, w)
  else if fault.fails then (.insufficientMemory, w)
  else (.success, { w with volatileKeys := ⟨id, attributes, data⟩ :: w.volatileKeys })

/-- The critical section of `wolfpsa_volatile_get`. -/
def volatileGet (fault : Fault) (w : World) (id : KeyId) :
    Except Failure (KeyAttributes × Bytes) :=
  match wolfpsaVolatileFind w id with
  | none => .error ⟨.invalidHandle, failing⟩
  | some node =>
    if node.data = [] then .error ⟨.dataInvalid, failing⟩
    else if fault.fails then .error ⟨.insufficientMemory, failing⟩
    else .ok (node.attributes, node.data)

def localHandler (fault : Fault) : (a : LocalAct) → World → LocalRes a × World
  | .checkInit, w => (if fault.fails then fault.status.val else .success, w)
  | .malloc site, w => (!fault.denied site, w)
  | .nextKeyId, w =>
    if w.nextKeyId < psaKeyIdVendorMin ∨ w.nextKeyId > psaKeyIdVendorMax then (none, w)
    else (some w.nextKeyId, { w with nextKeyId := w.nextKeyId + 1 })
  | .volatileStore id attributes data, w => volatileStore fault w id attributes data
  | .volatileRemove id, w =>
    if (wolfpsaVolatileFind w id).isSome then
      (.success, { w with volatileKeys := w.volatileKeys.eraseP fun node => node.id == id })
    else (.invalidHandle, w)
  | .volatileGet id, w => (volatileGet fault w id, w)
  | .volatileGetAttributes id, w =>
    (match wolfpsaVolatileFind w id with
      | none => .error ⟨.invalidHandle, failing⟩
      | some node => .ok node.attributes, w)
  | .generateRandom length, w =>
    (if fault.fails then .error fault.status
      else .ok ((List.range length).map fun i => fault.bytes.getD i 0), w)
  | .generateKeyPair _ _ capacity, w =>
    (if fault.fails then .error fault.status else .ok (fault.bytes.take capacity), w)

/-- Bytes moved by a transfer of `n` bytes with `available` at hand. A request beyond the end of the
buffer stops there: the memory behind it is not the program's. -/
def transferred (fault : Fault) (n available : Nat) : Nat :=
  if fault.fails then min fault.count (min n available) else min n available

def fsHandler (fault : Fault) : (a : FsAct) → World → FsRes a × World
  | .fopen path, w =>
    (if fault.fails then .error .other
      else match w.files path with
        | none => .error .enoent
        | some content => .ok content, w)
  | .checkPath _, w =>
    (if !fault.fails then .ok else if fault.code = 0 then .rejected else .unknown, w)
  | .mkdir _, w =>
    (if !fault.fails then .created else if fault.code = 0 then .exists else .failed, w)
  | .rmdir _, w => ((), w)
  | .mkstemp dir, w =>
    -- the name is created exclusively
    if fault.fails ∨ (w.files (tempName dir fault.suffix)).isSome then (none, w)
    else
      (some (tempName dir fault.suffix), w.setFile (tempName dir fault.suffix) (some []))
  | .fchmod _, w | .fdopen _, w | .fflush _, w | .fclose, w => (!fault.fails, w)
  | .fread file n, w => (file.take (transferred fault n file.length), w)
  | .fwrite path buffer n, w =>
    (transferred fault n buffer.length,
      w.setFile path
        ((w.files path).map (· ++ buffer.take (transferred fault n buffer.length))))
  | .unlink path, w =>
    ((), if fault.fails then w else w.setFile path none)
  | .rename old new, w =>
    match w.files old with
    | none => (false, w)
    | some content =>
      if fault.fails then (false, w)
      else (true, (w.setFile old none).setFile new (some content))
  | .remove path, w =>
    if fault.fails then (.error .other, w)
    else
      match w.files path with
      | none => (.error .enoent, w)
      | some _ => (.ok (), w.setFile path none)

/-- The world under the system calls. -/
def sysHandler : Prog.Handler Fault World SysAct SysRes
  | fault, .here a, w => localHandler fault a w
  | fault, .fs a, w => fsHandler fault a w

end WolfPSA.Source
