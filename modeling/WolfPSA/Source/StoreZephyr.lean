import WolfPSA.Source.StorePosix

/-!
# The Zephyr store

Embedding of `src/psa_store_zephyr.c` over secure storage: one object of the internal trusted storage
per key identifier. A handle for reading holds a copy of the object; a handle for writing collects
the object and commits it with every write. Each call is one step of its thread.
-/

namespace WolfPSA.Source
open Lib

/-- The object of a UID among the files of the model. -/
def itsName (uid : KeyId) : Path := "its_".toList ++ hexText 16 uid.toNat

/-- `wolfPSA_Store_OpenSz` for reading. The faults are those of `psa_its_get_info`, of the two
allocations and of `psa_its_get`. -/
def zephyrOpen (faults : Nat → Fault) (id : KeyId) (w : World) : Except Int StoreCtx :=
  if id = psaKeyIdNull then .error storeIoError
  else if (faults 0).fails then .error storeIoError
  else
    match w.files (itsName id) with
    | none => .error storeNotAvailable
    | some object =>
      if (faults 1).denied .storeCtx then .error memoryE
      else if object ≠ [] ∧ (faults 2).denied .storeCtx = true then .error memoryE
      else if object ≠ [] ∧ (faults 3).fails = true then .error storeIoError
      else .ok ⟨false, false, false, itsName id, [], object⟩

/-- `wolfPSA_Store_OpenSz` for writing. -/
def zephyrOpenSz (faults : Nat → Fault) (id : KeyId) : Except Int StoreCtx :=
  if id = psaKeyIdNull then .error storeIoError
  else if (faults 0).denied .storeCtx then .error memoryE
  else .ok ⟨true, false, false, itsName id, [], []⟩

/-- `wolfPSA_Store_Read`: served from the copy. -/
def zephyrRead (ctx : StoreCtx) (n : Nat) : Bytes × StoreCtx :=
  if ctx.isWrite then ([], ctx) else (ctx.rest.take n, { ctx with rest := ctx.rest.drop n })

/-- `wolfPSA_Store_Write`: the collected object is committed at once. -/
def zephyrWrite (faults : Nat → Fault) (ctx : StoreCtx) (buffer : Bytes) (length : Int) (w : World) :
    (Int × StoreCtx) × World :=
  if !ctx.isWrite || decide (length < 0) then ((storeIoError, ctx), w)
  else if length > 0 ∧ (faults 0).denied .storeCtx = true then ((memoryE, ctx), w)
  else
    let grown := ctx.rest ++ buffer.take length.toNat
    if grown = [] then ((length, ctx), w)
    else if (faults 1).fails then ((storeIoError, { ctx with rest := grown }), w)
    else ((length, { ctx with rest := grown }), w.setFile ctx.finalName (some grown))

/-- `wolfPSA_Store_Remove`. -/
def zephyrRemove (faults : Nat → Fault) (id : KeyId) (w : World) : Int × World :=
  if id = psaKeyIdNull then (storeIoError, w)
  else if (faults 0).fails then (storeIoError, w)
  else
    match w.files (itsName id) with
    | none => (storeNotAvailable, w)
    | some _ => (storeOk, w.setFile (itsName id) none)

/-- The calls of `psa_store.h` on Zephyr. -/
def zephyr (faults : Nat → Fault) : (a : StoreAct) → World → StoreRes a × World
  | .open id, w => (zephyrOpen faults id w, w)
  | .openSz id _, w => (zephyrOpenSz faults id, w)
  | .read ctx length, w => (zephyrRead ctx length, w)
  | .write ctx buffer length, w => zephyrWrite faults ctx buffer length w
  | .close _, w => (storeOk, w)
  | .remove id, w => zephyrRemove faults id w

end WolfPSA.Source
