import WolfPSA.Source.Mac

/-!
# Hash operations

Embedding of `src/psa_hash_engine.c`. An operation object holds an optional
context and the environment of a call answers the initialisation flag, the allocation and every
wolfCrypt call. Builds with every hash that `user_settings.h` selects. The union of wolfCrypt objects is
one opaque type; `ctx->alg` selects its member, so every wolfCrypt call takes the algorithm.
-/

namespace WolfPSA.Source

/-- The algorithms with a `case` in the switches of `psa_hash_engine.c`, with their digest sizes. -/
def hashSizes : List (Algorithm × Nat) :=
  [(psaAlgMd5, 16), (psaAlgRipemd160, 20), (psaAlgSha1, 20), (psaAlgSha256, 32), (psaAlgSha224, 28),
    (psaAlgSha384, 48), (psaAlgSha512, 64), (psaAlgSha512_224, 28), (psaAlgSha512_256, 32),
    (psaAlgSha3_224, 28), (psaAlgSha3_256, 32), (psaAlgSha3_384, 48), (psaAlgSha3_512, 64),
    (psaAlgShake256_512, 64), (psaAlgAsconHash256, 32)]

def hashHasCase (alg : Algorithm) : Bool := (hashSizes.lookup alg).isSome

/-- `psa_hash_check_alg_supported`. -/
def psaHashCheckAlgSupported (alg : Algorithm) : Status :=
  if hashHasCase alg then .success else .notSupported

/-- `psa_hash_get_size`. -/
def psaHashGetSize (alg : Algorithm) : Nat := (hashSizes.lookup alg).getD 0

/-- The wolfCrypt calls of the hash engine over its union of objects. -/
structure WcHash (Obj : Type) where
  init : Algorithm → Except WcError Obj
  update : Algorithm → Obj → Bytes → Except WcError Obj
  /-- The digest that the final call writes. -/
  final : Algorithm → Obj → Except WcError Bytes
  copy : Algorithm → Obj → Except WcError Obj

/-- `psa_hash_operation_ctx_t`. -/
structure HashCtx (Obj : Type) where
  alg : Algorithm
  initialized : Bool
  started : Bool
  finalized : Bool
  object : Obj
  deriving DecidableEq

/-- What one call meets outside `psa_hash_engine.c`. -/
structure HashEnv (Obj : Type) where
  cryptoIsInitialized : Bool
  ctxAlloc : Bool
  wc : WcHash Obj

variable {Obj : Type}

/-! ## Entry points on one operation -/

/-- `psa_hash_setup`: status and the operation after the call. -/
def psaHashSetup (env : HashEnv Obj) (operation : Option (HashCtx Obj)) (alg : Algorithm) :
    Status × Option (HashCtx Obj) :=
  let result : Except Failure (HashCtx Obj) := do
    require env.cryptoIsInitialized .badState
    require (psaAlgIsHash alg) .invalidArgument
    require (psaHashCheckAlgSupported alg == .success) .notSupported
    require operation.isNone .badState
    require env.ctxAlloc .insufficientMemory
    let object ← wcCall (env.wc.init alg)
    return ⟨alg, true, true, false, object⟩
  match result with
  | .error status => (status.val, operation)
  | .ok ctx => (.success, some ctx)

/-- `psa_hash_update` on a context. -/
def hashUpdate (wc : WcHash Obj) (ctx : HashCtx Obj) (input : InBuf) :
    Except Failure (HashCtx Obj) := do
  require (ctx.initialized && ctx.started) .badState
  require (!ctx.finalized) .badState
  require (wolfpsaCheckWord32Length input.length == .success) .invalidArgument
  require (hashHasCase ctx.alg) .notSupported
  let object ← wcCall (wc.update ctx.alg ctx.object input.bytes)
  return { ctx with object := object }

/-- `psa_hash_update`; every refusal aborts the operation. -/
def psaHashUpdate (env : HashEnv Obj) (operation : Option (HashCtx Obj)) (input : InBuf) :
    Status × Option (HashCtx Obj) :=
  if input.isNull && decide (input.length > 0) then (.invalidArgument, none)
  else
    match operation with
    | none => (.badState, none)
    | some ctx =>
      match hashUpdate env.wc ctx input with
      | .error status => (status.val, none)
      | .ok ctx => (.success, some ctx)

/-- `psa_hash_finish` on a context: the digest. -/
def hashFinish (wc : WcHash Obj) (ctx : HashCtx Obj) (hashSize : Nat) : Except Failure Bytes := do
  require (ctx.initialized && ctx.started) .badState
  require (!ctx.finalized) .badState
  let expectedHashSize := psaHashGetSize ctx.alg
  require (expectedHashSize != 0) .notSupported
  require (decide (expectedHashSize ≤ hashSize)) .bufferTooSmall
  require (hashHasCase ctx.alg) .notSupported
  let digest ← wcCall (wc.final ctx.alg ctx.object)
  return digest.take expectedHashSize

/-- What a hash call hands back: its status and, from `psa_hash_finish`, the digest. -/
structure HashResult where
  status : Status
  hash : Bytes
  deriving DecidableEq, Repr

/-- `psa_hash_finish`. -/
def psaHashFinish (env : HashEnv Obj) (operation : Option (HashCtx Obj)) (hash : OutBuf)
    (hashLengthNull : Bool) : HashResult × Option (HashCtx Obj) :=
  if hashLengthNull || (hash.isNull && hash.size != 0) then (⟨.invalidArgument, []⟩, none)
  else
    match operation with
    | none => (⟨.badState, []⟩, none)
    | some ctx =>
      match hashFinish env.wc ctx hash.size with
      | .error status => (⟨status.val, []⟩, none)
      | .ok digest => (⟨.success, digest⟩, none)

/-- `psa_hash_verify`. A NULL reference with a length is refused without aborting the operation. -/
def psaHashVerify (env : HashEnv Obj) (operation : Option (HashCtx Obj)) (hash : InBuf) :
    Status × Option (HashCtx Obj) :=
  if hash.isNull && hash.length != 0 then (.invalidArgument, operation)
  else
    let r := psaHashFinish env operation ⟨false, wolfpsaHashMaxSize⟩ false
    if r.1.status ≠ .success then (r.1.status, r.2)
    else if hash.length ≠ r.1.hash.length then (.invalidSignature, r.2)
    else if hash.bytes = r.1.hash then (.success, r.2)
    else (.invalidSignature, r.2)

/-- `psa_hash_abort`. -/
def psaHashAbort (_operation : Option (HashCtx Obj)) : Status × Option (HashCtx Obj) :=
  (.success, none)

/-- The copy of a wolfCrypt object; RIPEMD-160 and Ascon objects are copied by `XMEMCPY`. -/
def hashCopy (wc : WcHash Obj) (alg : Algorithm) (object : Obj) : Except WcError Obj :=
  if alg == psaAlgRipemd160 || alg == psaAlgAsconHash256 then .ok object else wc.copy alg object

/-- `psa_hash_clone`: status and the target operation after the call. -/
def psaHashClone (env : HashEnv Obj) (source target : Option (HashCtx Obj)) :
    Status × Option (HashCtx Obj) :=
  match target with
  | some ctx => (.badState, some ctx)
  | none =>
    match source with
    | none => (.badState, none)
    | some ctx =>
      let result : Except Failure (HashCtx Obj) := do
        require (ctx.initialized && ctx.started) .badState
        require (!ctx.finalized) .badState
        require env.ctxAlloc .insufficientMemory
        require (hashHasCase ctx.alg) .notSupported
        let object ← wcCall (hashCopy env.wc ctx.alg ctx.object)
        return { ctx with object := object }
      match result with
      | .error status => (status.val, none)
      | .ok ctx => (.success, some ctx)

/-! ## One-shot calls -/

/-- `psa_hash_compute`. -/
def psaHashCompute (env : HashEnv Obj) (alg : Algorithm) (input : InBuf) (hash : OutBuf)
    (hashLengthNull : Bool) : HashResult :=
  if !env.cryptoIsInitialized then ⟨.badState, []⟩
  else
    let started := psaHashSetup env none alg
    if started.1 ≠ .success then ⟨started.1, []⟩
    else
      let updated := psaHashUpdate env started.2 input
      if updated.1 ≠ .success then ⟨updated.1, []⟩
      else (psaHashFinish env updated.2 hash hashLengthNull).1

/-- `psa_hash_compare`. -/
def psaHashCompare (env : HashEnv Obj) (alg : Algorithm) (input hash : InBuf) : Status :=
  if !env.cryptoIsInitialized then .badState
  else if !psaAlgIsHash alg then .invalidArgument
  else if psaHashGetSize alg = 0 then .notSupported
  else if hash.length ≠ psaHashGetSize alg then .invalidSignature
  else if hash.isNull then .invalidArgument
  else
    let computed := psaHashCompute env alg input ⟨false, wolfpsaHashMaxSize⟩ false
    if computed.status ≠ .success then computed.status
    else if computed.hash = hash.bytes.take computed.hash.length then .success
    else .invalidSignature

/-! ## Sequences of calls -/

/-- One call of the hash interface; operations are numbered. -/
inductive HashCall where
  | setup (op : Nat) (alg : Algorithm)
  | update (op : Nat) (input : InBuf)
  | finish (op : Nat) (hash : OutBuf) (hashLengthNull : Bool)
  | verify (op : Nat) (hash : InBuf)
  | clone (source target : Nat)
  | abort (op : Nat)
  deriving DecidableEq

/-- The operation that a call can change. -/
def HashCall.op : HashCall → Nat
  | setup op _ | update op _ | finish op _ _ | verify op _ | clone _ op | abort op => op

/-- A call together with the environment it meets. -/
structure HashEvent (Obj : Type) where
  env : HashEnv Obj
  call : HashCall

/-- All operation objects of the application. -/
abbrev HashState (Obj : Type) := Nat → Option (HashCtx Obj)

def hashInit : HashState Obj := fun _ => none

/-- The call applied to the operation objects: the answer and the operation it can change. -/
def hashCall (env : HashEnv Obj) (s : HashState Obj) : HashCall → HashResult × Option (HashCtx Obj)
  | .setup op alg =>
    let r := psaHashSetup env (s op) alg
    (⟨r.1, []⟩, r.2)
  | .update op input =>
    let r := psaHashUpdate env (s op) input
    (⟨r.1, []⟩, r.2)
  | .finish op hash hashLengthNull => psaHashFinish env (s op) hash hashLengthNull
  | .verify op hash =>
    let r := psaHashVerify env (s op) hash
    (⟨r.1, []⟩, r.2)
  | .clone source target =>
    let r := psaHashClone env (s source) (s target)
    (⟨r.1, []⟩, r.2)
  | .abort op =>
    let r := psaHashAbort (s op)
    (⟨r.1, []⟩, r.2)

def hashStep (s : HashState Obj) (e : HashEvent Obj) : HashResult × HashState Obj :=
  let r := hashCall e.env s e.call
  (r.1, Function.update s e.call.op r.2)

end WolfPSA.Source
