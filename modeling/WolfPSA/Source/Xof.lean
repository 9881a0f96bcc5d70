import WolfPSA.Source.Mac

/-!
# Extendable-output functions

Embedding of `src/psa_xof.c` in a build with SHAKE128 and SHAKE256. wolfCrypt's `Absorb` finalises the
sponge, so input is accumulated in a buffer that grows by doubling and is absorbed once, by the first
`psa_xof_output`. Output comes from a staging buffer of one block and from blocks that are squeezed
straight into the caller's buffer. The `wc_Shake` object is opaque; `ibuf` and `ibuf_len` are one list.
-/

namespace WolfPSA.Source

def psaAlgShake128 : Algorithm := 0x0D000100
def psaAlgShake256 : Algorithm := 0x0D000200
def psaAlgAsconXof128 : Algorithm := 0x0D000300
def psaAlgAsconCxof128 : Algorithm := 0x0D008300

def psaAlgIsXof (alg : Algorithm) : Bool := alg &&& 0x7f000000 == 0x0D000000
def psaAlgXofHasContext (alg : Algorithm) : Bool := alg &&& 0x00008000 != 0

def shake128BlockSize : Nat := 168
def shake256BlockSize : Nat := 136

/-- The wolfCrypt calls of the XOF driver. -/
structure WcShake (Shake : Type) where
  init : Algorithm → Except WcError Shake
  absorb : Algorithm → Shake → Bytes → Except WcError Shake
  squeezeBlocks : Algorithm → Shake → Nat → Except WcError (Bytes × Shake)

/-- `psa_xof_operation_ctx_t`. -/
structure XofCtx (Shake : Type) where
  alg : Algorithm
  shake : Shake
  squeezing : Bool
  blockSize : Nat
  buf : Bytes
  bufOff : Nat
  bufLen : Nat
  ibuf : Bytes
  ibufCap : Nat
  deriving DecidableEq

/-- What one call meets outside `psa_xof.c`. -/
structure XofEnv (Shake : Type) where
  cryptoIsInitialized : Bool
  ctxAlloc : Bool
  /-- Whether `XMALLOC` of an input buffer of the given size succeeds. -/
  ibufAlloc : Nat → Bool
  wc : WcShake Shake

variable {Shake : Type}

/-- The algorithms with a `case` in the switches of `psa_xof.c`. -/
def xofHasCase (alg : Algorithm) : Bool := alg == psaAlgShake128 || alg == psaAlgShake256

/-! ## Setup and context -/

/-- `psa_xof_setup`: status and the operation after the call. -/
def psaXofSetup (env : XofEnv Shake) (operation : Option (XofCtx Shake)) (alg : Algorithm) :
    Status × Option (XofCtx Shake) :=
  let result : Except Failure (XofCtx Shake) := do
    require env.cryptoIsInitialized .badState
    require (psaAlgIsXof alg) .invalidArgument
    require (!(alg == psaAlgAsconXof128 || alg == psaAlgAsconCxof128)) .notSupported
    require (alg == psaAlgShake128 || alg == psaAlgShake256) .notSupported
    require operation.isNone .badState
    require env.ctxAlloc .insufficientMemory
    let shake ← wcCall (env.wc.init alg)
    let blockSize := if alg == psaAlgShake128 then shake128BlockSize else shake256BlockSize
    return ⟨alg, shake, false, blockSize, List.replicate shake128BlockSize 0, 0, 0, [], 0⟩
  match result with
  | .error status => (status.val, operation)
  | .ok ctx => (.success, some ctx)

/-- `psa_xof_set_context` on a context: neither SHAKE has one, and no branch succeeds. -/
def xofSetContext (ctx : XofCtx Shake) : Failure :=
  if !psaAlgXofHasContext ctx.alg then ⟨.invalidArgument, failing⟩
  else if ctx.squeezing || decide (ctx.ibuf.length > 0) then ⟨.badState, failing⟩
  else ⟨.invalidArgument, failing⟩

/-- `psa_xof_set_context`. -/
def psaXofSetContext (operation : Option (XofCtx Shake)) : Status × Option (XofCtx Shake) :=
  match operation with
  | none => (.badState, none)
  | some ctx => ((xofSetContext ctx).val, none)

/-! ## Input -/

/-- The growth loop of `psa_xof_ibuf_grow`; every round adds at least one, so `needCap` rounds are
enough. -/
def doubleCap (needCap : Nat) : (rounds newCap : Nat) → Nat
  | 0, newCap => newCap
  | rounds + 1, newCap =>
    if newCap < needCap then
      if newCap > uint32Max / 2 then uint32Max else doubleCap needCap rounds (newCap * 2)
    else newCap

/-- `psa_xof_ibuf_grow`; `none` when the allocation fails. -/
def psaXofIbufGrow (ibufAlloc : Nat → Bool) (ctx : XofCtx Shake) (needCap : Nat) :
    Option (XofCtx Shake) :=
  if needCap ≤ ctx.ibufCap then some ctx
  else
    let newCap := doubleCap needCap needCap (if ctx.ibufCap ≠ 0 then ctx.ibufCap else 256)
    if ibufAlloc newCap then some { ctx with ibufCap := newCap } else none

/-- The input behind what is accumulated. -/
def xofAccumulate (env : XofEnv Shake) (ctx : XofCtx Shake) (input : Bytes) :
    Except Failure (XofCtx Shake) := do
  require (wolfpsaCheckWord32Length input.length == .success) .invalidArgument
  require (decide (input.length ≤ uint32Max - ctx.ibuf.length)) .invalidArgument
  match psaXofIbufGrow env.ibufAlloc ctx (ctx.ibuf.length + input.length) with
  | none => refuse .insufficientMemory
  | some ctx => return { ctx with ibuf := ctx.ibuf ++ input }

/-- `psa_xof_update` on a context. -/
def xofUpdate (env : XofEnv Shake) (ctx : XofCtx Shake) (input : InBuf) :
    Except Failure (XofCtx Shake) := do
  require (!ctx.squeezing) .badState
  if input.length = 0 then return ctx
  xofAccumulate env ctx input.bytes

/-- `psa_xof_update`; every refusal aborts the operation. -/
def psaXofUpdate (env : XofEnv Shake) (operation : Option (XofCtx Shake)) (input : InBuf) :
    Status × Option (XofCtx Shake) :=
  if input.isNull && decide (input.length > 0) then (.invalidArgument, none)
  else
    match operation with
    | none => (.badState, none)
    | some ctx =>
      match xofUpdate env ctx input with
      | .error status => (status.val, none)
      | .ok ctx => (.success, some ctx)

/-! ## Output -/

/-- The first output absorbs what is accumulated. -/
def xofAbsorb (wc : WcShake Shake) (ctx : XofCtx Shake) : Except Failure (XofCtx Shake) :=
  if ctx.squeezing then .ok ctx
  else do
    require (xofHasCase ctx.alg) .notSupported
    let shake ← wcCall (wc.absorb ctx.alg ctx.shake ctx.ibuf)
    return { ctx with
      shake := shake, ibuf := [], ibufCap := 0, squeezing := true, bufOff := 0, bufLen := 0 }

/-- The inner loop of `psa_xof_output`: whole blocks into the caller's buffer, at most `UINT32_MAX`
bytes at a time. The bytes, the context and the length left. -/
def squeezeDirect (wc : WcShake Shake) : (rounds : Nat) → XofCtx Shake → Nat →
    Except Failure (Bytes × XofCtx Shake × Nat)
  | 0, ctx, outputLength => .ok ([], ctx, outputLength)
  | rounds + 1, ctx, outputLength =>
    if outputLength < ctx.blockSize then .ok ([], ctx, outputLength)
    else do
      let nBlocks := min (outputLength / ctx.blockSize) (uint32Max / ctx.blockSize)
      require (xofHasCase ctx.alg) .notSupported
      let (produced, shake) ← wcCall (wc.squeezeBlocks ctx.alg ctx.shake nBlocks)
      let (rest, ctx, left) ← squeezeDirect wc rounds { ctx with shake := shake }
        (outputLength - nBlocks * ctx.blockSize)
      return (produced ++ rest, ctx, left)

/-- One block into the staging buffer. -/
def squeezeTail (wc : WcShake Shake) (ctx : XofCtx Shake) : Except Failure (XofCtx Shake) := do
  require (xofHasCase ctx.alg) .notSupported
  let (block, shake) ← wcCall (wc.squeezeBlocks ctx.alg ctx.shake 1)
  return { ctx with shake := shake, buf := block, bufLen := ctx.blockSize, bufOff := 0 }

/-- The outer loop of `psa_xof_output`. Every second round writes at least one byte. -/
def xofServe (wc : WcShake Shake) : (rounds : Nat) → XofCtx Shake → Nat →
    Except Failure (Bytes × XofCtx Shake)
  | 0, ctx, _ => .ok ([], ctx)
  | rounds + 1, ctx, outputLength =>
    if outputLength = 0 then .ok ([], ctx)
    else if ctx.bufOff < ctx.bufLen then do
      let take := min outputLength (ctx.bufLen - ctx.bufOff)
      let (rest, ctx') ← xofServe wc rounds { ctx with bufOff := ctx.bufOff + take }
        (outputLength - take)
      return ((ctx.buf.drop ctx.bufOff).take take ++ rest, ctx')
    else do
      let (direct, ctx, left) ← squeezeDirect wc outputLength { ctx with bufOff := 0, bufLen := 0 }
        outputLength
      if left = 0 then return (direct, ctx)
      let ctx ← squeezeTail wc ctx
      let (rest, ctx) ← xofServe wc rounds ctx left
      return (direct ++ rest, ctx)

/-- `psa_xof_output` on a context. -/
def xofOutput (wc : WcShake Shake) (ctx : XofCtx Shake) (outputLength : Nat) :
    Except Failure (Bytes × XofCtx Shake) :=
  if outputLength = 0 then .ok ([], ctx)
  else do
    let ctx ← xofAbsorb wc ctx
    xofServe wc (2 * outputLength + 1) ctx outputLength

/-- What an XOF call hands back: its status and, from `psa_xof_output`, the bytes. -/
structure XofResult where
  status : Status
  output : Bytes
  deriving DecidableEq, Repr

/-- `psa_xof_output`. -/
def psaXofOutput (env : XofEnv Shake) (operation : Option (XofCtx Shake)) (output : OutBuf) :
    XofResult × Option (XofCtx Shake) :=
  if output.isNull && decide (output.size > 0) then (⟨.invalidArgument, []⟩, none)
  else
    match operation with
    | none => (⟨.badState, []⟩, none)
    | some ctx =>
      match xofOutput env.wc ctx output.size with
      | .error status => (⟨status.val, []⟩, none)
      | .ok (bytes, ctx) => (⟨.success, bytes⟩, some ctx)

/-- `psa_xof_abort`. -/
def psaXofAbort (_operation : Option (XofCtx Shake)) : Status × Option (XofCtx Shake) :=
  (.success, none)

/-! ## Sequences of calls -/

/-- One call of the XOF interface; operations are numbered. -/
inductive XofCall where
  | setup (op : Nat) (alg : Algorithm)
  | setContext (op : Nat)
  | update (op : Nat) (input : InBuf)
  | output (op : Nat) (output : OutBuf)
  | abort (op : Nat)
  deriving DecidableEq

def XofCall.op : XofCall → Nat
  | setup op _ | setContext op | update op _ | output op _ | abort op => op

/-- A call together with the environment it meets. -/
structure XofEvent (Shake : Type) where
  env : XofEnv Shake
  call : XofCall

/-- All operation objects of the application. -/
abbrev XofState (Shake : Type) := Nat → Option (XofCtx Shake)

def xofInit : XofState Shake := fun _ => none

/-- The call applied to its operation object. -/
def xofCall (env : XofEnv Shake) (operation : Option (XofCtx Shake)) :
    XofCall → XofResult × Option (XofCtx Shake)
  | .setup _ alg =>
    let r := psaXofSetup env operation alg
    (⟨r.1, []⟩, r.2)
  | .setContext _ =>
    let r := psaXofSetContext operation
    (⟨r.1, []⟩, r.2)
  | .update _ input =>
    let r := psaXofUpdate env operation input
    (⟨r.1, []⟩, r.2)
  | .output _ output => psaXofOutput env operation output
  | .abort _ =>
    let r := psaXofAbort operation
    (⟨r.1, []⟩, r.2)

def xofStep (s : XofState Shake) (e : XofEvent Shake) : XofResult × XofState Shake :=
  let r := xofCall e.env (s e.call.op) e.call
  (r.1, Function.update s e.call.op r.2)

end WolfPSA.Source
