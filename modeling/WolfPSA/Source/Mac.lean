import WolfPSA.Source.Values

/-!
# Message authentication operations

Embedding of `src/psa_mac.c`. An operation object holds an optional context; the environment of a
call answers the key look-up (`wolfpsa_get_key_data`), the context allocation and every wolfCrypt
call, so one call may meet any of their outcomes. Builds without `WOLF_CRYPTO_CB` and with
`WOLFSSL_CMAC`, as `user_settings.h` selects. wolfCrypt's `Hmac` and `Cmac` objects are opaque.
-/

namespace WolfPSA.Source

/-! ## Hash selection -/

/-- The `WC_HASH_TYPE_*` values `wolfpsa_hash_type_from_alg` can select. -/
inductive WcHashType where
  | md5 | sha | sha224 | sha256 | sha384 | sha512 | sha512_224 | sha512_256
  | sha3_224 | sha3_256 | sha3_384 | sha3_512
  deriving DecidableEq, Repr

/-- The `switch` shared by the hash selections of `psa_mac.c` and `psa_key_derivation.c`. -/
def wcHashTypeOfHash (hash : Algorithm) : Option WcHashType :=
  if hash == psaAlgMd5 then some .md5
  else if hash == psaAlgSha1 then some .sha
  else if hash == psaAlgSha224 then some .sha224
  else if hash == psaAlgSha256 then some .sha256
  else if hash == psaAlgSha384 then some .sha384
  else if hash == psaAlgSha512 then some .sha512
  else if hash == psaAlgSha512_224 then some .sha512_224
  else if hash == psaAlgSha512_256 then some .sha512_256
  else if hash == psaAlgSha3_224 then some .sha3_224
  else if hash == psaAlgSha3_256 then some .sha3_256
  else if hash == psaAlgSha3_384 then some .sha3_384
  else if hash == psaAlgSha3_512 then some .sha3_512
  else none

/-- `wolfpsa_hash_type_from_alg`; `none` is `WC_HASH_TYPE_NONE`. -/
def wolfpsaHashTypeFromAlg (alg : Algorithm) : Option WcHashType :=
  wcHashTypeOfHash
    (if psaAlgIsHmac alg then psaAlgHmacGetHash alg else if psaAlgIsHash alg then alg else 0)

/-! ## Key check -/

/-- `wolfpsa_mac_alg_permitted`. -/
def wolfpsaMacAlgPermitted (attributes : KeyAttributes) (keyAlg alg : Algorithm) : Bool :=
  if keyAlg == psaAlgNone || psaAlgFullLengthMac keyAlg != psaAlgFullLengthMac alg then false
  else
    let reqLength := psaMacLength attributes.type alg
    let minLength :=
      if psaMacTruncatedLength keyAlg == 0 then
        psaMacLength attributes.type (psaAlgFullLengthMac keyAlg)
      else psaMacTruncatedLength keyAlg
    if keyAlg &&& psaAlgMacAtLeastThisLengthFlag != 0 then decide (reqLength ≥ minLength)
    else reqLength == minLength

/-- The answer of `wolfpsa_get_key_data`: attributes and a copy of the key bytes. -/
abbrev KeyLookup := KeyId → Except Failure (KeyAttributes × Bytes)

/-- `wolfpsa_mac_check_key`. -/
def wolfpsaMacCheckKey (getKeyData : KeyLookup) (key : KeyId) (usage : KeyUsage)
    (alg : Algorithm) : Except Status (KeyAttributes × Bytes) :=
  match getKeyData key with
  | .error status => .error status.val
  | .ok (attributes, keyData) =>
    if psaAlgIsHmac alg && attributes.type != psaKeyTypeHmac then .error .invalidArgument
    else if !psaAlgIsHmac alg && psaAlgIsBlockCipherMac alg &&
        attributes.type != psaKeyTypeAes then .error .invalidArgument
    else if !psaAlgIsHmac alg && !psaAlgIsBlockCipherMac alg then .error .notSupported
    else if !hasUsage attributes.usage usage then .error .notPermitted
    else if !wolfpsaMacAlgPermitted attributes attributes.alg alg &&
        !wolfpsaMacAlgPermitted attributes attributes.alg2 alg then .error .notPermitted
    else .ok (attributes, keyData)

/-! ## Operation context -/

/-- The wolfCrypt calls of the MAC driver over its opaque context types. -/
structure WcMac (Hmac Cmac : Type) where
  hmacInit : Except WcError Hmac
  hmacSetKey : Hmac → WcHashType → Bytes → Except WcError Hmac
  hmacUpdate : Hmac → Bytes → Except WcError Hmac
  /-- The digest `wc_HmacFinal` writes. -/
  hmacFinal : Hmac → Except WcError Bytes
  initCmac : Bytes → Except WcError Cmac
  cmacUpdate : Cmac → Bytes → Except WcError Cmac
  /-- The tag `wc_CmacFinal` writes into a buffer of the given size. -/
  cmacFinal : Cmac → Nat → Except WcError Bytes

/-- `wolfpsa_mac_type_t` with the member of the union it selects. -/
inductive MacUnderlying (Hmac Cmac : Type) where
  | none
  | hmac (h : Hmac)
  | cmac (c : Cmac)
  deriving DecidableEq

/-- `wolfpsa_mac_ctx_t`. -/
structure MacCtx (Hmac Cmac : Type) where
  alg : Algorithm
  keyType : KeyType
  keyBits : BitVec 16
  macLength : Nat
  fullLength : Nat
  underlying : MacUnderlying Hmac Cmac
  deriving DecidableEq

/-- What one call meets outside `psa_mac.c`. -/
structure MacEnv (Hmac Cmac : Type) where
  getKeyData : KeyLookup
  /-- Whether `XMALLOC` of the context succeeds. -/
  ctxAlloc : Bool
  wc : WcMac Hmac Cmac

variable {Hmac Cmac : Type}

/-- The length checks of `wolfpsa_mac_setup` (`psa_mac.c:349-377`). -/
def macSetupLengths (alg : Algorithm) (macLength fullLength : Nat) : Status :=
  if macLength == 0 || fullLength == 0 || decide (macLength > fullLength) then .invalidArgument
  else if alg &&& psaAlgMacTruncationMask != 0 then
    if psaMacTruncatedLength alg > fullLength then .invalidArgument
    else if psaMacTruncatedLength alg < 4 then .notSupported
    else .success
  else .success

/-- The wolfCrypt object of a new context: `ret` and the union member of `wolfpsa_mac_setup`. -/
def macSetupUnderlying (wc : WcMac Hmac Cmac) (alg : Algorithm) (hashType : Option WcHashType)
    (keyData : Bytes) : Except WcError (MacUnderlying Hmac Cmac) :=
  match hashType with
  | some hash => do
    let fresh ← wc.hmacInit
    let keyed ← wc.hmacSetKey fresh hash keyData
    return .hmac keyed
  | Option.none =>
    if psaAlgIsBlockCipherMac alg && psaAlgFullLengthMac alg == psaAlgCmac then do
      let c ← wc.initCmac keyData
      return .cmac c
    else .error .notCompiledIn

/-- `wolfpsa_mac_setup` past the inactive-operation check: a context or the refusal. -/
def macSetupCtx (env : MacEnv Hmac Cmac) (key : KeyId) (alg : Algorithm) (usage : KeyUsage) :
    Except Status (MacCtx Hmac Cmac) :=
  if !psaAlgIsMac alg then .error .invalidArgument
  else
    match wolfpsaMacCheckKey env.getKeyData key usage alg with
    | .error status => .error status
    | .ok (attributes, keyData) =>
      let macLength := psaMacLength attributes.type alg
      let fullLength := psaMacLength attributes.type (psaAlgFullLengthMac alg)
      if !env.ctxAlloc then .error .insufficientMemory
      else if wolfpsaCheckWord32Length keyData.length ≠ .success then .error .invalidArgument
      else
        let hashType := wolfpsaHashTypeFromAlg alg
        if psaAlgIsHmac alg && hashType == none then .error .notSupported
        else
          let ret := macSetupUnderlying env.wc alg (if psaAlgIsHmac alg then hashType else none)
            keyData
          -- the length checks come before the test of `ret`
          match macSetupLengths alg macLength fullLength with
          | .success =>
            match ret with
            | .error e => .error (wcErrorToPsaStatus e)
            | .ok underlying =>
              .ok ⟨alg, attributes.type, attributes.bits, macLength, fullLength, underlying⟩
          | status => .error status

/-! ## Entry points on one operation -/

/-- `wolfpsa_mac_setup`: status and the operation after the call. -/
def wolfpsaMacSetup (env : MacEnv Hmac Cmac) (operation : Option (MacCtx Hmac Cmac))
    (key : KeyId) (alg : Algorithm) (usage : KeyUsage) :
    Status × Option (MacCtx Hmac Cmac) :=
  match operation with
  | some ctx => (.badState, some ctx)
  | none =>
    match macSetupCtx env key alg usage with
    | .error status => (status, none)
    | .ok ctx => (.success, some ctx)

def psaMacSignSetup (env : MacEnv Hmac Cmac) (operation : Option (MacCtx Hmac Cmac))
    (key : KeyId) (alg : Algorithm) : Status × Option (MacCtx Hmac Cmac) :=
  wolfpsaMacSetup env operation key alg psaKeyUsageSignMessage

def psaMacVerifySetup (env : MacEnv Hmac Cmac) (operation : Option (MacCtx Hmac Cmac))
    (key : KeyId) (alg : Algorithm) : Status × Option (MacCtx Hmac Cmac) :=
  wolfpsaMacSetup env operation key alg psaKeyUsageVerifyMessage

/-- `psa_mac_update`; every refusal aborts the operation. -/
def psaMacUpdate (env : MacEnv Hmac Cmac) (operation : Option (MacCtx Hmac Cmac))
    (input : InBuf) : Status × Option (MacCtx Hmac Cmac) :=
  match operation with
  | none => (.badState, none)
  | some ctx =>
    if input.isNull && decide (input.length > 0) then (.invalidArgument, none)
    else if wolfpsaCheckWord32Length input.length ≠ .success then (.invalidArgument, none)
    else if input.length == 0 then (.success, some ctx)
    else
      match ctx.underlying with
      | .hmac h =>
        match env.wc.hmacUpdate h input.bytes with
        | .error e => (wcErrorToPsaStatus e, none)
        | .ok h' => (.success, some { ctx with underlying := .hmac h' })
      | .cmac c =>
        match env.wc.cmacUpdate c input.bytes with
        | .error e => (wcErrorToPsaStatus e, none)
        | .ok c' => (.success, some { ctx with underlying := .cmac c' })
      | .none => (.badState, none)

/-- The full MAC `wolfpsa_mac_final` computes, with the length wolfCrypt reports. -/
def macFinalFull (env : MacEnv Hmac Cmac) (ctx : MacCtx Hmac Cmac) :
    Except Status (Bytes × Nat) :=
  match ctx.underlying with
  | .hmac h =>
    match env.wc.hmacFinal h with
    | .error e => .error (wcErrorToPsaStatus e)
    | .ok fullMac => .ok (fullMac, ctx.fullLength)
  | .cmac c =>
    match env.wc.cmacFinal c ctx.fullLength with
    | .error e => .error (wcErrorToPsaStatus e)
    | .ok fullMac => .ok (fullMac, fullMac.length)
  | .none => .error .badState

/-- `wolfpsa_mac_final`: the bytes copied to `mac`, or the refusal. -/
def wolfpsaMacFinal (env : MacEnv Hmac Cmac) (ctx : MacCtx Hmac Cmac) (mac : OutBuf)
    (macLengthNull : Bool) : Except Status Bytes :=
  if macLengthNull || (mac.isNull && mac.size != 0) then .error .invalidArgument
  else if ctx.fullLength > psaMacMaxSize then .error .invalidArgument
  else if mac.size < ctx.macLength then .error .bufferTooSmall
  else
    match macFinalFull env ctx with
    | .error status => .error status
    | .ok (fullMac, fullLen) =>
      if ctx.macLength > fullLen then .error .invalidArgument
      else .ok (fullMac.take ctx.macLength)

/-- What a MAC call hands back: its status and, from `psa_mac_sign_finish`, the MAC. -/
structure MacResult where
  status : Status
  mac : Bytes
  deriving DecidableEq, Repr

/-- `psa_mac_sign_finish`. -/
def psaMacSignFinish (env : MacEnv Hmac Cmac) (operation : Option (MacCtx Hmac Cmac))
    (mac : OutBuf) (macLengthNull : Bool) : MacResult × Option (MacCtx Hmac Cmac) :=
  match operation with
  | none => (⟨.badState, []⟩, none)
  | some ctx =>
    match wolfpsaMacFinal env ctx mac macLengthNull with
    | .error status => (⟨status, []⟩, none)
    | .ok bytes => (⟨.success, bytes⟩, none)

/-- `psa_mac_verify_finish`. A NULL `mac` is refused without aborting the operation. -/
def psaMacVerifyFinish (env : MacEnv Hmac Cmac) (operation : Option (MacCtx Hmac Cmac))
    (mac : InBuf) : Status × Option (MacCtx Hmac Cmac) :=
  match operation with
  | none => (.badState, none)
  | some ctx =>
    match mac with
    | .null _ => (.invalidArgument, some ctx)
    | .data expected =>
      let atLeast := ctx.alg &&& psaAlgMacAtLeastThisLengthFlag != 0
      if atLeast && (decide (expected.length < ctx.macLength) ||
          decide (expected.length > ctx.fullLength)) then (.invalidSignature, none)
      else if !atLeast && expected.length != ctx.macLength then (.invalidSignature, none)
      else
        let widened := { ctx with macLength := if atLeast then ctx.fullLength else ctx.macLength }
        match wolfpsaMacFinal env widened ⟨false, psaMacMaxSize⟩ false with
        | .error status => (status, none)
        | .ok computed =>
          if expected.length > widened.macLength then (.invalidSignature, none)
          else if computed.take expected.length == expected then (.success, none)
          else (.invalidSignature, none)

/-- `psa_mac_abort`. -/
def psaMacAbort (_operation : Option (MacCtx Hmac Cmac)) : Status × Option (MacCtx Hmac Cmac) :=
  (.success, none)

/-- `psa_mac_verify`. -/
def psaMacVerify (env : MacEnv Hmac Cmac) (key : KeyId) (alg : Algorithm) (input mac : InBuf) : Status :=
  match psaMacVerifySetup env none key alg with
  | (.success, operation) =>
    match psaMacUpdate env operation input with
    | (.success, operation) => (psaMacVerifyFinish env operation mac).1
    | (status, _) => status
  | (status, _) => status

/-! ## What the setup establishes -/

theorem wolfpsaMacCheckKey_ok {getKeyData : KeyLookup} {key : KeyId} {usage : KeyUsage}
    {alg : Algorithm} {found : KeyAttributes × Bytes}
    (success : wolfpsaMacCheckKey getKeyData key usage alg = .ok found) :
    getKeyData key = .ok found ∧ hasUsage found.1.usage usage = true ∧
      (wolfpsaMacAlgPermitted found.1 found.1.alg alg = true ∨
        wolfpsaMacAlgPermitted found.1 found.1.alg2 alg = true) := by
  unfold wolfpsaMacCheckKey at success
  split at success
  · cases success
  · rename_i attributes keyData looked
    split_ifs at success with h₁ h₂ h₃ h₄ h₅
    cases success
    refine ⟨looked, by simpa using h₄, ?_⟩
    by_contra neither
    simp_all

theorem macSetupCtx_ok {env : MacEnv Hmac Cmac} {key : KeyId} {alg : Algorithm}
    {usage : KeyUsage} {ctx : MacCtx Hmac Cmac} (success : macSetupCtx env key alg usage = .ok ctx) :
    ∃ attributes keyData, env.getKeyData key = .ok (attributes, keyData) ∧
      hasUsage attributes.usage usage = true ∧ ctx.alg = alg := by
  unfold macSetupCtx at success
  split at success
  · cases success
  split at success
  · cases success
  rename_i attributes keyData checked
  obtain ⟨looked, allowed, -⟩ := wolfpsaMacCheckKey_ok checked
  refine ⟨attributes, keyData, looked, allowed, ?_⟩
  dsimp only at success
  split at success
  · cases success
  split at success
  · cases success
  split at success
  · cases success
  split at success
  · split at success
    · cases success
    · cases success
      rfl
  · cases success

/-! ## Sequences of calls -/

/-- One call of the MAC interface; operations are numbered. -/
inductive MacCall where
  | signSetup (op : Nat) (key : KeyId) (alg : Algorithm)
  | verifySetup (op : Nat) (key : KeyId) (alg : Algorithm)
  | update (op : Nat) (input : InBuf)
  | signFinish (op : Nat) (mac : OutBuf) (macLengthNull : Bool)
  | verifyFinish (op : Nat) (mac : InBuf)
  | abort (op : Nat)
  deriving DecidableEq

def MacCall.op : MacCall → Nat
  | signSetup op _ _ | verifySetup op _ _ | update op _ | signFinish op _ _ | verifyFinish op _
  | abort op => op

/-- A call together with the environment it meets. -/
structure MacEvent (Hmac Cmac : Type) where
  env : MacEnv Hmac Cmac
  call : MacCall

/-- All operation objects of the application. -/
abbrev MacState (Hmac Cmac : Type) := Nat → Option (MacCtx Hmac Cmac)

def macInit : MacState Hmac Cmac := fun _ => none

/-- The call applied to its operation object. -/
def macCall (env : MacEnv Hmac Cmac) (operation : Option (MacCtx Hmac Cmac)) :
    MacCall → MacResult × Option (MacCtx Hmac Cmac)
  | .signSetup _ key alg =>
    let r := psaMacSignSetup env operation key alg
    (⟨r.1, []⟩, r.2)
  | .verifySetup _ key alg =>
    let r := psaMacVerifySetup env operation key alg
    (⟨r.1, []⟩, r.2)
  | .update _ input =>
    let r := psaMacUpdate env operation input
    (⟨r.1, []⟩, r.2)
  | .signFinish _ mac macLengthNull => psaMacSignFinish env operation mac macLengthNull
  | .verifyFinish _ mac =>
    let r := psaMacVerifyFinish env operation mac
    (⟨r.1, []⟩, r.2)
  | .abort _ =>
    let r := psaMacAbort operation
    (⟨r.1, []⟩, r.2)

def macStep (s : MacState Hmac Cmac) (e : MacEvent Hmac Cmac) :
    MacResult × MacState Hmac Cmac :=
  let r := macCall e.env (s e.call.op) e.call
  (r.1, Function.update s e.call.op r.2)

end WolfPSA.Source
