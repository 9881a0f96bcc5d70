import WolfPSA.Lib.Trace
import WolfPSA.Source.Mac

/-!
# Which key a released MAC comes from

Over every run of MAC calls, on any number of operations and with any keys, the context of an
active operation goes back to a setup call whose usage flag the key carries. The context does not
record which of the two setups that was, so a finish of the other kind is not refused.
-/

namespace WolfPSA.Guarantees
open Lib Source

variable {Hmac Cmac : Type}

abbrev MacHistory (Hmac Cmac : Type) := History (MacEvent Hmac Cmac) MacResult

def isMacSetupOn (op : Nat) : MacCall → Bool
  | .signSetup op' _ _ | .verifySetup op' _ _ => op' == op
  | _ => false

/-- The setup call that made an operation active: the last successful one on it. -/
def madeActive (op : Nat) : MacHistory Hmac Cmac → Option (MacEvent Hmac Cmac)
  | [] => none
  | (e, r) :: older =>
    if isMacSetupOn op e.call && r.status == .success then some e else madeActive op older

/-- The key a call names, as the look-up of that call found it, carries the usage flag. -/
def KeyHasUsage (e : MacEvent Hmac Cmac) (key : KeyId) (usage : KeyUsage) : Prop :=
  ∃ attributes keyData, e.env.getKeyData key = .ok (attributes, keyData) ∧
    hasUsage attributes.usage usage = true

/-- The call is `psa_mac_sign_setup` on a key with `PSA_KEY_USAGE_SIGN_MESSAGE`. -/
def SignSetupOnSigner (op : Nat) (e : MacEvent Hmac Cmac) : Prop :=
  ∃ key alg, e.call = .signSetup op key alg ∧ KeyHasUsage e key psaKeyUsageSignMessage

/-- The call is `psa_mac_verify_setup` on a key with `PSA_KEY_USAGE_VERIFY_MESSAGE`. -/
def VerifySetupOnVerifier (op : Nat) (e : MacEvent Hmac Cmac) : Prop :=
  ∃ key alg, e.call = .verifySetup op key alg ∧ KeyHasUsage e key psaKeyUsageVerifyMessage

/-- A successful finish call ends an operation that a setup of its own kind made active. -/
def FinishRespectsSetup (e : MacEvent Hmac Cmac) (r : MacResult)
    (older : MacHistory Hmac Cmac) : Prop :=
  r.status = .success →
    match e.call with
    | .signFinish op _ _ => ∃ setup, madeActive op older = some setup ∧ SignSetupOnSigner op setup
    | .verifyFinish op _ =>
      ∃ setup, madeActive op older = some setup ∧ VerifySetupOnVerifier op setup
    | _ => True

/-- The caller does not finish an operation with the other kind of finish call than the setup it
made on it asks for. -/
def FinishPaired (e : MacEvent Hmac Cmac) (_ : MacResult) (older : MacHistory Hmac Cmac) : Prop :=
  match e.call with
  | .signFinish op _ _ =>
    ∀ setup, madeActive op older = some setup → ∀ key alg, setup.call ≠ .verifySetup op key alg
  | .verifyFinish op _ =>
    ∀ setup, madeActive op older = some setup → ∀ key alg, setup.call ≠ .signSetup op key alg
  | _ => True

/-! ## One call -/

private theorem wolfpsaMacSetup_active {env : MacEnv Hmac Cmac}
    {operation : Option (MacCtx Hmac Cmac)} {key : KeyId} {alg : Algorithm} {usage : KeyUsage}
    (active : (wolfpsaMacSetup env operation key alg usage).2.isSome) :
    (operation.isSome ∧ (wolfpsaMacSetup env operation key alg usage).1 ≠ .success) ∨
      ((wolfpsaMacSetup env operation key alg usage).1 = .success ∧
        ∃ attributes keyData, env.getKeyData key = .ok (attributes, keyData) ∧
          hasUsage attributes.usage usage = true) := by
  cases operation with
  | some ctx => exact .inl ⟨rfl, by simp [wolfpsaMacSetup]⟩
  | none =>
    simp only [wolfpsaMacSetup] at active ⊢
    split at active
    · simp at active
    · rename_i ctx granted
      obtain ⟨attributes, keyData, looked, allowed, -⟩ := macSetupCtx_ok granted
      exact .inr ⟨by simp, attributes, keyData, looked, allowed⟩

/-- An operation is active after a call because it was before and no setup succeeded on it, or
because the call was a successful setup on a key with the usage flag of that setup. -/
theorem macCall_active {e : MacEvent Hmac Cmac} {operation : Option (MacCtx Hmac Cmac)}
    (active : (macCall e.env operation e.call).2.isSome) :
    (operation.isSome ∧
        ¬ (isMacSetupOn e.call.op e.call ∧ (macCall e.env operation e.call).1.status = .success)) ∨
      (isMacSetupOn e.call.op e.call ∧ (macCall e.env operation e.call).1.status = .success ∧
        (SignSetupOnSigner e.call.op e ∨ VerifySetupOnVerifier e.call.op e)) := by
  obtain ⟨env, call⟩ := e
  cases call with
  | signSetup op key alg =>
    rcases wolfpsaMacSetup_active active with ⟨was, refused⟩ | ⟨granted, allowed⟩
    · exact .inl ⟨was, fun h => refused h.2⟩
    · exact .inr ⟨by simp [isMacSetupOn, MacCall.op], granted, .inl ⟨key, alg, rfl, allowed⟩⟩
  | verifySetup op key alg =>
    rcases wolfpsaMacSetup_active active with ⟨was, refused⟩ | ⟨granted, allowed⟩
    · exact .inl ⟨was, fun h => refused h.2⟩
    · exact .inr ⟨by simp [isMacSetupOn, MacCall.op], granted, .inr ⟨key, alg, rfl, allowed⟩⟩
  | update op input =>
    refine .inl ⟨?_, by simp [isMacSetupOn]⟩
    cases operation with
    | none => simp [macCall, psaMacUpdate] at active
    | some ctx => rfl
  | signFinish op mac macLengthNull =>
    refine .inl ⟨?_, by simp [isMacSetupOn]⟩
    cases operation with
    | none => simp [macCall, psaMacSignFinish] at active
    | some ctx => rfl
  | verifyFinish op mac =>
    refine .inl ⟨?_, by simp [isMacSetupOn]⟩
    cases operation with
    | none => simp [macCall, psaMacVerifyFinish] at active
    | some ctx => rfl
  | abort op => simp [macCall, psaMacAbort] at active

/-- Only an active operation can be finished with success. -/
theorem macCall_finish_active {env : MacEnv Hmac Cmac} {operation : Option (MacCtx Hmac Cmac)}
    {call : MacCall} (success : (macCall env operation call).1.status = .success)
    (finish : (∃ op mac null, call = .signFinish op mac null) ∨
      ∃ op mac, call = .verifyFinish op mac) : operation.isSome := by
  cases operation with
  | some ctx => rfl
  | none =>
    rcases finish with ⟨op, mac, null, rfl⟩ | ⟨op, mac, rfl⟩
    · simp [macCall, psaMacSignFinish] at success
    · simp [macCall, psaMacVerifyFinish] at success

/-! ## Every run -/

/-- Every active operation was made active by a setup its key permits. -/
def ActiveByPermittedSetup (h : MacHistory Hmac Cmac) (s : MacState Hmac Cmac) : Prop :=
  ∀ op, (s op).isSome → ∃ setup, madeActive op h = some setup ∧
    (SignSetupOnSigner op setup ∨ VerifySetupOnVerifier op setup)

theorem madeActive_other {op : Nat} {e : MacEvent Hmac Cmac} (r : MacResult)
    (h : MacHistory Hmac Cmac) (other : op ≠ e.call.op) :
    madeActive op ((e, r) :: h) = madeActive op h := by
  have foreign : isMacSetupOn op e.call = false := by
    obtain ⟨env, call⟩ := e
    cases call <;> simp_all [isMacSetupOn, MacCall.op, Ne.symm]
  simp [madeActive, foreign]

theorem macStep_activeByPermittedSetup {h : MacHistory Hmac Cmac} {s : MacState Hmac Cmac}
    (before : ActiveByPermittedSetup h s) (e : MacEvent Hmac Cmac) :
    ActiveByPermittedSetup ((e, (macStep s e).1) :: h) (macStep s e).2 := by
  intro op active
  by_cases same : op = e.call.op
  · subst same
    simp only [macStep, Function.update_self] at active ⊢
    rcases macCall_active active with ⟨was, unset⟩ | ⟨onOp, granted, permitted⟩
    · obtain ⟨setup, made, permitted⟩ := before _ was
      refine ⟨setup, ?_, permitted⟩
      rw [madeActive, if_neg (by simpa using unset)]
      exact made
    · exact ⟨e, by simp [madeActive, onOp, granted], permitted⟩
  · have unchanged : (macStep s e).2 op = s op := by simp [macStep, same]
    rw [unchanged] at active
    rw [madeActive_other _ h same]
    exact before op active

/-- In every run whose finish calls are paired with their setups, a successful sign finish ends an
operation set up for signing with a signing key, and a successful verify finish one set up for
verification with a verification key. -/
theorem mac_finish_respects_setup (events : List (MacEvent Hmac Cmac))
    (paired : Throughout FinishPaired (run macStep macInit events).1) :
    Throughout FinishRespectsSetup (run macStep macInit events).1 := by
  refine run_throughout ActiveByPermittedSetup ?_ ?_ events paired
  · intro op active
    simp [macInit] at active
  · intro h s e before condition
    refine ⟨macStep_activeByPermittedSetup before e, ?_⟩
    intro success
    obtain ⟨env, call⟩ := e
    cases call with
    | signFinish op mac null =>
      have active := macCall_finish_active success (.inl ⟨op, mac, null, rfl⟩)
      obtain ⟨setup, made, sign | ⟨key, alg, verify, -⟩⟩ := before op active
      · exact ⟨setup, made, sign⟩
      · exact absurd verify (condition setup made key alg)
    | verifyFinish op mac =>
      have active := macCall_finish_active success (.inr ⟨op, mac, rfl⟩)
      obtain ⟨setup, made, ⟨key, alg, sign, -⟩ | verify⟩ := before op active
      · exact absurd sign (condition setup made key alg)
      · exact ⟨setup, made, verify⟩
    | _ => trivial

/-! ## The unpaired run -/

/-- The key bytes `00 01 .. 0f`. -/
def sampleMacKey : Bytes := (List.range 16).map (BitVec.ofNat 8)

/-- HMAC-SHA-256 of the empty message under `sampleMacKey`. -/
def sampleMac : Bytes :=
  [0x07, 0xef, 0xf8, 0xb3, 0x26, 0xb7, 0x79, 0x8c,
    0x9c, 0xcf, 0xcb, 0xdb, 0xe5, 0x79, 0x48, 0x9a,
    0xc7, 0x85, 0xa7, 0x99, 0x5a, 0x04, 0x61, 0x8b,
    0x1a, 0x28, 0x13, 0xc2, 0x67, 0x44, 0x77, 0x7d]

/-- HMAC restricted to the inputs of the runs below; a context holds key and message. -/
def sampleWcMac : WcMac (Bytes × Bytes) Unit where
  hmacInit := .ok ([], [])
  hmacSetKey := fun _ _ key => .ok (key, [])
  hmacUpdate := fun h input => .ok (h.1, h.2 ++ input)
  hmacFinal := fun h => if h == (sampleMacKey, []) then .ok sampleMac else .error .other
  initCmac := fun _ => .error .other
  cmacUpdate := fun _ _ => .error .other
  cmacFinal := fun _ _ => .error .other

/-- A stored HMAC-SHA-256 key with the given usage flags. -/
def sampleMacEnv (usage : KeyUsage) : MacEnv (Bytes × Bytes) Unit where
  getKeyData := fun _ => .ok (⟨psaKeyTypeHmac, 128, psaKeyLifetimeVolatile, usage,
    psaAlgHmac psaAlgSha256, psaAlgNone, psaKeyIdVendorMin⟩, sampleMacKey)
  ctxAlloc := true
  wc := sampleWcMac

/-- A signing key set up and finished for signing. -/
def signThenSign : List (MacEvent (Bytes × Bytes) Unit) :=
  let env := sampleMacEnv psaKeyUsageSignMessage
  [⟨env, .signSetup 0 psaKeyIdVendorMin (psaAlgHmac psaAlgSha256)⟩,
    ⟨env, .signFinish 0 ⟨false, 32⟩ false⟩]

theorem mac_finish_respects_setup_sign :
    Throughout FinishRespectsSetup (run macStep macInit signThenSign).1 := by
  refine mac_finish_respects_setup signThenSign ?_
  refine throughout_cons.mpr ⟨?_, throughout_cons.mpr ⟨trivial, throughout_nil _⟩⟩
  intro setup made key alg
  cases made
  simp

/-- A key that may only verify, set up for verification and finished for signing. -/
def verifyThenSign : List (MacEvent (Bytes × Bytes) Unit) :=
  let env := sampleMacEnv psaKeyUsageVerifyMessage
  [⟨env, .verifySetup 0 psaKeyIdVendorMin (psaAlgHmac psaAlgSha256)⟩,
    ⟨env, .signFinish 0 ⟨false, 32⟩ false⟩]

/-- Both calls succeed and the second returns the MAC. -/
theorem verify_only_key_releases_mac :
    (run macStep macInit verifyThenSign).1.map Prod.snd =
        [⟨.success, sampleMac⟩, ⟨.success, []⟩] ∧
      hasUsage psaKeyUsageVerifyMessage psaKeyUsageSignMessage = false ∧
      ¬ Throughout FinishRespectsSetup (run macStep macInit verifyThenSign).1 := by
  refine ⟨by decide, by decide, ?_⟩
  intro respected
  obtain ⟨setup, made, key, alg, sign, -⟩ := (throughout_cons.mp respected).1 (by decide)
  cases made
  cases sign

end WolfPSA.Guarantees
