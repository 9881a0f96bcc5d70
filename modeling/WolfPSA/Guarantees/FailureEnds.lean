import WolfPSA.Lib.Handles
import WolfPSA.Lib.Trace
import WolfPSA.Source.Cipher
import WolfPSA.Source.Hash
import WolfPSA.Source.Xof

/-!
# Failed calls end their operation

Each of the four multipart interfaces aborts the operation when a call fails: its error returns go
through a helper that does. Three returns do not: the NULL checks of `psa_hash_verify` and
`psa_mac_verify_finish`, and the check of `psa_hash_clone` on an active target. On an inactive operation
some NULL checks come before the state check, so that a malformed call is refused for its arguments.
-/

namespace WolfPSA.Guarantees
open Lib Source

/-! ## MAC operations -/

section

variable {Hmac Cmac : Type}

/-- The calls that work on an operation. -/
def macWorks : MacCall → Bool
  | .update _ _ | .signFinish _ _ _ | .verifyFinish _ _ => true
  | .signSetup _ _ _ | .verifySetup _ _ _ | .abort _ => false

def macStarts : MacCall → Bool
  | .signSetup _ _ _ | .verifySetup _ _ _ => true
  | .update _ _ | .signFinish _ _ _ | .verifyFinish _ _ | .abort _ => false

def macCalls : HandleCalls (MacState Hmac Cmac) (MacEvent Hmac Cmac) MacResult :=
  .ofObjects (·.call.op) (fun s e => macCall e.env (s e.call.op) e.call) (macWorks ·.call)
    (fun e op => e.call.op = op ∧ macWorks e.call = true) (macStarts ·.call) (·.status ≠ .success)
    (· = ⟨.badState, []⟩)

/-- The caller does not verify an active operation against a NULL pointer. -/
def MacCallSound (s : MacState Hmac Cmac) (e : MacEvent Hmac Cmac) : Prop :=
  match e.call with
  | .verifyFinish op mac => s op ≠ none → mac.isNull = false
  | _ => True

private theorem psaMacUpdate_ends {env : MacEnv Hmac Cmac} {operation : Option (MacCtx Hmac Cmac)}
    {input : InBuf} (failed : (psaMacUpdate env operation input).1 ≠ .success) :
    (psaMacUpdate env operation input).2 = none := by
  unfold psaMacUpdate at failed ⊢
  cases operation with
  | none => rfl
  | some ctx =>
    dsimp only at failed ⊢
    split_ifs at failed ⊢
    · rfl
    · rfl
    · exact absurd rfl failed
    · cases kind : ctx.underlying with
      | none => rfl
      | hmac h =>
        rw [kind] at failed
        dsimp only at failed ⊢
        cases moved : env.wc.hmacUpdate h input.bytes with
        | error e => rfl
        | ok h' =>
          rw [moved] at failed
          exact absurd rfl failed
      | cmac c =>
        rw [kind] at failed
        dsimp only at failed ⊢
        cases moved : env.wc.cmacUpdate c input.bytes with
        | error e => rfl
        | ok c' =>
          rw [moved] at failed
          exact absurd rfl failed

private theorem psaMacSignFinish_ends (env : MacEnv Hmac Cmac) (operation : Option (MacCtx Hmac Cmac))
    (mac : OutBuf) (macLengthNull : Bool) :
    (psaMacSignFinish env operation mac macLengthNull).2 = none := by
  unfold psaMacSignFinish
  cases operation with
  | none => rfl
  | some ctx =>
    dsimp only
    split <;> rfl

private theorem psaMacVerifyFinish_ends (env : MacEnv Hmac Cmac)
    (operation : Option (MacCtx Hmac Cmac)) {mac : InBuf} (present : operation ≠ none → mac.isNull = false) :
    (psaMacVerifyFinish env operation mac).2 = none := by
  unfold psaMacVerifyFinish
  cases operation with
  | none => rfl
  | some ctx =>
    cases mac with
    | null length => exact absurd (present nofun) nofun
    | data expected =>
      dsimp only
      split
      · rfl
      split
      · rfl
      split
      · rfl
      · simp only [apply_ite Prod.snd, ite_self]

private theorem macCalls_endsOnFailure :
    (macCalls : HandleCalls (MacState Hmac Cmac) (MacEvent Hmac Cmac) MacResult).EndsOnFailure
      MacCallSound := by
  refine HandleCalls.ofObjects_endsOnFailure (fun {s e} sound works active failed => ?_)
    (fun {s e} inactive unstarted => ?_) (fun {s e op} sound inactive asked => ?_)
  · obtain ⟨env, call⟩ := e
    cases call with
    | update op input => exact psaMacUpdate_ends failed
    | signFinish op mac macLengthNull => exact psaMacSignFinish_ends _ _ _ _
    | verifyFinish op mac => exact psaMacVerifyFinish_ends _ _ sound
    | signSetup op key alg => cases works
    | verifySetup op key alg => cases works
    | abort op => cases works
  · obtain ⟨env, call⟩ := e
    have setup {key : KeyId} {alg : Algorithm} {usage : KeyUsage}
        (failed : ¬(wolfpsaMacSetup env none key alg usage).1 ≠ .success → False) :
        (wolfpsaMacSetup env none key alg usage).2 = none := by
      unfold wolfpsaMacSetup at failed ⊢
      dsimp only at failed ⊢
      cases made : macSetupCtx env key alg usage with
      | error status => rfl
      | ok ctx =>
        rw [made] at failed
        exact (failed (not_not_intro rfl)).elim
    dsimp only at inactive unstarted ⊢
    rw [inactive] at unstarted ⊢
    cases call with
    | update op input => rfl
    | signFinish op mac macLengthNull => rfl
    | verifyFinish op mac => rfl
    | signSetup op key alg => exact setup fun succeeded => unstarted ⟨rfl, succeeded⟩
    | verifySetup op key alg => exact setup fun succeeded => unstarted ⟨rfl, succeeded⟩
    | abort op => rfl
  · obtain ⟨env, call⟩ := e
    obtain ⟨rfl, works⟩ := asked
    dsimp only at inactive ⊢
    rw [inactive]
    cases call with
    | update op input => rfl
    | signFinish op mac macLengthNull => rfl
    | verifyFinish op mac => rfl
    | signSetup op key alg => cases works
    | verifySetup op key alg => cases works
    | abort op => cases works

end

/-! ## Hash operations -/

section

variable {Obj : Type}

def hashWorks : Source.HashCall → Bool
  | .update _ _ | .finish _ _ _ | .verify _ _ | .clone _ _ => true
  | .setup _ _ | .abort _ => false

/-- A clone starts its target. -/
def hashStarts : Source.HashCall → Bool
  | .setup _ _ | .clone _ _ => true
  | .update _ _ | .finish _ _ _ | .verify _ _ | .abort _ => false

/-- The calls that use an operation; a clone uses its source. -/
def hashUses (call : Source.HashCall) (op : Nat) : Prop :=
  match call with
  | .update o _ | .finish o _ _ | .verify o _ | .clone o _ => o = op
  | .setup _ _ | .abort _ => False

def hashCalls : HandleCalls (HashState Obj) (HashEvent Obj) HashResult :=
  .ofObjects (·.call.op) (fun s e => hashCall e.env s e.call) (hashWorks ·.call)
    (fun e op => hashUses e.call op) (hashStarts ·.call) (·.status ≠ .success) (· = ⟨.badState, []⟩)

/-- The caller does not verify against a NULL pointer with a length, does not clone onto an active
operation, and passes the pointers a call needs to an inactive operation. -/
def HashCallSound (s : HashState Obj) (e : HashEvent Obj) : Prop :=
  match e.call with
  | .update op input => s op = none → (input.isNull && decide (input.length > 0)) = false
  | .finish op hash hashLengthNull =>
    s op = none → (hashLengthNull || (hash.isNull && hash.size != 0)) = false
  | .verify _ hash => (hash.isNull && hash.length != 0) = false
  | .clone _ target => s target = none
  | .setup _ _ | .abort _ => True

private theorem psaHashUpdate_ends {env : HashEnv Obj} {operation : Option (HashCtx Obj)}
    {input : InBuf} (failed : (psaHashUpdate env operation input).1 ≠ .success) :
    (psaHashUpdate env operation input).2 = none := by
  unfold psaHashUpdate at failed ⊢
  split at failed
  · rename_i null
    rw [if_pos null]
  · rename_i present
    rw [if_neg present]
    cases operation with
    | none => rfl
    | some ctx =>
      dsimp only at failed ⊢
      cases updated : hashUpdate env.wc ctx input with
      | error status => rfl
      | ok ctx' =>
        rw [updated] at failed
        exact absurd rfl failed

private theorem psaHashFinish_ends (env : HashEnv Obj) (operation : Option (HashCtx Obj))
    (hash : OutBuf) (hashLengthNull : Bool) :
    (psaHashFinish env operation hash hashLengthNull).2 = none := by
  unfold psaHashFinish
  split
  · rfl
  · cases operation with
    | none => rfl
    | some ctx =>
      dsimp only
      split <;> rfl

private theorem psaHashVerify_ends (env : HashEnv Obj) (operation : Option (HashCtx Obj))
    {hash : InBuf} (present : (hash.isNull && hash.length != 0) = false) :
    (psaHashVerify env operation hash).2 = none := by
  unfold psaHashVerify
  rw [present]
  simp only [Bool.false_eq_true, if_false, apply_ite Prod.snd, psaHashFinish_ends, ite_self]

private theorem psaHashVerify_inactive (env : HashEnv Obj) {hash : InBuf}
    (present : (hash.isNull && hash.length != 0) = false) :
    (psaHashVerify env none hash).1 = .badState := by
  unfold psaHashVerify
  rw [present]
  rfl

private theorem psaHashSetup_none {env : HashEnv Obj} {alg : Algorithm}
    (failed : (psaHashSetup env none alg).1 ≠ .success) : (psaHashSetup env none alg).2 = none := by
  unfold psaHashSetup at failed ⊢
  dsimp only at failed ⊢
  split at failed
  · rfl
  · exact absurd rfl failed

private theorem psaHashClone_none {env : HashEnv Obj} {source : Option (HashCtx Obj)}
    (failed : (psaHashClone env source none).1 ≠ .success) :
    (psaHashClone env source none).2 = none := by
  unfold psaHashClone at failed ⊢
  cases source with
  | none => rfl
  | some ctx =>
    dsimp only at failed ⊢
    split at failed
    · rfl
    · exact absurd rfl failed

private theorem hashCalls_endsOnFailure :
    (hashCalls : HandleCalls (HashState Obj) (HashEvent Obj) HashResult).EndsOnFailure
      HashCallSound := by
  refine HandleCalls.ofObjects_endsOnFailure (fun {s e} sound works active failed => ?_)
    (fun {s e} inactive unstarted => ?_) (fun {s e op} sound inactive asked => ?_)
  · obtain ⟨env, call⟩ := e
    cases call with
    | update op input => exact psaHashUpdate_ends failed
    | finish op hash hashLengthNull => exact psaHashFinish_ends _ _ _ _
    | verify op hash => exact psaHashVerify_ends _ _ sound
    | clone source target => exact absurd sound active
    | setup op alg => cases works
    | abort op => cases works
  · obtain ⟨env, call⟩ := e
    cases call with
    | update op input =>
      have idle : s op = none := inactive
      show (psaHashUpdate env (s op) input).2 = none
      rw [idle]
      unfold psaHashUpdate
      split <;> rfl
    | finish op hash hashLengthNull => exact psaHashFinish_ends _ _ _ _
    | verify op hash =>
      have idle : s op = none := inactive
      show (psaHashVerify env (s op) hash).2 = none
      rw [idle]
      cases present : (hash.isNull && hash.length != 0) with
      | true =>
        unfold psaHashVerify
        rw [present]
        rfl
      | false => exact psaHashVerify_ends _ _ present
    | clone source target =>
      have idle : s target = none := inactive
      show (psaHashClone env (s source) (s target)).2 = none
      rw [idle]
      refine psaHashClone_none fun succeeded => unstarted ⟨rfl, not_not_intro ?_⟩
      show (psaHashClone env (s source) (s target)).1 = .success
      rw [idle]
      exact succeeded
    | setup op alg =>
      have idle : s op = none := inactive
      show (psaHashSetup env (s op) alg).2 = none
      rw [idle]
      refine psaHashSetup_none fun succeeded => unstarted ⟨rfl, not_not_intro ?_⟩
      show (psaHashSetup env (s op) alg).1 = .success
      rw [idle]
      exact succeeded
    | abort op => rfl
  · obtain ⟨env, call⟩ := e
    cases call with
    | update o input =>
      have same : o = op := asked
      subst same
      show (⟨(psaHashUpdate env (s o) input).1, []⟩ : HashResult) = _
      unfold psaHashUpdate
      rw [sound inactive, inactive]
      rfl
    | finish o hash hashLengthNull =>
      have same : o = op := asked
      subst same
      show (psaHashFinish env (s o) hash hashLengthNull).1 = _
      unfold psaHashFinish
      rw [sound inactive, inactive]
      rfl
    | verify o hash =>
      have same : o = op := asked
      subst same
      show (⟨(psaHashVerify env (s o) hash).1, []⟩ : HashResult) = _
      rw [inactive, psaHashVerify_inactive env sound]
    | clone source target =>
      have same : source = op := asked
      have idle : s target = none := sound
      subst same
      show (⟨(psaHashClone env (s source) (s target)).1, []⟩ : HashResult) = _
      rw [inactive, idle]
      rfl
    | setup o alg => exact absurd asked id
    | abort o => exact absurd asked id

end

/-! ## XOF operations -/

section

variable {Shake : Type}

def xofWorks : XofCall → Bool
  | .setContext _ | .update _ _ | .output _ _ => true
  | .setup _ _ | .abort _ => false

def xofStarts : XofCall → Bool
  | .setup _ _ => true
  | .setContext _ | .update _ _ | .output _ _ | .abort _ => false

def xofCalls : HandleCalls (XofState Shake) (XofEvent Shake) XofResult :=
  .ofObjects (·.call.op) (fun s e => xofCall e.env (s e.call.op) e.call) (xofWorks ·.call)
    (fun e op => e.call.op = op ∧ xofWorks e.call = true) (xofStarts ·.call) (·.status ≠ .success)
    (· = ⟨.badState, []⟩)

/-- The caller passes the pointers a call needs to an inactive operation. -/
def XofCallSound (s : XofState Shake) (e : XofEvent Shake) : Prop :=
  match e.call with
  | .update op input => s op = none → (input.isNull && decide (input.length > 0)) = false
  | .output op output => s op = none → (output.isNull && decide (output.size > 0)) = false
  | .setup _ _ | .setContext _ | .abort _ => True

private theorem psaXofUpdate_ends {env : XofEnv Shake} {operation : Option (XofCtx Shake)}
    {input : InBuf} (failed : (psaXofUpdate env operation input).1 ≠ .success) :
    (psaXofUpdate env operation input).2 = none := by
  unfold psaXofUpdate at failed ⊢
  split at failed
  · rename_i null
    rw [if_pos null]
  · rename_i present
    rw [if_neg present]
    cases operation with
    | none => rfl
    | some ctx =>
      dsimp only at failed ⊢
      cases updated : xofUpdate env ctx input with
      | error status => rfl
      | ok ctx' =>
        rw [updated] at failed
        exact absurd rfl failed

private theorem psaXofOutput_ends {env : XofEnv Shake} {operation : Option (XofCtx Shake)}
    {output : OutBuf} (failed : (psaXofOutput env operation output).1.status ≠ .success) :
    (psaXofOutput env operation output).2 = none := by
  unfold psaXofOutput at failed ⊢
  split at failed
  · rename_i null
    rw [if_pos null]
  · rename_i present
    rw [if_neg present]
    cases operation with
    | none => rfl
    | some ctx =>
      dsimp only at failed ⊢
      cases served : xofOutput env.wc ctx output.size with
      | error status => rfl
      | ok r =>
        rw [served] at failed
        exact absurd rfl failed

private theorem psaXofSetContext_ends (operation : Option (XofCtx Shake)) :
    (psaXofSetContext operation).2 = none := by
  cases operation <;> rfl

private theorem psaXofSetup_none {env : XofEnv Shake} {alg : Algorithm}
    (failed : (psaXofSetup env none alg).1 ≠ .success) : (psaXofSetup env none alg).2 = none := by
  unfold psaXofSetup at failed ⊢
  dsimp only at failed ⊢
  split at failed
  · rfl
  · exact absurd rfl failed

private theorem xofCalls_endsOnFailure :
    (xofCalls : HandleCalls (XofState Shake) (XofEvent Shake) XofResult).EndsOnFailure
      XofCallSound := by
  refine HandleCalls.ofObjects_endsOnFailure (fun {s e} sound works active failed => ?_)
    (fun {s e} inactive unstarted => ?_) (fun {s e op} sound inactive asked => ?_)
  · obtain ⟨env, call⟩ := e
    cases call with
    | setContext op => exact psaXofSetContext_ends _
    | update op input => exact psaXofUpdate_ends failed
    | output op output => exact psaXofOutput_ends failed
    | setup op alg => cases works
    | abort op => cases works
  · obtain ⟨env, call⟩ := e
    dsimp only at inactive unstarted ⊢
    rw [inactive] at unstarted ⊢
    cases call with
    | setContext op => rfl
    | update op input =>
      show (psaXofUpdate env none input).2 = none
      unfold psaXofUpdate
      split <;> rfl
    | output op output =>
      show (psaXofOutput env none output).2 = none
      unfold psaXofOutput
      split <;> rfl
    | setup op alg =>
      exact psaXofSetup_none fun succeeded => unstarted ⟨rfl, not_not_intro succeeded⟩
    | abort op => rfl
  · obtain ⟨env, call⟩ := e
    obtain ⟨rfl, works⟩ := asked
    dsimp only at inactive ⊢
    cases call with
    | setContext op =>
      rw [inactive]
      rfl
    | update op input =>
      show (⟨(psaXofUpdate env (s op) input).1, []⟩ : XofResult) = _
      unfold psaXofUpdate
      rw [sound inactive, show s op = none from inactive]
      rfl
    | output op output =>
      show (psaXofOutput env (s op) output).1 = _
      unfold psaXofOutput
      rw [sound inactive, show s op = none from inactive]
      rfl
    | setup op alg => cases works
    | abort op => cases works

end

/-! ## Cipher operations -/

section

variable {Aes Des3 ChaCha : Type}

def cipherWorks : CipherCall → Bool
  | .setIv _ _ | .generateIv _ _ _ | .update _ _ _ _ _ | .finish _ _ _ => true
  | .encryptSetup _ _ _ | .decryptSetup _ _ _ | .abort _ => false

def cipherStarts : CipherCall → Bool
  | .encryptSetup _ _ _ | .decryptSetup _ _ _ => true
  | .setIv _ _ | .generateIv _ _ _ | .update _ _ _ _ _ | .finish _ _ _ | .abort _ => false

def cipherCalls :
    HandleCalls (CipherState Aes Des3 ChaCha) (CipherEvent Aes Des3 ChaCha) CipherResult :=
  .ofObjects (·.call.op) (fun s e => cipherCall e.env (s e.call.op) e.call) (cipherWorks ·.call)
    (fun e op => e.call.op = op ∧ cipherWorks e.call = true) (cipherStarts ·.call)
    (·.status ≠ .success) (· = ⟨.badState, []⟩)

/-- The caller passes `output_length` to an inactive operation. -/
def CipherCallSound (s : CipherState Aes Des3 ChaCha) (e : CipherEvent Aes Des3 ChaCha) : Prop :=
  match e.call with
  | .update op _ _ _ outputLengthNull | .finish op _ outputLengthNull =>
    s op = none → outputLengthNull = false
  | _ => True

private theorem cipherEnds_fails
    {result : Except Failure (Bytes × Option (CipherCtx Aes Des3 ChaCha))}
    (failed : (cipherEnds result).1.status ≠ .success) : (cipherEnds result).2 = none := by
  cases result with
  | error status => rfl
  | ok r => exact absurd rfl failed

private theorem psaCipherSetIv_ends {env : CipherEnv Aes Des3 ChaCha}
    {operation : Option (CipherCtx Aes Des3 ChaCha)} {iv : InBuf}
    (failed : (psaCipherSetIv env operation iv).1 ≠ .success) :
    (psaCipherSetIv env operation iv).2 = none := by
  unfold psaCipherSetIv at failed ⊢
  cases operation with
  | none => rfl
  | some ctx =>
    dsimp only at failed ⊢
    cases set : wolfpsaCipherSetIv env.wc ctx iv with
    | error status => rfl
    | ok ctx' =>
      rw [set] at failed
      exact absurd rfl failed

private theorem psaCipherGenerateIv_ends {env : CipherEnv Aes Des3 ChaCha}
    {operation : Option (CipherCtx Aes Des3 ChaCha)} {iv : OutBuf} {ivLengthNull : Bool}
    (failed : (psaCipherGenerateIv env operation iv ivLengthNull).1.status ≠ .success) :
    (psaCipherGenerateIv env operation iv ivLengthNull).2 = none := by
  cases operation with
  | none => rfl
  | some ctx => exact cipherEnds_fails failed

private theorem psaCipherUpdate_ends {env : CipherEnv Aes Des3 ChaCha}
    {operation : Option (CipherCtx Aes Des3 ChaCha)} {input : InBuf} {output : OutBuf}
    {overlap outputLengthNull : Bool}
    (failed : (psaCipherUpdate env operation input output overlap outputLengthNull).1.status ≠ .success) :
    (psaCipherUpdate env operation input output overlap outputLengthNull).2 = none := by
  cases outputLengthNull with
  | true => rfl
  | false =>
    cases operation with
    | none => rfl
    | some ctx => exact cipherEnds_fails failed

private theorem psaCipherFinish_ends (env : CipherEnv Aes Des3 ChaCha)
    (operation : Option (CipherCtx Aes Des3 ChaCha)) (output : OutBuf) (outputLengthNull : Bool) :
    (psaCipherFinish env operation output outputLengthNull).2 = none := by
  cases outputLengthNull with
  | true => rfl
  | false =>
    cases operation with
    | none => rfl
    | some ctx =>
      show (cipherEnds _).2 = none
      cases cipherFinish env.wc ctx output <;> rfl

private theorem cipherSetup_none {env : CipherEnv Aes Des3 ChaCha} {key : KeyId} {alg : Algorithm}
    {usage : KeyUsage} {direction : CipherDirection}
    (failed : (cipherSetup env none key alg usage direction).1 ≠ .success) :
    (cipherSetup env none key alg usage direction).2 = none := by
  unfold cipherSetup at failed ⊢
  dsimp only at failed ⊢
  cases made : cipherSetupCtx env key alg usage direction with
  | error status => rfl
  | ok ctx =>
    rw [made] at failed
    exact absurd rfl failed

private theorem cipherCalls_endsOnFailure :
    (cipherCalls : HandleCalls (CipherState Aes Des3 ChaCha) (CipherEvent Aes Des3 ChaCha)
      CipherResult).EndsOnFailure CipherCallSound := by
  refine HandleCalls.ofObjects_endsOnFailure (fun {s e} sound works active failed => ?_)
    (fun {s e} inactive unstarted => ?_) (fun {s e op} sound inactive asked => ?_)
  · obtain ⟨env, call⟩ := e
    cases call with
    | setIv op iv => exact psaCipherSetIv_ends failed
    | generateIv op iv ivLengthNull => exact psaCipherGenerateIv_ends failed
    | update op input output overlap outputLengthNull => exact psaCipherUpdate_ends failed
    | finish op output outputLengthNull => exact psaCipherFinish_ends _ _ _ _
    | encryptSetup op key alg => cases works
    | decryptSetup op key alg => cases works
    | abort op => cases works
  · obtain ⟨env, call⟩ := e
    dsimp only at inactive unstarted ⊢
    rw [inactive] at unstarted ⊢
    cases call with
    | setIv op iv => rfl
    | generateIv op iv ivLengthNull => rfl
    | update op input output overlap outputLengthNull =>
      cases outputLengthNull <;> rfl
    | finish op output outputLengthNull => exact psaCipherFinish_ends _ _ _ _
    | encryptSetup op key alg =>
      exact cipherSetup_none fun succeeded => unstarted ⟨rfl, not_not_intro succeeded⟩
    | decryptSetup op key alg =>
      exact cipherSetup_none fun succeeded => unstarted ⟨rfl, not_not_intro succeeded⟩
    | abort op => rfl
  · obtain ⟨env, call⟩ := e
    obtain ⟨rfl, works⟩ := asked
    dsimp only at inactive ⊢
    rw [inactive]
    cases call with
    | setIv op iv => rfl
    | generateIv op iv ivLengthNull => rfl
    | update op input output overlap outputLengthNull =>
      rw [show outputLengthNull = false from sound inactive]
      rfl
    | finish op output outputLengthNull =>
      rw [show outputLengthNull = false from sound inactive]
      rfl
    | encryptSetup op key alg => cases works
    | decryptSetup op key alg => cases works
    | abort op => cases works

end

/-! ## The four interfaces -/

/-- In every run of sound calls, a failed call on an active operation ends it: the operation is inactive
and refuses every use with `PSA_ERROR_BAD_STATE` and no data, until a setup, or a clone onto it, succeeds. -/
theorem failed_calls_end_operations {Hmac Cmac Obj Aes Des3 ChaCha Shake : Type} :
    (∀ es : List (MacEvent Hmac Cmac), macCalls.Along MacCallSound macInit es →
      macCalls.FailureEnds macInit es) ∧
    (∀ es : List (HashEvent Obj), hashCalls.Along HashCallSound hashInit es →
      hashCalls.FailureEnds hashInit es) ∧
    (∀ es : List (CipherEvent Aes Des3 ChaCha), cipherCalls.Along CipherCallSound cipherInit es →
      cipherCalls.FailureEnds cipherInit es) ∧
    (∀ es : List (XofEvent Shake), xofCalls.Along XofCallSound xofInit es →
      xofCalls.FailureEnds xofInit es) :=
  ⟨fun _ met => macCalls_endsOnFailure.run met, fun _ met => hashCalls_endsOnFailure.run met,
    fun _ met => cipherCalls_endsOnFailure.run met, fun _ met => xofCalls_endsOnFailure.run met⟩

/-- A hash whose object is the message and whose digest is the message filled up with zeros. -/
def plainHash : WcHash Bytes where
  init _ := .ok []
  update _ message input := .ok (message ++ input)
  final _ message := .ok ((message ++ List.replicate 64 0).take 64)
  copy _ message := .ok message

def plainHashEnv : HashEnv Bytes := ⟨true, true, plainHash⟩

/-- An update without its input, and a finish after it. -/
def updateNullThenFinish : List (HashEvent Bytes) :=
  [⟨plainHashEnv, .setup 0 psaAlgSha256⟩, ⟨plainHashEnv, .update 0 (.null 3)⟩,
    ⟨plainHashEnv, .finish 0 ⟨false, 32⟩ false⟩]

theorem failed_update_ends_hash :
    hashCalls.Along HashCallSound hashInit updateNullThenFinish ∧
      hashCalls.FailureEnds hashInit updateNullThenFinish := by
  have sound : hashCalls.Along HashCallSound hashInit updateNullThenFinish :=
    ⟨trivial, nofun, fun _ => rfl, trivial⟩
  obtain ⟨-, hash, -, -⟩ := @failed_calls_end_operations Unit Unit Bytes Unit Unit Unit Unit
  exact ⟨sound, hash _ sound⟩

/-- A message is hashed and verified against NULL with a length, and then the digest is asked for. -/
def verifyNullThenFinish : List (HashEvent Bytes) :=
  [⟨plainHashEnv, .setup 0 psaAlgSha256⟩, ⟨plainHashEnv, .update 0 (.data [1, 2, 3])⟩,
    ⟨plainHashEnv, .verify 0 (.null 32)⟩, ⟨plainHashEnv, .finish 0 ⟨false, 32⟩ false⟩]

/-- The failed verification leaves the operation active, and the finish returns a digest of the input
before it. -/
theorem verify_null_keeps_operation :
    ¬(∀ es : List (HashEvent Bytes), hashCalls.FailureEnds hashInit es) ∧
      (hashCalls.step (Lib.run hashCalls.step hashInit (verifyNullThenFinish.take 3)).2
        ⟨plainHashEnv, .finish 0 ⟨false, 32⟩ false⟩).1 = ⟨.success, [1, 2, 3] ++ List.replicate 29 0⟩ := by
  refine ⟨fun all => ?_, rfl⟩
  have ended := (all verifyNullThenFinish).2.2.1 0 ⟨rfl, rfl⟩ nofun nofun
  exact ended.1 nofun

end WolfPSA.Guarantees
