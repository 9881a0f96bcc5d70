import WolfPSA.Lib.Trace
import WolfPSA.Source.Cipher

/-!
# The IV of a cipher operation

What the calls on an operation and their statuses say about its IV, over every run: an algorithm that
needs an IV gets exactly one before its first byte of data, the others get none. Every branch of
`psa_cipher_update` asks for the IV; of `psa_cipher_finish` only the padding branch does, so an
operation that has seen no data can be finished without one.
-/

namespace WolfPSA.Guarantees
open Lib Source

variable {Aes Des3 ChaCha : Type}

abbrev CipherHistory (Aes Des3 ChaCha : Type) := History (CipherEvent Aes Des3 ChaCha) CipherResult

/-! ## What the calls say -/

/-- An operation as its calls and their statuses tell it: the setup, how many IVs were accepted since,
and whether data was accepted before one was. -/
structure CipherSession where
  alg : Algorithm
  direction : CipherDirection
  ivs : Nat
  dataWithoutIv : Bool

/-- What a successful call adds. -/
def CipherSession.after (session : Option CipherSession) : CipherCall → Option CipherSession
  | .encryptSetup _ _ alg => some ⟨alg, .encryption, 0, false⟩
  | .decryptSetup _ _ alg => some ⟨alg, .decryption, 0, false⟩
  | .setIv _ _ | .generateIv _ _ _ => session.map fun g => { g with ivs := g.ivs + 1 }
  | .update _ input _ _ _ =>
    if input.length = 0 then session
    else session.map fun g => { g with dataWithoutIv := g.dataWithoutIv || g.ivs == 0 }
  | .finish _ _ _ | .abort _ => session

/-- The session on operation `op` since its last successful setup. -/
def cipherSession (op : Nat) : CipherHistory Aes Des3 ChaCha → Option CipherSession
  | [] => none
  | (e, r) :: older =>
    if e.call.op = op ∧ r.status = .success then
      CipherSession.after (cipherSession op older) e.call
    else cipherSession op older

/-- The session has exactly one IV, and it came before every byte of data, if its algorithm needs
one. -/
def CipherSession.HasItsIv (session : CipherSession) : Prop :=
  algNeedsIv session.alg = true → session.ivs = 1 ∧ session.dataWithoutIv = false

/-- What a successful call tells about the session before it. -/
def IvDiscipline (older : CipherHistory Aes Des3 ChaCha) (e : CipherEvent Aes Des3 ChaCha)
    (r : CipherResult) : Prop :=
  r.status = .success →
    match e.call with
    | .finish op _ _ => ∃ session, cipherSession op older = some session ∧ session.HasItsIv
    | .update op input _ _ _ => input.length > 0 →
        ∃ session, cipherSession op older = some session ∧ session.HasItsIv
    | .setIv op _ => ∃ session, cipherSession op older = some session ∧
        algNeedsIv session.alg = true
    | .generateIv op _ _ => ∃ session, cipherSession op older = some session ∧
        algNeedsIv session.alg = true ∧ session.direction = .encryption
    | _ => True

/-- The caller finishes an active operation that still lacks its IV, past the checks that
`psa_cipher_finish` makes. -/
def FinishesWithoutIv (s : CipherState Aes Des3 ChaCha) : CipherCall → Prop
  | .finish op output outputLengthNull =>
    outputLengthNull = false ∧ (output.isNull && decide (output.size > 0)) = false ∧
      ∃ ctx, s op = some ctx ∧ algNeedsIv ctx.alg = true ∧ ctx.alg ≠ psaAlgCbcPkcs7 ∧
        ctx.ivSet = false
  | _ => False

/-! ## The flags of a context -/

/-- The flags of an active operation say what its calls say. -/
structure FlagsTell (session : CipherSession) (ctx : CipherCtx Aes Des3 ChaCha) : Prop where
  alg : session.alg = ctx.alg
  direction : session.direction = ctx.direction
  attempted : ctx.ivAttempted = ctx.ivSet
  ivs : session.ivs = if ctx.ivSet then 1 else 0
  ordered : algNeedsIv ctx.alg = true → session.dataWithoutIv = false
  empty : algNeedsIv ctx.alg = true → ctx.ivSet = false → ctx.partialBlock = []

def SessionsTold (h : CipherHistory Aes Des3 ChaCha) (s : CipherState Aes Des3 ChaCha) : Prop :=
  ∀ op ctx, s op = some ctx → ∃ session, cipherSession op h = some session ∧ FlagsTell session ctx

section

variable {ctx ctx' : CipherCtx Aes Des3 ChaCha} {session : CipherSession}

theorem FlagsTell.hasItsIv (tells : FlagsTell session ctx) (given : ctx.ivSet = true) :
    session.HasItsIv := by
  intro needs
  rw [tells.alg] at needs
  refine ⟨?_, tells.ordered needs⟩
  rw [tells.ivs, given]
  rfl

private theorem flagsTell_setup {env : CipherEnv Aes Des3 ChaCha} {key : KeyId} {alg : Algorithm}
    {usage : KeyUsage} {direction : CipherDirection}
    (granted : cipherSetupCtx env key alg usage direction = .ok ctx) :
    FlagsTell ⟨alg, direction, 0, false⟩ ctx := by
  obtain ⟨attributes, -, -, -, ⟨_, _, _, _, made⟩, nothing⟩ := cipherSetupCtx_ok granted
  rw [made]
  rw [made] at nothing
  exact ⟨rfl, rfl, rfl, rfl, fun _ => rfl, fun _ _ => nothing⟩

private theorem FlagsTell.setIv {wc : WcCipher Aes Des3 ChaCha} {iv : InBuf}
    (tells : FlagsTell session ctx) (accepted : wolfpsaCipherSetIv wc ctx iv = .ok ctx') :
    FlagsTell { session with ivs := session.ivs + 1 } ctx' := by
  obtain ⟨fresh, needs, _, _, _, _, rfl⟩ := wolfpsaCipherSetIv_ok accepted
  have unset : ctx.ivSet = false := by rw [← tells.attempted, fresh]
  have none : session.ivs = 0 := by
    rw [tells.ivs, unset]
    rfl
  refine ⟨tells.alg, tells.direction, rfl, ?_, tells.ordered, nofun⟩
  simp [none]

private theorem FlagsTell.feed (tells : FlagsTell session ctx) (feeds : FeedsOnly ctx ctx')
    (given : algNeedsIv ctx.alg = true → ctx.ivSet = true) :
    FlagsTell { session with dataWithoutIv := session.dataWithoutIv || session.ivs == 0 } ctx' := by
  obtain ⟨_, _, _, _, rfl⟩ := feeds
  refine ⟨tells.alg, tells.direction, tells.attempted, tells.ivs, fun needs => ?_,
    fun needs unset => ?_⟩
  · have one : session.ivs = 1 := by
      rw [tells.ivs, given needs]
      rfl
    simp [tells.ordered needs, one]
  · rw [given needs] at unset
    cases unset

end

/-! ## One call -/

section

variable {h : CipherHistory Aes Des3 ChaCha} {s : CipherState Aes Des3 ChaCha}

private theorem cipherSession_success {e : CipherEvent Aes Des3 ChaCha} {r : CipherResult}
    (success : r.status = .success) :
    cipherSession e.call.op ((e, r) :: h) =
      CipherSession.after (cipherSession e.call.op h) e.call := by
  show (if _ then _ else _) = _
  rw [if_pos ⟨rfl, success⟩]

private theorem cipherEnds_success
    {result : Except Failure (Bytes × Option (CipherCtx Aes Des3 ChaCha))}
    (success : (cipherEnds result).1.status = .success) : ∃ value, result = .ok value := by
  match result with
  | .error status => exact absurd success status.property
  | .ok value => exact ⟨value, rfl⟩

/-- The operation a call leaves active is told by the history with the call on top. -/
private theorem told_call (told : SessionsTold h s) (e : CipherEvent Aes Des3 ChaCha)
    {ctx' : CipherCtx Aes Des3 ChaCha} (active : (cipherCall e.env (s e.call.op) e.call).2 = some ctx') :
    ∃ session, cipherSession e.call.op ((e, (cipherCall e.env (s e.call.op) e.call).1) :: h) =
      some session ∧ FlagsTell session ctx' := by
  obtain ⟨env, call⟩ := e
  have refused {r : CipherResult} (failed : r.status ≠ .success) :
      cipherSession call.op ((⟨env, call⟩, r) :: h) = cipherSession call.op h := by
    show (if _ then _ else _) = _
    rw [if_neg fun both => failed both.2]
  have setup {key : KeyId} {alg : Algorithm} {usage : KeyUsage} {direction : CipherDirection}
      (active : (cipherSetup env (s call.op) key alg usage direction).2 = some ctx')
      (told' : CipherSession.after (cipherSession call.op h) call = some ⟨alg, direction, 0, false⟩) :
      ∃ session, cipherSession call.op ((⟨env, call⟩,
        ⟨(cipherSetup env (s call.op) key alg usage direction).1, []⟩) :: h) = some session ∧
          FlagsTell session ctx' := by
    unfold cipherSetup at active ⊢
    cases before : s call.op with
    | some ctx =>
      rw [before] at active
      cases active
      rw [refused (by simp)]
      exact told _ _ before
    | none =>
      rw [before] at active
      dsimp only at active ⊢
      cases granted : cipherSetupCtx env key alg usage direction with
      | error status =>
        rw [granted] at active
        cases active
      | ok ctx =>
        rw [granted] at active
        cases active
        exact ⟨_, (cipherSession_success rfl).trans told', flagsTell_setup granted⟩
  cases call with
  | encryptSetup op key alg => exact setup active rfl
  | decryptSetup op key alg => exact setup active rfl
  | setIv op iv =>
    dsimp only [cipherCall, CipherCall.op] at active ⊢
    cases before : s op with
    | none =>
      rw [before] at active
      cases active
    | some ctx =>
      rw [before] at active
      obtain ⟨session, found, tells⟩ := told op ctx before
      unfold psaCipherSetIv at active ⊢
      dsimp only at active ⊢
      cases accepted : wolfpsaCipherSetIv env.wc ctx iv with
      | error status =>
        rw [accepted] at active
        cases active
      | ok moved =>
        rw [accepted] at active
        cases active
        refine ⟨_, (cipherSession_success rfl).trans ?_, tells.setIv accepted⟩
        show (cipherSession op h).map _ = _
        rw [found]
        rfl
  | generateIv op iv ivLengthNull =>
    dsimp only [cipherCall, CipherCall.op] at active ⊢
    cases before : s op with
    | none =>
      rw [before] at active
      cases active
    | some ctx =>
      rw [before] at active
      obtain ⟨session, found, tells⟩ := told op ctx before
      obtain ⟨success, output, result⟩ := cipherEnds_some active
      obtain ⟨⟨bytes, moved⟩, generated, ended⟩ := except_bind_ok result
      cases ended
      refine ⟨_, (cipherSession_success success).trans ?_,
        tells.setIv (wolfpsaCipherGenerateIv_ok generated).2⟩
      show (cipherSession op h).map _ = _
      rw [found]
      rfl
  | update op input output overlap outputLengthNull =>
    dsimp only [cipherCall, CipherCall.op] at active ⊢
    unfold psaCipherUpdate at active ⊢
    cases outputLengthNull with
    | true => cases active
    | false =>
      cases before : s op with
      | none =>
        rw [before] at active
        cases active
      | some ctx =>
        rw [before] at active
        obtain ⟨session, found, tells⟩ := told op ctx before
        obtain ⟨success, output, result⟩ := cipherEnds_some active
        obtain ⟨⟨bytes, moved⟩, updated, ended⟩ := except_bind_ok result
        cases ended
        rcases cipherUpdate_ok updated with ⟨empty, rfl, rfl⟩ | ⟨some, fed⟩
        · refine ⟨session, (cipherSession_success success).trans ?_, tells⟩
          show (if input.length = 0 then _ else _) = _
          rw [if_pos empty]
          exact found
        · obtain ⟨feeds, given⟩ := updateInput_ok fed
          refine ⟨_, (cipherSession_success success).trans ?_, tells.feed feeds given⟩
          show (if input.length = 0 then _ else (cipherSession op h).map _) = _
          rw [if_neg (by omega), found]
          rfl
  | finish op output outputLengthNull =>
    dsimp only [cipherCall, CipherCall.op] at active
    unfold psaCipherFinish at active
    cases outputLengthNull with
    | true => cases active
    | false =>
      cases before : s op with
      | none =>
        rw [before] at active
        cases active
      | some ctx =>
        rw [before] at active
        obtain ⟨-, output, result⟩ := cipherEnds_some active
        obtain ⟨bytes, -, ended⟩ := except_bind_ok result
        cases ended
  | abort op => cases active

/-- Every call keeps the flags of all operations true to their calls. -/
theorem sessionsTold_step (told : SessionsTold h s) (e : CipherEvent Aes Des3 ChaCha) :
    SessionsTold ((e, (cipherStep s e).1) :: h) (cipherStep s e).2 := by
  intro op ctx active
  unfold cipherStep at active ⊢
  dsimp only at active ⊢
  by_cases same : op = e.call.op
  · subst same
    rw [Function.update_self] at active
    exact told_call told e active
  · rw [Function.update_of_ne same] at active
    obtain ⟨session, found, tells⟩ := told op ctx active
    refine ⟨session, ?_, tells⟩
    show (if _ then _ else _) = _
    rw [if_neg fun both => same both.1.symm]
    exact found

/-- `psa_cipher_finish` succeeds with the IV the algorithm needs, or on an operation without data for
which it does not ask. -/
private theorem finish_iff (told : SessionsTold h s) (env : CipherEnv Aes Des3 ChaCha) (op : Nat)
    (output : OutBuf) (outputLengthNull : Bool) :
    IvDiscipline h ⟨env, .finish op output outputLengthNull⟩
        (psaCipherFinish env (s op) output outputLengthNull).1 ↔
      ¬FinishesWithoutIv s (.finish op output outputLengthNull) := by
  show (_ → ∃ session, cipherSession op h = some session ∧ session.HasItsIv) ↔
    ¬(outputLengthNull = false ∧ (output.isNull && decide (output.size > 0)) = false ∧ _)
  unfold psaCipherFinish
  cases outputLengthNull with
  | true =>
    constructor
    · rintro - ⟨absent, -⟩
      cases absent
    · intro _ success
      cases success
  | false =>
    cases before : s op with
    | none =>
      refine ⟨fun _ early => ?_, fun _ success => by cases success⟩
      obtain ⟨-, -, ctx, active, -⟩ := early
      cases active
    | some ctx =>
      obtain ⟨session, found, tells⟩ := told op ctx before
      constructor
      · rintro discipline ⟨-, readable, ctx', same, needs, unpadded, unset⟩
        cases same
        have nothing := tells.empty needs unset
        have finished : cipherFinish env.wc ctx output = .ok [] := by
          unfold cipherFinish
          rw [readable, if_neg unpadded, nothing]
          simp [require]
          rfl
        obtain ⟨session', found', has⟩ := discipline (by
          show (cipherEnds _).1.status = .success
          rw [finished]
          rfl)
        rw [found] at found'
        cases found'
        obtain ⟨one, -⟩ := has (tells.alg ▸ needs)
        rw [tells.ivs, unset] at one
        cases one
      · intro timely success
        obtain ⟨value, result⟩ := cipherEnds_success success
        obtain ⟨bytes, finished, -⟩ := except_bind_ok result
        refine ⟨session, found, fun needs => ?_⟩
        unfold cipherFinish at finished
        obtain ⟨_, readable, finished⟩ := except_bind_ok finished
        have given : ctx.ivSet = true := by
          by_cases padded : ctx.alg = psaAlgCbcPkcs7
          · rw [if_pos padded] at finished
            obtain ⟨_, given, -⟩ := except_bind_ok finished
            exact require_ok_iff.mp given
          · by_contra unset
            refine timely ⟨rfl, ?_, ctx, rfl, tells.alg ▸ needs, padded, by simpa using unset⟩
            have fits := require_ok_iff.mp readable
            rwa [Bool.not_eq_true'] at fits
        exact tells.hasItsIv given needs

/-- In a told state a call breaks the discipline only by finishing without the IV. -/
theorem ivDiscipline_iff (told : SessionsTold h s) (e : CipherEvent Aes Des3 ChaCha) :
    IvDiscipline h e (cipherStep s e).1 ↔ ¬FinishesWithoutIv s e.call := by
  obtain ⟨env, call⟩ := e
  cases call with
  | encryptSetup op key alg => exact ⟨fun _ => id, fun _ _ => trivial⟩
  | decryptSetup op key alg => exact ⟨fun _ => id, fun _ _ => trivial⟩
  | abort op => exact ⟨fun _ => id, fun _ _ => trivial⟩
  | setIv op iv =>
    refine ⟨fun _ => id, fun _ success => ?_⟩
    replace success : (psaCipherSetIv env (s op) iv).1 = .success := success
    unfold psaCipherSetIv at success
    cases before : s op with
    | none =>
      rw [before] at success
      cases success
    | some ctx =>
      rw [before] at success
      obtain ⟨session, found, tells⟩ := told op ctx before
      dsimp only at success
      cases accepted : wolfpsaCipherSetIv env.wc ctx iv with
      | error status =>
        rw [accepted] at success
        exact absurd success status.property
      | ok moved =>
        refine ⟨session, found, ?_⟩
        rw [tells.alg]
        exact (wolfpsaCipherSetIv_ok accepted).2.1
  | generateIv op iv ivLengthNull =>
    refine ⟨fun _ => id, fun _ success => ?_⟩
    replace success : (psaCipherGenerateIv env (s op) iv ivLengthNull).1.status = .success := success
    unfold psaCipherGenerateIv at success
    cases before : s op with
    | none =>
      rw [before] at success
      cases success
    | some ctx =>
      rw [before] at success
      obtain ⟨session, found, tells⟩ := told op ctx before
      obtain ⟨value, result⟩ := cipherEnds_success success
      obtain ⟨⟨bytes, moved⟩, generated, -⟩ := except_bind_ok result
      obtain ⟨encrypts, accepted⟩ := wolfpsaCipherGenerateIv_ok generated
      refine ⟨session, found, ?_, tells.direction.trans encrypts⟩
      rw [tells.alg]
      exact (wolfpsaCipherSetIv_ok accepted).2.1
  | update op input output overlap outputLengthNull =>
    refine ⟨fun _ => id, fun _ success some => ?_⟩
    replace success : (psaCipherUpdate env (s op) input output overlap outputLengthNull).1.status =
      .success := success
    unfold psaCipherUpdate at success
    cases outputLengthNull with
    | true => cases success
    | false =>
      cases before : s op with
      | none =>
        rw [before] at success
        cases success
      | some ctx =>
        rw [before] at success
        obtain ⟨session, found, tells⟩ := told op ctx before
        obtain ⟨value, result⟩ := cipherEnds_success success
        obtain ⟨⟨bytes, moved⟩, updated, -⟩ := except_bind_ok result
        refine ⟨session, found, fun needs => ?_⟩
        rcases cipherUpdate_ok updated with ⟨empty, -, -⟩ | ⟨-, fed⟩
        · omega
        · rw [tells.alg] at needs
          exact tells.hasItsIv ((updateInput_ok fed).2 needs) (tells.alg ▸ needs)
  | finish op output outputLengthNull => exact finish_iff told env op output outputLengthNull

end

theorem sessionsTold_run (es : List (CipherEvent Aes Des3 ChaCha)) :
    SessionsTold (run cipherStep cipherInit es).1 (run cipherStep cipherInit es).2 :=
  run_invariant SessionsTold (fun _ _ active => by cases active)
    (fun _ _ e told => sessionsTold_step told e) es

/-- In every run of cipher calls, on any number of operations, every call keeps the IV discipline if
and only if no operation is finished while it lacks its IV. -/
theorem iv_discipline_iff (es : List (CipherEvent Aes Des3 ChaCha)) :
    (∀ before e after, es = before ++ e :: after →
      IvDiscipline (run cipherStep cipherInit before).1 e
        (cipherStep (run cipherStep cipherInit before).2 e).1) ↔
    ∀ before e after, es = before ++ e :: after →
      ¬FinishesWithoutIv (run cipherStep cipherInit before).2 e.call := by
  constructor
  · intro disciplined before e after split
    exact (ivDiscipline_iff (sessionsTold_run before) e).mp (disciplined before e after split)
  · intro timely before e after split
    exact (ivDiscipline_iff (sessionsTold_run before) e).mpr (timely before e after split)

/-! ## An operation finished without its IV -/

/-- wolfCrypt calls that all succeed and copy their input; the objects carry nothing. -/
def copyBlocks : BlockCalls Unit :=
  ⟨fun _ _ => .ok (), fun _ input => .ok (input, ()), fun _ input => .ok (input, ()),
    fun _ input => .ok (input, ()), fun _ input => .ok (input, ())⟩

def copyCipher : WcCipher Unit Unit Unit where
  aesZero := ()
  des3Zero := ()
  chachaZero := ()
  aesInit := .ok ()
  aesSetKey _ _ _ _ := .ok ()
  aesCtrSetKey _ _ _ _ := .ok ()
  aes := copyBlocks
  aesCtrEncrypt _ input := .ok (input, ())
  aesCfbEncrypt _ input := .ok (input, ())
  aesCfbDecrypt _ input := .ok (input, ())
  aesOfbEncrypt _ input := .ok (input, ())
  aesOfbDecrypt _ input := .ok (input, ())
  des3Init := .ok ()
  des3SetKey _ _ _ _ := .ok ()
  des3 := copyBlocks
  chachaSetKey _ _ := .ok ()
  chachaSetIV _ _ := .ok ()
  chachaProcess _ input := .ok (input, ())

/-- An AES key for CBC without padding. -/
def cbcKeyEnv : CipherEnv Unit Unit Unit where
  getKeyData _ := .ok (⟨psaKeyTypeAes, 128, psaKeyLifetimeVolatile, psaKeyUsageEncrypt,
    psaAlgCbcNoPadding, psaAlgNone, 1⟩, List.replicate 16 0)
  ctxAlloc := true
  random := .ok fun _ => 0
  wc := copyCipher

/-- Setup and finish, with nothing between. -/
def setupThenFinish : List (CipherEvent Unit Unit Unit) :=
  [⟨cbcKeyEnv, .encryptSetup 0 1 psaAlgCbcNoPadding⟩, ⟨cbcKeyEnv, .finish 0 ⟨false, 16⟩ false⟩]

theorem cbc_finishes_without_iv :
    ¬∀ before e after, setupThenFinish = before ++ e :: after →
      IvDiscipline (run cipherStep cipherInit before).1 e
        (cipherStep (run cipherStep cipherInit before).2 e).1 := by
  intro disciplined
  obtain ⟨session, found, has⟩ :=
    disciplined (setupThenFinish.take 1) ⟨cbcKeyEnv, .finish 0 ⟨false, 16⟩ false⟩ [] rfl rfl
  have fresh : cipherSession 0 (run cipherStep cipherInit (setupThenFinish.take 1)).1 =
    some ⟨psaAlgCbcNoPadding, .encryption, 0, false⟩ := rfl
  rw [fresh] at found
  cases found
  exact absurd (has rfl).1 (by decide)

end WolfPSA.Guarantees
