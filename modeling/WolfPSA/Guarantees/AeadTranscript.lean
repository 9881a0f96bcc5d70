import WolfPSA.Guarantees.AeadLengths
import WolfPSA.Guarantees.CcmStream

/-!
# Transcripts of AEAD operations

A payload may be buffered and sealed by `psa_aead_finish` in one call, or streamed piece by piece through
GCM, ChaCha20-Poly1305 or the CCM of `psa_aead.c`. Either way the operation stands for one message: what
the history tells of it (`aeadSession`) is what its context holds (`AeadTells`), and a success of
`psa_aead_finish` or `psa_aead_verify` is the one-shot seal of that message.
-/

namespace WolfPSA.Guarantees
open Lib Source

variable {Aes ChaCha : Type}

/-! ## wolfCrypt -/

/-- The primitives, and what a wolfCrypt object stands for: a key, a nonce, additional data and the input
and the output so far. -/
structure AeadMeaning (Aes ChaCha : Type) where
  block : (key : Bytes) → Bytes → Bytes
  gcm : (key nonce aad plaintext : Bytes) → (tagLength : Nat) → Bytes × Bytes
  chacha : (key nonce aad plaintext : Bytes) → Bytes × Bytes
  length_block : ∀ key b, (block key b).length = 16
  length_chacha : ∀ key nonce aad plaintext, (chacha key nonce aad plaintext).1.length = plaintext.length ∧
    (chacha key nonce aad plaintext).2.length = 16
  directKey : Aes → (key : Bytes) → Prop
  gcmKey : Aes → (key : Bytes) → Prop
  ccmKey : Aes → (key : Bytes) → Prop
  gcmStarted : Aes → (encrypts : Bool) → (key nonce : Bytes) → Prop
  gcmBehind : Aes → (encrypts : Bool) → (key nonce aad input output : Bytes) → Prop
  chachaBehind : ChaCha → (encrypts : Bool) → (key nonce aad input output : Bytes) → Prop

/-- The wolfCrypt calls that succeed compute the primitives. -/
structure AeadMeaning.Computes (m : AeadMeaning Aes ChaCha) (wc : WcAead Aes ChaCha) : Prop where
  setKeyDirect : ∀ {aes keyed key}, wc.aesSetKeyDirect aes key = .ok keyed → m.directKey keyed key
  encryptDirect : ∀ {aes key block out}, m.directKey aes key → block.length = 16 →
    wc.aesEncryptDirect aes block = .ok out → out = m.block key block
  gcmInit : ∀ {encrypts aes key nonce started}, wc.gcmInit encrypts aes key nonce = .ok started →
    m.gcmStarted started encrypts key nonce
  gcmFirst : ∀ {encrypts aes key nonce aad input output moved}, m.gcmStarted aes encrypts key nonce →
    wc.gcmUpdate encrypts aes input (some aad) = .ok (output, moved) →
      m.gcmBehind moved encrypts key nonce aad input output
  gcmNext : ∀ {encrypts aes key nonce aad text done input output moved},
    m.gcmBehind aes encrypts key nonce aad text done →
      wc.gcmUpdate encrypts aes input none = .ok (output, moved) →
        m.gcmBehind moved encrypts key nonce aad (text ++ input) (done ++ output)
  gcmTag : ∀ {aes key nonce aad input output tagLength tag},
    m.gcmBehind aes true key nonce aad input output → wc.gcmEncryptFinal aes tagLength = .ok tag →
      m.gcm key nonce aad input tagLength = (output, tag)
  gcmCheck : ∀ {aes key nonce aad input output tag u},
    m.gcmBehind aes false key nonce aad input output → wc.gcmDecryptFinal aes tag = .ok u →
      m.gcm key nonce aad output tag.length = (input, tag)
  chachaInit : ∀ {key nonce encrypts started}, wc.chachaInit key nonce encrypts = .ok started →
    m.chachaBehind started encrypts key nonce [] [] []
  chachaAad : ∀ {chacha encrypts key nonce aad moved}, m.chachaBehind chacha encrypts key nonce [] [] [] →
    wc.chachaUpdateAad chacha aad = .ok moved → m.chachaBehind moved encrypts key nonce aad [] []
  chachaData : ∀ {chacha encrypts key nonce aad text done input output moved},
    m.chachaBehind chacha encrypts key nonce aad text done →
      wc.chachaUpdateData chacha input = .ok (output, moved) →
        m.chachaBehind moved encrypts key nonce aad (text ++ input) (done ++ output)
  chachaTag : ∀ {chacha key nonce aad input output tag},
    m.chachaBehind chacha true key nonce aad input output → wc.chachaFinal chacha = .ok tag →
      m.chacha key nonce aad input = (output, tag)
  chachaOpened : ∀ {chacha key nonce aad input output tag},
    m.chachaBehind chacha false key nonce aad input output → wc.chachaFinal chacha = .ok tag →
      m.chacha key nonce aad output = (input, tag)
  chachaCheckTag : ∀ {computed tag u}, computed.length = 16 → tag.length = 16 →
    wc.chachaCheckTag computed tag = .ok u → computed = tag
  gcmSetKey : ∀ {aes keyed key}, wc.gcmSetKey aes key = .ok keyed → m.gcmKey keyed key
  gcmEncrypt : ∀ {aes key input nonce aad tagLength sealing}, m.gcmKey aes key →
    wc.gcmEncrypt aes input nonce aad tagLength = .ok sealing → m.gcm key nonce aad input tagLength = sealing
  gcmDecrypt : ∀ {aes key input nonce aad tag plaintext}, m.gcmKey aes key →
    wc.gcmDecrypt aes input nonce aad tag = .ok plaintext →
      m.gcm key nonce aad plaintext tag.length = (input, tag)
  ccmSetKey : ∀ {aes keyed key}, wc.ccmSetKey aes key = .ok keyed → m.ccmKey keyed key
  ccmEncrypt : ∀ {aes key input nonce aad tagLength sealing}, m.ccmKey aes key →
    wc.ccmEncrypt aes input nonce aad tagLength = .ok sealing →
      Ccm.generateEncrypt (m.block key) nonce aad input tagLength = sealing
  ccmDecrypt : ∀ {aes key input nonce aad tag plaintext}, m.ccmKey aes key →
    wc.ccmDecrypt aes input nonce aad tag = .ok plaintext →
      Ccm.generateEncrypt (m.block key) nonce aad plaintext tag.length = (input, tag)
  chachaEncrypt : ∀ {key nonce aad input sealing}, wc.chachaEncrypt key nonce aad input = .ok sealing →
    m.chacha key nonce aad input = sealing
  chachaDecrypt : ∀ {key nonce aad input tag plaintext},
    wc.chachaDecrypt key nonce aad input tag = .ok plaintext →
      m.chacha key nonce aad plaintext = (input, tag)

/-- Ciphertext and tag of a plaintext under an algorithm, with its tag length. -/
def AeadMeaning.seal (m : AeadMeaning Aes ChaCha) (alg : Algorithm)
    (key nonce aad plaintext : Bytes) : Bytes × Bytes :=
  if psaAlgAeadEqual alg psaAlgGcm then m.gcm key nonce aad plaintext (psaAlgAeadGetTagLength alg)
  else if psaAlgAeadEqual alg psaAlgChacha20Poly1305 then m.chacha key nonce aad plaintext
  else Ccm.generateEncrypt (m.block key) nonce aad plaintext (psaAlgAeadGetTagLength alg)

/-- An algorithm belongs to one family. -/
theorem aeadEqual_false {alg p q : Algorithm} (distinct : psaAlgFullLengthMac p ≠ psaAlgFullLengthMac q)
    (first : psaAlgAeadEqual alg p = true) : psaAlgAeadEqual alg q = false := by
  rw [Bool.eq_false_iff]
  intro second
  exact distinct (((aeadEqual_iff _ _).mp first).symm.trans ((aeadEqual_iff _ _).mp second))

theorem not_chacha_of_ccm {alg : Algorithm} (ccm : psaAlgAeadEqual alg psaAlgCcm = true) :
    ¬psaAlgAeadEqual alg psaAlgChacha20Poly1305 = true :=
  Bool.eq_false_iff.mp (aeadEqual_false (by decide) ccm)

/-! ## What the history tells -/

/-- An operation as its successful calls make it. -/
structure AeadSession where
  alg : Algorithm
  encrypts : Bool
  key : Bytes
  nonce : Bytes
  lengths : Option (BitVec 64 × BitVec 64)
  aad : Bytes
  input : Bytes
  output : Bytes

/-- The session that a setup call begins. -/
def AeadSession.begun (env : AeadEnv Aes ChaCha) (key : KeyId) (alg : Algorithm) (encrypts : Bool) :
    Option AeadSession :=
  match env.getKeyData key with
  | .ok (_, keyData) => some ⟨alg, encrypts, keyData, [], none, [], [], []⟩
  | .error _ => none

/-- The session behind a successful call. -/
def AeadSession.after (session : Option AeadSession) (e : AeadEvent Aes ChaCha) (r : AeadResult) :
    Option AeadSession :=
  match e.call with
  | .encryptSetup _ key alg => begun e.env key alg true
  | .decryptSetup _ key alg => begun e.env key alg false
  | .setNonce _ nonce => session.map fun told => { told with nonce := nonce.bytes }
  | .generateNonce .. => session.map fun told => { told with nonce := r.output }
  | .setLengths _ adLength plaintextLength =>
    session.map fun told => { told with lengths := some (adLength, plaintextLength) }
  | .updateAd _ input => session.map fun told => { told with aad := told.aad ++ input.bytes }
  | .update _ input _ _ => session.map fun told =>
    { told with input := told.input ++ input.bytes, output := told.output ++ r.output }
  | .finish .. | .verify .. | .abort _ => none

/-- The session of an operation; failed calls tell nothing. -/
def aeadSession (op : Nat) : History (AeadEvent Aes ChaCha) AeadResult → Option AeadSession
  | [] => none
  | (e, r) :: older =>
    if e.call.op = op ∧ r.status = .success then AeadSession.after (aeadSession op older) e r
    else aeadSession op older

/-- The declared lengths, if there are any, are the totals. -/
def AeadSession.LengthsMet (session : AeadSession) : Prop :=
  ∀ adLength plaintextLength, session.lengths = some (adLength, plaintextLength) →
    session.aad.length = adLength.toNat ∧ session.input.length = plaintextLength.toNat

/-! ## What the context holds -/

/-- The wolfCrypt object or the CCM state of a streamed payload. -/
def StreamBehind (m : AeadMeaning Aes ChaCha) (ctx : AeadCtx Aes ChaCha) (input output : Bytes) : Prop :=
  if psaAlgAeadEqual ctx.alg psaAlgGcm then
    m.gcmBehind ctx.aes ctx.encrypts ctx.key ctx.nonce ctx.aad input output
  else if psaAlgAeadEqual ctx.alg psaAlgChacha20Poly1305 then
    m.chachaBehind ctx.chacha ctx.encrypts ctx.key ctx.nonce ctx.aad input output
  else
    m.directKey ctx.aes ctx.key ∧
    output = xorFrom (Ccm.keyStream (m.block ctx.key) ctx.nonce) 0 input ∧
    CcmBehind (m.block ctx.key) ctx.nonce
      (ccmHeader ctx.nonce ctx.aad ctx.tagLength ctx.plaintextExpected.toNat)
      (if ctx.encrypts then input else output) ctx.ccm

/-- The payload is held back as a whole, or streamed. -/
inductive AeadPayload (m : AeadMeaning Aes ChaCha) (ctx : AeadCtx Aes ChaCha) (input output : Bytes) :
    Prop
  | buffered (whole : ctx.streaming = false) (held : ctx.input = input) (none : output = [])
  | streamed (started : ctx.streaming = true) (body : ctx.bodyStarted = true) (empty : ctx.input = [])
      (behind : StreamBehind m ctx input output)

/-- The context holds what is told of the operation. -/
structure AeadTells (m : AeadMeaning Aes ChaCha) (session : AeadSession) (ctx : AeadCtx Aes ChaCha) :
    Prop where
  alg : ctx.alg = session.alg
  encrypts : ctx.encrypts = session.encrypts
  key : ctx.key = session.key
  nonce : ctx.nonce = session.nonce
  aad : ctx.aad = session.aad
  lengths : session.lengths =
    if ctx.lengthsSet then some (ctx.adExpected, ctx.plaintextExpected) else none
  tagLength : ctx.tagLength = psaAlgAeadGetTagLength ctx.alg
  chachaTag : psaAlgAeadEqual ctx.alg psaAlgChacha20Poly1305 = true → ctx.tagLength = 16
  inputLength : ctx.inputLength = session.input.length
  fits : CcmFits ctx
  within : ctx.lengthsSet = true → session.input.length ≤ ctx.plaintextExpected.toNat
  early : ctx.bodyStarted = false → session.input = []
  named : ctx.bodyStarted = true → ctx.nonce.length ≠ 0
  declared : ctx.bodyStarted = true → wolfpsaAeadLengthsMissing ctx = false
  payload : AeadPayload m ctx session.input session.output


/-! ## Streaming -/

section

variable {m : AeadMeaning Aes ChaCha} {wc : WcAead Aes ChaCha} (laws : m.Computes wc)
include laws

theorem encryptsAs_block {aes : Aes} {key : Bytes} (keyed : m.directKey aes key) :
    EncryptsAs (wc.aesEncryptDirect aes) (m.block key) := by
  intro block whole
  cases answer : wc.aesEncryptDirect aes block with
  | error e => exact ⟨block, whole, answer⟩
  | ok out => exact laws.encryptDirect keyed whole answer

/-- A piece of payload behind others. -/
theorem streamUpdate_next {ctx ctx' : AeadCtx Aes ChaCha} {text done input output : Bytes}
    (started : ctx.streaming = true)
    (size : psaAlgAeadEqual ctx.alg psaAlgCcm = true → ctx.nonce.length < 15)
    (behind : StreamBehind m ctx text done)
    (updated : wolfpsaAeadStreamUpdate wc ctx input = .ok (output, ctx')) :
    StreamBehind m ctx' (text ++ input) (done ++ output) := by
  unfold wolfpsaAeadStreamUpdate at updated
  unfold StreamBehind at behind
  split at updated
  · rename_i gcm
    rw [if_pos gcm] at behind
    unfold gcmFirst at updated
    rw [if_pos started] at updated
    obtain ⟨aes, same, updated⟩ := except_bind_ok updated
    cases same
    obtain ⟨⟨bytes, moved⟩, taken, updated⟩ := except_bind_ok updated
    cases updated
    unfold StreamBehind
    rw [if_pos gcm]
    exact laws.gcmNext behind (wcCall_ok_iff.mp taken)
  rename_i notGcm
  rw [if_neg notGcm] at behind
  split at updated
  · rename_i chacha
    rw [if_pos chacha] at behind
    unfold chachaFirst at updated
    rw [if_pos started] at updated
    obtain ⟨object, same, updated⟩ := except_bind_ok updated
    cases same
    obtain ⟨⟨bytes, moved⟩, taken, updated⟩ := except_bind_ok updated
    cases updated
    unfold StreamBehind
    rw [if_neg notGcm, if_pos chacha]
    exact laws.chachaData behind (wcCall_ok_iff.mp taken)
  rename_i notChacha
  rw [if_neg notChacha] at behind
  split at updated
  · rename_i ccm
    have size := Nat.le_of_lt (size ccm)
    unfold ccmFirst at updated
    rw [if_pos started] at updated
    obtain ⟨same, begun, updated⟩ := except_bind_ok updated
    cases begun
    obtain ⟨⟨bytes, moved⟩, taken, updated⟩ := except_bind_ok updated
    cases updated
    obtain ⟨keyed, rfl, here⟩ := behind
    have aligned := length_ccmHeader size ctx.aad ctx.tagLength ctx.plaintextExpected.toNat
    obtain ⟨outs, there⟩ := (ccmBytes_yields (encryptsAs_block laws keyed) (m.length_block ctx.key) size
      aligned here ctx.encrypts input).value (wcCall_ok_iff.mp taken)
    have position : (if ctx.encrypts then text
        else xorFrom (Ccm.keyStream (m.block ctx.key) ctx.nonce) 0 text).length = text.length := by
      split
      · rfl
      · exact length_xorFrom _ 0 text
    rw [position] at outs
    unfold StreamBehind
    rw [if_neg notGcm, if_neg notChacha]
    refine ⟨keyed, ?_, ?_⟩
    · rw [xorFrom_append, Nat.zero_add]
      exact congrArg _ outs
    · dsimp only at there ⊢
      cases direction : ctx.encrypts with
      | false =>
        rw [direction] at there
        exact there
      | true =>
        rw [direction] at there
        exact there
  · cases updated

/-- The first piece of payload. -/
theorem streamUpdate_first {ctx ctx' : AeadCtx Aes ChaCha} {input output : Bytes}
    (fresh : ctx.streaming = false)
    (size : psaAlgAeadEqual ctx.alg psaAlgCcm = true → ctx.nonce.length < 15)
    (word : psaAlgAeadEqual ctx.alg psaAlgCcm = true → ctx.aad.length < 2 ^ 32)
    (field : psaAlgAeadEqual ctx.alg psaAlgCcm = true →
      ctx.plaintextExpected.toNat < 256 ^ (15 - ctx.nonce.length))
    (updated : wolfpsaAeadStreamUpdate wc ctx input = .ok (output, ctx')) :
    StreamBehind m ctx' input output := by
  have started : ¬ctx.streaming = true := Bool.eq_false_iff.mp fresh
  unfold wolfpsaAeadStreamUpdate at updated
  split at updated
  · rename_i gcm
    unfold gcmFirst at updated
    rw [if_neg started] at updated
    obtain ⟨aes, begun, updated⟩ := except_bind_ok updated
    obtain ⟨object, -, begun⟩ := except_bind_ok begun
    obtain ⟨⟨bytes, moved⟩, taken, updated⟩ := except_bind_ok updated
    cases updated
    unfold StreamBehind
    rw [if_pos gcm]
    exact laws.gcmFirst (laws.gcmInit (wcCall_ok_iff.mp begun)) (wcCall_ok_iff.mp taken)
  rename_i notGcm
  split at updated
  · rename_i chacha
    unfold chachaFirst at updated
    rw [if_neg started] at updated
    obtain ⟨object, begun, updated⟩ := except_bind_ok updated
    obtain ⟨initial, made, begun⟩ := except_bind_ok begun
    obtain ⟨⟨bytes, moved⟩, taken, updated⟩ := except_bind_ok updated
    cases updated
    have unfed := laws.chachaInit (wcCall_ok_iff.mp made)
    have fed : m.chachaBehind object ctx.encrypts ctx.key ctx.nonce ctx.aad [] [] := by
      split at begun
      · exact laws.chachaAad unfed (wcCall_ok_iff.mp begun)
      · rename_i none
        cases begun
        rw [List.eq_nil_of_length_eq_zero (Nat.eq_zero_of_not_pos none)]
        exact unfed
    unfold StreamBehind
    rw [if_neg notGcm, if_pos chacha]
    exact laws.chachaData fed (wcCall_ok_iff.mp taken)
  rename_i notChacha
  split at updated
  · rename_i ccm
    unfold ccmFirst wolfpsaAeadCcmInit at updated
    rw [if_neg started] at updated
    obtain ⟨moved, begun, updated⟩ := except_bind_ok updated
    obtain ⟨-, begun⟩ := require_bind_ok_iff.mp begun
    obtain ⟨object, -, begun⟩ := except_bind_ok begun
    obtain ⟨aes, keying, begun⟩ := except_bind_ok begun
    obtain ⟨state, starting, begun⟩ := except_bind_ok begun
    cases begun
    obtain ⟨⟨bytes, next⟩, taken, updated⟩ := except_bind_ok updated
    cases updated
    have keyed := laws.setKeyDirect (wcCall_ok_iff.mp keying)
    have small : ctx.nonce.length ≤ 15 := Nat.le_of_lt (size ccm)
    have aligned := length_ccmHeader small ctx.aad ctx.tagLength ctx.plaintextExpected.toNat
    have here := (ccmStart_yields (encryptsAs_block laws keyed) (m.length_block ctx.key) (size ccm)
      (word ccm) (field ccm)).value starting
    obtain ⟨outs, there⟩ := (ccmBytes_yields (encryptsAs_block laws keyed) (m.length_block ctx.key) small
      aligned here ctx.encrypts input).value (wcCall_ok_iff.mp taken)
    unfold StreamBehind
    rw [if_neg notGcm, if_neg notChacha]
    exact ⟨keyed, outs, there⟩
  · cases updated

omit laws in
/-- The CCM of the context is the one of its message, when the message has the declared length. -/
theorem ccmSeal_eq (m : AeadMeaning Aes ChaCha) (ctx : AeadCtx Aes ChaCha) {text : Bytes}
    (total : text.length = ctx.plaintextExpected.toNat) (tagLength : Nat)
    (tag : ctx.tagLength = tagLength) :
    Ccm.generateEncrypt (m.block ctx.key) ctx.nonce ctx.aad text tagLength =
      (xorFrom (Ccm.keyStream (m.block ctx.key) ctx.nonce) 0 text,
        (xorBlock (cbcMac (m.block ctx.key) (List.replicate 16 0)
          (ccmHeader ctx.nonce ctx.aad ctx.tagLength ctx.plaintextExpected.toNat ++ pad16 text))
          (m.block ctx.key (Ccm.counterBlock ctx.nonce 0))).take ctx.tagLength) := by
  subst tag
  rw [← total]
  rfl

/-- The tag of a streamed encryption seals the input. -/
theorem streamTag_seals {ctx : AeadCtx Aes ChaCha} {input output tag : Bytes}
    (encrypts : ctx.encrypts = true)
    (tagLength : ctx.tagLength = psaAlgAeadGetTagLength ctx.alg)
    (chachaTag : psaAlgAeadEqual ctx.alg psaAlgChacha20Poly1305 = true → ctx.tagLength = 16)
    (size : psaAlgAeadEqual ctx.alg psaAlgCcm = true → ctx.nonce.length < 15)
    (total : psaAlgAeadEqual ctx.alg psaAlgCcm = true → input.length = ctx.plaintextExpected.toNat)
    (behind : StreamBehind m ctx input output) (computed : aeadStreamTag wc ctx = .ok tag) :
    m.seal ctx.alg ctx.key ctx.nonce ctx.aad input = (output, tag) := by
  unfold aeadStreamTag at computed
  unfold StreamBehind at behind
  unfold AeadMeaning.seal
  rw [encrypts] at behind
  split at computed
  · rename_i gcm
    rw [if_pos gcm] at behind ⊢
    rw [← tagLength]
    exact laws.gcmTag behind (wcCall_ok_iff.mp computed)
  rename_i notGcm
  rw [if_neg notGcm] at behind ⊢
  split at computed
  · rename_i chacha
    rw [if_pos chacha] at behind ⊢
    obtain ⟨whole, final, computed⟩ := except_bind_ok computed
    cases computed
    have sealing := laws.chachaTag behind (wcCall_ok_iff.mp final)
    have sixteen := (m.length_chacha ctx.key ctx.nonce ctx.aad input).2
    rw [sealing] at sixteen ⊢
    rw [chachaTag chacha, List.take_of_length_le (Nat.le_of_eq sixteen)]
  rename_i notChacha
  rw [if_neg notChacha] at behind ⊢
  split at computed
  · rename_i ccm
    obtain ⟨keyed, rfl, here⟩ := behind
    have small := Nat.le_of_lt (size ccm)
    have tagged := (wolfpsaAeadCcmFinish_yields (encryptsAs_block laws keyed) (m.length_block ctx.key) small
      (length_ccmHeader small _ _ _) here ctx.tagLength).value computed
    rw [ccmSeal_eq m ctx (total ccm) _ tagLength]
    exact Prod.ext rfl tagged.symm
  · cases computed

/-- The check of a streamed decryption passes for the tag that seals the output. -/
theorem streamCheck_seals {ctx : AeadCtx Aes ChaCha} {input output tag : Bytes} {u : Unit}
    (decrypts : ctx.encrypts = false)
    (tagLength : ctx.tagLength = psaAlgAeadGetTagLength ctx.alg)
    (chachaTag : psaAlgAeadEqual ctx.alg psaAlgChacha20Poly1305 = true → ctx.tagLength = 16)
    (size : psaAlgAeadEqual ctx.alg psaAlgCcm = true → ctx.nonce.length < 15)
    (total : psaAlgAeadEqual ctx.alg psaAlgCcm = true → input.length = ctx.plaintextExpected.toNat)
    (given : tag.length = ctx.tagLength)
    (behind : StreamBehind m ctx input output) (checked : aeadStreamCheck wc ctx tag = .ok u) :
    m.seal ctx.alg ctx.key ctx.nonce ctx.aad output = (input, tag) := by
  unfold aeadStreamCheck at checked
  unfold StreamBehind at behind
  unfold AeadMeaning.seal
  rw [decrypts] at behind
  split at checked
  · rename_i gcm
    rw [if_pos gcm] at behind ⊢
    rw [← tagLength, ← given]
    exact laws.gcmCheck behind (wcCall_ok_iff.mp checked)
  rename_i notGcm
  rw [if_neg notGcm] at behind ⊢
  split at checked
  · rename_i chacha
    rw [if_pos chacha] at behind ⊢
    obtain ⟨computed, final, checked⟩ := except_bind_ok checked
    have opened := laws.chachaOpened behind (wcCall_ok_iff.mp final)
    have sixteen := (m.length_chacha ctx.key ctx.nonce ctx.aad output).2
    rw [opened] at sixteen ⊢
    have same : computed = tag :=
      laws.chachaCheckTag sixteen (given.trans (chachaTag chacha)) (mapError_ok_iff.mp checked)
    rw [same]
  rename_i notChacha
  rw [if_neg notChacha] at behind ⊢
  split at checked
  · rename_i ccm
    obtain ⟨keyed, rfl, here⟩ := behind
    have small := Nat.le_of_lt (size ccm)
    obtain ⟨computed, finished, checked⟩ := except_bind_ok checked
    have same : computed = tag := beq_iff_eq.mp (require_ok_iff.mp checked)
    have tagged := (wolfpsaAeadCcmFinish_yields (encryptsAs_block laws keyed) (m.length_block ctx.key) small
      (length_ccmHeader small _ _ _) here ctx.tagLength).value finished
    rw [ccmSeal_eq m ctx ((length_xorFrom _ 0 input).trans (total ccm)) _ tagLength, xorFrom_xorFrom]
    exact Prod.ext rfl (tagged.symm.trans same)
  · cases checked

end

/-! ## Buffered payloads -/

section

variable {m : AeadMeaning Aes ChaCha} {env : AeadEnv Aes ChaCha} (laws : m.Computes env.wc)
include laws

theorem chachaEncrypt_seals {alg : Algorithm} {key nonce aad plaintext whole : Bytes} {size : Nat}
    (done : psaChacha20Poly1305Encrypt env.wc alg key nonce aad plaintext size = .ok whole) :
    whole = (m.chacha key nonce aad plaintext).1 ++ (m.chacha key nonce aad plaintext).2 := by
  unfold psaChacha20Poly1305Encrypt at done
  obtain ⟨-, -, done⟩ := except_bind_ok done
  simp only [require_bind_ok_iff] at done
  obtain ⟨-, -, -, done⟩ := done
  obtain ⟨⟨ciphertext, tag⟩, sealed, done⟩ := except_bind_ok done
  cases done
  rw [laws.chachaEncrypt (wcCall_ok_iff.mp sealed)]

theorem chachaDecrypt_seals {alg : Algorithm} {key nonce aad ciphertext tag plaintext : Bytes} {size : Nat}
    (sixteen : tag.length = 16)
    (done : psaChacha20Poly1305Decrypt env.wc alg key nonce aad (ciphertext ++ tag) size = .ok plaintext) :
    m.chacha key nonce aad plaintext = (ciphertext, tag) := by
  have split : (ciphertext ++ tag).length - 16 = ciphertext.length := by
    rw [List.length_append, sixteen, Nat.add_sub_cancel]
  unfold psaChacha20Poly1305Decrypt at done
  obtain ⟨-, -, done⟩ := except_bind_ok done
  simp only [require_bind_ok_iff] at done
  obtain ⟨-, -, -, done⟩ := done
  rw [split, List.take_left, List.drop_left] at done
  exact laws.chachaDecrypt (wcCall_ok_iff.mp done)

/-- The one-shot call of `psa_aead_finish` seals the held input. -/
theorem encryptBuffered_seals {ctx : AeadCtx Aes ChaCha} {ciphertext tag : Bytes}
    (tagLength : ctx.tagLength = psaAlgAeadGetTagLength ctx.alg)
    (chachaTag : psaAlgAeadEqual ctx.alg psaAlgChacha20Poly1305 = true → ctx.tagLength = 16)
    (done : aeadEncryptBuffered env ctx = .ok (ciphertext, tag)) :
    m.seal ctx.alg ctx.key ctx.nonce ctx.aad ctx.input = (ciphertext, tag) := by
  unfold aeadEncryptBuffered at done
  unfold AeadMeaning.seal
  split at done
  · rename_i gcm
    rw [if_pos gcm, ← tagLength]
    obtain ⟨fresh, -, done⟩ := except_bind_ok done
    obtain ⟨aes, keyed, done⟩ := except_bind_ok done
    exact laws.gcmEncrypt (laws.gcmSetKey (wcCall_ok_iff.mp keyed)) (wcCall_ok_iff.mp done)
  rename_i notGcm
  rw [if_neg notGcm]
  split at done
  · rename_i ccm
    rw [if_neg (not_chacha_of_ccm ccm), ← tagLength]
    obtain ⟨-, done⟩ := require_bind_ok_iff.mp done
    obtain ⟨fresh, -, done⟩ := except_bind_ok done
    obtain ⟨aes, keyed, done⟩ := except_bind_ok done
    exact laws.ccmEncrypt (laws.ccmSetKey (wcCall_ok_iff.mp keyed)) (wcCall_ok_iff.mp done)
  split at done
  · rename_i chacha
    rw [if_pos chacha]
    obtain ⟨-, done⟩ := require_bind_ok_iff.mp done
    obtain ⟨whole, sealed, done⟩ := except_bind_ok done
    obtain ⟨-, done⟩ := require_bind_ok_iff.mp done
    cases done
    obtain ⟨same, sixteen⟩ := m.length_chacha ctx.key ctx.nonce ctx.aad ctx.input
    rw [chachaEncrypt_seals laws sealed, ← same, List.take_left, List.drop_left, chachaTag chacha,
      List.take_of_length_le (Nat.le_of_eq sixteen)]
  · cases done

/-- The one-shot call of `psa_aead_verify` opens the held input. -/
theorem decryptBuffered_seals {ctx : AeadCtx Aes ChaCha} {tag plaintext : Bytes} {size : Nat}
    (tagLength : ctx.tagLength = psaAlgAeadGetTagLength ctx.alg)
    (chachaTag : psaAlgAeadEqual ctx.alg psaAlgChacha20Poly1305 = true → ctx.tagLength = 16)
    (given : tag.length = ctx.tagLength)
    (done : aeadDecryptBuffered env ctx tag size = .ok plaintext) :
    m.seal ctx.alg ctx.key ctx.nonce ctx.aad plaintext = (ctx.input, tag) := by
  unfold aeadDecryptBuffered at done
  unfold AeadMeaning.seal
  split at done
  · rename_i gcm
    rw [if_pos gcm, ← tagLength, ← given]
    obtain ⟨fresh, -, done⟩ := except_bind_ok done
    obtain ⟨aes, keyed, done⟩ := except_bind_ok done
    exact laws.gcmDecrypt (laws.gcmSetKey (wcCall_ok_iff.mp keyed)) (wcCall_ok_iff.mp done)
  rename_i notGcm
  rw [if_neg notGcm]
  split at done
  · rename_i ccm
    rw [if_neg (not_chacha_of_ccm ccm), ← tagLength, ← given]
    obtain ⟨-, done⟩ := require_bind_ok_iff.mp done
    obtain ⟨fresh, -, done⟩ := except_bind_ok done
    obtain ⟨aes, keyed, done⟩ := except_bind_ok done
    exact laws.ccmDecrypt (laws.ccmSetKey (wcCall_ok_iff.mp keyed)) (wcCall_ok_iff.mp done)
  split at done
  · rename_i chacha
    rw [if_pos chacha]
    simp only [require_bind_ok_iff] at done
    obtain ⟨-, -, done⟩ := done
    exact chachaDecrypt_seals laws (given.trans (chachaTag chacha)) (mapError_ok_iff.mp done)
  · cases done

end

/-! ## One call -/

section

variable {m : AeadMeaning Aes ChaCha} {env : AeadEnv Aes ChaCha} {session : AeadSession}
  {ctx ctx' : AeadCtx Aes ChaCha}

/-- A setup admits ChaCha20-Poly1305 with its whole tag only. -/
theorem setup_chachaTag {sizes : AeadTagSizes} {alg : Algorithm}
    (sized : aeadSetupTagLength sizes alg = .success)
    (chacha : psaAlgAeadEqual alg psaAlgChacha20Poly1305 = true) : psaAlgAeadGetTagLength alg = 16 := by
  unfold aeadSetupTagLength at sized
  dsimp only at sized
  rw [aeadEqual_false (show _ ≠ psaAlgFullLengthMac psaAlgCcm by decide) chacha,
    aeadEqual_false (show _ ≠ psaAlgFullLengthMac psaAlgGcm by decide) chacha, chacha] at sized
  by_contra other
  rw [Bool.true_and, bne_iff_ne.mpr other] at sized
  split at sized
  · cases sized
  · cases sized

theorem aeadSession_success {h : History (AeadEvent Aes ChaCha) AeadResult} {call : AeadCall}
    {output tag : Bytes} :
    aeadSession call.op ((⟨env, call⟩, ⟨.success, output, tag⟩) :: h) =
      AeadSession.after (aeadSession call.op h) ⟨env, call⟩ ⟨.success, output, tag⟩ := if_pos ⟨rfl, rfl⟩

theorem aeadSession_failed {h : History (AeadEvent Aes ChaCha) AeadResult} {call : AeadCall} {op : Nat}
    (status : Failure) : aeadSession op ((⟨env, call⟩, ⟨status.val, [], []⟩) :: h) = aeadSession op h :=
  if_neg fun both => status.property both.2

theorem aeadSession_other {h : History (AeadEvent Aes ChaCha) AeadResult} {e : AeadEvent Aes ChaCha}
    {r : AeadResult} {op : Nat} (other : op ≠ e.call.op) : aeadSession op ((e, r) :: h) = aeadSession op h :=
  if_neg fun both => other both.1.symm

/-- The context of a setup holds a session without any data. -/
theorem aeadSetupCtx_tells {key : KeyId} {alg : Algorithm} {usage : KeyUsage}
    (granted : aeadSetupCtx env key alg usage = .ok ctx) :
    ∃ session, AeadSession.begun env key alg (usage == psaKeyUsageEncrypt) = some session ∧
      AeadTells m session ctx := by
  unfold aeadSetupCtx at granted
  obtain ⟨-, granted⟩ := ensure_bind_ok_iff.mp granted
  obtain ⟨⟨attributes, keyData⟩, found, granted⟩ := except_bind_ok granted
  simp only [ensure_bind_ok_iff, require_bind_ok_iff] at granted
  obtain ⟨-, -, sized, -, made⟩ := granted
  cases made
  refine ⟨⟨alg, usage == psaKeyUsageEncrypt, keyData, [], none, [], [], []⟩, ?_, ?_⟩
  · unfold AeadSession.begun
    rw [found]
  · refine ⟨rfl, rfl, rfl, rfl, rfl, rfl, rfl, ?_, rfl, ⟨?_, ?_⟩, fun _ => Nat.zero_le _, fun _ => rfl, ?_,
      ?_, .buffered rfl rfl rfl⟩
    · exact setup_chachaTag sized
    · intro _ set
      exact absurd rfl set
    · intro set
      exact absurd rfl set
    · intro started
      cases started
    · intro started
      cases started

/-- Before its body an operation has held nothing back. -/
theorem AeadTells.unstarted (tells : AeadTells m session ctx) (early : ctx.bodyStarted = false) :
    ctx.streaming = false ∧ ctx.input = session.input ∧ session.output = [] := by
  cases tells.payload with
  | buffered whole held none => exact ⟨whole, held, none⟩
  | streamed started body empty behind =>
    rw [early] at body
    cases body

theorem setNonce_tells {nonce : InBuf} (tells : AeadTells m session ctx) (fits : CcmFits ctx')
    (accepted : aeadSetNonce ctx nonce = .ok ctx') :
    AeadTells m { session with nonce := nonce.bytes } ctx' := by
  obtain ⟨-, unset, -, -, rfl⟩ := aeadSetNonce_ok_iff.mp accepted
  have early : ctx.bodyStarted = false := by
    rw [Bool.eq_false_iff]
    exact fun started => tells.named started unset
  obtain ⟨whole, held, none⟩ := tells.unstarted early
  exact ⟨tells.alg, tells.encrypts, tells.key, rfl, tells.aad, tells.lengths, tells.tagLength,
    tells.chachaTag, tells.inputLength, fits, tells.within, tells.early,
    fun started => absurd (early.symm.trans started) Bool.false_ne_true, tells.declared,
    .buffered whole held none⟩

theorem setLengths_tells {adLength plaintextLength : BitVec 64} (tells : AeadTells m session ctx)
    (fits : CcmFits ctx') (accepted : aeadSetLengths ctx adLength plaintextLength = .ok ctx') :
    AeadTells m { session with lengths := some (adLength, plaintextLength) } ctx' := by
  obtain ⟨⟨-, -, early⟩, -, rfl⟩ := aeadSetLengths_ok_iff.mp accepted
  obtain ⟨whole, held, none⟩ := tells.unstarted early
  have none_yet : session.input.length ≤ plaintextLength.toNat := by
    rw [tells.early early]
    exact Nat.zero_le _
  exact ⟨tells.alg, tells.encrypts, tells.key, tells.nonce, tells.aad, rfl, tells.tagLength,
    tells.chachaTag, tells.inputLength, fits, fun _ => none_yet, tells.early, tells.named,
    fun _ => Bool.and_false _, .buffered whole held none⟩

theorem emptyAd_tells (tells : AeadTells m session ctx) (early : ctx.bodyStarted = false) :
    AeadTells m session { ctx with adStarted := true } := by
  obtain ⟨whole, held, none⟩ := tells.unstarted early
  exact ⟨tells.alg, tells.encrypts, tells.key, tells.nonce, tells.aad, tells.lengths, tells.tagLength,
    tells.chachaTag, tells.inputLength, ⟨tells.fits.sized, tells.fits.fits⟩, tells.within, tells.early,
    tells.named, tells.declared, .buffered whole held none⟩

theorem updateAd_tells {input : InBuf} (tells : AeadTells m session ctx) (fits : CcmFits ctx')
    (early : ctx.bodyStarted = false) (appended : aeadAppendAad env ctx input = .ok ctx') :
    AeadTells m { session with aad := session.aad ++ input.bytes } ctx' := by
  obtain ⟨-, rfl⟩ := aeadAppendAad_ok appended
  obtain ⟨whole, held, none⟩ := tells.unstarted early
  exact ⟨tells.alg, tells.encrypts, tells.key, tells.nonce, congrArg (· ++ input.bytes) tells.aad,
    tells.lengths, tells.tagLength, tells.chachaTag, tells.inputLength, fits, tells.within, tells.early, tells.named,
    tells.declared, .buffered whole held none⟩

theorem lengthsSet_of_ccm (ccm : psaAlgAeadEqual ctx.alg psaAlgCcm = true)
    (declared : wolfpsaAeadLengthsMissing ctx = false) : ctx.lengthsSet = true := by
  unfold wolfpsaAeadLengthsMissing at declared
  rw [ccm] at declared
  simpa using declared

/-- What CCM needs to begin. -/
theorem AeadTells.ccmReady {inputLength : Nat} (fits : CcmFits ctx) (named : ctx.nonce.length ≠ 0)
    (declared : wolfpsaAeadLengthsMissing ctx = false) (within : WithinLengths ctx inputLength)
    (ccm : psaAlgAeadEqual ctx.alg psaAlgCcm = true) :
    ctx.nonce.length < 15 ∧ ctx.aad.length < 2 ^ 32 ∧
      ctx.plaintextExpected.toNat < 256 ^ (15 - ctx.nonce.length) := by
  have set := lengthsSet_of_ccm ccm declared
  have word := fits.word named set
  rw [← within.ad set] at word
  unfold wolfpsaCheckWord32Length uint32Max at word
  refine ⟨?_, ?_, fits.field ccm named set⟩
  · have := (fits.sized ccm named).2
    omega
  · by_contra long
    rw [if_pos (by omega)] at word
    cases word

/-- A piece of payload in the context. -/
theorem update_tells {input : InBuf} {output : OutBuf} {bytes : Bytes} (laws : m.Computes env.wc)
    (tells : AeadTells m session ctx) (fits : CcmFits ctx')
    (declared : wolfpsaAeadLengthsMissing ctx = false) (named : ctx.nonce.length ≠ 0)
    (taken : aeadUpdate env ctx input output = .ok (bytes, ctx')) :
    AeadTells m { session with input := session.input ++ input.bytes, output := session.output ++ bytes }
      ctx' := by
  obtain ⟨within, taken⟩ := aeadUpdate_taken taken
  have ready := AeadTells.ccmReady tells.fits named declared within
  have below (set : ctx.lengthsSet = true) :
      (session.input ++ input.bytes).length ≤ ctx.plaintextExpected.toNat := by
    rw [List.length_append, ← tells.inputLength]
    exact within.payload set
  cases taken with
  | nothing empty =>
    rw [empty, List.append_nil, List.append_nil]
    have payload : AeadPayload m { ctx with bodyStarted := true } session.input session.output := by
      cases tells.payload with
      | buffered whole held none => exact .buffered whole held none
      | streamed started body clear behind => exact .streamed started rfl clear behind
    exact ⟨tells.alg, tells.encrypts, tells.key, tells.nonce, tells.aad, tells.lengths, tells.tagLength,
      tells.chachaTag, tells.inputLength, fits, tells.within, (fun early => by cases early), fun _ => named,
      fun _ => declared, payload⟩
  | buffered some null whole =>
    have payload : session.input = ctx.input ∧ session.output = [] := by
      cases tells.payload with
      | buffered _ held none => exact ⟨held.symm, none⟩
      | streamed started body clear behind => exact absurd (whole.symm.trans started) Bool.false_ne_true
    obtain ⟨held, none⟩ := payload
    refine ⟨tells.alg, tells.encrypts, tells.key, tells.nonce, tells.aad, tells.lengths, tells.tagLength,
      tells.chachaTag, ?_, fits, below, (fun early => by cases early), fun _ => named,
      fun _ => declared, .buffered whole (by rw [held]) (by rw [none]; rfl)⟩
    rw [List.length_append, ← tells.inputLength]
  | @streamed bytes moved some given unbuffered word updated =>
    have behind : StreamBehind m moved (session.input ++ input.bytes) (session.output ++ bytes) := by
      cases tells.payload with
      | buffered whole held none =>
        rw [← held, unbuffered, none]
        refine streamUpdate_first laws ?_ ?_ ?_ ?_ updated
        · exact whole
        · exact fun ccm => (ready ccm).1
        · exact fun ccm => (ready ccm).2.1
        · exact fun ccm => (ready ccm).2.2
      | streamed started body clear behind =>
        refine streamUpdate_next laws ?_ ?_ ?_ updated
        · exact started
        · exact fun ccm => (ready ccm).1
        · exact behind
    obtain ⟨aes, chacha, ccm, rfl⟩ := wolfpsaAeadStreamUpdate_frame updated
    refine ⟨tells.alg, tells.encrypts, tells.key, tells.nonce, tells.aad, tells.lengths, tells.tagLength,
      tells.chachaTag, ?_, fits, below, (fun early => by cases early), fun _ => named,
      fun _ => declared, .streamed rfl rfl unbuffered behind⟩
    rw [List.length_append, ← tells.inputLength]

/-- One call keeps what the history tells of its operation. -/
theorem AeadAnswer.tells {h : History (AeadEvent Aes ChaCha) AeadResult} {call : AeadCall}
    {result : AeadResult} {operation : Option (AeadCtx Aes ChaCha)} (laws : m.Computes env.wc)
    (answer : AeadAnswer env call result operation (some ctx'))
    (before : ∀ ctx, operation = some ctx →
      ∃ session, aeadSession call.op h = some session ∧ AeadTells m session ctx) :
    ∃ session, aeadSession call.op ((⟨env, call⟩, result) :: h) = some session ∧
      AeadTells m session ctx' := by
  have fits := AeadAnswer.fits answer fun ctx active => by
    obtain ⟨session, -, tells⟩ := before ctx active
    exact tells.fits
  cases answer with
  | kept status =>
    rw [aeadSession_failed]
    exact before ctx' rfl
  | encryptSetup granted =>
    rw [aeadSession_success]
    exact aeadSetupCtx_tells granted
  | decryptSetup granted =>
    rw [aeadSession_success]
    exact aeadSetupCtx_tells granted
  | setNonce accepted =>
    obtain ⟨session, told, tells⟩ := before _ rfl
    rw [aeadSession_success]
    exact ⟨_, congrArg (Option.map _) told, setNonce_tells tells fits accepted⟩
  | generateNonce accepted =>
    obtain ⟨session, told, tells⟩ := before _ rfl
    rw [aeadSession_success]
    exact ⟨_, congrArg (Option.map _) told, setNonce_tells tells fits accepted⟩
  | setLengths accepted =>
    obtain ⟨session, told, tells⟩ := before _ rfl
    rw [aeadSession_success]
    exact ⟨_, congrArg (Option.map _) told, setLengths_tells tells fits accepted⟩
  | @emptyAd op ctx input early empty =>
    obtain ⟨session, told, tells⟩ := before _ rfl
    have nothing : session.aad ++ input.bytes = session.aad := by
      cases input with
      | null n => exact List.append_nil _
      | data bytes => rw [List.eq_nil_of_length_eq_zero empty]; exact List.append_nil _
    rw [aeadSession_success]
    refine ⟨_, congrArg (Option.map _) told, ?_⟩
    dsimp only
    rw [nothing]
    exact emptyAd_tells tells early
  | updateAd early appended =>
    obtain ⟨session, told, tells⟩ := before _ rfl
    rw [aeadSession_success]
    exact ⟨_, congrArg (Option.map _) told, updateAd_tells tells fits early appended⟩
  | update declared named taken =>
    obtain ⟨session, told, tells⟩ := before _ rfl
    rw [aeadSession_success]
    exact ⟨_, congrArg (Option.map _) told, update_tells laws tells fits declared named taken⟩

/-- The totals that the last call has checked. -/
theorem AeadTells.lengthsMet (tells : AeadTells m session ctx) (totals : aeadTotalsDiffer ctx = false) :
    session.LengthsMet := by
  intro adLength plaintextLength declared
  have lengths := tells.lengths
  rw [declared] at lengths
  split at lengths
  · rename_i set
    cases lengths
    unfold aeadTotalsDiffer at totals
    simp only [set, Bool.true_and, Bool.or_eq_false_iff, bne_eq_false_iff_eq] at totals
    exact ⟨by rw [← tells.aad, totals.1], by rw [← tells.inputLength, totals.2]⟩
  · cases lengths

/-- What the last call needs of a CCM context. -/
theorem AeadTells.ccmTotal (tells : AeadTells m session ctx) (named : ctx.nonce.length ≠ 0)
    (declared : wolfpsaAeadLengthsMissing ctx = false) (totals : aeadTotalsDiffer ctx = false)
    (ccm : psaAlgAeadEqual ctx.alg psaAlgCcm = true) :
    ctx.nonce.length < 15 ∧ session.input.length = ctx.plaintextExpected.toNat := by
  have set := lengthsSet_of_ccm ccm declared
  have size := (tells.fits.sized ccm named).2
  have lengths := tells.lengths
  rw [if_pos set] at lengths
  exact ⟨by omega, (tells.lengthsMet totals _ _ lengths).2⟩

/-- The guards that the two last calls share. -/
private theorem last_guards {missing totals : Bool} {nonceLength : Nat}
    (ready : (!(nonceLength == 0 || missing)) = true) (met : (!totals) = true) :
    nonceLength ≠ 0 ∧ missing = false ∧ totals = false := by
  simp only [Bool.not_eq_true', Bool.or_eq_false_iff, beq_eq_false_iff_ne, ne_eq] at ready met
  exact ⟨ready.1, ready.2, met⟩

theorem encryptFinal_seals {ciphertext tag : OutBuf} {lengthNull : Bool} {bytes computed : Bytes}
    (laws : m.Computes env.wc) (tells : AeadTells m session ctx) (encrypts : ctx.encrypts = true)
    (sealed : wolfpsaAeadEncryptFinal env ctx ciphertext tag lengthNull = .ok (bytes, computed)) :
    session.LengthsMet ∧ m.seal session.alg session.key session.nonce session.aad session.input =
      (session.output ++ bytes, computed) := by
  unfold wolfpsaAeadEncryptFinal at sealed
  simp only [require_bind_ok_iff] at sealed
  obtain ⟨-, -, ready, met, sealed⟩ := sealed
  obtain ⟨named, declared, totals⟩ := last_guards ready met
  have ccm := tells.ccmTotal named declared totals
  refine ⟨tells.lengthsMet totals, ?_⟩
  rw [← tells.alg, ← tells.key, ← tells.nonce, ← tells.aad]
  cases tells.payload with
  | buffered whole held none =>
    rw [if_neg (Bool.eq_false_iff.mp whole)] at sealed
    simp only [require_bind_ok_iff] at sealed
    obtain ⟨-, -, -, -, sealed⟩ := sealed
    rw [none, ← held]
    exact encryptBuffered_seals laws tells.tagLength tells.chachaTag sealed
  | streamed started body clear behind =>
    rw [if_pos started] at sealed
    obtain ⟨-, sealed⟩ := require_bind_ok_iff.mp sealed
    obtain ⟨made, tagged, sealed⟩ := except_bind_ok sealed
    cases sealed
    rw [List.append_nil]
    exact streamTag_seals laws encrypts tells.tagLength tells.chachaTag (fun family => (ccm family).1)
      (fun family => (ccm family).2) behind tagged

theorem decryptFinal_seals {plaintext : OutBuf} {tag : InBuf} {lengthNull : Bool} {bytes : Bytes}
    (laws : m.Computes env.wc) (tells : AeadTells m session ctx) (decrypts : ctx.encrypts = false)
    (opened : wolfpsaAeadDecryptFinal env ctx plaintext tag lengthNull = .ok bytes) :
    session.LengthsMet ∧ m.seal session.alg session.key session.nonce session.aad
      (session.output ++ bytes) = (session.input, tag.bytes) := by
  unfold wolfpsaAeadDecryptFinal at opened
  simp only [require_bind_ok_iff] at opened
  obtain ⟨readable, -, ready, met, sized, opened⟩ := opened
  obtain ⟨named, declared, totals⟩ := last_guards ready met
  have ccm := tells.ccmTotal named declared totals
  have given : tag.bytes.length = ctx.tagLength := by
    rw [← beq_iff_eq.mp sized]
    cases tag with
    | data bytes => rfl
    | null n =>
      obtain ⟨-, zero⟩ : lengthNull = false ∧ n = 0 := by
        simpa [InBuf.isNull, InBuf.length] using readable
      rw [zero]
      rfl
  refine ⟨tells.lengthsMet totals, ?_⟩
  rw [← tells.alg, ← tells.key, ← tells.nonce, ← tells.aad]
  cases tells.payload with
  | buffered whole held none =>
    rw [if_neg (Bool.eq_false_iff.mp whole)] at opened
    simp only [require_bind_ok_iff] at opened
    obtain ⟨-, -, opened⟩ := opened
    rw [none, ← held]
    exact decryptBuffered_seals laws tells.tagLength tells.chachaTag given opened
  | streamed started body clear behind =>
    rw [if_pos started] at opened
    obtain ⟨u, checked, opened⟩ := except_bind_ok opened
    cases opened
    rw [List.append_nil]
    exact streamCheck_seals laws decrypts tells.tagLength tells.chachaTag (fun family => (ccm family).1)
      (fun family => (ccm family).2) given behind checked

end

/-! ## Every run -/

/-- A refused call ends the operation or leaves it as it was. -/
theorem AeadAnswer.refused {env : AeadEnv Aes ChaCha} {call : AeadCall} {result : AeadResult}
    {operation after : Option (AeadCtx Aes ChaCha)} (answer : AeadAnswer env call result operation after)
    (failed : result.status ≠ .success) : after = none ∨ after = operation := by
  cases answer with
  | ended status => exact .inl rfl
  | kept status => exact .inr rfl
  | _ => exact absurd rfl failed

/-- What the answer of a call says about the message of its operation. -/
def KeepsTranscript (m : AeadMeaning Aes ChaCha) (e : AeadEvent Aes ChaCha) (r : AeadResult)
    (older : History (AeadEvent Aes ChaCha) AeadResult) : Prop :=
  r.status = .success →
    match e.call with
    | .updateAd op _ => ∃ session, aeadSession op older = some session ∧ session.input = []
    | .finish op _ _ _ => ∃ session, aeadSession op older = some session ∧ session.encrypts = true ∧
        session.LengthsMet ∧
        m.seal session.alg session.key session.nonce session.aad session.input =
          (session.output ++ r.output, r.tag)
    | .verify op _ tag _ => ∃ session, aeadSession op older = some session ∧ session.encrypts = false ∧
        session.LengthsMet ∧
        m.seal session.alg session.key session.nonce session.aad (session.output ++ r.output) =
          (session.input, tag.bytes)
    | _ => True

/-- Every active operation is told by the history. -/
def AeadTold (m : AeadMeaning Aes ChaCha) (h : History (AeadEvent Aes ChaCha) AeadResult)
    (s : AeadState Aes ChaCha) : Prop :=
  ∀ op ctx, s op = some ctx → ∃ session, aeadSession op h = some session ∧ AeadTells m session ctx

section

variable {m : AeadMeaning Aes ChaCha} {h : History (AeadEvent Aes ChaCha) AeadResult}
  {s : AeadState Aes ChaCha}

theorem aeadTold_step (told : AeadTold m h s) (e : AeadEvent Aes ChaCha) (laws : m.Computes e.env.wc) :
    AeadTold m ((e, (aeadStep s e).1) :: h) (aeadStep s e).2 := by
  intro op ctx active
  rcases eq_or_ne op e.call.op with rfl | other
  · have answer := aeadCall_answer e.env (s e.call.op) e.call
    have same : (aeadCall e.env (s e.call.op) e.call).2 = some ctx :=
      (Function.update_self e.call.op _ s).symm.trans active
    rw [same] at answer
    exact AeadAnswer.tells laws answer fun ctx held => told e.call.op ctx held
  · rw [aeadSession_other other]
    exact told op ctx ((Function.update_of_ne other _ s).symm.trans active)

theorem run_aeadTold (es : List (AeadEvent Aes ChaCha)) (laws : ∀ e ∈ es, m.Computes e.env.wc) :
    AeadTold m (run aeadStep aeadInit es).1 (run aeadStep aeadInit es).2 :=
  run_invariant_on (AeadTold m) (fun op ctx active => by cases active)
    (fun _ _ e computes told => aeadTold_step told e computes) es laws

theorem AeadAnswer.keeps {env : AeadEnv Aes ChaCha} {call : AeadCall} {result : AeadResult}
    {operation after : Option (AeadCtx Aes ChaCha)} (laws : m.Computes env.wc)
    (answer : AeadAnswer env call result operation after)
    (before : ∀ ctx, operation = some ctx →
      ∃ session, aeadSession call.op h = some session ∧ AeadTells m session ctx) :
    KeepsTranscript m ⟨env, call⟩ result h := by
  cases answer with
  | ended status => exact fun success => absurd success status.property
  | kept status => exact fun success => absurd success status.property
  | encryptSetup | decryptSetup | setNonce | generateNonce | setLengths | update | abort =>
    exact fun _ => trivial
  | emptyAd early empty =>
    obtain ⟨session, told, tells⟩ := before _ rfl
    exact fun _ => ⟨session, told, tells.early early⟩
  | updateAd early appended =>
    obtain ⟨session, told, tells⟩ := before _ rfl
    exact fun _ => ⟨session, told, tells.early early⟩
  | finish encrypts sealed =>
    obtain ⟨session, told, tells⟩ := before _ rfl
    exact fun _ => ⟨session, told, tells.encrypts.symm.trans encrypts,
      encryptFinal_seals laws tells encrypts sealed⟩
  | verify decrypts opened =>
    obtain ⟨session, told, tells⟩ := before _ rfl
    exact fun _ => ⟨session, told, tells.encrypts.symm.trans decrypts,
      decryptFinal_seals laws tells decrypts opened⟩

end

/-- A refused call ends its operation or leaves every operation as it was. In every run over calls of
wolfCrypt that compute the primitives, additional data is accepted only before the body, and whenever
`psa_aead_finish` or `psa_aead_verify` succeeds the declared lengths are the totals and the input and
output of all successful calls are, with the tag, the one-shot seal under the key and the nonce of the
operation. -/
theorem aead_transcript_law (m : AeadMeaning Aes ChaCha) :
    (∀ (s : AeadState Aes ChaCha) (e : AeadEvent Aes ChaCha), (aeadStep s e).1.status ≠ .success →
      (aeadStep s e).2 = Function.update s e.call.op none ∨ (aeadStep s e).2 = s) ∧
    ∀ es : List (AeadEvent Aes ChaCha), (∀ e ∈ es, m.Computes e.env.wc) →
      Throughout (KeepsTranscript m) (run aeadStep aeadInit es).1 := by
  constructor
  · intro s e failed
    have answer := aeadCall_answer e.env (s e.call.op) e.call
    change (aeadCall e.env (s e.call.op) e.call).1.status ≠ .success at failed
    change Function.update s e.call.op (aeadCall e.env (s e.call.op) e.call).2 = _ ∨
      Function.update s e.call.op (aeadCall e.env (s e.call.op) e.call).2 = _
    rcases AeadAnswer.refused answer failed with ended | kept
    · exact .inl (by rw [ended])
    · exact .inr (by rw [kept, Function.update_eq_self])
  · intro es laws
    have start : AeadTold m [] aeadInit ∧ Throughout (KeepsTranscript m) [] :=
      ⟨(fun op ctx active => by cases active), throughout_nil _⟩
    refine (run_invariant_on (fun h s => AeadTold m h s ∧ Throughout (KeepsTranscript m) h) start ?_ es
      laws).2
    rintro h s e computes ⟨told, kept⟩
    have now : KeepsTranscript m e (aeadStep s e).1 h :=
      AeadAnswer.keeps computes (aeadCall_answer e.env (s e.call.op) e.call) fun ctx active =>
        told e.call.op ctx active
    exact ⟨aeadTold_step told e computes, throughout_cons.mpr ⟨now, kept⟩⟩

/-! ### Example 1 of SP 800-38C -/

def ccmExampleKey : Bytes := beBytes 16 0x404142434445464748494a4b4c4d4e4f
def ccmExampleNonce : Bytes := [0x10, 0x11, 0x12, 0x13, 0x14, 0x15, 0x16]
def ccmExampleAlg : Algorithm := psaAlgAeadWithShortenedTag psaAlgCcm 4

/-- The blocks that AES encrypts in the example, as numbers. -/
def ccmExampleBlocks : List (Nat × Nat) :=
  [(0x4f101112131415160000000000000004, 0x2ad239bb229b8fb46e308f5bc7409b88),
    (0x2ada39ba20988bb168378f5bc7409b88, 0x2e3b95530ad7c90268caf2c597c49292),
    (0x0e1ab7700ad7c90268caf2c597c49292, 0x6084341b32042bf000b4b7995553a3c5),
    (0x07101112131415160000000000000001, 0x51432378e474b33971318484103cddfb),
    (0x07101112131415160000000000000000, 0x2d28114610676c2632bad748559a679a)]

/-- AES on the blocks of the example; elsewhere blocks of zeros. -/
def ccmExampleBlock (key block : Bytes) : Bytes :=
  beBytes 16 (if key = ccmExampleKey then (ccmExampleBlocks.lookup (beNat block)).getD 0 else 0)

def ccmExampleDecrypt (key input nonce aad tag : Bytes) : Except WcError Bytes :=
  (Ccm.decryptVerify (ccmExampleBlock key) nonce aad input tag).elim (.error .other) .ok

theorem ccmExampleDecrypt_ok_iff {key input nonce aad tag plaintext : Bytes} :
    ccmExampleDecrypt key input nonce aad tag = .ok plaintext ↔
      Ccm.decryptVerify (ccmExampleBlock key) nonce aad input tag = some plaintext := by
  unfold ccmExampleDecrypt
  cases Ccm.decryptVerify (ccmExampleBlock key) nonce aad input tag with
  | none => exact ⟨fun refused => (by cases refused), fun none => (by cases none)⟩
  | some payload => exact ⟨fun same => congrArg some (Except.ok.inj same), fun same =>
      congrArg Except.ok (Option.some.inj same)⟩

/-- AES and CCM over that block cipher; the object is its key. -/
def ccmExampleAead : WcAead Bytes Unit where
  aesZero := []
  chachaZero := ()
  aesInit := .ok []
  gcmInit _ _ _ _ := .error .other
  gcmUpdate _ _ _ _ := .error .other
  gcmEncryptFinal _ _ := .error .other
  gcmDecryptFinal _ _ := .error .other
  aesSetKeyDirect _ key := .ok key
  aesEncryptDirect key block := .ok (ccmExampleBlock key block)
  chachaInit _ _ _ := .error .other
  chachaUpdateAad _ _ := .error .other
  chachaUpdateData _ _ := .error .other
  chachaFinal _ := .error .other
  chachaCheckTag _ _ := .error .other
  aesNew := .ok []
  gcmSetKey _ _ := .error .other
  gcmEncrypt _ _ _ _ _ := .error .other
  gcmDecrypt _ _ _ _ _ := .error .other
  ccmSetKey _ key := .ok key
  ccmEncrypt key input nonce aad tagLength :=
    .ok (Ccm.generateEncrypt (ccmExampleBlock key) nonce aad input tagLength)
  ccmDecrypt key input nonce aad tag := ccmExampleDecrypt key input nonce aad tag
  chachaEncrypt _ _ _ _ := .error .other
  chachaDecrypt _ _ _ _ _ := .error .other

def ccmExampleMeaning : AeadMeaning Bytes Unit where
  block := ccmExampleBlock
  gcm _ _ _ plaintext tagLength := (plaintext, List.replicate (min tagLength 16) 0)
  chacha _ _ _ plaintext := (plaintext, List.replicate 16 0)
  length_block _ _ := length_beBytes 16 _
  length_chacha _ _ _ _ := ⟨rfl, List.length_replicate⟩
  directKey aes key := aes = key
  gcmKey _ _ := False
  ccmKey aes key := aes = key
  gcmStarted _ _ _ _ := False
  gcmBehind _ _ _ _ _ _ _ := False
  chachaBehind _ _ _ _ _ _ _ := False

theorem ccmExample_computes : ccmExampleMeaning.Computes ccmExampleAead where
  setKeyDirect keyed := (Except.ok.inj keyed).symm
  encryptDirect keyed _ done := by
    cases keyed
    exact (Except.ok.inj done).symm
  gcmInit refused := by cases refused
  gcmFirst started := started.elim
  gcmNext behind := behind.elim
  gcmTag behind := behind.elim
  gcmCheck behind := behind.elim
  chachaInit refused := by cases refused
  chachaAad behind := behind.elim
  chachaData behind := behind.elim
  chachaTag behind := behind.elim
  chachaOpened behind := behind.elim
  chachaCheckTag _ _ refused := by cases refused
  gcmSetKey refused := by cases refused
  gcmEncrypt keyed := keyed.elim
  gcmDecrypt keyed := keyed.elim
  ccmSetKey keyed := (Except.ok.inj keyed).symm
  ccmEncrypt keyed done := by
    cases keyed
    exact Except.ok.inj done
  ccmDecrypt keyed opened := by
    cases keyed
    exact Ccm.decryptVerify_eq_some_iff.mp (ccmExampleDecrypt_ok_iff.mp opened)
  chachaEncrypt refused := by cases refused
  chachaDecrypt refused := by cases refused

def ccmExampleEnv : AeadEnv Bytes Unit where
  getKeyData _ := .ok (⟨psaKeyTypeAes, 128, psaKeyLifetimeVolatile,
    psaKeyUsageEncrypt ||| psaKeyUsageDecrypt, ccmExampleAlg, psaAlgNone, 1⟩, ccmExampleKey)
  ctxAlloc := true
  keyAlloc := true
  bufferAlloc _ := true
  random := .ok fun _ => 0
  sizes := ⟨4, fun n => decide (4 ≤ n) && decide (n ≤ 16) && n % 2 == 0⟩
  wc := ccmExampleAead

/-- The message of the example in an operation that is refused in between. -/
def ccmExampleCalls : List AeadCall :=
  [.encryptSetup 0 1 ccmExampleAlg, .update 0 (.data [0]) ⟨false, 1⟩ false,
    .setNonce 0 (.data ccmExampleNonce), .setNonce 0 (.data [1]), .setLengths 0 8 4,
    .updateAd 0 (.data [0, 1, 2]), .updateAd 0 (.data [3, 4, 5, 6, 7]), .update 0 (.data [0x20]) ⟨false, 1⟩ false,
    .setLengths 1 0 0, .update 0 (.data [0x21, 0x22, 0x23]) ⟨false, 3⟩ false,
    .finish 0 ⟨true, 0⟩ ⟨false, 4⟩ false]

theorem aead_transcript_law_example :
    Throughout (KeepsTranscript ccmExampleMeaning)
      (run aeadStep aeadInit (ccmExampleCalls.map fun call => ⟨ccmExampleEnv, call⟩)).1 ∧
    ((run aeadStep aeadInit (ccmExampleCalls.map fun call => ⟨ccmExampleEnv, call⟩)).1.map
      fun answered => (answered.2.status, answered.2.output, answered.2.tag)).take 4 =
        [(.success, [], [0x4d, 0xac, 0x25, 0x5d]), (.success, [0x62, 0x01, 0x5b], []), (.badState, [], []),
          (.success, [0x71], [])] := by
  constructor
  · refine (aead_transcript_law ccmExampleMeaning).2 _ fun e member => ?_
    obtain ⟨call, -, rfl⟩ := List.mem_map.mp member
    exact ccmExample_computes
  · decide +kernel

end WolfPSA.Guarantees
