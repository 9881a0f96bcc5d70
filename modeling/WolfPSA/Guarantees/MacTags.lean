import WolfPSA.Source.KeyImport
import WolfPSA.Source.PolicyReadings
import WolfPSA.Guarantees.KeyCreation
import WolfPSA.Guarantees.MacUsage

/-!
# Which tags a verification accepts

The setup compares the policy with the length of the requested algorithm, which for a minimum-length
algorithm is its minimum; `psa_mac_verify_finish` then accepts every longer tag. So a request with a
minimum length accepts tags that an exact policy does not admit, and is refused where the policy would admit
the tag. For every other request the two readings agree.
-/

namespace WolfPSA.Guarantees
open Lib Source

variable {Hmac Cmac : Type}

/-! ## What a tag is -/

/-- The digest sizes of wolfCrypt's hashes. -/
def wcDigestSize : WcHashType → Nat
  | .md5 => 16
  | .sha => 20
  | .sha224 | .sha512_224 | .sha3_224 => 28
  | .sha256 | .sha512_256 | .sha3_256 => 32
  | .sha384 | .sha3_384 => 48
  | .sha512 | .sha3_512 => 64

/-- wolfCrypt's HMAC and CMAC objects take a message in any parts and yield the MAC of the whole. -/
structure MacLaws (wc : WcMac Hmac Cmac) where
  hmac : WcHashType → (key message : Bytes) → Bytes
  cmac : (key message : Bytes) → Bytes
  HmacFed : Hmac → WcHashType → (key message : Bytes) → Prop
  CmacFed : Cmac → (key message : Bytes) → Prop
  hmacKeyed : ∀ hash key, ∃ fresh keyed, wc.hmacInit = .ok fresh ∧
    wc.hmacSetKey fresh hash key = .ok keyed ∧ HmacFed keyed hash key []
  hmacUpdate : ∀ {h hash key message} input, HmacFed h hash key message →
    ∃ h', wc.hmacUpdate h input = .ok h' ∧ HmacFed h' hash key (message ++ input)
  hmacFinal : ∀ {h hash key message}, HmacFed h hash key message →
    wc.hmacFinal h = .ok (hmac hash key message)
  hmacLength : ∀ hash key message, (hmac hash key message).length = wcDigestSize hash
  /-- `wc_InitCmac_ex` takes the AES key sizes. -/
  cmacKeyed : ∀ key : Bytes, key.length ∈ [16, 24, 32] → ∃ c, wc.initCmac key = .ok c ∧ CmacFed c key []
  cmacUpdate : ∀ {c key message} input, CmacFed c key message →
    ∃ c', wc.cmacUpdate c input = .ok c' ∧ CmacFed c' key (message ++ input)
  cmacFinal : ∀ {c key message}, CmacFed c key message → wc.cmacFinal c 16 = .ok (cmac key message)
  cmacLength : ∀ key message, (cmac key message).length = 16

/-- The full length of the base algorithm. -/
def fullMacLength (attributes : KeyAttributes) (alg : Algorithm) : Nat :=
  psaMacLength attributes.type (psaAlgFullLengthMac alg)

/-- The key has the usage, and the type for a base algorithm that the driver has. -/
def VerifiesWith (attributes : KeyAttributes) (alg : Algorithm) : Prop :=
  psaAlgIsMac alg = true ∧ hasUsage attributes.usage psaKeyUsageVerifyMessage = true ∧
    if psaAlgIsHmac alg then attributes.type = psaKeyTypeHmac ∧ wolfpsaHashTypeFromAlg alg ≠ none
    else psaAlgIsBlockCipherMac alg = true ∧ psaAlgFullLengthMac alg = psaAlgCmac ∧
      attributes.type = psaKeyTypeAes

/-- The full MAC of a message. -/
def fullMac {wc : WcMac Hmac Cmac} (laws : MacLaws wc) (alg : Algorithm) (key message : Bytes) : Bytes :=
  match psaAlgIsHmac alg, wolfpsaHashTypeFromAlg alg with
  | true, some hash => laws.hmac hash key message
  | _, _ => laws.cmac key message

/-- The policy of the key admits the base algorithm at a length. -/
def PolicyAdmits (attributes : KeyAttributes) (alg : Algorithm) (length : Nat) : Prop :=
  ∃ p ∈ [attributes.alg, attributes.alg2], p ≠ psaAlgNone ∧
    psaAlgFullLengthMac p = psaAlgFullLengthMac alg ∧
      AcceptsLength (fullMacLength attributes alg) p length

/-- The requested algorithm allows a length. A truncation below four bytes is no algorithm of the driver. -/
def RequestAllows (attributes : KeyAttributes) (alg : Algorithm) (length : Nat) : Prop :=
  AcceptsLength (fullMacLength attributes alg) alg length ∧ length ≤ fullMacLength attributes alg ∧
    (psaMacTruncatedLength alg ≠ 0 → 4 ≤ psaMacTruncatedLength alg)

/-- The tags that a key and an algorithm permit for a message. -/
def TagPermitted {wc : WcMac Hmac Cmac} (laws : MacLaws wc) (attributes : KeyAttributes) (key : Bytes)
    (alg : Algorithm) (message tag : Bytes) : Prop :=
  VerifiesWith attributes alg ∧ PolicyAdmits attributes alg tag.length ∧
    RequestAllows attributes alg tag.length ∧ tag = (fullMac laws alg key message).take tag.length

/-! ## The calls of a verification -/

/-- The updates, one for each part of the message, up to the first that fails. -/
def macUpdates (env : MacEnv Hmac Cmac) (operation : Option (MacCtx Hmac Cmac)) :
    List Bytes → Status × Option (MacCtx Hmac Cmac)
  | [] => (.success, operation)
  | part :: parts =>
    match psaMacUpdate env operation (.data part) with
    | (.success, operation) => macUpdates env operation parts
    | refused => refused

/-- Setup, updates and finish, with the status of the first call that fails or of the finish. -/
def macVerification (env : MacEnv Hmac Cmac) (key : KeyId) (alg : Algorithm) (parts : List Bytes)
    (tag : Bytes) : Status :=
  match psaMacVerifySetup env none key alg with
  | (.success, operation) =>
    match macUpdates env operation parts with
    | (.success, operation) => (psaMacVerifyFinish env operation (.data tag)).1
    | (status, _) => status
  | (status, _) => status

/-- `psa_mac_verify` makes these calls, with the message in one part. -/
theorem psaMacVerify_eq (env : MacEnv Hmac Cmac) (key : KeyId) (alg : Algorithm) (message tag : Bytes) :
    psaMacVerify env key alg (.data message) (.data tag) = macVerification env key alg [message] tag := by
  unfold psaMacVerify macVerification macUpdates
  rcases psaMacVerifySetup env none key alg with ⟨granted, operation⟩
  cases granted
  case success =>
    dsimp only
    rcases psaMacUpdate env operation (.data message) with ⟨updated, operation⟩
    cases updated <;> rfl
  all_goals rfl

/-! ## The setup -/

section

variable {wc : WcMac Hmac Cmac} {attributes : KeyAttributes} {alg : Algorithm} {data : Bytes} {key : KeyId}

/-- The object of an operation has taken the key and the message. -/
def Fed (laws : MacLaws wc) (alg : Algorithm) (key message : Bytes) : MacUnderlying Hmac Cmac → Prop
  | .none => False
  | .hmac h => psaAlgIsHmac alg = true ∧ ∃ hash, wolfpsaHashTypeFromAlg alg = some hash ∧
      laws.HmacFed h hash key message
  | .cmac c => psaAlgIsHmac alg = false ∧ laws.CmacFed c key message

/-- The key data is of a kind that `psa_import_key` accepts for the type. -/
def Imported (attributes : KeyAttributes) (data : Bytes) : Prop :=
  ∃ cfg requested checked, importCheck cfg requested data = .ok checked ∧ checked.type = attributes.type

private theorem Imported.length (imported : Imported attributes data) : data.length ≤ uint32Max := by
  obtain ⟨_, _, _, accepted, -⟩ := imported
  have bound := (importCheck_ok accepted).2.1
  unfold intMax at bound
  unfold uint32Max
  omega

private theorem Imported.aes (imported : Imported attributes data) (typed : attributes.type = psaKeyTypeAes) :
    data.length ∈ [16, 24, 32] := by
  obtain ⟨cfg, requested, checked, accepted, same⟩ := imported
  have passed : importCheckType cfg.wc checked data = .success := by
    unfold importCheck at accepted
    split_ifs at accepted
    split at accepted
    · split_ifs at accepted
    · dsimp only at accepted
      split_ifs at accepted with refused
      cases accepted
      exact not_not.mp refused
  unfold importCheckType at passed
  rw [same, typed] at passed
  dsimp only at passed
  rw [show (psaKeyTypeAes == psaKeyTypeChacha20 || psaKeyTypeAes == psaKeyTypeXchacha20) = false from rfl,
    Bool.false_and, if_neg (by decide), if_pos (by decide)] at passed
  split_ifs at passed with bits length
  simp only [List.mem_cons, List.not_mem_nil, or_false]
  simp only [Bool.and_eq_true, bne_iff_ne, ne_eq, not_and_or, not_not] at length
  tauto

/-- `wolfpsa_mac_alg_permitted` reads the policy at the length of the requested algorithm. -/
private theorem permitted_iff :
    (wolfpsaMacAlgPermitted attributes attributes.alg alg = true ∨
        wolfpsaMacAlgPermitted attributes attributes.alg2 alg = true) ↔
      PolicyAdmits attributes alg (psaMacLength attributes.type alg) := by
  have one (p : Algorithm) : wolfpsaMacAlgPermitted attributes p alg = true ↔ p ≠ psaAlgNone ∧
      psaAlgFullLengthMac p = psaAlgFullLengthMac alg ∧
        AcceptsLength (fullMacLength attributes alg) p (psaMacLength attributes.type alg) := by
    by_cases set : p = psaAlgNone
    · rw [set, macAlgPermitted_none]
      simp
    · rw [macAlgPermitted_iff set]
      exact ⟨fun permitted => ⟨set, permitted⟩, fun permitted => permitted.2⟩
  unfold PolicyAdmits
  rw [one, one]
  simp only [List.mem_cons, List.not_mem_nil, or_false, exists_eq_or_imp, exists_eq_left]

variable {env : MacEnv Hmac Cmac}

private theorem wolfpsaMacCheckKey_of {usage : KeyUsage}
    (found : env.getKeyData key = .ok (attributes, data))
    (typed : if psaAlgIsHmac alg then attributes.type = psaKeyTypeHmac
      else psaAlgIsBlockCipherMac alg = true ∧ attributes.type = psaKeyTypeAes)
    (allowed : hasUsage attributes.usage usage = true)
    (admits : PolicyAdmits attributes alg (psaMacLength attributes.type alg)) :
    wolfpsaMacCheckKey env.getKeyData key usage alg = .ok (attributes, data) := by
  have permitted := permitted_iff.mpr admits
  unfold wolfpsaMacCheckKey
  rw [found]
  dsimp only
  rw [allowed]
  cases hmac : psaAlgIsHmac alg with
  | true =>
    rw [hmac, if_pos rfl] at typed
    rcases permitted with permitted | permitted <;> simp [typed, permitted]
  | false =>
    rw [hmac, if_neg (by decide)] at typed
    rcases permitted with permitted | permitted <;> simp [typed, permitted]

private theorem wolfpsaMacCheckKey_typed {usage : KeyUsage}
    (found : env.getKeyData key = .ok (attributes, data))
    (passed : wolfpsaMacCheckKey env.getKeyData key usage alg = .ok (attributes, data)) :
    if psaAlgIsHmac alg then attributes.type = psaKeyTypeHmac
      else psaAlgIsBlockCipherMac alg = true ∧ attributes.type = psaKeyTypeAes := by
  unfold wolfpsaMacCheckKey at passed
  rw [found] at passed
  dsimp only at passed
  cases hmac : psaAlgIsHmac alg with
  | true =>
    rw [hmac] at passed
    split_ifs at passed with typed
    simpa using typed
  | false =>
    rw [hmac] at passed
    split_ifs at passed with _ typed known
    simp only [Bool.not_false, Bool.true_and, bne_iff_ne, ne_eq, Bool.and_eq_true, Bool.not_eq_true',
      not_and, not_not, Bool.not_eq_false] at typed known
    exact ⟨known, typed known⟩

/-- The context of a verification over a wolfCrypt object. -/
private abbrev verifyCtx (attributes : KeyAttributes) (alg : Algorithm)
    (underlying : MacUnderlying Hmac Cmac) : MacCtx Hmac Cmac :=
  ⟨alg, attributes.type, attributes.bits, psaMacLength attributes.type alg, fullMacLength attributes alg,
    underlying⟩

/-- The setup of a verification, when the process has memory for the context. -/
private theorem macSetupCtx_of (laws : MacLaws env.wc) (imported : Imported attributes data)
    (found : env.getKeyData key = .ok (attributes, data)) (memory : env.ctxAlloc = true)
    (verifies : VerifiesWith attributes alg)
    (admits : PolicyAdmits attributes alg (psaMacLength attributes.type alg))
    (sized : macSetupLengths alg (psaMacLength attributes.type alg) (fullMacLength attributes alg) =
      .success) :
    ∃ underlying, Fed laws alg data [] underlying ∧
      macSetupCtx env key alg psaKeyUsageVerifyMessage = .ok (verifyCtx attributes alg underlying) := by
  obtain ⟨mac, allowed, typed⟩ := verifies
  have word : ¬wolfpsaCheckWord32Length data.length ≠ .success := not_not.mpr (if_neg (by
    have := imported.length
    omega))
  have checked : wolfpsaMacCheckKey env.getKeyData key psaKeyUsageVerifyMessage alg =
      .ok (attributes, data) := by
    refine wolfpsaMacCheckKey_of found ?_ allowed admits
    split at typed
    · rw [if_pos ‹_›]
      exact typed.1
    · rw [if_neg ‹_›]
      exact ⟨typed.1, typed.2.2⟩
  unfold fullMacLength at sized
  unfold macSetupCtx
  rw [mac, checked]
  dsimp only
  rw [sized, memory, if_neg (by decide), if_neg (by decide), if_neg word]
  cases hmac : psaAlgIsHmac alg with
  | true =>
    rw [hmac, if_pos rfl] at typed
    obtain ⟨hash, selected⟩ := Option.ne_none_iff_exists'.mp typed.2
    obtain ⟨fresh, keyed, init, set, fed⟩ := laws.hmacKeyed hash data
    refine ⟨.hmac keyed, ⟨hmac, hash, selected, fed⟩, ?_⟩
    have made : macSetupUnderlying env.wc alg (some hash) data = .ok (.hmac keyed) := by
      unfold macSetupUnderlying
      dsimp only
      rw [init]
      show (env.wc.hmacSetKey fresh hash data >>= _) = _
      rw [set]
      rfl
    rw [selected, if_neg (show ¬(true && (some hash == none)) = true from nofun), if_pos rfl, made]
    rfl
  | false =>
    rw [hmac, if_neg (by decide)] at typed
    obtain ⟨cipher, base, aes⟩ := typed
    obtain ⟨c, init, fed⟩ := laws.cmacKeyed data (imported.aes aes)
    refine ⟨.cmac c, ⟨hmac, fed⟩, ?_⟩
    rw [Bool.false_and, if_neg (by decide), if_neg (by decide)]
    have made : macSetupUnderlying env.wc alg none data = .ok (.cmac c) := by
      unfold macSetupUnderlying
      dsimp only
      rw [cipher, base, if_pos (by decide), init]
      rfl
    rw [made]
    rfl

/-- A setup that succeeds has found all of it. -/
private theorem macSetupCtx_inv {ctx : MacCtx Hmac Cmac}
    (found : env.getKeyData key = .ok (attributes, data))
    (granted : macSetupCtx env key alg psaKeyUsageVerifyMessage = .ok ctx) :
    VerifiesWith attributes alg ∧ PolicyAdmits attributes alg (psaMacLength attributes.type alg) ∧
      macSetupLengths alg (psaMacLength attributes.type alg) (fullMacLength attributes alg) = .success := by
  unfold macSetupCtx at granted
  split at granted
  · cases granted
  rename_i mac
  split at granted
  · cases granted
  rename_i attributes' data' checked
  obtain ⟨looked, allowed, permitted⟩ := wolfpsaMacCheckKey_ok checked
  rw [found] at looked
  cases looked
  have typed := wolfpsaMacCheckKey_typed found checked
  dsimp only at granted allowed permitted
  split at granted
  · cases granted
  split at granted
  · cases granted
  split at granted
  · cases granted
  rename_i hashed
  split at granted
  case h_2 => cases granted
  rename_i sized
  refine ⟨⟨by simpa using mac, allowed, ?_⟩, permitted_iff.mp permitted, sized⟩
  cases hmac : psaAlgIsHmac alg with
  | true =>
    rw [hmac] at typed hashed
    exact ⟨typed, by simpa using hashed⟩
  | false =>
    rw [hmac] at typed granted
    refine ⟨typed.1, ?_, typed.2⟩
    by_contra other
    unfold macSetupUnderlying at granted
    rw [if_neg (by decide)] at granted
    dsimp only at granted
    rw [if_neg (by simp [other])] at granted
    cases granted

/-! ## Lengths -/

private theorem psaHashLength_eq {hash : Algorithm} {selected : WcHashType}
    (known : wcHashTypeOfHash hash = some selected) : psaHashLength hash = wcDigestSize selected := by
  have listed : hash ∈ [psaAlgMd5, psaAlgSha1, psaAlgSha224, psaAlgSha256, psaAlgSha384, psaAlgSha512,
      psaAlgSha512_224, psaAlgSha512_256, psaAlgSha3_224, psaAlgSha3_256, psaAlgSha3_384, psaAlgSha3_512] := by
    by_contra other
    simp only [List.mem_cons, List.not_mem_nil, or_false, not_or] at other
    obtain ⟨h₁, h₂, h₃, h₄, h₅, h₆, h₇, h₈, h₉, h₁₀, h₁₁, h₁₂⟩ := other
    unfold wcHashTypeOfHash at known
    simp only [beq_iff_eq, h₁, h₂, h₃, h₄, h₅, h₆, h₇, h₈, h₉, h₁₀, h₁₁, h₁₂, if_false] at known
    cases known
  simp only [List.mem_cons, List.not_mem_nil, or_false] at listed
  rcases listed with rfl | rfl | rfl | rfl | rfl | rfl | rfl | rfl | rfl | rfl | rfl | rfl
  all_goals
    cases (show some _ = some selected from known)
    decide

private theorem wcDigestSize_pos (hash : WcHashType) : 0 < wcDigestSize hash := by
  cases hash <;> decide

private theorem fullMacLength_bounds (verifies : VerifiesWith attributes alg) :
    0 < fullMacLength attributes alg ∧ fullMacLength attributes alg ≤ psaMacMaxSize ∧
      (psaAlgIsHmac alg = false → fullMacLength attributes alg = 16) ∧
      ∀ hash, psaAlgIsHmac alg = true → wolfpsaHashTypeFromAlg alg = some hash →
        fullMacLength attributes alg = wcDigestSize hash := by
  have untruncated : (psaAlgFullLengthMac alg &&& psaAlgMacTruncationMask != 0) = false := by
    rw [truncationMask_bne_zero, psaMacTruncatedLength_full]
    rfl
  obtain ⟨-, -, typed⟩ := verifies
  unfold fullMacLength psaMacLength
  rw [untruncated, if_neg (by decide), psaAlgIsHmac_full, psaAlgIsBlockCipherMac_full, psaAlgHmacGetHash_full]
  cases hmac : psaAlgIsHmac alg with
  | true =>
    rw [hmac, if_pos rfl] at typed
    obtain ⟨hash, selected⟩ := Option.ne_none_iff_exists'.mp typed.2
    have size (hash : WcHashType) (selected : wolfpsaHashTypeFromAlg alg = some hash) :
        psaHashLength (psaAlgHmacGetHash alg) = wcDigestSize hash := by
      unfold wolfpsaHashTypeFromAlg at selected
      rw [hmac, if_pos rfl] at selected
      exact psaHashLength_eq selected
    refine ⟨?_, psaHashLength_le _, nofun, fun hash _ => size hash⟩
    rw [if_pos rfl, size hash selected]
    exact wcDigestSize_pos hash
  | false =>
    rw [hmac, if_neg (by decide)] at typed
    rw [if_neg (by decide), typed.1, if_pos rfl, typed.2.2]
    exact ⟨by decide, by decide, fun _ => by decide, nofun⟩

private theorem macSetupLengths_iff {m full : Nat} :
    macSetupLengths alg m full = .success ↔ 0 < m ∧ m ≤ full ∧
      (psaMacTruncatedLength alg ≠ 0 → 4 ≤ psaMacTruncatedLength alg ∧ psaMacTruncatedLength alg ≤ full) := by
  unfold macSetupLengths
  rw [truncationMask_bne_zero]
  split_ifs with bad truncated long short
  all_goals
    simp only [Bool.or_eq_true, beq_iff_eq, decide_eq_true_eq, bne_iff_ne, ne_eq, true_iff, false_iff] at *
    omega

/-- The lengths that setup and finish let through are those that the requested algorithm allows. -/
private theorem requestAllows_iff (positive : 0 < fullMacLength attributes alg) {n : Nat} :
    RequestAllows attributes alg n ↔
      macSetupLengths alg (psaMacLength attributes.type alg) (fullMacLength attributes alg) = .success ∧
        if macIsWildcard alg then psaMacLength attributes.type alg ≤ n ∧ n ≤ fullMacLength attributes alg
        else n = psaMacLength attributes.type alg := by
  have length := psaMacLength_eq attributes.type alg
  rw [show psaMacLength attributes.type (psaAlgFullLengthMac alg) = fullMacLength attributes alg from rfl]
    at length
  rw [macSetupLengths_iff]
  unfold RequestAllows AcceptsLength
  generalize psaMacTruncatedLength alg = field at length ⊢
  by_cases unset : field = 0
  · rw [if_pos unset] at length ⊢
    split <;> omega
  · rw [if_neg unset] at length ⊢
    split <;> omega

/-! ## Updates and finish -/

variable {ctx : MacCtx Hmac Cmac} {message : Bytes}

private theorem psaMacUpdate_fed (laws : MacLaws env.wc) (fed : Fed laws alg data message ctx.underlying)
    {part : Bytes} (few : part.length ≤ uint32Max) :
    ∃ underlying, Fed laws alg data (message ++ part) underlying ∧
      psaMacUpdate env (some ctx) (.data part) = (.success, some { ctx with underlying := underlying }) := by
  have word : ¬wolfpsaCheckWord32Length part.length ≠ .success := not_not.mpr (if_neg (by omega))
  unfold psaMacUpdate
  simp only [InBuf.isNull, InBuf.length, InBuf.bytes, Bool.false_and, Bool.false_eq_true, if_false, word,
    beq_iff_eq]
  by_cases empty : part.length = 0
  · rw [if_pos empty, List.eq_nil_of_length_eq_zero empty, List.append_nil]
    exact ⟨ctx.underlying, fed, rfl⟩
  rw [if_neg empty]
  cases object : ctx.underlying with
  | none =>
    rw [object] at fed
    exact fed.elim
  | hmac h =>
    obtain ⟨hmac, hash, selected, fed⟩ := object ▸ fed
    obtain ⟨h', updated, fed⟩ := laws.hmacUpdate part fed
    refine ⟨.hmac h', ⟨hmac, hash, selected, fed⟩, ?_⟩
    dsimp only
    rw [updated]
  | cmac c =>
    obtain ⟨hmac, fed⟩ := object ▸ fed
    obtain ⟨c', updated, fed⟩ := laws.cmacUpdate part fed
    refine ⟨.cmac c', ⟨hmac, fed⟩, ?_⟩
    dsimp only
    rw [updated]

private theorem macUpdates_fed (laws : MacLaws env.wc) {parts : List Bytes}
    (few : ∀ part ∈ parts, part.length ≤ uint32Max) (fed : Fed laws alg data message ctx.underlying) :
    ∃ underlying, Fed laws alg data (message ++ parts.flatten) underlying ∧
      macUpdates env (some ctx) parts = (.success, some { ctx with underlying := underlying }) := by
  induction parts generalizing ctx message with
  | nil => exact ⟨ctx.underlying, by rwa [List.flatten_nil, List.append_nil], rfl⟩
  | cons part parts ih =>
    obtain ⟨taken, fed, updated⟩ := psaMacUpdate_fed laws fed (few part List.mem_cons_self)
    have rest := ih (fun p member => few p (List.mem_cons_of_mem _ member))
      (show Fed laws alg data (message ++ part) { ctx with underlying := taken }.underlying from fed)
    obtain ⟨last, fed, later⟩ := rest
    refine ⟨last, by rwa [List.flatten_cons, ← List.append_assoc], ?_⟩
    unfold macUpdates
    rw [updated]
    exact later

/-- The object yields the full MAC, and wolfCrypt reports at least the full length. -/
private theorem macFinalFull_fed (laws : MacLaws env.wc) (fed : Fed laws alg data message ctx.underlying)
    (cipher : psaAlgIsHmac alg = false → ctx.fullLength = 16) :
    macFinalFull env ctx = .ok (fullMac laws alg data message, ctx.fullLength) := by
  unfold macFinalFull fullMac
  cases object : ctx.underlying with
  | none =>
    rw [object] at fed
    exact fed.elim
  | hmac h =>
    obtain ⟨hmac, hash, selected, fed⟩ := object ▸ fed
    dsimp only
    rw [laws.hmacFinal fed, hmac, selected]
  | cmac c =>
    obtain ⟨hmac, fed⟩ := object ▸ fed
    dsimp only
    rw [cipher hmac, laws.cmacFinal fed, hmac]
    dsimp only
    rw [laws.cmacLength]

private theorem psaMacVerifyFinish_iff (laws : MacLaws env.wc) (same : ctx.alg = alg)
    (fed : Fed laws alg data message ctx.underlying) (cipher : psaAlgIsHmac alg = false → ctx.fullLength = 16)
    (within : ctx.macLength ≤ ctx.fullLength) (most : ctx.fullLength ≤ psaMacMaxSize) {tag : Bytes} :
    (psaMacVerifyFinish env (some ctx) (.data tag)).1 = .success ↔
      (if macIsWildcard alg then ctx.macLength ≤ tag.length ∧ tag.length ≤ ctx.fullLength
        else tag.length = ctx.macLength) ∧ tag = (fullMac laws alg data message).take tag.length := by
  subst same
  unfold psaMacVerifyFinish
  dsimp only
  rw [show (ctx.alg &&& psaAlgMacAtLeastThisLengthFlag != 0) = macIsWildcard ctx.alg from rfl]
  -- what is computed, as long as the tag may be
  have computed (length : Nat) (fits : length ≤ ctx.fullLength) :
      wolfpsaMacFinal env { ctx with macLength := length } ⟨false, psaMacMaxSize⟩ false =
        .ok ((fullMac laws ctx.alg data message).take length) := by
    have full : macFinalFull env { ctx with macLength := length } =
        .ok (fullMac laws ctx.alg data message, ctx.fullLength) := macFinalFull_fed laws (by exact fed) cipher
    unfold wolfpsaMacFinal
    dsimp only
    rw [Bool.false_or, Bool.false_and, if_neg (by decide), if_neg (by omega), if_neg (by omega), full]
    dsimp only
    rw [if_neg (by omega)]
  have compared (length : Nat) (fits : tag.length ≤ length) :
      (((fullMac laws ctx.alg data message).take length).take tag.length == tag) = true ↔
        tag = (fullMac laws ctx.alg data message).take tag.length := by
    rw [List.take_take, Nat.min_eq_left fits, beq_iff_eq]
    exact eq_comm
  cases wild : macIsWildcard ctx.alg with
  | true =>
    simp only [Bool.true_and, Bool.not_true, Bool.false_and, Bool.false_eq_true, if_false, if_true,
      Bool.or_eq_true, decide_eq_true_eq]
    rw [computed ctx.fullLength (Nat.le_refl _)]
    dsimp only
    split_ifs with outside long equal
    · exact ⟨nofun, fun accepted => absurd accepted.1 (by omega)⟩
    · exact ⟨nofun, fun accepted => absurd accepted.1 (by omega)⟩
    · exact ⟨fun _ => ⟨by omega, (compared _ (by omega)).mp equal⟩, fun _ => rfl⟩
    · exact ⟨nofun, fun accepted => absurd ((compared _ (by omega)).mpr accepted.2) equal⟩
  | false =>
    simp only [Bool.not_false, Bool.true_and, Bool.false_and, Bool.false_eq_true, if_false, bne_iff_ne]
    rw [computed ctx.macLength within]
    dsimp only
    split_ifs with outside long equal
    · exact ⟨nofun, fun accepted => absurd accepted.1 outside⟩
    · exact ⟨nofun, fun accepted => absurd accepted.1 (by omega)⟩
    · exact ⟨fun _ => ⟨not_not.mp outside, (compared _ (by omega)).mp equal⟩, fun _ => rfl⟩
    · exact ⟨nofun, fun accepted => absurd ((compared _ (by omega)).mpr accepted.2) equal⟩

/-! ## Every verification -/

private theorem psaMacVerifySetup_of {ctx : MacCtx Hmac Cmac}
    (granted : macSetupCtx env key alg psaKeyUsageVerifyMessage = .ok ctx) :
    psaMacVerifySetup env none key alg = (.success, some ctx) := by
  unfold psaMacVerifySetup wolfpsaMacSetup
  dsimp only
  rw [granted]

private theorem macVerification_inactive {parts : List Bytes} {tag : Bytes} {status : Status}
    (refused : macSetupCtx env key alg psaKeyUsageVerifyMessage = .error status) :
    macVerification env key alg parts tag ≠ .success := by
  have setup : psaMacVerifySetup env none key alg = (status, none) := by
    unfold psaMacVerifySetup wolfpsaMacSetup
    dsimp only
    rw [refused]
  unfold macVerification
  rw [setup]
  cases status
  case success => cases parts <;> exact nofun
  all_goals exact nofun

/-- What a verification accepts: the policy is read at the length of the requested algorithm, the tag at the
lengths that this algorithm allows. -/
theorem macVerification_iff (laws : MacLaws env.wc) (imported : Imported attributes data)
    (found : env.getKeyData key = .ok (attributes, data)) (memory : env.ctxAlloc = true)
    {parts : List Bytes} (few : ∀ part ∈ parts, part.length ≤ uint32Max) {tag : Bytes} :
    macVerification env key alg parts tag = .success ↔
      VerifiesWith attributes alg ∧ PolicyAdmits attributes alg (psaMacLength attributes.type alg) ∧
        RequestAllows attributes alg tag.length ∧
          tag = (fullMac laws alg data parts.flatten).take tag.length := by
  cases result : macSetupCtx env key alg psaKeyUsageVerifyMessage with
  | error status =>
    refine ⟨fun accepted => absurd accepted (macVerification_inactive result), ?_⟩
    rintro ⟨verifies, admits, allows, -⟩
    have sized := ((requestAllows_iff (fullMacLength_bounds verifies).1).mp allows).1
    obtain ⟨_, -, granted⟩ := macSetupCtx_of laws imported found memory verifies admits sized
    cases result.symm.trans granted
  | ok ctx =>
    obtain ⟨verifies, admits, sized⟩ := macSetupCtx_inv found result
    obtain ⟨underlying, fed, granted⟩ := macSetupCtx_of laws imported found memory verifies admits sized
    cases result.symm.trans granted
    obtain ⟨positive, most, cipher, -⟩ := fullMacLength_bounds verifies
    have setup := psaMacVerifySetup_of result
    have updates : ∃ last, Fed laws alg data ([] ++ parts.flatten) last ∧
        macUpdates env (some (verifyCtx attributes alg underlying)) parts =
          (.success, some (verifyCtx attributes alg last)) := macUpdates_fed laws few fed
    obtain ⟨last, fed, updated⟩ := updates
    rw [List.nil_append] at fed
    have finish : (psaMacVerifyFinish env (some (verifyCtx attributes alg last)) (.data tag)).1 = .success ↔
        _ := psaMacVerifyFinish_iff laws rfl fed cipher (macSetupLengths_iff.mp sized).2.1 most
    unfold macVerification
    rw [setup]
    dsimp only
    rw [updated]
    dsimp only
    rw [finish, requestAllows_iff positive]
    exact ⟨fun ⟨allowed, equal⟩ => ⟨verifies, admits, ⟨sized, allowed⟩, equal⟩,
      fun ⟨_, _, ⟨_, allowed⟩, equal⟩ => ⟨allowed, equal⟩⟩

private theorem fullMac_length (laws : MacLaws env.wc) (verifies : VerifiesWith attributes alg) :
    (fullMac laws alg data message).length = fullMacLength attributes alg := by
  obtain ⟨-, -, cipher, hashed⟩ := fullMacLength_bounds verifies
  obtain ⟨-, -, typed⟩ := verifies
  unfold fullMac
  cases hmac : psaAlgIsHmac alg with
  | true =>
    rw [hmac, if_pos rfl] at typed
    obtain ⟨hash, selected⟩ := Option.ne_none_iff_exists'.mp typed.2
    rw [selected, hashed hash hmac selected]
    exact laws.hmacLength hash data message
  | false =>
    rw [cipher hmac]
    exact laws.cmacLength data message

/-- For a request with a minimum length: the policy admits the minimum exactly when it admits a tag of the
given length, unless the request does not allow that length or the key does not serve the algorithm. -/
def TagLengthsAgree (attributes : KeyAttributes) (alg : Algorithm) (n : Nat) : Prop :=
  macIsWildcard alg = true → VerifiesWith attributes alg → RequestAllows attributes alg n →
    (PolicyAdmits attributes alg (psaMacLength attributes.type alg) ↔ PolicyAdmits attributes alg n)

/-- Of the tags of a length, a verification accepts those that key and request permit, in whatever parts the
message comes and also in one call, exactly when the two readings of the length agree. -/
theorem verification_accepts_permitted_iff (laws : MacLaws env.wc) (imported : Imported attributes data)
    (found : env.getKeyData key = .ok (attributes, data)) (memory : env.ctxAlloc = true) (n : Nat) :
    ((∀ parts : List Bytes, (∀ part ∈ parts, part.length ≤ uint32Max) → ∀ tag : Bytes, tag.length = n →
        (macVerification env key alg parts tag = .success ↔
          TagPermitted laws attributes data alg parts.flatten tag)) ∧
      ∀ message : Bytes, message.length ≤ uint32Max → ∀ tag : Bytes, tag.length = n →
        (psaMacVerify env key alg (.data message) (.data tag) = .success ↔
          TagPermitted laws attributes data alg message tag)) ↔
    TagLengthsAgree attributes alg n := by
  constructor
  · rintro ⟨exactly, -⟩ wild verifies allows
    have length : ((fullMac laws alg data []).take n).length = n := by
      rw [List.length_take, fullMac_length laws verifies]
      exact Nat.min_eq_left allows.2.1
    have right := exactly [] (fun _ member => absurd member List.not_mem_nil) _ length
    rw [macVerification_iff laws imported found memory (fun _ member => absurd member List.not_mem_nil),
      TagPermitted, length] at right
    simpa only [verifies, allows, true_and, List.flatten_nil, and_true] using right
  · intro agree
    have every (parts : List Bytes) (few : ∀ part ∈ parts, part.length ≤ uint32Max) (tag : Bytes)
        (length : tag.length = n) : macVerification env key alg parts tag = .success ↔
          TagPermitted laws attributes data alg parts.flatten tag := by
      rw [macVerification_iff laws imported found memory few, TagPermitted, length]
      refine and_congr_right fun verifies => ?_
      rw [← and_assoc, ← and_assoc, and_congr_left_iff]
      rintro -
      rw [and_congr_left_iff]
      intro allows
      cases wild : macIsWildcard alg with
      | true => exact agree wild verifies allows
      | false =>
        have same := ((requestAllows_iff (fullMacLength_bounds verifies).1).mp allows).2
        rw [wild, if_neg (by decide)] at same
        rw [same]
    refine ⟨every, fun message few tag length => ?_⟩
    rw [psaMacVerify_eq, every [message] (fun part member => List.mem_singleton.mp member ▸ few) tag length,
      List.flatten_singleton]

end

/-! ## A longer tag than the policy admits -/

/-- HMAC with its value for the empty message under `sampleMacKey`; the objects hold hash, key and message. -/
def sampleHmac (hash : WcHashType) (key message : Bytes) : Bytes :=
  if hash = .sha256 ∧ key = sampleMacKey ∧ message = [] then sampleMac
  else List.replicate (wcDigestSize hash) 0

def tagWc : WcMac (WcHashType × Bytes × Bytes) (Bytes × Bytes) where
  hmacInit := .ok (.md5, [], [])
  hmacSetKey _ hash key := .ok (hash, key, [])
  hmacUpdate h input := .ok (h.1, h.2.1, h.2.2 ++ input)
  hmacFinal h := .ok (sampleHmac h.1 h.2.1 h.2.2)
  initCmac key := .ok (key, [])
  cmacUpdate c input := .ok (c.1, c.2 ++ input)
  cmacFinal _ _ := .ok (List.replicate 16 0)

/-- An HMAC key that may verify, with the given policy. -/
def tagAttributes (policy : Algorithm) : KeyAttributes :=
  ⟨psaKeyTypeHmac, 128, psaKeyLifetimeVolatile, psaKeyUsageVerifyMessage, policy, psaAlgNone, psaKeyIdVendorMin⟩

def tagEnv (policy : Algorithm) : MacEnv (WcHashType × Bytes × Bytes) (Bytes × Bytes) where
  getKeyData _ := .ok (tagAttributes policy, sampleMacKey)
  ctxAlloc := true
  wc := tagWc

def tagLaws (policy : Algorithm) : MacLaws (tagEnv policy).wc where
  hmac := sampleHmac
  cmac _ _ := List.replicate 16 0
  HmacFed h hash key message := h = (hash, key, message)
  CmacFed c key message := c = (key, message)
  hmacKeyed hash key := ⟨_, _, rfl, rfl, rfl⟩
  hmacUpdate input fed := ⟨_, rfl, by rw [fed]⟩
  hmacFinal fed := by
    rw [fed]
    rfl
  hmacLength hash key message := by
    unfold sampleHmac
    split
    · rename_i same
      rw [same.1]
      rfl
    · exact List.length_replicate
  cmacKeyed key _ := ⟨_, rfl, rfl⟩
  cmacUpdate input fed := ⟨_, rfl, by rw [fed]⟩
  cmacFinal _ := rfl
  cmacLength _ _ := rfl

/-- The policy is a MAC of exactly 16 bytes. A request for at least 16 bytes passes the setup, and the tag
of 32 bytes is accepted. -/
theorem exact_policy_accepts_longer_tag :
    let policy := psaAlgTruncatedMac (psaAlgHmac psaAlgSha256) 16
    let request := psaAlgAtLeastThisLengthMac (psaAlgHmac psaAlgSha256) 16
    macVerification (tagEnv policy) psaKeyIdVendorMin request [] sampleMac = .success ∧
      ¬TagPermitted (tagLaws policy) (tagAttributes policy) sampleMacKey request [] sampleMac := by
  refine ⟨by decide, ?_⟩
  rintro ⟨-, ⟨p, member, set, -, admits⟩, -⟩
  rcases List.mem_cons.mp member with rfl | member
  · exact absurd admits (by unfold AcceptsLength; decide)
  · rcases List.mem_cons.mp member with rfl | member
    · exact set rfl
    · cases member

/-- Under a policy of at least 16 bytes a request for the full length accepts the tag of 32 bytes. -/
theorem verification_accepts_permitted_iff_full :
    let policy := psaAlgAtLeastThisLengthMac (psaAlgHmac psaAlgSha256) 16
    psaMacVerify (tagEnv policy) psaKeyIdVendorMin (psaAlgHmac psaAlgSha256) (.data []) (.data sampleMac) =
        .success ∧
      TagPermitted (tagLaws policy) (tagAttributes policy) sampleMacKey (psaAlgHmac psaAlgSha256) []
        sampleMac := by
  intro policy
  have verified : psaMacVerify (tagEnv policy) psaKeyIdVendorMin (psaAlgHmac psaAlgSha256) (.data [])
      (.data sampleMac) = .success := by decide
  have agree : TagLengthsAgree (tagAttributes policy) (psaAlgHmac psaAlgSha256) 32 :=
    fun wild => absurd wild (by decide)
  have imported : Imported (tagAttributes policy) sampleMacKey :=
    ⟨plainImport, tagAttributes policy, tagAttributes policy, by decide, rfl⟩
  have found : (tagEnv policy).getKeyData psaKeyIdVendorMin = .ok (tagAttributes policy, sampleMacKey) := rfl
  have exactly := (verification_accepts_permitted_iff (tagLaws policy) imported found rfl 32).mpr agree
  exact ⟨verified, (exactly.2 [] (by decide) sampleMac rfl).mp verified⟩

end WolfPSA.Guarantees
