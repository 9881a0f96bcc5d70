import WolfPSA.Lib.Streams
import WolfPSA.Source.KeyDerivationMoves

/-!
# Key derivation: what the back ends deliver

wolfCrypt's functions fill the buffer they are given, so a back end that succeeds delivers as many
bytes as it was asked for. When each of them also delivers the beginning of one stream, so do the
block loops of `psa_key_derivation.c` (`src/psa_key_derivation.c:1067-1860`).
-/

namespace WolfPSA.Source
open Lib

variable {Hmac Cmac : Type}

/-! ## Lengths -/

/-- wolfCrypt fills the output buffers: the documented lengths of its results. A digest size is an
`int`. -/
structure ExactLengths (wc : WcKdf Hmac Cmac) : Prop where
  digest : ∀ hash, wc.hashGetDigestSize hash ≤ intMax
  extract : ∀ {hash salt secret prk}, wc.hkdfExtract hash salt secret = .ok prk →
    prk.length = wc.hashGetDigestSize hash
  expand : ∀ {hash prk info length okm}, wc.hkdfExpand hash prk info length = .ok okm →
    okm.length = length
  prfTls : ∀ {hash secret label seed length out}, wc.prfTls hash secret label seed length = .ok out →
    out.length = length
  pbkdf2 : ∀ {hash password salt cost length out}, wc.pbkdf2 hash password salt cost length = .ok out →
    out.length = length
  hmac : ∀ {hash key pieces tag}, kdfHmac wc.mac hash key pieces = .ok tag →
    tag.length = wc.hashGetDigestSize hash

theorem kdfInitialCapacity_le {wc : WcKdf Hmac Cmac} (exact : ExactLengths wc) {alg : Algorithm}
    {capacity : Nat} (initial : kdfInitialCapacity wc alg = some capacity) :
    capacity ≤ sizeMax := by
  have bound : kdfHashLen wc alg ≤ intMax := by
    unfold kdfHashLen
    split
    · exact exact.digest _
    · exact Nat.zero_le _
  unfold intMax at bound
  unfold kdfInitialCapacity psaKeyDerivationUnlimitedCapacity at initial
  unfold sizeMax at initial ⊢
  dsimp only at initial
  split_ifs at initial <;> cases initial <;> omega

theorem ofWcResult_ok {α : Type} {r : Except WcError α} {value : α}
    (success : ofWcResult r = .ok value) : r = .ok value := by
  cases r with
  | error e => cases success
  | ok a => cases success; rfl

theorem kdfCmac_length {wc : WcMac Hmac Cmac} {key : Bytes} {pieces : List Bytes} {tag : Bytes}
    (success : kdfCmac wc key pieces = .ok tag) : tag.length = wcAesBlockSize := by
  obtain ⟨fresh, -, success⟩ := except_bind_ok success
  obtain ⟨fed, -, success⟩ := except_bind_ok success
  obtain ⟨out, -, success⟩ := except_bind_ok success
  split at success
  · cases success
  · rename_i full
    cases success
    exact not_not.mp full

/-- The counter loop delivers what was asked for. -/
theorem sp800_108Loop_length {block : Nat → Except KdfFail Bytes} {blockLen : Nat}
    (positive : 0 < blockLen) (full : ∀ i k, block i = .ok k → k.length = blockLen)
    {fuel counter remaining : Nat} (enough : remaining ≤ fuel) {bytes : Bytes}
    (success : sp800_108Loop block blockLen fuel counter remaining = .ok bytes) :
    bytes.length = remaining := by
  induction fuel generalizing counter remaining bytes with
  | zero =>
    cases success
    exact (Nat.le_zero.mp enough).symm
  | succ fuel ih =>
    unfold sp800_108Loop at success
    split at success
    · rename_i done
      cases success
      exact (beq_iff_eq.mp done).symm
    · obtain ⟨k, made, success⟩ := except_bind_ok success
      obtain ⟨rest, later, success⟩ := except_bind_ok success
      cases success
      have tail := ih (by omega) later
      have head := full _ _ made
      simp only [List.length_append, List.length_take, tail, head]
      omega

theorem pbkdf2CmacIterate_length {wc : WcMac Hmac Cmac} {key : Bytes} {n : Nat} {u t bytes : Bytes}
    (width : t.length = wcAesBlockSize) (success : pbkdf2CmacIterate wc key n u t = .ok bytes) :
    bytes.length = wcAesBlockSize := by
  induction n generalizing u t with
  | zero =>
    cases success
    exact width
  | succ n ih =>
    obtain ⟨u', made, success⟩ := except_bind_ok success
    refine ih ?_ success
    rw [List.length_zipWith, width, kdfCmac_length made, Nat.min_self]

theorem pbkdf2CmacBlocks_length {wc : WcMac Hmac Cmac} {key salt : Bytes} {cost n i : Nat}
    {bytes : Bytes} (success : pbkdf2CmacBlocks wc key salt cost n i = .ok bytes) :
    bytes.length = n * wcAesBlockSize := by
  induction n generalizing i bytes with
  | zero =>
    cases success
    simp
  | succ n ih =>
    obtain ⟨t, made, success⟩ := except_bind_ok success
    obtain ⟨rest, later, success⟩ := except_bind_ok success
    cases success
    obtain ⟨u, first, iterated⟩ := except_bind_ok made
    rw [List.length_append, pbkdf2CmacIterate_length (kdfCmac_length first) iterated, ih later,
      Nat.succ_mul, Nat.add_comm]

theorem wolfpsaKdfHkdf_length {wc : WcKdf Hmac Cmac} (exact : ExactLengths wc) {ctx : KdfCtx}
    {n : Nat} {bytes : Bytes} (success : wolfpsaKdfHkdf wc ctx n = .ok bytes) :
    bytes.length = n := by
  unfold wolfpsaKdfHkdf at success
  split at success
  · cases success
  dsimp only at success
  split at success
  · -- HKDF-Extract copies from the digest
    split_ifs at success with unusable long beyond
    obtain ⟨prk, extracted, success⟩ := except_bind_ok success
    cases success
    rw [List.length_take, exact.extract (ofWcResult_ok extracted), Nat.min_eq_left]
    exact Nat.le_of_not_gt beyond
  split at success
  · split at success
    · cases success
    · exact exact.expand (ofWcResult_ok success)
  split_ifs at success
  obtain ⟨prk, extracted, success⟩ := except_bind_ok success
  exact exact.expand (ofWcResult_ok success)

theorem wolfpsaKdfTls12Prf_length {wc : WcKdf Hmac Cmac} (exact : ExactLengths wc) {ctx : KdfCtx}
    {n : Nat} {bytes : Bytes} (success : wolfpsaKdfTls12Prf wc ctx n = .ok bytes) :
    bytes.length = n := by
  unfold wolfpsaKdfTls12Prf at success
  split at success
  · cases success
  split at success
  · cases success
  · exact exact.prfTls (ofWcResult_ok success)

theorem wolfpsaKdfTls12PskToMs_length {env : KdfEnv Hmac Cmac} (exact : ExactLengths env.wc)
    {ctx : KdfCtx} {n : Nat} {bytes : Bytes}
    (success : wolfpsaKdfTls12PskToMs env ctx n = .ok bytes) : bytes.length = n := by
  unfold wolfpsaKdfTls12PskToMs at success
  split at success
  · cases success
  dsimp only at success
  split_ifs at success
  exact exact.prfTls (ofWcResult_ok success)

theorem kdfPbkdf2Cmac_length {env : KdfEnv Hmac Cmac} {ctx : KdfCtx} {n : Nat} {bytes : Bytes}
    (bound : n + wcAesBlockSize ≤ sizeMax) (success : kdfPbkdf2Cmac env ctx n = .ok bytes) :
    bytes.length = n := by
  unfold kdfPbkdf2Cmac at success
  dsimp only at success
  split at success
  · cases success
  split at success
  · cases success
  obtain ⟨key, -, success⟩ := except_bind_ok success
  split_ifs at success
  · obtain ⟨_, -, success⟩ := except_bind_ok success
    cases success
  · obtain ⟨stream, made, success⟩ := except_bind_ok success
    cases success
    rw [List.length_take, pbkdf2CmacBlocks_length made]
    unfold wcAesBlockSize at bound ⊢
    unfold sizeMax at bound ⊢
    omega

theorem wolfpsaKdfPbkdf2_length {env : KdfEnv Hmac Cmac} (exact : ExactLengths env.wc)
    {ctx : KdfCtx} {n : Nat} {bytes : Bytes} (bound : n + wcAesBlockSize ≤ sizeMax)
    (success : wolfpsaKdfPbkdf2 env ctx n = .ok bytes) : bytes.length = n := by
  unfold wolfpsaKdfPbkdf2 at success
  split at success
  · split at success
    · cases success
    split at success
    · cases success
    · exact exact.pbkdf2 (ofWcResult_ok success)
  split at success
  · exact kdfPbkdf2Cmac_length bound success
  · cases success

theorem wolfpsaKdfSp800_108Hmac_length {wc : WcKdf Hmac Cmac} (exact : ExactLengths wc)
    {ctx : KdfCtx} {n : Nat} {bytes : Bytes}
    (success : wolfpsaKdfSp800_108Hmac wc ctx n = .ok bytes) : bytes.length = n := by
  unfold wolfpsaKdfSp800_108Hmac at success
  split at success
  · cases success
  dsimp only at success
  split_ifs at success with unusable
  refine sp800_108Loop_length ?_ (fun _ _ made => exact.hmac made) (Nat.le_refl n) success
  simp only [Bool.or_eq_true, beq_iff_eq, not_or] at unusable
  omega

theorem wolfpsaKdfSp800_108Cmac_length {env : KdfEnv Hmac Cmac} {ctx : KdfCtx} {n : Nat}
    {bytes : Bytes} (success : wolfpsaKdfSp800_108Cmac env ctx n = .ok bytes) :
    bytes.length = n := by
  unfold wolfpsaKdfSp800_108Cmac at success
  dsimp only at success
  split_ifs at success
  obtain ⟨k0, -, success⟩ := except_bind_ok success
  exact sp800_108Loop_length (by decide) (fun _ _ made => kdfCmac_length made) (Nat.le_refl n)
    success

/-- Every back end fills the buffer. The block count of PBKDF2-AES-CMAC wraps for the last lengths
below `SIZE_MAX`. -/
theorem wolfpsaKdfComputeOutput_length {env : KdfEnv Hmac Cmac} (exact : ExactLengths env.wc)
    {ctx : KdfCtx} (derives : ctx.isRawKdf = false) {n : Nat} {bytes : Bytes}
    (bound : n + wcAesBlockSize ≤ sizeMax)
    (success : wolfpsaKdfComputeOutput env ctx n = .ok bytes) : bytes.length = n := by
  unfold wolfpsaKdfComputeOutput at success
  rw [if_neg (by simp [derives])] at success
  split_ifs at success
  · exact wolfpsaKdfHkdf_length exact success
  · exact wolfpsaKdfTls12Prf_length exact success
  · exact wolfpsaKdfTls12PskToMs_length exact success
  · exact wolfpsaKdfPbkdf2_length exact bound success
  · exact wolfpsaKdfSp800_108Hmac_length exact success
  · exact wolfpsaKdfSp800_108Cmac_length success

/-! ## Streams -/

/-- What the output of a derivation depends on: the algorithm, the inputs and, for SP 800-108, the
length `L` that is bound to the first output call. -/
structure KdfMaterial where
  alg : Algorithm
  isRawKdf : Bool
  inputs : KdfStep → Bytes
  otherSecretSet : Bool
  cost : Nat
  lBytes : Nat

def KdfCtx.material (ctx : KdfCtx) : KdfMaterial :=
  ⟨ctx.alg, ctx.isRawKdf, ctx.inputs, ctx.isSet .otherSecret, ctx.cost, ctx.sp800_108LBytes⟩

/-- The functions wolfCrypt computes. Where a function has an output length, its results are the
beginnings of one stream. -/
structure KdfSpec where
  digestSize : WcHashType → Nat
  extract : WcHashType → (salt secret : Bytes) → Bytes
  expand : WcHashType → (prk info : Bytes) → Nat → Byte
  prfTls : WcHashType → (secret label seed : Bytes) → Nat → Byte
  pbkdf2 : WcHashType → (password salt : Bytes) → (cost : Nat) → Nat → Byte
  hmac : WcHashType → (key : Bytes) → (pieces : List Bytes) → Bytes
  cmac : (key : Bytes) → (pieces : List Bytes) → Bytes

/-- wolfCrypt, where it succeeds, computes the functions of `spec`. -/
structure Computes (spec : KdfSpec) (wc : WcKdf Hmac Cmac) : Prop where
  digestSize : ∀ hash, wc.hashGetDigestSize hash = spec.digestSize hash
  extract : ∀ {hash salt secret prk}, wc.hkdfExtract hash salt secret = .ok prk →
    prk = spec.extract hash salt secret ∧ prk.length = spec.digestSize hash
  expand : ∀ {hash prk info length okm}, wc.hkdfExpand hash prk info length = .ok okm →
    okm = firstN (spec.expand hash prk info) length
  prfTls : ∀ {hash secret label seed length out}, wc.prfTls hash secret label seed length = .ok out →
    out = firstN (spec.prfTls hash secret label seed) length
  pbkdf2 : ∀ {hash password salt cost length out}, wc.pbkdf2 hash password salt cost length = .ok out →
    out = firstN (spec.pbkdf2 hash password salt cost) length
  hmac : ∀ {hash key pieces tag}, kdfHmac wc.mac hash key pieces = .ok tag →
    tag = spec.hmac hash key pieces ∧ tag.length = spec.digestSize hash
  cmac : ∀ {key pieces tag}, kdfCmac wc.mac key pieces = .ok tag → tag = spec.cmac key pieces

/-! ### The streams of the block loops -/

/-- The fixed input of SP 800-108 in the pieces the MAC is fed. -/
def specPieces (m : KdfMaterial) : List Bytes :=
  (if (m.inputs .label).length > 0 then [m.inputs .label] else []) ++ [[0x00]] ++
    (if (m.inputs .context).length > 0 then [m.inputs .context] else []) ++
    [be32 (m.lBytes * 8 % 2 ^ 32)]

def specIterate (mac : Bytes → Bytes) : Nat → (u t : Bytes) → Bytes
  | 0, _, t => t
  | n + 1, u, t => specIterate mac n (mac u) (List.zipWith (· ^^^ ·) t (mac u))

/-- PBKDF2 block number `i` over AES-CMAC. -/
def specPbkdf2Block (spec : KdfSpec) (m : KdfMaterial) (i : Nat) : Bytes :=
  let password := m.inputs .password
  let key := if password.length == wcAesBlockSize then password
    else spec.cmac (List.replicate wcAesBlockSize 0) [password]
  let u := spec.cmac key [m.inputs .salt ++ be32 i]
  specIterate (fun u => spec.cmac key [u]) (m.cost - 1) u u

/-- The stream of a derivation. -/
def kdfStream (spec : KdfSpec) (m : KdfMaterial) : Nat → Byte :=
  if m.isRawKdf then ofList (m.inputs .secret)
  else if psaAlgIsAnyHkdf m.alg then
    match wolfpsaKdfHashTypeFromAlg m.alg with
    | none => ofList []
    | some hash =>
      let prk := spec.extract hash (m.inputs .salt) (m.inputs .secret)
      if psaAlgIsHkdfExtract m.alg then ofList prk
      else if psaAlgIsHkdfExpand m.alg then spec.expand hash (m.inputs .secret) (m.inputs .info)
      else spec.expand hash prk (m.inputs .info)
  else if psaAlgIsTls12Prf m.alg then
    match wolfpsaPrfMacFromAlg m.alg with
    | none => ofList []
    | some mac => spec.prfTls mac (m.inputs .secret) (m.inputs .label) (m.inputs .seed)
  else if psaAlgIsTls12PskToMs m.alg then
    match wolfpsaPrfMacFromAlg m.alg with
    | none => ofList []
    | some mac =>
      let secret := m.inputs .secret
      let other := if m.otherSecretSet then m.inputs .otherSecret
        else List.replicate secret.length 0
      spec.prfTls mac (be16 other.length ++ other ++ be16 secret.length ++ secret)
        masterSecretLabel (m.inputs .seed)
  else if psaAlgIsPbkdf2Hmac m.alg then
    match wolfpsaKdfHashTypeFromAlg m.alg with
    | none => ofList []
    | some hash => spec.pbkdf2 hash (m.inputs .password) (m.inputs .salt) m.cost
  else if psaAlgIsPbkdf2 m.alg then
    blockStream (fun j => specPbkdf2Block spec m (1 + j)) wcAesBlockSize
  else if psaAlgIsSp800_108CounterHmac m.alg then
    match wolfpsaKdfHashTypeFromAlg m.alg with
    | none => ofList []
    | some hash =>
      blockStream (fun j => spec.hmac hash (m.inputs .secret)
        (be32 ((1 + j) % 2 ^ 32) :: specPieces m)) (spec.digestSize hash)
  else if m.alg == psaAlgSp800_108CounterCmac then
    let k0 := spec.cmac (m.inputs .secret) (specPieces m)
    blockStream (fun j => spec.cmac (m.inputs .secret)
      (be32 ((1 + j) % 2 ^ 32) :: specPieces m ++ [k0])) wcAesBlockSize
  else ofList []

section

variable {spec : KdfSpec} {wc : WcKdf Hmac Cmac}

/-- The counter loop delivers the beginning of the stream of its blocks. -/
theorem sp800_108Loop_stream {block : Nat → Except KdfFail Bytes} {f : Nat → Bytes} {blockLen : Nat}
    (positive : 0 < blockLen) (full : ∀ i k, block i = .ok k → k = f i ∧ k.length = blockLen)
    {fuel counter remaining : Nat} (word : counter < 2 ^ 32) (enough : remaining ≤ fuel)
    {bytes : Bytes} (success : sp800_108Loop block blockLen fuel counter remaining = .ok bytes) :
    bytes = firstN (blockStream (fun j => f ((counter + j) % 2 ^ 32)) blockLen) remaining := by
  induction fuel generalizing counter remaining bytes with
  | zero =>
    cases success
    rw [Nat.le_zero.mp enough]
    rfl
  | succ fuel ih =>
    unfold sp800_108Loop at success
    split at success
    · rename_i done
      cases success
      rw [beq_iff_eq.mp done]
      rfl
    · rename_i more
      obtain ⟨k, made, success⟩ := except_bind_ok success
      obtain ⟨rest, later, success⟩ := except_bind_ok success
      cases success
      obtain ⟨same, length⟩ := full _ _ made
      have tail := ih (Nat.mod_lt _ (by decide)) (by omega) later
      have first : f ((counter + 0) % 2 ^ 32) = k := by
        rw [Nat.add_zero, Nat.mod_eq_of_lt word, same]
      rcases Nat.le_total remaining blockLen with short | long
      · rw [tail, Nat.sub_eq_zero_of_le short, firstN_zero, List.append_nil,
          Nat.min_eq_right short, firstN_blockStream_short (by rw [first]; exact length) short, first]
      · obtain ⟨n, rfl⟩ := Nat.exists_eq_add_of_le long
        rw [firstN_blockStream_cons positive (by rw [first]; exact length), first, tail,
          Nat.min_eq_left (Nat.le_add_right _ _), List.take_of_length_le (Nat.le_of_eq length),
          Nat.add_sub_cancel_left]
        congr 3
        funext j
        congr 1
        omega

theorem pbkdf2CmacIterate_eq (computes : Computes spec wc) {key : Bytes} {n : Nat}
    {u t bytes : Bytes} (success : pbkdf2CmacIterate wc.mac key n u t = .ok bytes) :
    bytes = specIterate (fun u => spec.cmac key [u]) n u t := by
  induction n generalizing u t with
  | zero =>
    cases success
    rfl
  | succ n ih =>
    obtain ⟨u', made, success⟩ := except_bind_ok success
    rw [computes.cmac made] at success
    exact ih success

theorem pbkdf2CmacBlocks_stream (computes : Computes spec wc) {key salt : Bytes} {cost n i : Nat}
    {bytes : Bytes} (success : pbkdf2CmacBlocks wc.mac key salt cost n i = .ok bytes) :
    bytes = firstN (blockStream (fun j => specIterate (fun u => spec.cmac key [u]) (cost - 1)
      (spec.cmac key [salt ++ be32 (i + j)]) (spec.cmac key [salt ++ be32 (i + j)]))
      wcAesBlockSize) (n * wcAesBlockSize) := by
  induction n generalizing i bytes with
  | zero =>
    cases success
    simp
  | succ n ih =>
    obtain ⟨t, made, success⟩ := except_bind_ok success
    obtain ⟨rest, later, success⟩ := except_bind_ok success
    cases success
    obtain ⟨u, first, iterated⟩ := except_bind_ok made
    have length := pbkdf2CmacIterate_length (kdfCmac_length first) iterated
    have block := pbkdf2CmacIterate_eq computes iterated
    rw [computes.cmac first] at block
    rw [Nat.succ_mul, Nat.add_comm (n * wcAesBlockSize),
      firstN_blockStream_cons (by decide) (by rw [Nat.add_zero, ← block]; exact length),
      Nat.add_zero, ← block, ih later]
    congr 3
    funext j
    rw [Nat.add_assoc, Nat.add_comm 1 j]

theorem specPieces_material (ctx : KdfCtx) : sp800_108Pieces ctx = specPieces ctx.material := rfl

/-- The lengths for which the block count of PBKDF2-AES-CMAC wraps to nothing. No buffer is that
long. -/
def Overlong (ctx : KdfCtx) (n : Nat) : Prop :=
  ctx.isRawKdf = false ∧ ctx.alg = psaAlgPbkdf2AesCmacPrf128 ∧ sizeMax < n + 15

theorem kdfPbkdf2Cmac_stream {env : KdfEnv Hmac Cmac} (computes : Computes spec env.wc)
    {ctx : KdfCtx} {n : Nat} {bytes : Bytes} (word : n ≤ sizeMax)
    (success : kdfPbkdf2Cmac env ctx n = .ok bytes) :
    (n + 15 ≤ sizeMax → bytes =
      firstN (blockStream (fun j => specPbkdf2Block spec ctx.material (1 + j)) wcAesBlockSize) n) ∧
      (sizeMax < n + 15 → bytes = []) := by
  unfold kdfPbkdf2Cmac at success
  dsimp only at success
  split at success
  · cases success
  split at success
  · cases success
  obtain ⟨key, normalised, success⟩ := except_bind_ok success
  split_ifs at success with long memory wrapped
  · obtain ⟨_, -, success⟩ := except_bind_ok success
    cases success
  obtain ⟨stream, made, success⟩ := except_bind_ok success
  cases success
  have keyed : key = if (ctx.inputs .password).length == wcAesBlockSize then ctx.inputs .password
      else spec.cmac (List.replicate wcAesBlockSize 0) [ctx.inputs .password] := by
    unfold pbkdf2CmacKey at normalised
    split at normalised
    · rename_i sized
      rw [if_pos sized]
      exact (Except.ok.inj normalised).symm
    · rename_i sized
      rw [if_neg sized]
      exact computes.cmac normalised
  rw [pbkdf2CmacBlocks_stream computes made]
  refine ⟨fun fits => ?_, fun long => ?_⟩
  · rw [take_firstN, keyed]
    · rfl
    · unfold wcAesBlockSize at made ⊢
      unfold sizeMax at fits ⊢
      omega
  · have none : (n + wcAesBlockSize - 1) % (sizeMax + 1) / wcAesBlockSize = 0 := by
      unfold wcAesBlockSize
      unfold sizeMax at long word ⊢
      omega
    rw [none]
    simp

theorem wolfpsaKdfHkdf_stream (computes : Computes spec wc) {ctx : KdfCtx} {n : Nat}
    {bytes : Bytes} (derives : ctx.isRawKdf = false) (hkdf : psaAlgIsAnyHkdf ctx.alg = true)
    (success : wolfpsaKdfHkdf wc ctx n = .ok bytes) :
    bytes = firstN (kdfStream spec ctx.material) n := by
  unfold kdfStream
  rw [if_neg (by simp [KdfCtx.material, derives]), if_pos (by exact hkdf)]
  unfold wolfpsaKdfHkdf at success
  split at success
  · cases success
  rename_i hash selected
  rw [show wolfpsaKdfHashTypeFromAlg ctx.material.alg = some hash from selected]
  dsimp only at success ⊢
  split at success
  · rename_i extract
    rw [if_pos (by exact extract)]
    split_ifs at success with unusable long beyond
    obtain ⟨prk, extracted, success⟩ := except_bind_ok success
    cases success
    obtain ⟨same, length⟩ := computes.extract (ofWcResult_ok extracted)
    rw [computes.digestSize] at beyond
    rw [same] at length ⊢
    exact (firstN_ofList (by omega)).symm
  rename_i notExtract
  rw [if_neg (by exact notExtract)]
  split at success
  · rename_i expand
    rw [if_pos (by exact expand)]
    split at success
    · cases success
    · exact computes.expand (ofWcResult_ok success)
  rename_i notExpand
  rw [if_neg (by exact notExpand)]
  split_ifs at success
  obtain ⟨prk, extracted, success⟩ := except_bind_ok success
  obtain ⟨same, length⟩ := computes.extract (ofWcResult_ok extracted)
  have whole : prk.take (wc.hashGetDigestSize hash) = prk := by
    rw [computes.digestSize, ← length, List.take_length]
  rw [whole, same] at success
  exact computes.expand (ofWcResult_ok success)

theorem wolfpsaKdfTls12Prf_stream (computes : Computes spec wc) {ctx : KdfCtx} {n : Nat}
    {bytes : Bytes} (success : wolfpsaKdfTls12Prf wc ctx n = .ok bytes) :
    ∃ mac, wolfpsaPrfMacFromAlg ctx.alg = some mac ∧ bytes =
      firstN (spec.prfTls mac (ctx.inputs .secret) (ctx.inputs .label) (ctx.inputs .seed)) n := by
  unfold wolfpsaKdfTls12Prf at success
  split at success
  · cases success
  rename_i mac selected
  split at success
  · cases success
  · exact ⟨mac, selected, computes.prfTls (ofWcResult_ok success)⟩

theorem wolfpsaKdfTls12PskToMs_stream {env : KdfEnv Hmac Cmac} (computes : Computes spec env.wc)
    {ctx : KdfCtx} {n : Nat} {bytes : Bytes}
    (success : wolfpsaKdfTls12PskToMs env ctx n = .ok bytes) :
    ∃ mac, wolfpsaPrfMacFromAlg ctx.alg = some mac ∧ bytes =
      firstN (spec.prfTls mac (be16 (pskOtherSecret ctx).length ++ pskOtherSecret ctx ++
        be16 (ctx.inputs .secret).length ++ ctx.inputs .secret) masterSecretLabel
        (ctx.inputs .seed)) n := by
  unfold wolfpsaKdfTls12PskToMs at success
  split at success
  · cases success
  rename_i mac selected
  dsimp only at success
  split_ifs at success
  exact ⟨mac, selected, computes.prfTls (ofWcResult_ok success)⟩

theorem wolfpsaKdfSp800_108Hmac_stream (computes : Computes spec wc) {ctx : KdfCtx} {n : Nat}
    {bytes : Bytes} (success : wolfpsaKdfSp800_108Hmac wc ctx n = .ok bytes) :
    ∃ hash, wolfpsaKdfHashTypeFromAlg ctx.alg = some hash ∧ bytes =
      firstN (blockStream (fun j => spec.hmac hash (ctx.inputs .secret)
        (be32 ((1 + j) % 2 ^ 32) :: sp800_108Pieces ctx)) (spec.digestSize hash)) n := by
  unfold wolfpsaKdfSp800_108Hmac at success
  split at success
  · cases success
  rename_i hash selected
  dsimp only at success
  split_ifs at success with unusable
  simp only [Bool.or_eq_true, beq_iff_eq, not_or] at unusable
  rw [computes.digestSize] at unusable success
  exact ⟨hash, selected, sp800_108Loop_stream
    (f := fun i => spec.hmac hash (ctx.inputs .secret) (be32 i :: sp800_108Pieces ctx))
    (Nat.pos_of_ne_zero unusable.1) (fun _ _ made => computes.hmac made) (by decide) (Nat.le_refl n)
    success⟩

theorem wolfpsaKdfSp800_108Cmac_stream {env : KdfEnv Hmac Cmac} (computes : Computes spec env.wc)
    {ctx : KdfCtx} {n : Nat} {bytes : Bytes}
    (success : wolfpsaKdfSp800_108Cmac env ctx n = .ok bytes) :
    bytes = firstN (blockStream (fun j => spec.cmac (ctx.inputs .secret)
      (be32 ((1 + j) % 2 ^ 32) :: sp800_108Pieces ctx ++
        [spec.cmac (ctx.inputs .secret) (sp800_108Pieces ctx)])) wcAesBlockSize) n := by
  unfold wolfpsaKdfSp800_108Cmac at success
  dsimp only at success
  split_ifs at success
  obtain ⟨k0, made, success⟩ := except_bind_ok success
  rw [computes.cmac made] at success
  exact sp800_108Loop_stream (f := fun i => spec.cmac (ctx.inputs .secret)
    (be32 i :: sp800_108Pieces ctx ++ [spec.cmac (ctx.inputs .secret) (sp800_108Pieces ctx)]))
    (by decide) (fun _ _ block => ⟨computes.cmac block, kdfCmac_length block⟩) (by decide)
    (Nat.le_refl n) success

/-- Every back end delivers the beginning of the stream of its context. -/
theorem wolfpsaKdfComputeOutput_stream {env : KdfEnv Hmac Cmac} (computes : Computes spec env.wc)
    {ctx : KdfCtx} {n : Nat} {bytes : Bytes} (word : n ≤ sizeMax)
    (raw : ctx.isRawKdf = true → n ≤ (ctx.inputs .secret).length)
    (short : ¬ Overlong ctx n) (success : wolfpsaKdfComputeOutput env ctx n = .ok bytes) :
    bytes = firstN (kdfStream spec ctx.material) n := by
  unfold wolfpsaKdfComputeOutput at success
  by_cases isRaw : ctx.isRawKdf = true
  · rw [if_pos isRaw] at success
    cases success
    unfold kdfStream
    rw [if_pos (by exact isRaw)]
    exact (firstN_ofList (raw isRaw)).symm
  rw [if_neg isRaw] at success
  have derives : ctx.isRawKdf = false := by simpa using isRaw
  by_cases hkdf : psaAlgIsAnyHkdf ctx.alg = true
  · rw [if_pos hkdf] at success
    exact wolfpsaKdfHkdf_stream computes derives hkdf success
  rw [if_neg hkdf] at success
  unfold kdfStream
  rw [if_neg (by exact isRaw), if_neg (by exact hkdf)]
  by_cases prf : psaAlgIsTls12Prf ctx.alg = true
  · rw [if_pos prf] at success
    rw [if_pos (by exact prf)]
    obtain ⟨mac, selected, same⟩ := wolfpsaKdfTls12Prf_stream computes success
    rw [same]
    simp only [KdfCtx.material, selected]
  rw [if_neg prf] at success
  rw [if_neg (by exact prf)]
  by_cases psk : psaAlgIsTls12PskToMs ctx.alg = true
  · rw [if_pos psk] at success
    rw [if_pos (by exact psk)]
    obtain ⟨mac, selected, same⟩ := wolfpsaKdfTls12PskToMs_stream computes success
    rw [same]
    simp only [KdfCtx.material, selected]
    rfl
  rw [if_neg psk] at success
  rw [if_neg (by exact psk)]
  by_cases pbkdf2 : psaAlgIsPbkdf2 ctx.alg = true
  · rw [if_pos pbkdf2] at success
    unfold wolfpsaKdfPbkdf2 at success
    by_cases hmac : psaAlgIsPbkdf2Hmac ctx.alg = true
    · rw [if_pos hmac] at success
      rw [if_pos (by exact hmac)]
      split at success
      · cases success
      rename_i hash selected
      split at success
      · cases success
      simp only [KdfCtx.material, selected]
      exact computes.pbkdf2 (ofWcResult_ok success)
    · rw [if_neg hmac] at success
      rw [if_neg (by exact hmac), if_pos (by exact pbkdf2)]
      split at success
      · rename_i cmac
        refine (kdfPbkdf2Cmac_stream computes word success).1 ?_
        by_contra long
        exact short ⟨derives, by simpa using cmac, Nat.lt_of_not_le long⟩
      · cases success
  rw [if_neg pbkdf2] at success
  have notHmac : ¬ psaAlgIsPbkdf2Hmac ctx.alg = true := by
    intro hmac
    exact pbkdf2 (by simp [psaAlgIsPbkdf2, hmac])
  rw [if_neg (by exact notHmac), if_neg (by exact pbkdf2)]
  by_cases counter : psaAlgIsSp800_108CounterHmac ctx.alg = true
  · rw [if_pos counter] at success
    rw [if_pos (by exact counter)]
    obtain ⟨hash, selected, same⟩ := wolfpsaKdfSp800_108Hmac_stream computes success
    rw [same]
    simp only [KdfCtx.material, selected]
    rfl
  · rw [if_neg counter] at success
    rw [if_neg (by exact counter)]
    split at success
    · rename_i cmac
      rw [if_pos (by exact cmac)]
      exact wolfpsaKdfSp800_108Cmac_stream computes success
    · cases success

theorem wolfpsaKdfComputeOutput_overlong {env : KdfEnv Hmac Cmac} (computes : Computes spec env.wc)
    {ctx : KdfCtx} {n : Nat} {bytes : Bytes} (word : n ≤ sizeMax) (long : Overlong ctx n)
    (success : wolfpsaKdfComputeOutput env ctx n = .ok bytes) : bytes = [] := by
  obtain ⟨derives, alg, long⟩ := long
  unfold wolfpsaKdfComputeOutput at success
  rw [if_neg (by simp [derives]), alg, if_neg (by decide), if_neg (by decide), if_neg (by decide),
    if_pos (by decide)] at success
  unfold wolfpsaKdfPbkdf2 at success
  rw [alg, if_neg (by decide), if_pos (by decide)] at success
  exact (kdfPbkdf2Cmac_stream computes word success).2 long

/-- The algorithm reads `L`. -/
def isCounterKdf (m : KdfMaterial) : Bool :=
  !m.isRawKdf && (psaAlgIsSp800_108CounterHmac m.alg || m.alg == psaAlgSp800_108CounterCmac)

theorem kdfStream_lBytes (spec : KdfSpec) {m : KdfMaterial} (other : isCounterKdf m = false)
    (l : Nat) : kdfStream spec { m with lBytes := l } = kdfStream spec m := by
  obtain ⟨alg, isRawKdf, inputs, otherSecretSet, cost, lBytes⟩ := m
  unfold kdfStream
  cases isRawKdf with
  | true => rfl
  | false =>
    simp only [isCounterKdf, Bool.not_false, Bool.true_and, Bool.or_eq_false_iff] at other
    simp only [other.1, other.2]
    rfl

end

end WolfPSA.Source
