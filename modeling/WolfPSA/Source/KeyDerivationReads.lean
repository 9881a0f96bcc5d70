import WolfPSA.Source.KeyDerivationStreams

/-!
# Key derivation: what the back ends read

A back end reads an input when, for some wolfCrypt, another value of it gives another output. The
probe below answers every call with one byte that depends on all its arguments, so that the output
shows which inputs of the context reached wolfCrypt.
-/

namespace WolfPSA.Source
open Lib

variable {Hmac Cmac : Type}

def KdfCtx.withInput (ctx : KdfCtx) (step : KdfStep) (data : Bytes) : KdfCtx :=
  { ctx with inputs := Function.update ctx.inputs step data }

/-- The two contexts differ at most in what was given for the step. -/
inductive DifferAt (step : KdfStep) (ctx : KdfCtx) : KdfCtx → Prop
  | input (data : Bytes) (other : step ≠ .cost) : DifferAt step ctx (ctx.withInput step data)
  | cost (cost : Nat) (same : step = .cost) : DifferAt step ctx { ctx with cost := cost }

/-- The output depends on what was given for the step. -/
def KdfReads (ctx : KdfCtx) (step : KdfStep) : Prop :=
  ∃ (Hmac Cmac : Type) (env : KdfEnv Hmac Cmac) (n : Nat) (other : KdfCtx) (out out' : Bytes),
    DifferAt step ctx other ∧ wolfpsaKdfComputeOutput env ctx n = .ok out ∧
      wolfpsaKdfComputeOutput env other n = .ok out' ∧ out ≠ out'

/-! ## The probe -/

/-- One byte for the arguments of a call and a number. -/
abbrev Probe := List Bytes → Nat → BitVec 8

/-- wolfCrypt answering with the probe; its MAC states collect the key and the pieces. -/
def probeWc (p : Probe) : WcKdf (List Bytes) (List Bytes) where
  mac :=
    { hmacInit := .ok []
      hmacSetKey := fun _ _ key => .ok [key]
      hmacUpdate := fun fed piece => .ok (fed ++ [piece])
      hmacFinal := fun fed => .ok [p fed 0]
      initCmac := fun key => .ok [key]
      cmacUpdate := fun fed piece => .ok (fed ++ [piece])
      cmacFinal := fun fed n => .ok (List.replicate n (p fed 0)) }
  hashGetDigestSize := fun _ => 1
  hkdfExtract := fun _ salt secret => .ok [p [salt, secret] 0]
  hkdfExpand := fun _ prk info length => .ok (List.replicate length (p [prk, info] 1))
  prfTls := fun _ secret label seed length =>
    .ok (List.replicate length (p [secret, label, seed] 0))
  pbkdf2 := fun _ password salt cost length =>
    .ok (List.replicate length (p [password, salt] cost))

def probeEnv (p : Probe) : KdfEnv (List Bytes) (List Bytes) where
  getKeyData := fun _ => .error ⟨.invalidHandle, failing⟩
  getKeyAttributes := fun _ => .error ⟨.invalidHandle, failing⟩
  keyAgreementSecret := fun _ _ _ _ => .error ⟨.invalidHandle, failing⟩
  importKey := fun _ _ => (.notSupported, psaKeyIdNull)
  alloc := fun _ => true
  wc := probeWc p

@[simp] theorem probeEnv_wc (p : Probe) : (probeEnv p).wc = probeWc p := rfl

private theorem foldlM_collect (fed pieces : List Bytes) :
    pieces.foldlM (fun fed piece => (.ok (fed ++ [piece]) : Except WcError (List Bytes))) fed =
      .ok (fed ++ pieces) := by
  induction pieces generalizing fed with
  | nil => simp [pure, Except.pure]
  | cons piece rest ih =>
    rw [List.foldlM_cons]
    show rest.foldlM _ (fed ++ [piece]) = _
    rw [ih, List.append_assoc, List.singleton_append]

theorem kdfCmac_probe (p : Probe) (key : Bytes) (pieces : List Bytes) :
    kdfCmac (probeWc p).mac key pieces = .ok (List.replicate wcAesBlockSize (p (key :: pieces) 0)) := by
  unfold kdfCmac
  show (ofWcResult (pieces.foldlM _ [key]) >>= _) = _
  have fed := foldlM_collect [key] pieces
  unfold probeWc
  dsimp only
  rw [fed]
  simp [ofWcResult, bind, Except.bind, pure, Except.pure]

theorem kdfHmac_probe (p : Probe) (hash : WcHashType) (key : Bytes) (pieces : List Bytes) :
    kdfHmac (probeWc p).mac hash key pieces = .ok [p (key :: pieces) 0] := by
  unfold kdfHmac
  show (ofWcResult (pieces.foldlM _ [key]) >>= _) = _
  have fed := foldlM_collect [key] pieces
  unfold probeWc
  dsimp only
  rw [fed]
  simp [ofWcResult, bind, Except.bind]

/-! ## Another value -/

/-- A value of another length. -/
def toggle (data : Bytes) : Bytes := if data = [] then [0] else []

theorem toggle_length_ne (data : Bytes) : (toggle data).length ≠ data.length := by
  unfold toggle
  split
  · rename_i empty
    simp [empty]
  · rename_i full
    exact fun same => full (List.length_eq_zero_iff.mp same.symm)

theorem toggle_length_le (data : Bytes) : (toggle data).length ≤ 1 := by
  unfold toggle
  split <;> simp

theorem toggle_ne (data : Bytes) : toggle data ≠ data :=
  fun same => toggle_length_ne data (congrArg List.length same)

theorem isWord32_iff {n : Nat} : isWord32 n = true ↔ n ≤ uint32Max := by
  unfold isWord32 wolfpsaCheckWord32Length
  split <;> simp <;> omega

/-- The context with another value for the step. -/
def KdfCtx.toggled (ctx : KdfCtx) (step : KdfStep) : KdfCtx :=
  ctx.withInput step (toggle (ctx.inputs step))

@[simp] theorem toggled_same (ctx : KdfCtx) (step : KdfStep) :
    (ctx.toggled step).inputs step = toggle (ctx.inputs step) := by
  simp [KdfCtx.toggled, KdfCtx.withInput]

theorem toggled_other (ctx : KdfCtx) {step step' : KdfStep} (different : step' ≠ step) :
    (ctx.toggled step).inputs step' = ctx.inputs step' := by
  simp [KdfCtx.toggled, KdfCtx.withInput, different]

theorem differAt_toggled (ctx : KdfCtx) {step : KdfStep} (notCost : step ≠ .cost) :
    DifferAt step ctx (ctx.toggled step) := .input _ notCost

theorem toggled_length_le {ctx : KdfCtx} {bound : Nat} (positive : 0 < bound) (step : KdfStep)
    {step' : KdfStep} (within : (ctx.inputs step').length ≤ bound) :
    ((ctx.toggled step).inputs step').length ≤ bound := by
  by_cases same : step' = step
  · rw [same, toggled_same]
    exact Nat.le_trans (toggle_length_le _) positive
  · rw [toggled_other ctx same]
    exact within

/-- The inputs of these steps are no longer than the bound. -/
def InputsWithin (bound : Nat) (steps : List KdfStep) (ctx : KdfCtx) : Prop :=
  ∀ step ∈ steps, (ctx.inputs step).length ≤ bound

theorem InputsWithin.toggled {bound : Nat} {steps : List KdfStep} {ctx : KdfCtx}
    (within : InputsWithin bound steps ctx) (positive : 0 < bound) (step : KdfStep) :
    InputsWithin bound steps (ctx.toggled step) :=
  fun step' member => toggled_length_le positive step (within step' member)

/-! ## Reading an answer off the probe -/

/-- A back end shows the step to the probe. -/
def Shows (F : KdfEnv (List Bytes) (List Bytes) → KdfCtx → Nat → Except KdfFail Bytes)
    (ctx : KdfCtx) (step : KdfStep) : Prop :=
  ∃ (p : Probe) (other : KdfCtx) (a b : BitVec 8), DifferAt step ctx other ∧
    F (probeEnv p) ctx 1 = .ok [a] ∧ F (probeEnv p) other 1 = .ok [b] ∧ a ≠ b

theorem DifferAt.alg {step : KdfStep} {ctx other : KdfCtx} (differ : DifferAt step ctx other) :
    other.alg = ctx.alg := by
  cases differ <;> rfl

theorem DifferAt.isRawKdf {step : KdfStep} {ctx other : KdfCtx}
    (differ : DifferAt step ctx other) : other.isRawKdf = ctx.isRawKdf := by
  cases differ <;> rfl

theorem Shows.reads {F : KdfEnv (List Bytes) (List Bytes) → KdfCtx → Nat → Except KdfFail Bytes}
    {ctx : KdfCtx} {step : KdfStep} (shows : Shows F ctx step)
    (dispatch : ∀ p (other : KdfCtx), other.alg = ctx.alg → other.isRawKdf = ctx.isRawKdf →
      wolfpsaKdfComputeOutput (probeEnv p) other 1 = F (probeEnv p) other 1) :
    KdfReads ctx step := by
  obtain ⟨p, other, a, b, differ, here, there, distinct⟩ := shows
  refine ⟨_, _, probeEnv p, 1, other, [a], [b], differ, ?_, ?_, by simpa using distinct⟩
  · rw [dispatch p ctx rfl rfl, here]
  · rw [dispatch p other differ.alg differ.isRawKdf, there]

/-- A back end that answers with the probe of some arguments shows every step that changes them. -/
theorem shows_of_arguments
    {F : KdfEnv (List Bytes) (List Bytes) → KdfCtx → Nat → Except KdfFail Bytes}
    {ctx other : KdfCtx} {step : KdfStep} {args args' : List Bytes} {count count' : Nat}
    (differ : DifferAt step ctx other) (here : ∀ p, F (probeEnv p) ctx 1 = .ok [p args count])
    (there : ∀ p, F (probeEnv p) other 1 = .ok [p args' count'])
    (distinct : args' ≠ args ∨ count' ≠ count) : Shows F ctx step := by
  refine ⟨fun a n => if a = args ∧ n = count then 1 else 0, other, 1, 0, differ, ?_, ?_, by decide⟩
  · rw [here, if_pos ⟨rfl, rfl⟩]
  · rw [there, if_neg]
    rintro ⟨same, equal⟩
    rcases distinct with different | different
    · exact different same
    · exact different equal

/-- A back end that answers with the probe of some inputs shows their steps. -/
theorem shows_of_inputs
    {F : KdfEnv (List Bytes) (List Bytes) → KdfCtx → Nat → Except KdfFail Bytes}
    {ctx : KdfCtx} {step : KdfStep} {steps : List KdfStep} {bound : Nat} (count : Nat)
    (within : InputsWithin bound steps ctx) (positive : 0 < bound)
    (answers : ∀ p (other : KdfCtx), other.alg = ctx.alg → other.cost = ctx.cost →
      InputsWithin bound steps other → F (probeEnv p) other 1 = .ok [p (steps.map other.inputs) count])
    (member : step ∈ steps) (notCost : step ≠ .cost) : Shows F ctx step := by
  refine shows_of_arguments (differAt_toggled ctx notCost)
    (fun p => answers p ctx rfl rfl within)
    (fun p => answers p (ctx.toggled step) rfl rfl (within.toggled positive step)) (.inl ?_)
  intro same
  have here := List.map_inj_left.mp same step member
  rw [toggled_same] at here
  exact toggle_ne _ here

/-! ## HKDF -/

section

variable {p : Probe} {ctx : KdfCtx} {hash : WcHashType}

theorem wolfpsaKdfHkdf_extract_probe (known : wolfpsaKdfHashTypeFromAlg ctx.alg = some hash)
    (extract : psaAlgIsHkdfExtract ctx.alg = true)
    (within : InputsWithin uint32Max [.salt, .secret] ctx) :
    wolfpsaKdfHkdf (probeWc p) ctx 1 = .ok [p [ctx.inputs .salt, ctx.inputs .secret] 0] := by
  have salt := isWord32_iff.mpr (within .salt (by simp))
  have secret := isWord32_iff.mpr (within .secret (by simp))
  unfold wolfpsaKdfHkdf
  rw [known]
  dsimp only
  rw [if_pos extract, if_neg (by simp [probeWc, psaMacMaxSize]), if_neg (by simp [salt, secret]),
    if_neg (by simp [probeWc])]
  rfl

theorem wolfpsaKdfHkdf_expand_probe (known : wolfpsaKdfHashTypeFromAlg ctx.alg = some hash)
    (extract : psaAlgIsHkdfExtract ctx.alg = false) (expand : psaAlgIsHkdfExpand ctx.alg = true)
    (within : InputsWithin uint32Max [.secret, .info] ctx) :
    wolfpsaKdfHkdf (probeWc p) ctx 1 = .ok [p [ctx.inputs .secret, ctx.inputs .info] 1] := by
  have secret := isWord32_iff.mpr (within .secret (by simp))
  have info := isWord32_iff.mpr (within .info (by simp))
  unfold wolfpsaKdfHkdf
  rw [known]
  dsimp only
  rw [if_neg (by simp [extract]), if_pos expand, if_neg]
  · rfl
  · rw [secret, info]
    decide

theorem wolfpsaKdfHkdf_probe (known : wolfpsaKdfHashTypeFromAlg ctx.alg = some hash)
    (extract : psaAlgIsHkdfExtract ctx.alg = false) (expand : psaAlgIsHkdfExpand ctx.alg = false)
    (hkdf : psaAlgIsHkdf ctx.alg = true)
    (within : InputsWithin uint32Max [.salt, .secret, .info] ctx) :
    wolfpsaKdfHkdf (probeWc p) ctx 1 =
      .ok [p [[p [ctx.inputs .salt, ctx.inputs .secret] 0], ctx.inputs .info] 1] := by
  have salt := isWord32_iff.mpr (within .salt (by simp))
  have secret := isWord32_iff.mpr (within .secret (by simp))
  have info := isWord32_iff.mpr (within .info (by simp))
  unfold wolfpsaKdfHkdf
  rw [known]
  dsimp only
  rw [if_neg (by simp [extract]), if_neg (by simp [expand]), if_pos hkdf,
    if_neg (by simp [probeWc, psaMacMaxSize]), if_neg]
  · rfl
  · rw [salt, secret, info]
    decide

/-- The steps and lengths an HKDF that succeeds has met. -/
theorem wolfpsaKdfHkdf_within {wc : WcKdf Hmac Cmac} {n : Nat} {stream : Bytes}
    (success : wolfpsaKdfHkdf wc ctx n = .ok stream) :
    (∃ hash, wolfpsaKdfHashTypeFromAlg ctx.alg = some hash) ∧
      (psaAlgIsHkdfExtract ctx.alg = true ∧ InputsWithin uint32Max [.salt, .secret] ctx ∨
        psaAlgIsHkdfExtract ctx.alg = false ∧
          (psaAlgIsHkdfExpand ctx.alg = true ∧ InputsWithin uint32Max [.secret, .info] ctx ∨
            psaAlgIsHkdfExpand ctx.alg = false ∧ psaAlgIsHkdf ctx.alg = true ∧
              InputsWithin uint32Max [.salt, .secret, .info] ctx)) := by
  unfold wolfpsaKdfHkdf at success
  split at success
  · cases success
  rename_i hash known
  refine ⟨⟨hash, known⟩, ?_⟩
  dsimp only at success
  split at success
  · rename_i extract
    refine .inl ⟨extract, ?_⟩
    split_ifs at success with size lengths
    simpa [InputsWithin, isWord32_iff] using lengths
  rename_i extract
  refine .inr ⟨by simpa using extract, ?_⟩
  split at success
  · rename_i expand
    refine .inl ⟨expand, ?_⟩
    split_ifs at success with lengths
    simp only [Bool.or_eq_true, Bool.not_eq_true', not_or, Bool.not_eq_false, isWord32_iff]
      at lengths
    simpa [InputsWithin] using lengths.1
  rename_i expand
  split at success
  · rename_i hkdf
    refine .inr ⟨by simpa using expand, hkdf, ?_⟩
    split_ifs at success with size lengths
    simp only [Bool.or_eq_true, Bool.not_eq_true', not_or, Bool.not_eq_false, isWord32_iff]
      at lengths
    simpa [InputsWithin, and_assoc] using lengths.1
  · cases success

/-- HKDF shows the salt and the secret through the extracted key. -/
private theorem shows_hkdf_full (known : wolfpsaKdfHashTypeFromAlg ctx.alg = some hash)
    (extract : psaAlgIsHkdfExtract ctx.alg = false) (expand : psaAlgIsHkdfExpand ctx.alg = false)
    (hkdf : psaAlgIsHkdf ctx.alg = true)
    (within : InputsWithin uint32Max [.salt, .secret, .info] ctx) {step : KdfStep}
    (member : step ∈ ([.salt, .secret, .info] : List KdfStep)) :
    Shows (fun env ctx n => wolfpsaKdfHkdf env.wc ctx n) ctx step := by
  have notCost : step ≠ .cost := by
    rintro rfl
    simp at member
  refine ⟨fun args count => if args = [ctx.inputs .salt, ctx.inputs .secret] ∧ count = 0 ∨
      args = [[1], ctx.inputs .info] ∧ count = 1 then 1 else 0, ctx.toggled step, 1, 0,
    .input _ notCost, ?_, ?_, by decide⟩
  · dsimp only
    rw [probeEnv_wc, wolfpsaKdfHkdf_probe known extract expand hkdf within]
    simp
  · have alg : (ctx.toggled step).alg = ctx.alg := rfl
    dsimp only
    rw [probeEnv_wc, wolfpsaKdfHkdf_probe (by rw [alg, known]) (by rw [alg, extract])
      (by rw [alg, expand]) (by rw [alg, hkdf]) (within.toggled (by decide) step)]
    simp only [List.mem_cons, List.not_mem_nil, or_false] at member
    rcases member with rfl | rfl | rfl
    all_goals simp [toggled_other, toggle_ne]

theorem shows_hkdf {wc : WcKdf Hmac Cmac} {n : Nat} {stream : Bytes}
    (success : wolfpsaKdfHkdf wc ctx n = .ok stream) {step : KdfStep}
    (takes : step ∈ (if psaAlgIsHkdfExtract ctx.alg then [.salt, .secret]
      else if psaAlgIsHkdfExpand ctx.alg then [.secret, .info] else [.salt, .secret, .info] :
      List KdfStep)) :
    Shows (fun env ctx n => wolfpsaKdfHkdf env.wc ctx n) ctx step := by
  obtain ⟨⟨hash, known⟩, ⟨extract, within⟩ | ⟨extract, ⟨expand, within⟩ | ⟨expand, hkdf, within⟩⟩⟩ :=
    wolfpsaKdfHkdf_within success
  · rw [if_pos extract] at takes
    refine shows_of_inputs 0 within (by decide) (fun p other alg _ fits => ?_) takes ?_
    · exact wolfpsaKdfHkdf_extract_probe (by rw [alg, known]) (by rw [alg, extract]) fits
    · rintro rfl
      simp at takes
  · rw [if_neg (by simp [extract]), if_pos expand] at takes
    refine shows_of_inputs 1 within (by decide) (fun p other alg _ fits => ?_) takes ?_
    · exact wolfpsaKdfHkdf_expand_probe (by rw [alg, known]) (by rw [alg, extract])
        (by rw [alg, expand]) fits
    · rintro rfl
      simp at takes
  · rw [if_neg (by simp [extract]), if_neg (by simp [expand])] at takes
    exact shows_hkdf_full known extract expand hkdf within takes

end

/-! ## TLS 1.2 -/

theorem shows_tls12Prf {wc : WcKdf Hmac Cmac} {ctx : KdfCtx} {n : Nat} {stream : Bytes}
    (success : wolfpsaKdfTls12Prf wc ctx n = .ok stream) {step : KdfStep}
    (takes : step ∈ ([.secret, .label, .seed] : List KdfStep)) :
    Shows (fun env ctx n => wolfpsaKdfTls12Prf env.wc ctx n) ctx step := by
  unfold wolfpsaKdfTls12Prf at success
  split at success
  · cases success
  rename_i mac known
  split_ifs at success with lengths
  simp only [Bool.or_eq_true, Bool.not_eq_true', not_or, Bool.not_eq_false, isWord32_iff]
    at lengths
  obtain ⟨⟨⟨-, secret⟩, label⟩, seed⟩ := lengths
  have within : InputsWithin uint32Max [.secret, .label, .seed] ctx := by
    simp [InputsWithin, secret, label, seed]
  refine shows_of_inputs 0 within (by decide) (fun p other alg _ fits => ?_) takes ?_
  · have secret := isWord32_iff.mpr (fits .secret (by simp))
    have label := isWord32_iff.mpr (fits .label (by simp))
    have seed := isWord32_iff.mpr (fits .seed (by simp))
    unfold wolfpsaKdfTls12Prf
    rw [alg, known]
    dsimp only
    rw [secret, label, seed, if_neg (by decide)]
    rfl
  · rintro rfl
    simp at takes

/-- The premaster secret of `wolfpsa_kdf_tls12_psk_to_ms`. -/
def pskPremaster (ctx : KdfCtx) : Bytes :=
  be16 (pskOtherSecret ctx).length ++ pskOtherSecret ctx ++ be16 (ctx.inputs .secret).length ++
    ctx.inputs .secret

private theorem pskPremaster_length (ctx : KdfCtx) :
    (pskPremaster ctx).length =
      4 + (pskOtherSecret ctx).length + (ctx.inputs .secret).length := by
  simp only [pskPremaster, List.length_append, be16, List.length_cons, List.length_nil]
  omega

private theorem pskOtherSecret_length (ctx : KdfCtx) :
    (pskOtherSecret ctx).length =
      if ctx.isSet .otherSecret then (ctx.inputs .otherSecret).length
      else (ctx.inputs .secret).length := by
  unfold pskOtherSecret
  split <;> simp

/-- Another secret or other secret makes a premaster of another length. -/
private theorem pskPremaster_toggled {ctx : KdfCtx} {step : KdfStep}
    (part : step = .secret ∨ step = .otherSecret) (given : ctx.isSet step = true) :
    (pskPremaster (ctx.toggled step)).length ≠ (pskPremaster ctx).length := by
  have isSet (s : KdfStep) : (ctx.toggled step).isSet s = ctx.isSet s := rfl
  have differs := toggle_length_ne (ctx.inputs step)
  have same := toggled_same ctx step
  rw [pskPremaster_length, pskPremaster_length, pskOtherSecret_length, pskOtherSecret_length, isSet]
  rcases part with rfl | rfl
  · rw [same, toggled_other ctx (by decide)]
    split <;> omega
  · rw [same, toggled_other ctx (by decide), if_pos given, if_pos given]
    omega

structure PskFits (ctx : KdfCtx) : Prop where
  known : ∃ mac, wolfpsaPrfMacFromAlg ctx.alg = some mac
  other : (pskOtherSecret ctx).length ≤ uint16Max
  secret : (ctx.inputs .secret).length ≤ uint16Max
  seed : (ctx.inputs .seed).length ≤ uint32Max

theorem wolfpsaKdfTls12PskToMs_fits {env : KdfEnv Hmac Cmac} {ctx : KdfCtx} {n : Nat}
    {stream : Bytes} (success : wolfpsaKdfTls12PskToMs env ctx n = .ok stream) : PskFits ctx := by
  unfold wolfpsaKdfTls12PskToMs at success
  split at success
  · cases success
  rename_i mac known
  dsimp only at success
  split at success
  · cases success
  rename_i short
  split at success
  · cases success
  rename_i lengths
  simp only [Bool.or_eq_true, decide_eq_true_eq, not_or, Nat.not_lt, Bool.not_eq_true',
    Bool.not_eq_false, isWord32_iff] at short lengths
  exact ⟨⟨mac, known⟩, short.1, short.2, lengths.2⟩

theorem wolfpsaKdfTls12PskToMs_probe {p : Probe} {ctx : KdfCtx} (fits : PskFits ctx) :
    wolfpsaKdfTls12PskToMs (probeEnv p) ctx 1 =
      .ok [p [pskPremaster ctx, masterSecretLabel, ctx.inputs .seed] 0] := by
  obtain ⟨⟨mac, known⟩, other, secret, seed⟩ := fits
  have total : isWord32 (2 + (ctx.inputs .secret).length + 2 + (pskOtherSecret ctx).length) = true := by
    rw [isWord32_iff]
    unfold uint16Max at other secret
    unfold uint32Max
    omega
  unfold wolfpsaKdfTls12PskToMs
  rw [known]
  dsimp only
  rw [if_neg (by simp [other, secret]), total, isWord32_iff.mpr seed, if_neg (by decide),
    if_neg (by simp [probeEnv])]
  rfl

theorem shows_tls12PskToMs {env : KdfEnv Hmac Cmac} {ctx : KdfCtx} {n : Nat} {stream : Bytes}
    (success : wolfpsaKdfTls12PskToMs env ctx n = .ok stream) {step : KdfStep}
    (takes : step ∈ ([.secret, .otherSecret, .seed] : List KdfStep))
    (given : ctx.isSet step = true) : Shows wolfpsaKdfTls12PskToMs ctx step := by
  have fits := wolfpsaKdfTls12PskToMs_fits success
  have notCost : step ≠ .cost := by
    rintro rfl
    simp at takes
  have toggledFits : PskFits (ctx.toggled step) := by
    obtain ⟨known, other, secret, seed⟩ := fits
    have large : 0 < uint16Max := by decide
    refine ⟨known, ?_, toggled_length_le large step secret, toggled_length_le (by decide) step seed⟩
    rw [pskOtherSecret_length] at other ⊢
    show (if ctx.isSet .otherSecret then _ else _) ≤ _
    split at other
    · rename_i set
      rw [if_pos set]
      exact toggled_length_le large step other
    · rename_i unset
      rw [if_neg unset]
      exact toggled_length_le large step secret
  refine shows_of_arguments (differAt_toggled ctx notCost)
    (fun p => wolfpsaKdfTls12PskToMs_probe fits)
    (fun p => wolfpsaKdfTls12PskToMs_probe toggledFits) (.inl fun same => ?_)
  simp only [List.cons.injEq, true_and, and_true] at same
  obtain ⟨premaster, seed⟩ := same
  simp only [List.mem_cons, List.not_mem_nil, or_false, ← or_assoc] at takes
  rcases takes with part | rfl
  · exact pskPremaster_toggled part given (congrArg List.length premaster)
  · rw [toggled_same] at seed
    exact toggle_ne _ seed

/-! ## SP 800-108 -/

/-- The length of what a MAC was fed. -/
def fedLength (args : List Bytes) : Nat := (args.map List.length).sum

theorem fedLength_pieces (ctx : KdfCtx) :
    fedLength (sp800_108Pieces ctx) =
      (ctx.inputs .label).length + (ctx.inputs .context).length + 5 := by
  have empty (data : Bytes) : fedLength (if data.length > 0 then [data] else []) = data.length := by
    split
    · simp [fedLength]
    · simp only [fedLength, List.map_nil, List.sum_nil]
      omega
  have split (a b : List Bytes) : fedLength (a ++ b) = fedLength a + fedLength b := by
    simp [fedLength]
  have one : fedLength [([0x00] : Bytes)] = 1 := rfl
  have four : fedLength [sp800_108LBuf ctx] = 4 := rfl
  unfold sp800_108Pieces
  rw [split, split, split, empty, empty, one, four]
  omega

theorem fedLength_counter (ctx : KdfCtx) (key : Bytes) (i : Nat) :
    fedLength (key :: be32 i :: sp800_108Pieces ctx) =
      key.length + (ctx.inputs .label).length + (ctx.inputs .context).length + 9 := by
  have pieces := fedLength_pieces ctx
  have four : (be32 i).length = 4 := rfl
  unfold fedLength at pieces ⊢
  rw [List.map_cons, List.map_cons, List.sum_cons, List.sum_cons, pieces, four]
  omega

theorem sp800_108Loop_one {block : Nat → Except KdfFail Bytes} {blockLen : Nat} {k : Bytes}
    (positive : 0 < blockLen) (first : block 1 = .ok k) :
    sp800_108Loop block blockLen 1 1 1 = .ok (k.take 1) := by
  have least : min blockLen 1 = 1 := Nat.min_eq_right positive
  simp [sp800_108Loop, first, bind, Except.bind, pure, Except.pure, least]

theorem wolfpsaKdfSp800_108Hmac_probe {p : Probe} {ctx : KdfCtx} {hash : WcHashType}
    (known : wolfpsaKdfHashTypeFromAlg ctx.alg = some hash)
    (within : InputsWithin intMax [.secret] ctx)
    (words : InputsWithin uint32Max [.label, .context] ctx) :
    wolfpsaKdfSp800_108Hmac (probeWc p) ctx 1 =
      .ok [p (ctx.inputs .secret :: be32 1 :: sp800_108Pieces ctx) 0] := by
  have secret := within .secret (by simp)
  have label := isWord32_iff.mpr (words .label (by simp))
  have context := isWord32_iff.mpr (words .context (by simp))
  unfold wolfpsaKdfSp800_108Hmac
  rw [known]
  dsimp only
  rw [if_neg (by simp [probeWc, psaMacMaxSize]), if_neg (Nat.not_lt.mpr secret), label, context,
    if_neg (by decide)]
  have first := kdfHmac_probe p hash (ctx.inputs .secret) (be32 1 :: sp800_108Pieces ctx)
  refine (sp800_108Loop_one (k := [p _ 0]) ?_ first).trans rfl
  exact Nat.zero_lt_one

theorem shows_sp800_108Hmac {wc : WcKdf Hmac Cmac} {ctx : KdfCtx} {n : Nat} {stream : Bytes}
    (success : wolfpsaKdfSp800_108Hmac wc ctx n = .ok stream) {step : KdfStep}
    (takes : step ∈ ([.secret, .label, .context] : List KdfStep)) :
    Shows (fun env ctx n => wolfpsaKdfSp800_108Hmac env.wc ctx n) ctx step := by
  have notCost : step ≠ .cost := by
    rintro rfl
    simp at takes
  unfold wolfpsaKdfSp800_108Hmac at success
  split at success
  · cases success
  rename_i hash known
  dsimp only at success
  split at success
  · cases success
  split at success
  · cases success
  rename_i short
  split at success
  · cases success
  rename_i lengths
  have within : InputsWithin intMax [.secret] ctx := by simpa [InputsWithin] using short
  have words : InputsWithin uint32Max [.label, .context] ctx := by
    simpa [InputsWithin, isWord32_iff] using lengths
  refine shows_of_arguments (differAt_toggled ctx notCost)
    (fun p => wolfpsaKdfSp800_108Hmac_probe known within words)
    (fun p => wolfpsaKdfSp800_108Hmac_probe known (within.toggled (by decide) step)
      (words.toggled (by decide) step)) (.inl fun same => ?_)
  have total := congrArg fedLength same
  rw [fedLength_counter, fedLength_counter] at total
  have differs := toggle_length_ne (ctx.inputs step)
  rw [← toggled_same] at differs
  simp only [List.mem_cons, List.not_mem_nil, or_false] at takes
  rcases takes with rfl | rfl | rfl
  all_goals
    simp only [toggled_other, ne_eq, reduceCtorEq, not_false_eq_true] at total
    omega

/-- Another key of a length AES takes. -/
def otherAesKey (key : Bytes) : Bytes := List.replicate (if key.length = 16 then 24 else 16) 0

/-- Another value the CMAC variant takes for the step. -/
def cmacToggled (ctx : KdfCtx) (step : KdfStep) : KdfCtx :=
  if step = .secret then ctx.withInput .secret (otherAesKey (ctx.inputs .secret))
  else ctx.toggled step

theorem wolfpsaKdfSp800_108Cmac_probe {p : Probe} {ctx : KdfCtx}
    (key : (ctx.inputs .secret).length = 16 ∨ (ctx.inputs .secret).length = 24 ∨
      (ctx.inputs .secret).length = 32)
    (words : InputsWithin uint32Max [.label, .context] ctx) :
    ∃ k0 : Bytes, k0.length = 16 ∧ wolfpsaKdfSp800_108Cmac (probeEnv p) ctx 1 =
      .ok [p (ctx.inputs .secret :: be32 1 :: sp800_108Pieces ctx ++ [k0]) 0] := by
  have label := isWord32_iff.mpr (words .label (by simp))
  have context := isWord32_iff.mpr (words .context (by simp))
  have word : isWord32 (ctx.inputs .secret).length = true := by
    rw [isWord32_iff, uint32Max]
    omega
  refine ⟨List.replicate wcAesBlockSize (p (ctx.inputs .secret :: sp800_108Pieces ctx) 0),
    List.length_replicate, ?_⟩
  unfold wolfpsaKdfSp800_108Cmac
  dsimp only
  rw [if_neg (by rcases key with key | key | key <;> simp [key]), word, if_neg (by decide), label,
    context, if_neg (by decide), if_neg (by simp [probeEnv])]
  rw [probeEnv_wc, kdfCmac_probe]
  dsimp only [bind, Except.bind]
  have first := kdfCmac_probe p (ctx.inputs .secret) (be32 1 :: sp800_108Pieces ctx ++
    [List.replicate wcAesBlockSize (p (ctx.inputs .secret :: sp800_108Pieces ctx) 0)])
  exact (sp800_108Loop_one (k := List.replicate wcAesBlockSize (p _ 0)) (Nat.zero_lt_succ 15)
    first).trans rfl

private theorem cmacToggled_length (ctx : KdfCtx) {step : KdfStep}
    (takes : step ∈ ([.secret, .label, .context] : List KdfStep)) :
    ((cmacToggled ctx step).inputs .secret).length + ((cmacToggled ctx step).inputs .label).length +
        ((cmacToggled ctx step).inputs .context).length ≠
      (ctx.inputs .secret).length + (ctx.inputs .label).length + (ctx.inputs .context).length := by
  simp only [List.mem_cons, List.not_mem_nil, or_false] at takes
  rcases takes with rfl | rfl | rfl
  · have other : (otherAesKey (ctx.inputs .secret)).length ≠ (ctx.inputs .secret).length := by
      simp only [otherAesKey, List.length_replicate]
      split <;> omega
    simp only [cmacToggled, KdfCtx.withInput, if_true, Function.update_self, ne_eq, reduceCtorEq,
      not_false_eq_true, Function.update_of_ne]
    omega
  all_goals
    simp only [cmacToggled, reduceCtorEq, if_false, toggled_same, toggled_other, ne_eq,
      not_false_eq_true]
  · have differs := toggle_length_ne (ctx.inputs .label)
    omega
  · have differs := toggle_length_ne (ctx.inputs .context)
    omega

theorem shows_sp800_108Cmac {env : KdfEnv Hmac Cmac} {ctx : KdfCtx} {n : Nat} {stream : Bytes}
    (success : wolfpsaKdfSp800_108Cmac env ctx n = .ok stream) {step : KdfStep}
    (takes : step ∈ ([.secret, .label, .context] : List KdfStep)) :
    Shows wolfpsaKdfSp800_108Cmac ctx step := by
  unfold wolfpsaKdfSp800_108Cmac at success
  dsimp only at success
  split at success
  · cases success
  rename_i size
  split at success
  · cases success
  split at success
  · cases success
  rename_i lengths
  have key : (ctx.inputs .secret).length = 16 ∨ (ctx.inputs .secret).length = 24 ∨
      (ctx.inputs .secret).length = 32 := by
    simp only [Bool.and_eq_true, bne_iff_ne] at size
    omega
  have words : InputsWithin uint32Max [.label, .context] ctx := by
    simpa [InputsWithin, isWord32_iff] using lengths
  have differ : DifferAt step ctx (cmacToggled ctx step) := by
    unfold cmacToggled
    split
    · rename_i same
      rw [same]
      exact .input _ (by decide)
    · refine differAt_toggled ctx ?_
      rintro rfl
      simp at takes
  have toggledKey : ((cmacToggled ctx step).inputs .secret).length = 16 ∨
      ((cmacToggled ctx step).inputs .secret).length = 24 ∨
      ((cmacToggled ctx step).inputs .secret).length = 32 := by
    unfold cmacToggled
    split
    · simp only [KdfCtx.withInput, Function.update_self, otherAesKey, List.length_replicate]
      split <;> simp
    · rename_i other
      rw [toggled_other ctx (Ne.symm other)]
      exact key
  have toggledWords : InputsWithin uint32Max [.label, .context] (cmacToggled ctx step) := by
    unfold cmacToggled
    split
    · simpa [InputsWithin, KdfCtx.withInput] using words
    · exact words.toggled (by decide) step
  let p : Probe := fun args _ =>
    if fedLength args = fedLength (ctx.inputs .secret :: be32 1 :: sp800_108Pieces ctx) + 16 then 1
    else 0
  obtain ⟨k0, full, here⟩ := wolfpsaKdfSp800_108Cmac_probe (p := p) key words
  obtain ⟨k0', full', there⟩ := wolfpsaKdfSp800_108Cmac_probe (p := p) toggledKey toggledWords
  have last (args : List Bytes) (k : Bytes) : fedLength (args ++ [k]) = fedLength args + k.length := by
    simp [fedLength]
  refine ⟨p, cmacToggled ctx step, 1, 0, differ, ?_, ?_, by decide⟩
  · rw [here]
    simp only [p]
    rw [if_pos (by rw [last, full])]
  · rw [there]
    simp only [p]
    rw [if_neg]
    rw [last, full', fedLength_counter, fedLength_counter]
    have differs := cmacToggled_length ctx takes
    omega

/-! ## PBKDF2 -/

/-- Another iteration count. -/
def otherCost (ctx : KdfCtx) : KdfCtx := { ctx with cost := if ctx.cost = 1 then 2 else 1 }

theorem otherCost_ne (ctx : KdfCtx) : (otherCost ctx).cost ≠ ctx.cost := by
  unfold otherCost
  dsimp only
  split <;> omega

theorem differAt_otherCost (ctx : KdfCtx) : DifferAt .cost ctx (otherCost ctx) := .cost _ rfl

theorem wolfpsaKdfPbkdf2_hmac_probe {p : Probe} {ctx : KdfCtx} {hash : WcHashType}
    (hmac : psaAlgIsPbkdf2Hmac ctx.alg = true)
    (known : wolfpsaKdfHashTypeFromAlg ctx.alg = some hash)
    (within : InputsWithin intMax [.password, .salt] ctx) (cost : ctx.cost ≤ intMax) :
    wolfpsaKdfPbkdf2 (probeEnv p) ctx 1 =
      .ok [p [ctx.inputs .password, ctx.inputs .salt] ctx.cost] := by
  have password := within .password (by simp)
  have salt := within .salt (by simp)
  unfold wolfpsaKdfPbkdf2
  rw [if_pos hmac, known]
  dsimp only
  have positive : intMax ≠ 0 := by decide
  rw [if_neg (by simp [password, salt, cost, positive])]
  rfl

theorem shows_pbkdf2_hmac {env : KdfEnv Hmac Cmac} {ctx : KdfCtx} {n : Nat} {stream : Bytes}
    (hmac : psaAlgIsPbkdf2Hmac ctx.alg = true)
    (success : wolfpsaKdfPbkdf2 env ctx n = .ok stream) {step : KdfStep}
    (takes : step ∈ ([.password, .salt, .cost] : List KdfStep)) :
    Shows wolfpsaKdfPbkdf2 ctx step := by
  unfold wolfpsaKdfPbkdf2 at success
  rw [if_pos hmac] at success
  split at success
  · cases success
  rename_i hash known
  split at success
  · cases success
  rename_i lengths
  simp only [Bool.or_eq_true, decide_eq_true_eq, not_or, Nat.not_lt] at lengths
  obtain ⟨⟨⟨password, salt⟩, cost⟩, -⟩ := lengths
  have within : InputsWithin intMax [.password, .salt] ctx := by simp [InputsWithin, password, salt]
  by_cases isCost : step = .cost
  · subst isCost
    refine shows_of_arguments (differAt_otherCost ctx)
      (fun p => wolfpsaKdfPbkdf2_hmac_probe hmac known within cost)
      (fun p => wolfpsaKdfPbkdf2_hmac_probe hmac known within ?_) (.inr (otherCost_ne ctx))
    unfold otherCost intMax
    dsimp only
    split <;> omega
  · refine shows_of_inputs ctx.cost within (by decide) (fun p other alg same fits => ?_) ?_ isCost
    · rw [← same]
      exact wolfpsaKdfPbkdf2_hmac_probe (by rw [alg, hmac]) (by rw [alg, known]) fits
        (by rw [same]; exact cost)
    · simpa [isCost] using takes

/-- The byte the probe makes of `n` further iterations of PBKDF2. -/
def probeIterate (p : Probe) (key : Bytes) : Nat → (u t : BitVec 8) → BitVec 8
  | 0, _, t => t
  | n + 1, u, t =>
    let u' := p [key, List.replicate wcAesBlockSize u] 0
    probeIterate p key n u' (t ^^^ u')

theorem pbkdf2CmacIterate_probe (p : Probe) (key : Bytes) (n : Nat) (u t : BitVec 8) :
    pbkdf2CmacIterate (probeWc p).mac key n (List.replicate wcAesBlockSize u)
        (List.replicate wcAesBlockSize t) =
      .ok (List.replicate wcAesBlockSize (probeIterate p key n u t)) := by
  induction n generalizing u t with
  | zero => rfl
  | succ n ih =>
    unfold pbkdf2CmacIterate
    rw [kdfCmac_probe]
    dsimp only [bind, Except.bind]
    rw [List.zipWith_replicate, Nat.min_self, ih]
    rfl

/-- The key of PBKDF2 with the CMAC PRF, as the probe answers. -/
def probeKey (p : Probe) (password : Bytes) : Bytes :=
  if password.length = wcAesBlockSize then password
  else List.replicate wcAesBlockSize
    (p [List.replicate wcAesBlockSize 0, password] 0)

/-- What PBKDF2 with the CMAC PRF makes of its first block, as the probe answers. -/
def probeBlock (p : Probe) (ctx : KdfCtx) : BitVec 8 :=
  let key := probeKey p (ctx.inputs .password)
  let u := p [key, ctx.inputs .salt ++ be32 1] 0
  probeIterate p key (ctx.cost - 1) u u

theorem kdfPbkdf2Cmac_probe {p : Probe} {ctx : KdfCtx}
    (password : isWord32 (ctx.inputs .password).length = true)
    (salt : isWord32 ((ctx.inputs .salt).length + 4) = true) :
    kdfPbkdf2Cmac (probeEnv p) ctx 1 = .ok [probeBlock p ctx] := by
  have key : pbkdf2CmacKey (probeWc p).mac (ctx.inputs .password) =
      .ok (probeKey p (ctx.inputs .password)) := by
    unfold pbkdf2CmacKey probeKey
    split
    · rename_i full
      rw [if_pos (by simpa using full)]
    · rename_i other
      rw [if_neg (by simpa using other)]
      exact kdfCmac_probe p _ _
  have block : pbkdf2CmacBlock (probeWc p).mac (probeKey p (ctx.inputs .password)) (ctx.inputs .salt)
      ctx.cost 1 = .ok (List.replicate wcAesBlockSize (probeBlock p ctx)) := by
    unfold pbkdf2CmacBlock
    rw [kdfCmac_probe]
    exact pbkdf2CmacIterate_probe p _ _ _ _
  unfold kdfPbkdf2Cmac
  dsimp only
  rw [password, if_neg (by decide), if_neg (by simp [probeEnv]), probeEnv_wc, key]
  dsimp only [bind, Except.bind]
  rw [salt, if_neg (by decide), if_neg (by simp [probeEnv])]
  have blocks : (1 + wcAesBlockSize - 1) % (sizeMax + 1) / wcAesBlockSize = 1 := by decide
  rw [blocks, if_neg (by decide)]
  unfold pbkdf2CmacBlocks
  rw [block]
  rfl

/-- A block of equal bytes is no salt with its block counter. -/
theorem replicate_ne_counter (b : BitVec 8) (salt : Bytes) :
    List.replicate wcAesBlockSize b ≠ salt ++ be32 1 := by
  intro same
  have last := congrArg (List.drop 14 ·) same
  have length : salt.length = 12 := by
    have total := congrArg List.length same
    simp only [List.length_replicate, wcAesBlockSize, List.length_append, be32, List.length_cons,
      List.length_nil] at total
    omega
  have tail : (salt ++ be32 1).drop 14 = [0, 1] := by
    rw [List.drop_append, List.drop_of_length_le (by omega), length]
    rfl
  simp only [tail, wcAesBlockSize, List.drop_replicate] at last
  have pair : [b, b] = [0, 1] := last
  simp only [List.cons.injEq, and_true] at pair
  exact absurd (pair.1.symm.trans pair.2) (by decide)

/-- The key under which the probe marks the first block. -/
def markedKey (password : Bytes) : Bytes :=
  if password.length = wcAesBlockSize then password else List.replicate wcAesBlockSize 2

/-- Marks the first block under the right key with 1 and a normalised password with 2. -/
def blockProbe (password salt : Bytes) : Probe := fun args _ =>
  if args = [markedKey password, salt ++ be32 1] then 1
  else if args = [List.replicate wcAesBlockSize 0, password] ∧ password.length ≠ wcAesBlockSize then
    2
  else 0

section

variable (password salt : Bytes)

theorem blockProbe_block (key : Bytes) (u : BitVec 8) :
    blockProbe password salt [key, List.replicate wcAesBlockSize u] 0 = 0 := by
  unfold blockProbe
  rw [if_neg, if_neg]
  · rintro ⟨same, short⟩
    simp only [List.cons.injEq, and_true] at same
    rw [← same.2] at short
    simp at short
  · intro same
    simp only [List.cons.injEq, and_true] at same
    exact replicate_ne_counter _ _ same.2

theorem probeIterate_blockProbe (key : Bytes) (n : Nat) (u t : BitVec 8) :
    probeIterate (blockProbe password salt) key n u t = t := by
  induction n generalizing u t with
  | zero => rfl
  | succ n ih =>
    unfold probeIterate
    dsimp only
    rw [blockProbe_block, ih]
    simp

theorem markedKey_ne_zero (short : password.length ≠ wcAesBlockSize) :
    List.replicate wcAesBlockSize 0 ≠ markedKey password := by
  unfold markedKey
  rw [if_neg short]
  decide

theorem probeKey_blockProbe :
    probeKey (blockProbe password salt) password = markedKey password := by
  unfold probeKey
  by_cases full : password.length = wcAesBlockSize
  · rw [if_pos full]
    simp [markedKey, full]
  · have two : blockProbe password salt [List.replicate wcAesBlockSize 0, password] 0 = 2 := by
      unfold blockProbe
      rw [if_neg, if_pos ⟨rfl, full⟩]
      intro same
      simp only [List.cons.injEq, and_true] at same
      exact markedKey_ne_zero password full same.1
    rw [if_neg full, two]
    simp [markedKey, full]

/-- Another key or another salt does not get the mark. -/
theorem blockProbe_ne_one {key salt' : Bytes}
    (different : key ≠ markedKey password ∨ salt' ≠ salt) :
    blockProbe password salt [key, salt' ++ be32 1] 0 ≠ 1 := by
  unfold blockProbe
  rw [if_neg]
  · split <;> decide
  · intro same
    simp only [List.cons.injEq, and_true, List.append_cancel_right_eq] at same
    rcases different with other | other
    · exact other same.1
    · exact other same.2

/-- Another password of the same kind: of one block, or not. -/
def otherPassword : Bytes :=
  if password.length = wcAesBlockSize then
    if password = List.replicate wcAesBlockSize 0 then List.replicate wcAesBlockSize 1
    else List.replicate wcAesBlockSize 0
  else toggle password

theorem otherPassword_ne : otherPassword password ≠ password := by
  unfold otherPassword
  split
  · split
    · rename_i zero
      rw [zero]
      decide
    · rename_i nonzero
      exact Ne.symm nonzero
  · exact toggle_ne password

theorem isWord32_otherPassword : isWord32 (otherPassword password).length = true := by
  have short := toggle_length_le password
  rw [isWord32_iff, uint32Max]
  unfold otherPassword wcAesBlockSize
  split_ifs
  · simp
  · simp
  · omega

theorem probeKey_otherPassword :
    probeKey (blockProbe password salt) (otherPassword password) ≠ markedKey password := by
  have other := otherPassword_ne password
  by_cases full : password.length = wcAesBlockSize
  · have still : (otherPassword password).length = wcAesBlockSize := by
      unfold otherPassword
      rw [if_pos full]
      split <;> simp
    unfold probeKey markedKey
    rw [if_pos still, if_pos full]
    exact other
  · have short : (otherPassword password).length ≠ wcAesBlockSize := by
      have small := toggle_length_le password
      unfold otherPassword
      rw [if_neg full, wcAesBlockSize]
      omega
    have unmarked : blockProbe password salt
        [List.replicate wcAesBlockSize 0, otherPassword password] 0 = 0 := by
      unfold blockProbe
      rw [if_neg, if_neg]
      · rintro ⟨same, -⟩
        simp only [List.cons.injEq, true_and, and_true] at same
        exact other same
      · intro same
        simp only [List.cons.injEq, and_true] at same
        exact markedKey_ne_zero password full same.1
    unfold probeKey
    rw [if_neg short, unmarked]
    exact markedKey_ne_zero password full

end

/-- Tells one iteration from more: 1 for a first block, 2 for the block of ones, 0 for those that
follow. -/
def costProbe : Probe
  | [_, data], _ =>
    if data = List.replicate wcAesBlockSize 1 then 2
    else if data = List.replicate wcAesBlockSize 2 ∨ data = List.replicate wcAesBlockSize 0 then 0
    else 1
  | _, _ => 0

theorem probeIterate_zero (key : Bytes) (n : Nat) (u t : BitVec 8) (late : u = 0 ∨ u = 2) :
    probeIterate costProbe key n u t = t := by
  induction n generalizing u t with
  | zero => rfl
  | succ n ih =>
    have zero : costProbe [key, List.replicate wcAesBlockSize u] 0 = 0 := by
      unfold costProbe
      dsimp only
      rcases late with rfl | rfl
      · decide
      · decide
    unfold probeIterate
    dsimp only
    rw [zero, ih 0 _ (.inl rfl)]
    simp

/-- The first block under `costProbe` shows whether there is more than one iteration. -/
theorem probeBlock_costProbe (ctx : KdfCtx) :
    probeBlock costProbe ctx = if ctx.cost ≤ 1 then 1 else 3 := by
  have first (key : Bytes) : costProbe [key, ctx.inputs .salt ++ be32 1] 0 = 1 := by
    unfold costProbe
    dsimp only
    rw [if_neg (Ne.symm (replicate_ne_counter _ _)), if_neg]
    rintro (same | same)
    · exact replicate_ne_counter _ _ same.symm
    · exact replicate_ne_counter _ _ same.symm
  unfold probeBlock
  dsimp only
  rw [first]
  split
  · rename_i small
    have none : ctx.cost - 1 = 0 := by omega
    rw [none]
    rfl
  · rename_i large
    obtain ⟨n, more⟩ : ∃ n, ctx.cost - 1 = n + 1 := ⟨ctx.cost - 2, by omega⟩
    rw [more, probeIterate]
    have second (key : Bytes) : costProbe [key, List.replicate wcAesBlockSize 1] 0 = 2 := by
      unfold costProbe
      dsimp only
      decide
    rw [second, probeIterate_zero _ _ _ _ (.inr rfl)]
    decide

theorem shows_pbkdf2Cmac {env : KdfEnv Hmac Cmac} {ctx : KdfCtx} {n : Nat} {stream : Bytes}
    (success : kdfPbkdf2Cmac env ctx n = .ok stream) (positive : ctx.cost ≠ 0) {step : KdfStep}
    (takes : step ∈ ([.password, .salt, .cost] : List KdfStep)) : Shows kdfPbkdf2Cmac ctx step := by
  unfold kdfPbkdf2Cmac at success
  dsimp only at success
  split at success
  · cases success
  rename_i shortPassword
  split at success
  · cases success
  obtain ⟨key, -, success⟩ := except_bind_ok success
  split at success
  · cases success
  rename_i shortSalt
  simp only [Bool.not_eq_true', Bool.not_eq_false] at shortPassword shortSalt
  have marked : probeBlock (blockProbe (ctx.inputs .password) (ctx.inputs .salt)) ctx = 1 := by
    unfold probeBlock
    dsimp only
    rw [probeKey_blockProbe, probeIterate_blockProbe]
    simp [blockProbe]
  simp only [List.mem_cons, List.not_mem_nil, or_false] at takes
  rcases takes with rfl | rfl | rfl
  · let other := ctx.withInput .password (otherPassword (ctx.inputs .password))
    have salt : other.inputs .salt = ctx.inputs .salt := by simp [other, KdfCtx.withInput]
    have password : other.inputs .password = otherPassword (ctx.inputs .password) := by
      simp [other, KdfCtx.withInput]
    refine ⟨blockProbe (ctx.inputs .password) (ctx.inputs .salt), other, _, _,
      .input _ (by decide), kdfPbkdf2Cmac_probe shortPassword shortSalt, kdfPbkdf2Cmac_probe ?_ ?_,
      ?_⟩
    · rw [password]
      exact isWord32_otherPassword _
    · rw [salt]
      exact shortSalt
    · rw [marked]
      unfold probeBlock
      dsimp only
      rw [probeIterate_blockProbe, password]
      exact Ne.symm (blockProbe_ne_one _ _ (.inl (probeKey_otherPassword _ _)))
  · let other := ctx.toggled .salt
    have salt : other.inputs .salt = toggle (ctx.inputs .salt) := toggled_same ctx .salt
    have password : other.inputs .password = ctx.inputs .password := toggled_other ctx (by decide)
    refine ⟨blockProbe (ctx.inputs .password) (ctx.inputs .salt), other, _, _,
      differAt_toggled ctx (by decide), kdfPbkdf2Cmac_probe shortPassword shortSalt,
      kdfPbkdf2Cmac_probe ?_ ?_, ?_⟩
    · rw [password]
      exact shortPassword
    · have short := toggle_length_le (ctx.inputs .salt)
      rw [salt, isWord32_iff, uint32Max]
      omega
    · rw [marked]
      unfold probeBlock
      dsimp only
      rw [probeIterate_blockProbe, salt]
      exact Ne.symm (blockProbe_ne_one _ _ (.inr (toggle_ne _)))
  · refine ⟨costProbe, otherCost ctx, _, _, differAt_otherCost ctx,
      kdfPbkdf2Cmac_probe shortPassword shortSalt, kdfPbkdf2Cmac_probe shortPassword shortSalt, ?_⟩
    rw [probeBlock_costProbe, probeBlock_costProbe]
    unfold otherCost
    dsimp only
    by_cases one : ctx.cost = 1
    · simp [one]
    · rw [if_neg one, if_neg (by omega), if_pos (Nat.le_refl 1)]
      decide

/-! ## Every back end -/

/-- The steps a back end has a use for. -/
def kdfTakes (ctx : KdfCtx) : List KdfStep :=
  if ctx.isRawKdf then [.secret]
  else if psaAlgIsAnyHkdf ctx.alg then
    if psaAlgIsHkdfExtract ctx.alg then [.salt, .secret]
    else if psaAlgIsHkdfExpand ctx.alg then [.secret, .info]
    else [.salt, .secret, .info]
  else if psaAlgIsTls12Prf ctx.alg then [.secret, .label, .seed]
  else if psaAlgIsTls12PskToMs ctx.alg then [.secret, .otherSecret, .seed]
  else if psaAlgIsPbkdf2 ctx.alg then [.password, .salt, .cost]
  else if psaAlgIsSp800_108CounterHmac ctx.alg || ctx.alg == psaAlgSp800_108CounterCmac then
    [.secret, .label, .context]
  else []

/-- A raw derivation hands out the secret itself. -/
private theorem kdfReads_raw {ctx : KdfCtx} (raw : ctx.isRawKdf = true) : KdfReads ctx .secret := by
  have rawToggled : (ctx.toggled .secret).isRawKdf = true := raw
  refine ⟨_, _, probeEnv fun _ _ => 0, 1, ctx.toggled .secret, (ctx.inputs .secret).take 1,
    (toggle (ctx.inputs .secret)).take 1, differAt_toggled ctx (by decide), ?_, ?_, ?_⟩
  · simp [wolfpsaKdfComputeOutput, raw]
  · simp [wolfpsaKdfComputeOutput, rawToggled]
  · unfold toggle
    split
    · rename_i empty
      simp [empty]
    · rename_i full
      simpa using full

/-- Where some output was computed, the back end reads every step it takes and was given. -/
theorem kdfReads_of_takes {env : KdfEnv Hmac Cmac} {ctx : KdfCtx} {n : Nat} {stream : Bytes}
    (success : wolfpsaKdfComputeOutput env ctx n = .ok stream)
    (positive : psaAlgIsPbkdf2 ctx.alg = true → ctx.cost ≠ 0) {step : KdfStep}
    (takes : step ∈ kdfTakes ctx) (given : ctx.isSet step = true) : KdfReads ctx step := by
  unfold wolfpsaKdfComputeOutput at success
  unfold kdfTakes at takes
  split at success
  · rename_i raw
    rw [if_pos raw] at takes
    rw [List.mem_singleton.mp takes]
    exact kdfReads_raw raw
  rename_i raw
  rw [if_neg raw] at takes
  split at success
  · rename_i hkdf
    rw [if_pos hkdf] at takes
    refine (shows_hkdf success takes).reads fun p other alg same => ?_
    simp [wolfpsaKdfComputeOutput, alg, same, raw, hkdf]
  rename_i hkdf
  rw [if_neg hkdf] at takes
  split at success
  · rename_i prf
    rw [if_pos prf] at takes
    refine (shows_tls12Prf success takes).reads fun p other alg same => ?_
    simp [wolfpsaKdfComputeOutput, alg, same, raw, hkdf, prf]
  rename_i prf
  rw [if_neg prf] at takes
  split at success
  · rename_i psk
    rw [if_pos psk] at takes
    refine (shows_tls12PskToMs success takes given).reads fun p other alg same => ?_
    simp [wolfpsaKdfComputeOutput, alg, same, raw, hkdf, prf, psk]
  rename_i psk
  rw [if_neg psk] at takes
  split at success
  · rename_i pbkdf2
    rw [if_pos pbkdf2] at takes
    by_cases hmac : psaAlgIsPbkdf2Hmac ctx.alg = true
    · refine (shows_pbkdf2_hmac hmac success takes).reads fun p other alg same => ?_
      simp [wolfpsaKdfComputeOutput, alg, same, raw, hkdf, prf, psk, pbkdf2]
    · unfold wolfpsaKdfPbkdf2 at success
      rw [if_neg hmac] at success
      split at success
      · rename_i cmac
        refine (shows_pbkdf2Cmac success (positive pbkdf2) takes).reads fun p other alg same => ?_
        simp only [wolfpsaKdfComputeOutput, wolfpsaKdfPbkdf2, alg, same, raw, hkdf, prf, psk,
          pbkdf2, hmac, cmac, if_true, if_false, Bool.false_eq_true]
      · cases success
  rename_i pbkdf2
  rw [if_neg pbkdf2] at takes
  split at success
  · rename_i hmac
    rw [if_pos (by simp [hmac])] at takes
    refine (shows_sp800_108Hmac success takes).reads fun p other alg same => ?_
    simp [wolfpsaKdfComputeOutput, alg, same, raw, hkdf, prf, psk, pbkdf2, hmac]
  rename_i hmac
  split at success
  · rename_i cmac
    rw [if_pos (by simp only [cmac, Bool.or_true])] at takes
    refine (shows_sp800_108Cmac success takes).reads fun p other alg same => ?_
    simp only [wolfpsaKdfComputeOutput, alg, same, raw, hkdf, prf, psk, pbkdf2, hmac, cmac, if_true,
      if_false, Bool.false_eq_true]
  · cases success

end WolfPSA.Source
