import WolfPSA.Source.SignatureCalls

/-!
# XMSS and XMSS^MT parameter families

A public key blob starts with a parameter-set OID, and the OID spaces of XMSS and XMSS^MT overlap.
The key type says which of the two tables the OID belongs to; `wolfpsa_xmss_verify` is not told
and takes the first table that knows it.
-/

namespace WolfPSA.Guarantees

open WolfPSA.Source

/-- The parameter tables of the two families, `true` for XMSS^MT, and the public key length of a
parameter set. -/
structure XmssTables (Params : Type) where
  lookup : Bool → Bytes → Option Params
  publicKeyLength : Params → Nat

/-- The OID prefix of a public key blob. -/
def xmssOid (pub : Bytes) : Bytes := pub.take 4

variable {Params : Type}

/-- The parameter set a family's table gives for the blob, where the length fits. -/
def XmssTables.Gives (tables : XmssTables Params) (isXmssmt : Bool) (pub : Bytes) (p : Params) :
    Prop :=
  tables.lookup isXmssmt (xmssOid pub) = some p ∧ pub.length = tables.publicKeyLength p

/-- The family's table knows the blob. -/
def XmssTables.Knows (tables : XmssTables Params) (isXmssmt : Bool) (pub : Bytes) : Prop :=
  ∃ p, tables.Gives isXmssmt pub p

theorem XmssTables.Gives.unique {tables : XmssTables Params} {isXmssmt : Bool} {pub : Bytes}
    {p q : Params} (first : tables.Gives isXmssmt pub p) (second : tables.Gives isXmssmt pub q) :
    p = q := by
  rw [← Option.some_inj, ← first.1, ← second.1]

/-- What the code relies on from wolfCrypt. `load` is the key object built from a parameter set of
a family; an import that finds none reports `NOT_COMPILED_IN` or, for the length, `BUFFER_E`. -/
structure XmssLaw (tables : XmssTables Params) (wc : WcXmss)
    (load : Bool → Params → Bytes → wc.Key) : Prop where
  init_ok : ∀ pass, wc.init pass = .ok ()
  import_iff : ∀ pub isXmssmt key, wc.importPubRaw pub isXmssmt = .ok key ↔
    ∃ p, tables.Gives isXmssmt pub p ∧ key = load isXmssmt p pub
  import_error : ∀ pub isXmssmt e, wc.importPubRaw pub isXmssmt = .error e →
    e = .notCompiledIn ∨ e = .bufferE

def xmssKeyType (isXmssmt : Bool) : KeyType :=
  if isXmssmt then psaKeyTypeXmssMtPublicKey else psaKeyTypeXmssPublicKey

def xmssAlg (isXmssmt : Bool) : Algorithm := if isXmssmt then psaAlgXmssMt else psaAlgXmss

/-- A verification request that reaches wolfCrypt: the algorithm of the key's own family, a policy
that admits it, readable arguments, a signature, and lengths that fit a `word32`. -/
structure XmssRequest (attributes : KeyAttributes) (isXmssmt : Bool) (alg : Algorithm)
    (pub : Bytes) (input signature : InBuf) : Prop where
  alg_eq : alg = xmssAlg isXmssmt
  admitted : wolfpsaAsymmetricCheckAttributes attributes psaKeyUsageVerifyMessage alg = .success
  input_readable : (!(input.isNull && input.length != 0)) = true
  signature_readable : (!(signature.isNull && signature.length != 0)) = true
  signature_nonempty : (signature.length != 0) = true
  fits : fitWord32 [pub.length, input.bytes.length, signature.bytes.length] = true

/-- Verification under a key of this family and with this blob is verification with the parameters
of the family's own table: it succeeds for exactly the requests whose signature wolfCrypt accepts
under them. -/
def XmssFaithful (tables : XmssTables Params) (isXmssmt : Bool) (pub : Bytes) : Prop :=
  ∀ (env : SignEnv) (load : Bool → Params → Bytes → env.xmss.Key),
    XmssLaw tables env.xmss load →
    ∀ (key : KeyId) (attributes : KeyAttributes), env.getKeyData key = .ok (attributes, pub) →
      attributes.type = xmssKeyType isXmssmt →
      ∀ (alg : Algorithm) (input signature : InBuf),
        psaVerifyMessage env key alg input signature = .ok () ↔
          XmssRequest attributes isXmssmt alg pub input signature ∧
            ∃ p, tables.Gives isXmssmt pub p ∧
              env.xmss.verify (load isXmssmt p pub) signature.bytes input.bytes
                (toCInt input.bytes.length) = .ok ()

/-- No parameter set of the other family stands before the one the key type means: XMSS is tried
first, so an XMSS^MT blob must be unknown to the XMSS table, and an XMSS blob known to it or to
neither. -/
def XmssUnambiguous (tables : XmssTables Params) (isXmssmt : Bool) (pub : Bytes) : Prop :=
  if isXmssmt then ¬ tables.Knows false pub else tables.Knows false pub ∨ ¬ tables.Knows true pub

/-! ## The import loop -/

section Law

variable {tables : XmssTables Params} {wc : WcXmss} {load : Bool → Params → Bytes → wc.Key}

/-- One pass: the key of the family where its table knows the blob, else the remaining passes. -/
theorem xmssImport_cons (law : XmssLaw tables wc load) (pub : Bytes) (isXmssmt : Bool)
    (rest : List Bool) :
    (∃ p, tables.Gives isXmssmt pub p ∧
        xmssImport wc pub (isXmssmt :: rest) = .ok (load isXmssmt p pub)) ∨
      (¬ tables.Knows isXmssmt pub ∧
        xmssImport wc pub (isXmssmt :: rest) = xmssImport wc pub rest) := by
  rw [xmssImport, law.init_ok isXmssmt]
  cases imported : wc.importPubRaw pub isXmssmt with
  | ok key =>
    obtain ⟨p, gives, rfl⟩ := (law.import_iff pub isXmssmt key).mp imported
    exact .inl ⟨p, gives, rfl⟩
  | error e =>
    refine .inr ⟨?_, ?_⟩
    · rintro ⟨p, gives⟩
      have accepted := (law.import_iff pub isXmssmt _).mpr ⟨p, gives, rfl⟩
      rw [imported] at accepted
      cases accepted
    · obtain rfl | rfl := law.import_error pub isXmssmt e imported
      · rfl
      · rfl

/-- The key the loop settles on: XMSS where that table knows the blob, else XMSS^MT. -/
theorem xmssImport_ok_iff (law : XmssLaw tables wc load) (pub : Bytes) (key : wc.Key) :
    xmssImport wc pub [false, true] = .ok key ↔
      ∃ p, (tables.Gives false pub p ∧ key = load false p pub) ∨
        (¬ tables.Knows false pub ∧ tables.Gives true pub p ∧ key = load true p pub) := by
  obtain ⟨p, gives, done⟩ | ⟨unknown, next⟩ := xmssImport_cons law pub false [true]
  · rw [done, Except.ok.injEq]
    constructor
    · rintro rfl
      exact ⟨p, .inl ⟨gives, rfl⟩⟩
    · rintro ⟨q, ⟨given, rfl⟩ | ⟨absent, -⟩⟩
      · rw [gives.unique given]
      · exact absurd ⟨p, gives⟩ absent
  · rw [next]
    obtain ⟨p, gives, done⟩ | ⟨absent, stop⟩ := xmssImport_cons law pub true []
    · rw [done, Except.ok.injEq]
      constructor
      · rintro rfl
        exact ⟨p, .inr ⟨unknown, gives, rfl⟩⟩
      · rintro ⟨q, ⟨given, -⟩ | ⟨-, given, rfl⟩⟩
        · exact absurd ⟨q, given⟩ unknown
        · rw [gives.unique given]
    · rw [stop]
      constructor
      · intro impossible
        cases impossible
      · rintro ⟨q, ⟨given, -⟩ | ⟨-, given, -⟩⟩
        · exact absurd ⟨q, given⟩ unknown
        · exact absurd ⟨q, given⟩ absent

end Law

/-! ## The whole call -/

theorem xmssKeyType_hashBased (isXmssmt : Bool) : isHashBasedKey (xmssKeyType isXmssmt) = true := by
  cases isXmssmt <;> decide

/-- Each XMSS type takes its own algorithm, and then the one verification function. -/
theorem verifyMessageHashBased_xmss (env : SignEnv) (isXmssmt : Bool) (pub : Bytes)
    (alg : Algorithm) (input signature : Bytes) :
    verifyMessageHashBased env (xmssKeyType isXmssmt) pub alg input signature =
      (require (alg == xmssAlg isXmssmt) .invalidArgument >>= fun _ =>
        wolfpsaXmssVerify env.xmss pub input signature) := by
  cases isXmssmt <;> rfl

/-- A verification under an XMSS key: the request is one of the family, and wolfCrypt accepts the
signature under the key the import loop settled on. -/
theorem psaVerifyMessage_xmss_ok_iff {env : SignEnv} {key : KeyId} {attributes : KeyAttributes}
    {pub : Bytes} {isXmssmt : Bool} (found : env.getKeyData key = .ok (attributes, pub))
    (type : attributes.type = xmssKeyType isXmssmt) (alg : Algorithm) (input signature : InBuf) :
    psaVerifyMessage env key alg input signature = .ok () ↔
      XmssRequest attributes isXmssmt alg pub input signature ∧
        ∃ loaded, xmssImport env.xmss pub [false, true] = .ok loaded ∧
          env.xmss.verify loaded signature.bytes input.bytes (toCInt input.bytes.length) =
            .ok () := by
  rw [psaVerifyMessage_hashBased_ok_iff found (by rw [type, xmssKeyType_hashBased]), type,
    verifyMessageHashBased_xmss]
  simp only [wolfpsaXmssVerify, except_bind_ok_iff, require_ok_iff, exists_const, mapError_ok_iff,
    beq_iff_eq]
  constructor
  · rintro ⟨⟨admitted, readable, signed, nonempty⟩, own, fits, loaded⟩
    exact ⟨⟨own, admitted, readable, signed, nonempty, fits⟩, loaded⟩
  · rintro ⟨request, loaded⟩
    exact ⟨⟨request.admitted, request.input_readable, request.signature_readable,
      request.signature_nonempty⟩, request.alg_eq, request.fits, loaded⟩

/-! ## The condition is exact -/

/-- An import that answers the family it was asked for. -/
def tableImport (tables : XmssTables Params) (pub : Bytes) (isXmssmt : Bool) :
    Except WcError Bool :=
  match tables.lookup isXmssmt (xmssOid pub) with
  | none => .error .notCompiledIn
  | some p => if pub.length = tables.publicKeyLength p then .ok isXmssmt else .error .bufferE

/-- A wolfCrypt for the given tables that accepts every signature under the keys of one family. -/
def tableXmss (tables : XmssTables Params) (accepted : Bool) : WcXmss where
  Key := Bool
  init _ := .ok ()
  importPubRaw := tableImport tables
  verify key _ _ _ := if key = accepted then .ok () else .error (.wc .sigVerifyE)

theorem tableImport_ok_iff (tables : XmssTables Params) (pub : Bytes) (isXmssmt key : Bool) :
    tableImport tables pub isXmssmt = .ok key ↔
      ∃ p, tables.Gives isXmssmt pub p ∧ key = isXmssmt := by
  unfold tableImport XmssTables.Gives
  cases entry : tables.lookup isXmssmt (xmssOid pub) with
  | none => simp
  | some p =>
    by_cases fits : pub.length = tables.publicKeyLength p
    · simp [fits, eq_comm]
    · simp [fits]

theorem tableXmss_law (tables : XmssTables Params) (accepted : Bool) :
    XmssLaw tables (tableXmss tables accepted) (fun isXmssmt _ _ => isXmssmt) where
  init_ok _ := rfl
  import_iff pub isXmssmt key := tableImport_ok_iff tables pub isXmssmt key
  import_error pub isXmssmt e failed := by
    change tableImport tables pub isXmssmt = .error e at failed
    unfold tableImport at failed
    split at failed
    · exact .inl (Except.error.inj failed).symm
    · split at failed
      · cases failed
      · exact .inr (Except.error.inj failed).symm

/-- A key of the family whose policy is the family's algorithm. -/
def xmssAttributes (isXmssmt : Bool) : KeyAttributes :=
  { psaKeyAttributesInit with
    type := xmssKeyType isXmssmt
    usage := psaKeyUsageVerifyMessage
    alg := xmssAlg isXmssmt }

def tableEnv (tables : XmssTables Params) (isXmssmt accepted : Bool) (pub : Bytes) : SignEnv :=
  { acceptingEnv ⟨false, false, false, false, true, true⟩ (xmssAttributes isXmssmt) pub with
    xmss := tableXmss tables accepted }

theorem xmssAttributes_admitted (isXmssmt : Bool) :
    wolfpsaAsymmetricCheckAttributes (xmssAttributes isXmssmt) psaKeyUsageVerifyMessage
      (xmssAlg isXmssmt) = .success := by
  cases isXmssmt <;> decide

/-- A blob that `psa_import_key` accepts has a length far below a `word32`. -/
theorem accepted_length {isXmssmt : Bool} {bits : Nat} {pub : Bytes}
    (accepted : publicKeyLengthOk (xmssKeyType isXmssmt) bits pub.length = .success) :
    pub.length ≤ 68 := by
  have sizes : publicKeySizes (xmssKeyType isXmssmt) = [(192, 52), (256, 68)] := by
    cases isXmssmt <;> rfl
  unfold publicKeyLengthOk at accepted
  rw [sizes] at accepted
  by_cases small : bits = 192
  · subst small
    simp only [List.lookup, BEq.rfl, ite_eq_right_iff, reduceCtorEq, imp_false] at accepted
    omega
  · by_cases large : bits = 256
    · subst large
      simp [List.lookup] at accepted
      omega
    · simp [List.lookup, small, large, beq_eq_false_iff_ne.mpr] at accepted

/-- The property holds of a blob exactly where the order of the two tables does not matter. -/
theorem xmss_family_faithful_iff (tables : XmssTables Params) (isXmssmt : Bool) (bits : Nat)
    (pub : Bytes)
    (accepted : publicKeyLengthOk (xmssKeyType isXmssmt) bits pub.length = .success) :
    XmssFaithful tables isXmssmt pub ↔ XmssUnambiguous tables isXmssmt pub := by
  constructor
  · intro faithful
    by_contra ambiguous
    -- The loop settles on the other family, whose keys accept everything.
    have other : xmssImport (tableXmss tables (!isXmssmt)) pub [false, true] = .ok (!isXmssmt) := by
      refine (xmssImport_ok_iff (tableXmss_law tables (!isXmssmt)) pub _).mpr ?_
      cases isXmssmt with
      | false =>
        simp only [XmssUnambiguous, Bool.false_eq_true, if_false, not_or, not_not] at ambiguous
        obtain ⟨unknown, p, gives⟩ := ambiguous
        exact ⟨p, .inr ⟨unknown, gives, rfl⟩⟩
      | true =>
        simp only [XmssUnambiguous, if_true, not_not] at ambiguous
        obtain ⟨p, gives⟩ := ambiguous
        exact ⟨p, .inl ⟨gives, rfl⟩⟩
    have request : XmssRequest (xmssAttributes isXmssmt) isXmssmt (xmssAlg isXmssmt) pub (.data [])
        (.data [0]) :=
      ⟨rfl, xmssAttributes_admitted isXmssmt, rfl, rfl, rfl, fitWord32_iff.mpr (by
        have := accepted_length accepted
        simp [uint32Max, InBuf.bytes]
        omega)⟩
    let env := tableEnv tables isXmssmt (!isXmssmt) pub
    have found : env.getKeyData 1 = .ok (xmssAttributes isXmssmt, pub) := rfl
    have success := (psaVerifyMessage_xmss_ok_iff found rfl _ _ _).mpr
      ⟨request, _, other, if_pos rfl⟩
    obtain ⟨-, p, -, verified⟩ := (faithful env _ (tableXmss_law tables (!isXmssmt)) 1 _ found rfl
      _ _ _).mp success
    change (if isXmssmt = !isXmssmt then Except.ok () else _) = Except.ok () at verified
    rw [if_neg (by cases isXmssmt <;> decide)] at verified
    cases verified
  · intro unambiguous env load law key attributes found type alg input signature
    rw [psaVerifyMessage_xmss_ok_iff found type]
    refine and_congr_right fun _ => ?_
    simp only [xmssImport_ok_iff law]
    cases isXmssmt with
    | false =>
      simp only [XmssUnambiguous, Bool.false_eq_true, if_false] at unambiguous
      constructor
      · rintro ⟨loaded, ⟨p, ⟨gives, rfl⟩ | ⟨unknown, gives, -⟩⟩, verified⟩
        · exact ⟨p, gives, verified⟩
        · exact absurd ⟨p, gives⟩ (unambiguous.resolve_left unknown)
      · rintro ⟨p, gives, verified⟩
        exact ⟨_, ⟨p, .inl ⟨gives, rfl⟩⟩, verified⟩
    | true =>
      simp only [XmssUnambiguous, if_true] at unambiguous
      constructor
      · rintro ⟨loaded, ⟨p, ⟨gives, -⟩ | ⟨-, gives, rfl⟩⟩, verified⟩
        · exact absurd ⟨p, gives⟩ unambiguous
        · exact ⟨p, gives, verified⟩
      · rintro ⟨p, gives, verified⟩
        exact ⟨_, ⟨p, .inr ⟨unambiguous, gives, rfl⟩⟩, verified⟩

/-- Two tables that share the OID 1, as those of the two families do, for keys of 68 bytes. -/
def sharedTables : XmssTables Nat where
  lookup _ oid := if oid = [0, 0, 0, 1] then some 68 else none
  publicKeyLength := id

def sharedBlob : Bytes := [0, 0, 0, 1] ++ List.replicate 64 0

theorem xmss_family_faithful_shared_oid :
    publicKeyLengthOk psaKeyTypeXmssPublicKey 256 sharedBlob.length = .success ∧
      XmssFaithful sharedTables false sharedBlob :=
  ⟨by decide, (xmss_family_faithful_iff sharedTables false 256 sharedBlob (by decide)).mpr
    (.inl ⟨68, by decide, by decide⟩)⟩

/-- A signature that wolfCrypt accepts under the XMSS^MT parameters is refused under an XMSS^MT
key, since the shared OID selects the XMSS parameters. -/
theorem xmss_mt_signature_refused :
    publicKeyLengthOk psaKeyTypeXmssMtPublicKey 256 sharedBlob.length = .success ∧
      (tableXmss sharedTables true).verify true [0] [] 0 = .ok () ∧
      psaVerifyMessage (tableEnv sharedTables true true sharedBlob) 1 psaAlgXmssMt (.data [])
        (.data [0]) = refuse .invalidSignature ∧
      ¬ XmssFaithful sharedTables true sharedBlob := by
  refine ⟨by decide, rfl, rfl, ?_⟩
  intro faithful
  have genuine := (faithful (tableEnv sharedTables true true sharedBlob) _
    (tableXmss_law sharedTables true) 1 (xmssAttributes true) rfl rfl psaAlgXmssMt (.data [])
    (.data [0])).mpr ⟨⟨rfl, by decide, rfl, rfl, rfl, by decide⟩, 68, ⟨by decide, by decide⟩, rfl⟩
  cases genuine

end WolfPSA.Guarantees
