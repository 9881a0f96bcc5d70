import WolfPSA.Source.KeyWrap
import WolfPSA.Guarantees.StoredKeys

/-!
# Keys that leave the store wrapped

`psa_wrap_key` and `psa_unwrap_key` over both store back ends, with an ideal key wrap for wolfCrypt.
Whatever the environment does, the two calls act on keys whose policy allows it, and unwrap imports
only what was wrapped. A key comes back whole if the export buffer holds it; that buffer and the cast
of the length to `word32` are where the calls fall short.
-/

namespace WolfPSA.Guarantees
open Lib Source Prog

/-! ## The calls as functions of the map -/

/-- The wrapping key that a map holds. -/
def mapWrappingKey (m : KeyMap) (wrappingKey : KeyId) (usage : KeyUsage) (alg : Algorithm) :
    Except Failure Bytes :=
  match m.getKeyData wrappingKey with
  | .error status => .error status
  | .ok (wrapAttr, kek) =>
    if wrapAttr.type ≠ psaKeyTypeAes then .error ⟨.invalidArgument, failing⟩
    else if wrapAttr.usage &&& usage = 0 then .error ⟨.notPermitted, failing⟩
    else if !wolfpsaKeyPermitsAlg wrapAttr alg then .error ⟨.notPermitted, failing⟩
    else .ok kek

def mapWrapKey (config : ExportConfig) (crypt : WcKeyWrap) (m : KeyMap) (wrappingKey : KeyId)
    (alg : Algorithm) (key : KeyId) (dataSize : Nat) : Except Failure Bytes :=
  match keyWrapAlg alg with
  | .error status => .error status
  | .ok () =>
    match mapWrappingKey m wrappingKey psaKeyUsageWrap alg with
    | .error status => .error status
    | .ok kek =>
      match m.getKeyAttributes key with
      | .error status => .error status
      | .ok targetAttr =>
        match m.exportKey key (exportBufferSize config targetAttr) with
        | .error status => .error status
        | .ok plaintext => wrapPlaintext crypt kek plaintext dataSize

/-- What `psa_unwrap_key` imports. -/
def mapUnwrapped (crypt : WcKeyWrap) (m : KeyMap) (wrappingKey : KeyId) (alg : Algorithm)
    (data : Bytes) : Except Failure Bytes :=
  match keyWrapAlg alg with
  | .error status => .error status
  | .ok () =>
    if data.length < 24 ∨ data.length % 8 ≠ 0 then .error ⟨.invalidArgument, failing⟩
    else
      match mapWrappingKey m wrappingKey psaKeyUsageUnwrap alg with
      | .error status => .error status
      | .ok kek => unwrapPlaintext crypt kek data

/-! ## In any environment

A call that fails on its way may have any reason; one that succeeds has read what the map holds. -/

section

variable {backend : StoreBackend} {admitted : (Nat → Fault) → Prop} {w : World}
  (steady : SteadyReads backend)
include steady

theorem loadWrappingKey_steady (wrappingKey : KeyId) (usage : KeyUsage) (alg : Algorithm) :
    ReadsIfOk backend admitted w (mapWrappingKey (keyMap backend w) wrappingKey usage alg)
      (loadWrappingKey wrappingKey usage alg) := by
  refine triple_bind_of (wolfpsaGetKeyData_steady steady wrappingKey) ?_
  rintro (status | ⟨wrapAttr, kek⟩) s ⟨rfl, read⟩
  · exact ⟨rfl, nofun⟩
  dsimp only
  unfold mapWrappingKey
  rw [read (wrapAttr, kek) rfl]
  dsimp only
  split
  · exact ⟨rfl, nofun⟩
  split
  · exact ⟨rfl, nofun⟩
  split
  · exact ⟨rfl, nofun⟩
  · exact ⟨rfl, fun _ same => same⟩

theorem psaWrapKey_steady (config : ExportConfig) (crypt : WcKeyWrap) (wrappingKey : KeyId)
    (alg : Algorithm) (key : KeyId) (dataSize : Nat) :
    ReadsIfOk backend admitted w
      (mapWrapKey config crypt (keyMap backend w) wrappingKey alg key dataSize)
      (psaWrapKey config crypt wrappingKey alg key dataSize) := by
  unfold psaWrapKey mapWrapKey
  cases keyWrapAlg alg with
  | error status => exact ⟨rfl, nofun⟩
  | ok _ =>
    refine triple_bind_of (loadWrappingKey_steady steady wrappingKey psaKeyUsageWrap alg) ?_
    rintro (status | kek) s ⟨rfl, loaded⟩
    · exact ⟨rfl, nofun⟩
    rw [loaded kek rfl]
    refine triple_bind_of (psaGetKeyAttributes_steady steady key) ?_
    rintro (status | targetAttr) s ⟨rfl, target⟩
    · exact ⟨rfl, nofun⟩
    rw [target targetAttr rfl]
    dsimp only
    refine triple_ask trivial (fun _ => rfl) fun granted => ?_
    cases granted with
    | false => exact ⟨rfl, nofun⟩
    | true =>
      refine triple_bind_of (psaExportKey_steady steady key (exportBufferSize config targetAttr)) ?_
      rintro (status | plaintext) s ⟨rfl, exported⟩
      · exact ⟨rfl, nofun⟩
      rw [exported plaintext rfl]
      exact ⟨rfl, fun _ same => same⟩

/-- `psa_unwrap_key` imports what the map lets it unwrap, or fails and changes nothing. -/
theorem psaUnwrapKey_steady (cfg : ImportConfig) (crypt : WcKeyWrap) (attributes : KeyAttributes)
    (wrappingKey : KeyId) (alg : Algorithm) (data : Bytes) :
    Triple (keyHandler backend) admitted (fun _ => True)
      (fun r s => (∃ plaintext, mapUnwrapped crypt (keyMap backend w) wrappingKey alg data =
        .ok plaintext) ∨ (r.1 ≠ .success ∧ s = w))
      (psaUnwrapKey cfg crypt attributes wrappingKey alg data) w := by
  unfold psaUnwrapKey mapUnwrapped
  cases keyWrapAlg alg with
  | error status => exact .inr ⟨status.property, rfl⟩
  | ok _ =>
    dsimp only
    split
    · exact .inr ⟨nofun, rfl⟩
    refine triple_bind_of (loadWrappingKey_steady steady wrappingKey psaKeyUsageUnwrap alg) ?_
    rintro (status | kek) s ⟨rfl, loaded⟩
    · exact .inr ⟨status.property, rfl⟩
    rw [loaded kek rfl]
    refine triple_ask trivial (fun _ => rfl) fun granted => ?_
    cases granted with
    | false => exact .inr ⟨nofun, rfl⟩
    | true =>
      rw [if_neg (show ¬(!true) = true by decide)]
      cases unwrapped : unwrapPlaintext crypt kek data with
      | error status => exact .inr ⟨status.property, rfl⟩
      | ok plaintext =>
        exact (triple_any _ _).mono (fun _ => id) fun _ _ _ => .inl ⟨plaintext, unwrapped⟩

end

/-! ## When nothing fails -/

section

variable {backend : StoreBackend} {good : World → Prop} {w : World}
  (lawful : LawfulStore backend good)
include lawful

theorem loadWrappingKey_reads {wrappingKey : KeyId} (usage : KeyUsage) (alg : Algorithm)
    (holds : good w) (named : wrappingKey ≠ psaKeyIdNull) :
    Reads backend w (mapWrappingKey (keyMap backend w) wrappingKey usage alg)
      (loadWrappingKey wrappingKey usage alg) := by
  refine triple_bind_of (wolfpsaGetKeyData_reads lawful holds named) ?_
  rintro _ s ⟨rfl, rfl⟩
  unfold mapWrappingKey
  cases (keyMap backend s).getKeyData wrappingKey with
  | error status => exact ⟨rfl, rfl⟩
  | ok found =>
    dsimp only
    split
    · exact ⟨rfl, rfl⟩
    split
    · exact ⟨rfl, rfl⟩
    split
    · exact ⟨rfl, rfl⟩
    · exact ⟨rfl, rfl⟩

theorem psaWrapKey_reads (config : ExportConfig) (crypt : WcKeyWrap) {wrappingKey : KeyId}
    (alg : Algorithm) {key : KeyId} (dataSize : Nat) (holds : good w)
    (named : wrappingKey ≠ psaKeyIdNull) (keyNamed : key ≠ psaKeyIdNull) :
    Reads backend w (mapWrapKey config crypt (keyMap backend w) wrappingKey alg key dataSize)
      (psaWrapKey config crypt wrappingKey alg key dataSize) := by
  unfold psaWrapKey mapWrapKey
  cases keyWrapAlg alg with
  | error status => exact ⟨rfl, rfl⟩
  | ok _ =>
    refine triple_bind_of (loadWrappingKey_reads lawful psaKeyUsageWrap alg holds named) ?_
    rintro _ s ⟨rfl, rfl⟩
    cases mapWrappingKey (keyMap backend s) wrappingKey psaKeyUsageWrap alg with
    | error status => exact ⟨rfl, rfl⟩
    | ok kek =>
      refine triple_bind_of (psaGetKeyAttributes_reads lawful holds keyNamed) ?_
      rintro _ s ⟨rfl, rfl⟩
      cases (keyMap backend s).getKeyAttributes key with
      | error status => exact ⟨rfl, rfl⟩
      | ok targetAttr =>
        refine calm_act (calm_malloc .plaintext) ?_
        rw [if_neg (show ¬(!true) = true by decide)]
        refine triple_bind_of (psaExportKey_reads lawful (exportBufferSize config targetAttr) holds
          keyNamed) ?_
        rintro _ s ⟨rfl, rfl⟩
        dsimp only
        cases (keyMap backend s).exportKey key (exportBufferSize config targetAttr) with
        | error status => exact ⟨rfl, rfl⟩
        | ok plaintext => exact ⟨rfl, rfl⟩

end

/-! ## Keys of the map -/

section

variable {m : KeyMap} {id : KeyId} {attributes : KeyAttributes} {data : Bytes}

theorem getKeyAttributes_of_getKeyData (found : m.getKeyData id = .ok (attributes, data)) :
    m.getKeyAttributes id = .ok { attributes with id := id } := by
  unfold KeyMap.getKeyData at found
  unfold KeyMap.getKeyAttributes
  cases present : m.find id with
  | some node =>
    rw [present] at found
    unfold KeyMap.volatileKey at found
    dsimp only at found ⊢
    split at found
    · cases found
    · cases found
      rfl
  | none =>
    rw [present] at found
    dsimp only at found ⊢
    cases opened : m.openRecord id with
    | error status =>
      rw [opened] at found
      cases found
    | ok cut =>
      rw [opened] at found
      dsimp only at found ⊢
      split at found
      · cases found
      · cases found
        rfl

theorem exportData_ok_iff {plain : Bytes} {dataSize : Nat} :
    KeyMap.exportData attributes plain dataSize = .ok data ↔
      plain = data ∧ attributes.usage &&& psaKeyUsageExport ≠ 0 ∧ data.length ≤ dataSize := by
  unfold KeyMap.exportData
  split
  · rename_i denied
    exact iff_of_false nofun fun all => all.2.1 denied
  rename_i exportable
  split
  · rename_i small
    refine iff_of_false nofun ?_
    rintro ⟨rfl, _, fits⟩
    omega
  · rename_i fits
    constructor
    · intro same
      cases same
      exact ⟨rfl, exportable, Nat.le_of_not_lt fits⟩
    · rintro ⟨rfl, _⟩
      rfl

theorem exportRecord_ok_iff {header rest : Bytes} {dataSize : Nat} :
    KeyMap.exportRecord header rest dataSize = .ok data ↔ KeyMap.recordData header rest = .ok data ∧
      (psaKeyAttributesDeserialize header).usage &&& psaKeyUsageExport ≠ 0 ∧
      data.length ≤ dataSize := by
  unfold KeyMap.exportRecord KeyMap.recordData
  dsimp only
  split
  · rename_i denied
    exact iff_of_false nofun fun all => all.2.1 denied
  rename_i exportable
  split
  · exact iff_of_false nofun fun all => nomatch all.1
  by_cases short : rest.length < keyHeaderDataLength header
  · rw [if_pos short]
    refine iff_of_false ?_ fun all => nomatch all.1
    split <;> exact nofun
  rw [if_neg short]
  have length : (rest.take (keyHeaderDataLength header)).length = keyHeaderDataLength header := by
    rw [List.length_take]
    omega
  split
  · rename_i small
    refine iff_of_false nofun ?_
    rintro ⟨same, _, fits⟩
    cases same
    omega
  · rename_i fits
    constructor
    · intro same
      cases same
      exact ⟨rfl, exportable, by omega⟩
    · exact fun all => all.1

/-- Export hands out the key that the look-up finds. -/
theorem exportKey_ok_iff {dataSize : Nat} :
    m.exportKey id dataSize = .ok data ↔ ∃ attributes, m.getKeyData id = .ok (attributes, data) ∧
      attributes.usage &&& psaKeyUsageExport ≠ 0 ∧ data.length ≤ dataSize := by
  unfold KeyMap.exportKey KeyMap.getKeyData
  cases m.find id with
  | some node =>
    dsimp only
    cases KeyMap.volatileKey node with
    | error status => simp
    | ok found =>
      obtain ⟨held, plain⟩ := found
      dsimp only
      rw [exportData_ok_iff]
      constructor
      · rintro ⟨rfl, granted⟩
        exact ⟨held, rfl, granted⟩
      · rintro ⟨attributes, same, granted⟩
        cases same
        exact ⟨rfl, granted⟩
  | none =>
    dsimp only
    cases m.openRecord id with
    | error status => simp
    | ok cut =>
      obtain ⟨header, rest⟩ := cut
      dsimp only
      rw [exportRecord_ok_iff]
      cases KeyMap.recordData header rest with
      | error status => simp
      | ok plain =>
        constructor
        · rintro ⟨same, granted⟩
          cases same
          exact ⟨_, rfl, granted⟩
        · rintro ⟨attributes, same, granted⟩
          cases same
          exact ⟨rfl, granted⟩

end

/-! ## New keys of the map -/

/-- An identifier that no key has, and that the next import with these attributes assigns. -/
structure FreshId (m : KeyMap) (attributes : KeyAttributes) (id : KeyId) : Prop where
  assigned : AssignedId attributes id
  next : (psaKeyLifetimeIsVolatile attributes.lifetime || attributes.id == psaKeyIdNull) = true →
    id = m.nextKeyId
  unlisted : m.find id = none
  unrecorded : m.records id = none

/-- The look-up of `id` finds the key data, under the type and the size of the attributes. -/
def HoldsKey (m : KeyMap) (attributes : KeyAttributes) (data : Bytes) (id : KeyId) : Prop :=
  ∃ held, m.getKeyData id = .ok (held, data) ∧ held.type = attributes.type ∧
    held.bits = attributes.bits

section

variable {cfg : ImportConfig} {m : KeyMap} {id : KeyId} {attributes : KeyAttributes} {data : Bytes}

theorem addKey_fresh (passed : importCheck cfg attributes data = .ok attributes)
    (unlisted : m.find id = none) (unrecorded : m.records id = none) :
    (m.addKey attributes data id).1 = (.success, id) ∧
      HoldsKey (m.addKey attributes data id).2 attributes data id := by
  obtain ⟨nonempty, bound, _⟩ := importCheck_ok passed
  unfold KeyMap.addKey
  split
  · rw [unlisted]
    refine ⟨rfl, attributes, ?_, rfl, rfl⟩
    have first : KeyMap.find { m with volatileKeys := ⟨id, attributes, data⟩ :: m.volatileKeys } id =
        some ⟨id, attributes, data⟩ := by
      simp [KeyMap.find]
    unfold KeyMap.getKeyData
    rw [if_neg (by simp), first]
    exact if_neg nonempty
  · rw [unrecorded]
    refine ⟨rfl, { attributes with alg2 := psaAlgNone, id := psaKeyIdNull }, ?_, rfl, rfl⟩
    have present : (m.setRecord id (some (keyRecord attributes data))).records id =
        some (keyRecord attributes data) := Function.update_self _ _ _
    unfold KeyMap.getKeyData
    rw [show (m.setRecord id (some (keyRecord attributes data))).find id = none from unlisted,
      openRecord_keyRecord present]
    dsimp only
    rw [recordData_whole attributes nonempty bound, deserialize_keyHeader]

/-- An import under a fresh identifier gives the key back. -/
theorem importKey_fresh (passed : importCheck cfg attributes data = .ok attributes)
    (fresh : FreshId m attributes id) :
    (m.importKey cfg attributes data).1 = (.success, id) ∧
      HoldsKey (m.importKey cfg attributes data).2 attributes data id := by
  obtain ⟨assigned, next, unlisted, unrecorded⟩ := fresh
  unfold KeyMap.importKey
  rw [passed]
  dsimp only
  unfold AssignedId at assigned
  split at assigned
  · rename_i assigns
    obtain rfl := next assigns
    rw [if_pos assigns, if_neg (by rw [not_or, BitVec.not_lt, BitVec.not_lt]; exact assigned)]
    exact addKey_fresh passed unlisted unrecorded
  · rename_i given
    rw [if_neg given, ← assigned]
    exact addKey_fresh passed unlisted unrecorded

/-- A stored AES key has one of the three lengths. -/
theorem Checked.aesKeyLength (checked : Checked cfg m)
    (found : m.getKeyData id = .ok (attributes, data)) (aes : attributes.type = psaKeyTypeAes) :
    (data.length = 16 ∨ data.length = 24 ∨ data.length = 32) := by
  have typed := importCheck_type ((checked.getKeyData found).2 id)
  unfold importCheckType at typed
  dsimp only at typed
  rw [aes, if_neg (by simp [psaKeyTypeAes, psaKeyTypeChacha20, psaKeyTypeXchacha20]),
    if_pos (by decide)] at typed
  split at typed
  · cases typed
  split at typed
  · cases typed
  · rename_i sized
    simpa only [Bool.and_eq_true, bne_iff_ne, not_and, and_imp, not_not, Decidable.or_iff_not_imp_left]
      using sized

end

/-! ## The cipher -/

/-- The lengths of an AES key. -/
def AesKeyLength (kek : Bytes) : Prop := kek.length = 16 ∨ kek.length = 24 ∨ kek.length = 32

/-- What RFC 3394 wraps. -/
def WrapLength (plain : Bytes) : Prop := 16 ≤ plain.length ∧ plain.length % 8 = 0

instance (kek : Bytes) : Decidable (AesKeyLength kek) := inferInstanceAs (Decidable (_ ∨ _ ∨ _))
instance (plain : Bytes) : Decidable (WrapLength plain) := inferInstanceAs (Decidable (_ ∧ _))

/-- The calls of wolfCrypt are an invertible pair that checks integrity: under each key
`aesKeyUnWrap` accepts what `aesKeyWrap` makes, and nothing else. Lengths are those of a `word32`. -/
structure IdealKeyWrap (crypt : WcKeyWrap) (wrapped : Bytes → Bytes → Bytes) : Prop where
  length_wrapped : ∀ {kek plain}, WrapLength plain →
    (wrapped kek plain).length = plain.length + 8
  wraps : ∀ {kek plain outSz}, AesKeyLength kek → WrapLength plain → plain.length + 8 < 2 ^ 32 →
    plain.length + 8 ≤ outSz → crypt.aesKeyWrap kek plain outSz = .ok (wrapped kek plain)
  unwraps : ∀ {kek plain outSz}, AesKeyLength kek → WrapLength plain → plain.length + 8 < 2 ^ 32 →
    plain.length ≤ outSz → crypt.aesKeyUnWrap kek (wrapped kek plain) outSz = .ok plain
  genuine : ∀ {kek data plain outSz}, crypt.aesKeyUnWrap kek data outSz = .ok plain →
    WrapLength plain ∧ data = wrapped kek plain

/-- The bytes of a blob that `wc_AesKeyUnWrap` sees. -/
def castBlob (data : Bytes) : Bytes := data.take (toWord32 data.length)

theorem castBlob_short {data : Bytes} (short : data.length < 2 ^ 32) : castBlob data = data := by
  unfold castBlob toWord32
  rw [Nat.mod_eq_of_lt short, List.take_length]

theorem length_castBlob (data : Bytes) : (castBlob data).length = data.length % 2 ^ 32 := by
  unfold castBlob toWord32
  rw [List.length_take, Nat.min_eq_left (Nat.mod_le _ _)]

/-- The cast drops a tail of a multiple of 2^32 bytes. -/
theorem castBlob_append {data rest : Bytes} (short : data.length < 2 ^ 32)
    (cycle : rest.length % 2 ^ 32 = 0) : castBlob (data ++ rest) = data := by
  unfold castBlob toWord32
  rw [List.length_append, Nat.add_mod, cycle, Nat.add_zero, Nat.mod_mod, Nat.mod_eq_of_lt short,
    List.take_left]

theorem AesKeyLength.cast {kek : Bytes} (aes : AesKeyLength kek) : castBlob kek = kek := by
  refine castBlob_short ?_
  unfold AesKeyLength at aes
  omega

section

variable {crypt : WcKeyWrap} {wrapped : Bytes → Bytes → Bytes} (ideal : IdealKeyWrap crypt wrapped)
  {kek plain data : Bytes}
include ideal

theorem wrapPlaintext_ideal (aes : AesKeyLength kek) (valid : WrapLength plain)
    (bound : plain.length ≤ 2 ^ 16) :
    wrapPlaintext crypt kek plain (plain.length + 8) = .ok (wrapped kek plain) := by
  have short : plain.length + 8 < 2 ^ 32 := by omega
  have output := ideal.wraps aes valid short
    (show plain.length + 8 ≤ toWord32 (plain.length + 8) from
      Nat.le_of_eq (Nat.mod_eq_of_lt short).symm)
  have fits : toInt32 (wrapped kek plain).length = ((plain.length + 8 : Nat) : Int) := by
    rw [ideal.length_wrapped valid]
    exact toInt32_of_le (by unfold intMax; omega)
  obtain ⟨long, whole⟩ := valid
  unfold wrapPlaintext
  rw [if_neg (by omega), if_neg (by omega)]
  rw [show kek.take (toWord32 kek.length) = kek from aes.cast,
    show plain.take (toWord32 plain.length) = plain from castBlob_short (by omega), output]
  dsimp only
  rw [fits, if_neg (by omega)]

/-- `psa_unwrap_key` gets as plaintext what wraps to the bytes the cast leaves, if its length is an
`int`. -/
theorem unwrapPlaintext_ideal (aes : AesKeyLength kek) (long : 24 ≤ data.length)
    (blocks : data.length % 8 = 0) :
    unwrapPlaintext crypt kek data = .ok plain ↔
      WrapLength plain ∧ castBlob data = wrapped kek plain ∧ plain.length ≤ intMax := by
  unfold unwrapPlaintext
  rw [show kek.take (toWord32 kek.length) = kek from aes.cast,
    show data.take (toWord32 data.length) = castBlob data from rfl]
  constructor
  · intro opened
    split at opened
    · cases opened
    rename_i out unwrapped
    obtain ⟨valid, same⟩ := ideal.genuine unwrapped
    split at opened
    · cases opened
    rename_i positive
    cases opened
    refine ⟨valid, same, ?_⟩
    have length := congrArg List.length same
    rw [ideal.length_wrapped valid, length_castBlob] at length
    by_contra beyond
    refine positive ?_
    unfold toInt32 intMax at *
    rw [BitVec.toInt_eq_toNat_cond, BitVec.toNat_ofNat, Nat.mod_eq_of_lt (by omega),
      if_neg (by omega)]
    omega
  · rintro ⟨valid, same, bound⟩
    have length := congrArg List.length same
    rw [ideal.length_wrapped valid, length_castBlob] at length
    have room : plain.length ≤ toWord32 (data.length - 8) := by
      unfold toWord32
      omega
    rw [same, ideal.unwraps aes valid (by omega) room]
    dsimp only
    rw [toInt32_of_le bound, if_neg (by omega)]

/-- Nothing else unwraps, whatever the key. -/
theorem unwrapPlaintext_genuine (opened : unwrapPlaintext crypt kek data = .ok plain) :
    WrapLength plain ∧ castBlob data = wrapped (castBlob kek) plain := by
  unfold unwrapPlaintext at opened
  split at opened
  · cases opened
  rename_i unwrapped
  split at opened
  · cases opened
  cases opened
  exact ideal.genuine unwrapped

end

/-! ## The two calls together -/

/-- `id` is an AES key whose policy grants `usage` with `alg`. -/
def WrappingKey (m : KeyMap) (id : KeyId) (usage : KeyUsage) (alg : Algorithm) (kek : Bytes) : Prop :=
  ∃ attr, m.getKeyData id = .ok (attr, kek) ∧ attr.type = psaKeyTypeAes ∧ attr.usage &&& usage ≠ 0 ∧
    wolfpsaKeyPermitsAlg attr alg = true

/-- `id` is a key that may be exported. -/
structure ExportableKey (m : KeyMap) (id : KeyId) (attributes : KeyAttributes) (data : Bytes) :
    Prop where
  found : m.getKeyData id = .ok (attributes, data)
  exportable : attributes.usage &&& psaKeyUsageExport ≠ 0

theorem keyWrapAlg_ok_iff {alg : Algorithm} : keyWrapAlg alg = .ok () ↔ alg = psaAlgKw := by
  unfold keyWrapAlg
  constructor
  · intro accepted
    split at accepted
    · cases accepted
    split at accepted
    · cases accepted
    split at accepted
    · cases accepted
    · rename_i same
      exact not_not.mp same
  · rintro rfl
    decide

section

variable {m : KeyMap} {wrappingKey key : KeyId} {usage : KeyUsage} {alg : Algorithm}
  {kek data : Bytes} {attributes : KeyAttributes}

theorem mapWrappingKey_ok_iff :
    mapWrappingKey m wrappingKey usage alg = .ok kek ↔ WrappingKey m wrappingKey usage alg kek := by
  unfold mapWrappingKey WrappingKey
  cases m.getKeyData wrappingKey with
  | error status => simp
  | ok found =>
    obtain ⟨attr, plain⟩ := found
    dsimp only
    constructor
    · intro loaded
      split at loaded
      · cases loaded
      rename_i aes
      split at loaded
      · cases loaded
      rename_i granted
      split at loaded
      · cases loaded
      rename_i permitted
      cases loaded
      exact ⟨attr, rfl, not_not.mp aes, granted, by simpa using permitted⟩
    · rintro ⟨attr', same, aes, granted, permitted⟩
      cases same
      rw [if_neg (not_not.mpr aes), if_neg granted, if_neg (by simp [permitted])]

/-- `psa_wrap_key` only hands out what both policies allow. -/
theorem mapWrapKey_ok {config : ExportConfig} {crypt : WcKeyWrap} {dataSize : Nat} {blob : Bytes}
    (made : mapWrapKey config crypt m wrappingKey alg key dataSize = .ok blob) :
    alg = psaAlgKw ∧ ∃ kek attributes data, WrappingKey m wrappingKey psaKeyUsageWrap alg kek ∧
      ExportableKey m key attributes data ∧ data.length ≤ exportBufferSize config attributes := by
  unfold mapWrapKey at made
  split at made
  · cases made
  rename_i accepted
  split at made
  · cases made
  rename_i kek loaded
  split at made
  · cases made
  rename_i targetAttr target
  split at made
  · cases made
  rename_i plain exported
  obtain ⟨attributes, found, exportable, fits⟩ := exportKey_ok_iff.mp exported
  rw [getKeyAttributes_of_getKeyData found] at target
  cases target
  exact ⟨keyWrapAlg_ok_iff.mp accepted, kek, attributes, plain, mapWrappingKey_ok_iff.mp loaded,
    ⟨found, exportable⟩, fits⟩

/-- A key that fits the export buffer is wrapped. -/
theorem mapWrapKey_fitting {config : ExportConfig} {crypt : WcKeyWrap}
    {wrapped : Bytes → Bytes → Bytes} (ideal : IdealKeyWrap crypt wrapped) (aes : AesKeyLength kek)
    (wrapping : WrappingKey m wrappingKey psaKeyUsageWrap psaAlgKw kek)
    (target : ExportableKey m key attributes data) (valid : WrapLength data)
    (fits : data.length ≤ exportBufferSize config attributes) :
    mapWrapKey config crypt m wrappingKey psaAlgKw key (data.length + 8) = .ok (wrapped kek data) := by
  have bound : exportBufferSize config attributes ≤ 2 ^ 16 := by
    unfold exportBufferSize
    dsimp only
    split
    · exact Nat.le_trans (psaExportKeyPairOrPublicMaxSize_le config) (by decide)
    · exact psaExportKeyOutputSize_le _ attributes.bits.isLt
  have exported : m.exportKey key (exportBufferSize config attributes) = .ok data :=
    exportKey_ok_iff.mpr ⟨attributes, target.found, target.exportable, fits⟩
  unfold mapWrapKey
  rw [keyWrapAlg_ok_iff.mpr rfl, mapWrappingKey_ok_iff.mpr wrapping,
    getKeyAttributes_of_getKeyData target.found]
  dsimp only
  rw [show exportBufferSize config { attributes with id := key } =
    exportBufferSize config attributes from rfl, exported]
  exact wrapPlaintext_ideal ideal aes valid (Nat.le_trans fits bound)

end

/-- Where nothing fails, `psa_unwrap_key` is `psa_import_key` of the plaintext, in the environment
that the steps before it have left. -/
theorem psaUnwrapKey_run {backend : StoreBackend} {good : World → Prop} {w : World}
    (lawful : LawfulStore backend good) (cfg : ImportConfig) (crypt : WcKeyWrap)
    (attributes : KeyAttributes) {wrappingKey : KeyId} {kek data plain : Bytes} (holds : good w)
    (named : wrappingKey ≠ psaKeyIdNull) (long : 24 ≤ data.length) (blocks : data.length % 8 = 0)
    (wrapping : WrappingKey (keyMap backend w) wrappingKey psaKeyUsageUnwrap psaAlgKw kek)
    (opened : unwrapPlaintext crypt kek data = .ok plain) {faults : Nat → Nat → Fault}
    (calm : ∀ n, CalmFaults (faults n)) :
    ∃ n, let imported := runKey backend (fun k => faults (k + n)) (psaImportKey cfg attributes plain) w
      runKey backend faults (psaUnwrapKey cfg crypt attributes wrappingKey psaAlgKw data) w =
        ((imported.1.1, if imported.1.1 ≠ .success then psaKeyIdNull else imported.1.2),
          imported.2) := by
  obtain ⟨loaded, same⟩ := (loadWrappingKey_reads lawful psaKeyUsageUnwrap psaAlgKw holds named).run
    calm
  rw [mapWrappingKey_ok_iff.mpr wrapping] at loaded
  refine ⟨(loadWrappingKey wrappingKey psaKeyUsageUnwrap psaAlgKw).calls (keyHandler backend)
    faults w + 1, ?_⟩
  unfold runKey psaUnwrapKey
  rw [keyWrapAlg_ok_iff.mpr rfl]
  dsimp only
  rw [if_neg (by omega), Prog.run_bind, loaded, same]
  generalize (loadWrappingKey wrappingKey psaKeyUsageUnwrap psaAlgKw).calls (keyHandler backend)
    faults w = steps
  -- the buffer of the plaintext
  have granted : keyHandler backend (faults (0 + steps)) (.here (.malloc .plaintext)) w = (true, w) :=
    calm_malloc .plaintext (faults (0 + steps)) (calm _)
  dsimp only
  unfold xmalloc
  rw [Prog.perform_bind, Prog.run, granted, if_neg (show ¬(!true) = true by decide), opened]
  dsimp only
  rw [Prog.run_bind]
  simp only [show ∀ k, k + 1 + steps = k + (steps + 1) by omega]
  split <;> rfl

/-- The call failed, and the process has the keys it had. -/
def NoKeyFrom (backend : StoreBackend) (w : World) (called : (Status × KeyId) × World) : Prop :=
  called.1.1 ≠ .success ∧ called.2.volatileKeys = w.volatileKeys ∧
    backend.record called.2 = backend.record w

/-- The key leaves through `psa_wrap_key` into `data.length + 8` bytes, and `psa_unwrap_key` of these
bytes makes it again under `newId`. -/
def RoundTrip (backend : StoreBackend) (cfg : ImportConfig) (config : ExportConfig)
    (crypt : WcKeyWrap) (w : World) (wrappingKey key : KeyId) (requested : KeyAttributes)
    (data : Bytes) (newId : KeyId) : Prop :=
  ∀ faults faults', (∀ n, CalmFaults (faults n)) → (∀ n, CalmFaults (faults' n)) →
    ∃ blob w', blob.length = data.length + 8 ∧
      runKey backend faults
        (psaWrapKey config crypt wrappingKey psaAlgKw key (data.length + 8)) w = (.ok blob, w) ∧
      runKey backend faults' (psaUnwrapKey cfg crypt requested wrappingKey psaAlgKw blob) w =
        ((.success, newId), w') ∧
      ∀ faults'', (∀ n, CalmFaults (faults'' n)) → ∃ held,
        runKey backend faults'' (wolfpsaGetKeyData newId) w' = (.ok (held, data), w') ∧
          held.type = requested.type ∧ held.bits = requested.bits

/-- What the two calls do in a world, and where they fall short of a key wrap. -/
structure WrapsExactly (backend : StoreBackend) (cfg : ImportConfig) (config : ExportConfig)
    (crypt : WcKeyWrap) (wrapped : Bytes → Bytes → Bytes) (w : World) : Prop where
  /-- In any environment. -/
  policy : ∀ wrappingKey alg key dataSize faults blob,
    (runKey backend faults (psaWrapKey config crypt wrappingKey alg key dataSize) w).1 = .ok blob →
    alg = psaAlgKw ∧ ∃ kek attributes data,
      WrappingKey (keyMap backend w) wrappingKey psaKeyUsageWrap alg kek ∧
      ExportableKey (keyMap backend w) key attributes data
  /-- A key comes back exactly if the export buffer holds it. -/
  roundTrip : ∀ wrappingKey kek key attributes data id newId,
    WrappingKey (keyMap backend w) wrappingKey psaKeyUsageWrap psaAlgKw kek →
    WrappingKey (keyMap backend w) wrappingKey psaKeyUsageUnwrap psaAlgKw kek →
    ExportableKey (keyMap backend w) key attributes data → WrapLength data →
    FreshId (keyMap backend w) { attributes with id := id } newId →
    (RoundTrip backend cfg config crypt w wrappingKey key { attributes with id := id } data newId ↔
      data.length ≤ exportBufferSize config attributes)
  /-- In any environment, a blob below the cast that no wrapping made. -/
  genuine : ∀ requested wrappingKey alg data faults, data.length < 2 ^ 32 →
    (∀ kek plain, WrappingKey (keyMap backend w) wrappingKey psaKeyUsageUnwrap alg kek →
      WrapLength plain → data ≠ wrapped kek plain) →
    NoKeyFrom backend w
      (runKey backend faults (psaUnwrapKey cfg crypt requested wrappingKey alg data) w)
  /-- Any blob: only the bytes behind the cast matter, and whether `psa_import_key` takes what they
  wrap. -/
  cast : ∀ requested wrappingKey kek data faults, (∀ n, CalmFaults (faults n)) →
    WrappingKey (keyMap backend w) wrappingKey psaKeyUsageUnwrap psaAlgKw kek →
    ∃ n, NoKeyFrom backend w
        (runKey backend faults (psaUnwrapKey cfg crypt requested wrappingKey psaAlgKw data) w) ↔
      (24 ≤ data.length → data.length % 8 = 0 → ∀ plain, WrapLength plain →
        castBlob data = wrapped kek plain → plain.length ≤ intMax →
        NoKeyFrom backend w
          (runKey backend (fun k => faults (k + n)) (psaImportKey cfg requested plain) w))

section

variable {backend : StoreBackend} {good : World → Prop} {cfg : ImportConfig} {config : ExportConfig}
  {crypt : WcKeyWrap} {wrapped : Bytes → Bytes → Bytes} {w : World} {wrappingKey key id newId : KeyId}
  {kek data : Bytes} {attributes : KeyAttributes}

theorem WrappingKey.aesKeyLength {usage : KeyUsage} {alg : Algorithm}
    (checked : Checked cfg (keyMap backend w))
    (wrapping : WrappingKey (keyMap backend w) wrappingKey usage alg kek) : AesKeyLength kek := by
  obtain ⟨attr, found, aes, _⟩ := wrapping
  exact checked.aesKeyLength found aes

theorem WrappingKey.named {usage : KeyUsage} {alg : Algorithm}
    (checked : Checked cfg (keyMap backend w))
    (wrapping : WrappingKey (keyMap backend w) wrappingKey usage alg kek) :
    wrappingKey ≠ psaKeyIdNull := by
  obtain ⟨attr, found, _⟩ := wrapping
  exact (checked.getKeyData found).1

theorem FreshId.named {m : KeyMap} (fresh : FreshId m attributes newId) : newId ≠ psaKeyIdNull := by
  have assigned := fresh.assigned
  unfold AssignedId at assigned
  rintro rfl
  split at assigned
  · exact absurd assigned.1 (by decide)
  · rename_i given
    exact given (by simp [← assigned])

/-- A stored key that fits the export buffer makes the round trip. -/
theorem roundTrip_fitting (shipped : ShippedStore backend good)
    (ideal : IdealKeyWrap crypt wrapped) (stored : StoredKeys backend good cfg w)
    (wrapping : WrappingKey (keyMap backend w) wrappingKey psaKeyUsageWrap psaAlgKw kek)
    (unwrapping : WrappingKey (keyMap backend w) wrappingKey psaKeyUsageUnwrap psaAlgKw kek)
    (target : ExportableKey (keyMap backend w) key attributes data) (valid : WrapLength data)
    (fresh : FreshId (keyMap backend w) { attributes with id := id } newId)
    (fits : data.length ≤ exportBufferSize config attributes) :
    RoundTrip backend cfg config crypt w wrappingKey key { attributes with id := id } data newId := by
  intro faults faults' calm calm'
  have lawful := shipped.lawful
  have aes := wrapping.aesKeyLength stored.checked
  have named := wrapping.named stored.checked
  have length : (wrapped kek data).length = data.length + 8 := ideal.length_wrapped valid
  obtain ⟨keyNamed, passed⟩ := stored.checked.getKeyData target.found
  have record := stored.small.getKeyData target.found
  have bound : data.length ≤ intMax := by omega
  have least := valid.1
  have blocks := valid.2
  have small : data.length + 8 < 2 ^ 32 := by
    unfold intMax at bound
    omega
  -- out
  have made := mapWrapKey_fitting ideal aes wrapping target valid fits
  have out := (psaWrapKey_reads lawful config crypt psaAlgKw (data.length + 8) stored.good named
    keyNamed).run calm
  rw [made] at out
  -- and back in
  have opened : unwrapPlaintext crypt kek (wrapped kek data) = .ok data :=
    (unwrapPlaintext_ideal ideal aes (by omega) (by omega)).mpr
      ⟨valid, castBlob_short (by omega), bound⟩
  obtain ⟨n, unwrapped⟩ := psaUnwrapKey_run lawful cfg crypt { attributes with id := id } stored.good
    named (by omega) (by omega) unwrapping opened calm'
  have spec : Moves backend good w
      ((keyMap backend w).importKey cfg { attributes with id := id } data)
      (psaImportKey cfg { attributes with id := id } data) :=
    psaImportKey_moves lawful stored.good record
  obtain ⟨answered, moved, kept⟩ := spec.run fun k => calm' (k + n)
  obtain ⟨success, held, found, type, bits⟩ := importKey_fresh (passed id) fresh
  rw [success] at answered
  rw [← moved] at found
  refine ⟨wrapped kek data, (runKey backend (fun k => faults' (k + n))
    (psaImportKey cfg { attributes with id := id } data) w).2, length, Prod.ext out.1 out.2, ?_, ?_⟩
  · rw [unwrapped]
    unfold runKey
    rw [answered]
    rfl
  · intro faults'' calm''
    have read := (wolfpsaGetKeyData_reads lawful kept fresh.named).run calm''
    rw [found] at read
    exact ⟨held, Prod.ext read.1 read.2, type, bits⟩

/-- A call that fails and leaves the world alone. -/
theorem noKeyFrom_of_same {called : (Status × KeyId) × World} (failed : called.1.1 ≠ .success)
    (same : called.2 = w) : NoKeyFrom backend w called := by
  subst same
  exact ⟨failed, rfl, rfl⟩

/-- Whatever the environment does, `psa_unwrap_key` makes a key only of bytes that a wrapping key
made. -/
theorem psaUnwrapKey_genuine (shipped : ShippedStore backend good)
    (ideal : IdealKeyWrap crypt wrapped) (checked : Checked cfg (keyMap backend w))
    (requested : KeyAttributes) (alg : Algorithm) (faults : Nat → Nat → Fault)
    (foreign : ∀ kek plain, WrappingKey (keyMap backend w) wrappingKey psaKeyUsageUnwrap alg kek →
      WrapLength plain → castBlob data ≠ wrapped kek plain) :
    NoKeyFrom backend w
      (runKey backend faults (psaUnwrapKey cfg crypt requested wrappingKey alg data) w) := by
  rcases (psaUnwrapKey_steady shipped.steady cfg crypt requested wrappingKey alg data).run_every
    faults with ⟨plain, unwrapped⟩ | ⟨failed, same⟩
  · exfalso
    unfold mapUnwrapped at unwrapped
    split at unwrapped
    · cases unwrapped
    split at unwrapped
    · cases unwrapped
    split at unwrapped
    · cases unwrapped
    rename_i kek loaded
    have wrapping := mapWrappingKey_ok_iff.mp loaded
    obtain ⟨valid, genuine⟩ := unwrapPlaintext_genuine ideal unwrapped
    rw [(wrapping.aesKeyLength checked).cast] at genuine
    exact foreign kek plain wrapping valid genuine
  · exact noKeyFrom_of_same failed same

/-- Where nothing fails, `psa_unwrap_key` makes a key exactly if `psa_import_key` makes one of what
the bytes behind the cast wrap. -/
theorem psaUnwrapKey_cast (shipped : ShippedStore backend good)
    (ideal : IdealKeyWrap crypt wrapped) (stored : StoredKeys backend good cfg w)
    (requested : KeyAttributes) {faults : Nat → Nat → Fault} (calm : ∀ n, CalmFaults (faults n))
    (wrapping : WrappingKey (keyMap backend w) wrappingKey psaKeyUsageUnwrap psaAlgKw kek) :
    ∃ n, NoKeyFrom backend w
        (runKey backend faults (psaUnwrapKey cfg crypt requested wrappingKey psaAlgKw data) w) ↔
      (24 ≤ data.length → data.length % 8 = 0 → ∀ plain, WrapLength plain →
        castBlob data = wrapped kek plain → plain.length ≤ intMax →
        NoKeyFrom backend w
          (runKey backend (fun k => faults (k + n)) (psaImportKey cfg requested plain) w)) := by
  have aes := wrapping.aesKeyLength stored.checked
  by_cases opens : (24 ≤ data.length ∧ data.length % 8 = 0) ∧
      ∃ plain, unwrapPlaintext crypt kek data = .ok plain
  · obtain ⟨⟨long, blocks⟩, plain, opened⟩ := opens
    obtain ⟨n, unwrapped⟩ := psaUnwrapKey_run shipped.lawful cfg crypt requested stored.good
      (wrapping.named stored.checked) long blocks wrapping opened calm
    refine ⟨n, ?_⟩
    rw [unwrapped]
    constructor
    · intro none _ _ other valid same bound
      have both := (unwrapPlaintext_ideal ideal aes long blocks).mpr ⟨valid, same, bound⟩
      rw [opened] at both
      cases both
      exact none
    · intro none
      obtain ⟨valid, same, bound⟩ := (unwrapPlaintext_ideal ideal aes long blocks).mp opened
      exact none long blocks plain valid same bound
  · refine ⟨0, iff_of_true ?_ fun long blocks plain valid same bound => ?_⟩
    · rcases (psaUnwrapKey_steady shipped.steady cfg crypt requested wrappingKey psaAlgKw
        data).run_every faults with ⟨plain, unwrapped⟩ | ⟨failed, same⟩
      · exfalso
        unfold mapUnwrapped at unwrapped
        rw [keyWrapAlg_ok_iff.mpr rfl, mapWrappingKey_ok_iff.mpr wrapping] at unwrapped
        dsimp only at unwrapped
        split at unwrapped
        · cases unwrapped
        rename_i length
        exact opens ⟨by omega, plain, unwrapped⟩
      · exact noKeyFrom_of_same failed same
    · exact absurd ⟨⟨long, blocks⟩, plain,
        (unwrapPlaintext_ideal ideal aes long blocks).mpr ⟨valid, same, bound⟩⟩ opens

end

/-- In every world that calls reach from an empty store, over both back ends: the policy of both keys
is kept, no blob below 2^32 bytes passes that was not wrapped under the key, and a key makes the round
trip exactly if its data fit the buffer of `PSA_EXPORT_KEY_OUTPUT_SIZE`. Of a longer blob only the
bytes that the cast to `word32` leaves decide. -/
theorem key_wrap_exact {backend : StoreBackend} {good : World → Prop} {crypt : WcKeyWrap}
    {wrapped : Bytes → Bytes → Bytes} (shipped : ShippedStore backend good) (cfg : ImportConfig)
    (config : ExportConfig) (ideal : IdealKeyWrap crypt wrapped) (counter : KeyId)
    (calls : List (StoreOp × (Nat → Nat → Fault))) (calm : ∀ call ∈ calls, CalmCall call) :
    WrapsExactly backend cfg config crypt wrapped
      (run (storeStep backend cfg) (emptyStore counter) calls).2 := by
  have stored := run_storedKeys cfg shipped counter calls calm
  constructor
  · intro wrappingKey alg key dataSize faults blob made
    have allowed := ((psaWrapKey_steady shipped.steady config crypt wrappingKey alg key
      dataSize).run_every faults).2 blob made
    obtain ⟨kw, kek, attributes, data, wrapping, target, _⟩ := mapWrapKey_ok allowed
    exact ⟨kw, kek, attributes, data, wrapping, target⟩
  · intro wrappingKey kek key attributes data id newId wrapping unwrapping target valid fresh
    constructor
    · intro trip
      obtain ⟨blob, _, _, out, _⟩ := trip (fun _ _ => calmFault) (fun _ _ => calmFault)
        (fun _ _ => calm_calmFault) fun _ _ => calm_calmFault
      have made := ((psaWrapKey_steady shipped.steady config crypt wrappingKey psaAlgKw key
        (data.length + 8)).run_every fun _ _ => calmFault).2 blob (congrArg Prod.fst out)
      obtain ⟨_, _, attributes', data', _, target', fits⟩ := mapWrapKey_ok made
      have same := target.found.symm.trans target'.found
      cases same
      exact fits
    · exact roundTrip_fitting shipped ideal stored wrapping unwrapping target valid fresh
  · intro requested wrappingKey alg data faults short foreign
    refine psaUnwrapKey_genuine shipped ideal stored.checked requested alg faults ?_
    rw [castBlob_short short]
    exact foreign
  · intro requested wrappingKey kek data faults calm wrapping
    exact psaUnwrapKey_cast shipped ideal stored requested calm wrapping

/-! ### The vector of RFC 3394, section 4.1 -/

def vectorKek : Bytes :=
  [0x00, 0x01, 0x02, 0x03, 0x04, 0x05, 0x06, 0x07, 0x08, 0x09, 0x0A, 0x0B, 0x0C, 0x0D, 0x0E, 0x0F]
def vectorKey : Bytes :=
  [0x00, 0x11, 0x22, 0x33, 0x44, 0x55, 0x66, 0x77, 0x88, 0x99, 0xAA, 0xBB, 0xCC, 0xDD, 0xEE, 0xFF]
def vectorBlob : Bytes :=
  [0x1F, 0xA6, 0x8B, 0x0A, 0x81, 0x12, 0xB4, 0x47, 0xAE, 0xF3, 0x4B, 0xD8, 0xFB, 0x5A, 0x7B, 0x82,
    0x9D, 0x3E, 0x86, 0x23, 0x71, 0xD2, 0xCF, 0xE5]

/-- The wrapping of the vector; elsewhere a block of zeros before the key. -/
def vectorWrapped (kek plain : Bytes) : Bytes :=
  if kek = vectorKek ∧ plain = vectorKey then vectorBlob else List.replicate 8 0 ++ plain

/-- The only plaintext that `vectorWrapped` can have made a blob of. -/
def vectorPlain (kek data : Bytes) : Bytes :=
  if kek = vectorKek ∧ data = vectorBlob then vectorKey else data.drop 8

def vectorKeyWrap : WcKeyWrap where
  aesKeyWrap kek plain outSz :=
    if AesKeyLength kek ∧ WrapLength plain ∧ plain.length + 8 ≤ outSz then
      .ok (vectorWrapped kek plain)
    else .error .badFuncArg
  aesKeyUnWrap kek data outSz :=
    if AesKeyLength kek ∧ WrapLength (vectorPlain kek data) ∧
        (vectorPlain kek data).length ≤ outSz then
      if vectorWrapped kek (vectorPlain kek data) = data then .ok (vectorPlain kek data)
      else .error .badKeywrapIvE
    else .error (.wc .badFuncArg)
  errorOf _ := .wc .other

theorem vectorPlain_vectorWrapped (kek plain : Bytes) :
    vectorPlain kek (vectorWrapped kek plain) = plain := by
  unfold vectorWrapped vectorPlain
  split
  · rename_i vector
    rw [if_pos ⟨vector.1, rfl⟩, vector.2]
  · rw [if_neg]
    · rfl
    · rintro ⟨_, same⟩
      exact absurd (congrArg List.head? same) (by simp [vectorBlob, List.replicate])

theorem ideal_vectorKeyWrap : IdealKeyWrap vectorKeyWrap vectorWrapped where
  length_wrapped := by
    intro kek plain _
    unfold vectorWrapped
    split
    · rename_i vector
      rw [vector.2]
      rfl
    · rw [List.length_append, List.length_replicate, Nat.add_comm]
  wraps := fun aes valid _ room => if_pos ⟨aes, valid, room⟩
  unwraps := by
    intro kek plain outSz aes valid _ room
    dsimp only [vectorKeyWrap]
    rw [vectorPlain_vectorWrapped, if_pos ⟨aes, valid, room⟩, if_pos rfl]
  genuine := by
    intro kek data plain outSz opened
    dsimp only [vectorKeyWrap] at opened
    split at opened
    · rename_i accepted
      split at opened
      · rename_i genuine
        cases opened
        exact ⟨accepted.2.1, genuine.symm⟩
      · cases opened
    · cases opened

/-- An AES key that may wrap and unwrap. -/
def wrappingAesKey : KeyAttributes :=
  ⟨psaKeyTypeAes, 128, psaKeyLifetimeVolatile, psaKeyUsageWrap ||| psaKeyUsageUnwrap, psaAlgKw,
    psaAlgNone, psaKeyIdNull⟩

/-- A process that has imported the wrapping key and another key. -/
def wrappingCalls (attributes : KeyAttributes) (data : Bytes) :
    List (StoreOp × (Nat → Nat → Fault)) :=
  [(.importKey wrappingAesKey vectorKek, fun _ _ => calmFault),
    (.importKey attributes data, fun _ _ => calmFault)]

def wrappingWorld (attributes : KeyAttributes) (data : Bytes) : World :=
  (run (storeStep (posixBackend freshStore) plainImport) (emptyStore psaKeyIdVendorMin)
    (wrappingCalls attributes data)).2

theorem calm_wrappingCalls {attributes : KeyAttributes} {data : Bytes}
    (fits : keyHeaderLength + data.length ≤ intMax) :
    ∀ call ∈ wrappingCalls attributes data, CalmCall call := by
  unfold wrappingCalls
  simp only [List.mem_cons, List.not_mem_nil, or_false, forall_eq_or_imp, forall_eq]
  have kekFits : keyHeaderLength + vectorKek.length ≤ intMax := by decide
  exact ⟨⟨kekFits, trivial, fun _ _ => calm_calmFault⟩, fits, trivial, fun _ _ => calm_calmFault⟩

/-- A volatile AES key that may be exported. -/
def exportableAesKey : KeyAttributes :=
  ⟨psaKeyTypeAes, 128, psaKeyLifetimeVolatile, psaKeyUsageExport, psaAlgNone, psaAlgNone,
    psaKeyIdNull⟩

def fullExportConfig : ExportConfig :=
  ⟨true, true, true, true, true, true, true, true, 521, by decide, 8192, by decide⟩

theorem vector_key_round_trip :
    IdealKeyWrap vectorKeyWrap vectorWrapped ∧
      (runKey (posixBackend freshStore) (fun _ _ => calmFault)
        (psaWrapKey fullExportConfig vectorKeyWrap psaKeyIdVendorMin psaAlgKw (psaKeyIdVendorMin + 1)
          24) (wrappingWorld exportableAesKey vectorKey)).1 = .ok vectorBlob ∧
      RoundTrip (posixBackend freshStore) plainImport fullExportConfig vectorKeyWrap
        (wrappingWorld exportableAesKey vectorKey) psaKeyIdVendorMin (psaKeyIdVendorMin + 1)
        exportableAesKey vectorKey (psaKeyIdVendorMin + 2) := by
  have exact := key_wrap_exact (.posix usable_freshStore) plainImport fullExportConfig
    ideal_vectorKeyWrap psaKeyIdVendorMin (wrappingCalls exportableAesKey vectorKey)
    (calm_wrappingCalls (by decide))
  refine ⟨ideal_vectorKeyWrap, rfl, ?_⟩
  refine (exact.roundTrip psaKeyIdVendorMin vectorKek (psaKeyIdVendorMin + 1) exportableAesKey
    vectorKey psaKeyIdNull (psaKeyIdVendorMin + 2) ?_ ?_ ?_ ?_ ?_).mpr (by decide)
  · exact ⟨wrappingAesKey, rfl, rfl, by decide, by decide⟩
  · exact ⟨wrappingAesKey, rfl, rfl, by decide, by decide⟩
  · exact ⟨rfl, by decide⟩
  · decide
  · have assigned : AssignedId exportableAesKey (psaKeyIdVendorMin + 2) := by
      unfold AssignedId
      decide
    exact ⟨assigned, fun _ => rfl, rfl, rfl⟩

/-- A Diffie-Hellman key pair that was imported with a size of eight bits, which no check holds
against its sixteen bytes. -/
def eightBitDhKey : KeyAttributes :=
  ⟨0x7203, 8, psaKeyLifetimeVolatile, psaKeyUsageExport, psaAlgNone, psaAlgNone, psaKeyIdNull⟩

/-- The blob of the vector with 2^32 more bytes. -/
def longBlob : Bytes := vectorBlob ++ List.replicate (2 ^ 32) 0

theorem longBlob_ne_vectorWrapped (kek plain : Bytes) : longBlob ≠ vectorWrapped kek plain := by
  intro same
  unfold vectorWrapped at same
  split at same
  · have lengths := congrArg List.length same
    unfold longBlob at lengths
    rw [List.length_append, List.length_replicate] at lengths
    omega
  · have first : longBlob.head? = some 0x1F := rfl
    have zero : (List.replicate 8 0 ++ plain).head? = some 0 := rfl
    rw [same, zero] at first
    exact absurd first (by decide)

/-- A stored exportable key of sixteen bytes is not wrapped, and a blob that no wrapping made is
unwrapped. -/
theorem small_buffer_and_cast_break_the_wrap :
    IdealKeyWrap vectorKeyWrap vectorWrapped ∧
      (WrappingKey (keyMap (posixBackend freshStore) (wrappingWorld eightBitDhKey vectorKey))
          psaKeyIdVendorMin psaKeyUsageWrap psaAlgKw vectorKek ∧
        ExportableKey (keyMap (posixBackend freshStore) (wrappingWorld eightBitDhKey vectorKey))
          (psaKeyIdVendorMin + 1) eightBitDhKey vectorKey ∧ WrapLength vectorKey ∧
        (runKey (posixBackend freshStore) (fun _ _ => calmFault)
          (psaWrapKey fullExportConfig vectorKeyWrap psaKeyIdVendorMin psaAlgKw
            (psaKeyIdVendorMin + 1) 24) (wrappingWorld eightBitDhKey vectorKey)).1 =
          .error ⟨.bufferTooSmall, failing⟩) ∧
      (∀ kek plain, longBlob ≠ vectorWrapped kek plain) ∧
      (runKey (posixBackend freshStore) (fun _ _ => calmFault)
        (psaUnwrapKey plainImport vectorKeyWrap exportableAesKey psaKeyIdVendorMin psaAlgKw longBlob)
        (wrappingWorld eightBitDhKey vectorKey)).1 = (.success, psaKeyIdVendorMin + 2) := by
  have stored := run_storedKeys plainImport (.posix usable_freshStore) psaKeyIdVendorMin
    (wrappingCalls eightBitDhKey vectorKey) (calm_wrappingCalls (by decide))
  refine ⟨ideal_vectorKeyWrap, ⟨⟨wrappingAesKey, rfl, rfl, by decide, by decide⟩,
    ⟨rfl, by decide⟩, by decide, rfl⟩, longBlob_ne_vectorWrapped, ?_⟩
  have unwrapping : WrappingKey (keyMap (posixBackend freshStore)
      (wrappingWorld eightBitDhKey vectorKey)) psaKeyIdVendorMin psaKeyUsageUnwrap psaAlgKw vectorKek :=
    ⟨wrappingAesKey, rfl, rfl, by decide, by decide⟩
  have length : longBlob.length = 24 + 2 ^ 32 := by
    unfold longBlob
    rw [List.length_append, List.length_replicate]
    rfl
  have cast : castBlob longBlob = vectorWrapped vectorKek vectorKey :=
    castBlob_append (by decide) (by rw [List.length_replicate, Nat.mod_self])
  have opened : unwrapPlaintext vectorKeyWrap vectorKek longBlob = .ok vectorKey :=
    (unwrapPlaintext_ideal ideal_vectorKeyWrap (by decide) (by omega) (by omega)).mpr
      ⟨by decide, cast, by decide⟩
  obtain ⟨n, unwrapped⟩ := psaUnwrapKey_run (lawful_posixBackend usable_freshStore) plainImport
    vectorKeyWrap exportableAesKey stored.good (by decide) (by omega) (by omega) unwrapping opened
    fun _ _ => calm_calmFault
  exact (congrArg Prod.fst unwrapped).trans rfl

end WolfPSA.Guarantees
