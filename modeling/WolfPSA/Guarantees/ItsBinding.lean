import WolfPSA.Source.ItsTransform

/-!
# Records of the secure storage are bound to their UID and flags

The reader takes a record apart where the writer has put it together, so a record comes back as it was
stored. The additional data is injective in flags and UID: with a cipher that opens only what was sealed, a
record that no store call has made for the UID is refused, whatever was changed in it.
-/

namespace WolfPSA.Guarantees
open Lib Source

/-- The arguments of a `secure_storage_its_transform_to_store`, the nonce that it draws and the buffer. -/
structure ItsStoreCall where
  uid : ItsUid
  data : Bytes
  createFlags : Byte
  nonce : Bytes
  stored : Bytes
  drawn : nonce.length = wolfpsaItsNonceSz

def ItsStoreCall.output (crypto : ItsCrypto) (call : ItsStoreCall) : Except Failure Bytes :=
  itsTransformToStore crypto (.ok call.nonce) call.uid call.data call.createFlags call.stored

/-- The record is one that the store can hold: its size is a 32-bit number. -/
def FitsStore (length : Nat) : Prop :=
  wolfpsaItsFlagsSz + wolfpsaItsNonceSz + length + wolfpsaItsTagSz < 2 ^ 32

/-- AES-GCM yields a ciphertext as long as the data and a tag of 16 bytes. -/
def SealsWhole (crypto : ItsCrypto) : Prop :=
  ∀ {key nonce aad data ciphertext tag}, crypto.gcmEncrypt key nonce aad data = .ok (ciphertext, tag) →
    ciphertext.length = data.length ∧ tag.length = wolfpsaItsTagSz

/-- What was sealed can be opened. -/
def OpensSealed (crypto : ItsCrypto) : Prop :=
  ∀ {key nonce aad data ciphertext tag}, crypto.gcmEncrypt key nonce aad data = .ok (ciphertext, tag) →
    crypto.gcmDecrypt key nonce aad ciphertext tag = .ok data

/-- Only what the calls have sealed can be opened. -/
def OpensOnlySealed (crypto : ItsCrypto) (calls : List ItsStoreCall) : Prop :=
  ∀ {key nonce aad ciphertext tag data}, crypto.gcmDecrypt key nonce aad ciphertext tag = .ok data →
    ∃ call ∈ calls, wolfpsaItsDeriveKey crypto call.uid = .ok key ∧ nonce = call.nonce ∧
      aad = wolfpsaItsBuildAad call.createFlags call.uid ∧
      crypto.gcmEncrypt key nonce aad call.data = .ok (ciphertext, tag)

/-! ## What the reader sees -/

private theorem leBytes_injective {n x y : Nat} (left : x < 256 ^ n) (right : y < 256 ^ n)
    (same : leBytes n x = leBytes n y) : x = y := by
  have numbers := congrArg leNat same
  rwa [leNat_leBytes_of_lt left, leNat_leBytes_of_lt right] at numbers

theorem wolfpsaItsSerializeUid_injective {a b : ItsUid}
    (same : wolfpsaItsSerializeUid a = wolfpsaItsSerializeUid b) : a = b := by
  unfold wolfpsaItsSerializeUid at same
  obtain ⟨ids, callers⟩ := List.append_inj same (by rw [length_leBytes, length_leBytes])
  have id := leBytes_injective a.uid.isLt b.uid.isLt ids
  have caller := leBytes_injective a.callerId.isLt b.callerId.isLt callers
  cases a
  cases b
  rw [ItsUid.mk.injEq]
  exact ⟨BitVec.eq_of_toNat_eq id, BitVec.eq_of_toNat_eq caller⟩

/-- The additional data tells flags and UID. -/
theorem wolfpsaItsBuildAad_injective {flags flags' : Byte} {uid uid' : ItsUid}
    (same : wolfpsaItsBuildAad flags uid = wolfpsaItsBuildAad flags' uid') : flags = flags' ∧ uid = uid' := by
  obtain ⟨first, rest⟩ := List.cons.inj same
  exact ⟨first, wolfpsaItsSerializeUid_injective rest⟩

variable {crypto : ItsCrypto}

private theorem reportAs_ok {α : Type} {status : Failure} {ret : Except WcError α} {value : α}
    (reported : reportAs status ret = .ok value) : ret = .ok value := by
  cases ret with
  | error e => cases reported
  | ok v =>
    cases reported
    rfl

/-- Data of a record that fits is not cut by the cast. -/
private theorem take_toWord32 {data : Bytes} (fits : FitsStore data.length) :
    data.take (toWord32 data.length) = data := by
  unfold FitsStore at fits
  unfold toWord32
  rw [Nat.mod_eq_of_lt (by omega), List.take_length]

/-- The ciphertext covers the place of the data. -/
private theorem region_overwritten {stored data ciphertext : Bytes} {position : Nat}
    (length : ciphertext.length = data.length) :
    ((stored.drop position).take data.length).drop ciphertext.length = [] := by
  refine List.drop_eq_nil_of_le ?_
  rw [length, List.length_take]
  exact Nat.min_le_left _ _

/-- A record that the writer makes: flags, nonce, ciphertext and tag. -/
private theorem itsTransformToStore_ok {call : ItsStoreCall} {record : Bytes} (whole : SealsWhole crypto)
    (fits : FitsStore call.data.length) (stored : call.output crypto = .ok record) :
    ∃ key ciphertext tag, wolfpsaItsDeriveKey crypto call.uid = .ok key ∧
      crypto.gcmEncrypt key call.nonce (wolfpsaItsBuildAad call.createFlags call.uid) call.data =
        .ok (ciphertext, tag) ∧ record = call.createFlags :: call.nonce ++ ciphertext ++ tag := by
  unfold ItsStoreCall.output itsTransformToStore at stored
  obtain ⟨key, derived, stored⟩ := except_bind_ok stored
  obtain ⟨nonce, drawn, stored⟩ := except_bind_ok stored
  cases drawn
  rw [take_toWord32 fits] at stored
  obtain ⟨⟨ciphertext, tag⟩, reported, ended⟩ := except_bind_ok stored
  have sealing := reportAs_ok reported
  refine ⟨key, ciphertext, tag, derived, sealing, ?_⟩
  cases ended
  rw [region_overwritten (whole sealing).1, List.append_nil]

/-- The reader on flags, nonce, ciphertext and tag. -/
private theorem itsTransformFromStore_parts {uid : ItsUid} {flags : Byte} {nonce ciphertext tag : Bytes}
    {dataSize : Nat} (drawn : nonce.length = wolfpsaItsNonceSz) (tagged : tag.length = wolfpsaItsTagSz)
    (fits : FitsStore ciphertext.length) :
    itsTransformFromStore crypto uid (flags :: nonce ++ ciphertext ++ tag) dataSize =
      if ciphertext.length > dataSize then .refused .bufferTooSmall
      else
        match wolfpsaItsDeriveKey crypto uid with
        | .error status => .refused status.val
        | .ok key =>
          match crypto.gcmDecrypt key nonce (wolfpsaItsBuildAad flags uid) ciphertext tag with
          | .error .authE => .refused .invalidSignature
          | .error _ => .refused .genericError
          | .ok data => ⟨.success, data, some ciphertext.length, some flags⟩ := by
  unfold FitsStore at fits
  have length : (flags :: nonce ++ ciphertext ++ tag).length =
      wolfpsaItsFlagsSz + wolfpsaItsNonceSz + ciphertext.length + wolfpsaItsTagSz := by
    rw [List.length_append, List.length_append, List.length_cons, drawn, tagged, Nat.add_comm wolfpsaItsNonceSz]
    rfl
  have inner : (flags :: nonce ++ ciphertext ++ tag).length - wolfpsaItsFlagsSz - wolfpsaItsNonceSz -
      wolfpsaItsTagSz = ciphertext.length := by
    rw [length]
    omega
  have front : ((flags :: nonce ++ ciphertext ++ tag).drop wolfpsaItsFlagsSz).take wolfpsaItsNonceSz =
      nonce := by
    rw [← drawn]
    show (nonce ++ ciphertext ++ tag).take nonce.length = nonce
    rw [List.append_assoc, List.take_left]
  have back : (flags :: nonce ++ ciphertext ++ tag).drop (wolfpsaItsFlagsSz + wolfpsaItsNonceSz) =
      ciphertext ++ tag := by
    rw [← drawn, Nat.add_comm]
    show (nonce ++ ciphertext ++ tag).drop nonce.length = ciphertext ++ tag
    rw [List.append_assoc, List.drop_left]
  have word : toWord32 ciphertext.length = ciphertext.length := Nat.mod_eq_of_lt (by omega)
  unfold itsTransformFromStore
  dsimp only
  rw [inner, front, back, word, List.take_left, List.drop_left, ← tagged, List.take_length, length,
    if_neg (by omega)]
  rfl

/-- A record that is long enough has these four parts. -/
private theorem record_parts {stored : Bytes}
    (long : wolfpsaItsFlagsSz + wolfpsaItsNonceSz + wolfpsaItsTagSz ≤ stored.length) :
    ∃ flags nonce ciphertext tag, stored = flags :: nonce ++ ciphertext ++ tag ∧
      nonce.length = wolfpsaItsNonceSz ∧ tag.length = wolfpsaItsTagSz ∧
      stored.length = wolfpsaItsFlagsSz + wolfpsaItsNonceSz + ciphertext.length + wolfpsaItsTagSz := by
  unfold wolfpsaItsFlagsSz wolfpsaItsNonceSz wolfpsaItsTagSz at *
  cases stored with
  | nil => exact absurd long (by decide)
  | cons flags rest =>
    rw [List.length_cons] at long
    refine ⟨flags, rest.take 12, (rest.drop 12).take (rest.length - 28), (rest.drop 12).drop (rest.length - 28),
      ?_, ?_, ?_, ?_⟩
    · rw [List.append_assoc, List.take_append_drop, List.cons_append, List.take_append_drop]
    · rw [List.length_take]
      omega
    · rw [List.length_drop, List.length_drop]
      omega
    · rw [List.length_cons, List.length_take, List.length_drop]
      omega

/-- A refused record sets neither the length nor the flags. -/
private theorem itsTransformFromStore_unset {uid : ItsUid} {stored : Bytes} {dataSize : Nat}
    (refused : (itsTransformFromStore crypto uid stored dataSize).status ≠ .success) :
    (itsTransformFromStore crypto uid stored dataSize).dataLen = none ∧
      (itsTransformFromStore crypto uid stored dataSize).createFlags = none := by
  unfold itsTransformFromStore at refused ⊢
  dsimp only at refused ⊢
  split_ifs at refused ⊢
  · exact ⟨rfl, rfl⟩
  · exact ⟨rfl, rfl⟩
  split at refused
  · exact ⟨rfl, rfl⟩
  split at refused
  · exact ⟨rfl, rfl⟩
  · exact ⟨rfl, rfl⟩
  · exact absurd rfl refused

/-! ## Both directions -/

private theorem round_trip {call : ItsStoreCall} {record : Bytes} {dataSize : Nat} (whole : SealsWhole crypto)
    (opens : OpensSealed crypto) (fits : FitsStore call.data.length) (stored : call.output crypto = .ok record)
    (room : call.data.length ≤ dataSize) :
    itsTransformFromStore crypto call.uid record dataSize =
      ⟨.success, call.data, some call.data.length, some call.createFlags⟩ := by
  obtain ⟨key, ciphertext, tag, derived, sealing, rfl⟩ := itsTransformToStore_ok whole fits stored
  obtain ⟨length, tagged⟩ := whole sealing
  rw [itsTransformFromStore_parts call.drawn tagged (by rwa [length]), length, if_neg (by omega), derived]
  dsimp only
  rw [opens sealing]

/-- What the reader accepts is what a call has stored under the UID. -/
private theorem accepted_stored {calls : List ItsStoreCall} {uid : ItsUid} {stored : Bytes} {dataSize : Nat}
    (whole : SealsWhole crypto) (fit : ∀ call ∈ calls, FitsStore call.data.length)
    (only : OpensOnlySealed crypto calls) (held : stored.length < 2 ^ 32)
    (accepted : (itsTransformFromStore crypto uid stored dataSize).status = .success) :
    ∃ call ∈ calls, call.uid = uid ∧ call.output crypto = .ok stored := by
  have long : wolfpsaItsFlagsSz + wolfpsaItsNonceSz + wolfpsaItsTagSz ≤ stored.length := by
    by_contra short
    unfold itsTransformFromStore at accepted
    rw [if_pos (by omega)] at accepted
    cases accepted
  obtain ⟨flags, nonce, ciphertext, tag, rfl, drawn, tagged, length⟩ := record_parts long
  rw [itsTransformFromStore_parts drawn tagged (by unfold FitsStore; omega)] at accepted
  split at accepted
  · cases accepted
  split at accepted
  · rename_i status _
    exact absurd accepted status.property
  rename_i key derived
  split at accepted
  · cases accepted
  · cases accepted
  rename_i data opened
  obtain ⟨call, member, derivedCall, rfl, bound, sealing⟩ := only opened
  obtain ⟨rfl, rfl⟩ := wolfpsaItsBuildAad_injective bound
  refine ⟨call, member, rfl, ?_⟩
  unfold ItsStoreCall.output itsTransformToStore
  rw [take_toWord32 (fit call member), derived]
  show (reportAs _ (crypto.gcmEncrypt key call.nonce _ call.data) >>= _) = _
  rw [sealing]
  show Except.ok (call.createFlags :: call.nonce ++ (ciphertext ++ List.drop _ _) ++ tag) = _
  rw [region_overwritten (whole sealing).1, List.append_nil]

/-- A stored record comes back with its data, its length and its flags. With a cipher that opens only what
the calls have sealed, anything else under the UID, be it shorter, longer, changed in any byte or stored
under another UID, is refused without setting length or flags. -/
theorem its_transform_binds (whole : SealsWhole crypto) :
    (OpensSealed crypto → ∀ (call : ItsStoreCall) record dataSize, FitsStore call.data.length →
      call.output crypto = .ok record → call.data.length ≤ dataSize →
      itsTransformFromStore crypto call.uid record dataSize =
        ⟨.success, call.data, some call.data.length, some call.createFlags⟩) ∧
    ∀ calls : List ItsStoreCall, (∀ call ∈ calls, FitsStore call.data.length) →
      OpensOnlySealed crypto calls → ∀ uid stored dataSize, stored.length < 2 ^ 32 →
      (∀ call ∈ calls, call.uid = uid → call.output crypto ≠ .ok stored) →
      (itsTransformFromStore crypto uid stored dataSize).status ≠ .success ∧
        (itsTransformFromStore crypto uid stored dataSize).dataLen = none ∧
        (itsTransformFromStore crypto uid stored dataSize).createFlags = none := by
  refine ⟨fun opens call record dataSize fits stored room => round_trip whole opens fits stored room, ?_⟩
  intro calls fit only uid stored dataSize held foreign
  have refused : (itsTransformFromStore crypto uid stored dataSize).status ≠ .success := by
    intro accepted
    obtain ⟨call, member, same, output⟩ := accepted_stored whole fit only held accepted
    exact foreign call member same output
  exact ⟨refused, itsTransformFromStore_unset refused⟩

/-! ## One record -/

def itsSampleUid : ItsUid := ⟨0x1234, 1⟩

def itsSampleCall : ItsStoreCall :=
  ⟨itsSampleUid, [0xaa, 0xbb], 0, List.replicate 12 7, List.replicate 64 0, rfl⟩

/-- A cipher that has sealed the data of that call and nothing else. -/
def itsSampleCrypto : ItsCrypto where
  hwinfo := none
  sha256 input := .ok input
  gcmEncrypt key nonce aad data :=
    if key = itsFixedSeed ++ wolfpsaItsSerializeUid itsSampleUid ∧ nonce = itsSampleCall.nonce ∧
        aad = wolfpsaItsBuildAad 0 itsSampleUid ∧ data = itsSampleCall.data then
      .ok ([0x55, 0x44], List.replicate 16 9)
    else .error .other
  gcmDecrypt key nonce aad ciphertext tag :=
    if key = itsFixedSeed ++ wolfpsaItsSerializeUid itsSampleUid ∧ nonce = itsSampleCall.nonce ∧
        aad = wolfpsaItsBuildAad 0 itsSampleUid ∧ ciphertext = [0x55, 0x44] ∧ tag = List.replicate 16 9 then
      .ok itsSampleCall.data
    else .error .authE

private theorem itsSampleCrypto_whole : SealsWhole itsSampleCrypto := by
  intro key nonce aad data ciphertext tag sealing
  simp only [itsSampleCrypto] at sealing
  split at sealing
  · rename_i same
    cases sealing
    rw [same.2.2.2]
    exact ⟨rfl, rfl⟩
  · cases sealing

private theorem itsSampleCrypto_opens : OpensSealed itsSampleCrypto := by
  intro key nonce aad data ciphertext tag sealing
  simp only [itsSampleCrypto] at sealing ⊢
  split at sealing
  · rename_i same
    cases sealing
    obtain ⟨rfl, rfl, rfl, rfl⟩ := same
    rw [if_pos ⟨rfl, rfl, rfl, rfl, rfl⟩]
  · cases sealing

private theorem itsSampleCrypto_only : OpensOnlySealed itsSampleCrypto [itsSampleCall] := by
  intro key nonce aad ciphertext tag data opened
  simp only [itsSampleCrypto] at opened
  split at opened
  · rename_i same
    obtain ⟨rfl, rfl, rfl, rfl, rfl⟩ := same
    refine ⟨itsSampleCall, List.mem_singleton_self _, rfl, rfl, rfl, ?_⟩
    decide
  · cases opened

/-- The record comes back, and is refused with another flags byte and under another UID. -/
theorem its_transform_binds_sample :
    ∃ record, itsSampleCall.output itsSampleCrypto = .ok record ∧
      itsTransformFromStore itsSampleCrypto itsSampleUid record 64 =
        ⟨.success, [0xaa, 0xbb], some 2, some 0⟩ ∧
      (itsTransformFromStore itsSampleCrypto itsSampleUid (record.set 0 1) 64).status ≠ .success ∧
      (itsTransformFromStore itsSampleCrypto ⟨0x9999, 1⟩ record 64).status ≠ .success := by
  have output : itsSampleCall.output itsSampleCrypto =
      .ok (0 :: List.replicate 12 7 ++ [0x55, 0x44] ++ List.replicate 16 9) := by decide
  have binds := its_transform_binds itsSampleCrypto_whole
  have refuses := binds.2 [itsSampleCall] (by unfold FitsStore; decide) itsSampleCrypto_only
  refine ⟨_, output, binds.1 itsSampleCrypto_opens itsSampleCall _ 64 (by unfold FitsStore; decide) output
    (by decide), (refuses itsSampleUid _ 64 (by decide) ?_).1, (refuses ⟨0x9999, 1⟩ _ 64 (by decide) ?_).1⟩
  · intro call member _
    rw [List.mem_singleton.mp member, output]
    decide
  · intro call member same
    rw [List.mem_singleton.mp member] at same
    exact absurd same (by decide)

end WolfPSA.Guarantees
