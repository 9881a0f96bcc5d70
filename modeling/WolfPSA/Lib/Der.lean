import WolfPSA.Lib.Bytes

/-!
# DER

The distinguished encoding of lengths and integers, by its rules: a length takes as few octets as it can,
and the first nine bits of an integer are not all equal. A reader of such encodings comes with them.
-/

namespace WolfPSA.Lib

/-- A number that needs all the bytes has no zero byte in front. -/
theorem beBytes_head {n x : Nat} (bound : x < 256 ^ (n + 1)) (full : 256 ^ n ≤ x) :
    (beBytes (n + 1) x).head? ≠ some 0 := by
  intro zero
  have value := beNat_beBytes bound
  cases digits : beBytes (n + 1) x with
  | nil =>
    have length := length_beBytes (n + 1) x
    rw [digits] at length
    cases length
  | cons b rest =>
    rw [digits] at zero value
    have first : b = 0 := Option.some.inj zero
    have length : rest.length = n := by
      have all := length_beBytes (n + 1) x
      rw [digits] at all
      exact Nat.succ.inj all
    have low := beNat_lt rest
    rw [length] at low
    rw [first, beNat, show ((0 : BitVec 8).toNat = 0) from rfl, Nat.zero_mul, Nat.zero_add] at value
    omega

/-! ## Encodings -/

/-- The length octets: one octet below 128, else the number of the octets that follow and these, without a
leading zero. -/
def DerLength (octets : List (BitVec 8)) (length : Nat) : Prop :=
  (length < 128 ∧ octets = [BitVec.ofNat 8 length]) ∨
    (128 ≤ length ∧ ∃ digits, digits.length < 127 ∧ digits.head? ≠ some 0 ∧ beNat digits = length ∧
      octets = BitVec.ofNat 8 (128 + digits.length) :: digits)

/-- The integer that contents octets denote, in two's complement. -/
def contentsValue (contents : List (BitVec 8)) : Int :=
  if (contents.headD 0).msb then (beNat contents : Int) - 256 ^ contents.length else beNat contents

/-- Contents octets of an integer whose first nine bits are not all equal. -/
structure DerContents (contents : List (BitVec 8)) (value : Int) : Prop where
  denotes : contentsValue contents = value
  nonempty : contents ≠ []
  minimal : ∀ a b rest, contents = a :: b :: rest →
    ¬(a = 0 ∧ b.msb = false) ∧ ¬(a = 0xff ∧ b.msb = true)

def DerInteger (bytes : List (BitVec 8)) (value : Int) : Prop :=
  ∃ octets contents, DerLength octets contents.length ∧ DerContents contents value ∧
    bytes = 0x02 :: octets ++ contents

/-- `SEQUENCE { INTEGER, INTEGER }`. -/
def DerIntegerPair (bytes : List (BitVec 8)) (first second : Int) : Prop :=
  ∃ octets a b, DerInteger a first ∧ DerInteger b second ∧ DerLength octets (a.length + b.length) ∧
    bytes = 0x30 :: octets ++ (a ++ b)

/-! ## Reading -/

def readLength : List (BitVec 8) → Option (Nat × List (BitVec 8))
  | [] => none
  | b :: rest =>
    if b.toNat < 128 then some (b.toNat, rest)
    else if rest.length < b.toNat - 128 then none
    else some (beNat (rest.take (b.toNat - 128)), rest.drop (b.toNat - 128))

/-- The contents behind a tag and what follows them. -/
def readTagged (tag : BitVec 8) : List (BitVec 8) → Option (List (BitVec 8) × List (BitVec 8))
  | [] => none
  | b :: rest =>
    if b ≠ tag then none
    else
      match readLength rest with
      | none => none
      | some (length, body) =>
        if body.length < length then none else some (body.take length, body.drop length)

def readInteger (bytes : List (BitVec 8)) : Option (Int × List (BitVec 8)) :=
  (readTagged 0x02 bytes).map fun r => (contentsValue r.1, r.2)

/-- Both integers of a sequence, with nothing behind them. -/
def readIntegerPair (bytes : List (BitVec 8)) : Option (Int × Int) :=
  match readTagged 0x30 bytes with
  | some (body, []) =>
    match readInteger body with
    | some (first, rest) =>
      match readInteger rest with
      | some (second, []) => some (first, second)
      | _ => none
    | none => none
  | _ => none

theorem readLength_of {octets : List (BitVec 8)} {length : Nat} (encoded : DerLength octets length)
    (rest : List (BitVec 8)) : readLength (octets ++ rest) = some (length, rest) := by
  rcases encoded with ⟨short, rfl⟩ | ⟨-, digits, few, -, value, rfl⟩
  · have byte : (BitVec.ofNat 8 length).toNat = length := by
      rw [BitVec.toNat_ofNat]
      omega
    rw [List.singleton_append, readLength, byte, if_pos short]
  · have byte : (BitVec.ofNat 8 (128 + digits.length)).toNat = 128 + digits.length := by
      rw [BitVec.toNat_ofNat]
      omega
    rw [List.cons_append, readLength, byte, if_neg (by omega), Nat.add_sub_cancel_left, List.length_append,
      if_neg (by omega), List.take_left, List.drop_left, value]

theorem readTagged_of {tag : BitVec 8} {octets contents : List (BitVec 8)}
    (encoded : DerLength octets contents.length) (rest : List (BitVec 8)) :
    readTagged tag (tag :: octets ++ contents ++ rest) = some (contents, rest) := by
  rw [List.cons_append, List.cons_append, readTagged, if_neg (not_not.mpr rfl), List.append_assoc,
    readLength_of encoded]
  dsimp only
  rw [List.length_append, if_neg (by omega), List.take_left, List.drop_left]

theorem readInteger_of {bytes : List (BitVec 8)} {value : Int} (encoded : DerInteger bytes value)
    (rest : List (BitVec 8)) : readInteger (bytes ++ rest) = some (value, rest) := by
  obtain ⟨octets, contents, length, ⟨denotes, -, -⟩, rfl⟩ := encoded
  rw [readInteger, readTagged_of length, Option.map_some, denotes]

theorem readIntegerPair_of {bytes : List (BitVec 8)} {first second : Int}
    (encoded : DerIntegerPair bytes first second) : readIntegerPair bytes = some (first, second) := by
  obtain ⟨octets, a, b, left, right, length, rfl⟩ := encoded
  rw [← List.length_append] at length
  have outer : readTagged 0x30 (0x30 :: octets ++ (a ++ b) ++ []) = some (a ++ b, []) :=
    readTagged_of length []
  rw [List.append_nil] at outer
  have last := readInteger_of right []
  rw [List.append_nil] at last
  rw [readIntegerPair, outer]
  dsimp only
  rw [readInteger_of left]
  dsimp only
  rw [last]

end WolfPSA.Lib
