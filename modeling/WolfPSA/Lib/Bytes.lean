import Mathlib

/-!
# Fixed-width integers as bytes and as text

Little-endian encodings of a natural number in a fixed number of bytes, big-endian byte strings as numbers,
and the hexadecimal text of a number in a fixed number of digits. An encoding that is too narrow keeps the
low end, as a store of a machine integer does.
-/

namespace WolfPSA.Lib

/-- `n` bytes of `x`, least significant first. -/
def leBytes : Nat → Nat → List (BitVec 8)
  | 0, _ => []
  | n + 1, x => BitVec.ofNat 8 x :: leBytes n (x / 256)

/-- The number a little-endian byte string denotes. -/
def leNat : List (BitVec 8) → Nat
  | [] => 0
  | b :: rest => b.toNat + 256 * leNat rest

@[simp] theorem length_leBytes (n x : Nat) : (leBytes n x).length = n := by
  induction n generalizing x with
  | zero => rfl
  | succ n ih => simp [leBytes, ih]

theorem leNat_leBytes (n x : Nat) : leNat (leBytes n x) = x % 256 ^ n := by
  induction n generalizing x with
  | zero => simp [leBytes, leNat, Nat.mod_one]
  | succ n ih =>
    have byte : (BitVec.ofNat 8 x).toNat = x % 256 := BitVec.toNat_ofNat x 8
    rw [leBytes, leNat, byte, ih, Nat.pow_succ', Nat.mod_mul]

theorem leNat_leBytes_of_lt {n x : Nat} (bound : x < 256 ^ n) : leNat (leBytes n x) = x := by
  rw [leNat_leBytes, Nat.mod_eq_of_lt bound]

/-! ## Big-endian numbers -/

/-- The number a big-endian byte string denotes. -/
def beNat : List (BitVec 8) → Nat
  | [] => 0
  | b :: rest => b.toNat * 256 ^ rest.length + beNat rest

theorem beNat_append (a b : List (BitVec 8)) : beNat (a ++ b) = beNat a * 256 ^ b.length + beNat b := by
  induction a with
  | nil => rw [List.nil_append, beNat, Nat.zero_mul, Nat.zero_add]
  | cons x a ih =>
    rw [List.cons_append, beNat, beNat, ih, List.length_append, Nat.pow_add, Nat.add_mul, Nat.mul_assoc,
      Nat.add_assoc]

theorem beNat_lt (bytes : List (BitVec 8)) : beNat bytes < 256 ^ bytes.length := by
  induction bytes with
  | nil => exact Nat.one_pos
  | cons b rest ih =>
    have digit : b.toNat + 1 ≤ 256 := b.isLt
    calc b.toNat * 256 ^ rest.length + beNat rest
      _ < b.toNat * 256 ^ rest.length + 256 ^ rest.length := Nat.add_lt_add_left ih _
      _ = (b.toNat + 1) * 256 ^ rest.length := by rw [Nat.succ_mul]
      _ ≤ 256 * 256 ^ rest.length := Nat.mul_le_mul_right _ digit
      _ = 256 ^ (b :: rest).length := by rw [List.length_cons, Nat.pow_succ']

theorem beNat_injective {a b : List (BitVec 8)} (length : a.length = b.length) (same : beNat a = beNat b) :
    a = b := by
  induction a generalizing b with
  | nil => exact (List.eq_nil_of_length_eq_zero length.symm).symm
  | cons x a ih =>
    cases b with
    | nil => cases length
    | cons y b =>
      have rest : a.length = b.length := Nat.succ.inj length
      have positive : 0 < 256 ^ b.length := Nat.pow_pos (by decide)
      have lowA := beNat_lt a
      have lowB := beNat_lt b
      rw [beNat, beNat, rest] at same
      rw [rest] at lowA
      have low : beNat a = beNat b := by
        have := congrArg (· % 256 ^ b.length) same
        simpa only [Nat.mul_add_mod', Nat.mod_eq_of_lt lowA, Nat.mod_eq_of_lt lowB] using this
      have high : x.toNat = y.toNat := by
        rw [low] at same
        exact Nat.eq_of_mul_eq_mul_right positive (Nat.add_right_cancel same)
      rw [ih rest low, BitVec.eq_of_toNat_eq high]

/-- `n` bytes of `x`, most significant first. -/
def beBytes (n x : Nat) : List (BitVec 8) := (leBytes n x).reverse

@[simp] theorem length_beBytes (n x : Nat) : (beBytes n x).length = n := by
  unfold beBytes
  rw [List.length_reverse, length_leBytes]

theorem beBytes_succ (n x : Nat) : beBytes (n + 1) x = beBytes n (x / 256) ++ [BitVec.ofNat 8 x] := by
  unfold beBytes
  rw [leBytes, List.reverse_cons]

theorem beNat_beBytes {n x : Nat} (bound : x < 256 ^ n) : beNat (beBytes n x) = x := by
  induction n generalizing x with
  | zero => exact (Nat.lt_one_iff.mp bound).symm
  | succ n ih =>
    have high : x / 256 < 256 ^ n := Nat.div_lt_of_lt_mul (by rwa [Nat.pow_succ'] at bound)
    have low : beNat [BitVec.ofNat 8 x] = x % 256 := by
      rw [beNat, beNat, List.length_nil, Nat.pow_zero, Nat.mul_one, Nat.add_zero]
      exact BitVec.toNat_ofNat x 8
    rw [beBytes_succ, beNat_append, ih high, low, List.length_singleton, Nat.pow_one]
    exact Nat.div_add_mod' x 256

/-! ## Hexadecimal text -/

def hexDigit (d : Nat) : Char :=
  if d < 10 then Char.ofNat (48 + d) else Char.ofNat (87 + d)

/-- `n` hexadecimal digits of `x`, most significant first. -/
def hexText : Nat → Nat → List Char
  | 0, _ => []
  | n + 1, x => hexText n (x / 16) ++ [hexDigit (x % 16)]

@[simp] theorem length_hexText (n x : Nat) : (hexText n x).length = n := by
  induction n generalizing x with
  | zero => rfl
  | succ n ih => simp [hexText, ih]

theorem hexDigit_injective {a b : Nat} (ha : a < 16) (hb : b < 16)
    (same : hexDigit a = hexDigit b) : a = b := by
  have table : ∀ a b : Fin 16, hexDigit a = hexDigit b → a = b := by decide +kernel
  exact congrArg Fin.val (table ⟨a, ha⟩ ⟨b, hb⟩ same)

theorem hexText_injective {n a b : Nat} (ha : a < 16 ^ n) (hb : b < 16 ^ n)
    (same : hexText n a = hexText n b) : a = b := by
  induction n generalizing a b with
  | zero => omega
  | succ n ih =>
    rw [Nat.pow_succ] at ha hb
    obtain ⟨high, low⟩ := List.append_inj same (by simp)
    have highs : a / 16 = b / 16 := ih (by omega) (by omega) high
    have lows : a % 16 = b % 16 :=
      hexDigit_injective (Nat.mod_lt _ (by decide)) (Nat.mod_lt _ (by decide)) (by simpa using low)
    omega

theorem hexText_ne {n x : Nat} {c : Char} (other : ∀ d < 16, hexDigit d ≠ c) :
    ∀ e ∈ hexText n x, e ≠ c := by
  induction n generalizing x with
  | zero => simp [hexText]
  | succ n ih =>
    intro e within
    rcases List.mem_append.mp within with inHigh | inLow
    · exact ih e inHigh
    · rw [List.mem_singleton] at inLow
      exact inLow ▸ other (x % 16) (Nat.mod_lt _ (by decide))

end WolfPSA.Lib
