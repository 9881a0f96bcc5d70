import Mathlib

/-!
# Finite beginnings of streams

A stream is a function of the position. `firstN` is its beginning of a given length;
`blockStream` is the stream whose consecutive blocks of one length are given.
-/

namespace WolfPSA.Lib

variable {α : Type*}

/-- The first `n` elements of a stream. -/
def firstN (s : Nat → α) (n : Nat) : List α := (List.range n).map s

@[simp] theorem length_firstN (s : Nat → α) (n : Nat) : (firstN s n).length = n := by
  simp [firstN]

@[simp] theorem firstN_zero (s : Nat → α) : firstN s 0 = [] := rfl

theorem firstN_add (s : Nat → α) (m n : Nat) :
    firstN s (m + n) = firstN s m ++ firstN (fun i => s (m + i)) n := by
  unfold firstN
  rw [List.range_add, List.map_append, List.map_map]
  rfl

theorem take_firstN (s : Nat → α) {m n : Nat} (within : m ≤ n) :
    (firstN s n).take m = firstN s m := by
  obtain ⟨k, rfl⟩ := Nat.exists_eq_add_of_le within
  rw [firstN_add, List.take_left' (length_firstN s m)]

/-- A slice from the middle of a beginning. -/
theorem drop_firstN (s : Nat → α) (m n : Nat) :
    (firstN s (m + n)).drop m = firstN (fun i => s (m + i)) n := by
  rw [firstN_add, List.drop_left' (length_firstN s m)]

theorem firstN_isPrefix (s : Nat → α) {m n : Nat} (within : m ≤ n) :
    firstN s m <+: firstN s n := by
  rw [← take_firstN s within]
  exact List.take_prefix m _

theorem firstN_congr {s t : Nat → α} {n : Nat} (same : ∀ i < n, s i = t i) :
    firstN s n = firstN t n := by
  unfold firstN
  exact List.map_congr_left fun i member => same i (List.mem_range.mp member)

variable [Inhabited α]

/-- The stream that begins with the list. -/
def ofList (l : List α) : Nat → α := fun i => l.getD i default

theorem firstN_ofList {l : List α} {n : Nat} (within : n ≤ l.length) :
    firstN (ofList l) n = l.take n := by
  apply List.ext_getElem
  · simp [Nat.min_eq_left within]
  · intro i short long
    have inside : i < l.length := by
      rw [length_firstN] at short
      omega
    simp [firstN, ofList, List.getD_eq_getElem?_getD, inside]

/-- The stream of the blocks `f 0`, `f 1`, .. of `len` elements each. -/
def blockStream (f : Nat → List α) (len : Nat) : Nat → α :=
  fun i => ofList (f (i / len)) (i % len)

theorem blockStream_shift (f : Nat → List α) {len : Nat} (positive : 0 < len) :
    (fun i => blockStream f len (len + i)) = blockStream (fun j => f (j + 1)) len := by
  funext i
  unfold blockStream
  rw [Nat.add_div_left i positive, Nat.add_mod_left]

theorem firstN_blockStream_short {f : Nat → List α} {len n : Nat} (length : (f 0).length = len)
    (within : n ≤ len) : firstN (blockStream f len) n = (f 0).take n := by
  rw [← firstN_ofList (by omega : n ≤ (f 0).length)]
  refine firstN_congr fun i small => ?_
  have inside : i < len := by omega
  unfold blockStream
  rw [Nat.div_eq_of_lt inside, Nat.mod_eq_of_lt inside]

/-- A beginning that covers the first block. -/
theorem firstN_blockStream_cons {f : Nat → List α} {len : Nat} (positive : 0 < len)
    (length : (f 0).length = len) (n : Nat) :
    firstN (blockStream f len) (len + n) =
      f 0 ++ firstN (blockStream (fun j => f (j + 1)) len) n := by
  rw [firstN_add, blockStream_shift f positive, firstN_blockStream_short length (Nat.le_refl len),
    List.take_of_length_le (Nat.le_of_eq length)]

/-- A beginning is the concatenation of enough blocks, cut off. -/
theorem firstN_blockStream {f : Nat → List α} {len : Nat} (positive : 0 < len)
    (lengths : ∀ j, (f j).length = len) {blocks n : Nat} (enough : n ≤ blocks * len) :
    firstN (blockStream f len) n = ((List.range blocks).flatMap f).take n := by
  induction blocks generalizing f n with
  | zero =>
    rw [Nat.zero_mul] at enough
    rw [Nat.le_zero.mp enough, firstN_zero, List.take_zero]
  | succ blocks ih =>
    have split : (List.range (blocks + 1)).flatMap f =
        f 0 ++ (List.range blocks).flatMap fun j => f (j + 1) := by
      rw [List.range_succ_eq_map, List.flatMap_cons, List.flatMap_map]
    rw [split]
    rcases Nat.le_total n len with short | long
    · rw [firstN_blockStream_short (lengths 0) short,
        List.take_append_of_le_length (by rwa [lengths 0])]
    · obtain ⟨rest, rfl⟩ := Nat.exists_eq_add_of_le long
      have later : rest ≤ blocks * len := by
        rw [Nat.succ_mul] at enough
        omega
      rw [firstN_blockStream_cons positive (lengths 0), ih (fun j => lengths (j + 1)) later]
      rw [← lengths 0, List.take_length_add_append]

end WolfPSA.Lib
