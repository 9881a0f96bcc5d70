import Mathlib
import WolfPSA.Lib.Streams

/-!
# Counters

A counter block is a big-endian number that is increased by one, modulo a power of two, for every block of
a keystream. Two such counters stay apart as long as neither reaches the place where the other one started.
-/

namespace WolfPSA.Lib

/-! ## Values of a counter -/

/-- The values of a counter modulo `m` over `k` steps from `start`. -/
def counters (m start k : Nat) : List Nat := firstN (fun i => (start + i) % m) k

theorem mem_counters {m start k v : Nat} : v ∈ counters m start k ↔ ∃ i < k, (start + i) % m = v := by
  simp [counters, firstN]

theorem counters_mod (m start k : Nat) : counters m (start % m) k = counters m start k :=
  firstN_congr fun i _ => Nat.mod_add_mod start m i

theorem counters_add (m start k l : Nat) :
    counters m start (k + l) = counters m start k ++ counters m (start + k) l := by
  unfold counters
  rw [firstN_add]
  simp only [Nat.add_assoc]

/-- The counter repeats itself only when it has gone through all its values. -/
theorem counters_nodup_iff {m start k : Nat} (positive : 0 < m) : (counters m start k).Nodup ↔ k ≤ m := by
  constructor
  · intro nodup
    by_contra more
    have length : (counters m start k).length = k := length_firstN _ k
    have twice : (counters m start k)[0] = (counters m start k)[m] := by simp [counters, firstN]
    exact absurd ((nodup.getElem_inj_iff).mp twice) (by omega)
  · intro few
    refine (List.nodup_range).map_on fun i hi j hj same => ?_
    have left := List.mem_range.mp hi
    have right := List.mem_range.mp hj
    have close : i ≡ j [MOD m] := Nat.ModEq.add_left_cancel' start same
    rwa [Nat.ModEq, Nat.mod_eq_of_lt (by omega), Nat.mod_eq_of_lt (by omega)] at close

/-- The steps of a counter from one value to another. -/
def gap (m a b : Nat) : Nat := (m + b - a) % m

theorem gap_add_gap {m a b : Nat} (left : a < m) (right : b < m) (other : a ≠ b) :
    gap m a b + gap m b a = m := by
  unfold gap
  rcases Nat.lt_or_gt_of_ne other with lower | higher
  · rw [show m + b - a = b - a + m by omega, Nat.add_mod_right, Nat.mod_eq_of_lt (by omega),
      Nat.mod_eq_of_lt (by omega)]
    omega
  · rw [Nat.mod_eq_of_lt (by omega), show m + a - b = a - b + m by omega, Nat.add_mod_right,
      Nat.mod_eq_of_lt (by omega)]
    omega

/-- After that many steps the counter is there. -/
theorem add_gap_mod {m a b : Nat} (left : a < m) (right : b < m) : (a + gap m a b) % m = b := by
  unfold gap
  rw [Nat.add_mod_mod, show a + (m + b - a) = b + m by omega, Nat.add_mod_right, Nat.mod_eq_of_lt right]

theorem not_disjoint_of_gap_lt {m a b k l : Nat} (left : a < m) (right : b < m) (some : 0 < l)
    (reached : gap m a b < k) : ¬(counters m a k).Disjoint (counters m b l) := by
  intro apart
  refine apart (mem_counters.mpr ⟨gap m a b, reached, add_gap_mod left right⟩) ?_
  exact mem_counters.mpr ⟨0, some, Nat.mod_eq_of_lt right⟩

/-- Two counters stay apart exactly as long as neither reaches the start of the other one. -/
theorem counters_disjoint_iff {m a b k l : Nat} (left : a < m) (right : b < m) (other : a ≠ b) :
    (counters m a k).Disjoint (counters m b l) ↔
      k = 0 ∨ l = 0 ∨ k ≤ gap m a b ∧ l ≤ gap m b a := by
  constructor
  · intro apart
    by_contra reached
    have some : 0 < k ∧ 0 < l ∧ (gap m a b < k ∨ gap m b a < l) := by omega
    obtain ⟨first, second, far | far⟩ := some
    · exact not_disjoint_of_gap_lt left right second far apart
    · exact not_disjoint_of_gap_lt right left first far fun v here there => apart there here
  · rintro (rfl | rfl | ⟨near, close⟩)
    · exact fun v member _ => absurd member List.not_mem_nil
    · exact fun v _ member => absurd member List.not_mem_nil
    · intro v inLeft inRight
      obtain ⟨i, first, same⟩ := mem_counters.mp inLeft
      obtain ⟨j, second, rfl⟩ := mem_counters.mp inRight
      have whole := gap_add_gap left right other
      -- `b` is `gap` steps after `a`, so that both values are counted from `a`
      have shifted : i ≡ gap m a b + j [MOD m] := by
        refine Nat.ModEq.add_left_cancel' a ?_
        show (a + i) % m = (a + (gap m a b + j)) % m
        rw [same, ← Nat.add_assoc, Nat.add_mod (a + gap m a b), add_gap_mod left right, Nat.add_mod_mod]
      rw [Nat.ModEq, Nat.mod_eq_of_lt (by omega), Nat.mod_eq_of_lt (by omega)] at shifted
      omega

end WolfPSA.Lib
