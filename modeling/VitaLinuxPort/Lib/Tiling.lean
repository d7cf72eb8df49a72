import Mathlib.Data.Int.ConditionallyCompleteOrder
import Mathlib.Order.Interval.Set.Defs
import Mathlib.Order.Monotone.Defs
import Mathlib.Tactic.Ring
import Mathlib.Tactic.Linarith

/-!
# Consecutive intervals

Bounds that do not go down cut what lies between the first and the last of them into half-open
intervals, each beginning where the one before ends: every point is in exactly one. The bounds
`i * total / count` cut a range of integers into parts that differ in size by one at most.
-/

namespace Tiling

section Bounds

variable {α : Type*} [LinearOrder α] {bound : Nat → α} {count : Nat} {x : α}

theorem exists_mem (hfirst : bound 0 ≤ x) (hlast : x < bound count) :
    ∃ i < count, bound i ≤ x ∧ x < bound (i + 1) := by
  induction count with
  | zero => exact absurd hfirst (not_le.mpr hlast)
  | succ count ih =>
    obtain hbefore | hfrom := lt_or_ge x (bound count)
    · obtain ⟨i, hi, hmem⟩ := ih hbefore
      exact ⟨i, by omega, hmem⟩
    · exact ⟨count, by omega, hfrom, hlast⟩

theorem eq_of_mem (hmono : MonotoneOn bound (Set.Iic count)) {i j : Nat} (hi : i < count)
    (hj : j < count) (hxi : bound i ≤ x ∧ x < bound (i + 1))
    (hxj : bound j ≤ x ∧ x < bound (j + 1)) : i = j := by
  obtain hlt | heq | hgt := lt_trichotomy i j
  · have hbound : bound (i + 1) ≤ bound j := hmono hi hj.le hlt
    exact absurd (hxi.2.trans_le hbound) (not_lt.mpr hxj.1)
  · exact heq
  · have hbound : bound (j + 1) ≤ bound i := hmono hj hi.le hgt
    exact absurd (hxj.2.trans_le hbound) (not_lt.mpr hxi.1)

theorem existsUnique_mem (hmono : MonotoneOn bound (Set.Iic count)) (hfirst : bound 0 ≤ x)
    (hlast : x < bound count) : ∃! i, i < count ∧ bound i ≤ x ∧ x < bound (i + 1) := by
  obtain ⟨i, hi, hmem⟩ := exists_mem hfirst hlast
  exact ⟨i, ⟨hi, hmem⟩, fun j hj => eq_of_mem hmono hj.1 hi hj.2 hmem⟩

/-- An interval lies between the first and the last bound. -/
theorem between (hmono : MonotoneOn bound (Set.Iic count)) {i : Nat} (hi : i < count) :
    bound 0 ≤ bound i ∧ bound i ≤ bound (i + 1) ∧ bound (i + 1) ≤ bound count :=
  ⟨hmono (Nat.zero_le _) hi.le (Nat.zero_le _), hmono hi.le hi (Nat.le_succ _),
    hmono hi (le_refl count) hi⟩

end Bounds

section Even

variable {total count : Int}

theorem even_mono (htotal : 0 ≤ total) (hcount : 0 < count) :
    Monotone fun i : Nat => (i : Int) * total / count := by
  intro i j hij
  exact Int.ediv_le_ediv hcount (mul_le_mul_of_nonneg_right (Int.ofNat_le.mpr hij) htotal)

theorem le_even_size (hcount : 0 < count) (i : Int) :
    total / count ≤ (i + 1) * total / count - i * total / count := by
  have hsum : i * total / count + total / count ≤ (i * total + total) / count := by
    rw [Int.le_ediv_iff_mul_le hcount, add_mul]
    exact add_le_add (Int.ediv_mul_le _ hcount.ne') (Int.ediv_mul_le _ hcount.ne')
  rw [add_one_mul]
  omega

theorem even_size_le (hcount : 0 < count) (i : Int) :
    (i + 1) * total / count - i * total / count ≤ total / count + 1 := by
  have hbefore := Int.lt_ediv_add_one_mul_self (i * total) hcount
  have hpart := Int.lt_ediv_add_one_mul_self total hcount
  have hsum : (i * total + total) / count < i * total / count + total / count + 2 := by
    rw [Int.ediv_lt_iff_lt_mul hcount]
    linarith
  rw [add_one_mul]
  omega

end Even

end Tiling
