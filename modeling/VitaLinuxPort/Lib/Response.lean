import Mathlib.Data.Int.Basic

/-!
# Response curves with a dead zone

A position on a range is answered with zero inside a dead zone and, outside it, in proportion to the
way from the edge of the zone to the end of the range, truncated toward zero. Where the dead zone
does not reach an end, the answer there is the full one; it never falls as the position rises; and
on a range that the dead zone is in the middle of, mirrored positions have opposite answers.
-/

namespace VitaLinuxPort

/-- Zero from `low` to `high`, and up to `full` either way at `lo` and `hi`. -/
def response (full lo low high hi x : Int) : Int :=
  if low ≤ x ∧ x ≤ high then 0
  else if x < low then ((x - low) * full).tdiv (low - lo)
  else ((x - high) * full).tdiv (hi - high)

section

variable {full lo low high hi x y : Int}

theorem response_inside (h : low ≤ x ∧ x ≤ high) : response full lo low high hi x = 0 := if_pos h

theorem response_below (h : x < low) :
    response full lo low high hi x = ((x - low) * full).tdiv (low - lo) := by
  rw [response, if_neg (by omega), if_pos h]

theorem response_above (hzone : low ≤ high) (h : high < x) :
    response full lo low high hi x = ((x - high) * full).tdiv (hi - high) := by
  rw [response, if_neg (by omega), if_neg (by omega)]

theorem response_lo (h : lo < low) : response full lo low high hi lo = -full := by
  have hproduct : (lo - low) * full = -full * (low - lo) := by
    rw [Int.neg_mul, Int.mul_comm full, ← Int.neg_mul]
    congr 1
    omega
  rw [response_below h, hproduct, Int.mul_tdiv_cancel _ (by omega)]

theorem response_hi (hzone : low ≤ high) (h : high < hi) :
    response full lo low high hi hi = full := by
  rw [response_above hzone h, Int.mul_comm, Int.mul_tdiv_cancel _ (by omega)]

theorem response_below_nonpos (hfull : 0 ≤ full) (hlo : lo ≤ x) (h : x < low) :
    response full lo low high hi x ≤ 0 := by
  have hproduct : 0 ≤ (low - x) * full := Int.mul_nonneg (by omega) hfull
  have hquotient := Int.tdiv_nonneg hproduct (show 0 ≤ low - lo by omega)
  rw [response_below h, show (x - low) * full = -((low - x) * full) by
    rw [← Int.neg_mul]; congr 1; omega, Int.neg_tdiv]
  omega

theorem response_above_nonneg (hfull : 0 ≤ full) (hzone : low ≤ high) (h : high < x) (hhi : x ≤ hi) :
    0 ≤ response full lo low high hi x := by
  rw [response_above hzone h]
  exact Int.tdiv_nonneg (Int.mul_nonneg (by omega) hfull) (by omega)

/-- The answer does not fall as the position rises. -/
theorem response_mono (hfull : 0 ≤ full) (hzone : low ≤ high) (hlo : lo ≤ x) (hxy : x ≤ y)
    (hhi : y ≤ hi) : response full lo low high hi x ≤ response full lo low high hi y := by
  by_cases hy : y < low
  · -- both below the dead zone
    have hproduct : (x - low) * full ≤ (y - low) * full :=
      Int.mul_le_mul_of_nonneg_right (by omega) hfull
    rw [response_below (by omega), response_below hy]
    exact Int.tdiv_le_tdiv (by omega) hproduct
  by_cases hx : high < x
  · -- both above it
    have hproduct : (x - high) * full ≤ (y - high) * full :=
      Int.mul_le_mul_of_nonneg_right (by omega) hfull
    rw [response_above hzone hx, response_above hzone (by omega)]
    exact Int.tdiv_le_tdiv (by omega) hproduct
  have hxle : response full lo low high hi x ≤ 0 := by
    by_cases hbelow : x < low
    · exact response_below_nonpos hfull hlo hbelow
    · exact Int.le_of_eq (response_inside ⟨by omega, by omega⟩)
  have hyge : 0 ≤ response full lo low high hi y := by
    by_cases habove : high < y
    · exact response_above_nonneg hfull hzone habove hhi
    · exact Int.le_of_eq (response_inside ⟨by omega, by omega⟩).symm
  omega

theorem response_mem (hfull : 0 ≤ full) (hlow : lo < low) (hzone : low ≤ high) (hhigh : high < hi)
    (hlo : lo ≤ x) (hhi : x ≤ hi) :
    -full ≤ response full lo low high hi x ∧ response full lo low high hi x ≤ full := by
  have hbelow := response_mono hfull hzone (Int.le_refl lo) hlo hhi
  have habove := response_mono hfull hzone hlo hhi (Int.le_refl hi)
  rw [response_lo hlow] at hbelow
  rw [response_hi hzone hhigh] at habove
  exact ⟨hbelow, habove⟩

/-- A dead zone in the middle of the range answers mirrored positions with opposite values. -/
theorem response_mirror (hzone : low ≤ high) (hmiddle : low - lo = hi - high) :
    response full lo low high hi (lo + hi - x) = -response full lo low high hi x := by
  by_cases hbelow : x < low
  · have hproduct : (lo + hi - x - high) * full = -((x - low) * full) := by
      rw [← Int.neg_mul]
      congr 1
      omega
    rw [response_below hbelow, response_above hzone (by omega), hproduct, Int.neg_tdiv, hmiddle]
  by_cases habove : high < x
  · have hproduct : (lo + hi - x - low) * full = -((x - high) * full) := by
      rw [← Int.neg_mul]
      congr 1
      omega
    rw [response_above hzone habove, response_below (by omega), hproduct, Int.neg_tdiv, hmiddle]
  rw [response_inside ⟨by omega, by omega⟩, response_inside ⟨by omega, by omega⟩, Int.neg_zero]

end

end VitaLinuxPort
