import Mathlib.Algebra.Order.Group.Abs
import Mathlib.Algebra.Order.Group.Int

/-!
# Interpolation in fixed point

The point between two integers at a weight out of `one`, rounded towards minus infinity. The rounding
costs nothing in order: the point is never outside the two ends, it moves in one direction as the
weight grows, and a change of the weight moves it by no more than its share of the distance, rounded
up.
-/

namespace VitaLinuxPort

def interpolate (one source target weight : Int) : Int :=
  source + (target - source) * weight / one

section

variable {one source target weight later : Int}

@[simp] theorem interpolate_zero (one source target : Int) :
    interpolate one source target 0 = source := by
  simp [interpolate]

theorem interpolate_one (hone : 0 < one) (source target : Int) :
    interpolate one source target one = target := by
  rw [interpolate, Int.mul_ediv_cancel _ hone.ne']
  omega

theorem interpolate_mono (hone : 0 < one) (hends : source ≤ target) (hweight : weight ≤ later) :
    interpolate one source target weight ≤ interpolate one source target later := by
  have hproduct : (target - source) * weight ≤ (target - source) * later :=
    Int.mul_le_mul_of_nonneg_left hweight (by omega)
  exact Int.add_le_add_left (Int.ediv_le_ediv hone hproduct) source

theorem interpolate_anti (hone : 0 < one) (hends : target ≤ source) (hweight : weight ≤ later) :
    interpolate one source target later ≤ interpolate one source target weight := by
  have hproduct : (target - source) * later ≤ (target - source) * weight :=
    Int.mul_le_mul_of_nonpos_left (by omega) hweight
  exact Int.add_le_add_left (Int.ediv_le_ediv hone hproduct) source

theorem interpolate_between (hone : 0 < one) (hnonneg : 0 ≤ weight) (hle : weight ≤ one) :
    min source target ≤ interpolate one source target weight ∧
      interpolate one source target weight ≤ max source target := by
  have hstart := interpolate_zero one source target
  have hend := interpolate_one hone source target
  obtain hends | hends := Int.le_total source target
  · have hlow := interpolate_mono hone hends hnonneg
    have hhigh := interpolate_mono hone hends hle
    omega
  · have hhigh := interpolate_anti hone hends hnonneg
    have hlow := interpolate_anti hone hends hle
    omega

/-- A change of weight moves the point by at most `bound` when its share of the distance is no more. -/
theorem interpolate_close {bound : Int} (hone : 0 < one)
    (hup : (target - source) * (later - weight) ≤ bound * one)
    (hdown : (source - target) * (later - weight) ≤ bound * one) :
    |interpolate one source target later - interpolate one source target weight| ≤ bound := by
  have hlater : (target - source) * later ≤ (target - source) * weight + bound * one := by
    rw [Int.mul_sub] at hup
    omega
  have hbefore : (target - source) * weight ≤ (target - source) * later + bound * one := by
    rw [Int.mul_sub, Int.sub_mul, Int.sub_mul] at hdown
    rw [Int.sub_mul, Int.sub_mul]
    omega
  have hrise := Int.ediv_le_ediv hone hlater
  have hfall := Int.ediv_le_ediv hone hbefore
  rw [Int.add_mul_ediv_right _ _ hone.ne'] at hrise hfall
  rw [abs_le]
  unfold interpolate
  omega

end

end VitaLinuxPort
