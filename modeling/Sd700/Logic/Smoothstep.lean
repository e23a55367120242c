import Mathlib.Algebra.Order.Field.Basic
import Mathlib.Tactic.Linarith
import Mathlib.Tactic.Positivity
import Mathlib.Tactic.Ring

/-! The cubic smoothstep on the unit interval, over any ordered field: its value, its slope, and how far either
moves over a step. -/

namespace Sd700.Logic.Smoothstep

variable {K : Type} [Field K]

def smooth (x : K) : K := x * x * (3 - 2 * x)

def slope (x : K) : K := 6 * x * (1 - x)

@[simp] theorem smooth_zero : smooth (0 : K) = 0 := by simp [smooth]

@[simp] theorem smooth_one : smooth (1 : K) = 1 := by norm_num [smooth]

theorem smooth_sub (x y : K) :
    smooth y - smooth x = (y - x) * (3 * (x + y) - 2 * (x * x + x * y + y * y)) := by
  unfold smooth
  ring

theorem slope_sub (x y : K) : slope y - slope x = 6 * (y - x) * (1 - x - y) := by
  unfold slope
  ring

variable [LinearOrder K] [IsStrictOrderedRing K] {x y : K}

theorem mean_nonneg (low : 0 ≤ x) (le : x ≤ y) (high : y ≤ 1) :
    0 ≤ 3 * (x + y) - 2 * (x * x + x * y + y * y) := by
  have first : 0 ≤ x * (1 - x) := mul_nonneg low (by linarith)
  have second : 0 ≤ y * (1 - y) := mul_nonneg (by linarith) (by linarith)
  have third : 0 ≤ x * (1 - y) := mul_nonneg low (by linarith)
  linarith

theorem mean_le (x y : K) : 3 * (x + y) - 2 * (x * x + x * y + y * y) ≤ 3 / 2 := by
  have square : 0 ≤ 3 / 2 * (x + y - 1) ^ 2 + 1 / 2 * (x - y) ^ 2 := by positivity
  linarith

theorem smooth_mono (low : 0 ≤ x) (le : x ≤ y) (high : y ≤ 1) : smooth x ≤ smooth y := by
  have step := mul_nonneg (sub_nonneg.mpr le) (mean_nonneg low le high)
  rw [← smooth_sub] at step
  linarith

theorem smooth_nonneg (low : 0 ≤ x) (high : x ≤ 1) : 0 ≤ smooth x := by
  have step := smooth_mono (le_refl (0 : K)) low high
  rwa [smooth_zero] at step

theorem smooth_le_one (low : 0 ≤ x) (high : x ≤ 1) : smooth x ≤ 1 := by
  have step := smooth_mono low high (le_refl (1 : K))
  rwa [smooth_one] at step

theorem smooth_step (low : 0 ≤ x) (le : x ≤ y) (high : y ≤ 1) : |smooth y - smooth x| ≤ 3 / 2 * (y - x) := by
  have length : 0 ≤ y - x := sub_nonneg.mpr le
  rw [smooth_sub, abs_of_nonneg (mul_nonneg length (mean_nonneg low le high)), mul_comm]
  exact mul_le_mul_of_nonneg_right (mean_le x y) length

theorem smooth_eq_one (low : 0 ≤ x) (one : smooth x = 1) : x = 1 := by
  have factored : (1 - x) ^ 2 * (1 + 2 * x) = 0 := by
    have value : 1 - smooth x = (1 - x) ^ 2 * (1 + 2 * x) := by
      unfold smooth
      ring
    rw [← value, one, sub_self]
  rcases mul_eq_zero.mp factored with zero | zero
  · exact (sub_eq_zero.mp (pow_eq_zero_iff two_ne_zero |>.mp zero)).symm
  · linarith

theorem slope_nonneg (low : 0 ≤ x) (high : x ≤ 1) : 0 ≤ slope x :=
  mul_nonneg (by linarith) (by linarith)

theorem slope_le (x : K) : slope x ≤ 3 / 2 := by
  have square : 0 ≤ 6 * (x - 1 / 2) ^ 2 := by positivity
  unfold slope
  linarith

theorem slope_step (low : 0 ≤ x) (le : x ≤ y) (high : y ≤ 1) : |slope y - slope x| ≤ 6 * (y - x) := by
  have length : 0 ≤ 6 * (y - x) := by linarith
  have side : |1 - x - y| ≤ 1 := by
    rw [abs_le]
    constructor <;> linarith
  rw [slope_sub, abs_mul, abs_of_nonneg length]
  exact mul_le_of_le_one_right length side

end Sd700.Logic.Smoothstep
