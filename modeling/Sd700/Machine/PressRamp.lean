import Sd700.Machine.Motion

/-! The mapped command of a PRESS: two ramps over the distance to the target that meet where the fine
band ends, and a boost that every band caps. -/

namespace Sd700.Machine.PressRamp
open Context Motion

variable {F Exec : Type} {v w : System F Exec}

/-- `AUTO_TARGET_PRESS_FINE_MIN_MV` to `_MAX_MV`, from the HOLD tolerance to the end of the fine band. -/
def fineMv (enter fineTop error : ℤ) : ℤ := 400 + (error - enter) * 600 / (fineTop - enter)

/-- `AUTO_TARGET_PRESS_MICRO_MIN_MV` to `_MAX_MV`, from the end of the fine band. -/
def microMv (fineTop error : ℤ) : ℤ := 1000 + (error - fineTop) * 2000 / 100

def bandLimit (band : ℕ) : ℕ := if band = 3 then 2000 else if band = 2 then 1000 else 0

def shortfall (w : System F Exec) : ℤ := w.targetUnits - w.pressure.control

def Tolerant (c : MachineConfig) : Prop :=
  0 ≤ c.holdEnterToleranceUnits ∧ c.holdEnterToleranceUnits < c.holdExitToleranceUnits

theorem tolerant_of_valid {policy : MotionPolicy} {c : MachineConfig} (valid : configIsValid policy c = true) :
    Tolerant c := by
  simp only [configIsValid, Bool.and_eq_true, decide_eq_true_eq] at valid
  unfold Tolerant
  omega

theorem pressBoostLimit_eq (w : System F Exec) : pressBoostLimit w = bandLimit (pressBand w) := rfl

theorem fineMv_bounds {enter fineTop error : ℤ} (above : enter ≤ error) (within : error ≤ fineTop)
    (wide : enter < fineTop) : 400 ≤ fineMv enter fineTop error ∧ fineMv enter fineTop error ≤ 1000 := by
  have width : 0 < fineTop - enter := by omega
  have least : 0 ≤ (error - enter) * 600 / (fineTop - enter) := by
    apply Int.ediv_nonneg
    · omega
    · omega
  have most : (error - enter) * 600 / (fineTop - enter) ≤ 600 := by
    apply Int.ediv_le_of_le_mul width
    omega
  unfold fineMv
  omega

theorem ramps_meet {enter fineTop : ℤ} (wide : enter < fineTop) :
    fineMv enter fineTop fineTop = 1000 ∧ microMv fineTop fineTop = 1000 := by
  have width : fineTop - enter ≠ 0 := by omega
  constructor
  · unfold fineMv
    rw [Int.mul_ediv_cancel_left _ width]
    rfl
  · unfold microMv
    rw [sub_self, zero_mul]
    rfl

theorem fineMv_mono {enter fineTop near far : ℤ} (wide : enter < fineTop) (further : near ≤ far) :
    fineMv enter fineTop near ≤ fineMv enter fineTop far := by
  have quotients : (near - enter) * 600 / (fineTop - enter) ≤ (far - enter) * 600 / (fineTop - enter) := by
    apply Int.ediv_le_ediv
    · omega
    · omega
  unfold fineMv
  omega

/-- The base command is nothing in the HOLD tolerance, and then one of the two ramps. -/
theorem pressBaseMv_eq (w : System F Exec) (tolerant : Tolerant w.config) :
    (pressBaseMv w : ℤ) =
      if shortfall w ≤ w.config.holdEnterToleranceUnits then 0
      else if shortfall w ≤ 2 * w.config.holdExitToleranceUnits then
        fineMv w.config.holdEnterToleranceUnits (2 * w.config.holdExitToleranceUnits) (shortfall w)
      else min (microMv (2 * w.config.holdExitToleranceUnits) (shortfall w)) 3000 := by
  obtain ⟨nonnegative, ordered⟩ := tolerant
  unfold pressBaseMv
  dsimp only
  rw [show w.targetUnits - w.pressure.control = shortfall w from rfl]
  by_cases near : shortfall w ≤ w.config.holdEnterToleranceUnits
  · rw [if_pos near, if_pos near]
    rfl
  rw [if_neg near, if_neg near]
  by_cases fine : shortfall w ≤ 2 * w.config.holdExitToleranceUnits
  · rw [if_pos fine, if_pos fine]
    have bounds := fineMv_bounds (by omega) fine
      (show w.config.holdEnterToleranceUnits < 2 * w.config.holdExitToleranceUnits by omega)
    unfold fineMv at bounds ⊢
    rw [Int.tdiv_eq_ediv_of_nonneg (by omega)]
    omega
  · rw [if_neg fine, if_neg fine]
    unfold microMv
    by_cases far : 100 ≤ shortfall w - 2 * w.config.holdExitToleranceUnits
    · rw [if_pos far]
      omega
    · rw [if_neg far, Int.tdiv_eq_ediv_of_nonneg (by omega)]
      omega

theorem pressBaseMv_mono (tolerant : Tolerant v.config) (same : w.config = v.config)
    (further : shortfall v ≤ shortfall w) : pressBaseMv v ≤ pressBaseMv w := by
  have wide : v.config.holdEnterToleranceUnits < 2 * v.config.holdExitToleranceUnits := by
    obtain ⟨nonnegative, ordered⟩ := tolerant
    omega
  have lower := pressBaseMv_eq v tolerant
  have upper := pressBaseMv_eq w (same ▸ tolerant)
  rw [same] at upper
  zify
  rw [lower, upper]
  by_cases near : shortfall v ≤ v.config.holdEnterToleranceUnits
  · rw [if_pos near, ← upper]
    exact Int.natCast_nonneg _
  rw [if_neg near, if_neg (show ¬ shortfall w ≤ v.config.holdEnterToleranceUnits by omega)]
  by_cases fine : shortfall v ≤ 2 * v.config.holdExitToleranceUnits
  · rw [if_pos fine]
    have bounds := fineMv_bounds (by omega) fine wide
    by_cases finer : shortfall w ≤ 2 * v.config.holdExitToleranceUnits
    · rw [if_pos finer]
      exact fineMv_mono wide further
    · rw [if_neg finer]
      unfold microMv
      omega
  · rw [if_neg fine, if_neg (show ¬ shortfall w ≤ 2 * v.config.holdExitToleranceUnits by omega)]
    unfold microMv
    omega

/-- Outside the HOLD tolerance the base lies between the ends of the ramps. -/
theorem pressBaseMv_bounds (tolerant : Tolerant w.config)
    (below : w.config.holdEnterToleranceUnits < shortfall w) : 400 ≤ pressBaseMv w ∧ pressBaseMv w ≤ 3000 := by
  have base := pressBaseMv_eq w tolerant
  obtain ⟨nonnegative, ordered⟩ := tolerant
  rw [if_neg (by omega)] at base
  by_cases fine : shortfall w ≤ 2 * w.config.holdExitToleranceUnits
  · rw [if_pos fine] at base
    have bounds := fineMv_bounds below.le fine (by omega)
    omega
  · rw [if_neg fine] at base
    unfold microMv at base
    omega

end Sd700.Machine.PressRamp
