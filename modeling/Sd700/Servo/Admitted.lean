import Sd700.Servo.Config

/-! What `ForceServo_ConfigValid` promises of the fields it has checked. -/

namespace Sd700.Servo.Admitted
open Logic.Binary32 Config

variable {p : BuildPolicy} {c : ForceServoConfig}

/-- An admitted field is inside the bounds its parameter lists. -/
theorem field_inBounds (valid : configValid p c = true) {i : ℕ} (field : i < 25) {standard low high : ℚ}
    (listed : (parameters p)[i]? = some (standard, low, high)) :
    value (encode low) ≤ value c.words[i] ∧ value c.words[i] ≤ value (encode high) := by
  unfold configValid at valid
  simp only [Bool.and_eq_true] at valid
  have fields : (c.words.toList.zipWith inBounds (parameters p)).all id = true := valid.1.1.1.1.1.1.1.1
  rw [List.all_eq_true] at fields
  have word : c.words.toList[i]? = some c.words[i] := by
    rw [List.getElem?_eq_getElem (by simpa using field), Vector.getElem_toList]
  have entry : (c.words.toList.zipWith inBounds (parameters p))[i]? =
      some (inBounds c.words[i] (standard, low, high)) := by
    rw [List.getElem?_zipWith, word, listed]
  have inside := fields _ (List.mem_of_getElem? entry)
  simp only [id, inBounds, Bool.and_eq_true, decide_eq_true_eq] at inside
  exact ⟨inside.1.2, inside.2⟩

theorem field_pos (valid : configValid p c = true) {i : ℕ} (field : i < 25) {standard low high : ℚ}
    (listed : (parameters p)[i]? = some (standard, low, high)) (positive : 0 < value (encode low)) :
    0 < value c.words[i] :=
  lt_of_lt_of_le positive (field_inBounds valid field listed).1

theorem tenth_pos : 0 < value (encode (1 / 10)) := by decide +kernel

theorem one_pos : 0 < value (encode 1) := by decide +kernel

theorem zero_value : value (encode 0) = 0 := by decide +kernel

theorem referenceRate_pos (valid : configValid p c = true) : 0 < c.referenceRate := by
  unfold ForceServoConfig.referenceRate
  exact field_pos valid (by decide) rfl tenth_pos

theorem referenceAcceleration_pos (valid : configValid p c = true) : 0 < c.referenceAcceleration := by
  unfold ForceServoConfig.referenceAcceleration
  exact field_pos valid (by decide) rfl tenth_pos

theorem outputRate_pos (valid : configValid p c = true) : 0 < c.outputRate := by
  unfold ForceServoConfig.outputRate
  exact field_pos valid (by decide) rfl one_pos

theorem pressCap_nonneg (valid : configValid p c = true) : 0 ≤ c.pressCap := by
  unfold ForceServoConfig.pressCap
  have bound := (@field_inBounds p c valid 7 (by decide) _ _ _ rfl).1
  dsimp only at bound
  by_cases characterized : p.characterization = true
  · rw [if_pos characterized, zero_value] at bound
    exact bound
  · rw [if_neg characterized] at bound
    exact one_pos.le.trans bound

theorem releaseCap_pos (valid : configValid p c = true) : 0 < c.releaseCap := by
  unfold ForceServoConfig.releaseCap
  exact field_pos valid (by decide) rfl one_pos

theorem integralMin_nonpos (valid : configValid p c = true) : c.integralMin ≤ 0 := by
  unfold ForceServoConfig.integralMin
  have bound := (@field_inBounds p c valid 9 (by decide) _ _ _ rfl).2
  rwa [zero_value] at bound

theorem integralMax_nonneg (valid : configValid p c = true) : 0 ≤ c.integralMax := by
  unfold ForceServoConfig.integralMax
  have bound := (@field_inBounds p c valid 10 (by decide) _ _ _ rfl).1
  rwa [zero_value] at bound

theorem controlMinMs_pos (valid : configValid p c = true) : 0 < c.controlMinMs := by
  unfold ForceServoConfig.controlMinMs
  exact field_pos valid (by decide) rfl one_pos

end Sd700.Servo.Admitted
