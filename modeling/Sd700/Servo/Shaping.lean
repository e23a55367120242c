import Sd700.Servo.Trajectory

/-! The output of a commissioning build over whole runs of `ForceServo_Prepare` and `ForceServo_Commit`: the caps,
the ramp, and the integral behind them. -/

namespace Sd700.Servo.Shaping
open Config Controller Admitted Trajectory

/-- One sample of the machine: a prepare, and a commit of zero or of the truncated output, after the machine has
set what limits it has to set. -/
structure Sample (K : Type) where
  m : K
  dt : K
  off : Bool
  flags : Limits → Limits

section
variable {K : Type} [Field K] [LinearOrder K] [FloorRing K] (p : BuildPolicy) (c : ForceServoConfig)

def committed (sample : Sample K) (o : StepOver K) : ℤ := if sample.off then 0 else truncate o.limitedOutput

def Sample.apply (s : ForceServoOver K) (sample : Sample K) : ForceServoOver K :=
  match prepare p c s sample.m sample.dt with
  | none => s
  | some (ready, o) =>
    Turn.apply p c ready (.commit { o with limits := sample.flags o.limits } (committed sample o))

def samples (s : ForceServoOver K) (list : List (Sample K)) : ForceServoOver K := list.foldl (Sample.apply p c) s

end

section
variable {K : Type} [Field K] [LinearOrder K]

def amplitude (c : ForceServoConfig) (o : StepOver K) : K := clamp o.rawOutput (-c.releaseCap) c.pressCap

/-- The shape of an output after this last commit. -/
structure Shaped (c : ForceServoConfig) (previous dt : K) (o : StepOver K) : Prop where
  lower : -c.releaseCap ≤ o.limitedOutput
  upper : o.limitedOutput ≤ c.pressCap
  press : 0 < amplitude c o → 0 < o.limitedOutput
  release : amplitude c o < 0 → o.limitedOutput < 0
  still : amplitude c o = 0 → o.limitedOutput = 0
  magnitude : |o.limitedOutput| ≤ |amplitude c o|
  growth : 0 < amplitude c o * previous → |o.limitedOutput| ≤ |previous| + c.outputRate * dt
  fresh : ¬ 0 < amplitude c o * previous → |o.limitedOutput| ≤ c.outputRate * dt
  drop : 0 < amplitude c o * previous → |amplitude c o| ≤ |previous| → o.limitedOutput = amplitude c o

def Wound (c : ForceServoConfig) (s : ForceServoOver K) : Prop :=
  (c.integralMin : K) ≤ s.integral ∧ s.integral ≤ c.integralMax

variable [IsStrictOrderedRing K] {p : BuildPolicy} {c : ForceServoConfig} {s : ForceServoOver K}

omit [Field K] [IsStrictOrderedRing K] in
theorem clamp_bounds {x lower upper : K} (ordered : lower ≤ upper) :
    lower ≤ clamp x lower upper ∧ clamp x lower upper ≤ upper :=
  ⟨le_min ordered (le_max_left _ _), min_le_left _ _⟩

/-- The ramp towards PRESS, from an origin that is not negative. -/
theorem ramp_press {demand origin rise : K} (nonneg : 0 ≤ demand) (from_ : 0 ≤ origin) (grows : 0 < rise) :
    0 ≤ min demand (origin + rise) ∧ (0 < demand → 0 < min demand (origin + rise)) ∧
      |min demand (origin + rise)| ≤ |demand| ∧ |min demand (origin + rise)| ≤ origin + rise ∧
      (demand ≤ origin → min demand (origin + rise) = demand) := by
  have some_ : 0 ≤ min demand (origin + rise) := le_min nonneg (by linarith)
  rw [abs_of_nonneg some_, abs_of_nonneg nonneg]
  refine ⟨some_, fun positive => lt_min positive (by linarith), min_le_left _ _, min_le_right _ _, fun low => ?_⟩
  exact min_eq_left (by linarith)

/-- The ramp towards RELEASE is the one towards PRESS, mirrored. -/
theorem ramp_release (demand origin rise : K) :
    max demand (origin - rise) = -min (-demand) (-origin + rise) := by
  rw [← max_neg_neg, neg_neg]
  congr 1
  ring

omit [IsStrictOrderedRing K] in
theorem limitRate_commissioned (commissioned : p.commissioning = true) (previous demand dt : K) :
    limitRate p c previous demand dt =
      if 0 ≤ demand then min demand ((if 0 < demand * previous then previous else 0) + c.outputRate * dt)
      else max demand ((if 0 < demand * previous then previous else 0) - c.outputRate * dt) := by
  unfold limitRate
  rw [if_pos commissioned]

theorem demand_shaped (commissioned : p.commissioning = true) (valid : configValid p c = true) {dt : K}
    (later : 0 < dt) : Shaped c s.previousCommitted dt (demand p c s dt) := by
  have press : 0 ≤ (c.pressCap : K) := Rat.cast_nonneg.mpr (pressCap_nonneg valid)
  have release : 0 < (c.releaseCap : K) := Rat.cast_pos.mpr (releaseCap_pos valid)
  have grows : 0 < (c.outputRate : K) * dt := mul_pos (Rat.cast_pos.mpr (outputRate_pos valid)) later
  have limited : (demand p c s dt).limitedOutput =
      limitRate p c s.previousCommitted (amplitude c (demand p c s dt)) dt := rfl
  have caps : -(c.releaseCap : K) ≤ amplitude c (demand p c s dt) ∧
      amplitude c (demand p c s dt) ≤ c.pressCap := clamp_bounds (by linarith)
  generalize demand p c s dt = o at limited caps ⊢
  generalize shape : amplitude c o = a at limited caps
  generalize s.previousCommitted = previous at limited ⊢
  rw [limitRate_commissioned commissioned] at limited
  rcases le_or_gt 0 a with nonneg | negative
  · rw [if_pos nonneg] at limited
    generalize origin : (if 0 < a * previous then previous else 0) = base at limited
    have from_ : 0 ≤ base := by
      rw [← origin]
      split
      · rename_i same
        by_contra low
        have product := mul_nonpos_of_nonneg_of_nonpos nonneg (not_le.mp low).le
        linarith
      · exact le_refl _
    obtain ⟨some_, moves, magnitude, growth, drop⟩ := ramp_press nonneg from_ grows
    rw [← limited] at some_ moves magnitude growth drop
    have below : o.limitedOutput ≤ a := by
      rw [limited]
      exact min_le_left _ _
    refine ⟨by linarith, below.trans caps.2, ?_, ?_, ?_, ?_, ?_, ?_, ?_⟩ <;> rw [shape]
    · exact moves
    · exact fun less => absurd nonneg (not_le.mpr less)
    · exact fun zero => le_antisymm (zero ▸ below) some_
    · exact magnitude
    · intro same
      rw [← origin, if_pos same] at growth
      exact growth.trans (by linarith [le_abs_self previous])
    · intro other
      rw [← origin, if_neg other, zero_add] at growth
      exact growth
    · intro same low
      rw [if_pos same] at origin
      rw [abs_of_nonneg nonneg, abs_of_nonneg (origin ▸ from_)] at low
      exact drop (origin ▸ low)
  · have mirrored : 0 ≤ -a := by linarith
    rw [if_neg (not_le.mpr negative), ramp_release] at limited
    generalize origin : (if 0 < a * previous then previous else 0) = base at limited
    have from_ : 0 ≤ -base := by
      rw [← origin]
      split
      · rename_i same
        have opposite : previous < 0 := by
          by_contra high
          have product := mul_nonpos_of_nonpos_of_nonneg negative.le (not_lt.mp high)
          linarith
        linarith
      · rw [neg_zero]
    obtain ⟨some_, moves, magnitude, growth, drop⟩ := ramp_press mirrored from_ grows
    have reflected : min (-a) (-base + c.outputRate * dt) = -o.limitedOutput := by rw [limited, neg_neg]
    rw [reflected] at some_ moves magnitude growth drop
    rw [abs_neg] at magnitude growth
    rw [abs_neg] at magnitude
    have above : a ≤ o.limitedOutput := by
      have left := min_le_left (-a) (-base + c.outputRate * dt)
      rw [reflected] at left
      linarith
    refine ⟨caps.1.trans above, by linarith, ?_, ?_, ?_, ?_, ?_, ?_, ?_⟩ <;> rw [shape]
    · exact fun more => absurd more (not_lt.mpr negative.le)
    · intro _
      have positive := moves (by linarith)
      linarith
    · exact fun zero => absurd zero negative.ne
    · exact magnitude
    · intro same
      rw [← origin, if_pos same] at growth
      exact growth.trans (by linarith [neg_abs_le previous])
    · intro other
      rw [← origin, if_neg other, neg_zero, zero_add] at growth
      exact growth
    · intro same low
      rw [if_pos same] at origin
      rw [abs_of_neg negative, abs_of_nonpos (by rw [origin]; linarith), origin] at low
      have equal := drop low
      linarith

theorem integral_ordered (valid : configValid p c = true) : (c.integralMin : K) ≤ c.integralMax :=
  Rat.cast_le.mpr ((integralMin_nonpos valid).trans (integralMax_nonneg valid))

theorem wound_zero (valid : configValid p c = true) (zero : s.integral = 0) : Wound c s := by
  unfold Wound
  rw [zero]
  exact ⟨Rat.cast_nonpos.mpr (integralMin_nonpos valid), Rat.cast_nonneg.mpr (integralMax_nonneg valid)⟩

/-- A prepare leaves the integral alone, and its output has its shape. -/
theorem prepare_shaped (commissioned : p.commissioning = true) {next : ForceServoOver K} {m dt : K} {o : StepOver K}
    (accepted : prepare p c s m dt = some (next, o)) :
    Shaped c s.previousCommitted dt o ∧ next.integral = s.integral ∧ o.dtS = dt ∧ 0 < dt ∧
      dt ≤ c.feedbackGapMs * (1 / 1000) := by
  obtain ⟨later, -, -, -⟩ := prepare_accepted accepted
  unfold prepare at accepted
  split at accepted
  · cases accepted
  rename_i inside
  push Not at inside
  obtain ⟨-, valid, -, -, -, high⟩ := inside
  cases accepted
  have shaped : Shaped c (observe c (follow s dt) m dt).previousCommitted dt
      (demand p c (observe c (follow s dt) m dt) dt) := demand_shaped commissioned valid later
  exact ⟨shaped, rfl, rfl, later, high⟩

variable [FloorRing K]

theorem truncate_bounds {x lower upper : K} (low : lower ≤ x) (high : x ≤ upper) (below : lower ≤ 0)
    (above : 0 ≤ upper) : lower ≤ (truncate x : K) ∧ (truncate x : K) ≤ upper := by
  unfold truncate
  split
  · rename_i nonneg
    exact ⟨below.trans (Int.cast_nonneg (Int.floor_nonneg.mpr nonneg)), (Int.floor_le x).trans high⟩
  · rename_i negative
    have floored := Int.floor_le (-x)
    have zero : (0 : K) ≤ (⌊-x⌋ : K) := Int.cast_nonneg (Int.floor_nonneg.mpr (by linarith [not_le.mp negative]))
    rw [Int.cast_neg]
    constructor <;> linarith

/-- The commit of zero or of the truncated output is accepted and keeps the integral inside its limits. -/
theorem commit_accepted (valid : configValid p c = true) {previous : K} {o : StepOver K}
    (shaped : Shaped c previous o.dtS o) (later : 0 < o.dtS) (short : o.dtS ≤ c.feedbackGapMs * (1 / 1000))
    (flags : Limits) {value : ℤ} (known : value = 0 ∨ value = truncate o.limitedOutput) :
    ∃ next left, commit p c s { o with limits := flags } value = some (next, left) ∧ Wound c next ∧
      next.previousCommitted = value := by
  have press : 0 ≤ (c.pressCap : K) := Rat.cast_nonneg.mpr (pressCap_nonneg valid)
  have release : 0 < (c.releaseCap : K) := Rat.cast_pos.mpr (releaseCap_pos valid)
  have caps : -(c.releaseCap : K) ≤ (value : K) ∧ (value : K) ≤ c.pressCap := by
    rcases known with rfl | rfl
    · rw [Int.cast_zero]
      exact ⟨by linarith, press⟩
    · exact truncate_bounds shaped.lower shaped.upper (by linarith) press
  have accepted : ¬ (¬ configValid p c = true ∨ o.dtS ≤ 0 ∨ c.feedbackGapMs * (1 / 1000) < o.dtS ∨
      (c.pressCap : K) < value ∨ (value : K) < -c.releaseCap) := by
    push Not
    exact ⟨valid, later, short, caps.2, caps.1⟩
  unfold commit
  rw [if_neg accepted]
  exact ⟨_, _, rfl, clamp_bounds (integral_ordered valid), rfl⟩

theorem sample_wound (commissioned : p.commissioning = true) (valid : configValid p c = true) (wound : Wound c s)
    (sample : Sample K) : Wound c (sample.apply p c s) := by
  unfold Sample.apply
  split
  · exact wound
  · rename_i ready o accepted
    obtain ⟨shaped, -, span, later, short⟩ := prepare_shaped commissioned accepted
    have known : committed sample o = 0 ∨ committed sample o = truncate o.limitedOutput := by
      unfold committed
      split
      · exact .inl rfl
      · exact .inr rfl
    obtain ⟨next, left, done_, inside, -⟩ := @commit_accepted K _ _ _ p c ready _ valid s.previousCommitted o
      (span.symm ▸ shaped) (span.symm ▸ later) (span.symm ▸ short) (sample.flags o.limits) _ known
    show Wound c (((commit p c ready _ _).map Prod.fst).getD ready)
    rw [done_]
    exact inside

theorem samples_wound (commissioned : p.commissioning = true) (valid : configValid p c = true) (wound : Wound c s)
    (list : List (Sample K)) : Wound c (samples p c s list) := by
  induction list generalizing s with
  | nil => exact wound
  | cons sample rest ih => exact ih (sample_wound commissioned valid wound sample)

end

/-- In exact arithmetic, after any samples of a commissioning build the integral is inside its limits, the next
output has its shape, and the commit of it or of zero is accepted and leaves the integral inside; a commit that is
refused changes nothing. -/
theorem shaping_contract {p : BuildPolicy} (commissioned : p.commissioning = true) {c : ForceServoConfig}
    {start target : ℝ} {s : ForceServoOver ℝ} (started : init Real.sqrt p c start target = some s)
    (list : List (Sample ℝ)) :
    Wound c (samples p c s list) ∧
      (∀ m dt next o, prepare p c (samples p c s list) m dt = some (next, o) →
        Shaped c (samples p c s list).previousCommitted dt o ∧
          ∀ flags value, value = 0 ∨ value = truncate o.limitedOutput →
            ∃ after left, commit p c next { o with limits := flags } value = some (after, left) ∧ Wound c after ∧
              after.previousCommitted = value) ∧
      ∀ o value, commit p c (samples p c s list) o value = none →
        Turn.apply p c (samples p c s list) (.commit o value) = samples p c s list := by
  obtain ⟨valid, -, -, -⟩ := init_tracks started
  have cleared : s.integral = 0 := by
    unfold init at started
    split at started
    · cases started
    · cases started
      rfl
  refine ⟨samples_wound commissioned valid (wound_zero valid cleared) list, fun m dt next o accepted => ?_,
    fun o value refused => ?_⟩
  · obtain ⟨shaped, -, span, later, short⟩ := prepare_shaped commissioned accepted
    exact ⟨shaped, fun flags value known => commit_accepted valid (span.symm ▸ shaped) (span.symm ▸ later)
      (span.symm ▸ short) flags known⟩
  · show ((commit p c (samples p c s list) o value).map Prod.fst).getD _ = _
    rw [refused]
    rfl

local instance atLeastTwo_thirty : Nat.AtLeastTwo 30 := ⟨by omega⟩

/-- Two samples of the default controller, the first of them held off by the executor's interlock. -/
noncomputable def benchSamples : List (Sample ℝ) :=
  [⟨30, 1 / 100, true, fun limits => { limits with interlock := true }⟩, ⟨30, 1 / 100, false, id⟩]

theorem shaping_contract_bench :
    Wound (defaultConfig .commissioned)
        (samples .commissioned (defaultConfig .commissioned) benchStart benchSamples) ∧
      (∀ m dt next o,
        prepare .commissioned (defaultConfig .commissioned)
            (samples .commissioned (defaultConfig .commissioned) benchStart benchSamples) m dt = some (next, o) →
        Shaped (defaultConfig .commissioned)
            (samples .commissioned (defaultConfig .commissioned) benchStart benchSamples).previousCommitted dt o ∧
          ∀ flags value, value = 0 ∨ value = truncate o.limitedOutput →
            ∃ after left, commit .commissioned (defaultConfig .commissioned) next { o with limits := flags } value =
                some (after, left) ∧ Wound (defaultConfig .commissioned) after ∧
              after.previousCommitted = value) ∧
      ∀ o value,
        commit .commissioned (defaultConfig .commissioned)
            (samples .commissioned (defaultConfig .commissioned) benchStart benchSamples) o value = none →
        Turn.apply .commissioned (defaultConfig .commissioned)
            (samples .commissioned (defaultConfig .commissioned) benchStart benchSamples) (.commit o value) =
          samples .commissioned (defaultConfig .commissioned) benchStart benchSamples :=
  shaping_contract rfl benchStart_started benchSamples

end Sd700.Servo.Shaping
