import Sd700.Pressure.Envelope

/-! The small-step ladder at its top. Seventy answers in a row without a newton of rise bring voltage, width and
escape to their last rung, from whatever rung they start. -/

namespace Sd700.Pressure.Ladder
open Build.Contract State Adapt Update Envelope

/-! ### The top rung -/

theorem voltageMax_of_low {target error : ℚ} (low : lowTarget target = true) : voltageMax target error = 11 / 2 := by
  have light : highTarget target = false := by
    simp only [lowTarget, highTarget, decide_eq_true_eq, decide_eq_false_iff_not] at low ⊢
    linarith
  simp [voltageMax, low, light]

theorem voltageCap_le_top (target error : ℚ) (band escape : ℕ) :
    voltageCap target error band escape ≤ stepVoltage target error precisionMaxLevel := by
  have most : voltageCap target error band escape ≤ voltageMax target error := min_le_right _ _
  refine most.trans ?_
  have rung : ((precisionMaxLevel : ℕ) : ℚ) = 32 := by norm_num [precisionMaxLevel]
  unfold stepVoltage
  rw [rung]
  by_cases low : lowTarget target = true
  · rw [voltageMax_of_low low, if_pos low]
    norm_num
  · by_cases high : highTarget target = true
    · have most : voltageMax target error ≤ 12 := voltageMax_le target error |>.trans (by split_ifs <;> norm_num)
      rw [if_neg low]
      split_ifs <;> linarith
    · have very : veryHighTarget target = false := by simpa [highTarget, veryHighTarget] using high
      have most : voltageMax target error = 7 := by simp [voltageMax, low, high, very]
      rw [most, if_neg low, if_neg (by simp [high]), if_neg high]
      norm_num

/-- On the last rung, with all the extra width, the width is past every cap. -/
theorem durationCap_le_top (target error : ℚ) (band escape : ℕ) :
    durationCap target error band escape ≤ stepDuration target error precisionMaxLevel 3 := by
  have most : durationCap target error band escape ≤ durationMax target error := min_le_right _ _
  refine most.trans ?_
  have grown : ∀ threshold ≤ 32, stepAt threshold precisionMaxLevel = 1 := by
    intro threshold low
    exact if_pos low
  unfold stepDuration durationMax
  simp only [grown _ (show 4 ≤ 32 by omega), grown _ (show 8 ≤ 32 by omega), grown _ (show 12 ≤ 32 by omega),
    grown _ (show 16 ≤ 32 by omega), grown _ (show 18 ≤ 32 by omega), grown _ (show 20 ≤ 32 by omega),
    grown _ (show 22 ≤ 32 by omega), grown _ (show 24 ≤ 32 by omega), grown _ (show 26 ≤ 32 by omega),
    grown _ (show 28 ≤ 32 by omega), grown _ (show 30 ≤ 32 by omega), lowTarget, highTarget, veryHighTarget,
    heavyBandTarget, midHighTarget, decide_eq_true_eq, Bool.decide_and, Bool.and_eq_true]
  by_cases low : target ≤ 200
  · have light : ¬800 ≤ target := by linarith
    have light' : ¬1500 ≤ target := by linarith
    simp [low, light, light']
  · by_cases high : 800 ≤ target
    · by_cases heavy : 1500 ≤ target ∧ target ≤ 2200
      · have mid : ¬target < 1500 := by linarith [heavy.1]
        by_cases last : error ≤ 10
        · have near : ¬10 < error := not_lt.mpr last
          simp [low, high, heavy, mid, last, near]
        · have far : 10 < error := not_le.mp last
          simp [low, high, heavy, mid, last, far]
      · by_cases last : error ≤ 10
        · have near : ¬10 < error := not_lt.mpr last
          by_cases mid : target < 1500
          · simp [low, high, heavy, mid, last, near]
          · simp [low, high, heavy, mid, last, near]
        · have far : 10 < error := not_le.mp last
          by_cases mid : target < 1500
          · simp [low, high, heavy, mid, last, far]
          · simp [low, high, heavy, mid, last, far]
    · have light' : ¬1500 ≤ target := by linarith
      simp [low, high, light']

/-! ### One answer -/

/-- An answer without a newton of rise takes nothing back, and climbs unless the ladder is at its top. -/
structure Climbed (p q : Precision) : Prop where
  level : p.level ≤ q.level
  extra : p.extraMs ≤ q.extraMs
  escape : p.escapeSteps ≤ q.escapeSteps
  counts : min 250 (p.noRiseCnt + 1) ≤ q.noRiseCnt
  height : 2 * (p.level + p.extraMs) + p.stallCnt + 1 ≤ 2 * (q.level + q.extraMs) + q.stallCnt ∨
    q.level = precisionMaxLevel ∧ q.extraMs = 3

def weight (rise : ℚ) : ℕ := if rise ≤ -3 then 2 else 1

theorem weight_cases (rise : ℚ) : weight rise = 1 ∨ weight rise = 2 := by
  unfold weight
  by_cases drop : rise ≤ -3
  · exact Or.inr (if_pos drop)
  · exact Or.inl (if_neg drop)

def countedNoRise (rise : ℚ) (p : Precision) : ℕ :=
  if p.noRiseCnt ≤ 250 - weight rise then u8 (p.noRiseCnt + weight rise) else 250

def countedEscape (rise : ℚ) (p : Precision) : ℕ :=
  if (p.latched ∨ 0 < p.tightestBand) ∧ 6 ≤ countedNoRise rise p ∧ p.noRiseCnt / 2 < countedNoRise rise p / 2 ∧
      p.escapeSteps < precisionEscapeMaxSteps then u8 (p.escapeSteps + 1) else p.escapeSteps

/-- A flat answer: every second one moves a rung, first of the level and then of the width. -/
structure Stalled (rise : ℚ) (p q : Precision) : Prop where
  noRise : q.noRiseCnt = countedNoRise rise p
  escape : q.escapeSteps = countedEscape rise p
  band : q.tightestBand = p.tightestBand
  latched : q.latched = p.latched
  rung : u8 (p.stallCnt + weight rise) < 2 ∧ q.level = p.level ∧ q.extraMs = p.extraMs ∧
        q.stallCnt = u8 (p.stallCnt + weight rise) ∨
      2 ≤ u8 (p.stallCnt + weight rise) ∧ q.stallCnt = 0 ∧
        (p.level < precisionMaxLevel ∧ (∃ more, (more = 1 ∨ more = 2) ∧ q.level = min (u8 (p.level + more)) precisionMaxLevel) ∧
            q.extraMs = p.extraMs ∨
          ¬p.level < precisionMaxLevel ∧ q.level = p.level ∧
            (p.extraMs < 3 ∧ q.extraMs = u8 (p.extraMs + 1) ∨ ¬p.extraMs < 3 ∧ q.extraMs = p.extraMs))

theorem stalledStep_cases (target rise : ℚ) (p : Precision) : Stalled rise p (stalledStep target rise p) := by
  have whole : stalledStep target rise p =
      let q := { p with
        noRiseCnt := countedNoRise rise p, escapeSteps := countedEscape rise p, stallCnt := u8 (p.stallCnt + weight rise) }
      if 2 ≤ u8 (p.stallCnt + weight rise) then
        if p.level < precisionMaxLevel then
          { q with
            stallCnt := 0
            level := min (u8 (p.level + if veryHighTarget target ∧ rise < 1 ∨ highTarget target ∧ rise ≤ -3 then 2 else 1))
              precisionMaxLevel }
        else if p.extraMs < 3 then { q with stallCnt := 0, extraMs := u8 (p.extraMs + 1) }
        else { q with stallCnt := 0 }
      else q := rfl
  rw [whole]
  dsimp only
  by_cases full : 2 ≤ u8 (p.stallCnt + weight rise)
  · rw [if_pos full]
    by_cases room : p.level < precisionMaxLevel
    · rw [if_pos room]
      refine ⟨rfl, rfl, rfl, rfl, Or.inr ⟨full, rfl, Or.inl ⟨room, ⟨_, ?_, rfl⟩, rfl⟩⟩⟩
      by_cases fast : veryHighTarget target ∧ rise < 1 ∨ highTarget target ∧ rise ≤ -3
      · exact Or.inr (if_pos fast)
      · exact Or.inl (if_neg fast)
    · rw [if_neg room]
      by_cases wide : p.extraMs < 3
      · rw [if_pos wide]
        exact ⟨rfl, rfl, rfl, rfl, Or.inr ⟨full, rfl, Or.inr ⟨room, rfl, Or.inl ⟨wide, rfl⟩⟩⟩⟩
      · rw [if_neg wide]
        exact ⟨rfl, rfl, rfl, rfl, Or.inr ⟨full, rfl, Or.inr ⟨room, rfl, Or.inr ⟨wide, rfl⟩⟩⟩⟩
  · rw [if_neg full]
    exact ⟨rfl, rfl, rfl, rfl, Or.inl ⟨by omega, rfl, rfl, rfl⟩⟩

theorem countedNoRise_spec (rise : ℚ) {p : Precision} (fits : PrecisionFits p) :
    min 250 (p.noRiseCnt + 1) ≤ countedNoRise rise p ∧ countedNoRise rise p ≤ p.noRiseCnt + 2 ∧
      p.noRiseCnt ≤ countedNoRise rise p ∧ countedNoRise rise p ≤ 250 := by
  have noRise := fits.noRise
  have weighed := weight_cases rise
  unfold countedNoRise u8
  by_cases room : p.noRiseCnt ≤ 250 - weight rise
  · rw [if_pos room]
    omega
  · rw [if_neg room]
    omega

theorem countedEscape_ge (rise : ℚ) {p : Precision} (fits : PrecisionFits p) : p.escapeSteps ≤ countedEscape rise p := by
  have escape := fits.escape
  have escapeMax : precisionEscapeMaxSteps = 26 := rfl
  unfold countedEscape u8
  split_ifs
  · omega
  · exact Nat.le_refl _

theorem stalledStep_climbed (target rise : ℚ) {p : Precision} (fits : PrecisionFits p) :
    Climbed p (stalledStep target rise p) := by
  have stalled := stalledStep_cases target rise p
  generalize stalledStep target rise p = q at stalled
  obtain ⟨level, extra, band, noRise, escape, stall⟩ := fits
  have levelMax : precisionMaxLevel = 32 := rfl
  have weighed := weight_cases rise
  have small : u8 (p.stallCnt + weight rise) = p.stallCnt + weight rise := Nat.mod_eq_of_lt (by omega)
  have rung := stalled.rung
  rw [small] at rung
  have moved : p.level ≤ q.level ∧ p.extraMs ≤ q.extraMs ∧
      (2 * (p.level + p.extraMs) + p.stallCnt + 1 ≤ 2 * (q.level + q.extraMs) + q.stallCnt ∨
        q.level = precisionMaxLevel ∧ q.extraMs = 3) := by
    rcases rung with ⟨low, sameLevel, sameExtra, counted⟩ | ⟨full, reset, up | ⟨top, sameLevel, wider | ⟨most, sameExtra⟩⟩⟩
    · omega
    · obtain ⟨room, ⟨more, either, raised⟩, sameExtra⟩ := up
      have exact_ : u8 (p.level + more) = p.level + more := Nat.mod_eq_of_lt (by omega)
      rw [exact_] at raised
      omega
    · obtain ⟨room, raised⟩ := wider
      have exact_ : u8 (p.extraMs + 1) = p.extraMs + 1 := Nat.mod_eq_of_lt (by omega)
      rw [exact_] at raised
      omega
    · omega
  refine ⟨moved.1, moved.2.1, ?_, ?_, moved.2.2⟩
  · rw [stalled.escape]
    exact countedEscape_ge rise ⟨level, extra, band, noRise, escape, stall⟩
  · rw [stalled.noRise]
    exact (countedNoRise_spec rise ⟨level, extra, band, noRise, escape, stall⟩).1

/-- With the ladder armed, the escape keeps up with the answers counted without a rise. -/
structure Escapes (p : Precision) : Prop where
  armed : 0 ≤ p.refPressure → p.latched = true ∨ 0 < p.tightestBand
  steps : min precisionEscapeMaxSteps (p.noRiseCnt / 2 - 2) ≤ p.escapeSteps

theorem stalledStep_steps (target rise : ℚ) {p : Precision} (fits : PrecisionFits p)
    (armed : p.latched = true ∨ 0 < p.tightestBand)
    (steps : min precisionEscapeMaxSteps (p.noRiseCnt / 2 - 2) ≤ p.escapeSteps) :
    min precisionEscapeMaxSteps ((stalledStep target rise p).noRiseCnt / 2 - 2) ≤
      (stalledStep target rise p).escapeSteps := by
  have escapeMax : precisionEscapeMaxSteps = 26 := rfl
  have stalled := stalledStep_cases target rise p
  obtain ⟨_, stepped, _, most⟩ := countedNoRise_spec rise fits
  have escape := fits.escape
  rw [stalled.noRise, stalled.escape]
  unfold countedEscape u8
  generalize countedNoRise rise p = n at stepped most
  by_cases up : (p.latched = true ∨ 0 < p.tightestBand) ∧ 6 ≤ n ∧ p.noRiseCnt / 2 < n / 2 ∧
      p.escapeSteps < precisionEscapeMaxSteps
  · rw [if_pos up]
    omega
  · have idle : ¬(6 ≤ n ∧ p.noRiseCnt / 2 < n / 2 ∧ p.escapeSteps < precisionEscapeMaxSteps) := fun all => up ⟨armed, all⟩
    rw [if_neg up]
    omega

/-! ### Where the ladder is asked -/

/-- What a pulse of MICRO hands to `PressureControl_PrecisionForward`, if it gets there. -/
def microArgument (s : Source) : Option Source :=
  if 3 < s.control.error ∧ (|s.control.error| ≤ 40 ∨ s.precision.latched) then
    some { s with precision := { s.precision with latched := true } }
  else none

def fineArgument (s : Source) : Option Source := if 0 < s.control.error then some s else none

def pacedArgument (argument : Source → Option Source) (s : Source) : Option Source :=
  if s.control.pulseActive then none
  else if 0 < s.control.pulseEnd.toNat then
    if pulseDue (countLowFrame s) then argument (countLowFrame s) else none
  else argument s

def modeArgument (s : Source) : Option Source :=
  match s.control.mode with
  | .micro => pacedArgument microArgument s
  | .fine => pacedArgument fineArgument { s with near := { s.near with forwardActive := false } }
  | _ => none

def gated (s : Source) : Source :=
  nearGate { s with
    hasContacted := s.hasContacted || decide (10 ≤ s.control.current)
    control := { s.control with error := s.control.target - s.control.current } }

def entered (s : Source) : Source :=
  let s := { s with near := { s.near with wait := false } }
  fallBack (enterMode (selectMode s) s)

def filtered (s : Source) : Source × ℚ :=
  let s := { s with control := { s.control with lastControlTime := s.now } }
  ({ s with glitch := (filterGlitch s.feedbackStamp s.actualPressure s.glitch).1 },
    (filterGlitch s.feedbackStamp s.actualPressure s.glitch).2)

def regulateArgument (s : Source) : Option Source :=
  if pausing (gated s) then none else modeArgument (entered (gated s))

def processArgument (s : Source) : Option Source :=
  if 0 < (filtered s).1.glitch.cnt then none
  else regulateArgument { (filtered s).1 with control := { (filtered s).1.control with current := (filtered s).2 } }

def updateArgument (s : Source) : Option Source :=
  if ¬ s.ready then none
  else if 500 < Source.since s s.feedbackStamp then none
  else if (s.now - s.control.lastControlTime).toNat < s.control.intervalMs.toNat then none
  else processArgument s

/-- What a frame hands to `PressureControl_PrecisionForward`, if it gets there. -/
def argument (f : Frame) (s : Source) : Option Source :=
  if f.ignored s then none
  else if (latchFrame f s).control.target ≤ f.measured then none
  else updateArgument (latchFrame f s)

/-- The ladder after `PressureControl_ResetPrecision`. -/
def clear (p : Precision) : Precision :=
  { p with level := 0, extraMs := 0, noRiseCnt := 0, escapeSteps := 0, stallCnt := 0, refPressure := -1, fbStamp := 0 }

structure Asked (before : Precision) (u : Source) : Prop where
  same : u.precision = { before with latched := u.precision.latched }
  latch : before.latched = true → u.precision.latched = true
  armed : u.precision.latched = true ∨ u.control.error ≤ 3

structure PutOut (u : Source) (voltage : ℚ) (duration : ℕ) (after : Source) : Prop where
  out : after.out = ⟨.pulse, lround (voltage * 1000), duration⟩
  mode : after.control.mode ≠ .coarse
  target : after.control.target = u.control.target
  error : after.control.error = u.control.error

/-- What a part of an update does to the ladder: nothing, a reset, or one call. -/
inductive Follows (before : Precision) : Option Source → Source → Prop
  | kept {after : Source} (same : after.precision = before) : Follows before none after
  | cleared {after : Source} (same : after.precision = clear before) : Follows before none after
  | called {u after : Source} (asked : Asked before u) (same : after.precision = (precisionForward u).source.precision)
      (emitted : ∀ voltage duration, (precisionForward u).drive = some (voltage, duration) →
        PutOut u voltage duration after) : Follows before (some u) after

theorem precisionForward_control (u : Source) : (precisionForward u).source.control = u.control := by
  unfold precisionForward
  dsimp only
  split_ifs <;> rfl

variable {s : Source} {f : Frame}

theorem microPrecision_follows (mode : s.control.mode = .micro) :
    Follows s.precision (some { s with precision := { s.precision with latched := true } }) (microPrecision s) := by
  have control := precisionForward_control { s with precision := { s.precision with latched := true } }
  unfold microPrecision
  dsimp only
  cases held : precisionForward { s with precision := { s.precision with latched := true } } with
  | mk source drive =>
    have control : source.control = s.control := by
      rw [held] at control
      exact control
    have asked : Asked s.precision { s with precision := { s.precision with latched := true } } :=
      ⟨rfl, fun _ => rfl, Or.inl rfl⟩
    cases drive with
    | none =>
      apply Follows.called asked
      · rw [held]
      · intro voltage duration some_
        rw [held] at some_
        contradiction
    | some drive =>
      obtain ⟨voltage, duration⟩ := drive
      apply Follows.called asked
      · rw [held]
        rfl
      · intro voltage' duration' some_
        rw [held] at some_
        obtain ⟨rfl, rfl⟩ := Prod.mk.inj (Option.some.inj some_)
        have moded : source.control.mode ≠ .coarse := by
          rw [control, mode]
          exact (nomatch ·)
        have target : source.control.target = s.control.target := by rw [control]
        have error : source.control.error = s.control.error := by rw [control]
        exact ⟨rfl, moded, target, error⟩

theorem enterNear_precision (nearForward : Bool) (s : Source) : (enterNear nearForward s).precision = s.precision :=
  (enterNear_frame nearForward s).2.1

theorem microForward_precision (baseV errorAbs : ℚ) (s : Source) :
    (microForward baseV errorAbs s).precision = clear s.precision := by
  have entered_ := enterNear_precision (decide (errorAbs ≤ 50)) (resetPrecision s)
  unfold microForward
  dsimp only
  split_ifs
  · exact entered_
  · exact entered_

theorem microRelease_precision (s : Source) : (microRelease s).precision = clear s.precision :=
  enterNear_precision false (resetPrecision s)

theorem microPulse_follows (mode : s.control.mode = .micro) : Follows s.precision (microArgument s) (microPulse s) := by
  unfold microPulse microArgument
  dsimp only
  by_cases far : 3 < s.control.error
  · rw [if_pos far]
    by_cases near : |s.control.error| ≤ 40 ∨ s.precision.latched
    · rw [if_pos near, if_pos ⟨far, near⟩]
      exact microPrecision_follows mode
    · rw [if_neg near, if_neg (fun both => near both.2)]
      exact Follows.cleared (microForward_precision _ _ _)
  · rw [if_neg far, if_neg (fun both => far both.1)]
    by_cases past : s.control.error < -3
    · rw [if_pos past]
      exact Follows.cleared (microRelease_precision s)
    · rw [if_neg past]
      exact Follows.kept rfl

theorem finePulse_follows (mode : s.control.mode = .fine) (close : s.control.error ≤ 3) :
    Follows s.precision (fineArgument s) (finePulse s) := by
  have control := precisionForward_control s
  unfold finePulse fineArgument
  dsimp only
  by_cases below : 0 < s.control.error
  · rw [if_pos below, if_pos below]
    have asked : Asked s.precision s := ⟨rfl, fun latched => latched, Or.inr close⟩
    cases held : precisionForward s with
    | mk source drive =>
      have control : source.control = s.control := by
        rw [held] at control
        exact control
      cases drive with
      | none =>
        apply Follows.called asked
        · rw [held]
        · intro voltage duration some_
          rw [held] at some_
          contradiction
      | some drive =>
        obtain ⟨voltage, duration⟩ := drive
        apply Follows.called asked
        · rw [held]
          rfl
        · intro voltage' duration' some_
          rw [held] at some_
          obtain ⟨rfl, rfl⟩ := Prod.mk.inj (Option.some.inj some_)
          have moded : source.control.mode ≠ .coarse := by
            rw [control, mode]
            exact (nomatch ·)
          have target : source.control.target = s.control.target := by rw [control]
          have error : source.control.error = s.control.error := by rw [control]
          exact ⟨rfl, moded, target, error⟩
  · rw [if_neg below, if_neg below]
    by_cases past : s.control.error < -1
    · rw [if_pos past]
      exact Follows.cleared rfl
    · rw [if_neg past]
      exact Follows.kept rfl

theorem countLowFrame_frame (s : Source) :
    (countLowFrame s).precision = s.precision ∧ (countLowFrame s).control = s.control := by
  unfold countLowFrame
  split_ifs <;> exact ⟨rfl, rfl⟩

theorem paced_follows {pulse : Source → Source} {argument : Source → Option Source}
    (follows : ∀ t : Source, t.precision = s.precision → t.control = s.control →
      Follows s.precision (argument t) (pulse t)) : Follows s.precision (pacedArgument argument s) (paced s pulse) := by
  unfold paced pacedArgument
  by_cases high : s.control.pulseActive = true
  · rw [if_pos high, if_pos high]
    apply Follows.kept
    unfold pulseInProgress
    split_ifs <;> rfl
  · rw [if_neg high, if_neg high]
    obtain ⟨precision, control⟩ := countLowFrame_frame s
    by_cases later : 0 < s.control.pulseEnd.toNat
    · rw [if_pos later, if_pos later]
      dsimp only
      by_cases due : pulseDue (countLowFrame s) = true
      · rw [if_pos due, if_pos due]
        exact follows _ precision control
      · rw [if_neg due, if_neg due]
        exact Follows.kept precision
    · rw [if_neg later, if_neg later]
      exact follows s rfl rfl

theorem gated_precision (s : Source) :
    (gated s).precision = s.precision ∨ (gated s).precision = clear s.precision ∧ pausing (gated s) = true := by
  unfold gated nearGate
  dsimp only
  split_ifs with fresh
  · generalize held : brakeAtTarget (markNear _) = t
    have same : t.precision = s.precision := by
      rw [← held]
      unfold brakeAtTarget
      split_ifs <;> rfl
    by_cases jump : jumpedNear t = true
    · right
      have halted : haltOnJump t = haltForJump t := if_pos jump
      rw [halted]
      constructor
      · change clear t.precision = clear s.precision
        rw [same]
      · unfold pausing Source.since
        simp [rememberNear, haltForJump, resetPrecision, Source.brake]
    · left
      have calm : haltOnJump t = t := if_neg jump
      rw [calm]
      exact same
  · exact Or.inl rfl

theorem fineRange_le {error : ℚ} (range : isInFineRange error = true) : error ≤ 3 := by
  unfold isInFineRange at range
  rw [decide_eq_true_iff] at range
  exact range.1

/-- Entering a mode: MICRO and FINE keep the ladder, the others reset it, and FINE is entered in its range. -/
theorem entered_spec (s : Source) :
    ((entered s).control.mode = .micro ∨ (entered s).control.mode = .fine → (entered s).precision = s.precision) ∧
      ((entered s).precision = s.precision ∨ (entered s).precision = clear s.precision) ∧
      ((entered s).control.mode = .fine → (entered s).control.error ≤ 3) := by
  generalize held : ({ s with near := { s.near with wait := false } } : Source) = t
  have precision : t.precision = s.precision := by rw [← held]
  have whole : entered s = fallBack (enterMode (selectMode t) t) := by rw [← held]; rfl
  obtain ⟨control, _⟩ := enterMode_frame (selectMode t) t
  have fine : selectMode t = .fine → isInFineRange t.control.error = true := by
    unfold selectMode
    split_ifs with coarse hold range
    · exact (nomatch ·)
    · exact (nomatch ·)
    · exact fun _ => range
    · exact (nomatch ·)
  have stays : fallBack (enterMode (selectMode t) t) = enterMode (selectMode t) t := by
    apply fallBack_of_range
    rw [control]
    exact fine
  have kept : selectMode t = .micro ∨ selectMode t = .fine → (enterMode (selectMode t) t).precision = s.precision := by
    intro pulses
    unfold enterMode
    dsimp only
    rw [if_pos pulses, ← precision]
    split_ifs <;> rfl
  rw [whole, stays]
  refine ⟨?_, ?_, ?_⟩
  · rw [control]
    exact kept
  · by_cases pulses : selectMode t = .micro ∨ selectMode t = .fine
    · exact Or.inl (kept pulses)
    · right
      unfold enterMode
      dsimp only
      rw [if_neg pulses, ← precision]
      split_ifs <;> rfl
  · rw [control]
    exact fun mode => fineRange_le (fine mode)

theorem modeArgument_follows (kept : s.control.mode = .micro ∨ s.control.mode = .fine → s.precision = before)
    (either : s.precision = before ∨ s.precision = clear before)
    (close : s.control.mode = .fine → s.control.error ≤ 3) : Follows before (modeArgument s) (runMode s) := by
  unfold modeArgument runMode
  cases mode : s.control.mode with
  | micro =>
    rw [← kept (Or.inl mode)]
    apply paced_follows
    intro t precision control
    rw [← precision]
    exact microPulse_follows (by rw [control, mode])
  | fine =>
    rw [← kept (Or.inr mode)]
    apply paced_follows (s := { s with near := { s.near with forwardActive := false } })
    intro t precision control
    rw [← precision]
    apply finePulse_follows
    · rw [control]
      exact mode
    · rw [control]
      exact close mode
  | coarse =>
    dsimp only
    have same : (coarseMode s).precision = s.precision := by
      unfold coarseMode
      split_ifs <;> rfl
    exact either.elim (fun e => .kept (same.trans e)) (fun e => .cleared (same.trans e))
  | hold => exact either.elim (fun e => .kept e) (fun e => .cleared e)
  | stop => exact either.elim (fun e => .kept e) (fun e => .cleared e)
  | emergency => exact either.elim (fun e => .kept e) (fun e => .cleared e)

theorem regulate_follows (s : Source) : Follows s.precision (regulateArgument s) (regulate s) := by
  have whole : regulate s = if pausing (gated s) then (gated s).brake else runMode (entered (gated s)) := rfl
  unfold regulateArgument
  rw [whole]
  by_cases pause : pausing (gated s) = true
  · rw [if_pos pause, if_pos pause]
    rcases gated_precision s with same | ⟨cleared, _⟩
    · exact .kept same
    · exact .cleared cleared
  · rw [if_neg pause, if_neg pause]
    have same : (gated s).precision = s.precision := by
      rcases gated_precision s with same | ⟨_, pauses⟩
      · exact same
      · exact absurd pauses pause
    obtain ⟨kept, either, close⟩ := entered_spec (gated s)
    rw [same] at kept either
    exact modeArgument_follows kept either close

theorem processFrame_follows (s : Source) : Follows s.precision (processArgument s) (processFrame s) := by
  have whole : processFrame s = if 0 < (filtered s).1.glitch.cnt then
      { haltForJump (filtered s).1 with near := { (haltForJump (filtered s).1).near with forwardActive := false } }
    else regulate { (filtered s).1 with control := { (filtered s).1.control with current := (filtered s).2 } } := rfl
  unfold processArgument
  rw [whole]
  by_cases suspect : 0 < (filtered s).1.glitch.cnt
  · rw [if_pos suspect, if_pos suspect]
    exact .cleared rfl
  · rw [if_neg suspect, if_neg suspect]
    exact regulate_follows { (filtered s).1 with control := { (filtered s).1.control with current := (filtered s).2 } }

theorem update_follows (s : Source) : Follows s.precision (updateArgument s) (update s) := by
  unfold updateArgument update
  by_cases idle : ¬s.ready
  · rw [if_pos idle, if_pos idle]
    exact .kept rfl
  · rw [if_neg idle, if_neg idle]
    by_cases stale : 500 < Source.since s s.feedbackStamp
    · rw [if_pos stale, if_pos stale]
      exact .kept rfl
    · rw [if_neg stale, if_neg stale]
      by_cases early : (s.now - s.control.lastControlTime).toNat < s.control.intervalMs.toNat
      · rw [if_pos early, if_pos early]
        exact .kept rfl
      · rw [if_neg early, if_neg early]
        exact processFrame_follows s

/-- What a frame does to the ladder, and which decision a small step becomes. -/
theorem step_follows (f : Frame) (s : Source) :
    Follows s.precision (argument f s) (step f s).1 ∧
      ∀ u, argument f s = some u → (step f s).2 = readDecision (step f s).1 := by
  unfold argument step
  by_cases ignored : f.ignored s
  · rw [if_pos ignored, if_pos ignored]
    exact ⟨.kept rfl, fun _ => (nomatch ·)⟩
  · rw [if_neg ignored, if_neg ignored]
    dsimp only
    by_cases reached : (latchFrame f s).control.target ≤ f.measured
    · rw [if_pos reached, if_pos reached]
      exact ⟨.kept rfl, fun _ => (nomatch ·)⟩
    · rw [if_neg reached, if_neg reached]
      exact ⟨update_follows (latchFrame f s), fun _ _ => rfl⟩

/-! ### Runs -/

theorem tighten_escapes {target error lastRise : ℚ} {p : Precision} (escapes : Escapes p) :
    Escapes (tighten target error lastRise p) := by
  unfold tighten
  dsimp only
  by_cases tighter : p.tightestBand < precisionBand error
  · rw [if_pos tighter]
    by_cases keeps : highTarget target = true ∧ 1 ≤ lastRise ∧ lastRise ≤ 2
    · rw [if_pos keeps]
      exact ⟨fun _ => Or.inr (by dsimp only; omega), by simp⟩
    · rw [if_neg keeps]
      exact ⟨fun _ => Or.inr (by dsimp only; omega), by simp⟩
  · rw [if_neg tighter]
    exact escapes

theorem tighten_armed {target error lastRise : ℚ} {p : Precision} (armed : p.latched = true ∨ error ≤ 3) :
    (tighten target error lastRise p).latched = true ∨ 0 < (tighten target error lastRise p).tightestBand := by
  rw [tighten_latched]
  rcases armed with latched | close
  · exact Or.inl latched
  · right
    have band : precisionBand error = 3 := if_pos close
    unfold tighten
    dsimp only
    rw [band]
    by_cases tighter : p.tightestBand < 3
    · rw [if_pos tighter]
      split_ifs <;> exact Nat.succ_pos 2
    · rw [if_neg tighter]
      omega

theorem emitSmallStep_escapes {lastRise : ℚ} {u : Source} (armed : u.precision.latched = true ∨ u.control.error ≤ 3)
    (steps : min precisionEscapeMaxSteps (u.precision.noRiseCnt / 2 - 2) ≤ u.precision.escapeSteps) :
    Escapes (emitSmallStep lastRise u).source.precision := by
  have without_ : Escapes { u.precision with refPressure := -1 } := ⟨fun wrong => absurd wrong (by norm_num), steps⟩
  have tightened : min precisionEscapeMaxSteps ((tighten u.control.target u.control.error lastRise u.precision).noRiseCnt / 2 - 2) ≤
      (tighten u.control.target u.control.error lastRise u.precision).escapeSteps := by
    have moved := (@tighten_escapes u.control.target u.control.error lastRise _ without_).steps
    unfold tighten at moved ⊢
    dsimp only at moved ⊢
    split_ifs at moved ⊢ <;> exact moved
  exact ⟨fun _ => tighten_armed armed, tightened⟩

theorem precisionForward_escapes {before : Precision} {u : Source} (fits : PrecisionFits before) (escapes : Escapes before)
    (asked : Asked before u) : Escapes (precisionForward u).source.precision := by
  have fitting : PrecisionFits u.precision := by
    rw [asked.same]
    exact ⟨fits.level, fits.extra, fits.band, fits.noRise, fits.escape, fits.stall⟩
  have steps : min precisionEscapeMaxSteps (u.precision.noRiseCnt / 2 - 2) ≤ u.precision.escapeSteps := by
    rw [asked.same]
    exact escapes.steps
  have armed : 0 ≤ u.precision.refPressure → u.precision.latched = true ∨ 0 < u.precision.tightestBand := by
    intro answered
    have here : 0 ≤ before.refPressure := by
      rw [asked.same] at answered
      exact answered
    rcases escapes.armed here with latched | banded
    · exact Or.inl (asked.latch latched)
    · right
      rw [asked.same]
      exact banded
  unfold precisionForward
  dsimp only
  by_cases answered : 0 ≤ u.precision.refPressure
  · rw [if_pos answered]
    by_cases same : u.feedbackStamp = u.precision.fbStamp
    · rw [if_pos same]
      exact ⟨armed, steps⟩
    · rw [if_neg same]
      have response : min precisionEscapeMaxSteps
            ((precisionResponse u.control.target (u.control.current - u.precision.refPressure) u.precision).noRiseCnt / 2 - 2) ≤
          (precisionResponse u.control.target (u.control.current - u.precision.refPressure) u.precision).escapeSteps := by
        unfold precisionResponse
        by_cases flat : u.control.current - u.precision.refPressure < 1
        · rw [if_pos flat]
          exact stalledStep_steps _ _ fitting (armed answered) steps
        · rw [if_neg flat]
          split_ifs <;> simp [excessStep]
      have latched := precisionResponse_latched u.control.target (u.control.current - u.precision.refPressure) u.precision
      generalize precisionResponse u.control.target (u.control.current - u.precision.refPressure) u.precision = p
        at response latched
      by_cases pauses : precisionPauses u.control.error (u.control.current - u.precision.refPressure) = true
      · rw [if_pos pauses]
        exact ⟨fun wrong => absurd wrong (by simp [Source.brake]), response⟩
      · rw [if_neg pauses]
        have asked_ : p.latched = true ∨ u.control.error ≤ 3 := latched ▸ asked.armed
        exact @emitSmallStep_escapes _ { u with precision := p } asked_ response
  · rw [if_neg answered]
    exact emitSmallStep_escapes asked.armed steps

/-- Between two frames, the ladder keeps its bounds and its escape. -/
theorem step_escapes (f : Frame) {target : ℚ} (sound : Sound target s) (escapes : Escapes s.precision) :
    Escapes (step f s).1.precision := by
  have follows := (step_follows f s).1
  generalize argument f s = asks at follows
  generalize (step f s).1 = after at follows
  cases follows with
  | kept same =>
    rw [same]
    exact escapes
  | cleared same =>
    rw [same]
    exact ⟨fun wrong => absurd wrong (by simp [clear]), by simp [clear]⟩
  | called asked same _ =>
    rw [same]
    exact precisionForward_escapes sound.fits.precision escapes asked

theorem runFrames_escapes {target : ℚ} (positive : -1 < target) (now : U32) (s : Source) (frames : List Frame) :
    Escapes (runFrames target now s frames).precision := by
  have keeps : ∀ (frames : List Frame) (s : Source), Sound target s → Escapes s.precision →
      Escapes (frames.foldl (fun s f => (step f s).1) s).precision := by
    intro frames
    induction frames with
    | nil => exact fun _ _ escapes => escapes
    | cons f rest ih => exact fun s sound escapes => ih _ (step_settled f sound).1 (step_escapes f sound escapes)
  apply keeps frames _ (reset_sound positive now s)
  exact ⟨fun wrong => absurd wrong (by simp [reset, Source.initial, Precision.initial]), by simp [reset, Source.initial, Precision.initial]⟩

/-! ### Streaks -/

/-- The rise an answer is judged by, where the ladder is asked behind a small step and on a new frame. -/
def response (f : Frame) (s : Source) : Option ℚ :=
  (argument f s).bind fun u =>
    if 0 ≤ u.precision.refPressure ∧ u.feedbackStamp ≠ u.precision.fbStamp then
      some (u.control.current - u.precision.refPressure)
    else none

/-- An answer is evaluated, rises by less than 1 N and enters no tighter band. -/
def Flat (f : Frame) (s : Source) : Prop :=
  (∃ rise ∈ response f s, rise < 1) ∧ (step f s).1.precision.tightestBand = s.precision.tightestBand

structure Idle (f : Frame) (s : Source) : Prop where
  response : response f s = none
  level : (step f s).1.precision.level = s.precision.level
  extra : (step f s).1.precision.extraMs = s.precision.extraMs
  band : (step f s).1.precision.tightestBand = s.precision.tightestBand
  noRise : (step f s).1.precision.noRiseCnt = s.precision.noRiseCnt
  escape : (step f s).1.precision.escapeSteps = s.precision.escapeSteps
  stall : (step f s).1.precision.stallCnt = s.precision.stallCnt

/-- Frames in a row with so many flat answers, and idle frames between them. -/
inductive Streak (first : Source) : ℕ → Source → Prop
  | start : Streak first 0 first
  | idle {n : ℕ} {s : Source} (f : Frame) (streak : Streak first n s) (idle : Idle f s) : Streak first n (step f s).1
  | flat {n : ℕ} {s : Source} (f : Frame) (streak : Streak first n s) (flat : Flat f s) :
      Streak first (n + 1) (step f s).1

/-- A flat answer climbs, and the small step it gets is the ladder's own under its caps. -/
structure Answered (target : ℚ) (f : Frame) (s : Source) : Prop where
  climbed : Climbed s.precision (step f s).1.precision
  action : (step f s).2.action = .pulse
  command : (step f s).2.command =
    lround (min (stepVoltage target (step f s).1.control.error (step f s).1.precision.level)
      (voltageCap target (step f s).1.control.error (step f s).1.precision.tightestBand
        (step f s).1.precision.escapeSteps) * 1000)
  width : (step f s).2.normalMs =
    min (stepDuration target (step f s).1.control.error (step f s).1.precision.level (step f s).1.precision.extraMs)
      (durationCap target (step f s).1.control.error (step f s).1.precision.tightestBand
        (step f s).1.precision.escapeSteps)

theorem readDecision_putOut {u after : Source} {voltage : ℚ} {duration : ℕ} (put : PutOut u voltage duration after) :
    (readDecision after).action = .pulse ∧ (readDecision after).command = lround (voltage * 1000) ∧
      (readDecision after).normalMs = duration := by
  unfold readDecision
  dsimp only
  rw [if_neg (fun both => put.mode both.1), put.out]
  exact ⟨rfl, rfl, rfl⟩

theorem flat_answered {target : ℚ} (sound : Sound target s) (flat : Flat f s) : Answered target f s := by
  obtain ⟨⟨rise, answered, low⟩, band⟩ := flat
  have after_sound := (step_settled f sound).1
  obtain ⟨follows, reads⟩ := step_follows f s
  obtain ⟨u, asks, held⟩ := Option.bind_eq_some_iff.mp answered
  by_cases fresh : 0 ≤ u.precision.refPressure ∧ u.feedbackStamp ≠ u.precision.fbStamp
  · rw [if_pos fresh, Option.some.injEq] at held
    have decision := reads u asks
    rw [asks] at follows
    cases follows with
    | called asked same emitted =>
      have fitting : PrecisionFits u.precision := by
        rw [asked.same]
        have fits := sound.fits.precision
        exact ⟨fits.level, fits.extra, fits.band, fits.noRise, fits.escape, fits.stall⟩
      generalize answer : stalledStep u.control.target rise u.precision = p
      have climbed : Climbed u.precision p := by
        rw [← answer]
        exact stalledStep_climbed _ _ fitting
      have kept : p.tightestBand = u.precision.tightestBand := by
        rw [← answer]
        exact (stalledStep_cases _ _ _).band
      have emits : precisionForward u = emitSmallStep rise { u with precision := p } := by
        unfold precisionForward
        dsimp only
        have calm : precisionPauses u.control.error rise = false := by
          unfold precisionPauses
          rw [decide_eq_false_iff_not]
          rintro ⟨high, _⟩
          linarith
        rw [if_pos fresh.1, if_neg fresh.2, held, calm, if_neg (by simp)]
        unfold precisionResponse
        rw [if_pos low, answer]
      have open_ : tighten u.control.target u.control.error rise p = p := by
        unfold tighten
        dsimp only
        by_cases tighter : p.tightestBand < precisionBand u.control.error
        · exfalso
          have moved : (step f s).1.precision.tightestBand = precisionBand u.control.error := by
            rw [same, emits]
            unfold emitSmallStep tighten
            dsimp only
            rw [if_pos tighter]
            split_ifs <;> rfl
          rw [asked.same] at kept
          dsimp only at kept
          omega
        · rw [if_neg tighter]
      have ladder : (step f s).1.precision = { p with refPressure := u.control.current, fbStamp := u.feedbackStamp } := by
        rw [same, emits]
        unfold emitSmallStep
        dsimp only
        rw [open_]
      have drive : (precisionForward u).drive =
          some (min (stepVoltage u.control.target u.control.error p.level)
              (voltageCap u.control.target u.control.error p.tightestBand p.escapeSteps),
            min (stepDuration u.control.target u.control.error p.level p.extraMs)
              (durationCap u.control.target u.control.error p.tightestBand p.escapeSteps)) := by
        rw [emits]
        unfold emitSmallStep
        dsimp only
        rw [open_]
      have put := emitted _ _ drive
      obtain ⟨action, command, width⟩ := readDecision_putOut put
      have aimed : u.control.target = target := put.target.symm.trans after_sound.aimed
      constructor
      · rw [ladder]
        rw [asked.same] at climbed
        exact ⟨climbed.level, climbed.extra, climbed.escape, climbed.counts, climbed.height⟩
      · rw [decision]
        exact action
      · rw [decision, command, ladder, put.error, aimed]
      · rw [decision, width, ladder, put.error, aimed]
  · rw [if_neg fresh] at held
    contradiction

structure Risen (target : ℚ) (first : Source) (n : ℕ) (s : Source) : Prop where
  sound : Sound target s
  escapes : Escapes s.precision
  counts : min 250 n ≤ s.precision.noRiseCnt
  height : n ≤ 2 * (s.precision.level + s.precision.extraMs) + s.precision.stallCnt ∨
    s.precision.level = precisionMaxLevel ∧ s.precision.extraMs = 3

theorem Risen.flat {target : ℚ} {first : Source} {n : ℕ} (risen : Risen target first n s) (flat : Flat f s) :
    Risen target first (n + 1) (step f s).1 := by
  have climbed := (flat_answered risen.sound flat).climbed
  have sound := (step_settled f risen.sound).1
  have fits := sound.fits.precision
  refine ⟨sound, step_escapes f risen.sound risen.escapes, ?_, ?_⟩
  · have counts := risen.counts
    have counted := climbed.counts
    omega
  · rcases risen.height with height | ⟨level, extra⟩
    · rcases climbed.height with higher | top
      · exact Or.inl (by omega)
      · exact Or.inr top
    · right
      have level_ := climbed.level
      have extra_ := climbed.extra
      have most := fits.level
      have wide := fits.extra
      omega

theorem streak_risen {target : ℚ} {first : Source} {n : ℕ} (sound : Sound target first)
    (escapes : Escapes first.precision) (streak : Streak first n s) : Risen target first n s := by
  induction streak with
  | start => exact ⟨sound, escapes, by simp, Or.inl (Nat.zero_le _)⟩
  | idle f streak idle ih =>
    refine ⟨(step_settled f ih.sound).1, step_escapes f ih.sound ih.escapes, ?_, ?_⟩
    · rw [idle.noRise]
      exact ih.counts
    · rw [idle.level, idle.extra, idle.stall]
      exact ih.height
  | flat f streak flat ih => exact ih.flat flat

/-- The ladder reaches its top in seventy flat answers, from whatever frames have left it, and takes nothing back on
the way; from the seventieth on, the small step is the caps' alone. -/
theorem ladder_tops_out (target : ℚ) (low : 1 ≤ target) (now : U32) (s : Source) (frames : List Frame) {n : ℕ}
    {t : Source} (streak : Streak (runFrames target now s frames) n t) {f : Frame} (flat : Flat f t) :
    (t.precision.level ≤ (step f t).1.precision.level ∧ t.precision.extraMs ≤ (step f t).1.precision.extraMs ∧
        t.precision.escapeSteps ≤ (step f t).1.precision.escapeSteps) ∧
      (70 ≤ n + 1 → (step f t).1.precision.level = 32 ∧ (step f t).1.precision.extraMs = 3 ∧
        (step f t).1.precision.escapeSteps = 26 ∧ (step f t).2.action = .pulse ∧
        (step f t).2.command = lround (voltageCap target (step f t).1.control.error
          (step f t).1.precision.tightestBand 26 * 1000) ∧
        (step f t).2.normalMs = durationCap target (step f t).1.control.error
          (step f t).1.precision.tightestBand 26) := by
  have positive : -1 < target := by linarith
  have risen := streak_risen (runFrames_sound positive now s frames) (runFrames_escapes positive now s frames) streak
  have answered := flat_answered risen.sound flat
  refine ⟨⟨answered.climbed.level, answered.climbed.extra, answered.climbed.escape⟩, ?_⟩
  intro long
  have next := risen.flat flat
  have fits := next.sound.fits.precision
  have levelMax : precisionMaxLevel = 32 := rfl
  have escapeMax : precisionEscapeMaxSteps = 26 := rfl
  have top : (step f t).1.precision.level = 32 ∧ (step f t).1.precision.extraMs = 3 := by
    rcases next.height with height | top
    · have most := fits.level
      have wide := fits.extra
      have stall := fits.stall
      omega
    · exact top
  have escaped : (step f t).1.precision.escapeSteps = 26 := by
    have steps := next.escapes.steps
    have counts := next.counts
    have most := fits.escape
    omega
  refine ⟨top.1, top.2, escaped, answered.action, ?_, ?_⟩
  · have capped := voltageCap_le_top target (step f t).1.control.error (step f t).1.precision.tightestBand 26
    rw [levelMax] at capped
    rw [answered.command, top.1, escaped, min_eq_right capped]
  · rw [answered.width, top.1, top.2, escaped]
    exact min_eq_right (durationCap_le_top _ _ _ _)

instance (f : Frame) (s : Source) : Decidable (Flat f s) :=
  decidable_of_iff (((response f s).any fun rise => decide (rise < 1)) = true ∧
    (step f s).1.precision.tightestBand = s.precision.tightestBand) (by simp [Flat, Option.any_eq_true])

def AllFlat : Source → List Frame → Prop
  | _, [] => True
  | s, f :: frames => Flat f s ∧ AllFlat (step f s).1 frames

instance decidableAllFlat : (s : Source) → (frames : List Frame) → Decidable (AllFlat s frames)
  | _, [] => isTrue trivial
  | s, f :: frames => @instDecidableAnd _ _ inferInstance (decidableAllFlat (step f s).1 frames)

theorem streak_flat {first : Source} {n : ℕ} {frames : List Frame} (streak : Streak first n s)
    (all : AllFlat s frames) : Streak first (n + frames.length) (frames.foldl (fun s f => (step f s).1) s) := by
  induction frames generalizing n s with
  | nil => exact streak
  | cons f frames ih =>
    have next := ih (Streak.flat f streak all.1) all.2
    rw [List.length_cons, Nat.add_comm frames.length, ← Nat.add_assoc]
    exact next

def still (k : ℕ) : Frame := ⟨70, BitVec.ofNat 64 k, BitVec.ofNat 32 (10 * k), BitVec.ofNat 32 (10 * k), false, 0⟩

def settled : Source := runFrames 100 0 Source.initial [still 1]

def flats : List Frame := (List.range' 2 69).map still

def stuck : Source := flats.foldl (fun s f => (step f s).1) settled

theorem stuck_streak : Streak settled 69 stuck := by
  have all : AllFlat settled flats := by decide +kernel
  have streak := streak_flat Streak.start all
  unfold flats at streak
  rw [List.length_map, List.length_range', Nat.zero_add] at streak
  exact streak

theorem ladder_tops_out_still :
    (stuck.precision.level ≤ (step (still 71) stuck).1.precision.level ∧
        stuck.precision.extraMs ≤ (step (still 71) stuck).1.precision.extraMs ∧
        stuck.precision.escapeSteps ≤ (step (still 71) stuck).1.precision.escapeSteps) ∧
      (70 ≤ 69 + 1 → (step (still 71) stuck).1.precision.level = 32 ∧
        (step (still 71) stuck).1.precision.extraMs = 3 ∧ (step (still 71) stuck).1.precision.escapeSteps = 26 ∧
        (step (still 71) stuck).2.action = .pulse ∧
        (step (still 71) stuck).2.command = lround (voltageCap 100 (step (still 71) stuck).1.control.error
          (step (still 71) stuck).1.precision.tightestBand 26 * 1000) ∧
        (step (still 71) stuck).2.normalMs = durationCap 100 (step (still 71) stuck).1.control.error
          (step (still 71) stuck).1.precision.tightestBand 26) := by
  have flat : Flat (still 71) stuck := by decide +kernel
  exact ladder_tops_out 100 (by norm_num) 0 Source.initial [still 1] stuck_streak flat

end Sd700.Pressure.Ladder
