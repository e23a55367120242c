import Sd700.Build.Segment
import Mathlib.Tactic.Linarith
import Mathlib.Tactic.NormNum
import Mathlib.Tactic.SplitIfs
import Mathlib.Algebra.Order.Field.Rat

/-! The source controller stays inside the motor executor's envelope. The counters of the adaptive
ladder are bounded by their own guards, every voltage is positive, and the two sets of caps, which
the code states independently, agree in every band. -/

namespace Sd700.Pressure.Envelope
open Build.Contract Build.Segment State Adapt Update

/-! ### Caps of the small-step ladder -/

theorem stepVoltage_ge (target error : ℚ) (level : Nat) : 2 ≤ stepVoltage target error level := by
  have grows : (0 : ℚ) ≤ 1 / 4 * level := by positivity
  simp only [stepVoltage]
  split_ifs <;> linarith

theorem voltageMax_le (target error : ℚ) :
    voltageMax target error ≤ if target ≤ 200 then 11 / 2 else if target < 800 then 7 else 12 := by
  simp only [voltageMax, lowTarget, highTarget, veryHighTarget, decide_eq_true_eq]
  split_ifs <;> first | linarith | norm_num

theorem voltageMax_ge (target error : ℚ) : 11 / 2 ≤ voltageMax target error := by
  simp only [voltageMax, lowTarget, highTarget, veryHighTarget, decide_eq_true_eq]
  split_ifs <;> norm_num

theorem voltageCap_le (target error : ℚ) (band escape : Nat) :
    voltageCap target error band escape ≤
      if target ≤ 200 then 11 / 2 else if target < 800 then 7 else 12 :=
  (min_le_right _ _).trans (voltageMax_le target error)

theorem voltageCap_ge (target error : ℚ) (band escape : Nat) :
    4 ≤ voltageCap target error band escape := by
  have grows : (0 : ℚ) ≤ 1 / 4 * escape := by positivity
  have ceiling := voltageMax_ge target error
  simp only [voltageCap]
  refine le_min ?_ (by linarith)
  have based : (4 : ℚ) ≤ if veryHighTarget target ∧ band = 2 then 11 / 2 else if veryHighTarget target ∧ 3 ≤ band then 5
      else if band = 0 then 11 / 2 else if band = 1 then 5 else if band = 2 then 9 / 2 else 4 := by
    split_ifs <;> norm_num
  generalize (if veryHighTarget target ∧ band = 2 then (11 / 2 : ℚ) else if veryHighTarget target ∧ 3 ≤ band then 5
    else if band = 0 then 11 / 2 else if band = 1 then 5 else if band = 2 then 9 / 2 else 4) = base at based ⊢
  split <;> linarith

theorem stepDuration_ge (target error : ℚ) (level extraMs : Nat) :
    2 ≤ stepDuration target error level extraMs := by
  simp only [stepDuration]
  split_ifs <;> omega

theorem durationMax_le (target error : ℚ) :
    durationMax target error ≤ if target ≤ 200 then 4 else if target < 800 then 8 else 14 := by
  simp only [durationMax, lowTarget, highTarget, veryHighTarget, heavyBandTarget,
    decide_eq_true_eq]
  split_ifs <;> first | omega | (exfalso; linarith)

theorem durationMax_ge (target error : ℚ) : 4 ≤ durationMax target error := by
  simp only [durationMax]
  split_ifs <;> omega

theorem durationCap_le (target error : ℚ) (band escape : Nat) :
    durationCap target error band escape ≤
      if target ≤ 200 then 4 else if target < 800 then 8 else 14 :=
  (min_le_right _ _).trans (durationMax_le target error)

theorem durationCap_ge (target error : ℚ) (band escape : Nat) :
    2 ≤ durationCap target error band escape := by
  have widest := durationMax_ge target error
  simp only [durationCap, unlockedDuration]
  refine le_min ?_ (by omega)
  split_ifs <;> omega

/-! ### Counters -/

/-- Bounds of the boost shared by MICRO and FINE; `stallCnt` never rests at 2. -/
structure PulseFits (p : Pulse) : Prop where
  boost_nonneg : 0 ≤ p.boost
  forward_ge : pulseDurationMs ≤ p.forwardMs
  forward_le : p.forwardMs ≤ microForwardMaxMs
  stall : p.stallCnt ≤ 1

structure PrecisionFits (p : Precision) : Prop where
  level : p.level ≤ precisionMaxLevel
  extra : p.extraMs ≤ 3
  band : p.tightestBand ≤ 3
  noRise : p.noRiseCnt ≤ 250
  escape : p.escapeSteps ≤ precisionEscapeMaxSteps
  stall : p.stallCnt ≤ 1

/-- Every 8-bit counter of the controller is far from its wrap. -/
structure Fits (s : Source) : Prop where
  pulse : PulseFits s.pulse
  precision : PrecisionFits s.precision
  near : s.near.stallLevel ≤ nearStallMaxLevel
  glitch : s.glitch.cnt ≤ 2
  reverse : s.reverse.stallCnt ≤ 1
  low : s.low.settleFrames ≤ 2

theorem Fits.same {s s' : Source} (fits : Fits s) (pulse : s'.pulse = s.pulse)
    (precision : s'.precision = s.precision) (near : s'.near.stallLevel = s.near.stallLevel)
    (glitch : s'.glitch = s.glitch) (reverse : s'.reverse = s.reverse) (low : s'.low = s.low) :
    Fits s' :=
  ⟨pulse ▸ fits.pulse, precision ▸ fits.precision, near ▸ fits.near, glitch ▸ fits.glitch,
    reverse ▸ fits.reverse, low ▸ fits.low⟩

theorem u8_of_lt {n : Nat} (small : n < 256) : u8 n = n :=
  Nat.mod_eq_of_lt small

theorem raiseBoost_fits {step boostMax : ℚ} (allowLonger : Bool) {p : Pulse}
    (positive : 0 ≤ p.boost) (lower : pulseDurationMs ≤ p.forwardMs)
    (upper : p.forwardMs ≤ microForwardMaxMs) (up : 0 ≤ step) (room : 0 ≤ boostMax) :
    PulseFits (raiseBoost step boostMax allowLonger p) where
  boost_nonneg := le_min (add_nonneg positive up) room
  forward_ge := by
    simp only [raiseBoost]
    split_ifs <;> omega
  forward_le := by
    simp only [raiseBoost]
    split_ifs <;> omega
  stall := by simp [raiseBoost]

theorem fastResponse_fits (rise : ℚ) {boostMax : ℚ} (allowLonger : Bool) {p : Pulse}
    (fits : PulseFits p) (room : 0 ≤ boostMax) :
    PulseFits (fastResponse rise boostMax allowLonger p) := by
  obtain ⟨positive, lower, upper, stall⟩ := fits
  have counted : u8 (p.stallCnt + 1) = p.stallCnt + 1 := u8_of_lt (by omega)
  simp only [fastResponse, counted]
  split_ifs with slow twice large above
  · exact raiseBoost_fits allowLonger positive lower upper (by norm_num) room
  · exact ⟨positive, lower, upper, by simp only; omega⟩
  · exact ⟨le_max_right _ _, by simp only; omega, by simp only; omega, by simp⟩
  · exact ⟨le_max_right _ _, lower, upper, by simp⟩
  · exact ⟨positive, lower, upper, by simp⟩

theorem slowResponse_fits (rise : ℚ) {boostMax : ℚ} (allowLonger : Bool) {near : Near} {p : Pulse}
    (fits : PulseFits p) (level : near.stallLevel ≤ nearStallMaxLevel) (room : 0 ≤ boostMax) :
    PulseFits (slowResponse rise boostMax allowLonger near p).1 ∧
      (slowResponse rise boostMax allowLonger near p).2.stallLevel ≤ nearStallMaxLevel := by
  obtain ⟨positive, lower, upper, stall⟩ := fits
  have counted : u8 (p.stallCnt + 1) = p.stallCnt + 1 := u8_of_lt (by omega)
  have levelMax : nearStallMaxLevel = 4 := rfl
  have raised : u8 (near.stallLevel + 1) = near.stallLevel + 1 := u8_of_lt (by omega)
  simp only [slowResponse, counted, raised]
  have shortest : pulseDurationMs ≤ microForwardMaxMs := by decide
  generalize (near.forwardActive && p.lastPositive) = nearForward
  split_ifs
  all_goals first
    | exact ⟨raiseBoost_fits allowLonger positive lower upper (by norm_num) room, by simp only; omega⟩
    | exact ⟨⟨positive, lower, upper, by simp only; omega⟩, by simp only; omega⟩
    | exact ⟨⟨le_max_right _ _, lower, upper, by simp⟩, by simp only; omega⟩
    | exact ⟨⟨by simp, le_refl _, shortest, by simp⟩, level⟩

theorem pulseBoost_fits (current : ℚ) {boostMax : ℚ} (fastForward allowLonger : Bool) {s : Source}
    (fits : Fits s) (room : 0 ≤ boostMax) :
    Fits (pulseBoost current boostMax fastForward allowLonger s) := by
  have clamped : PulseFits { s.pulse with
      boost := min s.pulse.boost boostMax
      forwardMs := if allowLonger then s.pulse.forwardMs else pulseDurationMs } :=
    ⟨le_min fits.pulse.boost_nonneg room,
      by simp only; split_ifs; exacts [fits.pulse.forward_ge, le_refl _],
      by simp only; split_ifs; exacts [fits.pulse.forward_le, by decide], fits.pulse.stall⟩
  have answered : ∀ response : Pulse × Near,
      PulseFits response.1 ∧ response.2.stallLevel ≤ nearStallMaxLevel →
      Fits { s with pulse := { response.1 with refPressure := current }, near := response.2 } := by
    rintro ⟨p, near⟩ ⟨⟨positive, lower, upper, stall⟩, level⟩
    exact ⟨⟨positive, lower, upper, stall⟩, fits.precision, level, fits.glitch, fits.reverse, fits.low⟩
  apply answered
  dsimp only
  split
  · split
    · exact ⟨fastResponse_fits _ allowLonger clamped room, fits.near⟩
    · exact slowResponse_fits _ allowLonger clamped fits.near room
  · exact ⟨clamped, fits.near⟩

theorem stalledStep_fits (target rise : ℚ) {p : Precision} (fits : PrecisionFits p) :
    PrecisionFits (stalledStep target rise p) := by
  obtain ⟨level, extra, band, noRise, escape, stall⟩ := fits
  unfold stalledStep
  dsimp only
  have few : (if rise ≤ -3 then 2 else 1) ≤ 2 := by split <;> decide
  generalize (if rise ≤ -3 then 2 else 1) = noRiseStep at few ⊢
  have counted : (if p.noRiseCnt ≤ 250 - noRiseStep then u8 (p.noRiseCnt + noRiseStep) else 250) ≤ 250 := by
    simp only [u8]
    split <;> omega
  generalize (if p.noRiseCnt ≤ 250 - noRiseStep then u8 (p.noRiseCnt + noRiseStep) else 250) = count at counted ⊢
  have escaped : (if (p.latched ∨ 0 < p.tightestBand) ∧ 6 ≤ count ∧ p.noRiseCnt / 2 < count / 2 ∧
      p.escapeSteps < precisionEscapeMaxSteps then u8 (p.escapeSteps + 1) else p.escapeSteps) ≤
        precisionEscapeMaxSteps := by
    split
    · rename_i climbs
      exact (Nat.mod_le _ _).trans climbs.2.2.2
    · exact escape
  split
  · split
    · exact ⟨min_le_right _ _, extra, band, counted, escaped, Nat.zero_le _⟩
    split
    · rename_i more
      exact ⟨level, (Nat.mod_le _ _).trans more, band, counted, escaped, Nat.zero_le _⟩
    · exact ⟨level, extra, band, counted, escaped, Nat.zero_le _⟩
  · rename_i rests
    exact ⟨level, extra, band, counted, escaped, Nat.lt_succ_iff.mp (not_le.mp rests)⟩

theorem excessStep_fits (rise : ℚ) {p : Precision} (fits : PrecisionFits p) :
    PrecisionFits (excessStep rise p) := by
  obtain ⟨level, extra, band, noRise, escape, stall⟩ := fits
  exact ⟨(Nat.sub_le _ _).trans level, (Nat.sub_le _ _).trans extra, band, Nat.zero_le _,
    (Nat.sub_le _ _).trans escape, Nat.zero_le _⟩

theorem precisionResponse_fits (target rise : ℚ) {p : Precision} (fits : PrecisionFits p) :
    PrecisionFits (precisionResponse target rise p) := by
  simp only [precisionResponse]
  split_ifs
  · exact stalledStep_fits target rise fits
  · exact ⟨fits.level, fits.extra, fits.band, Nat.zero_le _, fits.escape, Nat.zero_le _⟩
  · exact excessStep_fits rise fits

theorem precisionBand_le (error : ℚ) : precisionBand error ≤ 3 := by
  simp only [precisionBand]
  split_ifs <;> omega

theorem tighten_fits (target error lastRise : ℚ) {p : Precision} (fits : PrecisionFits p) :
    PrecisionFits (tighten target error lastRise p) := by
  obtain ⟨level, extra, band, noRise, escape, stall⟩ := fits
  have widest := precisionBand_le error
  simp only [tighten]
  split_ifs
  · exact ⟨level, extra, widest, Nat.zero_le _, escape, Nat.zero_le _⟩
  all_goals first
    | exact ⟨(min_le_left _ _).trans level, Nat.zero_le _, widest, Nat.zero_le _, Nat.zero_le _,
        Nat.zero_le _⟩
    | exact ⟨level, extra, band, noRise, escape, stall⟩

/-! ### Emitted drives -/

/-- The command ceiling of a drive, in volts, as `MotorExecutor_StartBuildSegment` selects it. -/
def driveCap (target error : ℚ) (precise : Bool) : ℚ :=
  if precise then (if target ≤ 200 then 11 / 2 else if target < 800 then 7 else 12)
  else if error ≤ 50 then (if target ≤ 200 then 5 else 7) else 10

def driveWidth (target error : ℚ) (precise : Bool) : Nat :=
  if precise then (if target ≤ 200 then 4 else if target < 800 then 8 else 14)
  else if error ≤ 50 then (if target ≤ 200 then 4 else 8) else 12

structure DriveFits (target error : ℚ) (precise : Bool) (voltage : ℚ) (duration : Nat) : Prop where
  voltage_ge : 4 / 5 ≤ voltage
  voltage_le : voltage ≤ driveCap target error precise
  duration_ge : 2 ≤ duration
  duration_le : duration ≤ driveWidth target error precise

def precise (s : Source) : Bool :=
  s.precision.latched || s.control.mode == .fine

structure Quiet (s : Source) : Prop where
  action : s.out.action = .wait ∨ s.out.action = .brake
  command : s.out.command = 0
  normal : s.out.normalMs = 0

structure Emits (s : Source) : Prop where
  action : s.out.action ≠ .approach
  pulse : s.out.action = .pulse → (s.control.mode = .micro ∨ s.control.mode = .fine) ∧
    ∃ voltage, s.out.command = lround (voltage * 1000) ∧
      DriveFits s.control.target s.control.error (precise s) voltage s.out.normalMs
  approach : s.control.mode = .coarse → s.out.command = 5000 →
    s.precision.latched = false ∧ s.out.normalMs = 0

theorem Quiet.emits {s : Source} (quiet : Quiet s) : Emits s where
  action := by rcases quiet.action with h | h <;> simp [h]
  pulse := by rcases quiet.action with h | h <;> simp [h]
  approach := by simp [quiet.command]

/-- The invariant between frames: counters in range, the small-step latch only after contact, and
every accepted value below the target. -/
structure Sound (target : ℚ) (s : Source) : Prop where
  fits : Fits s
  aimed : s.control.target = target
  touched : s.precision.latched = true → s.hasContacted = true
  below : s.glitch.lastValid < target

structure Driving (target : ℚ) (s : Source) : Prop extends Sound target s where
  quiet : Quiet s
  positive : 0 < s.control.error
  contact : 3 < s.control.error → s.control.mode ≠ .coarse → s.hasContacted = true

theorem launchPulse_fits {voltage : ℚ} {duration : Nat} {s : Source} (fits : Fits s) :
    Fits (launchPulse true voltage duration s) where
  pulse := ⟨fits.pulse.boost_nonneg, fits.pulse.forward_ge, fits.pulse.forward_le, fits.pulse.stall⟩
  precision := fits.precision
  near := fits.near
  glitch := fits.glitch
  reverse := Nat.zero_le _
  low := Nat.zero_le _

/-- A forward pulse whose drive fits leaves a fitting decision behind. -/
theorem launchPulse_sound {target voltage : ℚ} {duration : Nat} {s : Source}
    (sound : Sound target s) (mode : s.control.mode = .micro ∨ s.control.mode = .fine)
    (drive : DriveFits target s.control.error (precise s) voltage duration) :
    Sound target (launchPulse true voltage duration s) ∧
      Emits (launchPulse true voltage duration s) := by
  refine ⟨⟨launchPulse_fits sound.fits, sound.aimed, sound.touched, sound.below⟩, ?_, ?_, ?_⟩
  · simp [launchPulse, Source.startPulseTimer]
  · intro _
    refine ⟨mode, voltage, rfl, ?_⟩
    rw [show (launchPulse true voltage duration s).control.target = target from sound.aimed]
    exact drive
  · intro coarse
    have kept : (launchPulse true voltage duration s).control.mode = s.control.mode := rfl
    rw [kept] at coarse
    rcases mode with h | h <;> simp [h] at coarse

theorem clearPulseBoost_fits {s : Source} (fits : Fits s) : Fits (clearPulseBoost s) :=
  ⟨⟨le_refl _, fits.pulse.forward_ge, fits.pulse.forward_le, Nat.zero_le _⟩, fits.precision,
    fits.near, fits.glitch, fits.reverse, fits.low⟩

theorem resetPrecision_fits {s : Source} (fits : Fits s) : Fits (resetPrecision s) :=
  ⟨fits.pulse, ⟨Nat.zero_le _, Nat.zero_le _, fits.precision.band, Nat.zero_le _, Nat.zero_le _,
    Nat.zero_le _⟩, fits.near, fits.glitch, fits.reverse, fits.low⟩

/-! ### Small steps -/

/-- What a small step hands back: no drive and a quiet output, or a drive under the caps. -/
def StepFits (s : Source) (step : SmallStep) : Prop :=
  Fits step.source ∧ step.source.control = s.control ∧
    step.source.precision.latched = s.precision.latched ∧
    step.source.hasContacted = s.hasContacted ∧ step.source.glitch = s.glitch ∧
    match step.drive with
    | none => Quiet step.source
    | some drive => DriveFits s.control.target s.control.error true drive.1 drive.2

theorem precisionResponse_latched (target rise : ℚ) (p : Precision) :
    (precisionResponse target rise p).latched = p.latched := by
  simp only [precisionResponse, stalledStep, excessStep]
  split_ifs <;> rfl

theorem tighten_latched (target error lastRise : ℚ) (p : Precision) :
    (tighten target error lastRise p).latched = p.latched := by
  simp only [tighten]
  split_ifs <;> rfl

theorem emitSmallStep_fits (lastRise : ℚ) {s : Source} (fits : Fits s) :
    StepFits s (emitSmallStep lastRise s) := by
  have ladder := tighten_fits s.control.target s.control.error lastRise fits.precision
  refine ⟨⟨fits.pulse, ⟨ladder.level, ladder.extra, ladder.band, ladder.noRise, ladder.escape,
    ladder.stall⟩, fits.near, fits.glitch, fits.reverse, fits.low⟩, rfl,
    tighten_latched _ _ _ _, rfl, rfl, ?_⟩
  refine ⟨le_min ?_ ?_, ?_, le_min (stepDuration_ge ..) (durationCap_ge ..), ?_⟩
  · linarith [stepVoltage_ge s.control.target s.control.error
      (tighten s.control.target s.control.error lastRise s.precision).level]
  · linarith [voltageCap_ge s.control.target s.control.error
      (tighten s.control.target s.control.error lastRise s.precision).tightestBand
      (tighten s.control.target s.control.error lastRise s.precision).escapeSteps]
  · exact (min_le_right _ _).trans (voltageCap_le ..)
  · exact (min_le_right _ _).trans (durationCap_le ..)

theorem precisionForward_fits {s : Source} (fits : Fits s) (quiet : Quiet s) :
    StepFits s (precisionForward s) := by
  simp only [precisionForward]
  split_ifs with answered same pause
  · exact ⟨fits, rfl, rfl, rfl, rfl, quiet⟩
  · refine ⟨⟨fits.pulse, ?_, fits.near, fits.glitch, fits.reverse, fits.low⟩, rfl, ?_, rfl, rfl,
      .inr rfl, rfl, quiet.normal⟩
    · have ladder := precisionResponse_fits s.control.target
        (s.control.current - s.precision.refPressure) fits.precision
      exact ⟨ladder.level, ladder.extra, ladder.band, ladder.noRise, ladder.escape, ladder.stall⟩
    · exact precisionResponse_latched ..
  · have ladder := precisionResponse_fits s.control.target
      (s.control.current - s.precision.refPressure) fits.precision
    have answered : Fits { s with
        precision := precisionResponse s.control.target
          (s.control.current - s.precision.refPressure) s.precision } :=
      ⟨fits.pulse, ladder, fits.near, fits.glitch, fits.reverse, fits.low⟩
    obtain ⟨kept, control, latched, rest⟩ :=
      emitSmallStep_fits (s.control.current - s.precision.refPressure) answered
    exact ⟨kept, control, latched.trans (precisionResponse_latched ..), rest⟩
  · exact emitSmallStep_fits (-1) fits

/-! ### Modes -/

def Settled (target : ℚ) (s : Source) : Prop :=
  Sound target s ∧ Emits s

theorem microPrecision_settled {target : ℚ} {s : Source} (driving : Driving target s)
    (mode : s.control.mode = .micro) (far : 3 < s.control.error) :
    Settled target (microPrecision s) := by
  have touched := driving.contact far (by simp [mode])
  have latched : Fits { s with precision := { s.precision with latched := true } } :=
    ⟨driving.fits.pulse, ⟨driving.fits.precision.level, driving.fits.precision.extra,
      driving.fits.precision.band, driving.fits.precision.noRise, driving.fits.precision.escape,
      driving.fits.precision.stall⟩, driving.fits.near, driving.fits.glitch, driving.fits.reverse,
      driving.fits.low⟩
  obtain ⟨fits, control, kept, contacted, glitch, outcome⟩ :=
    precisionForward_fits latched ⟨driving.quiet.action, driving.quiet.command, driving.quiet.normal⟩
  simp only [microPrecision]
  revert fits control kept contacted glitch outcome
  generalize precisionForward { s with precision := { s.precision with latched := true } } = step
  intro fits control kept contacted glitch outcome
  have sound : Sound target step.source :=
    ⟨fits, by rw [control]; exact driving.aimed, fun _ => by rw [contacted]; exact touched,
      by rw [glitch]; exact driving.below⟩
  obtain ⟨source, drive⟩ := step
  cases drive with
  | none => exact ⟨sound, Quiet.emits outcome⟩
  | some drive =>
    obtain ⟨voltage, duration⟩ := drive
    simp only at fits control kept contacted glitch outcome sound ⊢
    have cleared : Sound target (clearPulseBoost { source with
        near := { source.near with forwardActive := false, stallLevel := 0 } }) :=
      ⟨clearPulseBoost_fits ⟨fits.pulse, fits.precision, Nat.zero_le _, fits.glitch, fits.reverse,
        fits.low⟩, sound.aimed, sound.touched, sound.below⟩
    refine launchPulse_sound cleared (.inl ?_) ?_
    · change source.control.mode = .micro
      rw [control, mode]
    · have exact_ : precise (clearPulseBoost { source with
          near := { source.near with forwardActive := false, stallLevel := 0 } }) = true := by
        simp only [precise, clearPulseBoost, kept, Bool.true_or]
      rw [exact_]
      change DriveFits target source.control.error true voltage duration
      rw [control, ← driving.aimed]
      exact outcome

theorem microVoltage_bounds {errorAbs : ℚ} : 4 / 5 ≤ microVoltage errorAbs ∧ microVoltage errorAbs ≤ 3 := by
  have low : (0 : ℚ) ≤ max (min ((errorAbs - 3) / 47) 1) 0 := le_max_right _ _
  have high : max (min ((errorAbs - 3) / 47) 1) 0 ≤ (1 : ℚ) :=
    max_le (min_le_right _ _) (by norm_num)
  simp only [microVoltage]
  constructor <;> linarith

theorem enterNear_fits (nearForward : Bool) {s : Source} (fits : Fits s) :
    Fits (enterNear nearForward s) := by
  have shortest : pulseDurationMs ≤ microForwardMaxMs := by decide
  simp only [enterNear]
  split_ifs
  · exact ⟨⟨fits.pulse.boost_nonneg, le_refl _, shortest, Nat.zero_le _⟩, fits.precision,
      Nat.zero_le _, fits.glitch, fits.reverse, fits.low⟩
  · exact ⟨fits.pulse, fits.precision, fits.near, fits.glitch, fits.reverse, fits.low⟩

theorem pulseBoost_frame (current boostMax : ℚ) (fastForward allowLonger : Bool) (s : Source) :
    (pulseBoost current boostMax fastForward allowLonger s).control = s.control ∧
      (pulseBoost current boostMax fastForward allowLonger s).precision = s.precision ∧
      (pulseBoost current boostMax fastForward allowLonger s).hasContacted = s.hasContacted ∧
      (pulseBoost current boostMax fastForward allowLonger s).glitch = s.glitch :=
  ⟨rfl, rfl, rfl, rfl⟩

theorem enterNear_frame (nearForward : Bool) (s : Source) :
    (enterNear nearForward s).control = s.control ∧
      (enterNear nearForward s).precision = s.precision ∧
      (enterNear nearForward s).hasContacted = s.hasContacted ∧
      (enterNear nearForward s).glitch = s.glitch := by
  simp only [enterNear]
  split_ifs <;> exact ⟨rfl, rfl, rfl, rfl⟩

theorem nearLimit_le (low : Bool) {level : Nat} (small : level ≤ 4) :
    3 ≤ nearLimit low level ∧ nearLimit low level ≤ if low then 5 else 7 := by
  have upper : (level : ℚ) ≤ 4 := by exact_mod_cast small
  have lower : (0 : ℚ) ≤ level := Nat.cast_nonneg _
  simp only [nearLimit]
  constructor <;> split_ifs <;> linarith

/-- The deceleration zone's pulse: at most 5 V and 4 ms for a low target, else 7 V and 8 ms. -/
theorem nearPulse_fits {baseV errorAbs : ℚ} {s : Source} (fits : Fits s) (base : 4 / 5 ≤ baseV)
    (close : s.control.error ≤ 50) :
    Fits (nearPulse baseV errorAbs s).1 ∧
      DriveFits s.control.target s.control.error false (nearPulse baseV errorAbs s).2.1
        (nearPulse baseV errorAbs s).2.2 := by
  have level := fits.near
  have levelMax : nearStallMaxLevel = 4 := rfl
  have boost := fits.pulse.boost_nonneg
  simp only [nearPulse]
  generalize kept : (if errorAbs ≤ 20 ∧ 2 < s.near.stallLevel then 2 else s.near.stallLevel) = rung
  have rungMax : rung ≤ 4 := by
    rw [← kept]
    split_ifs <;> omega
  obtain ⟨limitLow, limitHigh⟩ := nearLimit_le (lowTarget s.control.target) rungMax
  revert limitLow limitHigh
  generalize nearLimit (lowTarget s.control.target) rung = limit
  intro limitLow limitHigh
  refine ⟨⟨⟨?_, fits.pulse.forward_ge, fits.pulse.forward_le, fits.pulse.stall⟩, fits.precision,
    by simp only; omega, fits.glitch, fits.reverse, fits.low⟩, ?_, ?_, ?_, ?_⟩
  · simp only
    split_ifs
    · exact le_min boost (le_max_right _ _)
    · exact boost
  · exact le_min (by linarith) (by linarith)
  · refine (min_le_right _ _).trans (limitHigh.trans (le_of_eq ?_))
    simp only [driveCap, close, lowTarget, decide_eq_true_eq, Bool.false_eq_true, if_false, if_true]
  · split_ifs <;> omega
  · simp only [driveWidth, close, lowTarget, decide_eq_true_eq, Bool.false_eq_true, if_false, if_true]
    split_ifs <;> omega

theorem microForward_settled {target : ℚ} {s : Source} (driving : Driving target s)
    (mode : s.control.mode = .micro) (unlatched : s.precision.latched = false) :
    Settled target (microForward (microVoltage |s.control.error|) |s.control.error| s) := by
  have magnitude : |s.control.error| = s.control.error := abs_of_pos driving.positive
  obtain ⟨baseLow, baseHigh⟩ := @microVoltage_bounds s.control.error
  rw [magnitude]
  simp only [microForward]
  generalize entering : decide (s.control.error ≤ 50) = nearForward
  have entered := enterNear_fits nearForward (resetPrecision_fits driving.fits)
  obtain ⟨control, precision, contacted, glitch⟩ := enterNear_frame nearForward (resetPrecision s)
  revert entered control precision contacted glitch
  generalize enterNear nearForward (resetPrecision s) = s₁
  intro entered control precision contacted glitch
  have boosted : Fits (pulseBoost s₁.control.current 9
      (!nearForward && decide (50 < s.control.error)) (!nearForward) s₁) :=
    pulseBoost_fits _ _ _ entered (by norm_num)
  obtain ⟨control', precision', contacted', glitch'⟩ := pulseBoost_frame s₁.control.current 9
    (!nearForward && decide (50 < s.control.error)) (!nearForward) s₁
  revert boosted control' precision' contacted' glitch'
  generalize pulseBoost s₁.control.current 9 (!nearForward && decide (50 < s.control.error))
    (!nearForward) s₁ = s₂
  intro boosted control' precision' contacted' glitch'
  have sameControl : s₂.control = s.control := control'.trans control
  have sameLatch : s₂.precision.latched = false := by
    rw [precision', precision]
    exact unlatched
  have sound : Sound target s₂ :=
    ⟨boosted, by rw [sameControl]; exact driving.aimed, fun h => by simp [sameLatch] at h,
      by rw [glitch', glitch]; exact driving.below⟩
  have micro : s₂.control.mode = .micro := by rw [sameControl, mode]
  have coarse : ∀ t : Source, t.control = s₂.control → t.precision = s₂.precision →
      precise t = false := by
    intro t sameC sameP
    simp [precise, sameC, sameP, micro, sameLatch]
  cases nearForward with
  | true =>
    simp only [if_true]
    have close : s₂.control.error ≤ 50 := by
      rw [sameControl]
      exact of_decide_eq_true entering
    obtain ⟨fits, drive⟩ := @nearPulse_fits (microVoltage s.control.error) s.control.error s₂
      boosted baseLow close
    have rough : precise (nearPulse (microVoltage s.control.error) s.control.error s₂).1 = false :=
      coarse _ rfl rfl
    refine launchPulse_sound ⟨fits, sound.aimed, sound.touched, sound.below⟩ (.inl micro) ?_
    rw [rough, ← sound.aimed]
    exact drive
  | false =>
    simp only [Bool.false_eq_true, if_false]
    have far : ¬ s₂.control.error ≤ 50 := by
      rw [sameControl]
      exact of_decide_eq_false entering
    have widest := boosted.pulse.forward_le
    have shortest := boosted.pulse.forward_ge
    have thrust := boosted.pulse.boost_nonneg
    have widestMs : microForwardMaxMs = 12 := rfl
    have shortestMs : pulseDurationMs = 9 := rfl
    refine launchPulse_sound sound (.inl micro) ?_
    rw [coarse _ rfl rfl]
    refine ⟨le_min (by linarith) (by norm_num), ?_, by omega, ?_⟩
    · simp only [driveCap, far, Bool.false_eq_true, if_false]
      exact min_le_right _ _
    · simp only [driveWidth, far, Bool.false_eq_true, if_false]
      omega

theorem microPulse_settled {target : ℚ} {s : Source} (driving : Driving target s)
    (mode : s.control.mode = .micro) : Settled target (microPulse s) := by
  have magnitude : |s.control.error| = s.control.error := abs_of_pos driving.positive
  simp only [microPulse]
  split_ifs with far small release
  · exact microPrecision_settled driving mode far
  · exact microForward_settled driving mode (by simpa using fun h => small (.inr h))
  · exact absurd driving.positive (by linarith)
  · exact ⟨⟨driving.fits.same rfl rfl rfl rfl rfl rfl, driving.aimed, driving.touched,
      driving.below⟩, Quiet.emits ⟨driving.quiet.action, driving.quiet.command, driving.quiet.normal⟩⟩

theorem finePulse_settled {target : ℚ} {s : Source} (driving : Driving target s)
    (mode : s.control.mode = .fine) : Settled target (finePulse s) := by
  obtain ⟨fits, control, kept, contacted, glitch, outcome⟩ :=
    precisionForward_fits driving.fits driving.quiet
  simp only [finePulse, driving.positive, if_true]
  revert fits control kept contacted glitch outcome
  generalize precisionForward s = step
  intro fits control kept contacted glitch outcome
  have sound : Sound target step.source :=
    ⟨fits, by rw [control]; exact driving.aimed,
      fun h => by rw [contacted]; exact driving.touched (by rw [← kept]; exact h),
      by rw [glitch]; exact driving.below⟩
  obtain ⟨source, drive⟩ := step
  cases drive with
  | none => exact ⟨sound, Quiet.emits outcome⟩
  | some drive =>
    obtain ⟨voltage, duration⟩ := drive
    simp only at control outcome sound ⊢
    refine launchPulse_sound ⟨clearPulseBoost_fits sound.fits, sound.aimed, sound.touched,
      sound.below⟩ (.inr ?_) ?_
    · change source.control.mode = .fine
      rw [control, mode]
    · have fine : precise (clearPulseBoost source) = true := by
        simp [precise, clearPulseBoost, control, mode]
      rw [fine]
      change DriveFits target source.control.error true voltage duration
      rw [control, ← driving.aimed]
      exact outcome

/-! ### The whole update -/

theorem pulseInProgress_settled {target : ℚ} {s : Source} (sound : Sound target s) (quiet : Quiet s) :
    Settled target (pulseInProgress s) := by
  simp only [pulseInProgress]
  split_ifs
  · exact ⟨⟨sound.fits.same rfl rfl rfl rfl rfl rfl, sound.aimed, sound.touched, sound.below⟩,
      Quiet.emits ⟨.inr rfl, rfl, quiet.normal⟩⟩
  · exact ⟨sound, quiet.emits⟩

theorem countLowFrame_driving {target : ℚ} {s : Source} (driving : Driving target s) :
    Driving target (countLowFrame s) := by
  have frames := driving.fits.low
  simp only [countLowFrame]
  split
  · refine ⟨⟨⟨driving.fits.pulse, driving.fits.precision, driving.fits.near, driving.fits.glitch,
      driving.fits.reverse, ?_⟩, driving.aimed, driving.touched, driving.below⟩,
      ⟨driving.quiet.action, driving.quiet.command, driving.quiet.normal⟩, driving.positive,
      driving.contact⟩
    simp only [u8]
    split_ifs <;> omega
  · exact driving

theorem paced_settled {target : ℚ} {s : Source} (pulse : Source → Source)
    (driving : Driving target s)
    (launches : ∀ t, Driving target t → t.control.mode = s.control.mode →
      Settled target (pulse t)) : Settled target (paced s pulse) := by
  have counted := countLowFrame_driving driving
  have kept : (countLowFrame s).control.mode = s.control.mode := by
    simp only [countLowFrame]
    split_ifs <;> rfl
  simp only [paced]
  split_ifs
  · exact pulseInProgress_settled driving.toSound driving.quiet
  · exact launches _ counted kept
  · exact ⟨counted.toSound, counted.quiet.emits⟩
  · exact launches _ driving rfl

theorem coarseMode_settled {target : ℚ} {s : Source} (driving : Driving target s)
    (due : approachDue s = true) : Settled target (coarseMode s) := by
  simp only [coarseMode, due, if_true]
  have fresh : s.hasContacted = false := by
    simp only [approachDue, Bool.and_eq_true, Bool.not_eq_true'] at due
    exact due.1.1
  refine ⟨⟨driving.fits.same rfl rfl rfl rfl rfl rfl, driving.aimed, driving.touched,
    driving.below⟩, ?_, ?_, ?_⟩
  · rcases driving.quiet.action with h | h <;> simp [Source.setVoltage, h]
  · rcases driving.quiet.action with h | h <;> simp [Source.setVoltage, h]
  · intro _ _
    refine ⟨?_, driving.quiet.normal⟩
    change s.precision.latched = false
    by_contra latched
    have touched := driving.touched (by simpa using latched)
    simp [fresh] at touched

structure Filtered (target : ℚ) (s : Source) : Prop extends Sound target s where
  quiet : Quiet s
  positive : 0 < s.control.error
  contact : 10 ≤ s.control.current → s.hasContacted = true

theorem haltForJump_filtered {target : ℚ} {s : Source} (filtered : Filtered target s) :
    Filtered target (haltForJump s) := by
  have shortest : pulseDurationMs ≤ microForwardMaxMs := by decide
  exact ⟨⟨⟨⟨le_refl _, le_refl _, shortest, Nat.zero_le _⟩,
    ⟨Nat.zero_le _, Nat.zero_le _, filtered.fits.precision.band, Nat.zero_le _, Nat.zero_le _,
      Nat.zero_le _⟩, Nat.zero_le _, filtered.fits.glitch, filtered.fits.reverse,
    filtered.fits.low⟩, filtered.aimed, filtered.touched, filtered.below⟩,
    ⟨.inr rfl, rfl, filtered.quiet.normal⟩, filtered.positive, filtered.contact⟩

theorem Filtered.withNear {target : ℚ} {s : Source} (filtered : Filtered target s) {near : Near}
    (level : near.stallLevel = s.near.stallLevel) : Filtered target { s with near := near } :=
  ⟨⟨filtered.fits.same rfl rfl level rfl rfl rfl, filtered.aimed, filtered.touched,
    filtered.below⟩, ⟨filtered.quiet.action, filtered.quiet.command, filtered.quiet.normal⟩,
    filtered.positive, filtered.contact⟩

theorem markNear_filtered {target : ℚ} {s : Source} (filtered : Filtered target s) :
    Filtered target (markNear s) :=
  filtered.withNear rfl

theorem rememberNear_filtered {target : ℚ} {s : Source} (filtered : Filtered target s) :
    Filtered target (rememberNear s) :=
  filtered.withNear rfl

theorem endPulse_filtered {target : ℚ} {s : Source} (filtered : Filtered target s) :
    Filtered target (endPulse s) :=
  ⟨⟨filtered.fits.same rfl rfl rfl rfl rfl rfl, filtered.aimed, filtered.touched, filtered.below⟩,
    ⟨.inr rfl, rfl, filtered.quiet.normal⟩, filtered.positive, filtered.contact⟩

theorem nearGate_filtered {target : ℚ} {s : Source} (filtered : Filtered target s) :
    Filtered target (nearGate s) := by
  have braked : ∀ t, Filtered target t → Filtered target (brakeAtTarget t) := by
    intro t h
    simp only [brakeAtTarget]
    split_ifs
    exacts [endPulse_filtered h, h]
  have halted : ∀ t, Filtered target t → Filtered target (haltOnJump t) := by
    intro t h
    simp only [haltOnJump]
    split_ifs
    exacts [haltForJump_filtered h, h]
  simp only [nearGate]
  split_ifs
  · exact rememberNear_filtered (halted _ (braked _ (markNear_filtered filtered)))
  · exact filtered

theorem enterMode_fits (mode : Mode) {s : Source} (fits : Fits s) : Fits (enterMode mode s) := by
  have kept : Fits { s with control := { s.control with mode := mode } } :=
    fits.same rfl rfl rfl rfl rfl rfl
  have cleared : Fits { s with
      control := { s.control with mode := mode }
      near := { s.near with forwardActive := false, stallLevel := 0 } } :=
    ⟨fits.pulse, fits.precision, Nat.zero_le _, fits.glitch, fits.reverse, fits.low⟩
  simp only [enterMode]
  split_ifs
  all_goals first
    | exact kept
    | exact cleared
    | exact resetPrecision_fits kept
    | exact resetPrecision_fits cleared

/-- Entering a mode changes no force value, no latch and no output. -/
theorem enterMode_frame (mode : Mode) (s : Source) :
    (enterMode mode s).control = { s.control with mode := mode } ∧
      (enterMode mode s).hasContacted = s.hasContacted ∧ (enterMode mode s).out = s.out ∧
      (enterMode mode s).glitch = s.glitch ∧
      (enterMode mode s).precision.latched = s.precision.latched := by
  simp only [enterMode]
  split_ifs <;> exact ⟨rfl, rfl, rfl, rfl, rfl⟩

/-- The fall back never happens: FINE has just been selected by the range it tests. -/
theorem fallBack_of_range {s : Source}
    (range : s.control.mode = .fine → isInFineRange s.control.error = true) : fallBack s = s := by
  simp only [fallBack]
  split_ifs with falls
  · exact absurd (range falls.1) falls.2.1
  · rfl

theorem runMode_settled {target : ℚ} {s : Source} (filtered : Filtered target s) :
    Settled target (runMode (fallBack (enterMode (selectMode s) s))) := by
  obtain ⟨control, contacted, out, glitch, latched⟩ := enterMode_frame (selectMode s) s
  have fits := enterMode_fits (selectMode s) filtered.fits
  revert control contacted out glitch latched fits
  generalize enterMode (selectMode s) s = t
  intro control contacted out glitch latched fits
  have error : t.control.error = s.control.error := by rw [control]
  have mode : t.control.mode = selectMode s := by rw [control]
  have due : approachDue t = approachDue s := by
    simp only [approachDue, contacted, control]
  have range : t.control.mode = .fine → isInFineRange t.control.error = true := by
    rw [mode, error]
    simp only [selectMode]
    split_ifs <;> simp_all
  rw [fallBack_of_range range]
  have driving : Driving target t := by
    refine ⟨⟨fits, ?_, ?_, ?_⟩, ⟨?_, ?_, ?_⟩, ?_, ?_⟩
    · rw [control]; exact filtered.aimed
    · rw [contacted, latched]; exact filtered.touched
    · rw [glitch]; exact filtered.below
    · rw [out]; exact filtered.quiet.action
    · rw [out]; exact filtered.quiet.command
    · rw [out]; exact filtered.quiet.normal
    · rw [error]; exact filtered.positive
    · intro far pulsed
      rw [error] at far
      rw [mode] at pulsed
      rw [contacted]
      by_contra fresh
      have light : s.control.current < 10 := by
        by_contra heavy
        exact fresh (filtered.contact (not_lt.mp heavy))
      have coarse : approachDue s = true := by simp_all [approachDue]
      simp [selectMode, coarse] at pulsed
  have quiet := driving.quiet
  cases selected : t.control.mode with
  | coarse =>
    simp only [runMode, selected]
    refine coarseMode_settled driving ?_
    rw [due]
    by_contra idle
    rw [mode] at selected
    simp only [selectMode, idle] at selected
    split_ifs at selected <;> simp_all
  | micro =>
    simp only [runMode, selected]
    exact paced_settled microPulse driving
      (fun u h same => microPulse_settled h (same.trans selected))
  | fine =>
    simp only [runMode, selected]
    have level : Driving target { t with near := { t.near with forwardActive := false } } :=
      ⟨⟨driving.fits.same rfl rfl rfl rfl rfl rfl, driving.aimed, driving.touched, driving.below⟩,
        ⟨quiet.action, quiet.command, quiet.normal⟩, driving.positive, driving.contact⟩
    exact paced_settled finePulse level (fun u h same => finePulse_settled h (same.trans selected))
  | hold | stop | emergency =>
    simp only [runMode, selected]
    exact ⟨⟨driving.fits.same rfl rfl rfl rfl rfl rfl, driving.aimed, driving.touched,
      driving.below⟩, by simp [Source.emergencyStop], by simp [Source.emergencyStop],
      by simp [Source.emergencyStop, selected]⟩

theorem regulate_settled {target : ℚ} {s : Source} (sound : Sound target s) (quiet : Quiet s)
    (below : s.control.current < target) : Settled target (regulate s) := by
  have measured : Filtered target { s with
      hasContacted := s.hasContacted || decide (10 ≤ s.control.current)
      control := { s.control with error := s.control.target - s.control.current } } :=
    ⟨⟨sound.fits.same rfl rfl rfl rfl rfl rfl, sound.aimed,
      fun latched => by simp [sound.touched latched], sound.below⟩,
      ⟨quiet.action, quiet.command, quiet.normal⟩, by simp only [sound.aimed]; linarith,
      fun heavy => by simp_all⟩
  have gated := nearGate_filtered measured
  simp only [regulate]
  split
  · exact ⟨⟨gated.fits.same rfl rfl rfl rfl rfl rfl, gated.aimed, gated.touched, gated.below⟩,
      Quiet.emits ⟨.inr rfl, rfl, gated.quiet.normal⟩⟩
  · exact runMode_settled (gated.withNear rfl)

/-- The jump filter hands on an accepted value, or counts an unconfirmed one. -/
theorem filterGlitch_spec {target raw : ℚ} {stamp : U32} {g : Glitch} (count : g.cnt ≤ 2)
    (accepted : g.lastValid < target) (measured : raw < target) :
    (filterGlitch stamp raw g).1.cnt ≤ 2 ∧ (filterGlitch stamp raw g).1.lastValid < target ∧
      (filterGlitch stamp raw g).2 < target := by
  have small : glitchCount raw g ≤ 3 := by
    simp only [glitchCount, u8]
    split_ifs <;> omega
  simp only [filterGlitch]
  split
  · split
    · split
      · exact ⟨by simp only; omega, accepted, accepted⟩
      · exact ⟨Nat.zero_le _, measured, measured⟩
    · exact ⟨Nat.zero_le _, measured, measured⟩
  · refine ⟨count, accepted, ?_⟩
    split_ifs
    exacts [accepted, measured]

theorem processFrame_settled {target : ℚ} {s : Source} (sound : Sound target s) (quiet : Quiet s)
    (below : s.actualPressure < target) : Settled target (processFrame s) := by
  have shortest : pulseDurationMs ≤ microForwardMaxMs := by decide
  have fits := sound.fits
  obtain ⟨count, accepted, value⟩ :=
    @filterGlitch_spec target s.actualPressure s.feedbackStamp s.glitch fits.glitch sound.below below
  simp only [processFrame]
  split
  · refine ⟨⟨⟨⟨le_refl _, le_refl _, shortest, Nat.zero_le _⟩,
      ⟨Nat.zero_le _, Nat.zero_le _, fits.precision.band, Nat.zero_le _, Nat.zero_le _,
        Nat.zero_le _⟩, Nat.zero_le _, count, fits.reverse, fits.low⟩, sound.aimed, sound.touched,
      accepted⟩, Quiet.emits ⟨.inr rfl, rfl, quiet.normal⟩⟩
  · exact regulate_settled ⟨⟨fits.pulse, fits.precision, fits.near, count, fits.reverse, fits.low⟩,
      sound.aimed, sound.touched, accepted⟩ ⟨quiet.action, quiet.command, quiet.normal⟩ value

theorem update_settled {target : ℚ} {s : Source} (sound : Sound target s) (quiet : Quiet s)
    (below : s.actualPressure < target) : Settled target (update s) := by
  simp only [update]
  split
  · exact ⟨sound, quiet.emits⟩
  · split
    · refine ⟨⟨sound.fits.same rfl rfl rfl rfl rfl rfl, sound.aimed, sound.touched, sound.below⟩,
        Quiet.emits ⟨quiet.action, ?_, quiet.normal⟩⟩
      simp [Source.setVoltage, lround]
      norm_num
    · split
      · exact ⟨sound, quiet.emits⟩
      · exact processFrame_settled sound quiet below

/-! ### Runs -/

theorem reset_sound {target : ℚ} (positive : -1 < target) (now : U32) (s : Source) :
    Sound target (reset target now s) := by
  have shortest : pulseDurationMs ≤ microForwardMaxMs := by decide
  exact ⟨⟨⟨le_refl _, le_refl _, shortest, Nat.zero_le _⟩,
    ⟨Nat.zero_le _, Nat.zero_le _, Nat.zero_le _, Nat.zero_le _, Nat.zero_le _, Nat.zero_le _⟩,
    Nat.zero_le _, Nat.zero_le _, Nat.zero_le _, Nat.zero_le _⟩, rfl,
    fun latched => by simp [reset, Source.initial, Precision.initial] at latched, positive⟩

/-- One step keeps the invariant, and an output it decides on is a fitting one. -/
theorem step_settled {target : ℚ} {s : Source} (f : Frame) (sound : Sound target s) :
    Sound target (step f s).1 ∧
      ((step f s).2.action = .pulse ∨ (step f s).2.action = .approach →
        ∃ t, Settled target t ∧ (step f s).2 = readDecision t) := by
  have latched : Sound target (latchFrame f s) :=
    ⟨sound.fits.same rfl rfl rfl rfl rfl rfl, sound.aimed, sound.touched, sound.below⟩
  simp only [step]
  split
  · exact ⟨⟨sound.fits.same rfl rfl rfl rfl rfl rfl, sound.aimed, sound.touched, sound.below⟩,
      by simp [Decision.zero]⟩
  · split
    · exact ⟨⟨latched.fits.same rfl rfl rfl rfl rfl rfl, latched.aimed, latched.touched,
        latched.below⟩, by simp⟩
    · rename_i under
      rw [latched.aimed, not_le] at under
      have settled := update_settled latched ⟨.inl rfl, rfl, rfl⟩ under
      exact ⟨settled.1, fun _ => ⟨_, settled, rfl⟩⟩

def runFrames (target : ℚ) (now : U32) (s : Source) (frames : List Frame) : Source :=
  frames.foldl (fun s f => (step f s).1) (reset target now s)

theorem runFrames_sound {target : ℚ} (positive : -1 < target) (now : U32) (s : Source)
    (frames : List Frame) : Sound target (runFrames target now s frames) := by
  have keeps : ∀ (frames : List Frame) (s : Source), Sound target s →
      Sound target (frames.foldl (fun s f => (step f s).1) s) := by
    intro frames
    induction frames with
    | nil => exact fun _ sound => sound
    | cons f rest ih => exact fun s sound => ih _ (step_settled f sound).1
  exact keeps frames _ (reset_sound positive now s)

/-! ### The executor's checks -/

theorem lround_le {q : ℚ} {c : ℤ} (nonneg : 0 ≤ q) (le : q ≤ c) : lround q ≤ c := by
  rw [lround, if_pos nonneg, Int.floor_le_iff]
  linarith

theorem le_lround {q : ℚ} {c : ℤ} (nonneg : 0 ≤ q) (le : (c : ℚ) ≤ q) : c ≤ lround q := by
  rw [lround, if_pos nonneg, Int.le_floor]
  linarith

/-- A command between 0.8 V and an executor ceiling keeps its value in the request word. -/
theorem command_word {voltage : ℚ} {ceiling : Nat} (low : 4 / 5 ≤ voltage)
    (high : voltage * 1000 ≤ ceiling) (small : ceiling ≤ 12000) :
    0 < lround (voltage * 1000) ∧ BitVec.ofInt 32 (lround (voltage * 1000)) ≠ 0 ∧
      BitVec.ofInt 32 (lround (voltage * 1000)) ≤ BitVec.ofNat 32 ceiling := by
  have floor : 800 ≤ lround (voltage * 1000) := le_lround (by linarith) (by norm_num; linarith)
  have top : lround (voltage * 1000) ≤ (ceiling : ℤ) :=
    lround_le (by linarith) (by exact_mod_cast high)
  obtain ⟨n, word⟩ : ∃ n : Nat, lround (voltage * 1000) = n :=
    ⟨_, (Int.toNat_of_nonneg (by omega)).symm⟩
  rw [word] at floor top ⊢
  refine ⟨by omega, ?_, ?_⟩
  · intro zero
    have value : n % 2 ^ 32 = 0 := by simpa using congrArg BitVec.toNat zero
    omega
  · simp only [BitVec.ofInt_natCast, BitVec.le_def, BitVec.toNat_ofNat]
    omega

/-- The executor's ceiling and width are the controller's own caps, read in millivolts. -/
theorem cap_matches {target : Nat} {s : Source} (small : target ≤ 3000)
    (aimed : s.control.target = target)
    (mode : s.control.mode = .micro ∨ s.control.mode = .fine) :
    ∃ ceiling : Nat, (segmentRequest (BitVec.ofNat 32 target) (readDecision s)).cap =
        (BitVec.ofNat 32 ceiling,
          BitVec.ofNat 32 (driveWidth s.control.target s.control.error (precise s))) ∧
      driveCap s.control.target s.control.error (precise s) * 1000 = ceiling ∧
      ceiling ≤ 12000 := by
  have lowWord : BitVec.ofNat 32 target ≤ 200 ↔ s.control.target ≤ 200 := by
    rw [aimed, BitVec.le_def, BitVec.toNat_ofNat, Nat.mod_eq_of_lt (by omega)]
    exact_mod_cast Iff.rfl
  have midWord : BitVec.ofNat 32 target < 800 ↔ s.control.target < 800 := by
    rw [aimed, BitVec.lt_def, BitVec.toNat_ofNat, Nat.mod_eq_of_lt (by omega)]
    exact_mod_cast Iff.rfl
  have exactly : ((readDecision s).precisionLatched || (readDecision s).mode == .fine) = precise s := by
    rcases mode with h | h <;> simp only [readDecision, buildMode, precise, h] <;> rfl
  have phase : (readDecision s).phase = if s.control.error ≤ 50 then .taper else .build := by
    rcases mode with h | h <;> simp [readDecision, buildMode, buildPhase, h]
  have flag : (precise s = true ∨ (readDecision s).mode = .fine) ↔ precise s = true := by
    rcases mode with h | h <;> simp [readDecision, buildMode, precise, h]
  simp only [Request.cap, segmentRequest, exactly, flag, lowWord, midWord, phase, driveCap,
    driveWidth]
  split_ifs
  all_goals first
    | exact ⟨5500, rfl, by norm_num, by norm_num⟩
    | exact ⟨7000, rfl, by norm_num, by norm_num⟩
    | exact ⟨12000, rfl, by norm_num, by norm_num⟩
    | exact ⟨5000, rfl, by norm_num, by norm_num⟩
    | exact ⟨10000, rfl, by norm_num, by norm_num⟩
    | simp_all

theorem settleMs_cases (s : Source) : settleMs s = 30 ∨ settleMs s = 400 := by
  simp only [settleMs]
  split_ifs <;> simp

theorem ofNat_le_ofNat {a b : Nat} (le : a ≤ b) (small : b < 2 ^ 32) :
    BitVec.ofNat 32 a ≤ BitVec.ofNat 32 b := by
  rw [BitVec.le_def, BitVec.toNat_ofNat, BitVec.toNat_ofNat]
  omega

theorem target_word {target : Nat} (low : 1 ≤ target) (high : target ≤ 3000) (q : Decision) :
    (segmentRequest (BitVec.ofNat 32 target) q).targetFits := by
  exact ⟨ofNat_le_ofNat low (by omega), ofNat_le_ofNat high (by decide), rfl⟩

/-- A pulse the controller has launched passes the executor's pulse checks. -/
theorem pulse_admitted {target : Nat} {s : Source} (low : 1 ≤ target) (high : target ≤ 3000)
    (settled : Settled target s) (pulse : s.out.action = .pulse) :
    0 < (readDecision s).command ∧
      (segmentRequest (BitVec.ofNat 32 target) (readDecision s)).Fits := by
  obtain ⟨mode, voltage, command, drive⟩ := settled.2.pulse pulse
  obtain ⟨ceiling, cap, millivolts, small⟩ := cap_matches high settled.1.aimed mode
  obtain ⟨positive, nonzero, below⟩ := @command_word voltage ceiling drive.voltage_ge
    (by linarith [drive.voltage_le]) small
  have narrow : driveWidth s.control.target s.control.error (precise s) ≤ 14 := by
    simp only [driveWidth]
    split_ifs <;> omega
  have shortest := drive.duration_ge
  have widest := drive.duration_le
  have phase : (readDecision s).phase = .build ∨ (readDecision s).phase = .taper := by
    rcases mode with h | h <;> simp only [readDecision, buildMode, buildPhase, h] <;> split_ifs <;>
      simp_all
  have pulsed : (readDecision s).mode = .micro ∨ (readDecision s).mode = .fine := by
    rcases mode with h | h <;> simp [readDecision, buildMode, h]
  refine ⟨by simpa only [readDecision, command] using positive, target_word low high _, ?_⟩
  rw [if_neg (by rcases phase with h | h <;> simp [segmentRequest, h])]
  refine ⟨phase, pulsed, ?_, ?_, ?_, ?_, ?_, ?_⟩
  · simpa only [segmentRequest, readDecision, command] using nonzero
  · rw [cap]
    simpa only [segmentRequest, readDecision, command] using below
  · exact ofNat_le_ofNat shortest (lt_of_le_of_lt (widest.trans narrow) (by decide))
  · rw [cap]
    exact ofNat_le_ofNat widest (by omega)
  · exact BitVec.ofNat_add _ _
  · rcases settleMs_cases s with h | h <;> simp [segmentRequest, readDecision, h]

/-- A continuous approach the controller asks for passes the executor's approach checks. -/
theorem approach_admitted {target : Nat} {s : Source} (low : 1 ≤ target) (high : target ≤ 3000)
    (settled : Settled target s) (approach : (readDecision s).action = .approach) :
    0 < (readDecision s).command ∧
      (segmentRequest (BitVec.ofNat 32 target) (readDecision s)).Fits := by
  have coarse : s.control.mode = .coarse ∧ s.out.command = 5000 := by
    by_contra other
    simp only [readDecision, if_neg other] at approach
    exact settled.2.action approach
  obtain ⟨open_, idle⟩ := settled.2.approach coarse.1 coarse.2
  refine ⟨by simp [readDecision, coarse.2], target_word low high _, ?_⟩
  rw [if_pos (by simp [segmentRequest, readDecision, buildMode, buildPhase, coarse.1])]
  refine ⟨?_, ?_, ?_, ?_⟩
  · simp [segmentRequest, readDecision, buildMode, coarse.1]
  · simp [segmentRequest, readDecision, coarse.2]
  · simp [segmentRequest, readDecision, idle]
  · simp [segmentRequest, readDecision, buildMode, coarse.1, open_]

def counters (s : Source) : List Nat :=
  [s.precision.level, s.precision.extraMs, s.precision.tightestBand, s.precision.noRiseCnt,
    s.precision.escapeSteps, s.precision.stallCnt, s.pulse.stallCnt, s.near.stallLevel,
    s.reverse.stallCnt, s.glitch.cnt, s.low.settleFrames]

/-- The largest increment the code makes, 2, is exact on every counter. -/
theorem counters_exact {s : Source} (fits : Fits s) :
    ∀ counter ∈ counters s, ∀ increment ≤ 2, u8 (counter + increment) = counter + increment := by
  have top : precisionMaxLevel = 32 ∧ precisionEscapeMaxSteps = 26 ∧ nearStallMaxLevel = 4 :=
    ⟨rfl, rfl, rfl⟩
  obtain ⟨pulse, precision, near, glitch, reverse, lowTargets⟩ := fits
  have small : ∀ counter ∈ counters s, counter ≤ 250 := by
    simp only [counters, List.forall_mem_cons, List.not_mem_nil, false_implies, implies_true,
      and_true]
    have := precision.level
    have := precision.extra
    have := precision.band
    have := precision.noRise
    have := precision.escape
    have := precision.stall
    have := pulse.stall
    omega
  intro counter mem increment step
  have := small counter mem
  exact u8_of_lt (by omega)

/-- The source envelope fits the executor envelope: after a reset and any frames, the next frame's
PULSE or APPROACH passes every parameter check of `MotorExecutor_StartBuildSegment`, and no counter
of the controller has come near its wrap. -/
theorem decision_fits (target : Nat) (low : 1 ≤ target) (high : target ≤ 3000) (now : U32)
    (s : Source) (frames : List Frame) (next : Frame) :
    (∀ counter ∈ counters (runFrames target now s frames), ∀ increment ≤ 2,
      u8 (counter + increment) = counter + increment) ∧
    let q := (step next (runFrames target now s frames)).2
    q.action = .pulse ∨ q.action = .approach →
      0 < q.command ∧ (segmentRequest (BitVec.ofNat 32 target) q).Fits := by
  have positive : (-1 : ℚ) < target := by
    have : (0 : ℚ) ≤ target := by positivity
    linarith
  have sound := runFrames_sound positive now s frames
  refine ⟨counters_exact sound.fits, fun drives => ?_⟩
  obtain ⟨t, settled, read⟩ := (step_settled next sound).2 drives
  rw [read] at drives ⊢
  rcases drives with pulse | approach
  · refine pulse_admitted low high settled ?_
    simp only [readDecision] at pulse
    split_ifs at pulse
    exact pulse
  · exact approach_admitted low high settled approach

/-- The first frame of a session below contact asks for the approach, and it is admitted. -/
theorem decision_fits_approach :
    let q := (step ⟨0, 1, 100, 100, false, 0⟩ (runFrames (250 : Nat) 100 .initial [])).2
    q.action = .approach ∧ (segmentRequest (BitVec.ofNat 32 250) q).Fits := by
  have approaches : (step ⟨0, 1, 100, 100, false, 0⟩
      (runFrames (250 : Nat) 100 .initial [])).2.action = .approach := by
    decide +kernel
  exact ⟨approaches, ((decision_fits 250 (by decide) (by decide) 100 .initial [] _).2
    (.inr approaches)).2⟩

end Sd700.Pressure.Envelope
