import Sd700.Pressure.State

/-! The adaptive parts of the source controller: the shared pulse boost, the small-step ladder of
the last forty newtons and the release boost. The voltage and width of a small step are pure
functions of the target, the error and three ladder counters. -/

namespace Sd700.Pressure.Adapt
open Build.Contract State

/-! ### Pulse boost -/

def raiseBoost (step boostMax : ℚ) (allowLonger : Bool) (p : Pulse) : Pulse :=
  { p with
    stallCnt := 0
    boost := min (p.boost + step) boostMax
    forwardMs :=
      if allowLonger ∧ p.forwardMs < microForwardMaxMs then p.forwardMs + 1 else p.forwardMs }

/-- `fast_forward` branch of `PressureControl_PulseBoost`: far from the target, aim at 2 to 8 N. -/
def fastResponse (rise boostMax : ℚ) (allowLonger : Bool) (p : Pulse) : Pulse :=
  if rise < 2 then
    let p := { p with stallCnt := u8 (p.stallCnt + 1) }
    if 2 ≤ p.stallCnt then raiseBoost (1 / 2) boostMax allowLonger p else p
  else if 8 < rise then
    { p with
      stallCnt := 0
      boost := max (p.boost - 1 / 2) 0
      forwardMs := if pulseDurationMs < p.forwardMs then p.forwardMs - 1 else p.forwardMs }
  else
    { p with stallCnt := 0 }

/-- The other branch: any rise below 1 N counts as a stall, and the deceleration zone keeps the
thrust it has found. -/
def slowResponse (rise boostMax : ℚ) (allowLonger : Bool) (near : Near) (p : Pulse) :
    Pulse × Near :=
  let nearForward : Bool := near.forwardActive && p.lastPositive
  if rise < 1 then
    let p := { p with stallCnt := u8 (p.stallCnt + 1) }
    if 2 ≤ p.stallCnt then
      (raiseBoost (if nearForward then 1 / 2 else 3 / 10) boostMax allowLonger p,
        if nearForward ∧ near.stallLevel < nearStallMaxLevel then
          { near with stallLevel := u8 (near.stallLevel + 1) } else near)
    else (p, near)
  else if nearForward ∧ rise ≤ 8 then
    ({ p with stallCnt := 0 }, near)
  else if nearForward then
    ({ p with stallCnt := 0, boost := max (p.boost - 1 / 2) 0 },
      { near with stallLevel := if 1 < near.stallLevel then near.stallLevel - 2 else 0 })
  else
    ({ p with stallCnt := 0, boost := 0, forwardMs := pulseDurationMs }, near)

/-- `PressureControl_PulseBoost`; the returned boost is `pulse.boost` of the result. -/
def pulseBoost (current boostMax : ℚ) (fastForward allowLonger : Bool) (s : Source) : Source :=
  let p := { s.pulse with
    boost := min s.pulse.boost boostMax
    forwardMs := if allowLonger then s.pulse.forwardMs else pulseDurationMs }
  let response : Pulse × Near :=
    if 0 ≤ p.refPressure then
      let rise := if p.lastPositive then current - p.refPressure else p.refPressure - current
      if fastForward && p.lastPositive then (fastResponse rise boostMax allowLonger p, s.near)
      else slowResponse rise boostMax allowLonger s.near p
    else (p, s.near)
  { s with pulse := { response.1 with refPressure := current }, near := response.2 }

/-- `PressureControl_ReverseBoost`; the returned boost is `reverse.boost` of the result. -/
def reverseBoost (current boostMax : ℚ) (s : Source) : Source :=
  let r := if boostMax < s.reverse.boost then { s.reverse with boost := 0, stallCnt := 0 }
    else s.reverse
  let fall := r.refPressure - current
  let r :=
    if 0 ≤ r.refPressure then
      if fall < 1 then
        let r := { r with stallCnt := u8 (r.stallCnt + 1) }
        if 2 ≤ r.stallCnt then
          { r with stallCnt := 0, boost := min (r.boost + 1 / 2) boostMax } else r
      else if 3 < fall then { r with stallCnt := 0, boost := max (r.boost - 1 / 2) 0 }
      else { r with stallCnt := 0 }
    else r
  { s with reverse := { r with refPressure := current } }

/-! ### Small-step ladder -/

/-- `PressureControl_ResetPrecision`: the band reached and the latch survive. -/
def resetPrecision (s : Source) : Source :=
  { s with precision := { s.precision with
      level := 0, extraMs := 0, noRiseCnt := 0, escapeSteps := 0, stallCnt := 0
      refPressure := -1, fbStamp := 0 } }

def lowTarget (target : ℚ) : Bool := target ≤ 200
def highTarget (target : ℚ) : Bool := 800 ≤ target
def veryHighTarget (target : ℚ) : Bool := 800 ≤ target
def heavyBandTarget (target : ℚ) : Bool := 1500 ≤ target ∧ target ≤ 2200
def midHighTarget (target : ℚ) : Bool := 800 ≤ target ∧ target < 1500

def stalledStep (target rise : ℚ) (p : Precision) : Precision :=
  let noRiseStep := if rise ≤ -3 then 2 else 1
  let noRise := if p.noRiseCnt ≤ 250 - noRiseStep then u8 (p.noRiseCnt + noRiseStep) else 250
  let escape :=
    if (p.latched ∨ 0 < p.tightestBand) ∧ 6 ≤ noRise ∧ p.noRiseCnt / 2 < noRise / 2 ∧
        p.escapeSteps < precisionEscapeMaxSteps then u8 (p.escapeSteps + 1) else p.escapeSteps
  let stall := u8 (p.stallCnt + noRiseStep)
  let p := { p with noRiseCnt := noRise, escapeSteps := escape, stallCnt := stall }
  if 2 ≤ stall then
    let levelStep :=
      if veryHighTarget target ∧ rise < 1 ∨ highTarget target ∧ rise ≤ -3 then 2 else 1
    let p := { p with stallCnt := 0 }
    if p.level < precisionMaxLevel then
      { p with level := min (u8 (p.level + levelStep)) precisionMaxLevel }
    else if p.extraMs < 3 then { p with extraMs := u8 (p.extraMs + 1) }
    else p
  else p

def excessStep (rise : ℚ) (p : Precision) : Precision :=
  let decrease := if 4 < rise then 3 else 2
  let widthDecrease := if 4 < rise then 2 else 1
  { p with
    stallCnt := 0
    noRiseCnt := 0
    escapeSteps := p.escapeSteps - decrease
    extraMs := p.extraMs - widthDecrease
    level := p.level - decrease }

def precisionResponse (target rise : ℚ) (p : Precision) : Precision :=
  if rise < 1 then stalledStep target rise p
  else if rise ≤ 2 then { p with stallCnt := 0, noRiseCnt := 0 }
  else excessStep rise p

/-- Whether the response asks for a pause: a jump above 4 N, or above 2 N in the last 10 N. -/
def precisionPauses (error rise : ℚ) : Bool :=
  2 < rise ∧ (4 < rise ∨ error ≤ 10)

def precisionBand (error : ℚ) : Nat :=
  if error ≤ 3 then 3 else if error ≤ 10 then 2 else if error ≤ 20 then 1 else 0

/-- Entering a tighter band gives up most of the thrust found so far, unless a high target has
just answered with 1 to 2 N. `lastRise` is `-1` where there is no response. -/
def tighten (target error lastRise : ℚ) (p : Precision) : Precision :=
  let band := precisionBand error
  if p.tightestBand < band then
    let p := { p with tightestBand := band, noRiseCnt := 0, stallCnt := 0 }
    if highTarget target ∧ 1 ≤ lastRise ∧ lastRise ≤ 2 then p
    else
      let cap := if band = 1 then 8 else if band = 2 then 6 else 4
      { p with escapeSteps := 0, extraMs := 0, level := min p.level cap }
  else p

/-- `(counter >= threshold ? 1U : 0U)`. -/
def stepAt (threshold counter : Nat) : Nat :=
  if threshold ≤ counter then 1 else 0

/-- `*voltage` before any cap. -/
def stepVoltage (target error : ℚ) (level : Nat) : ℚ :=
  let start : ℚ :=
    if lowTarget target then 2
    else if highTarget target ∧ error ≤ 10 then 6
    else if highTarget target then 4 else 5 / 2
  start + 1 / 4 * level

/-- `*duration` before any cap. -/
def stepDuration (target error : ℚ) (level extraMs : Nat) : Nat :=
  (if highTarget target then 3 else 2)
    + stepAt 4 level + stepAt 8 level + stepAt 12 level
    + (if ¬ lowTarget target ∧ ¬ highTarget target then
        stepAt 18 level + stepAt 24 level + stepAt 30 level else 0)
    + (if veryHighTarget target ∧ 10 < error then
        stepAt 16 level + stepAt 22 level + stepAt 28 level else 0)
    + (if heavyBandTarget target then stepAt 20 level + stepAt 26 level else 0)
    + (if midHighTarget target ∧ error ≤ 10 then 1 else 0)
    + extraMs

/-- `voltage_max`. -/
def voltageMax (target error : ℚ) : ℚ :=
  let base : ℚ :=
    if lowTarget target then 11 / 2
    else if veryHighTarget target then 12
    else if highTarget target then 9 else 7
  if error ≤ 10 ∧ highTarget target then min base 12 else base

/-- `voltage_cap` after every unlock and the final clamp to `voltage_max`. -/
def voltageCap (target error : ℚ) (band escape : Nat) : ℚ :=
  let base : ℚ :=
    if veryHighTarget target ∧ band = 2 then 11 / 2
    else if veryHighTarget target ∧ 3 ≤ band then 5
    else if band = 0 then 11 / 2
    else if band = 1 then 5
    else if band = 2 then 9 / 2
    else 4
  let cap := base + 1 / 4 * escape
  let cap := if highTarget target ∧ error ≤ 10 ∧ cap < 6 then 6 else cap
  min cap (voltageMax target error)

/-- `duration_cap` before the clamp to `duration_max`. -/
def unlockedDuration (target : ℚ) (band escape : Nat) : Nat :=
  (if band = 0 then 5 + stepAt 4 escape + stepAt 8 escape
    else if band = 1 then 4 + stepAt 4 escape + stepAt 8 escape + stepAt 12 escape
    else if band = 2 then 3 + stepAt 4 escape + stepAt 8 escape + stepAt 12 escape
    else 3 + stepAt 6 escape + stepAt 10 escape + stepAt 12 escape)
    + (if highTarget target then stepAt 16 escape + stepAt 20 escape
        else if ¬ lowTarget target then stepAt 16 escape + stepAt 22 escape else 0)
    + (if veryHighTarget target then stepAt 20 escape + stepAt 23 escape + stepAt 26 escape else 0)
    + (if heavyBandTarget target then stepAt 20 escape + stepAt 26 escape else 0)

/-- `duration_max`. -/
def durationMax (target error : ℚ) : Nat :=
  let base := if lowTarget target then 4 else if veryHighTarget target then 12 else 8
  let base := base + if heavyBandTarget target then 2 else 0
  if error ≤ 10 ∧ highTarget target then
    min base (5 + (if heavyBandTarget target then 2 + 1 else 0)
      + (if midHighTarget target then 1 else 0))
  else base

def durationCap (target error : ℚ) (band escape : Nat) : Nat :=
  min (unlockedDuration target band escape) (durationMax target error)

/-- The outcome of `PressureControl_PrecisionForward`: `none` is `return false`. -/
structure SmallStep where
  source : Source
  drive : Option (ℚ × Nat)

/-- The part of `PressureControl_PrecisionForward` behind the response check. -/
def emitSmallStep (lastRise : ℚ) (s : Source) : SmallStep :=
  let target := s.control.target
  let error := s.control.error
  let p := tighten target error lastRise s.precision
  let voltage := min (stepVoltage target error p.level)
    (voltageCap target error p.tightestBand p.escapeSteps)
  let duration := min (stepDuration target error p.level p.extraMs)
    (durationCap target error p.tightestBand p.escapeSteps)
  { source := { s with precision := { p with
      refPressure := s.control.current, fbStamp := s.feedbackStamp } }
    drive := some (voltage, duration) }

/-- `PressureControl_PrecisionForward`. -/
def precisionForward (s : Source) : SmallStep :=
  if 0 ≤ s.precision.refPressure then
    if s.feedbackStamp = s.precision.fbStamp then ⟨s, none⟩
    else
      let rise := s.control.current - s.precision.refPressure
      let p := precisionResponse s.control.target rise s.precision
      if precisionPauses s.control.error rise then
        -- The force has just jumped: brake and let the mechanism settle before judging again.
        ⟨Source.brake { s with
          near := { s.near with wait := true, pauseStart := s.now }
          precision := { p with refPressure := -1 } }, none⟩
      else emitSmallStep rise { s with precision := p }
  else emitSmallStep (-1) s

end Sd700.Pressure.Adapt
