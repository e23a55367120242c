import Sd700.Pressure.Adapt
import Sd700.Logic.Modular

/-! The control modes and `PressureControl_Update`, up to the point where the target is reached,
and the two entry points `ForceBuildSource_Reset` and `ForceBuildSource_Step`. -/

namespace Sd700.Pressure.Update
open Build.Contract State Adapt Logic.Modular

def isInFineRange (error : ℚ) : Bool :=
  error ≤ 3 ∧ -3 ≤ error ∧ (0 < error ∨ error < -1)

def isInHoldRange (error : ℚ) : Bool :=
  error ≤ 0 ∧ -1 ≤ error

/-- Milliseconds from `stamp` to the controller's present, in wrapped arithmetic. -/
def Source.since (s : Source) (stamp : U32) : Nat :=
  (s.now - stamp).toNat

/-! ### Pulse pacing -/

def endPulse (s : Source) : Source :=
  { s.brake with control := { s.control with pulseActive := false, pulseEnd := s.now } }

/-- The head of MICRO and FINE while a pulse is high: brake once the requested width has passed. -/
def pulseInProgress (s : Source) : Source :=
  if s.pulse.curDuration ≤ Source.since s s.control.pulseStart then endPulse s else s

def settleMs (s : Source) : Nat :=
  if s.pulse.lastPositive ∧ 2 ≤ s.precision.tightestBand then 400 else 30

def countLowFrame (s : Source) : Source :=
  if s.control.target ≤ 200 ∧ s.feedbackStamp ≠ s.low.feedbackStamp then
    { s with low := {
        feedbackStamp := s.feedbackStamp
        settleFrames := if s.low.settleFrames < 2 then u8 (s.low.settleFrames + 1)
          else s.low.settleFrames } }
  else s

/-- Whether the previous pulse has settled and been answered, so that the next one may start. -/
def pulseDue (s : Source) : Bool :=
  let age := Source.since s s.control.pulseEnd
  let settled : Bool := settleMs s ≤ age
  let fresh : Bool := s.feedbackStamp ≠ s.pulse.fbSnapshot
  let timeout : Bool := 400 ≤ age
  (s.control.target ≤ 200 → settled ∧ fresh ∧ 2 ≤ s.low.settleFrames) ∧
    (settled ∧ fresh ∨ timeout)

/-- The pacing block shared by MICRO and FINE; `pulse_end_time == 0` means no pulse yet. -/
def paced (s : Source) (pulse : Source → Source) : Source :=
  if s.control.pulseActive then pulseInProgress s
  else if 0 < s.control.pulseEnd.toNat then
    let s := countLowFrame s
    if pulseDue s then pulse s else s
  else pulse s

def launchPulse (positive : Bool) (voltage : ℚ) (duration : Nat) (s : Source) : Source :=
  let pulse := { s.pulse with
    curDuration := duration, fbSnapshot := s.feedbackStamp, lastPositive := positive }
  let s := { s with
    low := { feedbackStamp := s.feedbackStamp, settleFrames := 0 }
    control := { s.control with pulseStart := s.now, pulseActive := true }
    pulse := if positive then pulse
      else { pulse with refPressure := -1, boost := 0, stallCnt := 0, forwardMs := pulseDurationMs }
    reverse := if positive then { refPressure := -1, boost := 0, stallCnt := 0 } else s.reverse }
  (s.setVoltage (if positive then voltage else -voltage)).startPulseTimer

def clearPulseBoost (s : Source) : Source :=
  { s with pulse := { s.pulse with refPressure := -1, boost := 0, stallCnt := 0 } }

/-! ### Modes -/

/-- `scaled_voltage` of MICRO. -/
def microVoltage (errorAbs : ℚ) : ℚ :=
  4 / 5 + max (min ((errorAbs - 3) / 47) 1) 0 * (11 / 5)

/-- `voltage_limit` of the 40 to 50 N zone. -/
def nearLimit (low : Bool) (level : Nat) : ℚ :=
  (if low then 3 else 5) + 1 / 2 * level

def nearPulse (baseV errorAbs : ℚ) (s : Source) : Source × ℚ × Nat :=
  let low := lowTarget s.control.target
  let level := if errorAbs ≤ 20 ∧ 2 < s.near.stallLevel then 2 else s.near.stallLevel
  let limit := nearLimit low level
  let applied := baseV + s.pulse.boost
  let boost :=
    if limit < applied then min s.pulse.boost (max (limit - baseV) 0) else s.pulse.boost
  let duration := if low then min (3 + level / 2) 4 else 6 + level / 2
  ({ s with near := { s.near with stallLevel := level }, pulse := { s.pulse with boost := boost } },
    min applied limit, duration)

def enterNear (nearForward : Bool) (s : Source) : Source :=
  if nearForward ∧ ¬ s.near.forwardActive then
    { s with
      pulse := { s.pulse with refPressure := -1, stallCnt := 0, forwardMs := pulseDurationMs }
      near := { s.near with stallLevel := 0, forwardActive := nearForward } }
  else { s with near := { s.near with forwardActive := nearForward } }

def microForward (baseV errorAbs : ℚ) (s : Source) : Source :=
  let nearForward : Bool := errorAbs ≤ 50
  let s := enterNear nearForward (resetPrecision s)
  let s := pulseBoost s.control.current 9 (!nearForward && decide (50 < errorAbs)) (!nearForward) s
  if nearForward then
    let drive := nearPulse baseV errorAbs s
    launchPulse true drive.2.1 drive.2.2 drive.1
  else
    launchPulse true (min (baseV + s.pulse.boost) 10) (min s.pulse.forwardMs microForwardMaxMs) s

def microRelease (s : Source) : Source :=
  let low := lowTarget s.control.target
  let s := enterNear false (resetPrecision s)
  let s := reverseBoost s.control.current 1 s
  let applied := (if low then 3 / 2 else 3) + s.reverse.boost
  launchPulse false (min applied (if low then 5 / 2 else 4)) (if low then 3 else 6) s

def microPrecision (s : Source) : Source :=
  let step := precisionForward { s with precision := { s.precision with latched := true } }
  match step.drive with
  | none => step.source
  | some (voltage, duration) =>
    let s := { step.source with
      near := { step.source.near with forwardActive := false, stallLevel := 0 } }
    launchPulse true voltage duration (clearPulseBoost s)

/-- `PressureControl_MicroMode` once a pulse is due. -/
def microPulse (s : Source) : Source :=
  let errorAbs := |s.control.error|
  if 3 < s.control.error then
    if errorAbs ≤ 40 ∨ s.precision.latched then microPrecision s
    else microForward (microVoltage errorAbs) errorAbs s
  else if s.control.error < -3 then microRelease s
  else { s with control := { s.control with mode := .fine } }

/-- `PressureControl_MicroMode`. -/
def microMode (s : Source) : Source := paced s microPulse

/-- `PressureControl_FineMode` once a pulse is due. -/
def finePulse (s : Source) : Source :=
  if 0 < s.control.error then
    let step := precisionForward s
    match step.drive with
    | none => step.source
    | some (voltage, duration) => launchPulse true voltage duration (clearPulseBoost step.source)
  else if s.control.error < -1 then
    let low := lowTarget s.control.target
    let s := reverseBoost s.control.current (1 / 2) (resetPrecision s)
    let applied := (if low then 1 else 3 / 2) + s.reverse.boost
    launchPulse false (min applied (if low then 3 / 2 else 2)) (if low then 3 else 6) s
  else { s with control := { s.control with mode := .hold } }

/-- `PressureControl_FineMode`. -/
def fineMode (s : Source) : Source :=
  paced { s with near := { s.near with forwardActive := false } } finePulse

def approachDue (s : Source) : Bool :=
  !s.hasContacted && decide (s.control.current < 10) && decide (3 < s.control.error)

/-- `PressureControl_CoarseMode`. -/
def coarseMode (s : Source) : Source :=
  if approachDue s then s.setVoltage 5
  else { s.setVoltage 0 with control := { s.control with mode := .micro } }

/-! ### Frame filters -/

def suspectFrame (raw : ℚ) (g : Glitch) : Bool :=
  0 ≤ g.lastValid ∧ 80 < |raw - g.lastValid|

def glitchCount (raw : ℚ) (g : Glitch) : Nat :=
  if g.candidate < 0 ∨ 5 < |raw - g.candidate| then 1 else u8 (g.cnt + 1)

/-- The jump filter: three frames in a row near one another confirm a sudden value. The second
component is the value the rest of the update works on. -/
def filterGlitch (stamp : U32) (raw : ℚ) (g : Glitch) : Glitch × ℚ :=
  if stamp ≠ g.feedbackStamp then
    let g := { g with feedbackStamp := stamp }
    if suspectFrame raw g then
      let count := glitchCount raw g
      let candidate := if g.candidate < 0 ∨ 5 < |raw - g.candidate| then raw else g.candidate
      if count < 3 then ({ g with cnt := count, candidate := candidate }, g.lastValid)
      else ({ g with lastValid := raw, candidate := -1, cnt := 0 }, raw)
    else ({ g with lastValid := raw, candidate := -1, cnt := 0 }, raw)
  else (g, if 0 ≤ g.lastValid then g.lastValid else raw)

/-- Brake, pause and drop every adaptation, as after an unconfirmed or sudden force change. -/
def haltForJump (s : Source) : Source :=
  let s := s.brake
  resetPrecision { s with
    near := { s.near with wait := true, pauseStart := s.now, stallLevel := 0 }
    control := { s.control with pulseActive := false, pulseEnd := s.now }
    pulse := { s.pulse with refPressure := -1, boost := 0, stallCnt := 0, forwardMs := pulseDurationMs } }

def jumpedNear (s : Source) : Bool :=
  0 ≤ s.near.lastPressure ∧ s.control.target * (2 / 5) ≤ s.control.current ∧
    20 < |s.control.current - s.near.lastPressure|

def brakeAtTarget (s : Source) : Source :=
  if s.control.pulseActive ∧ |s.control.error| ≤ 3 then endPulse s else s

def haltOnJump (s : Source) : Source :=
  if jumpedNear s then haltForJump s else s

def markNear (s : Source) : Source :=
  { s with near := { s.near with feedbackStamp := s.feedbackStamp } }

def rememberNear (s : Source) : Source :=
  { s with near := { s.near with lastPressure := s.control.current } }

def nearGate (s : Source) : Source :=
  if s.feedbackStamp ≠ s.near.feedbackStamp then
    rememberNear (haltOnJump (brakeAtTarget (markNear s)))
  else s

def selectMode (s : Source) : Mode :=
  if approachDue s then .coarse
  else if isInHoldRange s.control.error then .hold
  else if isInFineRange s.control.error then .fine
  else .micro

/-- Leaving MICRO clears the deceleration zone; leaving both pulse modes clears the ladder. -/
def enterMode (mode : Mode) (s : Source) : Source :=
  let s := { s with control := { s.control with mode := mode } }
  let s :=
    if mode = .micro then s
    else { s with near := { s.near with forwardActive := false, stallLevel := 0 } }
  if mode = .micro ∨ mode = .fine then s else resetPrecision s

/-- The fall back from FINE to MICRO; `selectMode` has just tested the same range. -/
def fallBack (s : Source) : Source :=
  if s.control.mode = .fine ∧ ¬ isInFineRange s.control.error ∧ ¬ isInHoldRange s.control.error then
    { s with control := { s.control with mode := .micro, pulseActive := false } }
  else s

/-- The final `switch` of `PressureControl_Update`. -/
def runMode (s : Source) : Source :=
  match s.control.mode with
  | .coarse => coarseMode s
  | .micro => microMode s
  | .fine => fineMode s
  | .hold | .stop | .emergency => s.emergencyStop

def pausing (s : Source) : Bool :=
  s.near.wait && decide (Source.since s s.near.pauseStart < 400)

/-- `PressureControl_Update` behind the jump filter, on an accepted value. -/
def regulate (s : Source) : Source :=
  let s := { s with
    hasContacted := s.hasContacted || decide (10 ≤ s.control.current)
    control := { s.control with error := s.control.target - s.control.current } }
  let s := nearGate s
  if pausing s then s.brake
  else
    let s := { s with near := { s.near with wait := false } }
    runMode (fallBack (enterMode (selectMode s) s))

/-- `PressureControl_Update` once the 10 ms grid is due. -/
def processFrame (s : Source) : Source :=
  let s := { s with control := { s.control with lastControlTime := s.now } }
  let filtered := filterGlitch s.feedbackStamp s.actualPressure s.glitch
  let s := { s with glitch := filtered.1 }
  if 0 < s.glitch.cnt then
    let s := haltForJump s
    { s with near := { s.near with forwardActive := false } }
  else regulate { s with control := { s.control with current := filtered.2 } }

/-- `PressureControl_Update`. -/
def update (s : Source) : Source :=
  if ¬ s.ready then s
  else if 500 < Source.since s s.feedbackStamp then
    { s.setVoltage 0 with control := { s.control with pulseActive := false } }
  else if (s.now - s.control.lastControlTime).toNat < s.control.intervalMs.toNat then s
  else processFrame s

/-! ### Entry points -/

/-- `ForceBuildSource_Reset`. -/
def reset (target : ℚ) (now : U32) (s : Source) : Source :=
  { Source.initial with
    ready := true
    control := {
      target := target, current := 0, error := 0, mode := .stop
      intervalMs := 10, lastControlTime := now - 10
      pulseStart := 0, pulseActive := false, pulseEnd := 0 }
    now := now
    feedbackStamp := s.feedbackStamp
    actualPressure := s.actualPressure
    sequence := s.sequence
    haveSequence := false
    out := s.out }

def buildMode : Mode → BuildMode
  | .coarse => .coarse
  | .fine => .fine
  | _ => .micro

def buildPhase (mode : BuildMode) (error : ℚ) : Phase :=
  if mode = .coarse then .approach else if error ≤ 50 then .taper else .build

def readDecision (s : Source) : Decision where
  action := if s.control.mode = .coarse ∧ s.out.command = 5000 then .approach else s.out.action
  mode := buildMode s.control.mode
  phase := buildPhase (buildMode s.control.mode) s.control.error
  normalMs := s.out.normalMs
  settleMs := settleMs s
  precisionLevel := s.precision.level
  precisionExtraMs := s.precision.extraMs
  precisionEscape := s.precision.escapeSteps
  precisionBand := s.precision.tightestBand
  boostCommand := lround (s.pulse.boost * 1000)
  stallCount := s.pulse.stallCnt
  command := s.out.command
  filtered := s.control.current
  precisionLatched := s.precision.latched
  nearWait := s.near.wait

/-- The inputs of one `ForceBuildSource_Step` call. -/
structure Frame where
  measured : ℚ
  sequence : U64
  received : U32
  now : U32
  pulseActive : Bool
  endedMs : U32

/-- A frame `ForceBuildSource_Step` returns on without touching the controller. -/
def Frame.ignored (f : Frame) (s : Source) : Prop :=
  f.measured < 0 ∨ 20 < (f.now - f.received).toNat ∨
    (s.haveSequence ∧ ¬ After f.sequence s.sequence)

instance (f : Frame) (s : Source) : Decidable (f.ignored s) :=
  inferInstanceAs (Decidable (_ ∨ _ ∨ _))

def latchFrame (f : Frame) (s : Source) : Source :=
  { s with
    out := .zero
    haveSequence := true
    sequence := f.sequence
    now := f.now
    feedbackStamp := f.received
    actualPressure := f.measured
    control := { s.control with pulseActive := f.pulseActive, pulseEnd := f.endedMs } }

/-- `ForceBuildSource_Step`. -/
def step (f : Frame) (s : Source) : Source × Decision :=
  if f.ignored s then ({ s with out := .zero }, .zero)
  else
    let s := latchFrame f s
    if s.control.target ≤ f.measured then
      ({ s with out := { s.out with action := .off } }, { Decision.zero with action := .off })
    else
      let s := update s
      (s, readDecision s)

end Sd700.Pressure.Update
