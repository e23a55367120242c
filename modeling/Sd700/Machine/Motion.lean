import Sd700.Machine.Context

/-! The transitions of `machine.c` below its entry points: faults, requests to the executor, settling,
holding, the contact stop and the correction pulses. -/

namespace Sd700.Machine.Motion
open Logic.Floating Build.Contract Motor.Interface Motor.Pulses ForcePi Context
open Servo.State (MachineFault FaultDetail CommandResult Sample)

variable {F Exec : Type} (env : Platform F Exec)

def snapshot (w : System F Exec) : PulseSnapshot := env.executor.snapshot w.exec

def outputIsDisabled (w : System F Exec) : Bool := env.executor.outputIsDisabled w.exec

def disable (w : System F Exec) : System F Exec := { w with exec := (env.executor.disable w.exec).2 }

/-! ### Faults -/

/-- `Machine_ClearTransientMotion`. -/
def clearTransientMotion (w : System F Exec) : System F Exec :=
  { w with motorRequestSequence := 0, settleGateSequence := 0, settlePhase := .waitDelay,
           approachProfile := .first, autoHasContacted := false, autoApproachPending := false }

/-- `Machine_ResetPressFeedback`, which only AutoTarget compiles. -/
def resetPressFeedback (w : System F Exec) : System F Exec :=
  if env.policy.isAutoTarget then { w with press := .zero } else w

/-- `Machine_RecordPressEnd`, likewise. -/
def recordPressEnd (w : System F Exec) : System F Exec :=
  if env.policy.isAutoTarget && w.press.inFlight then
    { w with pressEndedUnits := w.press.beforeUnits, press := { w.press with inFlight := false } }
  else w

/-- `Machine_ResetForcePi`. -/
def resetForcePi (w : System F Exec) : System F Exec :=
  let w := resetPressFeedback env w
  { w with pi := { w.pi with
      state := { reset env.ops w.pi.state with integralMv := env.ops.zero }
      snapshot := .zero env.ops, timeValid := false, receivedAtMs := 0, sampleSequence := 0
      inhibitReason := .none, blockedSuggestionMv := env.ops.zero, requestedSignedMv := 0 } }

def reportedDetail (fault : MachineFault) (detail : FaultDetail) : FaultDetail :=
  if fault = .motor ∧ detail = .none then .motorHardware else detail

/-- `Machine_EnterFault`. -/
def enterFault (fault : MachineFault) (detail : FaultDetail) (now : U32) (w : System F Exec) :
    System F Exec :=
  let w := resetForcePi env (clearTransientMotion (recordPressEnd env (disable env w)))
  { w with fault := fault, faultDetail := reportedDetail fault detail, state := .fault, stateEnteredMs := now }

/-! ### Requests -/

/-- `Machine_CaptureMotorRequest`, after the executor's answer to the start. -/
def captureMotorRequest (result : MotorResult) (next : MachineState) (now : U32) (w : System F Exec) :
    CommandResult × System F Exec :=
  if result ≠ .ok then (.executorFailed, enterFault env .motor .motorRequestRejected now w)
  else if !env.executor.activeRequestIsValid w.exec then
    (.executorFailed, enterFault env .motor .motorHardware now w)
  else
    (.accepted, { w with
      motorRequestSequence := (snapshot env w).requestSequence
      diagnosticRequestSequence := (snapshot env w).requestSequence
      state := next, stateEnteredMs := now })

def requestMotor (call : StartCall) (next : MachineState) (now : U32) (w : System F Exec) :
    CommandResult × System F Exec :=
  captureMotorRequest env (env.executor.start call w.exec).1 next now
    { w with exec := (env.executor.start call w.exec).2 }

def approachCall (profile : ApproachProfile) (now : U32) (w : System F Exec) : StartCall :=
  match profile with
  | .first => ⟨env.policy.isAutoTarget, .press, w.config.firstApproachCommandMv,
      w.config.firstApproachDurationMs, w.config.firstApproachBackstopMs, now⟩
  | .recontact => ⟨env.policy.isAutoTarget, .press, w.config.recontactCommandMv,
      w.config.recontactDurationMs, w.config.recontactBackstopMs, now⟩

/-- `Machine_StartApproach`. -/
def startApproach (profile : ApproachProfile) (now : U32) (w : System F Exec) :
    CommandResult × System F Exec :=
  requestMotor env (approachCall env profile now w) .autoApproach now
    { w with approachProfile := profile, autoApproachPending := env.policy.isAutoTarget || w.autoApproachPending }

/-- `Machine_StartPulse`. -/
def startPulse (direction : Direction) (commandMv : U32) (now : U32) (w : System F Exec) :
    CommandResult × System F Exec :=
  requestMotor env ⟨true, direction, commandMv, w.config.pulseDurationMs, w.config.pulseBackstopMs, now⟩
    .autoPulse now w

/-- `Machine_StartDirectPulse`. -/
def startDirectPulse (direction : Direction) (now : U32) (w : System F Exec) :
    CommandResult × System F Exec :=
  requestMotor env ⟨true, direction, 10000, 100, 150, now⟩
    (match direction with
      | .press => .directPressPulse
      | .release => .directReleasePulse) now w

/-! ### Settling and holding -/

/-- The condition of `Machine_DisableOrFault`. -/
def disableSucceeds (w : System F Exec) : Bool :=
  decide ((env.executor.disable w.exec).1 = .ok) && outputIsDisabled env (disable env w)

/-- `Machine_DisableOrFault`. -/
def disableOrFault (now : U32) (w : System F Exec) : Bool × System F Exec :=
  if disableSucceeds env w then (true, { disable env w with motorRequestSequence := 0 })
  else (false, enterFault env .motor .motorHardware now (disable env w))

/-- `Machine_EnterSettle`. -/
def enterSettle (now : U32) (w : System F Exec) : Bool × System F Exec :=
  match disableOrFault env now w with
  | (false, w) => (false, w)
  | (true, w) => (true, { w with
      state := .autoSettle, settlePhase := .waitDelay, settleGateSequence := w.pressure.sequence
      settleFeedbackAfterMs := now + w.config.settleDelayMs, stateEnteredMs := now })

def settleResult (outcome : Bool × System F Exec) : CommandResult × System F Exec :=
  (if outcome.1 then .accepted else .executorFailed, outcome.2)

/-- `Machine_EnterHold`. -/
def enterHold (now : U32) (w : System F Exec) : Bool × System F Exec :=
  match disableOrFault env now w with
  | (false, w) => (false, w)
  | (true, w) =>
    let w := resetPressFeedback env w
    (true, { w with state := .autoHold, stateEnteredMs := now, cycleStartedMs := 0 })

/-! ### Completions -/

/-- What an approach's completion leads to. AutoTarget settles after a pulse; the other builds expect
contact to end the run. -/
def approachCompleted (now : U32) (w : System F Exec) : System F Exec :=
  match (snapshot env w).lastCompletion with
  | .normal =>
    if env.policy.isAutoTarget then (enterSettle env now w).2
    else enterFault env .motionTimeout .approachTimeout now w
  | .backstop => enterFault env .motionTimeout .approachTimeout now w
  | _ => enterFault env .motor .motorHardware now w

def notePressCompleted (now : U32) (w : System F Exec) : System F Exec :=
  if env.policy.isAutoTarget && w.press.inFlight &&
      decide (w.press.requestSequence = (snapshot env w).requestSequence) &&
      decide ((snapshot env w).direction = .press) then
    let w := recordPressEnd env w
    { w with press := { w.press with completedAtMs := now, feedbackPending := true } }
  else w

def pulseCompleted (now : U32) (w : System F Exec) : System F Exec :=
  match (snapshot env w).lastCompletion with
  | .normal => (enterSettle env now (notePressCompleted env now w)).2
  | .backstop => enterFault env .motionTimeout .pulseTimeout now w
  | _ => enterFault env .motor .motorHardware now w

def directCompleted (now : U32) (w : System F Exec) : System F Exec :=
  match (snapshot env w).lastCompletion with
  | .normal => { w with motorRequestSequence := 0, state := .idle, stateEnteredMs := now }
  | .backstop => enterFault env .motionTimeout .directPulseTimeout now w
  | _ => enterFault env .motor .motorHardware now w

/-- `Machine_HandleMotorService`. -/
def handleMotorService (now : U32) (w : System F Exec) : System F Exec :=
  if w.state ≠ .autoApproach ∧ w.state ≠ .autoPulse ∧ isDirectPulse w.state = false then w
  else if (snapshot env w).requestSequence ≠ w.motorRequestSequence then
    if isDirectPulse w.state then enterFault env .motor .motorHardware now w else w
  else if (snapshot env w).logicalActive then
    if env.executor.activeRequestIsValid w.exec then w else enterFault env .motor .motorHardware now w
  else if !outputIsDisabled env w then enterFault env .motor .motorHardware now w
  else if (snapshot env w).lastCompletion = .error then enterFault env .motor .motorHardware now w
  else if isDirectPulse w.state then directCompleted env now w
  else if w.state = .autoApproach then approachCompleted env now w
  else pulseCompleted env now w

/-! ### The contact stop -/

/-- `Machine_HasCurrentApproachContact`. -/
def hasCurrentApproachContact (now : U32) (w : System F Exec) : Bool :=
  w.autoApproachPending && decide (w.state = .autoApproach ∨ w.state = .autoSettle) &&
    isPressureFresh now w && decide (w.config.contactThresholdUnits ≤ w.pressure.control) &&
    decide (now - w.pressure.received ≤ now - w.cycleStartedMs)

def latchContact (w : System F Exec) : System F Exec :=
  if w.state = .autoSettle then
    { w with
      cycleStartedMs := if w.autoHasContacted then w.cycleStartedMs else w.pressure.received
      autoHasContacted := true, autoApproachPending := false }
  else w

/-- `Machine_StopApproachOnContact`: a latched completion is classified before the output is cancelled. -/
def stopApproachOnContact (now : U32) (w : System F Exec) : System F Exec :=
  let served := { w with exec := (env.executor.service now w.exec).2 }
  if (env.executor.service now w.exec).1 ≠ .ok then enterFault env .motor .motorHardware now served
  else
    let w := handleMotorService env now served
    latchContact (if w.state = .autoApproach then (enterSettle env now w).2 else w)

/-! ### The strategy -/

/-- `Machine_ForcePiMotorIdle`. -/
def forcePiMotorIdle (w : System F Exec) : Bool :=
  !(snapshot env w).logicalActive && env.executor.isHealthy w.exec && outputIsDisabled env w

/-- `Machine_ForcePiMagnitudeValid`. -/
def forcePiMagnitudeValid (ops : FloatOps F) (magnitude : F) (direction : Direction) : Bool :=
  if !ops.isFinite magnitude || ops.lt magnitude ops.zero || ops.lt (ops.ofInt supplyReferenceMv) magnitude then
    false
  else if ops.lt magnitude ops.one then true
  else (planCommand direction (ops.truncate (ops.add magnitude ops.half))).isSome

def withinAutoTargetPi (ops : FloatOps F) (config : MachineConfig) (c : PiConfig F) : Bool :=
  ops.eq c.kiMvPerUnitS ops.zero && ops.eq c.integralMinMv ops.zero && ops.eq c.integralMaxMv ops.zero &&
    !ops.lt (ops.ofInt config.pulseCommandMv.toNat) c.outputMaxMv &&
    !ops.lt c.outputMinMv (ops.neg (ops.ofInt 800))

/-- The checks of `Machine_ConfigureForcePi` on the strategy itself. -/
def acceptsPi (config : MachineConfig) (c : PiConfig F) : Bool :=
  (initialState env.ops c).isSome && !env.ops.lt env.ops.zero c.outputMinMv &&
    !env.ops.lt c.outputMaxMv env.ops.zero &&
    forcePiMagnitudeValid env.ops (env.ops.neg c.outputMinMv) .release &&
    forcePiMagnitudeValid env.ops c.outputMaxMv .press &&
    (!env.policy.isAutoTarget || withinAutoTargetPi env.ops config c)

def effectivePi (config : MachineConfig) (c : PiConfig F) : PiConfig F :=
  if config.benchReleaseCorrectionEnabled then c else { c with outputMinMv := env.ops.zero }

/-- `Machine_ConfigureForcePi`. -/
def configureForcePi (c : PiConfig F) (w : System F Exec) : CommandResult × System F Exec :=
  if !env.policy.automaticCommands then (.unsupported, w)
  else if w.state ≠ .idle then (.notAllowed, w)
  else if !w.configValid || !forcePiMotorIdle env w then (.notReady, w)
  else if !acceptsPi env w.config c then (.invalidValue, w)
  else
    match initialState env.ops (effectivePi env w.config c) with
    | none => (.invalidValue, w)
    | some next =>
      (.accepted, resetForcePi env { w with pi := { w.pi with
        config := effectivePi env w.config c, state := next, enabled := true } })

def tolerance (w : System F Exec) : ℤ :=
  if w.state = .autoHold then w.config.holdExitToleranceUnits else w.config.holdEnterToleranceUnits

def isBelow (w : System F Exec) : Bool := decide (w.pressure.control < w.targetUnits - tolerance w)

def isAbove (w : System F Exec) : Bool := decide (w.targetUnits + tolerance w < w.pressure.control)

def correctionReady (w : System F Exec) : Bool :=
  (decide (w.state = .autoHold) ||
      decide (w.state = .autoSettle) && decide (w.settlePhase = .waitSample) &&
        decide (w.settleGateSequence < w.pressure.sequence)) &&
    decide (w.config.contactThresholdUnits ≤ w.pressure.control) && (isBelow w || isAbove w)

def elapsedSeconds (w : System F Exec) : F :=
  if w.pi.timeValid then
    env.ops.div (env.ops.ofInt (w.pressure.received - w.pi.receivedAtMs).toNat) (env.ops.ofInt 1000)
  else env.ops.zero

def pointsAway (w : System F Exec) (limited : F) : Bool :=
  isAbove w && env.ops.lt env.ops.zero limited || isBelow w && env.ops.lt limited env.ops.zero

/-- Why the previewed correction is inhibited, the suggestion that is suppressed, and whether the
integral may move. -/
def inhibition (preview : PiSnapshot F) (w : System F Exec) : InhibitReason × F × Bool :=
  if !correctionReady w then (.waiting, env.ops.zero, false)
  else if !forcePiMotorIdle env w then (.busy, env.ops.zero, false)
  else if pointsAway env w preview.limitedOutputMv then (.wrongDirection, preview.limitedOutputMv, false)
  else if isAbove w && !w.config.benchReleaseCorrectionEnabled then
    (.releaseDisabled, preview.unlimitedOutputMv, false)
  else (.none, env.ops.zero, env.ops.lt env.ops.zero (elapsedSeconds env w))

def calculate (state : PiState F) (integrate : Bool) (w : System F Exec) :
    Option (PiState F × PiSnapshot F) :=
  update env.ops w.pi.config state (env.ops.ofInt w.targetUnits) (env.ops.ofInt w.pressure.control)
    (elapsedSeconds env w) integrate

/-- The strategy after a calculation, with the increment rolled back when its result points away. -/
def observed (previewState : PiState F) (preview : PiSnapshot F) (inhibit : InhibitReason × F × Bool)
    (next : PiState F) (result : PiSnapshot F) (w : System F Exec) : System F Exec :=
  let rolledBack := inhibit.2.2 && pointsAway env w result.limitedOutputMv
  { w with pi := { w.pi with
      state := if rolledBack then previewState else next
      snapshot := if rolledBack then preview else result
      inhibitReason := if rolledBack then .wrongDirection else inhibit.1
      blockedSuggestionMv := if rolledBack then result.limitedOutputMv else inhibit.2.1
      requestedSignedMv := 0, timeValid := true
      receivedAtMs := w.pressure.received, sampleSequence := w.pressure.sequence } }

/-- `Machine_ObserveForcePi`. -/
def observeForcePi (now : U32) (w : System F Exec) : Bool × System F Exec :=
  match calculate env w.pi.state false w with
  | none => (false, enterFault env .internal .internalState now w)
  | some (previewState, preview) =>
    let inhibit := inhibition env preview w
    match calculate env w.pi.state inhibit.2.2 w with
    | none => (false, enterFault env .internal .internalState now w)
    | some (next, result) => (true, observed env previewState preview inhibit next result w)

/-! ### Corrections -/

/-- `Machine_PressBand`. -/
def pressBand (w : System F Exec) : ℕ :=
  let error := w.targetUnits - w.pressure.control
  if error ≤ w.config.holdExitToleranceUnits then 1
  else if error ≤ 2 * w.config.holdExitToleranceUnits then 2 else 3

/-- `Machine_PressBoostLimit`. -/
def pressBoostLimit (w : System F Exec) : ℕ :=
  if pressBand w = 3 then 2000 else if pressBand w = 2 then 1000 else 0

/-- `Machine_SelectPressBand`. -/
def selectPressBand (w : System F Exec) : System F Exec :=
  let press := if pressBand w ≠ w.press.band ∨ pressBand w = 1 then
    { w.press with boostMv := 0, lowResponseCount := 0 } else w.press
  { w with press := { press with band := pressBand w } }

/-- `Machine_PressBaseMv`. -/
def pressBaseMv (w : System F Exec) : ℕ :=
  let error := w.targetUnits - w.pressure.control
  let enter := w.config.holdEnterToleranceUnits
  let fineTop := 2 * w.config.holdExitToleranceUnits
  if error ≤ enter then 0
  else if error ≤ fineTop then 400 + (((error - enter) * 600).tdiv (fineTop - enter)).toNat
  else if 100 ≤ error - fineTop then 3000
  else 1000 + (((error - fineTop) * 2000).tdiv 100).toNat

def adaptBoost (rise : ℤ) (w : System F Exec) : System F Exec :=
  let limit := pressBoostLimit w
  if 2 ≤ rise ∨ limit = 0 then
    { w with press := { w.press with
        boostMv := min w.press.boostMv (if w.press.band = 3 then limit else 0), lowResponseCount := 0 } }
  else if 2 ≤ w.press.lowResponseCount + 1 then
    { w with press := { w.press with boostMv := min (w.press.boostMv + 300) limit, lowResponseCount := 0 } }
  else { w with press := { w.press with lowResponseCount := w.press.lowResponseCount + 1 } }

/-- `Machine_ConsumePressFeedback`. -/
def consumePressFeedback (w : System F Exec) : System F Exec :=
  if !w.press.feedbackPending then w
  else
    let w := { w with press := { w.press with feedbackPending := false } }
    if w.diagnosticRequestSequence ≠ w.press.requestSequence ∨
        w.pressure.sequence ≤ w.press.beforeSequence ∨
        0x80000000 ≤ w.pressure.received - w.press.completedAtMs then
      resetPressFeedback env w
    else if w.pressure.control < w.config.contactThresholdUnits ∨
        w.targetUnits - w.config.holdEnterToleranceUnits ≤ w.pressure.control then
      resetPressFeedback env w
    -- Crossing a band asks for two new responses in that band.
    else if w.press.band ≠ pressBand w then selectPressBand w
    else adaptBoost (w.pressure.control - w.pressEndedUnits) (selectPressBand w)

def correctionMv (mapped : Bool) (magnitude : F) (w : System F Exec) : U32 :=
  if mapped then
    let command := pressBaseMv w + w.press.boostMv
    if w.config.pulseCommandMv.toNat < command then w.config.pulseCommandMv else BitVec.ofNat 32 command
  else BitVec.ofNat 32 (env.ops.truncate (env.ops.add magnitude env.ops.half))

def noteCorrection (mapped : Bool) (suggestion : F) (commandMv : U32) (w : System F Exec) :
    System F Exec :=
  let w := if mapped then
    { w with press := { w.press with
        requestSequence := w.motorRequestSequence, commandMv := commandMv
        beforeUnits := w.pressure.control, beforeSequence := w.pressure.sequence
        observedPeakUnits := w.pressure.control, inFlight := true, feedbackPending := false } }
    else w
  { w with pi := { w.pi with
      requestedSignedMv := if env.ops.lt env.ops.zero suggestion then commandMv.toNat else -commandMv.toNat } }

def noteIfAccepted (mapped : Bool) (suggestion : F) (commandMv : U32)
    (outcome : CommandResult × System F Exec) : CommandResult × System F Exec :=
  if outcome.1 = .accepted then (.accepted, noteCorrection env mapped suggestion commandMv outcome.2)
  else outcome

def inhibitCorrection (suggestion : F) (w : System F Exec) : System F Exec :=
  if w.pi.inhibitReason = .none then
    { w with pi := { w.pi with inhibitReason := .belowOneMv, blockedSuggestionMv := suggestion } }
  else w

def pulseCorrection (expected : Direction) (now : U32) (w : System F Exec) : CommandResult × System F Exec :=
  let suggestion := w.pi.snapshot.limitedOutputMv
  let mapped := env.policy.isAutoTarget && decide (expected = .press) && env.ops.lt env.ops.zero suggestion
  let w := if mapped then selectPressBand w else w
  let commandMv := correctionMv env mapped (env.ops.abs suggestion) w
  noteIfAccepted env mapped suggestion commandMv
    (startPulse env (if env.ops.lt env.ops.zero suggestion then .press else .release) commandMv now w)

def correct (expected : Direction) (now : U32) (w : System F Exec) : CommandResult × System F Exec :=
  let suggestion := w.pi.snapshot.limitedOutputMv
  if !w.pi.enabled then startPulse env expected w.config.pulseCommandMv now w
  else if !forcePiMagnitudeValid env.ops (env.ops.abs suggestion) expected then
    (.executorFailed, enterFault env .internal .internalState now w)
  else if w.pi.inhibitReason = .wrongDirection ∨ w.pi.inhibitReason = .releaseDisabled ∨
      env.ops.lt (env.ops.abs suggestion) env.ops.one = true then
    settleResult (enterSettle env now (inhibitCorrection suggestion w))
  else pulseCorrection env expected now w

/-- `Machine_StartCorrection`. -/
def startCorrection (expected : Direction) (now : U32) (w : System F Exec) : CommandResult × System F Exec :=
  correct env expected now (if expected = .release then resetPressFeedback env w else w)

def keepResult (outcome : CommandResult × System F Exec) : System F Exec :=
  { outcome.2 with lastCommandResult := outcome.1 }

/-- `Machine_ClassifySettledSample`. -/
def classifySettledSample (now : U32) (w : System F Exec) : System F Exec :=
  if w.pressure.control < w.config.contactThresholdUnits then
    let w := resetPressFeedback env w
    keepResult (startApproach env
      (if env.policy.isAutoTarget && !w.autoHasContacted then .first else .recontact) now w)
  else if w.pressure.control < w.targetUnits - w.config.holdEnterToleranceUnits then
    keepResult (startCorrection env .press now w)
  else if w.pressure.control ≤ w.targetUnits + w.config.holdEnterToleranceUnits then
    (enterHold env now w).2
  else if w.config.benchReleaseCorrectionEnabled || w.pi.enabled then
    keepResult (startCorrection env .release now w)
  else (enterHold env now w).2

/-- `Machine_ClassifyHoldSample`. -/
def classifyHoldSample (now : U32) (w : System F Exec) : System F Exec :=
  if w.pressure.control < w.config.contactThresholdUnits then
    keepResult (startApproach env .recontact now { w with cycleStartedMs := now })
  else if w.pressure.control < w.targetUnits - w.config.holdExitToleranceUnits then
    keepResult (startCorrection env .press now { w with cycleStartedMs := now })
  else if w.targetUnits + w.config.holdExitToleranceUnits < w.pressure.control ∧
      (w.config.benchReleaseCorrectionEnabled || w.pi.enabled) = true then
    keepResult (startCorrection env .release now { w with cycleStartedMs := now })
  else (disableOrFault env now w).2

end Sd700.Machine.Motion
