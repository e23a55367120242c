import Sd700.Logic.Run
import Sd700.Machine.Motion

/-! The entry points of `machine.c`, and every call into the machine or its executor as one event. -/

namespace Sd700.Machine.Handlers
open Logic.Run Logic.Floating Build.Contract Motor.Interface Motor.Pulses ForcePi Context Motion
open Servo.State (MachineFault FaultDetail CommandType CommandResult Command Sample)

variable {F Exec : Type} (env : Platform F Exec)

def blank (x : Exec) : System F Exec where
  state := .bootSafe
  fault := .none
  faultDetail := .none
  lastCommandResult := .accepted
  settlePhase := .waitDelay
  approachProfile := .first
  config := .zero
  pressure := noSample
  targetUnits := 0
  settleGateSequence := 0
  motorRequestSequence := 0
  stateEnteredMs := 0
  cycleStartedMs := 0
  targetValid := false
  configValid := false
  settleFeedbackAfterMs := 0
  autoHasContacted := false
  autoApproachPending := false
  diagnosticRequestSequence := 0
  pi := ⟨.zero env.ops, ⟨.zero env.ops, env.ops.zero, false⟩, .zero env.ops, false, false, 0, 0, .none,
    env.ops.zero, 0⟩
  press := .zero
  pressEndedUnits := 0
  exec := x

/-- `Machine_Initialize`; a missing configuration is not valid. The diagnostics outlive the context. -/
def initializeContext (config : Option MachineConfig) (now : U32) (w : System F Exec) : System F Exec :=
  let fresh := { blank env (disable env w).exec with
    lastCommandResult := .notAllowed, stateEnteredMs := now
    configValid := match config with
      | none => false
      | some c => configIsValid env.policy c
    config := config.getD .zero, pressEndedUnits := w.pressEndedUnits }
  if (env.executor.disable w.exec).1 ≠ .ok then
    { fresh with state := .fault, fault := .motor, faultDetail := .motorHardware }
  else fresh

/-- `Machine_CompleteBoot`. -/
def completeBoot (checksPassed : Bool) (now : U32) (w : System F Exec) : System F Exec :=
  if w.state ≠ .bootSafe then w
  else if !checksPassed || !w.configValid || !env.executor.isHealthy w.exec then
    enterFault env .boot .bootConfiguration now w
  else
    match disableOrFault env now w with
    | (false, w) => w
    | (true, w) => { w with state := .idle, stateEnteredMs := now, fault := .none, faultDetail := .none }

/-! ### Commands -/

def stoppedState (s : MachineState) : MachineState :=
  if s = .fault then .fault else if s = .bootSafe then .bootSafe else .idle

/-- `Machine_Stop`. -/
def stop (now : U32) (w : System F Exec) : CommandResult × System F Exec :=
  match disableOrFault env now w with
  | (false, w) => (.executorFailed, w)
  | (true, x) =>
    let x := resetForcePi env (clearTransientMotion (recordPressEnd env x))
    (.accepted, { x with cycleStartedMs := 0, state := stoppedState w.state, stateEnteredMs := now })

/-- `CMD_SET_TARGET`. -/
def setTarget (units : ℤ) (w : System F Exec) : CommandResult × System F Exec :=
  if w.state ≠ .idle then
    (if w.state = .fault ∨ w.state = .bootSafe then .notAllowed else .busy, w)
  else if units < w.config.contactThresholdUnits ∨ w.config.maximumTargetUnits < units then
    (.invalidValue, w)
  else (.accepted, resetForcePi env { w with targetUnits := units, targetValid := true })

def directReady (w : System F Exec) : Bool :=
  w.configValid && env.executor.isHealthy w.exec && !(snapshot env w).logicalActive &&
    (snapshot env w).physicalOutputDisabled && outputIsDisabled env w

/-- `CMD_DIRECT_PRESS_PULSE` and `CMD_DIRECT_RELEASE_PULSE`. -/
def directPulse (direction : Direction) (now : U32) (w : System F Exec) : CommandResult × System F Exec :=
  if !env.policy.directCommands then (.unsupported, w)
  else if w.state ≠ .idle then
    (if w.state = .fault ∨ w.state = .bootSafe then .notAllowed else .busy, w)
  else if !directReady env w then (.notReady, w)
  else if env.policy.directPressureRequired && !isPressureFresh now w then (.notReady, w)
  else startDirectPulse env direction now w

def automaticReady (now : U32) (w : System F Exec) : Bool :=
  w.targetValid && w.configValid && isPressureFresh now w && env.executor.isHealthy w.exec &&
    !(snapshot env w).logicalActive

def beginCycle (now : U32) (w : System F Exec) : System F Exec :=
  let w := { resetForcePi env w with cycleStartedMs := now }
  if env.policy.isAutoTarget then
    let contacted := decide (w.config.contactThresholdUnits ≤ w.pressure.control)
    { w with pressEndedUnits := 0, autoHasContacted := contacted, autoApproachPending := !contacted }
  else w

def launch (now : U32) (w : System F Exec) : CommandResult × System F Exec :=
  if w.pressure.control < w.config.contactThresholdUnits then startApproach env .first now w
  else settleResult (enterSettle env now w)

/-- `CMD_AUTO_START`. -/
def autoStart (now : U32) (w : System F Exec) : CommandResult × System F Exec :=
  if !env.policy.automaticCommands then (.unsupported, w)
  else if w.state ≠ .idle then (if w.state = .fault then .notAllowed else .busy, w)
  else if !automaticReady env now w then (.notReady, w)
  else if env.policy.isAutoTarget && (!w.pi.enabled || !forcePiMotorIdle env w) then (.notReady, w)
  else if env.policy.isAutoTarget && decide (w.config.rawOverpressureLimitCounts ≤ w.pressure.raw) then
    (.notReady, enterFault env .overpressure .none now w)
  else launch env now (beginCycle env now w)

def command (c : Command) (now : U32) (w : System F Exec) : CommandResult × System F Exec :=
  match c.type with
  | .stop => stop env now w
  | .setTarget => setTarget env c.targetUnits w
  | .directPressPulse => directPulse env .press now w
  | .directReleasePulse => directPulse env .release now w
  | .autoStart => autoStart env now w
  | _ => (.unsupported, w)

/-- `Machine_HandleCommand`: the context keeps the result. -/
def handleCommand (c : Command) (now : U32) (w : System F Exec) : System F Exec :=
  keepResult (command env c now w)

/-! ### Pressure -/

/-- The convergence budget, which a first search of AutoTarget does not consume. -/
def cycleExpired (now : U32) (w : System F Exec) : Bool :=
  decide (w.state ≠ .autoHold) && (!env.policy.isAutoTarget || w.autoHasContacted) &&
    decide (w.config.automaticCycleTimeoutMs ≤ now - w.cycleStartedMs)

def feedbackExpired (now : U32) (w : System F Exec) : Bool :=
  decide (w.state = .autoSettle) && decide (w.settlePhase = .waitSample) &&
    decide (w.config.settleFeedbackTimeoutMs ≤ now - w.stateEnteredMs)

def checkContact (now : U32) (w : System F Exec) : System F Exec :=
  if env.policy.isAutoTarget && hasCurrentApproachContact now w then stopApproachOnContact env now w else w

/-- `Machine_CheckPressureSafety`. -/
def checkPressureSafety (now : U32) (w : System F Exec) : System F Exec :=
  if !requiresPressureSafety env.policy w.state then w
  else if !isPressureFresh now w then enterFault env .pressureSensor .pressureTimeout now w
  else if isDirectPulse w.state then w
  else if cycleExpired env now w then enterFault env .motionTimeout .cycleTimeout now w
  else
    checkContact env now (if feedbackExpired now w then
      enterFault env .pressureSensor .settleFeedbackTimeout now w else w)

/-- A sample delivered to AutoTarget before the settle gate's tick is retained but never judged. -/
def beforeGate (p : Sample) (w : System F Exec) : Bool :=
  env.policy.isAutoTarget && decide (w.state = .autoSettle) &&
    (decide (p.received - w.settleFeedbackAfterMs = 0) ||
      decide (0x80000000 ≤ p.received - w.settleFeedbackAfterMs))

/-- The supervision of a run with the strategy: deadlines, the gate, then one calculation. The flag says
whether the sample may still be answered. -/
def supervise (p : Sample) (now : U32) (w : System F Exec) : Bool × System F Exec :=
  if w.pi.enabled && isAutomatic w.state then
    let w := checkPressureSafety env now w
    if beforeGate env p w then (false, w)
    else if w.state = .fault then (false, w)
    else
      match observeForcePi env now w with
      | (false, w) => (false, w)
      | (true, w) =>
        (!(decide (w.state = .autoSettle ∨ w.state = .autoHold) && !forcePiMotorIdle env w), w)
  else (true, w)

def trackPeak (p : Sample) (now : U32) (w : System F Exec) : System F Exec :=
  if env.policy.isAutoTarget && w.press.inFlight && decide (w.state = .autoPulse) && isPressureFresh now w &&
      decide (w.press.observedPeakUnits < p.control) then
    { w with press := { w.press with observedPeakUnits := p.control } }
  else w

def contactApproach (now : U32) (w : System F Exec) : System F Exec :=
  if env.policy.isAutoTarget then
    if hasCurrentApproachContact now w then stopApproachOnContact env now w else w
  else (enterSettle env now w).2

def judgeSettled (p : Sample) (now : U32) (w : System F Exec) : System F Exec :=
  if env.policy.isAutoTarget then
    let w := consumePressFeedback env w
    let w := if w.config.contactThresholdUnits ≤ p.control then
      { w with autoHasContacted := true, autoApproachPending := false } else w
    classifySettledSample env now w
  else classifySettledSample env now w

def actOn (p : Sample) (now : U32) (w : System F Exec) : System F Exec :=
  if w.state = .autoApproach ∧ w.config.contactThresholdUnits ≤ p.control then contactApproach env now w
  else if w.state = .autoSettle ∧ w.settlePhase = .waitSample ∧ w.settleGateSequence < p.sequence then
    judgeSettled env p now w
  else if w.state = .autoHold then classifyHoldSample env now w
  else w

/-- `context->pressure = *sample`. -/
def store (p : Sample) (w : System F Exec) : System F Exec := { w with pressure := p }

def notLater (p : Sample) (w : System F Exec) : Bool :=
  Valid w.pressure && decide (p.sequence ≤ w.pressure.sequence)

def receivedBefore (p : Sample) (w : System F Exec) : Bool :=
  env.policy.isAutoTarget && Valid w.pressure && decide (0x80000000 ≤ p.received - w.pressure.received)

def pressureFault (detail : FaultDetail) (now : U32) (w : System F Exec) : System F Exec :=
  if requiresPressureSafety env.policy w.state then enterFault env .pressureSensor detail now w else w

def overLimit (p : Sample) (w : System F Exec) : Bool :=
  w.config.rawOverpressureEnabled && decide (w.config.rawOverpressureLimitCounts ≤ p.raw)

def acceptSample (p : Sample) (now : U32) (w : System F Exec) : System F Exec :=
  if overLimit p w then enterFault env .overpressure .none now w
  else
    match supervise env p now w with
    | (false, w) => w
    | (true, w) => actOn env p now (trackPeak env p now w)

/-- `Machine_HandlePressureSample`. -/
def handlePressureSample (p : Sample) (now : U32) (w : System F Exec) : System F Exec :=
  if !Valid p then pressureFault env .pressureInvalid now (store p w)
  else if notLater p w then
    if p.sequence < w.pressure.sequence then pressureFault env .pressureOrderLost now w else w
  else if receivedBefore env p w then pressureFault env .pressureOrderLost now w
  else acceptSample env p now (store p w)

/-! ### The remaining entry points -/

/-- `Machine_ReportFault`. -/
def reportFault (fault : MachineFault) (detail : FaultDetail) (now : U32) (w : System F Exec) :
    System F Exec :=
  if fault = .none then enterFault env .internal .internalState now w else enterFault env fault detail now w

def openGate (now : U32) (w : System F Exec) : System F Exec :=
  { w with
    settleGateSequence := w.pressure.sequence
    settleFeedbackAfterMs := if env.policy.isAutoTarget then now else w.settleFeedbackAfterMs
    settlePhase := .waitSample, stateEnteredMs := now }

/-- `Machine_Tick`. -/
def tick (now : U32) (w : System F Exec) : System F Exec :=
  match w.state with
  | .autoSettle =>
    if w.settlePhase = .waitDelay ∧ w.config.settleDelayMs ≤ now - w.stateEnteredMs then openGate env now w else w
  | .jogPress | .jogRelease | .complete => enterFault env .internal .internalState now w
  | _ => w

/-- The calls that reach the machine, and what happens to the executor in between, each with its instant. -/
inductive Event (F : Type)
  | initializeContext (config : Option MachineConfig) (now : U32)
  | completeBoot (checksPassed : Bool) (now : U32)
  | configureForcePi (config : PiConfig F) (now : U32)
  | handleCommand (c : Command) (now : U32)
  | handlePressureSample (p : Sample) (now : U32)
  | checkPressureSafety (now : U32)
  | handleMotorService (now : U32)
  | reportFault (fault : MachineFault) (detail : FaultDetail) (now : U32)
  | tick (now : U32)
  | isPressureFresh (now : U32)
  | service (now : U32)
  | interrupt (now : U32)

def call (w : System F Exec) : Event F → System F Exec
  | .initializeContext config now => initializeContext env config now w
  | .completeBoot checksPassed now => completeBoot env checksPassed now w
  | .configureForcePi config _ => (configureForcePi env config w).2
  | .handleCommand c now => handleCommand env c now w
  | .handlePressureSample p now => handlePressureSample env p now w
  | .checkPressureSafety now => checkPressureSafety env now w
  | .handleMotorService now => handleMotorService env now w
  | .reportFault fault detail now => reportFault env fault detail now w
  | .tick now => tick env now w
  | .isPressureFresh _ => w
  | .service now => { w with exec := (env.executor.service now w.exec).2 }
  | .interrupt _ => { w with exec := env.executor.interrupt w.exec }

end Sd700.Machine.Handlers
