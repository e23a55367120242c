import Sd700.Machine.ForcePi
import Sd700.Motor.Pulses
import Sd700.Servo.State

/-! The context of `machine.c`: the builds without a continuous controller, from the locked dry run to
AutoTarget. The approach diagnostics and the diagnostic copies of a request are left out, except the
two values a later decision reads. -/

namespace Sd700.Machine.Context
open Logic.Floating Build.Contract Motor.Interface Motor.Pulses ForcePi
open Servo.State (MachineFault FaultDetail CommandResult Sample)

/-- The motor modes of `motion_build_policy.h`. AutoTarget is RealBench with the automatic commands. -/
inductive MotionPolicy
  | locked | realCompileCheck | scopeTest | realBench | autoTarget
  deriving DecidableEq

namespace MotionPolicy

/-- `SD700_AUTO_TARGET_ENABLED`. -/
def isAutoTarget (p : MotionPolicy) : Bool := decide (p = .autoTarget)

/-- `SD700_DIRECT_COMMANDS_ENABLED`. -/
def directCommands (p : MotionPolicy) : Bool := decide (p = .scopeTest ∨ p = .realBench ∨ p = .autoTarget)

/-- `SD700_DIRECT_PRESSURE_REQUIRED`. -/
def directPressureRequired (p : MotionPolicy) : Bool := decide (p = .realBench ∨ p = .autoTarget)

/-- `SD700_AUTOMATIC_COMMANDS_ENABLED`. -/
def automaticCommands (p : MotionPolicy) : Bool := decide (p = .locked ∨ p = .autoTarget)

end MotionPolicy

/-- `MachineState`, the states of these builds. -/
inductive MachineState
  | bootSafe | idle | jogPress | jogRelease | autoApproach | autoSettle | autoPulse | autoHold
  | complete | fault | directPressPulse | directReleasePulse
  deriving DecidableEq

/-- `MachineSettlePhase`. -/
inductive SettlePhase
  | waitDelay | waitSample
  deriving DecidableEq

/-- `MachineApproachProfile`. -/
inductive ApproachProfile
  | first | recontact
  deriving DecidableEq

/-- `MachineForcePiInhibitReason`. -/
inductive InhibitReason
  | none | waiting | busy | wrongDirection | releaseDisabled | belowOneMv
  deriving DecidableEq

/-- `MachineConfig`. -/
structure MachineConfig where
  maximumTargetUnits : ℤ
  contactThresholdUnits : ℤ
  holdEnterToleranceUnits : ℤ
  holdExitToleranceUnits : ℤ
  pressureFreshnessMs : U32
  settleDelayMs : U32
  settleFeedbackTimeoutMs : U32
  firstApproachCommandMv : U32
  firstApproachDurationMs : U32
  firstApproachBackstopMs : U32
  recontactCommandMv : U32
  recontactDurationMs : U32
  recontactBackstopMs : U32
  pulseCommandMv : U32
  pulseDurationMs : U32
  pulseBackstopMs : U32
  automaticCycleTimeoutMs : U32
  benchReleaseCorrectionEnabled : Bool
  rawOverpressureEnabled : Bool
  rawOverpressureLimitCounts : U32
  deriving DecidableEq

def MachineConfig.zero : MachineConfig :=
  ⟨0, 0, 0, 0, 0, 0, 0, 0, 0, 0, 0, 0, 0, 0, 0, 0, 0, false, false, 0⟩

/-- `g_sd700_bench_machine_config`. -/
def benchConfig : MachineConfig :=
  ⟨60000, 100, 5, 10, 200, 10, 200, 6000, 250, 300, 3000, 100, 150, 2000, 20, 50, 2000, true, false, 0⟩

/-- `g_sd700_auto_target_machine_config`. -/
def autoTargetConfig : MachineConfig :=
  ⟨275, 20, 5, 10, 200, 50, 250, 10000, 20, 50, 10000, 10, 40, 5000, 10, 40, 30000, true, true, 325⟩

def withinAutoTarget (c : MachineConfig) : Bool :=
  c.rawOverpressureEnabled &&
    decide (c.rawOverpressureLimitCounts ≤ autoTargetConfig.rawOverpressureLimitCounts) &&
    decide (c.maximumTargetUnits + c.holdExitToleranceUnits < c.rawOverpressureLimitCounts.toNat) &&
    decide (c.maximumTargetUnits ≤ autoTargetConfig.maximumTargetUnits) &&
    decide (c.firstApproachCommandMv ≤ autoTargetConfig.firstApproachCommandMv) &&
    decide (c.firstApproachDurationMs ≤ autoTargetConfig.firstApproachDurationMs) &&
    decide (c.firstApproachBackstopMs ≤ autoTargetConfig.firstApproachBackstopMs) &&
    decide (c.recontactCommandMv ≤ autoTargetConfig.recontactCommandMv) &&
    decide (c.recontactDurationMs ≤ autoTargetConfig.recontactDurationMs) &&
    decide (c.recontactBackstopMs ≤ autoTargetConfig.recontactBackstopMs) &&
    decide (c.pulseCommandMv ≤ autoTargetConfig.pulseCommandMv) &&
    decide (c.pulseDurationMs ≤ autoTargetConfig.pulseDurationMs) &&
    decide (c.pulseBackstopMs ≤ autoTargetConfig.pulseBackstopMs) &&
    decide (c.automaticCycleTimeoutMs ≤ autoTargetConfig.automaticCycleTimeoutMs) &&
    decide (c.pressureFreshnessMs ≤ autoTargetConfig.pressureFreshnessMs) &&
    decide (autoTargetConfig.settleDelayMs ≤ c.settleDelayMs) &&
    decide (c.settleFeedbackTimeoutMs ≤ autoTargetConfig.settleFeedbackTimeoutMs)

/-- `Machine_ConfigIsValid`. -/
def configIsValid (policy : MotionPolicy) (c : MachineConfig) : Bool :=
  (!policy.isAutoTarget || withinAutoTarget c) &&
    decide (0 < c.maximumTargetUnits) && decide (0 ≤ c.contactThresholdUnits) &&
    decide (c.contactThresholdUnits < c.maximumTargetUnits) && decide (0 ≤ c.holdEnterToleranceUnits) &&
    decide (c.holdEnterToleranceUnits < c.holdExitToleranceUnits) &&
    decide (c.maximumTargetUnits ≤ 2147483647 - c.holdExitToleranceUnits) &&
    decide (0 < c.pressureFreshnessMs) && decide (0 < c.settleDelayMs) &&
    decide (0 < c.settleFeedbackTimeoutMs) && decide (0 < c.firstApproachCommandMv) &&
    decide (0 < c.firstApproachDurationMs) && decide (c.firstApproachDurationMs < c.firstApproachBackstopMs) &&
    decide (0 < c.recontactCommandMv) && decide (0 < c.recontactDurationMs) &&
    decide (c.recontactDurationMs < c.recontactBackstopMs) && decide (0 < c.pulseCommandMv) &&
    decide (0 < c.pulseDurationMs) && decide (c.pulseDurationMs < c.pulseBackstopMs) &&
    decide (0 < c.automaticCycleTimeoutMs) &&
    (!c.rawOverpressureEnabled || decide (0 < c.rawOverpressureLimitCounts))

theorem compiledConfigs_valid :
    configIsValid .locked benchConfig = true ∧ configIsValid .autoTarget autoTargetConfig = true := by
  decide

structure PiUnit (F : Type) where
  config : PiConfig F
  state : PiState F
  snapshot : PiSnapshot F
  enabled : Bool
  timeValid : Bool
  receivedAtMs : U32
  sampleSequence : U64
  inhibitReason : InhibitReason
  blockedSuggestionMv : F
  requestedSignedMv : ℤ

/-- `press_feedback`, in use in AutoTarget only. -/
structure PressFeedback where
  boostMv : ℕ
  lowResponseCount : ℕ
  band : ℕ
  requestSequence : U32
  commandMv : U32
  completedAtMs : U32
  beforeSequence : U64
  beforeUnits : ℤ
  observedPeakUnits : ℤ
  inFlight : Bool
  feedbackPending : Bool

def PressFeedback.zero : PressFeedback := ⟨0, 0, 0, 0, 0, 0, 0, 0, 0, false, false⟩

structure System (F Exec : Type) where
  state : MachineState
  fault : MachineFault
  faultDetail : FaultDetail
  lastCommandResult : CommandResult
  settlePhase : SettlePhase
  approachProfile : ApproachProfile
  config : MachineConfig
  pressure : Sample
  targetUnits : ℤ
  settleGateSequence : U64
  motorRequestSequence : U32
  stateEnteredMs : U32
  cycleStartedMs : U32
  targetValid : Bool
  configValid : Bool
  settleFeedbackAfterMs : U32
  autoHasContacted : Bool
  autoApproachPending : Bool
  diagnosticRequestSequence : U32
  pi : PiUnit F
  press : PressFeedback
  /-- `g_sd700_approach_diagnostics.press.before_units`. -/
  pressEndedUnits : ℤ
  exec : Exec

structure Platform (F Exec : Type) where
  policy : MotionPolicy
  ops : FloatOps F
  executor : PulseExecutor Exec

def Valid (p : Sample) : Bool := p.frameValid && p.controlUnitsValid

def noSample : Sample := ⟨0, 0, 0, [], 0, false, false⟩

variable {F Exec : Type}

def Platform.logged (env : Platform F Exec) : Platform F (Exec × List (StartCall × Bool)) :=
  ⟨env.policy, env.ops, env.executor.logged⟩

/-- `Machine_StateIsAutomatic`. -/
def isAutomatic (s : MachineState) : Bool :=
  decide (s = .autoApproach ∨ s = .autoSettle ∨ s = .autoPulse ∨ s = .autoHold)

/-- `Machine_StateIsDirectPulse`. -/
def isDirectPulse (s : MachineState) : Bool :=
  decide (s = .directPressPulse ∨ s = .directReleasePulse)

/-- `Machine_StateRequiresPressureSafety`. -/
def requiresPressureSafety (policy : MotionPolicy) (s : MachineState) : Bool :=
  isAutomatic s || policy.directPressureRequired && isDirectPulse s

/-- `Machine_IsPressureFresh`. -/
def isPressureFresh (now : U32) (w : System F Exec) : Bool :=
  Valid w.pressure && decide (now - w.pressure.received ≤ w.config.pressureFreshnessMs)

end Sd700.Machine.Context
