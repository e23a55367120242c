import Sd700.Logic.Modular
import Sd700.Motor.Interface
import Sd700.Pressure.Update
import Sd700.Servo.Controller

/-! The machine context of a ForceServo build, together with the statics of the source controller
and the executor it drives. Telemetry that no decision reads is left out. -/

namespace Sd700.Servo.State
open Build.Contract Config Controller Motor.Interface Logic.Modular

/-- `MachineState`, the states a ForceServo build can be in. -/
inductive MachineState
  | bootSafe | idle | fault | forceApproach | forceBuild | forceHold | forceTaper | forceTargetReachedOff
  deriving DecidableEq

/-- `MachineFault`. -/
inductive MachineFault
  | none | boot | pressureSensor | overpressure | overcurrent | motionTimeout | motor | internal
  deriving DecidableEq

/-- `FaultDetail`. -/
inductive FaultDetail
  | none | bootConfiguration | pressureTimeout | pressureInvalid | pressureOrderLost
  | settleFeedbackTimeout | approachTimeout | pulseTimeout | cycleTimeout | motorRequestRejected
  | motorHardware | internalState | directPulseTimeout | leaseExpired | contactLost
  | sessionTimeout | saturationTimeout | trackingTimeout | numeric | assistExcessiveRise
  | postAssistExcessiveRise | buildExposure | buildNoResponse | buildCutoff | buildResponse
  deriving DecidableEq

/-- `MachineCommandType`. -/
inductive CommandType
  | autoStart | stop | jogPress | jogRelease | jogStop | faultReset | ackComplete | setTarget
  | directPressPulse | directReleasePulse | forceStart
  deriving DecidableEq

/-- `MachineCommandResult`. -/
inductive CommandResult
  | accepted | invalidValue | notAllowed | busy | notReady | wrongOwner | unsupported | executorFailed
  deriving DecidableEq

structure Command where
  type : CommandType
  targetUnits : ℤ

/-- The fields of `MachineConfig` that a ForceServo build reads. -/
structure MachineConfig where
  firstApproachCommandMv : U32
  firstApproachDurationMs : U32
  firstApproachBackstopMs : U32
  benchReleaseCorrectionEnabled : Bool
  deriving DecidableEq

/-- `MachinePressureSample`. -/
structure Sample where
  sequence : U64
  received : U32
  raw : U32
  frame : List (BitVec 8)
  control : ℤ
  frameValid : Bool
  controlUnitsValid : Bool

structure Session where
  active : Bool
  startPending : Bool
  startRequestedMs : U32
  deriving DecidableEq

structure Course where
  contacted : Bool
  everHeld : Bool
  approachWait : Bool
  token : U32
  number : U32
  startedMs : U32
  contactAtMs : U32
  lastControlRxMs : U32
  settleAfterMs : U32
  holdAtMs : U32

/-- `plan_*`. -/
structure PlanState where
  plan : Plan
  staging : Vector U16 10
  ack : Vector U16 4
  mask : U16
  readMask : U16
  ackMask : U16
  version : U32
  digest : U32
  stagingOpen : Bool
  available : Bool
  armed : Bool
  deriving DecidableEq

structure Tuning where
  config : ForceServoConfig
  profile : ForceServoProfile
  configVersion : U32
  configDigest : U32
  deriving DecidableEq

/-- `staging_*`: the configuration upload of a build without plans. -/
structure Staging where
  words : Vector U16 50
  mask : U64
  version : U32
  isOpen : Bool

structure Cooling where
  untilMs : U32
  active : Bool
  requiredOffMs : U32

structure Assist where
  used : Bool
  initialContact : Bool
  handoffRequest : ℤ
  endSequence : U64
  active : Bool
  startedMs : U32
  durationMs : U32
  spentMs : U32
  endMs : U32
  endReason : Nat
  normalEndMs : U32
  pressureBefore : ℚ
  afterValid : Bool
  responsePending : Bool

structure Progress where
  contactCounted : Bool
  saturationActive : Bool
  saturationStartedMs : U32
  trackingActive : Bool
  trackingStartedMs : U32
  commanded : Bool
  atMs : U32
  goodMs : U32
  anchor : ℚ
  start : ℚ
  noResponseMs : U32

/-- `run_reason`. -/
inductive RunReason
  | none | operatorStop | fault | targetNotReachedWithinSession | sessionComplete
  | boundaryTargetReached | targetReachedOff
  deriving DecidableEq

structure Report where
  runReason : RunReason
  targetReached : Bool
  rejection : Rejection

/-- The fields of `ForceBuildState` that decisions read. -/
structure BuildState where
  epoch : U32
  phase : Phase
  noResponseMs : U32
  accountedMs : U32
  postPending : Bool
  postSequence : U64
  progressAnchor : ℚ
  monitoring : Bool
  deriving DecidableEq

structure System (Exec : Type) where
  state : MachineState
  fault : MachineFault
  faultDetail : FaultDetail
  lastCommandResult : CommandResult
  config : MachineConfig
  configValid : Bool
  pressure : Sample
  haveSample : Bool
  targetUnits : ℤ
  targetValid : Bool
  motorRequestSequence : U32
  session : Session
  course : Course
  plan : PlanState
  tuning : Tuning
  staging : Staging
  controller : ForceServo
  cooling : Cooling
  assist : Assist
  progress : Progress
  report : Report
  build : BuildState
  frozen : List U16
  source : Pressure.State.Source
  exec : Exec

/-- What the machine is compiled and linked against. `diagnosticWords` serializes the diagnostic
record, most of which is telemetry. -/
structure Platform (Exec : Type) where
  policy : BuildPolicy
  executor : Executor Exec
  sqrtf : ℚ → ℚ
  machineConfig : MachineConfig
  diagnosticWords : System Exec → List U16

variable {Exec : Type}

def System.bare (w : System (Exec × Log)) : System Exec :=
  { w with exec := w.exec.1 }

def Platform.logged (env : Platform Exec) : Platform (Exec × Log) where
  policy := env.policy
  executor := env.executor.logged
  sqrtf := env.sqrtf
  machineConfig := env.machineConfig
  diagnosticWords w := env.diagnosticWords w.bare

/-- `Machine_IsPressureFresh`. -/
def isPressureFresh (now : U32) (w : System Exec) : Bool :=
  w.haveSample && w.pressure.frameValid && w.pressure.controlUnitsValid &&
    decide (now - w.pressure.received ≤ u32 w.tuning.config.sampleAgeMs)

def measured (env : Platform Exec) (w : System Exec) : Option ℚ :=
  measure env.policy w.tuning.profile w.pressure.raw w.pressure.control

/-- `(float)m->pressure.raw_pressure_counts`. -/
def rawForce (w : System Exec) : ℚ := w.pressure.raw.toNat

def outputIsDisabled (env : Platform Exec) (w : System Exec) : Bool :=
  env.executor.outputIsDisabled w.exec

def isHealthy (env : Platform Exec) (w : System Exec) : Bool :=
  env.executor.isHealthy w.exec

def snapshot (env : Platform Exec) (w : System Exec) : MotorSnapshot :=
  env.executor.snapshot w.exec

def drive (env : Platform Exec) (call : DriveCall) (w : System Exec) : DriveReply × System Exec :=
  ((env.executor.drive call w.exec).1, { w with exec := (env.executor.drive call w.exec).2 })

/-- `MotorExecutor_Disable`. -/
def disable (env : Platform Exec) (w : System Exec) : System Exec :=
  { w with exec := (env.executor.disable w.exec).2 }

def disableFails (env : Platform Exec) (w : System Exec) : Bool :=
  (env.executor.disable w.exec).1 ≠ .ok

/-- `MotorExecutor_GetBuildSnapshot`, which also refreshes the rest ledger. -/
def buildSnapshot (env : Platform Exec) (now : U32) (w : System Exec) : BuildSnapshot :=
  (env.executor.buildSnapshot now w.exec).1

def refreshBuild (env : Platform Exec) (now : U32) (w : System Exec) : System Exec :=
  { w with exec := (env.executor.buildSnapshot now w.exec).2 }

end Sd700.Servo.State
