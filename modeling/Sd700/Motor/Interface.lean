import Sd700.Build.Contract

/-! The motor executor as its callers see it (`motor_executor.h`). The machine is written against
this interface; every function that may change the executor returns the state after the call. -/

namespace Sd700.Motor.Interface
open Build.Contract

/-- `MotorResult`. -/
inductive MotorResult
  | ok | invalid | busy | timerError | hardwareError
  deriving DecidableEq, Repr

inductive Direction
  | press | release
  deriving DecidableEq

/-- `MotorAction`. -/
inductive MotorAction
  | disabled | pressRun | releaseRun | pressPulse | releasePulse | continuous | buildSegment | buildBrake
  deriving DecidableEq

inductive Completion
  | none | normal | backstop | error | lease
  deriving DecidableEq

/-- The fields of `MotorExecutorSnapshot` that its callers read. -/
structure MotorSnapshot where
  lastAction : MotorAction
  lastCompletion : Completion
  commandMv : U32
  requestSequence : U32
  boostStartedMs : U32
  boostDeadlineMs : U32
  boostPlannedEndMs : U32
  plannedTim2Ccr3 : U16
  plannedTim3Ccr3 : U16
  logicalActive : Bool
  physicalOutputLocked : Bool
  physicalOutputDisabled : Bool
  lastFailureResult : U16
  lastFailureStage : U16

/-- The fields of `MotorBuildSnapshot` that its callers act on. -/
structure BuildSnapshot where
  epoch : U32
  inhibited : Bool
  request : U32
  mode : BuildMode
  endedMs : U32
  deadlineMs : U32
  receiveDeadlineMs : U32
  preloadDeadlineMs : U32
  endReason : EndReason
  segmentActive : Bool
  preloadActive : Bool

/-- The outcome of `MotorExecutor_UpdateContinuous`. -/
structure ContinuousUpdate where
  result : MotorResult
  committed : ℤ
  interlocked : Bool

/-- The arguments of `MotorExecutor_UpdateContinuous`. -/
structure ContinuousRequest where
  token : U32
  sequence : U64
  received : U32
  now : U32
  leaseMs : U32
  maxAgeMs : U32
  deadtimeMs : U32
  requested : ℤ

inductive DriveCall
  | startRun (commandMv durationMs backstopMs now : U32)
  | beginContinuous
  | setBudget (token now durationMs : U32) (cap : ℤ)
  | armBoost (token now durationMs : U32)
  | setBoostPlan (token now riseMs endMs : U32) (peak handoff : ℤ)
  | serviceBoost (token now : U32)
  | handoffBoost (token now : U32) (requested : ℤ)
  | endBoost (token : U32)
  | updateContinuous (request : ContinuousRequest)
  | beginBuild (now : U32)
  | startSegment (token : U32) (request : Request) (sequence : U64) (received now : U32)
  | endSegment (token now : U32)
  | refreshFeedback (token : U32) (sequence : U64) (received now : U32)

/-- What a drive call hands back: its result, and the outputs of those calls that have one. -/
structure DriveReply where
  result : MotorResult
  token : U32
  committed : ℤ
  flag : Bool

/-- An executor over its own state: queries, the calls that drive, and the calls that do not. -/
structure Executor (Exec : Type) where
  snapshot : Exec → MotorSnapshot
  outputIsDisabled : Exec → Bool
  isHealthy : Exec → Bool
  activeRequestIsValid : Exec → Bool
  continuousExpired : Exec → Bool
  continuousBoostCommand : U32 → U32 → Exec → ℤ
  buildOwnerValid : U32 → Exec → Bool
  drive : DriveCall → Exec → DriveReply × Exec
  disable : Exec → MotorResult × Exec
  buildSnapshot : U32 → Exec → BuildSnapshot × Exec
  acceptPost : U32 → U32 → U64 → U32 → U32 → Exec → Bool × Exec

def Executor.off : Executor Unit where
  snapshot _ := ⟨.disabled, .none, 0, 0, 0, 0, 0, 0, 0, false, false, true, 0, 0⟩
  outputIsDisabled _ := true
  isHealthy _ := true
  activeRequestIsValid _ := false
  continuousExpired _ := false
  continuousBoostCommand _ _ _ := 0
  buildOwnerValid _ _ := false
  drive _ x := (⟨.invalid, 0, 0, false⟩, x)
  disable x := (.ok, x)
  buildSnapshot _ x := (⟨0, false, 0, .none, 0, 0, 0, 0, .none, false, false⟩, x)
  acceptPost _ _ _ _ _ x := (false, x)

def Executor.switch : Executor Bool where
  snapshot on := ⟨.disabled, .none, 0, 0, 0, 0, 0, 0, 0, on, false, !on, 0, 0⟩
  outputIsDisabled on := !on
  isHealthy _ := true
  activeRequestIsValid on := on
  continuousExpired _ := false
  continuousBoostCommand _ _ _ := 0
  buildOwnerValid _ on := on
  drive _ _ := (⟨.ok, 1, 0, false⟩, true)
  disable _ := (.ok, false)
  buildSnapshot _ on := (⟨0, false, 0, .none, 0, 0, 0, 0, .none, false, false⟩, on)
  acceptPost _ _ _ _ _ on := (on, on)

/-! ### Observed calls -/

/-- The drive calls made so far, the Build snapshots shown and the frames offered as a pulse's answer
with the executor's verdict, newest first. -/
structure Log where
  drives : List (DriveCall × DriveReply)
  shown : List BuildSnapshot
  posts : List (U64 × U32 × Bool)

def Executor.logged {Exec : Type} (E : Executor Exec) : Executor (Exec × Log) where
  snapshot x := E.snapshot x.1
  outputIsDisabled x := E.outputIsDisabled x.1
  isHealthy x := E.isHealthy x.1
  activeRequestIsValid x := E.activeRequestIsValid x.1
  continuousExpired x := E.continuousExpired x.1
  continuousBoostCommand token now x := E.continuousBoostCommand token now x.1
  buildOwnerValid token x := E.buildOwnerValid token x.1
  drive call x :=
    let answer := E.drive call x.1
    (answer.1, answer.2, { x.2 with drives := (call, answer.1) :: x.2.drives })
  disable x := ((E.disable x.1).1, (E.disable x.1).2, x.2)
  buildSnapshot now x :=
    let answer := E.buildSnapshot now x.1
    (answer.1, answer.2, { x.2 with shown := answer.1 :: x.2.shown })
  acceptPost token request sequence received now x :=
    let answer := E.acceptPost token request sequence received now x.1
    (answer.1, answer.2, { x.2 with posts := (sequence, received, answer.1) :: x.2.posts })

end Sd700.Motor.Interface
