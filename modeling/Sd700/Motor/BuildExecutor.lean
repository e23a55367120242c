import Sd700.Motor.Bridge
import Sd700.Motor.Interface
import Sd700.Motor.Pulses
import Sd700.Motor.Timer

/-! The motor executor of a Build build (`motor_executor_real.c`): segments and BRAKE under one owner, the
exposure ledger, and the TIM5 interrupt that ends them. -/

namespace Sd700.Motor.BuildExecutor
open Build.Contract Interface Logic.Modular Timer Bridge

/-! ### State -/

/-- The fields of `s_motor` that a Build executor uses. The physical status is read off the bridge, as
every reader of it refreshes it first. -/
structure Drive where
  lastAction : MotorAction
  direction : Direction
  lastCompletion : Completion
  commandMv : U32
  logicalDeadlineMs : U32
  logicalBackstopMs : U32
  requestSequence : U32
  tim2 : U16
  tim3 : U16
  logicalActive : Bool
  deriving DecidableEq

/-- `MotorBuildSnapshot`, less its two fields that stay 0. -/
structure Ledger where
  epoch : U32
  reservedMs : U32
  approachReservedMs : U32
  energizedUpperMs : U32
  approachCommandMs : U32
  restRemainingMs : U32
  inhibited : Bool
  request : U32
  phase : Phase
  mode : BuildMode
  command : U32
  baseCommand : U32
  normalMs : U32
  hardMs : U32
  settleMs : U32
  target : U32
  startedMs : U32
  endedMs : U32
  deadlineMs : U32
  receiveDeadlineMs : U32
  endReason : EndReason
  segmentActive : Bool
  postPending : Bool
  preloadActive : Bool
  preloadStartedMs : U32
  preloadDeadlineMs : U32
  preloadSpentMs : U32
  deriving DecidableEq

/-- The executor's statics, the bridge and the timer it commands, and the time in timer counts. -/
structure Device (Bridge : Type) where
  bridge : Bridge
  timer : StopTimer
  time : Nat
  initialized : Bool
  pending : Option StopEvent
  drive : Drive
  build : Ledger
  owned : Bool
  haveSequence : Bool
  restRequired : Bool
  offVerified : Bool
  generation : U32
  offAt : U32
  usedSequence : U64
  feedbackSequence : U64

namespace Device

variable {Bridge : Type} (hw : Hardware Bridge) (m : Device Bridge)

/-- `MotorAtomic_Now`: the millisecond tick, whatever the caller supplies. -/
def clock : U32 := stamp 32 (m.time / 10)

/-! ### Ledger -/

def ranMs (now : U32) : U32 := now - m.build.startedMs + 1

def overran (now : U32) : Prop := m.build.hardMs < m.ranMs now

instance (now : U32) : Decidable (m.overran now) := inferInstanceAs (Decidable (_ < _))

def overrunMs (now : U32) : U32 := if m.overran now then m.ranMs now - m.build.hardMs else 0

def endedAs (now : U32) (reason : EndReason) : EndReason := if m.overran now then .deadline else reason

/-- `MotorExecutor_BuildRecordPulseEnd`. -/
def recordPulseEnd (now : U32) (reason : EndReason) : Device Bridge :=
  if ¬ m.build.segmentActive then m
  else
    { m with
      restRequired := m.restRequired || decide (m.overran now)
      owned := m.owned && (m.endedAs now reason).isOrderly
      build := { m.build with
        energizedUpperMs := m.build.energizedUpperMs + m.ranMs now
        reservedMs := m.build.reservedMs + m.overrunMs now
        approachReservedMs :=
          m.build.approachReservedMs + if m.build.phase = .approach then m.overrunMs now else 0
        segmentActive := false, postPending := true, endedMs := now, endReason := m.endedAs now reason } }

variable {m} in
theorem recordPulseEnd_within {now : U32} {reason : EndReason} (active : m.build.segmentActive = true)
    (within : ¬ m.overran now) (orderly : reason.isOrderly = true) :
    m.recordPulseEnd now reason = { m with build := { m.build with
      energizedUpperMs := m.build.energizedUpperMs + m.ranMs now
      segmentActive := false, postPending := true, endedMs := now, endReason := reason } } := by
  unfold recordPulseEnd
  rw [if_neg (by simp [active])]
  simp [endedAs, overrunMs, within, orderly]

/-- `MotorExecutor_BuildChargePreload`. -/
def chargePreload (now : U32) : Device Bridge :=
  let elapsed := now - m.build.preloadStartedMs + 1
  if ¬ m.build.preloadActive then m
  else
    { m with build := { m.build with
        preloadSpentMs := m.build.preloadSpentMs + elapsed
        energizedUpperMs := m.build.energizedUpperMs + elapsed, preloadActive := false } }

/-- `MotorExecutor_BuildConfirmOff`. -/
def confirmOff (now : U32) : Device Bridge :=
  if ¬ hw.isDisabled m.bridge then { m with offVerified := false }
  else if ¬ m.offVerified then { m with offAt := now, offVerified := true }
  else m

variable {hw} in
theorem confirmOff_build (now : U32) : (m.confirmOff hw now).build = m.build := by
  unfold confirmOff
  split
  · rfl
  split
  · rfl
  · rfl

/-- `MotorExecutor_BuildRecordOff`. -/
def recordOff (now : U32) (reason : EndReason) : Device Bridge :=
  let ended := (chargePreload (recordPulseEnd m now reason) now).confirmOff hw now
  let reported := if m.build.preloadActive ∧ ended.build.endReason ≠ .deadline then reason else ended.build.endReason
  { ended with
    owned := ended.owned && reason.isOrderly
    build := { ended.build with endReason := reported } }

def newEpoch : Device Bridge :=
  { m with
    restRequired := false
    build := { m.build with
      reservedMs := 0, approachReservedMs := 0, energizedUpperMs := 0, approachCommandMs := 0
      preloadSpentMs := 0, epoch := m.build.epoch + 1 } }

/-- `MotorExecutor_BuildRefreshRest`, behind the confirmation. -/
def settleRest (now : U32) : Device Bridge :=
  let off := now - m.offAt
  let resting := ¬ m.build.segmentActive ∧ ¬ m.build.preloadActive ∧ hw.isDisabled m.bridge
  let next := if resting ∧ (m.restRequired ∨ m.build.reservedMs ≠ 0) ∧ Config.fullRestMs ≤ off then m.newEpoch else m
  let remaining :=
    if resting ∧ (m.restRequired ∨ m.build.reservedMs ≠ 0) then
      if Config.fullRestMs ≤ off then 0 else Config.fullRestMs - off
    else if m.build.segmentActive ∨ m.build.preloadActive ∨ ¬ m.offVerified then Config.fullRestMs else 0
  { next with build := { next.build with restRemainingMs := remaining, inhibited := next.restRequired } }

/-- `MotorExecutor_BuildRefreshRest`. -/
def refreshRest (now : U32) : Device Bridge := (m.confirmOff hw now).settleRest hw now

/-! ### Ends of a segment -/

def disableImmediate : Device Bridge := { m with bridge := hw.disableImmediate m.bridge }

/-- `MotorStopTimer_Cancel`. -/
def cancel : Device Bridge := { m with timer := m.timer.cancel }

/-- The segment's deadline or its feedback deadline has been reached. -/
def due (now : U32) : Prop := Reached now m.build.deadlineMs ∨ Reached now m.build.receiveDeadlineMs

instance (now : U32) : Decidable (m.due now) := inferInstanceAs (Decidable (_ ∨ _))

/-- The last part of `MotorExecutor_BuildFinishPulse`: the pulse is on the books and BRAKE holds. -/
def holdBrake (now : U32) (reason : EndReason) : Device Bridge :=
  let m := m.recordPulseEnd now reason
  { m with
    build := { m.build with
      preloadActive := true, preloadStartedMs := now, preloadDeadlineMs := m.build.receiveDeadlineMs }
    drive := { m.drive with
      lastAction := .buildBrake, lastCompletion := .normal, commandMv := 0, tim2 := 0, tim3 := 0
      logicalDeadlineMs := m.build.receiveDeadlineMs, logicalBackstopMs := m.build.receiveDeadlineMs
      logicalActive := true } }

/-- A call on the bridge or the timer has succeeded, the owner still stands, and nothing has expired. -/
def stands (kept : Bool × Device Bridge) : Prop := kept.1 ∧ kept.2.owned ∧ kept.2.pending = none

instance (kept : Bool × Device Bridge) : Decidable (stands kept) := inferInstanceAs (Decidable (_ ∧ _))

/-- `MotorHwReal_BuildBrake` on the executor's bridge. -/
def brakeBridge : Bool × Device Bridge :=
  ((hw.buildBrake m.bridge).1, { m with bridge := (hw.buildBrake m.bridge).2 })

/-- `MotorStopTimer_BuildHandoff` on the executor's timer. -/
def handoff (remaining : U32) : Bool × Device Bridge :=
  ((m.timer.buildHandoff remaining).1, { m with timer := (m.timer.buildHandoff remaining).2 })

def keepTimer (renew : U32 → Device Bridge → Bool × Device Bridge) : Bool × Device Bridge :=
  let remaining := m.build.receiveDeadlineMs - m.clock
  if m.build.phase = .approach then renew remaining m else m.handoff remaining

/-- `MotorExecutor_BuildFinishPulse`. `renew` is `MotorStopTimer_RenewLease`. -/
def finishPulse (renew : U32 → Device Bridge → Bool × Device Bridge) (now : U32) (reason : EndReason) :
    MotorResult × Device Bridge :=
  if ¬ m.owned ∨ ¬ m.build.segmentActive ∨ m.pending ≠ none ∨ m.drive.direction ≠ .press ∨ m.due now ∨
      ¬ hw.matchesPlan m.drive.tim2 m.drive.tim3 m.bridge then (.timerError, m)
  else
    let braked := m.brakeBridge hw
    if ¬ stands braked ∨ braked.2.due braked.2.clock then (.timerError, braked.2)
    else
      let kept := braked.2.keepTimer renew
      if ¬ stands kept ∨ kept.2.due kept.2.clock then (.timerError, kept.2)
      else (.ok, kept.2.holdBrake kept.2.clock reason)

def shutDown (event : StopEvent) : Device Bridge :=
  let m := m.disableImmediate hw
  { (m.recordOff hw m.clock (if event = .normal then .normal else .deadline)).cancel with pending := some event }

def pulsing : Bool :=
  m.build.segmentActive && decide (m.drive.direction = .press) &&
    (decide (m.build.mode = .micro) || decide (m.build.mode = .fine))

/-- `MotorExecutor_StopTimerExpiredFromIsr`. A pulse is never an approach, so its end renews no lease. -/
def expired (event : StopEvent) : Device Bridge :=
  if event = .normal ∧ m.pulsing then
    let finished := m.finishPulse hw (fun _ m => (false, m)) m.clock .normal
    if finished.1 = .ok then finished.2 else finished.2.shutDown hw .error
  else if m.build.preloadActive ∨ (m.build.segmentActive ∧ m.build.phase = .approach) then
    m.shutDown hw .backstop
  else m.shutDown hw event

/-- The event `MotorStopTimer_IrqHandler` reads off the flags of an armed timer. -/
def irqEvent : StopEvent :=
  if m.timer.overcaptured then .error
  else if m.timer.updated then .backstop
  else if m.timer.compared then .normal
  else .error

def enterIrq : Device Bridge :=
  let callback := decide (m.irqEvent = .normal) && m.timer.onePulse
  { m with timer := { m.timer with
      healthy := m.timer.healthy && decide (m.irqEvent ≠ .error), handoff := false, normalCallback := callback
      compared := m.timer.compared && !callback } }

def leaveIrq : Device Bridge :=
  let m := { m with timer := { m.timer with normalCallback := false } }
  if m.timer.handoff then { m with timer := { m.timer with handoff := false } } else m.cancel

/-- `MotorStopTimer_IrqHandler`. -/
def irqHandler : Device Bridge :=
  if ¬ m.timer.armed then
    (expired hw { m with timer := { m.timer with healthy := false } } .error).cancel
  else (m.enterIrq.expired hw m.irqEvent).leaveIrq

/-- `MotorStopTimer_CommitArm`. -/
def commitArm : Bool × Device Bridge :=
  if ¬ m.timer.armed ∨ ¬ m.timer.healthy then (false, m)
  else if m.timer.flagged then (false, m.irqHandler hw)
  else (true, { m with timer := { m.timer with line := true } })

/-- `MotorStopTimer_ArmLease`. -/
def armLease (remaining : U32) : Bool × Device Bridge :=
  if ¬ m.timer.isHealthy ∨ m.timer.armed ∨ ¬ StopTimer.leaseFits remaining then (false, m)
  else
    commitArm hw { m with
      timer := m.timer.cancel.start false (StopTimer.leaseCounts remaining) (BitVec.allOnes 32) }

/-- `MotorStopTimer_RenewLease`. -/
def renewLease (remaining : U32) : Bool × Device Bridge :=
  if ¬ m.timer.isArmed ∨ ¬ m.timer.healthy ∨ ¬ StopTimer.leaseFits remaining then (false, m)
  else if m.timer.flagged then (false, m.irqHandler hw)
  else if Reached m.timer.count m.timer.compare then (false, (m.expired hw .normal).cancel)
  else
    commitArm hw { m with timer := { m.timer with compare := m.timer.count + StopTimer.leaseCounts remaining } }

/-! ### Queries -/

/-- `MotorExecutor_OutputIsDisabled`. -/
def outputIsDisabled : Bool := hw.isDisabled m.bridge

/-- `MotorExecutor_ActiveRequestIsValid`. -/
def activeRequestIsValid : Bool :=
  if m.drive.lastAction = .buildSegment ∨ m.drive.lastAction = .buildBrake then
    if m.pending ≠ none then hw.isDisabled m.bridge && !m.timer.isArmed
    else
      m.owned && m.drive.logicalActive && (m.build.segmentActive || m.build.preloadActive) &&
        decide (m.drive.direction = .press) && m.timer.isArmed && m.timer.isHealthy &&
        hw.outputArmingAllowed && !hw.isDisabled m.bridge &&
        if m.build.preloadActive then hw.isBraking m.bridge
        else hw.matchesPlan m.drive.tim2 m.drive.tim3 m.bridge
  else
    m.drive.logicalActive &&
      if m.pending ≠ none then hw.isDisabled m.bridge && !m.timer.isArmed
      else hw.outputArmingAllowed && !hw.isDisabled m.bridge && m.timer.isArmed && m.timer.isHealthy

/-- `MotorExecutor_IsHealthy`. -/
def isHealthy : Bool :=
  m.initialized && m.timer.isHealthy &&
    if m.drive.logicalActive then m.activeRequestIsValid hw else hw.isDisabled m.bridge && !m.timer.isArmed

/-- `MotorExecutor_BuildOwnerValid`. -/
def buildOwnerValid (token : U32) : Bool :=
  m.owned && decide (token = m.generation) && m.isHealthy hw

/-! ### Owner and segments -/

/-- What `MotorExecutor_BeginBuild` asks of the executor. -/
def mayBegin : Bool :=
  !m.restRequired && !m.owned && m.initialized && !m.drive.logicalActive && decide (m.pending = none) &&
    hw.isDisabled m.bridge && !m.timer.isArmed && m.timer.isHealthy && hw.outputArmingAllowed

/-- `MotorExecutor_BeginBuild`; the token is the generation it leaves. -/
def beginBuild : MotorResult × Device Bridge :=
  let m := m.refreshRest hw m.clock
  if ¬ m.mayBegin hw then (.invalid, m)
  else
    let next := m.generation + 1
    (.ok, { m with
      generation := if next = 0 then 1 else next, owned := true, haveSequence := false
      build := { m.build with postPending := false } })

/-- The failure exit of the Build calls: the output goes off, the books are closed, and the owner is gone. -/
def abort (reason : EndReason) : Device Bridge :=
  let m := m.disableImmediate hw
  let m := (m.recordOff hw m.clock reason).cancel
  { m with owned := false, pending := m.pending.or (some .error) }

/-- `segment_active` of an APPROACH that gives way to a pulse. -/
def fromApproach (r : Request) : Bool :=
  m.build.segmentActive && decide (m.build.phase = .approach) && decide (r.phase ≠ .approach)

/-- The requests `MotorExecutor_StartBuildSegment` refuses without touching anything. -/
def refuses (token : U32) (r : Request) (sequence : U64) : Prop :=
  ¬ m.owned ∨ token ≠ m.generation ∨ (m.build.segmentActive ∧ ¬ m.fromApproach r) ∨
    (m.drive.logicalActive ∧ ¬ m.build.preloadActive ∧ ¬ m.fromApproach r) ∨ m.pending ≠ none ∨
    m.build.postPending ∨ (m.haveSequence ∧ ¬ After sequence m.usedSequence)

instance (token : U32) (r : Request) (sequence : U64) : Decidable (m.refuses token r sequence) :=
  inferInstanceAs (Decidable (_ ∨ _))

def takesOver (r : Request) (now : U32) : Bool × Device Bridge :=
  if m.build.preloadActive then
    if ¬ hw.isBraking m.bridge then (false, m)
    else
      let kept := m.commitArm hw
      (kept.1 && kept.2.owned && decide (kept.2.pending = none) &&
        !decide (Reached now kept.2.build.preloadDeadlineMs) &&
        decide (kept.2.build.settleMs ≤ now - kept.2.build.endedMs), kept.2)
  else if m.fromApproach r then
    if ¬ hw.matchesPlan 0 m.drive.tim3 m.bridge then (false, m)
    else
      let kept := m.commitArm hw
      (kept.1 && kept.2.owned && decide (kept.2.pending = none) && !decide (kept.2.due now), kept.2)
  else (hw.isDisabled m.bridge && !m.timer.isArmed, m)

/-- The checks of the request against its envelope and the age of its frame. -/
def admits (r : Request) (age : U32) : Prop :=
  r.targetFits ∧ (m.haveSequence = true → r.target = m.build.target) ∧
    if r.phase = .approach then r.approachFits ∧ ¬ m.build.preloadActive
    else r.pulseFits ∧ r.hardMs < leaseMs - age

instance (r : Request) (age : U32) : Decidable (m.admits r age) := inferInstanceAs (Decidable (_ ∧ _))

def giveWay (r : Request) (now : U32) : Device Bridge :=
  let ended : Device Bridge :=
    if m.fromApproach r then
      let m := m.recordPulseEnd now .reduced
      { m with build := { m.build with postPending := false } }
    else m
  ended.chargePreload now

def approachLeft : U32 := Config.approachTotalMs - m.build.approachReservedMs

def approachSpent : Prop :=
  Config.approachTotalMs ≤ m.build.approachReservedMs ∨ m.approachLeft < 2 ∨
    Config.approachCommandMsBudget < m.build.approachCommandMs + 5000 * m.approachLeft

instance : Decidable m.approachSpent := inferInstanceAs (Decidable (_ ∨ _))

def hardLimit (r : Request) : U32 := if r.phase = .approach then m.approachLeft else r.hardMs

def book (r : Request) (sequence : U64) (received now : U32) : Device Bridge :=
  let hard := m.hardLimit r
  let approachMs := if r.phase = .approach then hard else 0
  { m with
    usedSequence := sequence, feedbackSequence := sequence, haveSequence := true
    build := { m.build with
      approachReservedMs := m.build.approachReservedMs + approachMs
      approachCommandMs := m.build.approachCommandMs + 5000 * approachMs
      reservedMs := m.build.reservedMs + hard, startedMs := now, deadlineMs := now + hard
      receiveDeadlineMs := received + leaseMs, phase := r.phase, command := r.command, hardMs := hard
      normalMs := r.normalMs, settleMs := r.settleMs, target := r.target, baseCommand := r.baseCommand
      mode := r.mode, endReason := .none, request := m.build.request + 1 } }

/-- `MotorExecutor_PlanCommand` towards PRESS, under the ceiling of a Build build. -/
def planPress (command : U32) : Option U16 :=
  if 12000 < command then none
  else (Pulses.planCommand .press command.toNat).map fun plan => BitVec.ofNat 16 plan.2

/-- `s_motor` of a segment that starts. -/
def plan (r : Request) (duty : U16) (now : U32) : Device Bridge :=
  { m with drive := { m.drive with
      lastAction := .buildSegment, lastCompletion := .none, direction := .press, commandMv := r.command
      logicalDeadlineMs := now + m.build.hardMs, logicalBackstopMs := now + m.build.hardMs
      tim2 := 0, tim3 := duty, logicalActive := true, requestSequence := m.drive.requestSequence + 1 } }

inductive Origin
  | off | brake | approach
  deriving DecidableEq

/-- `from_brake` and `from_approach`. -/
def origin (r : Request) : Origin :=
  if m.build.preloadActive then .brake else if m.fromApproach r then .approach else .off

def program (r : Request) (origin : Origin) (now : U32) : Bool × Device Bridge :=
  let hard := m.build.hardMs
  let lease := if hard < m.build.receiveDeadlineMs - now then hard else m.build.receiveDeadlineMs - now
  if r.phase = .approach then m.armLease hw lease
  else if origin = .off then
    ((m.timer.arm r.normalMs hard).1, { m with timer := (m.timer.arm r.normalMs hard).2 })
  else ((m.timer.buildPulse r.normalMs hard).1, { m with timer := (m.timer.buildPulse r.normalMs hard).2 })

def engage (origin : Origin) (duty : U16) (b : Bridge) : Bool × Bridge :=
  match origin with
  | .off => hw.applyPress duty b
  | .brake => hw.buildFromBrake duty b
  | .approach => hw.updatePress duty b

def apply (origin : Origin) (duty : U16) : Bool × Device Bridge :=
  ((engage hw origin duty m.bridge).1, { m with bridge := (engage hw origin duty m.bridge).2 })

def elapse (ticks : Nat) : Device Bridge :=
  { m with time := m.time + ticks, timer := m.timer.elapse ticks }

/-- The segment is armed first and driven then. `delay` counts pass before the timer is armed. -/
def energize (delay : Nat) (r : Request) (origin : Origin) (duty : U16) (now : U32) :
    MotorResult × Device Bridge :=
  let armed := (m.elapse delay).program hw r origin now
  if ¬ armed.1 then (.hardwareError, armed.2.abort hw .hardware)
  else
    let ready := commitArm hw { armed.2 with build := { armed.2.build with segmentActive := true } }
    if ¬ stands ready then (.hardwareError, ready.2.abort hw .hardware)
    else
      let applied := apply hw { ready.2 with offVerified := false } origin duty
      if ¬ applied.1 ∨ ¬ hw.matchesPlan 0 duty applied.2.bridge then
        (.hardwareError, applied.2.abort hw .hardware)
      else
        let driven := applied.2.commitArm hw
        if ¬ stands driven then (.hardwareError, driven.2.abort hw .hardware) else (.ok, driven.2)

/-- `MotorExecutor_StartBuildSegment`, with the delay before its timer is armed. -/
def startBuildSegmentAfter (delay : Nat) (token : U32) (r : Request) (sequence : U64) (received : U32) :
    MotorResult × Device Bridge :=
  let now := m.clock
  if m.refuses token r sequence then (.invalid, m)
  else
    let rested := m.refreshRest hw now
    if rested.restRequired ∨ ageMs < now - received ∨ ¬ rested.isHealthy hw then
      (.hardwareError, rested.abort hw .hardware)
    else
      let taken := rested.takesOver hw r now
      if ¬ taken.1 ∨ ¬ taken.2.admits r (now - received) then (.hardwareError, taken.2.abort hw .hardware)
      else
        let origin := taken.2.origin r
        let free := taken.2.giveWay r now
        if r.phase = .approach ∧ free.approachSpent then
          (.hardwareError, abort hw { free with restRequired := true } .hardware)
        else
          let booked := free.book r sequence received now
          match planPress r.command with
          | none => (.hardwareError, booked.abort hw .hardware)
          | some duty => (booked.plan r duty now).energize hw delay r origin duty now

/-- `MotorExecutor_StartBuildSegment`. -/
def startBuildSegment (token : U32) (r : Request) (sequence : U64) (received : U32) :
    MotorResult × Device Bridge :=
  m.startBuildSegmentAfter hw 0 token r sequence received

def abortLate : Device Bridge :=
  let m := m.abort hw .deadline
  { m with restRequired := true, build := { m.build with endReason := .deadline } }

/-- `MotorExecutor_ClearActivePlan`. -/
def clearActivePlan : Device Bridge :=
  { m with drive := { m.drive with tim2 := 0, tim3 := 0, logicalActive := false } }

/-- `MotorExecutor_EndBuildSegment`. -/
def endBuildSegment (token : U32) : MotorResult × Device Bridge :=
  let now := m.clock
  if ¬ m.owned ∨ token ≠ m.generation ∨ ¬ m.build.segmentActive ∨ m.pending ≠ none then (.invalid, m)
  else
    let press := m.drive.direction = .press
    let kept := commitArm hw (if press then m else m.disableImmediate hw)
    if ¬ stands kept ∨ kept.2.due now then (.timerError, kept.2.abortLate hw)
    else if press then
      let finished := kept.2.finishPulse hw (fun remaining m => m.renewLease hw remaining) now .reduced
      if finished.1 = .ok then finished else (finished.1, finished.2.abort hw .deadline)
    else
      let m := ((kept.2.recordOff hw now .reduced).cancel).clearActivePlan
      let m := { m with drive := { m.drive with lastCompletion := .normal } }
      if hw.isDisabled m.bridge then (.ok, m) else (.hardwareError, { m with owned := false })

/-- `MotorExecutor_AcceptBuildPost`. -/
def acceptBuildPost (token request : U32) (sequence : U64) (received : U32) : Bool × Device Bridge :=
  let now := m.clock
  if ¬ m.owned ∨ token ≠ m.generation ∨ ¬ m.build.postPending ∨ request ≠ m.build.request ∨
      m.build.segmentActive ∨ (m.drive.logicalActive ∧ ¬ m.build.preloadActive) ∨ m.pending ≠ none ∨
      ¬ m.build.endReason.isOrderly ∨ ¬ After sequence m.usedSequence ∨ ageMs < now - received ∨
      ¬ Reached received m.build.endedMs ∨ ¬ m.isHealthy hw then (false, m)
  else if m.build.preloadActive then
    if ¬ hw.isBraking m.bridge ∨ Reached now m.build.preloadDeadlineMs ∨
        Reached now m.build.receiveDeadlineMs then (false, m)
    else
      let kept := m.commitArm hw
      if ¬ stands kept then (false, kept.2)
      else (true, { kept.2 with build := { kept.2.build with postPending := false } })
  else if ¬ hw.isDisabled m.bridge then (false, m)
  else (true, { m with build := { m.build with postPending := false } })

def renewable : Bool := m.build.preloadActive || m.build.segmentActive && decide (m.build.phase = .approach)

def lapsed (now : U32) : Prop :=
  Reached now m.build.receiveDeadlineMs ∨
    if m.build.preloadActive then ¬ hw.isBraking m.bridge
    else Reached now m.build.deadlineMs ∨ ¬ hw.matchesPlan 0 m.drive.tim3 m.bridge

instance (now : U32) : Decidable (m.lapsed hw now) := inferInstanceAs (Decidable (_ ∨ _))

def renewedDeadline (received : U32) : U32 :=
  let deadline := received + leaseMs
  if m.build.segmentActive ∧ After deadline m.build.deadlineMs then m.build.deadlineMs else deadline

/-- `MotorExecutor_RefreshBuildFeedback`. -/
def refreshBuildFeedback (token : U32) (sequence : U64) (received : U32) : MotorResult × Device Bridge :=
  let now := m.clock
  if ¬ m.owned ∨ token ≠ m.generation ∨ m.pending ≠ none ∨ ageMs < now - received ∨
      (m.haveSequence ∧ ¬ After sequence m.feedbackSequence) then (.invalid, m)
  else if ¬ m.renewable then (.ok, { m with feedbackSequence := sequence })
  else if m.lapsed hw now then (.timerError, m.abort hw .deadline)
  else
    let deadline := m.renewedDeadline received
    let kept := m.renewLease hw (deadline - now)
    if ¬ stands kept then (.timerError, kept.2.abort hw .deadline)
    else
      let m := kept.2
      (.ok, { m with
        feedbackSequence := sequence
        build := { m.build with
          receiveDeadlineMs := deadline
          preloadDeadlineMs := if m.build.preloadActive then deadline else m.build.preloadDeadlineMs }
        drive := { m.drive with logicalDeadlineMs := deadline, logicalBackstopMs := deadline } })

/-- `MotorExecutor_GetBuildSnapshot`: the ledger with the running time of what is on. -/
def getBuildSnapshot : Ledger × Device Bridge :=
  let now := m.clock
  let m := m.refreshRest hw now
  let segment := if m.build.segmentActive then now - m.build.startedMs + 1 else 0
  let preload := if m.build.preloadActive then now - m.build.preloadStartedMs + 1 else 0
  ({ m.build with
      energizedUpperMs := m.build.energizedUpperMs + segment + preload
      preloadSpentMs := m.build.preloadSpentMs + preload }, m)

/-! ### Disable, service and guard -/

/-- `MotorExecutor_Disable`. -/
def disable : MotorResult × Device Bridge :=
  let m := m.disableImmediate hw
  let m := (m.recordOff hw m.clock .stop).cancel
  let m := { m with
    owned := false, pending := none
    drive := { m.drive with
      lastAction := .disabled, commandMv := 0, logicalDeadlineMs := 0, logicalBackstopMs := 0
      tim2 := 0, tim3 := 0, logicalActive := false } }
  if ¬ hw.isDisabled m.bridge then (.hardwareError, m.disableImmediate hw)
  else if m.timer.isArmed then (.timerError, m.cancel)
  else (.ok, m)

/-- `MotorExecutor_MapCompletion`. -/
def mapCompletion : StopEvent → Completion
  | .normal => .normal
  | .backstop => .backstop
  | .error => .error

/-- `MotorExecutor_PublishCompletion`. -/
def publishCompletion (event : StopEvent) : MotorResult × Device Bridge :=
  let event :=
    if m.drive.lastAction = .buildSegment ∧ m.build.endReason = .deadline then .error else event
  let m := if event ≠ .normal then
      let m := m.disableImmediate hw
      m.recordOff hw m.clock .deadline
    else m
  let close (event : StopEvent) (m : Device Bridge) : Device Bridge :=
    { m with drive := { m.drive with lastCompletion := mapCompletion event } }.clearActivePlan
  if ¬ hw.isDisabled m.bridge then (.hardwareError, close .error (m.disableImmediate hw))
  else (if event = .error then .timerError else .ok, close event m)

def publishFailure : MotorResult × Device Bridge :=
  ((m.disableImmediate hw).cancel).publishCompletion hw .error

/-- `MotorExecutor_Service`. -/
def service (now : U32) : MotorResult × Device Bridge :=
  match m.pending with
  | some event => { m with pending := none }.publishCompletion hw event
  | none =>
    let failed (result : MotorResult) (m : Device Bridge) : MotorResult × Device Bridge :=
      (result, { m with drive := { m.drive with lastCompletion := .error } })
    if ¬ m.drive.logicalActive then
      if ¬ hw.isDisabled m.bridge then failed .hardwareError ((m.disableImmediate hw).cancel)
      else if m.timer.isArmed then failed .timerError ((m.disableImmediate hw).cancel)
      else if ¬ m.timer.isHealthy then (.timerError, m)
      else (.ok, m)
    else if ¬ m.timer.isHealthy ∨ ¬ m.timer.isArmed ∨ Reached now m.drive.logicalBackstopMs then
      m.publishFailure hw
    else if hw.isDisabled m.bridge then (.hardwareError, (m.publishFailure hw).2)
    else (.ok, m)

/-- `MotorExecutor_GuardPendingCompletion`. -/
def guardPendingCompletion : MotorResult × Device Bridge :=
  let m := (m.disableImmediate hw).cancel
  (if ¬ hw.isDisabled m.bridge then .hardwareError else if m.timer.isArmed then .timerError else .ok, m)

/-- `MotorExecutor_GuardOutput`. -/
def guardOutput : MotorResult × Device Bridge :=
  if m.pending ≠ none then m.guardPendingCompletion hw
  else if m.drive.logicalActive then
    if m.activeRequestIsValid hw then (.ok, m)
    else (.hardwareError, (m.disableImmediate hw).cancel)
  else
    let off := (m.disableImmediate hw).cancel
    (if ¬ hw.isDisabled off.bridge then .hardwareError
      else if ¬ hw.isDisabled m.bridge then .hardwareError
      else if m.timer.isArmed then .timerError
      else .ok, off)

/-! ### Interrupts and initialization -/

def interrupt : Device Bridge :=
  if m.timer.line ∧ m.timer.interrupts ∧ m.timer.flagged then m.irqHandler hw else m

/-- `MotorExecutor_Initialize`, for a clock of TIM5 that it accepts or not. Nothing is known about the
motor's temperature, so a full rest is due. -/
def initial (clockValid : Bool) (bridge : Bridge) (time : Nat) : Device Bridge :=
  let off := hw.disableImmediate bridge
  let ready := hw.initializeDisabled off
  let accepted := ready.1 && clockValid
  { bridge := if accepted then ready.2 else hw.disableImmediate ready.2
    timer := ⟨accepted, false, accepted, false, false, false, true, false, false, 0, 0, BitVec.allOnes 32,
      false, false, false⟩
    time := time, initialized := accepted, pending := none
    drive := ⟨.disabled, .press, .none, 0, 0, 0, 0, 0, 0, false⟩
    build := ⟨0, 0, 0, 0, 0, 0, false, 0, .idle, .none, 0, 0, 0, 0, 0, 0, 0, 0, 0, 0, .none, false, false,
      false, 0, 0, 0⟩
    owned := false, haveSequence := false, restRequired := true, offVerified := hw.isDisabled off
    generation := 0, offAt := stamp 32 (time / 10), usedSequence := 0, feedbackSequence := 0 }

end Device

/-! ### The executor the machine is linked against -/

section Linked
variable {Bridge : Type} (hw : Hardware Bridge)

def driveCall (call : DriveCall) (m : Device Bridge) : DriveReply × Device Bridge :=
  let reply (answer : MotorResult × Device Bridge) : DriveReply × Device Bridge :=
    (⟨answer.1, answer.2.generation, 0, false⟩, answer.2)
  match call with
  | .beginBuild _ => reply (m.beginBuild hw)
  | .startSegment token request sequence received _ =>
    reply (m.startBuildSegment hw token request sequence received)
  | .endSegment token _ => reply (m.endBuildSegment hw token)
  | .refreshFeedback token sequence received _ => reply (m.refreshBuildFeedback hw token sequence received)
  | _ => (⟨.invalid, 0, 0, false⟩, m)

def Ledger.snapshot (e : Ledger) : BuildSnapshot :=
  ⟨e.epoch, e.inhibited, e.request, e.mode, e.endedMs, e.deadlineMs, e.receiveDeadlineMs, e.preloadDeadlineMs,
    e.endReason, e.segmentActive, e.preloadActive⟩

/-- The executor of a Build build. Its failure latches are telemetry and read 0. -/
def executor : Executor (Device Bridge) where
  snapshot m :=
    ⟨m.drive.lastAction, m.drive.lastCompletion, m.drive.commandMv, m.drive.requestSequence, 0, 0, 0,
      m.drive.tim2, m.drive.tim3, m.drive.logicalActive, !hw.outputArmingAllowed, m.outputIsDisabled hw, 0, 0⟩
  outputIsDisabled m := m.outputIsDisabled hw
  isHealthy m := m.isHealthy hw
  activeRequestIsValid m := m.activeRequestIsValid hw
  continuousExpired _ := false
  continuousBoostCommand _ _ _ := 0
  buildOwnerValid token m := m.buildOwnerValid hw token
  drive := driveCall hw
  disable m := m.disable hw
  buildSnapshot _ m := ((m.getBuildSnapshot hw).1.snapshot, (m.getBuildSnapshot hw).2)
  acceptPost token request sequence received _ m := m.acceptBuildPost hw token request sequence received

end Linked

end Sd700.Motor.BuildExecutor
