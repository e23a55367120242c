import Sd700.Motor.Bridge
import Sd700.Motor.Locked
import Sd700.Motor.Timer

/-! The executor of `motor_executor_real.c` in a build without ForceServo: TIM5 ends its requests, and the service
publishes what the interrupt has latched. -/

namespace Sd700.Motor.Unlocked
open Build.Contract Logic.Modular Interface Bridge Timer Locked

/-- `MotorHwReal_ApplyRelease`. -/
def applyRelease (b : Registers) (armed : Bool) (duty : U16) : Bool × Registers :=
  let b := b.disableImmediate
  if ¬ b.initialized ∨ duty = 0 ∨ Registers.periodCounts < duty ∨ ¬ armed ∨ ¬ b.isDisabled then b.failApply
  else
    let b := { b with channel2 := true, channel3 := true, running2 := true, running3 := true }
    if ¬ b.zeroCarriersAreRunning then b.failApply
    else
      let b := { b with sd1 := true, sd2 := true, compare2 := duty, compare3 := 0 }
      if ¬ b.releaseCompareIsValid duty then b.failApply else (true, b)

/-- `MotorStopTimer_Initialize`, at a clock that divides into the counts. -/
def initializeTimer (t : StopTimer) : StopTimer :=
  { t.cancel with
    initialized := true, healthy := true, onePulse := true, reload := BitVec.allOnes 32, compare := 0 }

def raised (t : StopTimer) : Bool := t.line && t.interrupts && t.flagged

/-- The event `MotorStopTimer_IrqHandler` reads off the flags of an armed timer. -/
def irqEvent (t : StopTimer) : StopEvent :=
  if t.overcaptured then .error else if t.updated then .backstop else if t.compared then .normal else .error

structure State where
  logical : Logical
  outputLocked : Bool
  outputDisabled : Bool
  lastFailure : MotorResult
  initialized : Bool
  pending : Option StopEvent
  bridge : Registers
  timer : StopTimer

namespace State

-- `armed` is `MotorHwReal_OutputArmingAllowed`, fixed when the board is built.
variable (armed : Bool) (s : State)

/-- `MotorHwReal_DisableImmediate`. -/
def disableImmediate : State := { s with bridge := s.bridge.disableImmediate }

/-- `MotorStopTimer_Cancel`. -/
def cancel : State := { s with timer := s.timer.cancel }

/-- `MotorExecutor_ClearPendingCompletion`. -/
def clearPending : State := { s with pending := none }

/-- `MotorExecutor_SetPhysicalStatus`. -/
def setPhysicalStatus : State := { s with outputLocked := !armed, outputDisabled := s.bridge.isDisabled }

/-- `MotorExecutor_ClearFailure`. -/
def clearFailure : State := { s with lastFailure := .ok }

/-- `MotorExecutor_LatchFailure`, its stage apart: the first failure stays. -/
def latchFailure (result : MotorResult) : State :=
  if result ≠ .timerError ∧ result ≠ .hardwareError then s
  else if s.lastFailure ≠ .ok then s
  else { s with lastFailure := result }

/-- `MotorExecutor_StopTimerExpiredFromIsr`. -/
def expired (event : StopEvent) : State := { s.disableImmediate.cancel with pending := some event }

/-- `MotorStopTimer_IrqHandler`. -/
def irqHandler : State :=
  if ¬ s.timer.armed then (expired { s with timer := { s.timer with healthy := false } } .error).cancel
  else
    (expired { s with timer := { s.timer with
        healthy := s.timer.healthy && decide (irqEvent s.timer ≠ .error) } } (irqEvent s.timer)).cancel

/-- `MotorStopTimer_Arm`. -/
def arm (durationMs backstopMs : U32) : Bool × State :=
  ((s.timer.arm durationMs backstopMs).1, { s with timer := (s.timer.arm durationMs backstopMs).2 })

/-- `MotorStopTimer_CommitArm`. -/
def commitArm : Bool × State :=
  if ¬ s.timer.armed ∨ ¬ s.timer.healthy then (false, s)
  else if s.timer.flagged then (false, s.irqHandler)
  else (true, { s with timer := { s.timer with line := true } })

/-- `MotorExecutor_MapCompletion`. -/
def mapCompletion : StopEvent → Completion
  | .normal => .normal
  | .backstop => .backstop
  | .error => .error

/-- `MotorExecutor_PublishCompletion`. -/
def publishCompletion (event : StopEvent) : MotorResult × State :=
  let s := s.setPhysicalStatus armed
  let ended (result : MotorResult) (event : StopEvent) (s : State) : MotorResult × State :=
    (result, { s with logical := { s.logical with lastCompletion := mapCompletion event }.clearPlan })
  if ¬ s.outputDisabled then
    ended .hardwareError .error ((s.disableImmediate.setPhysicalStatus armed).latchFailure .hardwareError)
  else if event = .error then ended .timerError event (s.latchFailure .timerError)
  else ended .ok event s

/-- `MotorExecutor_TakeCompletion` in front of the rest of a service. -/
def orPublish (rest : MotorResult × State) : MotorResult × State :=
  match s.pending with
  | some event => s.clearPending.publishCompletion armed event
  | none => rest

def abandon (failure : MotorResult) : MotorResult × State :=
  ((s.latchFailure failure).disableImmediate.cancel).publishCompletion armed .error

/-- `MotorExecutor_Service`. -/
def service (now : U32) : MotorResult × State :=
  s.orPublish armed <|
    let s := s.setPhysicalStatus armed
    s.orPublish armed <|
      if ¬ s.logical.active then
        if ¬ s.outputDisabled then
          let s := (s.disableImmediate.cancel).setPhysicalStatus armed
          (.hardwareError, { s with logical := { s.logical with lastCompletion := .error } }.latchFailure .hardwareError)
        else if s.timer.isArmed then
          let s := s.disableImmediate.cancel
          (.timerError, { s with logical := { s.logical with lastCompletion := .error } }.latchFailure .timerError)
        else if ¬ s.timer.isHealthy then s.orPublish armed (.timerError, s.latchFailure .timerError)
        else (.ok, s)
      else if ¬ s.timer.isHealthy then s.orPublish armed (s.abandon armed .timerError)
      else if ¬ s.timer.isArmed then s.orPublish armed (s.abandon armed .timerError)
      else if Reached now s.logical.backstopMs then s.orPublish armed (s.abandon armed .timerError)
      else if s.outputDisabled then
        s.orPublish armed (.hardwareError, (s.abandon armed .hardwareError).2)
      else (.ok, s)

/-- `MotorExecutor_Disable`. -/
def disable : MotorResult × State :=
  let s := s.disableImmediate.cancel.clearPending
  let s := { s with logical := s.logical.stop }.setPhysicalStatus armed
  if ¬ s.outputDisabled then
    (.hardwareError, (s.latchFailure .hardwareError).disableImmediate.setPhysicalStatus armed)
  else if s.timer.isArmed then (.timerError, (s.latchFailure .timerError).cancel)
  else (.ok, s)

/-- `MotorExecutor_FailStart`. -/
def failStart (result : MotorResult) : MotorResult × State :=
  let s := s.disableImmediate.cancel.clearPending
  (result, { s with logical := s.logical.clearPlan }.setPhysicalStatus armed)

def apply (plan : Plan) : Bool × State :=
  let applied :=
    match plan.direction with
    | .press => s.bridge.applyPress armed plan.tim3
    | .release => applyRelease s.bridge armed plan.tim2
  (applied.1, { s with bridge := applied.2 })

/-- `MotorExecutor_Start` behind the programmed timer. -/
def commitStart (now : U32) : MotorResult × State :=
  let committed := s.commitArm
  if ¬ committed.1 then
    let s := committed.2.latchFailure .timerError
    if s.pending ≠ none then (.timerError, (s.service armed now).2) else s.failStart armed .timerError
  else if ¬ committed.2.logical.active then (.timerError, committed.2.latchFailure .timerError)
  else (.ok, committed.2)

/-- `MotorExecutor_Start` behind the plan. -/
def energize (r : Start) (plan : Plan) (now : U32) : MotorResult × State :=
  let s := s.clearFailure.disableImmediate.cancel.setPhysicalStatus armed
  if ¬ s.initialized ∨ ¬ s.outputDisabled ∨ ¬ armed then
    (s.latchFailure .hardwareError).failStart armed .hardwareError
  else
    let s := { s with logical := s.logical.take r plan now }.clearPending
    let timed := s.arm r.durationMs r.backstopMs
    if ¬ timed.1 then (timed.2.latchFailure .timerError).failStart armed .timerError
    else
      let applied := timed.2.apply armed plan
      let s := applied.2.setPhysicalStatus armed
      if ¬ applied.1 ∨ s.outputDisabled then (s.latchFailure .hardwareError).failStart armed .hardwareError
      else s.commitStart armed now

/-- `MotorExecutor_Start`. -/
def start (r : Start) (now : U32) : MotorResult × State :=
  if s.logical.active then (.busy, s)
  else if ¬r.fits then (.invalid, s)
  else
    match planCommand r.direction r.commandMv with
    | none => (.invalid, s)
    | some plan => s.energize armed r plan now

end State

/-- `MotorExecutor_Initialize`, on any bridge and timer. -/
def State.initial (armed : Bool) (bridge : Registers) (timer : StopTimer) : State :=
  State.setPhysicalStatus armed
    { logical := .fresh
      outputLocked := false
      outputDisabled := false
      lastFailure := .ok
      initialized := true
      pending := none
      bridge := bridge.disableImmediate.initializeDisabled.2
      timer := initializeTimer timer }

/-! ### As the automatic machine sees it -/

namespace State
variable {armed : Bool} {s : State}

/-- `MotorExecutor_ActiveRequestIsValid`. -/
def activeRequestIsValid (armed : Bool) (s : State) : Bool :=
  s.logical.active &&
    if s.pending ≠ none then s.bridge.isDisabled && !s.timer.isArmed
    else armed && !s.bridge.isDisabled && s.timer.isArmed && s.timer.isHealthy

/-- `MotorExecutor_IsHealthy`. -/
def isHealthy (armed : Bool) (s : State) : Bool :=
  s.initialized && s.timer.isHealthy &&
    if s.logical.active then s.activeRequestIsValid armed else s.bridge.isDisabled && !s.timer.isArmed

@[simp] theorem latchFailure_logical (s : State) (result : MotorResult) : (s.latchFailure result).logical = s.logical := by
  unfold latchFailure
  by_cases other : result ≠ .timerError ∧ result ≠ .hardwareError
  · rw [if_pos other]
  · rw [if_neg other]
    by_cases old : s.lastFailure ≠ .ok
    · rw [if_pos old]
    · rw [if_neg old]

@[simp] theorem latchFailure_bridge (s : State) (result : MotorResult) : (s.latchFailure result).bridge = s.bridge := by
  unfold latchFailure
  by_cases other : result ≠ .timerError ∧ result ≠ .hardwareError
  · rw [if_pos other]
  · rw [if_neg other]
    by_cases old : s.lastFailure ≠ .ok
    · rw [if_pos old]
    · rw [if_neg old]

/-- Every published completion leaves the output off and the request ended, under its number. -/
structure Ended (s : State) (out : MotorResult × State) : Prop where
  inactive : out.2.logical.active = false
  off : out.2.bridge.isDisabled = true
  sequence : out.2.logical.requestSequence = s.logical.requestSequence

theorem publishCompletion_ended (armed : Bool) (s : State) (event : StopEvent) :
    Ended s (s.publishCompletion armed event) := by
  unfold publishCompletion
  dsimp only
  by_cases on : ¬(s.setPhysicalStatus armed).outputDisabled
  · rw [if_pos on]
    refine ⟨rfl, ?_, ?_⟩
    · dsimp only
      rw [latchFailure_bridge]
      rfl
    · change (latchFailure _ _).logical.requestSequence = _
      rw [latchFailure_logical]
      rfl
  · rw [if_neg on]
    have off : s.bridge.isDisabled = true := not_not.mp on
    by_cases failed : event = .error
    · rw [if_pos failed]
      refine ⟨rfl, ?_, ?_⟩
      · dsimp only
        rw [latchFailure_bridge]
        exact off
      · change (latchFailure _ _).logical.requestSequence = _
        rw [latchFailure_logical]
        rfl
    · rw [if_neg failed]
      exact ⟨rfl, off, rfl⟩

theorem abandon_ended (armed : Bool) (s : State) (failure : MotorResult) : Ended s (s.abandon armed failure) := by
  have ended := publishCompletion_ended armed (s.latchFailure failure).disableImmediate.cancel .error
  refine ⟨ended.inactive, ended.off, ended.sequence.trans ?_⟩
  change (s.latchFailure failure).logical.requestSequence = _
  rw [latchFailure_logical]

structure Serviced (s : State) (out : MotorResult × State) : Prop where
  sequence : out.2.logical.requestSequence = s.logical.requestSequence
  rest : s.logical.active = false → s.bridge.isDisabled = true →
    out.2.logical.active = false ∧ out.2.bridge.isDisabled = true

theorem Ended.serviced {out : MotorResult × State} (ended : Ended s out) : Serviced s out :=
  ⟨ended.sequence, fun _ _ => ⟨ended.inactive, ended.off⟩⟩

theorem orPublish_serviced {rest : MotorResult × State} (serviced : Serviced s rest) :
    Serviced s (s.orPublish armed rest) := by
  unfold orPublish
  cases s.pending with
  | none => exact serviced
  | some event =>
    have ended := publishCompletion_ended armed s.clearPending event
    exact ⟨ended.sequence, fun _ _ => ⟨ended.inactive, ended.off⟩⟩

theorem service_serviced (armed : Bool) (s : State) (now : U32) : Serviced s (s.service armed now) := by
  unfold service
  apply orPublish_serviced
  have shown : ∀ {out}, Serviced (s.setPhysicalStatus armed) out → Serviced s out := fun serviced =>
    ⟨serviced.sequence, serviced.rest⟩
  apply shown
  dsimp only
  generalize s.setPhysicalStatus armed = u
  apply orPublish_serviced
  by_cases inactive : ¬u.logical.active
  · rw [if_pos inactive]
    by_cases on : ¬u.outputDisabled
    · rw [if_pos on]
      refine ⟨?_, fun idle _ => ⟨?_, ?_⟩⟩
      · dsimp only
        rw [latchFailure_logical]
        rfl
      · dsimp only
        rw [latchFailure_logical]
        exact idle
      · dsimp only
        rw [latchFailure_bridge]
        rfl
    · rw [if_neg on]
      by_cases running : u.timer.isArmed = true
      · rw [if_pos running]
        refine ⟨?_, fun idle _ => ⟨?_, ?_⟩⟩
        · dsimp only
          rw [latchFailure_logical]
          rfl
        · dsimp only
          rw [latchFailure_logical]
          exact idle
        · dsimp only
          rw [latchFailure_bridge]
          rfl
      · rw [if_neg running]
        by_cases sick : ¬u.timer.isHealthy
        · rw [if_pos sick]
          apply orPublish_serviced
          refine ⟨?_, fun idle off => ⟨?_, ?_⟩⟩
          · rw [latchFailure_logical]
          · rw [latchFailure_logical]
            exact idle
          · rw [latchFailure_bridge]
            exact off
        · rw [if_neg sick]
          exact ⟨rfl, fun idle off => ⟨idle, off⟩⟩
  · rw [if_neg inactive]
    have abandoned : ∀ failure, Serviced u (u.orPublish armed (u.abandon armed failure)) := fun failure =>
      orPublish_serviced (abandon_ended armed u failure).serviced
    by_cases sick : ¬u.timer.isHealthy
    · rw [if_pos sick]
      exact abandoned _
    · rw [if_neg sick]
      by_cases stopped : ¬u.timer.isArmed
      · rw [if_pos stopped]
        exact abandoned _
      · rw [if_neg stopped]
        by_cases late : Reached now u.logical.backstopMs
        · rw [if_pos late]
          exact abandoned _
        · rw [if_neg late]
          by_cases dropped : u.outputDisabled = true
          · rw [if_pos dropped]
            apply orPublish_serviced
            have ended := abandon_ended armed u .hardwareError
            exact ⟨ended.sequence, fun _ _ => ⟨ended.inactive, ended.off⟩⟩
          · rw [if_neg dropped]
            exact ⟨rfl, fun idle off => ⟨idle, off⟩⟩

end State

def pulses (armed : Bool) : Pulses.PulseExecutor State where
  snapshot s :=
    ⟨s.logical.requestSequence, s.logical.direction, s.logical.lastCompletion, s.logical.active, s.bridge.isDisabled⟩
  outputIsDisabled s := s.bridge.isDisabled
  isHealthy s := s.isHealthy armed
  activeRequestIsValid s := s.activeRequestIsValid armed
  start call s := s.start armed (startOf call) call.now
  service now s := s.service armed now
  disable s := s.disable armed
  interrupt s := s.irqHandler

theorem irqHandler_logical (s : State) : s.irqHandler.logical = s.logical := by
  unfold State.irqHandler
  by_cases stopped : ¬s.timer.armed
  · rw [if_pos stopped]
    rfl
  · rw [if_neg stopped]
    rfl

theorem irqHandler_off (s : State) : s.irqHandler.bridge.isDisabled = true := by
  unfold State.irqHandler
  by_cases stopped : ¬s.timer.armed
  · rw [if_pos stopped]
    rfl
  · rw [if_neg stopped]
    rfl

/-- Armed or not, and whatever its board is like, this executor too is what the automatic machine relies on. -/
theorem pulses_sound (armed : Bool) : (pulses armed).Sound where
  disable_ok _ := rfl
  disable_idle _ := ⟨rfl, rfl⟩
  service_idle now s idle := (State.service_serviced armed s now).rest idle.1 idle.2
  interrupt_idle s idle := by
    refine ⟨?_, irqHandler_off s⟩
    change s.irqHandler.logical.active = false
    rw [irqHandler_logical]
    exact idle.1
  disable_sequence _ := rfl
  service_sequence now s := (State.service_serviced armed s now).sequence
  interrupt_sequence s := by
    change s.irqHandler.logical.requestSequence = _
    rw [irqHandler_logical]
    rfl

end Sd700.Motor.Unlocked
