import Sd700.Logic.Modular
import Sd700.Motor.Pulses

/-! The locked executor of `motor_executor_locked.c`: the clock alone ends its requests, and no output moves. -/

namespace Sd700.Motor.Locked
open Build.Contract Logic.Modular Interface

/-- The arguments of `MotorExecutor_StartPulse`, and with `pulse` off of `MotorExecutor_StartRun`. The direction
is the number of an enumerator, or of none. -/
structure Start where
  pulse : Bool
  direction : U32
  commandMv : U32
  durationMs : U32
  backstopMs : U32

/-- What a `MotorExecutorSnapshot` says of the request. -/
structure Logical where
  lastAction : MotorAction
  direction : Direction
  lastCompletion : Completion
  commandMv : U32
  requestedDurationMs : U32
  deadlineMs : U32
  backstopMs : U32
  requestSequence : U32
  tim2 : U16
  tim3 : U16
  active : Bool
  deriving DecidableEq

def directionOf (code : U32) : Option Direction :=
  if code = 0 then some .press else if code = 1 then some .release else none

structure Plan where
  direction : Direction
  tim2 : U16
  tim3 : U16

/-- `MotorExecutor_PlanCommand`, the same in both executors. -/
def planCommand (code commandMv : U32) : Option Plan :=
  (directionOf code).bind fun direction =>
    (Pulses.planCommand direction commandMv.toNat).map fun counts =>
      ⟨direction, BitVec.ofNat 16 counts.1, BitVec.ofNat 16 counts.2⟩

def actionOf (pulse : Bool) : Direction → MotorAction
  | .press => if pulse then .pressPulse else .pressRun
  | .release => if pulse then .releasePulse else .releaseRun

namespace Logical

/-- The snapshot cleared by `MotorExecutor_Initialize`. -/
def fresh : Logical := ⟨.disabled, .press, .none, 0, 0, 0, 0, 0, 0, 0, false⟩

def take (l : Logical) (r : Start) (plan : Plan) (now : U32) : Logical :=
  { lastAction := actionOf r.pulse plan.direction
    direction := plan.direction
    lastCompletion := .none
    commandMv := r.commandMv
    requestedDurationMs := r.durationMs
    deadlineMs := now + r.durationMs
    backstopMs := now + r.backstopMs
    requestSequence := l.requestSequence + 1
    tim2 := plan.tim2
    tim3 := plan.tim3
    active := true }

/-- `MotorExecutor_ClearActivePlan`. -/
def clearPlan (l : Logical) : Logical := { l with tim2 := 0, tim3 := 0, active := false }

/-- What `MotorExecutor_Disable` clears. -/
def stop (l : Logical) : Logical :=
  { l.clearPlan with lastAction := .disabled, commandMv := 0, requestedDurationMs := 0, deadlineMs := 0, backstopMs := 0 }

end Logical

/-- What both executors refuse before they look at the command. -/
def Start.fits (r : Start) : Prop := r.durationMs ≠ 0 ∧ r.durationMs < r.backstopMs

instance (r : Start) : Decidable r.fits := inferInstanceAs (Decidable (_ ∧ _))

structure State where
  logical : Logical
  outputLocked : Bool
  outputDisabled : Bool

namespace State

/-- `MotorExecutor_Initialize`. -/
def initial : State := ⟨.fresh, true, true⟩

variable (s : State)

/-- `MotorExecutor_Start`. -/
def start (r : Start) (now : U32) : MotorResult × State :=
  if s.logical.active then (.busy, s)
  else if ¬r.fits then (.invalid, s)
  else
    match planCommand r.direction r.commandMv with
    | none => (.invalid, s)
    | some plan => (.ok, ⟨s.logical.take r plan now, true, true⟩)

/-- `MotorExecutor_Disable`. -/
def disable : MotorResult × State := (.ok, ⟨s.logical.stop, true, true⟩)

/-- `MotorExecutor_Service`. -/
def service (now : U32) : MotorResult × State :=
  if ¬s.logical.active then (.ok, s)
  else
    let logical :=
      if Reached now s.logical.backstopMs then { s.logical with lastCompletion := .backstop, active := false }
      else if Reached now s.logical.deadlineMs then { s.logical with lastCompletion := .normal, active := false }
      else s.logical
    if ¬logical.active then (.ok, { s with logical := { logical with tim2 := 0, tim3 := 0 }, outputDisabled := true })
    else (.ok, { s with logical := logical })

end State

/-! ### As the automatic machine sees it -/

def codeOf : Direction → U32
  | .press => 0
  | .release => 1

def startOf (call : Pulses.StartCall) : Start :=
  ⟨call.pulse, codeOf call.direction, call.commandMv, call.durationMs, call.backstopMs⟩

def pulses : Pulses.PulseExecutor State where
  snapshot s :=
    ⟨s.logical.requestSequence, s.logical.direction, s.logical.lastCompletion, s.logical.active, s.outputDisabled⟩
  outputIsDisabled s := s.outputDisabled
  isHealthy s := s.outputLocked && s.outputDisabled
  activeRequestIsValid s := s.logical.active && s.outputLocked && s.outputDisabled
  start call s := s.start (startOf call) call.now
  service now s := s.service now
  disable s := s.disable
  interrupt s := s

theorem service_inactive {s : State} {now : U32} (inactive : s.logical.active = false) : s.service now = (.ok, s) := by
  unfold State.service
  rw [if_pos (by simp [inactive])]

theorem service_sequence (s : State) (now : U32) :
    (s.service now).2.logical.requestSequence = s.logical.requestSequence := by
  unfold State.service
  by_cases inactive : ¬s.logical.active
  · rw [if_pos inactive]
  · rw [if_neg inactive]
    dsimp only
    by_cases backstop : Reached now s.logical.backstopMs
    · simp [backstop]
    · by_cases deadline : Reached now s.logical.deadlineMs
      · simp [backstop, deadline]
      · simp [backstop, deadline, inactive]

theorem pulses_sound : pulses.Sound where
  disable_ok _ := rfl
  disable_idle _ := ⟨rfl, rfl⟩
  service_idle now s idle := by
    change pulses.Idle (s.service now).2
    rw [service_inactive idle.1]
    exact idle
  interrupt_idle _ idle := idle
  disable_sequence _ := rfl
  service_sequence now s := service_sequence s now
  interrupt_sequence _ := rfl

end Sd700.Motor.Locked
