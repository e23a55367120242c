import Sd700.Motor.Unlocked

/-! The continuous executor of `motor_executor_real.c`, in a commissioning build without Build segments: one
owner holds a session, every accepted sample renews a TIM5 lease, and a boost may rise above the normal cap once. -/

namespace Sd700.Motor.Continuous
open Build.Contract Logic.Modular Interface Bridge Timer Locked Unlocked

/-- The ceilings of `force_servo_output_profile.h`, in millivolts, and what the build selects beside them. -/
structure Ceilings where
  pressProfile : ℕ
  releaseProfile : ℕ
  executorPress : ℕ
  continuous : ℕ
  approvedPeakMs : U32
  syntheticBoost : Bool
  characterization : Bool

def Ceilings.characterized : Ceilings := ⟨9600, 100, 9600, 2400, 4, false, true⟩

/-- `FORCE_SERVO_COMMISSIONING_AGE_MS`. -/
def commissioningAgeMs : U32 := 20

/-- `FORCE_SERVO_COMMISSIONING_DEADTIME_MS`. -/
def commissioningDeadtimeMs : U32 := 2

/-- The `s_servo_`, `s_session_` and `s_boost_` statics. -/
structure Session where
  isOpen : Bool
  generation : U32
  sequence : U64
  hasSequence : Bool
  committed : ℤ
  lastSign : ℤ
  offMs : U32
  budgetSet : Bool
  limited : Bool
  boostSet : Bool
  boostUsed : Bool
  boostEnd : Bool
  deadline : U32
  boostDeadline : U32
  receiveDeadline : U32
  normalCap : ℤ
  boostPlan : Bool
  boostStarted : U32
  boostRise : U32
  boostEndMs : U32
  boostInitial : ℤ
  boostPeak : ℤ
  boostLower : ℤ

def Session.zero : Session :=
  { isOpen := false, generation := 0, sequence := 0, hasSequence := false, committed := 0, lastSign := 0
    offMs := 0, budgetSet := false, limited := false, boostSet := false, boostUsed := false, boostEnd := false
    deadline := 0, boostDeadline := 0, receiveDeadline := 0, normalCap := 0, boostPlan := false
    boostStarted := 0, boostRise := 0, boostEndMs := 0, boostInitial := 0, boostPeak := 0, boostLower := 0 }

structure BoostTimes where
  startedMs : U32
  deadlineMs : U32
  plannedEndMs : U32

structure State where
  bridge : Registers
  timer : StopTimer
  time : ℕ
  initialized : Bool
  pending : Option StopEvent
  logical : Logical
  boostTimes : BoostTimes
  session : Session

/-- `MotorHwReal_Update` towards RELEASE. -/
def updateRelease (b : Registers) (armed : Bool) (duty : U16) : Bool × Registers :=
  let previous := b.compare2
  if ¬ b.initialized ∨ ¬ armed ∨ previous = 0 ∨ duty = 0 ∨ Registers.periodCounts < duty ∨ ¬ b.configured ∨
      ¬ b.releaseCompareIsValid previous then b.failApply
  else
    let b := { b with compare2 := duty }
    if ¬ b.releaseCompareIsValid duty then b.failApply else (true, b)

/-- `MotorExecutor_PlanCommand` of a commissioning build. -/
def Ceilings.plan (c : Ceilings) (direction : Direction) (command : ℕ) : Option Plan :=
  let ceiling := match direction with
    | .press => c.pressProfile
    | .release => c.releaseProfile
  if ceiling < command then none
  else (Pulses.planCommand direction command).map fun counts =>
    ⟨direction, BitVec.ofNat 16 counts.1, BitVec.ofNat 16 counts.2⟩

def directionOf (command : ℤ) : Direction := if 0 < command then .press else .release

/-! ### Ways out of a call -/

/-- `goto fail` unless the condition holds. -/
def need (condition : Prop) [Decidable condition] (s : State) : Except State Unit :=
  if condition then .ok () else .error s

/-- `goto fail` unless the call has succeeded. -/
def tried (answer : Bool × State) : Except State State :=
  if answer.1 then .ok answer.2 else .error answer.2

namespace State

-- `armed` is `MotorHwReal_OutputArmingAllowed`, fixed when the board is built.
variable (c : Ceilings) (armed : Bool) (s : State)

/-- `MotorAtomic_Now`: the millisecond tick, whatever the caller supplies. -/
def clock : U32 := stamp 32 (s.time / 10)

/-- `MotorHwReal_DisableImmediate`. -/
def disableImmediate : State := { s with bridge := s.bridge.disableImmediate }

/-- `MotorStopTimer_Cancel`. -/
def cancel : State := { s with timer := s.timer.cancel }

def close : State := { s with session := { s.session with isOpen := false } }

/-- The exit at `fail`: the output goes off, the lease is revoked, and the event of the interrupt is kept. -/
def revoke : State := { s.close.disableImmediate.cancel with pending := s.pending.or (some .error) }

def settle (body : Except State State) : MotorResult × State :=
  match body with
  | .ok s => (.ok, s)
  | .error s => (.hardwareError, s.revoke)

/-! ### The lease -/

/-- `MotorExecutor_StopTimerExpiredFromIsr`. -/
def expired (event : StopEvent) : State := { s.disableImmediate.cancel.close with pending := some event }

/-- `MotorStopTimer_IrqHandler`. -/
def irqHandler : State :=
  if ¬ s.timer.armed then (expired { s with timer := { s.timer with healthy := false } } .error).cancel
  else
    (expired { s with timer := { s.timer with
        healthy := s.timer.healthy && decide (irqEvent s.timer ≠ .error) } } (irqEvent s.timer)).cancel

/-- `MotorStopTimer_CommitArm`. -/
def commitArm : Bool × State :=
  if ¬ s.timer.armed ∨ ¬ s.timer.healthy then (false, s)
  else if s.timer.flagged then (false, s.irqHandler)
  else (true, { s with timer := { s.timer with line := true } })

/-- `MotorStopTimer_ArmLease`. -/
def armLease (remaining : U32) : Bool × State :=
  if ¬ s.timer.isHealthy ∨ s.timer.armed ∨ ¬ StopTimer.leaseFits remaining then (false, s)
  else
    commitArm { s with
      timer := s.timer.cancel.start false (StopTimer.leaseCounts remaining) (BitVec.allOnes 32) }

/-- `MotorStopTimer_RenewLease`. -/
def renewLease (remaining : U32) : Bool × State :=
  if ¬ s.timer.isArmed ∨ ¬ s.timer.healthy ∨ ¬ StopTimer.leaseFits remaining then (false, s)
  else if s.timer.flagged then (false, s.irqHandler)
  else if Reached s.timer.count s.timer.compare then (false, (s.expired .normal).cancel)
  else
    commitArm { s with timer := { s.timer with compare := s.timer.count + StopTimer.leaseCounts remaining } }

def stands : Prop := s.session.isOpen = true ∧ s.pending = none

instance : Decidable s.stands := inferInstanceAs (Decidable (_ ∧ _))

/-! ### Queries -/

/-- `MotorExecutor_ActiveRequestIsValid`. -/
def activeRequestIsValid : Bool :=
  if s.logical.lastAction = .continuous ∧ s.pending = none then
    s.session.isOpen && s.logical.active && s.timer.isHealthy && s.timer.isArmed && armed &&
      decide (s.bridge.isDisabled = decide (s.session.committed = 0)) &&
      s.bridge.matchesPlan s.logical.tim2 s.logical.tim3
  else
    s.logical.active &&
      if s.pending ≠ none then s.bridge.isDisabled && !s.timer.isArmed
      else armed && !s.bridge.isDisabled && s.timer.isArmed && s.timer.isHealthy

/-- `MotorExecutor_IsHealthy`. -/
def isHealthy : Bool :=
  s.initialized && s.timer.isHealthy &&
    if s.logical.active then s.activeRequestIsValid armed else s.bridge.isDisabled && !s.timer.isArmed

/-- `MotorExecutor_ContinuousExpired`. -/
def continuousExpired : Bool :=
  decide (s.logical.lastAction = .continuous) && (!s.session.isOpen || s.pending.isSome)

def owns (token : U32) : Prop := s.session.isOpen = true ∧ token = s.session.generation

instance (token : U32) : Decidable (s.owns token) := inferInstanceAs (Decidable (_ ∧ _))

/-- `MotorExecutor_ContinuousBoostCommand`. -/
def boostCommand (token now : U32) : ℤ :=
  if ¬ s.owns token ∨ ¬ s.session.boostPlan ∨ ¬ s.session.boostSet then 0
  else
    let elapsed := if Reached now s.session.boostStarted then now - s.session.boostStarted else 0
    if s.session.boostRise ≤ elapsed then s.session.boostPeak
    else
      s.session.boostInitial +
        ((s.session.boostPeak - s.session.boostInitial).toNat * elapsed.toNat / s.session.boostRise.toNat : ℕ)

/-! ### The session -/

/-- What `MotorExecutor_BeginContinuous` asks of the executor. -/
def mayBegin : Bool :=
  s.initialized && !s.session.isOpen && !s.logical.active && decide (s.pending = none) &&
    s.bridge.isDisabled && !s.timer.isArmed && s.timer.isHealthy && armed

/-- `MotorExecutor_BeginContinuous`; the token is the generation it leaves. -/
def beginContinuous : MotorResult × State :=
  if ¬ s.mayBegin armed then (.invalid, s)
  else
    let next := s.session.generation + 1
    (.ok, { s with
      logical := { s.logical with lastAction := .continuous, lastCompletion := .none }
      boostTimes := ⟨0, 0, 0⟩
      session := { s.session with
        generation := if next = 0 then 1 else next, isOpen := true, hasSequence := false, committed := 0
        lastSign := 0, budgetSet := false, limited := false, boostSet := false, boostUsed := false
        boostEnd := false, boostPlan := false } })

/-- What `MotorExecutor_SetContinuousBudget` asks. -/
def budgetFits (token durationMs : U32) (cap : ℤ) : Prop :=
  s.owns token ∧ ¬ s.session.budgetSet ∧ ¬ s.session.hasSequence ∧
    ((3 ≤ durationMs ∧ durationMs ≤ 60000) ∨ (c.characterization ∧ durationMs = 0)) ∧
    (0 < cap ∨ (c.characterization ∧ cap = 0)) ∧ cap ≤ c.continuous

instance (token durationMs : U32) (cap : ℤ) : Decidable (s.budgetFits c token durationMs cap) :=
  inferInstanceAs (Decidable (_ ∧ _))

/-- `MotorExecutor_SetContinuousBudget`. -/
def setBudget (token durationMs : U32) (cap : ℤ) : Bool × State :=
  if ¬ s.budgetFits c token durationMs cap then (false, s)
  else
    (true, { s with session := { s.session with
      budgetSet := true, limited := decide (durationMs ≠ 0), deadline := s.clock + durationMs, normalCap := cap } })

/-- What `MotorExecutor_ArmContinuousBoost` asks. -/
def boostFits (token durationMs : U32) : Prop :=
  s.owns token ∧ s.session.budgetSet ∧ ¬ s.session.boostUsed ∧ 3 ≤ durationMs ∧ durationMs ≤ 60000 ∧
    (c.syntheticBoost ∨ durationMs ≤ c.approvedPeakMs) ∧
    (s.session.limited → durationMs.toInt < (s.session.deadline - s.clock).toInt) ∧ s.activeRequestIsValid armed

instance (token durationMs : U32) : Decidable (s.boostFits c armed token durationMs) :=
  inferInstanceAs (Decidable (_ ∧ _))

/-- `MotorExecutor_ArmContinuousBoost`. -/
def armBoost (token durationMs : U32) : Bool × State :=
  if ¬ s.boostFits c armed token durationMs then (false, s)
  else
    (true, { s with
      boostTimes := { s.boostTimes with startedMs := s.clock, deadlineMs := s.clock + durationMs }
      session := { s.session with
        boostSet := true, boostUsed := true, boostDeadline := s.clock + durationMs, boostStarted := s.clock } })

/-- `MotorExecutor_EndContinuousBoost`. -/
def endBoost (token : U32) : Bool × State :=
  if ¬ (s.owns token ∧ s.session.boostSet) then (false, s)
  else (true, { s with session := { s.session with boostEnd := true } })

/-- What `MotorExecutor_SetContinuousBoostPlan` asks. -/
def boostPlanFits (token riseMs endMs : U32) (peak lower : ℤ) : Prop :=
  s.owns token ∧ s.session.boostSet ∧ ¬ s.session.boostPlan ∧ 1 ≤ riseMs ∧ riseMs < endMs ∧
    endMs ≤ s.session.boostDeadline - s.session.boostStarted - 2 ∧ ¬ Reached s.clock (s.session.boostStarted + endMs) ∧
    (0 < s.session.committed ∨ (c.characterization ∧ s.session.committed = 0 ∧ 0 ≤ s.session.lastSign)) ∧
    (s.session.normalCap < peak ∨ (c.characterization ∧ 0 < peak)) ∧ peak ≤ c.executorPress ∧
    0 ≤ lower ∧ lower ≤ s.session.normalCap ∧ s.activeRequestIsValid armed

instance (token riseMs endMs : U32) (peak lower : ℤ) :
    Decidable (s.boostPlanFits c armed token riseMs endMs peak lower) :=
  inferInstanceAs (Decidable (_ ∧ _))

/-- `MotorExecutor_SetContinuousBoostPlan`. -/
def setBoostPlan (token riseMs endMs : U32) (peak lower : ℤ) : Bool × State :=
  if ¬ s.boostPlanFits c armed token riseMs endMs peak lower then (false, s)
  else
    let ends := s.session.boostStarted + endMs
    (true, { s with
      boostTimes := { s.boostTimes with plannedEndMs := ends }
      session := { s.session with
        boostPlan := true, boostInitial := min s.session.committed peak, boostPeak := peak, boostLower := lower
        boostRise := riseMs, boostEndMs := ends } })

/-! ### Output under the lease -/

/-- `MotorHwReal_MatchesPlan` for the compare values of a plan. -/
def matches_ (t2 t3 : U16) : Prop := s.bridge.matchesPlan t2 t3 = true

instance (t2 t3 : U16) : Decidable (s.matches_ t2 t3) := inferInstanceAs (Decidable (_ = _))

/-- The output of a plan: a running carrier takes another compare, a still one is started. -/
def apply (running : Bool) (plan : Plan) : Bool × State :=
  let applied :=
    match plan.direction, running with
    | .press, true => s.bridge.updatePress armed plan.tim3
    | .press, false => s.bridge.applyPress armed plan.tim3
    | .release, true => updateRelease s.bridge armed plan.tim2
    | .release, false => applyRelease s.bridge armed plan.tim2
  (applied.1, { s with bridge := applied.2 })

def record (command : ℤ) (t2 t3 : U16) : State :=
  { s with
    session := { s.session with committed := command }
    logical := { s.logical with
      commandMv := BitVec.ofNat 32 command.natAbs, tim2 := t2, tim3 := t3
      requestSequence := s.logical.requestSequence + 1 } }

def rest : State := { s.disableImmediate with session := { s.session with offMs := s.clock } }

def left (deadline : U32) : ℤ := (deadline - s.clock).toInt

def withinSession : Prop := s.session.limited = true → 2 ≤ s.left s.session.deadline

instance : Decidable s.withinSession := inferInstanceAs (Decidable (_ → _))

def grant (remaining : U32) : U32 :=
  if s.session.limited ∧ s.session.deadline - s.clock < remaining then s.session.deadline - s.clock else remaining

/-! ### Boost -/

/-- What `MotorExecutor_HandoffContinuousBoost` asks before it touches the output. -/
def handoffFits (requested : ℤ) : Prop :=
  s.session.budgetSet ∧ s.session.boostSet ∧ s.session.hasSequence ∧ 0 ≤ requested ∧
    requested ≤ s.session.normalCap ∧ requested ≤ s.session.committed ∧ 0 ≤ s.session.committed ∧
    (c.characterization ∨ s.session.committed ≠ 0) ∧ s.pending = none ∧ 2 ≤ s.left s.session.boostDeadline ∧
    2 ≤ s.left s.session.receiveDeadline ∧ s.withinSession ∧ s.activeRequestIsValid armed

instance (requested : ℤ) : Decidable (s.handoffFits c armed requested) := inferInstanceAs (Decidable (_ ∧ _))

def lower (requested : ℤ) : Except State (U16 × U16 × State) :=
  if requested = 0 then do
    need s.disableImmediate.bridge.isDisabled s.disableImmediate
    return (0, 0, s.rest)
  else
    match c.plan .press requested.toNat with
    | none => .error s
    | some plan => do
      let s ← tried (s.apply armed true plan)
      need (¬ s.bridge.isDisabled) s
      return (plan.tim2, plan.tim3, s)

/-- The lease of a handoff: the old receive lease and the session, whichever ends first. -/
def renewed : Except State State := do
  need (2 ≤ s.left s.session.receiveDeadline ∧ s.withinSession) s
  let remaining := s.grant (s.session.receiveDeadline - s.clock)
  let s ← tried (s.renewLease remaining)
  let s ← tried s.commitArm
  need s.stands s
  return { s with logical := { s.logical with
    deadlineMs := s.clock + remaining, backstopMs := s.clock + remaining } }

def handedOff (requested : ℤ) (t2 t3 : U16) : State :=
  { s with session := { s.session with boostSet := false, boostEnd := false, boostPlan := false } }.record requested t2 t3

/-- `MotorExecutor_HandoffContinuousBoost`, for the owner. -/
def handoff (requested : ℤ) : Except State State := do
  need (s.handoffFits c armed requested) s
  let s ← tried s.commitArm
  let (t2, t3, s) ← s.lower c armed requested
  need (s.matches_ t2 t3) s
  let s ← tried s.commitArm
  need s.stands s
  let s ← s.renewed
  return s.handedOff requested t2 t3

/-- `MotorExecutor_HandoffContinuousBoost`. -/
def handoffBoost (token : U32) (requested : ℤ) : MotorResult × State :=
  if ¬ s.owns token then (.invalid, s) else settle (s.handoff c armed requested)

/-- What `MotorExecutor_ServiceContinuousBoost` asks first. -/
def serviceFits : Prop :=
  s.session.boostPlan ∧ s.session.boostSet ∧ s.pending = none ∧ 2 ≤ s.left s.session.boostDeadline ∧
    2 ≤ s.left s.session.receiveDeadline ∧ s.withinSession ∧ s.activeRequestIsValid armed

instance : Decidable (s.serviceFits armed) := inferInstanceAs (Decidable (_ ∧ _))

def stepFits (requested : ℤ) : Prop :=
  s.session.committed ≤ requested ∧ requested ≤ s.session.boostPeak ∧ 0 ≤ requested ∧
    (c.characterization ∨ requested ≠ 0)

instance (requested : ℤ) : Decidable (s.stepFits c requested) := inferInstanceAs (Decidable (_ ∧ _))

def climb (requested : ℤ) : Except State State := do
  need (s.stepFits c requested) s
  let s ← tried s.commitArm
  if requested = s.session.committed then return s
  else
    match c.plan .press requested.toNat with
    | none => .error s
    | some plan =>
      let s ← tried (s.apply armed (decide (s.session.committed ≠ 0)) plan)
      need (s.matches_ plan.tim2 plan.tim3) s
      let s ← tried s.commitArm
      need s.stands s
      return { s with session := { s.session with lastSign := 1 } }.record requested plan.tim2 plan.tim3

/-- `MotorExecutor_ServiceContinuousBoost`: its result, whether the boost has finished, and the command. -/
def serviceBoost (token : U32) : MotorResult × Bool × State :=
  if ¬ s.owns token then (.invalid, false, s)
  else if ¬ s.serviceFits armed then (.hardwareError, false, s.revoke)
  else if Reached s.clock s.session.boostEndMs then
    let answer := s.handoffBoost c armed token (min s.session.boostLower s.session.committed)
    (answer.1, decide (answer.1 = .ok), answer.2)
  else
    let answer := settle (s.climb c armed (s.boostCommand token s.clock))
    (answer.1, false, answer.2)

/-! ### Update -/

def age (r : ContinuousRequest) : U32 := s.clock - r.received

/-- The requests `MotorExecutor_UpdateContinuous` refuses without touching anything. -/
def refuses (r : ContinuousRequest) : Prop :=
  ¬ s.owns r.token ∨ (s.session.hasSequence ∧ ¬ After r.sequence s.session.sequence)

instance (r : ContinuousRequest) : Decidable (s.refuses r) := inferInstanceAs (Decidable (_ ∨ _))

def overBudget (r : ContinuousRequest) : Prop :=
  s.session.budgetSet ∧
    ((s.session.limited ∧ Reached s.clock s.session.deadline) ∨
      (s.session.boostSet ∧ Reached s.clock s.session.boostDeadline) ∨
      (s.session.normalCap < r.requested ∧ ¬ s.session.boostSet))

instance (r : ContinuousRequest) : Decidable (s.overBudget r) := inferInstanceAs (Decidable (_ ∧ _))

def overCeiling (r : ContinuousRequest) : Prop :=
  (c.continuous < r.requested ∧ ¬ s.session.boostSet) ∨ c.executorPress < r.requested ∨
    r.requested < -c.releaseProfile ∨ leaseMs < r.leaseMs ∨ commissioningAgeMs < r.maxAgeMs ∨
    r.deadtimeMs < commissioningDeadtimeMs

instance (r : ContinuousRequest) : Decidable (s.overCeiling c r) := inferInstanceAs (Decidable (_ ∨ _))

def overPlan (r : ContinuousRequest) : Prop :=
  s.session.boostPlan ∧ ¬ s.session.boostEnd ∧ s.boostCommand r.token s.clock < r.requested

instance (r : ContinuousRequest) : Decidable (s.overPlan r) := inferInstanceAs (Decidable (_ ∧ _))

/-- The sample is too old for its lease, or the call is not one to drive an output with. -/
def illTimed (r : ContinuousRequest) : Prop :=
  s.pending ≠ none ∨ r.leaseMs < 3 ∨ r.leaseMs ≤ r.maxAgeMs ∨ r.maxAgeMs < s.age r ∨ r.leaseMs - 1 ≤ s.age r ∨
    r.deadtimeMs < 1 ∨ 100 < r.deadtimeMs ∨ ¬ armed

instance (r : ContinuousRequest) : Decidable (s.illTimed armed r) := inferInstanceAs (Decidable (_ ∨ _))

def lapsed : Prop :=
  s.session.hasSequence ∧
    (¬ s.timer.isArmed ∨ ¬ s.activeRequestIsValid armed ∨ Reached s.clock s.logical.deadlineMs)

instance : Decidable (s.lapsed armed) := inferInstanceAs (Decidable (_ ∧ _))

def admits (r : ContinuousRequest) : Prop :=
  ¬ s.overBudget r ∧ ¬ s.overCeiling c r ∧ ¬ s.overPlan r ∧ ¬ s.illTimed armed r ∧ ¬ s.lapsed armed

instance (r : ContinuousRequest) : Decidable (s.admits c armed r) := inferInstanceAs (Decidable (_ ∧ _))

def reverses (r : ContinuousRequest) : Prop :=
  s.session.committed ≠ 0 ∧ r.requested.sign ≠ 0 ∧ r.requested.sign ≠ s.session.lastSign

instance (r : ContinuousRequest) : Decidable (s.reverses r) := inferInstanceAs (Decidable (_ ∧ _))

def tooSoon (r : ContinuousRequest) : Prop :=
  r.requested.sign ≠ 0 ∧ s.session.lastSign ≠ 0 ∧ r.requested.sign ≠ s.session.lastSign ∧
    s.clock - s.session.offMs < r.deadtimeMs

instance (r : ContinuousRequest) : Decidable (s.tooSoon r) := inferInstanceAs (Decidable (_ ∧ _))

def interlock (r : ContinuousRequest) : Except State (ℤ × State) :=
  if s.reverses r then do
    need s.disableImmediate.bridge.isDisabled s.disableImmediate
    return (0, { s.rest with session := { s.rest.session with committed := 0 } })
  else if s.tooSoon r then return (0, s)
  else return (r.requested, s)

def lease (remaining : U32) : Bool × State :=
  if s.session.hasSequence then s.renewLease remaining else s.armLease remaining

def updateGrant (r : ContinuousRequest) : U32 :=
  let remaining := s.grant (r.leaseMs - s.age r)
  if s.session.boostSet ∧ s.session.boostDeadline - s.clock < remaining then s.session.boostDeadline - s.clock
  else remaining

def output (actual : ℤ) : Except State (U16 × U16 × State) :=
  if actual = 0 then do
    let off := if s.session.committed ≠ 0 then s.rest else s.disableImmediate
    need off.bridge.isDisabled off
    return (0, 0, off)
  else
    match c.plan (directionOf actual) actual.natAbs with
    | none => .error s
    | some plan => do
      let s ← tried (s.apply armed (decide (s.session.committed ≠ 0)) plan)
      need (¬ s.bridge.isDisabled) s
      return (plan.tim2, plan.tim3, { s with session := { s.session with lastSign := actual.sign } })

def finishBoost (ends : Bool) (normal remaining : U32) : Except State (U32 × State) :=
  if ends then do
    let s ← tried (s.renewLease normal)
    let s ← tried s.commitArm
    return (normal, { s with session := { s.session with boostSet := false, boostPlan := false } })
  else return (remaining, s)

def accept (r : ContinuousRequest) (actual : ℤ) (t2 t3 : U16) (remaining : U32) : State :=
  let s := s.record actual t2 t3
  { s with
    session := { s.session with
      receiveDeadline := r.received + r.leaseMs, sequence := r.sequence, hasSequence := true }
    logical := { s.logical with
      lastAction := .continuous, active := true, lastCompletion := .none
      direction := if actual < 0 then .release else .press
      requestedDurationMs := 0, deadlineMs := s.clock + remaining, backstopMs := s.clock + remaining } }

/-- The rest of `MotorExecutor_UpdateContinuous`, behind the checks and the interlock. -/
def commit (r : ContinuousRequest) (actual : ℤ) : Except State State := do
  let normal := s.grant (r.leaseMs - s.age r)
  let remaining := s.updateGrant r
  let ends := s.session.boostSet && s.session.boostEnd && decide (actual ≤ s.session.normalCap)
  let s ← tried (s.lease remaining)
  need s.stands s
  let (t2, t3, s) ← s.output c armed actual
  let s ← tried s.commitArm
  need s.stands s
  let (remaining, s) ← s.finishBoost ends normal remaining
  return s.accept r actual t2 t3 remaining

/-- `MotorExecutor_UpdateContinuous`. The committed command is the session's. -/
def updateContinuous (r : ContinuousRequest) : MotorResult × State :=
  if s.refuses r then (.invalid, s)
  else
    settle do
      need (s.admits c armed r) s
      let (actual, s) ← s.interlock r
      s.commit c armed r actual

/-! ### Service and guard -/

/-- `MotorExecutor_PublishCompletion`. -/
def publishCompletion (event : StopEvent) : MotorResult × State :=
  let ended (result : MotorResult) (event : StopEvent) (s : State) : MotorResult × State :=
    let completion :=
      if s.logical.lastAction = .continuous ∧ event = .normal then .lease else Unlocked.State.mapCompletion event
    (result, { s with logical := { s.logical with lastCompletion := completion }.clearPlan })
  if ¬ s.bridge.isDisabled then ended .hardwareError .error s.disableImmediate
  else if event = .error then ended .timerError event s
  else ended .ok event s

def abandon : MotorResult × State := s.disableImmediate.cancel.publishCompletion .error

/-- `MotorExecutor_Service`. -/
def service (now : U32) : MotorResult × State :=
  match s.pending with
  | some event => { s with pending := none }.publishCompletion event
  | none =>
    if ¬ s.logical.active then
      let failed := { s.disableImmediate.cancel with logical := { s.logical with lastCompletion := .error } }
      if ¬ s.bridge.isDisabled then (.hardwareError, failed)
      else if s.timer.isArmed then (.timerError, failed)
      else if ¬ s.timer.isHealthy then (.timerError, s)
      else (.ok, s)
    else if ¬ s.timer.isHealthy then s.abandon
    else if ¬ s.timer.isArmed then s.abandon
    else if Reached now s.logical.backstopMs then s.abandon
    else if s.bridge.isDisabled ∧
        ¬ (s.session.isOpen ∧ s.logical.lastAction = .continuous ∧ s.session.committed = 0) then
      (.hardwareError, s.abandon.2)
    else (.ok, s)

/-- `MotorExecutor_GuardOutput`. -/
def guardOutput : MotorResult × State :=
  let off := s.disableImmediate.cancel
  if s.pending ≠ none then (.ok, off)
  else if s.logical.active then
    if s.activeRequestIsValid armed then (.ok, s) else (.hardwareError, off)
  else if ¬ s.bridge.isDisabled then (.hardwareError, off)
  else if s.timer.isArmed then (.timerError, off)
  else (.ok, off)

/-- `MotorExecutor_Disable`. -/
def disable : MotorResult × State :=
  (.ok, { s.close.disableImmediate.cancel with pending := none, logical := s.logical.stop })

/-- `MotorExecutor_Initialize`, on any bridge and timer, once the boot code has cleared the statics. -/
def initial (bridge : Registers) (timer : StopTimer) (time : ℕ) : State where
  bridge := bridge.disableImmediate.initializeDisabled.2
  timer := initializeTimer timer
  time := time
  initialized := true
  pending := none
  logical := .fresh
  boostTimes := ⟨0, 0, 0⟩
  session := .zero

end State

/-! ### As the automatic machine sees it -/

def State.turned (s : State) (r : ContinuousRequest) : Bool := decide (s.reverses r ∨ s.tooSoon r)

/-- The drive calls; a commissioning build has no timed runs, and this one no Build segments. -/
def driveCall (c : Ceilings) (armed : Bool) (call : DriveCall) (s : State) : DriveReply × State :=
  let granted (answer : Bool × State) : DriveReply × State :=
    (⟨if answer.1 then .ok else .invalid, 0, 0, false⟩, answer.2)
  match call with
  | .startRun _ _ _ _ => (⟨if s.session.isOpen then .busy else .invalid, 0, 0, false⟩, s)
  | .beginContinuous =>
    let answer := s.beginContinuous armed
    (⟨answer.1, answer.2.session.generation, 0, false⟩, answer.2)
  | .setBudget token _ durationMs cap => granted (s.setBudget c token durationMs cap)
  | .armBoost token _ durationMs => granted (s.armBoost c armed token durationMs)
  | .setBoostPlan token _ riseMs endMs peak lower => granted (s.setBoostPlan c armed token riseMs endMs peak lower)
  | .serviceBoost token _ =>
    let answer := s.serviceBoost c armed token
    (⟨answer.1, 0, answer.2.2.session.committed, answer.2.1⟩, answer.2.2)
  | .handoffBoost token _ requested =>
    let answer := s.handoffBoost c armed token requested
    (⟨answer.1, 0, 0, false⟩, answer.2)
  | .endBoost token => granted (s.endBoost token)
  | .updateContinuous r =>
    let answer := s.updateContinuous c armed r
    (⟨answer.1, 0, answer.2.session.committed, s.turned r⟩, answer.2)
  | .beginBuild _ | .startSegment _ _ _ _ _ | .endSegment _ _ | .refreshFeedback _ _ _ _ =>
    (⟨.invalid, 0, 0, false⟩, s)

/-! ### Steps -/

/-- What happens to the executor: a call of the program, the interrupt of TIM5, or one of its counts. -/
inductive Event
  | drive (call : DriveCall)
  | disable
  | service (now : U32)
  | guardOutput
  | interrupt
  | tick

def State.step (c : Ceilings) (armed : Bool) (s : State) : Event → State
  | .drive call => (driveCall c armed call s).2
  | .disable => s.disable.2
  | .service now => (s.service now).2
  | .guardOutput => (s.guardOutput armed).2
  | .interrupt => s.irqHandler
  | .tick => { s with time := s.time + 1, timer := s.timer.tick }

/-- The interrupt is taken when TIM5 asks for it, and before the next count. A call may still come in between. -/
def State.admitsEvent (s : State) : Event → Prop
  | .interrupt => raised s.timer = true
  | .tick => raised s.timer = false
  | _ => True

/-- The executor was started on some bridge and timer. -/
def State.Boots (s : State) : Prop := ∃ bridge timer time, s = .initial bridge timer time

end Sd700.Motor.Continuous
