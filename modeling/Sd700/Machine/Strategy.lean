import Sd700.Machine.PiSequence
import Sd700.Machine.PressSteps

/-! What the transitions below the entry points leave alone: the configurations and the target, and while no fault
is entered also the integral of the strategy and the convergence budget. -/

namespace Sd700.Machine.Strategy
open Logic.Run Logic.Floating Build.Contract Motor.Interface Motor.Pulses ForcePi Context Motion Handlers Outcomes
  Ownership PressSteps
open Servo.State (MachineFault FaultDetail CommandType CommandResult Command Sample)

variable {F Exec : Type}

/-- Neither the strategy nor the budget nor the state is touched; an approach that is pending stays so. -/
structure Same (w v : System F Exec) : Prop where
  state : v.state = w.state
  config : v.config = w.config
  valid : v.configValid = w.configValid
  target : v.targetUnits = w.targetUnits
  pressure : v.pressure = w.pressure
  strategy : v.pi.config = w.pi.config
  enabled : v.pi.enabled = w.pi.enabled
  integral : v.pi.state = w.pi.state
  cycle : v.cycleStartedMs = w.cycleStartedMs
  contacted : v.autoHasContacted = w.autoHasContacted
  detail : v.faultDetail = w.faultDetail
  pending : w.autoApproachPending = true → v.autoApproachPending = true

/-- The configurations stay, and the integral is kept or reset. -/
structure Kept (env : Platform F Exec) (w v : System F Exec) : Prop where
  config : v.config = w.config
  valid : v.configValid = w.configValid
  strategy : v.pi.config = w.pi.config
  enabled : v.pi.enabled = w.pi.enabled
  state : v.pi.state = w.pi.state ∨ v.pi.state = { w.pi.state with integralMv := env.ops.zero }

/-- The target and the sample stay too, and the rest of the run is lost only in a fault, or its budget in HOLD. -/
structure Carried (env : Platform F Exec) (w v : System F Exec) : Prop extends Kept env w v where
  target : v.targetUnits = w.targetUnits
  pressure : v.pressure = w.pressure
  integral : v.state ≠ .fault → v.pi.state = w.pi.state
  contacted : v.state ≠ .fault → v.autoHasContacted = w.autoHasContacted
  cycle : v.state ≠ .fault → v.state ≠ .autoHold → v.cycleStartedMs = w.cycleStartedMs
  plain : v.faultDetail = .cycleTimeout → w.faultDetail = .cycleTimeout
  pending : v.state ≠ .fault → w.autoApproachPending = true → v.autoApproachPending = true

variable {env : Platform F Exec} {u v w : System F Exec} {now : U32}

theorem Same.refl (w : System F Exec) : Same w w := ⟨rfl, rfl, rfl, rfl, rfl, rfl, rfl, rfl, rfl, rfl, rfl, id⟩

theorem Same.trans (first : Same w u) (second : Same u v) : Same w v :=
  ⟨second.state.trans first.state, second.config.trans first.config, second.valid.trans first.valid, second.target.trans first.target,
    second.pressure.trans first.pressure, second.strategy.trans first.strategy, second.enabled.trans first.enabled,
    second.integral.trans first.integral, second.cycle.trans first.cycle, second.contacted.trans first.contacted,
    second.detail.trans first.detail, second.pending ∘ first.pending⟩

theorem Same.carried (same : Same w v) : Carried env w v :=
  ⟨⟨same.config, same.valid, same.strategy, same.enabled, .inl same.integral⟩, same.target, same.pressure, fun _ => same.integral,
    fun _ => same.contacted, fun _ _ => same.cycle, same.detail ▸ id, fun _ => same.pending⟩

theorem Kept.refl (w : System F Exec) : Kept env w w := ⟨rfl, rfl, rfl, rfl, .inl rfl⟩

theorem Kept.trans (first : Kept env w u) (second : Kept env u v) : Kept env w v := by
  refine ⟨second.config.trans first.config, second.valid.trans first.valid, second.strategy.trans first.strategy,
    second.enabled.trans first.enabled, ?_⟩
  rcases second.state with same | zero
  · rw [same]
    exact first.state
  · right
    rw [zero]
    rcases first.state with same | zero
    · rw [same]
    · rw [zero]

theorem Kept.of_same (config : v.config = w.config) (valid : v.configValid = w.configValid) (pi : v.pi = w.pi) :
    Kept env w v := by
  refine ⟨config, valid, ?_, ?_, .inl ?_⟩ <;> rw [pi]

theorem Carried.of_same (config : v.config = w.config) (valid : v.configValid = w.configValid) (target : v.targetUnits = w.targetUnits)
    (pressure : v.pressure = w.pressure) (pi : v.pi = w.pi) (cycle : v.cycleStartedMs = w.cycleStartedMs)
    (contacted : v.autoHasContacted = w.autoHasContacted) (detail : v.faultDetail = w.faultDetail)
    (pending : w.autoApproachPending = true → v.autoApproachPending = true) : Carried env w v :=
  ⟨.of_same config valid pi, target, pressure, fun _ => by rw [pi], fun _ => contacted, fun _ _ => cycle, detail ▸ id,
    fun _ => pending⟩

theorem Carried.after (same : Same w u) (carried : Carried env u v) : Carried env w v :=
  ⟨same.carried.toKept.trans carried.toKept, carried.target.trans same.target, carried.pressure.trans same.pressure,
    fun alive => (carried.integral alive).trans same.integral,
    fun alive => (carried.contacted alive).trans same.contacted,
    fun alive moving => (carried.cycle alive moving).trans same.cycle,
    fun expired => same.detail.symm.trans (carried.plain expired), fun alive => carried.pending alive ∘ same.pending⟩

theorem Carried.before (carried : Carried env w u) (same : Same u v) : Carried env w v :=
  ⟨carried.toKept.trans same.carried.toKept, same.target.trans carried.target, same.pressure.trans carried.pressure,
    fun alive => same.integral.trans (carried.integral (same.state ▸ alive)),
    fun alive => same.contacted.trans (carried.contacted (same.state ▸ alive)),
    fun alive moving => same.cycle.trans (carried.cycle (same.state ▸ alive) (same.state ▸ moving)),
    fun expired => carried.plain (same.detail.symm.trans expired),
    fun alive => same.pending ∘ carried.pending (same.state ▸ alive)⟩

/-! ### Transitions -/

theorem resetPressFeedback_same (w : System F Exec) : Same w (resetPressFeedback env w) := by
  unfold resetPressFeedback
  split
  · exact ⟨rfl, rfl, rfl, rfl, rfl, rfl, rfl, rfl, rfl, rfl, rfl, id⟩
  · exact .refl w

theorem recordPressEnd_same (w : System F Exec) : Same w (recordPressEnd env w) := by
  unfold recordPressEnd
  split
  · exact ⟨rfl, rfl, rfl, rfl, rfl, rfl, rfl, rfl, rfl, rfl, rfl, id⟩
  · exact .refl w

theorem disable_same (w : System F Exec) : Same w (disable env w) := ⟨rfl, rfl, rfl, rfl, rfl, rfl, rfl, rfl, rfl, rfl, rfl, id⟩

theorem reset_zero (s : PiState F) :
    { reset env.ops s with integralMv := env.ops.zero } = { s with integralMv := env.ops.zero } := by
  unfold reset
  split
  · rfl
  · rfl

theorem resetForcePi_kept (w : System F Exec) :
    (resetForcePi env w).config = w.config ∧ (resetForcePi env w).configValid = w.configValid ∧
      (resetForcePi env w).targetUnits = w.targetUnits ∧
      (resetForcePi env w).pressure = w.pressure ∧ (resetForcePi env w).pi.config = w.pi.config ∧
      (resetForcePi env w).pi.enabled = w.pi.enabled ∧
      (resetForcePi env w).pi.state = { w.pi.state with integralMv := env.ops.zero } := by
  have before : Same w (resetPressFeedback env w) := resetPressFeedback_same w
  refine ⟨before.config, before.valid, before.target, before.pressure, before.strategy, before.enabled, ?_⟩
  show { reset env.ops (resetPressFeedback env w).pi.state with integralMv := env.ops.zero } = _
  rw [reset_zero, before.integral]

variable (env now) in
theorem enterFault_kept (f : MachineFault) (detail : FaultDetail) (w : System F Exec) :
    Kept env w (enterFault env f detail now w) ∧ (enterFault env f detail now w).targetUnits = w.targetUnits ∧
      (enterFault env f detail now w).pressure = w.pressure := by
  have before : Same w (recordPressEnd env (disable env w)) := (disable_same w).trans (recordPressEnd_same _)
  obtain ⟨config, valid, target, pressure, strategy, enabled, state⟩ :=
    @resetForcePi_kept _ _ env (clearTransientMotion (recordPressEnd env (disable env w)))
  refine ⟨⟨config.trans before.config, valid.trans before.valid, strategy.trans before.strategy, enabled.trans before.enabled,
    .inr (state.trans ?_)⟩, target.trans before.target, pressure.trans before.pressure⟩
  show { (recordPressEnd env (disable env w)).pi.state with integralMv := env.ops.zero } = _
  rw [before.integral]

variable (env now) in
theorem enterFault_carried (f : MachineFault) {detail : FaultDetail} (w : System F Exec)
    (plain : reportedDetail f detail ≠ .cycleTimeout) : Carried env w (enterFault env f detail now w) := by
  obtain ⟨kept, target, pressure⟩ := enterFault_kept env now f detail w
  exact ⟨kept, target, pressure, fun alive => absurd rfl alive, fun alive => absurd rfl alive,
    fun alive => absurd rfl alive, fun expired => absurd expired plain, fun alive => absurd rfl alive⟩

variable (env now) in
theorem disableOrFault_cases (w : System F Exec) :
    disableOrFault env now w = (true, { disable env w with motorRequestSequence := 0 }) ∨
      disableOrFault env now w = (false, enterFault env .motor .motorHardware now (disable env w)) := by
  unfold disableOrFault
  split
  · exact .inl rfl
  · exact .inr rfl

variable (env now) in
theorem disableOrFault_carried (w : System F Exec) : Carried env w (disableOrFault env now w).2 := by
  rcases disableOrFault_cases env now w with done_ | failed
  · rw [done_]
    exact .of_same rfl rfl rfl rfl rfl rfl rfl rfl id
  · rw [failed]
    exact (enterFault_carried env now _ _ (by decide)).after (disable_same w)

variable (env now) in
theorem enterSettle_carried (w : System F Exec) : Carried env w (enterSettle env now w).2 := by
  unfold enterSettle
  rcases disableOrFault_cases env now w with done_ | failed
  · rw [done_]
    exact .of_same rfl rfl rfl rfl rfl rfl rfl rfl id
  · rw [failed]
    exact (enterFault_carried env now _ _ (by decide)).after (disable_same w)

variable (env now) in
/-- HOLD has no budget: it counts from the sample that leaves it. -/
theorem enterHold_carried (w : System F Exec) : Carried env w (enterHold env now w).2 := by
  unfold enterHold
  rcases disableOrFault_cases env now w with done_ | failed
  · rw [done_]
    have same : Same { disable env w with motorRequestSequence := 0 }
      (resetPressFeedback env { disable env w with motorRequestSequence := 0 }) := resetPressFeedback_same _
    exact ⟨⟨same.config, same.valid, same.strategy, same.enabled, .inl same.integral⟩, same.target, same.pressure,
      fun _ => same.integral, fun _ => same.contacted, fun _ held => absurd rfl held, same.detail ▸ id,
      fun _ => same.pending⟩
  · rw [failed]
    exact (enterFault_carried env now _ _ (by decide)).after (disable_same w)

theorem requestMotor_carried (request : StartCall) (next : MachineState) (w : System F Exec) :
    Carried env w (requestMotor env request next now w).2 := by
  have asked : Same w { w with exec := (env.executor.start request w.exec).2 } :=
    ⟨rfl, rfl, rfl, rfl, rfl, rfl, rfl, rfl, rfl, rfl, rfl, id⟩
  unfold requestMotor captureMotorRequest
  split
  · exact (enterFault_carried env now _ _ (by decide)).after asked
  split
  · exact (enterFault_carried env now _ _ (by decide)).after asked
  · exact .of_same rfl rfl rfl rfl rfl rfl rfl rfl id

theorem startApproach_carried (profile : ApproachProfile) (w : System F Exec) :
    Carried env w (startApproach env profile now w).2 := by
  have pending : Same w { w with
      approachProfile := profile, autoApproachPending := env.policy.isAutoTarget || w.autoApproachPending } :=
    ⟨rfl, rfl, rfl, rfl, rfl, rfl, rfl, rfl, rfl, rfl, rfl, fun pending => by rw [pending, Bool.or_true]⟩
  exact (requestMotor_carried _ _ _).after pending

theorem notePressCompleted_same (w : System F Exec) : Same w (notePressCompleted env now w) := by
  unfold notePressCompleted
  split
  · exact (recordPressEnd_same w).trans ⟨rfl, rfl, rfl, rfl, rfl, rfl, rfl, rfl, rfl, rfl, rfl, id⟩
  · exact .refl w

variable (env now) in
theorem handleMotorService_carried (w : System F Exec) : Carried env w (handleMotorService env now w) := by
  have faulted (f : MachineFault) {detail : FaultDetail} (plain : reportedDetail f detail ≠ .cycleTimeout) :
      Carried env w (enterFault env f detail now w) := enterFault_carried env now f w plain
  unfold handleMotorService
  split
  · exact (Same.refl w).carried
  split
  · split
    · exact faulted _ (by decide)
    · exact (Same.refl w).carried
  split
  · split
    · exact (Same.refl w).carried
    · exact faulted _ (by decide)
  split
  · exact faulted _ (by decide)
  split
  · exact faulted _ (by decide)
  split
  · unfold directCompleted
    split
    · exact .of_same rfl rfl rfl rfl rfl rfl rfl rfl id
    · exact faulted _ (by decide)
    · exact faulted _ (by decide)
  split
  · unfold approachCompleted
    split
    · split
      · exact enterSettle_carried env now w
      · exact faulted _ (by decide)
    · exact faulted _ (by decide)
    · exact faulted _ (by decide)
  · unfold pulseCompleted
    split
    · exact (enterSettle_carried env now _).after (notePressCompleted_same w)
    · exact faulted _ (by decide)
    · exact faulted _ (by decide)

theorem latchContact_kept (w : System F Exec) : Kept env w (latchContact w) := by
  unfold latchContact
  split
  · exact .of_same rfl rfl rfl
  · exact .refl w

variable (env now) in
theorem stopApproachOnContact_kept (w : System F Exec) : Kept env w (stopApproachOnContact env now w) := by
  have served : Kept env w { w with exec := (env.executor.service now w.exec).2 } := .of_same rfl rfl rfl
  unfold stopApproachOnContact
  dsimp only
  split
  · exact served.trans (enterFault_kept env now _ _ _).1
  · have serviced := served.trans (handleMotorService_carried env now _).toKept
    apply Kept.trans _ (latchContact_kept _)
    split
    · exact serviced.trans (enterSettle_carried env now _).toKept
    · exact serviced

variable (env now) in
theorem checkPressureSafety_kept (w : System F Exec) : Kept env w (checkPressureSafety env now w) := by
  have faulted (f : MachineFault) (detail : FaultDetail) : Kept env w (enterFault env f detail now w) :=
    (enterFault_kept env now f detail w).1
  unfold checkPressureSafety
  split
  · exact .refl w
  split
  · exact faulted _ _
  split
  · exact .refl w
  split
  · exact faulted _ _
  split
  · rw [checkContact_fault rfl]
    exact faulted _ _
  · unfold checkContact
    split
    · exact stopApproachOnContact_kept env now w
    · exact .refl w

theorem trackPeak_same (p : Sample) (w : System F Exec) : Same w (trackPeak env p now w) := by
  unfold trackPeak
  split
  · exact ⟨rfl, rfl, rfl, rfl, rfl, rfl, rfl, rfl, rfl, rfl, rfl, id⟩
  · exact .refl w

theorem consumePressFeedback_same (w : System F Exec) : Same w (consumePressFeedback env w) := by
  rw [consumePressFeedback_only env w]
  exact ⟨rfl, rfl, rfl, rfl, rfl, rfl, rfl, rfl, rfl, rfl, rfl, id⟩

theorem selectPressBand_same (w : System F Exec) : Same w (selectPressBand w) :=
  ⟨rfl, rfl, rfl, rfl, rfl, rfl, rfl, rfl, rfl, rfl, rfl, id⟩

theorem noteCorrection_same (mapped : Bool) (suggestion : F) (commandMv : U32) (w : System F Exec) :
    Same w (noteCorrection env mapped suggestion commandMv w) := by
  cases mapped
  · exact ⟨rfl, rfl, rfl, rfl, rfl, rfl, rfl, rfl, rfl, rfl, rfl, id⟩
  · exact ⟨rfl, rfl, rfl, rfl, rfl, rfl, rfl, rfl, rfl, rfl, rfl, id⟩

theorem inhibitCorrection_same (suggestion : F) (w : System F Exec) : Same w (inhibitCorrection suggestion w) := by
  unfold inhibitCorrection
  split
  · exact ⟨rfl, rfl, rfl, rfl, rfl, rfl, rfl, rfl, rfl, rfl, rfl, id⟩
  · exact .refl w

theorem noteIfAccepted_same (mapped : Bool) (suggestion : F) (commandMv : U32)
    (outcome : CommandResult × System F Exec) :
    Same outcome.2 (noteIfAccepted env mapped suggestion commandMv outcome).2 := by
  unfold noteIfAccepted
  split
  · exact noteCorrection_same _ _ _ _
  · exact .refl _

theorem pulseCorrection_carried (expected : Direction) (w : System F Exec) :
    Carried env w (pulseCorrection env expected now w).2 := by
  have selected (mapped : Bool) : Same w (if mapped then selectPressBand w else w) := by
    split
    · exact selectPressBand_same w
    · exact .refl w
  unfold pulseCorrection
  exact ((requestMotor_carried _ _ _).after (selected _)).before (noteIfAccepted_same _ _ _ _)

theorem correct_carried (expected : Direction) (w : System F Exec) :
    Carried env w (correct env expected now w).2 := by
  unfold correct
  dsimp only
  split
  · exact requestMotor_carried _ _ _
  split
  · exact enterFault_carried env now _ w (by decide)
  split
  · exact (enterSettle_carried env now _).after (inhibitCorrection_same _ w)
  · exact pulseCorrection_carried expected w

theorem startCorrection_carried (expected : Direction) (w : System F Exec) :
    Carried env w (startCorrection env expected now w).2 := by
  have cleared : Same w (if expected = .release then resetPressFeedback env w else w) := by
    split
    · exact resetPressFeedback_same w
    · exact .refl w
  exact (correct_carried expected _).after cleared

theorem keepResult_same (outcome : CommandResult × System F Exec) : Same outcome.2 (keepResult outcome) :=
  ⟨rfl, rfl, rfl, rfl, rfl, rfl, rfl, rfl, rfl, rfl, rfl, id⟩

theorem classifySettledSample_carried (w : System F Exec) : Carried env w (classifySettledSample env now w) := by
  unfold classifySettledSample
  split
  · exact ((startApproach_carried _ _).after (resetPressFeedback_same w)).before (keepResult_same _)
  split
  · exact (startCorrection_carried _ w).before (keepResult_same _)
  split
  · exact enterHold_carried env now w
  split
  · exact (startCorrection_carried _ w).before (keepResult_same _)
  · exact enterHold_carried env now w

theorem judgeSettled_kept (p : Sample) (w : System F Exec) : Kept env w (judgeSettled env p now w) := by
  have consumed : Carried env w (consumePressFeedback env w) := (consumePressFeedback_same w).carried
  unfold judgeSettled
  split
  · refine Kept.trans ?_ (classifySettledSample_carried _).toKept
    split
    · exact consumed.toKept.trans (.of_same rfl rfl rfl)
    · exact consumed.toKept
  · exact (classifySettledSample_carried w).toKept

theorem classifyHoldSample_cases (w : System F Exec) :
    Carried env { w with cycleStartedMs := now } (classifyHoldSample env now w) ∨
      classifyHoldSample env now w = (disableOrFault env now w).2 := by
  unfold classifyHoldSample
  split
  · exact .inl ((startApproach_carried _ _).before (keepResult_same _))
  split
  · exact .inl ((startCorrection_carried _ _).before (keepResult_same _))
  split
  · exact .inl ((startCorrection_carried _ _).before (keepResult_same _))
  · exact .inr rfl

theorem classifyHoldSample_kept (w : System F Exec) : Kept env w (classifyHoldSample env now w) := by
  have counted : Kept env w { w with cycleStartedMs := now } := .of_same rfl rfl rfl
  rcases @classifyHoldSample_cases _ _ env now w with carried | rests
  · exact counted.trans carried.toKept
  · rw [rests]
    exact (disableOrFault_carried env now w).toKept

theorem actOn_kept (p : Sample) (w : System F Exec) : Kept env w (actOn env p now w) := by
  unfold actOn
  split
  · unfold contactApproach
    split
    · split
      · exact stopApproachOnContact_kept env now w
      · exact .refl w
    · exact (enterSettle_carried env now w).toKept
  split
  · exact judgeSettled_kept p w
  split
  · exact classifyHoldSample_kept w
  · exact .refl w

theorem pressureFault_kept (detail : FaultDetail) (w : System F Exec) : Kept env w (pressureFault env detail now w) := by
  unfold pressureFault
  split
  · exact (enterFault_kept env now _ _ w).1
  · exact .refl w

/-! ### Calls that configure nothing and calculate nothing -/

theorem completeBoot_kept (passed : Bool) (w : System F Exec) : Kept env w (completeBoot env passed now w) := by
  unfold completeBoot
  split
  · exact .refl w
  split
  · exact (enterFault_kept env now _ _ w).1
  · rcases disableOrFault_cases env now w with done_ | failed
    · rw [done_]
      exact .of_same rfl rfl rfl
    · rw [failed]
      exact (disable_same w).carried.toKept.trans (enterFault_kept env now _ _ _).1

theorem resetForcePi_keeps (w : System F Exec) : Kept env w (resetForcePi env w) := by
  obtain ⟨config, valid, -, -, strategy, enabled, state⟩ := @resetForcePi_kept _ _ env w
  exact ⟨config, valid, strategy, enabled, .inr state⟩

theorem stop_kept (w : System F Exec) : Kept env w (stop env now w).2 := by
  unfold stop
  rcases disableOrFault_cases env now w with done_ | failed
  · rw [done_]
    let off : System F Exec := { disable env w with motorRequestSequence := 0 }
    have ended : Kept env w (recordPressEnd env off) :=
      (Kept.of_same rfl rfl rfl : Kept env w off).trans (recordPressEnd_same off).carried.toKept
    have cleared : Kept env w (clearTransientMotion (recordPressEnd env off)) := ended.trans (.of_same rfl rfl rfl)
    exact (cleared.trans (resetForcePi_keeps _)).trans (.of_same rfl rfl rfl)
  · rw [failed]
    exact (disable_same w).carried.toKept.trans (enterFault_kept env now _ _ _).1

theorem setTarget_kept (units : ℤ) (w : System F Exec) : Kept env w (setTarget env units w).2 := by
  have set_ : Kept env w { w with targetUnits := units, targetValid := true } := .of_same rfl rfl rfl
  unfold setTarget
  split
  · exact .refl w
  split
  · exact .refl w
  · exact set_.trans (resetForcePi_keeps _)

theorem directPulse_kept (direction : Direction) (w : System F Exec) :
    Kept env w (directPulse env direction now w).2 := by
  unfold directPulse
  split
  · exact .refl w
  split
  · exact .refl w
  split
  · exact .refl w
  split
  · exact .refl w
  · exact (requestMotor_carried _ _ w).toKept

variable (env now) in
theorem beginCycle_kept (w : System F Exec) : Kept env w (beginCycle env now w) := by
  refine (resetForcePi_keeps w).trans ?_
  unfold beginCycle
  dsimp only
  split
  · exact .of_same rfl rfl rfl
  · exact .of_same rfl rfl rfl

theorem autoStart_kept (w : System F Exec) : Kept env w (autoStart env now w).2 := by
  unfold autoStart
  split
  · exact .refl w
  split
  · exact .refl w
  split
  · exact .refl w
  split
  · exact .refl w
  split
  · exact (enterFault_kept env now _ _ w).1
  · refine (beginCycle_kept env now w).trans ?_
    unfold launch
    split
    · exact (startApproach_carried _ _).toKept
    · exact (enterSettle_carried env now _).toKept

theorem handleCommand_kept (c : Command) (w : System F Exec) : Kept env w (handleCommand env c now w) := by
  unfold handleCommand
  refine Kept.trans ?_ (keepResult_same _).carried.toKept
  unfold command
  split
  · exact stop_kept w
  · exact setTarget_kept _ w
  · exact directPulse_kept _ w
  · exact directPulse_kept _ w
  · exact autoStart_kept w
  · exact .refl w

theorem tick_kept (w : System F Exec) : Kept env w (tick env now w) := by
  unfold tick
  split
  · split
    · exact .of_same rfl rfl rfl
    · exact .refl w
  · exact (enterFault_kept env now _ _ w).1
  · exact (enterFault_kept env now _ _ w).1
  · exact (enterFault_kept env now _ _ w).1
  · exact .refl w

theorem reportFault_kept (f : MachineFault) (detail : FaultDetail) (w : System F Exec) :
    Kept env w (reportFault env f detail now w) := by
  unfold reportFault
  split
  · exact (enterFault_kept env now _ _ w).1
  · exact (enterFault_kept env now _ _ w).1

theorem observeForcePi_enabled (env : Platform F Exec) (now : U32) (w : System F Exec) :
    (observeForcePi env now w).2.pi.enabled = w.pi.enabled := by
  have faulted : (enterFault env .internal .internalState now w).pi.enabled = w.pi.enabled :=
    (enterFault_kept env now _ _ _).1.enabled
  unfold observeForcePi
  split
  · exact faulted
  · dsimp only
    split
    · exact faulted
    · rfl

/-! ### The strategy that has been accepted -/

section
open FloatOps (rational)

variable {env : Platform ℚ Exec} {w v : System ℚ Exec}

/-- The strategy in use has been accepted, its state belongs to it, and without an integral gain it has no integral. -/
structure Fitted (env : Platform ℚ Exec) (w : System ℚ Exec) : Prop where
  accepted : ∃ c, acceptsPi env w.config c = true ∧ w.pi.config = effectivePi env w.config c
  sound : PiSequence.Sound w.pi.config w.pi.state

theorem Fitted.kept (exact_ : env.ops = rational) (fitted : Fitted env w) (kept : Kept env w v) : Fitted env v := by
  obtain ⟨c, accepts, effective⟩ := fitted.accepted
  refine ⟨⟨c, by rw [kept.config]; exact accepts, by rw [kept.strategy, kept.config]; exact effective⟩, ?_⟩
  rw [kept.strategy]
  rcases kept.state with same | zero
  · rw [same]
    exact fitted.sound
  · have none_ : env.ops.zero = 0 := by
      rw [exact_]
      exact Int.cast_zero
    rw [zero, none_]
    exact ⟨fitted.sound.valid, fitted.sound.config, PiSequence.inHull_zero _, fun _ => rfl⟩

/-- A calculation that is done gives a state of the same strategy, and an output within its limits. -/
theorem calculate_updated (exact_ : env.ops = rational) (sound : PiSequence.Sound w.pi.config w.pi.state)
    {integrate : Bool} {next : PiState ℚ} {result : PiSnapshot ℚ}
    (done_ : calculate env w.pi.state integrate w = some (next, result)) :
    PiSequence.Updated w.pi.config w.pi.state (env.ops.ofInt w.targetUnits) (env.ops.ofInt w.pressure.control)
      (elapsedSeconds env w) integrate (true, next, result) := by
  have updated := PiSequence.updateCall_updated sound w.pi.config (env.ops.ofInt w.targetUnits)
    (env.ops.ofInt w.pressure.control) (elapsedSeconds env w) integrate
  unfold calculate at done_
  rw [exact_] at done_ updated ⊢
  unfold PiSequence.updateCall at updated
  rw [done_] at updated
  exact updated

/-- A calculation on the stored sample, with or without an integration step, points away from the band. -/
def WrongWay (env : Platform ℚ Exec) (w : System ℚ Exec) : Prop :=
  ∃ integrate next result, calculate env w.pi.state integrate w = some (next, result) ∧
    pointsAway env w result.limitedOutputMv = true

structure Observed (env : Platform ℚ Exec) (w v : System ℚ Exec) : Prop where
  only : v = { w with pi := v.pi }
  strategy : v.pi.config = w.pi.config
  enabled : v.pi.enabled = w.pi.enabled
  sound : PiSequence.Sound v.pi.config v.pi.state
  suggestion : ∃ integrate next result, calculate env w.pi.state integrate w = some (next, result) ∧
    v.pi.snapshot = result
  directed : correctionReady w = true → forcePiMotorIdle env w = true → v.pi.inhibitReason ≠ .wrongDirection →
    pointsAway env w v.pi.snapshot.limitedOutputMv = false
  released : correctionReady w = true → forcePiMotorIdle env w = true → isAbove w = true →
    w.config.benchReleaseCorrectionEnabled = false →
    v.pi.inhibitReason = .wrongDirection ∨ v.pi.inhibitReason = .releaseDisabled
  frozen : WrongWay env w → v.pi.state.integralMv = w.pi.state.integralMv
  inhibited : WrongWay env w → correctionReady w = true → forcePiMotorIdle env w = true →
    v.pi.inhibitReason = .wrongDirection ∨ v.pi.inhibitReason = .releaseDisabled

theorem calculate_integrates (exact_ : env.ops = rational) {next : PiState ℚ} {result : PiSnapshot ℚ}
    (done_ : calculate env w.pi.state true w = some (next, result)) :
    env.ops.lt env.ops.zero (elapsedSeconds env w) = true := by
  unfold calculate at done_
  rw [exact_] at done_ ⊢
  have accepted : acceptsUpdate rational w.pi.config w.pi.state (rational.ofInt w.targetUnits)
      (rational.ofInt w.pressure.control) (elapsedSeconds env w) true = true := by
    by_contra refused
    unfold update at done_
    rw [if_pos (by rw [Bool.eq_false_iff.mpr refused]; rfl)] at done_
    cases done_
  simp only [acceptsUpdate, FloatOps.zero, rational, Bool.and_eq_true, Bool.not_eq_true', decide_eq_false_iff_not,
    Bool.and_true, Int.cast_zero, not_lt] at accepted
  simp only [FloatOps.zero, rational, Int.cast_zero, decide_eq_true_eq]
  exact lt_of_le_of_ne accepted.1.1.2 fun none_ => accepted.1.2 none_.symm

theorem inhibition_cases (preview : PiSnapshot ℚ) (w : System ℚ Exec) (ready : correctionReady w = true)
    (idle : forcePiMotorIdle env w = true) :
    inhibition env preview w =
      if pointsAway env w preview.limitedOutputMv then (.wrongDirection, preview.limitedOutputMv, false)
      else if isAbove w && !w.config.benchReleaseCorrectionEnabled then
        (.releaseDisabled, preview.unlimitedOutputMv, false)
      else (.none, env.ops.zero, env.ops.lt env.ops.zero (elapsedSeconds env w)) := by
  unfold inhibition
  rw [if_neg (by rw [ready]; exact Bool.noConfusion), if_neg (by rw [idle]; exact Bool.noConfusion)]

/-- The integral only moves where the preview does not point away. -/
theorem inhibition_integrates {preview : PiSnapshot ℚ} (integrates : (inhibition env preview w).2.2 = true) :
    correctionReady w = true ∧ forcePiMotorIdle env w = true ∧
      pointsAway env w preview.limitedOutputMv = false := by
  unfold inhibition at integrates
  split at integrates
  · exact absurd integrates Bool.false_ne_true
  rename_i ready
  split at integrates
  · exact absurd integrates Bool.false_ne_true
  rename_i idle
  split at integrates
  · exact absurd integrates Bool.false_ne_true
  rename_i toward
  exact ⟨by simpa using ready, by simpa using idle, Bool.eq_false_iff.mpr toward⟩

/-- An increment that makes the output point away is rolled back. -/
theorem observed_back {previewState next : PiState ℚ} {preview result : PiSnapshot ℚ}
    (first : calculate env w.pi.state false w = some (previewState, preview))
    (before : PiSequence.Sound w.pi.config previewState) (held : previewState.integralMv = w.pi.state.integralMv)
    (integrates : (inhibition env preview w).2.2 = true) (away : pointsAway env w result.limitedOutputMv = true) :
    Observed env w (observed env previewState preview (inhibition env preview w) next result w) := by
  have back : ((inhibition env preview w).2.2 && pointsAway env w result.limitedOutputMv) = true := by
    rw [integrates, away]
    rfl
  have toward := (inhibition_integrates integrates).2.2
  unfold observed
  dsimp only
  rw [if_pos back, if_pos back, if_pos back, if_pos back]
  exact ⟨rfl, rfl, rfl, before, ⟨false, _, _, first, rfl⟩, fun _ _ free => absurd rfl free, fun _ _ _ _ => .inl rfl,
    fun _ => held, fun _ _ _ => .inl rfl⟩

theorem observed_stands (exact_ : env.ops = rational) {previewState next : PiState ℚ} {preview result : PiSnapshot ℚ}
    (first : calculate env w.pi.state false w = some (previewState, preview))
    (second : calculate env w.pi.state (inhibition env preview w).2.2 w = some (next, result))
    (after : PiSequence.Sound w.pi.config next)
    (frozen : (inhibition env preview w).2.2 = false → next.integralMv = w.pi.state.integralMv)
    (stands : ((inhibition env preview w).2.2 && pointsAway env w result.limitedOutputMv) = false) :
    Observed env w (observed env previewState preview (inhibition env preview w) next result w) := by
  unfold observed
  dsimp only
  rw [if_neg (Bool.eq_false_iff.mp stands), if_neg (Bool.eq_false_iff.mp stands), if_neg (Bool.eq_false_iff.mp stands),
    if_neg (Bool.eq_false_iff.mp stands)]
  have blocked (ready : correctionReady w = true) (idle : forcePiMotorIdle env w = true)
      (away : pointsAway env w preview.limitedOutputMv = true) : (inhibition env preview w).1 = .wrongDirection := by
    rw [inhibition_cases preview w ready idle, if_pos away]
  have closed (ready : correctionReady w = true) (idle : forcePiMotorIdle env w = true)
      (high : isAbove w = true) (shut : w.config.benchReleaseCorrectionEnabled = false) :
      (inhibition env preview w).1 = .wrongDirection ∨ (inhibition env preview w).1 = .releaseDisabled := by
    rw [inhibition_cases preview w ready idle]
    split
    · exact .inl rfl
    · rw [if_pos (by rw [high, shut]; rfl)]
      exact .inr rfl
  have toward (flag : (inhibition env preview w).2.2 = true) : ¬ WrongWay env w := by
    rintro ⟨integrate, next', result', done_, away⟩
    cases integrate with
    | false =>
      obtain ⟨-, rfl⟩ := Prod.mk.inj (Option.some.inj (first.symm.trans done_))
      exact Bool.false_ne_true ((inhibition_integrates flag).2.2.symm.trans away)
    | true =>
      rw [flag] at second stands
      obtain ⟨-, rfl⟩ := Prod.mk.inj (Option.some.inj (second.symm.trans done_))
      rw [away] at stands
      exact Bool.noConfusion stands
  refine ⟨rfl, rfl, rfl, after, ⟨_, _, _, second, rfl⟩, fun ready idle free => ?_, closed, fun wrong => ?_,
    fun wrong ready idle => ?_⟩
  · have plain : pointsAway env w preview.limitedOutputMv = false :=
      Bool.eq_false_iff.mpr fun away => free (blocked ready idle away)
    cases flag : (inhibition env preview w).2.2 with
    | false =>
      rw [flag] at second
      obtain ⟨-, rfl⟩ := Prod.mk.inj (Option.some.inj (first.symm.trans second))
      exact plain
    | true =>
      rw [flag, Bool.true_and] at stands
      exact stands
  · cases flag : (inhibition env preview w).2.2 with
    | false => exact frozen flag
    | true => exact absurd wrong (toward flag)
  · have unmoved : (inhibition env preview w).2.2 = false := Bool.eq_false_iff.mpr fun flag => toward flag wrong
    obtain ⟨integrate, next', result', done_, away⟩ := wrong
    by_cases early : pointsAway env w preview.limitedOutputMv = true
    · exact .inl (blocked ready idle early)
    cases integrate with
    | false =>
      obtain ⟨-, rfl⟩ := Prod.mk.inj (Option.some.inj (first.symm.trans done_))
      exact absurd away early
    | true =>
      have passes := calculate_integrates exact_ done_
      rw [inhibition_cases preview w ready idle, if_neg early] at unmoved ⊢
      split at unmoved
      · rename_i shut
        rw [if_pos shut]
        exact .inr rfl
      · exact absurd (unmoved.symm.trans passes) Bool.false_ne_true

theorem observeForcePi_observed (exact_ : env.ops = rational) {now : U32}
    (sound : PiSequence.Sound w.pi.config w.pi.state) (done_ : (observeForcePi env now w).1 = true) :
    Observed env w (observeForcePi env now w).2 := by
  unfold observeForcePi at done_ ⊢
  cases first : calculate env w.pi.state false w with
  | none =>
    rw [first] at done_
    exact absurd done_ Bool.false_ne_true
  | some previewed =>
    obtain ⟨previewState, preview⟩ := previewed
    rw [first] at done_
    dsimp only at done_ ⊢
    cases second : calculate env w.pi.state (inhibition env preview w).2.2 w with
    | none =>
      rw [second] at done_
      exact absurd done_ Bool.false_ne_true
    | some outcome =>
      obtain ⟨next, result⟩ := outcome
      dsimp only
      have before := calculate_updated exact_ sound first
      have after := calculate_updated exact_ sound second
      have sound' {integrate : Bool} {next : PiState ℚ} {result : PiSnapshot ℚ}
          (updated : PiSequence.Updated w.pi.config w.pi.state (env.ops.ofInt w.targetUnits)
            (env.ops.ofInt w.pressure.control) (elapsedSeconds env w) integrate (true, next, result)) :
          PiSequence.Sound w.pi.config next :=
        ⟨sound.valid, updated.kept, updated.hull, updated.proportional rfl⟩
      cases stands : (inhibition env preview w).2.2 && pointsAway env w result.limitedOutputMv with
      | true =>
        obtain ⟨integrates, away⟩ := Bool.and_eq_true _ _ ▸ stands
        exact observed_back first (sound' before) (before.frozen rfl rfl) integrates away
      | false => exact observed_stands exact_ first second (sound' after) (after.frozen rfl) stands

theorem Fitted.observed (fitted : Fitted env w) (observed : Observed env w v) : Fitted env v := by
  obtain ⟨c, accepts, effective⟩ := fitted.accepted
  have config : v.config = w.config := by rw [observed.only]
  exact ⟨⟨c, by rw [config]; exact accepts, by rw [observed.strategy, config]; exact effective⟩, observed.sound⟩

def Steady (env : Platform ℚ Exec) (w v : System ℚ Exec) : Prop :=
  v.pi.enabled = w.pi.enabled ∧ (Fitted env w → Fitted env v)

theorem Kept.steady (exact_ : env.ops = rational) (kept : Kept env w v) : Steady env w v :=
  ⟨kept.enabled, fun fitted => fitted.kept exact_ kept⟩

theorem Steady.trans {u : System ℚ Exec} (first : Steady env w v) (second : Steady env v u) : Steady env w u :=
  ⟨second.1.trans first.1, fun fitted => second.2 (first.2 fitted)⟩

theorem observeForcePi_steady (exact_ : env.ops = rational) (now : U32) (w : System ℚ Exec) :
    Steady env w (observeForcePi env now w).2 := by
  rcases observeForcePi_only env now w with ⟨unit, calculated⟩ | failed
  · refine ⟨observeForcePi_enabled env now w, fun fitted => ?_⟩
    exact fitted.observed (observeForcePi_observed exact_ fitted.sound (by rw [calculated]))
  · rw [failed]
    exact (enterFault_kept env now _ _ _).1.steady exact_

theorem supervise_steady (exact_ : env.ops = rational) (now : U32) (p : Sample) (w : System ℚ Exec) :
    Steady env w (supervise env p now w).2 := by
  have checked : Steady env w (checkPressureSafety env now w) := (checkPressureSafety_kept env now w).steady exact_
  unfold supervise
  split
  · dsimp only
    split
    · exact checked
    split
    · exact checked
    · have observed := checked.trans (observeForcePi_steady exact_ now (checkPressureSafety env now w))
      generalize observeForcePi env now (checkPressureSafety env now w) = outcome at observed ⊢
      obtain ⟨flag, v⟩ := outcome
      cases flag <;> exact observed
  · exact Kept.steady exact_ (.refl w)

theorem handlePressureSample_steady (exact_ : env.ops = rational) (now : U32) (p : Sample) (w : System ℚ Exec) :
    Steady env w (handlePressureSample env p now w) := by
  have stored : Steady env w (store p w) := Kept.steady exact_ (.of_same rfl rfl rfl)
  unfold handlePressureSample
  split
  · exact stored.trans ((pressureFault_kept _ _).steady exact_)
  split
  · split
    · exact (pressureFault_kept _ _).steady exact_
    · exact Kept.steady exact_ (.refl w)
  split
  · exact (pressureFault_kept _ _).steady exact_
  unfold acceptSample
  split
  · exact stored.trans ((enterFault_kept env now _ _ _).1.steady exact_)
  have supervised := stored.trans (supervise_steady exact_ now p (store p w))
  generalize supervise env p now (store p w) = outcome at supervised ⊢
  obtain ⟨flag, v⟩ := outcome
  cases flag with
  | false => exact supervised
  | true =>
    exact (supervised.trans ((trackPeak_same p v).carried.toKept.steady exact_)).trans ((actOn_kept p _).steady exact_)

theorem configureForcePi_fitted (exact_ : env.ops = rational) (c : PiConfig ℚ) (w : System ℚ Exec) :
    configureForcePi env c w = ((configureForcePi env c w).1, w) ∨ Fitted env (configureForcePi env c w).2 := by
  unfold configureForcePi
  split
  · exact .inl rfl
  split
  · exact .inl rfl
  split
  · exact .inl rfl
  split
  · exact .inl rfl
  rename_i accepts
  split
  · exact .inl rfl
  · rename_i next initial
    right
    have given : Fitted env { w with pi := { w.pi with
        config := effectivePi env w.config c, state := next, enabled := true } } := by
      rw [exact_] at initial
      exact ⟨⟨c, by simpa using accepts, rfl⟩, PiSequence.initialState_sound initial⟩
    exact given.kept exact_ (resetForcePi_keeps _)

/-- Whenever the strategy is enabled it is one that was accepted. -/
theorem fitted_of_reachable (exact_ : env.ops = rational) {past : List (Turn (System ℚ Exec) (Event ℚ))}
    (reachable : Reachable env past w) (enabled : w.pi.enabled = true) : Fitted env w := by
  revert enabled
  refine recorded_invariant (fun _ w => w.pi.enabled = true → Fitted env w) ?_ ?_ reachable
  · rintro w ⟨w₀, config, now, rfl⟩ enabled
    have off : (initializeContext env config now w₀).pi.enabled = false := by
      unfold initializeContext
      dsimp only
      split <;> rfl
    exact absurd (off.symm.trans enabled) Bool.false_ne_true
  · intro past w e _ _ before enabled
    have steady {v : System ℚ Exec} (on : v.pi.enabled = true) (moves : Steady env w v) : Fitted env v :=
      moves.2 (before (moves.1.symm.trans on))
    cases e with
    | initializeContext config now =>
      have off : (initializeContext env config now w).pi.enabled = false := by
        unfold initializeContext
        dsimp only
        split <;> rfl
      exact absurd (off.symm.trans enabled) Bool.false_ne_true
    | completeBoot checksPassed now => exact steady enabled ((completeBoot_kept _ w).steady exact_)
    | configureForcePi config now =>
      rcases configureForcePi_fitted exact_ config w with same | fitted
      · have unchanged : call env w (.configureForcePi config now) = w := congrArg Prod.snd same
        rw [unchanged] at enabled ⊢
        exact before enabled
      · exact fitted
    | handleCommand asked now => exact steady enabled ((handleCommand_kept asked w).steady exact_)
    | handlePressureSample p now => exact steady enabled (handlePressureSample_steady exact_ now p w)
    | checkPressureSafety now => exact steady enabled ((checkPressureSafety_kept env now w).steady exact_)
    | handleMotorService now => exact steady enabled ((handleMotorService_carried env now w).toKept.steady exact_)
    | reportFault f detail now => exact steady enabled ((reportFault_kept f detail w).steady exact_)
    | tick now => exact steady enabled ((tick_kept w).steady exact_)
    | isPressureFresh now => exact steady enabled (Kept.steady exact_ (.refl w))
    | service now => exact steady enabled (Kept.steady exact_ (.of_same rfl rfl rfl))
    | interrupt now => exact steady enabled (Kept.steady exact_ (.of_same rfl rfl rfl))

end

end Sd700.Machine.Strategy
