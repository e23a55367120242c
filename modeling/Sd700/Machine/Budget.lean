import Sd700.Machine.Corrections

/-! The convergence budget of AutoTarget: what starts it, and what cannot move it. -/

namespace Sd700.Machine.Budget
open Logic.Run Logic.Modular Logic.Floating Build.Contract Motor.Interface Motor.Pulses ForcePi Context Motion
  Handlers Outcomes Ownership PressSteps SettleGate Strategy Corrections
open Deadlines (autoTargetBench not_direct checkPressureSafety_stale checkPressureSafety_cycle acceptSample_faulted)
open PressureSafety (requires_automatic acceptSample_pressure)
open Servo.State (MachineFault FaultDetail CommandType CommandResult Command Sample)

variable {F Exec : Type} {env : Platform F Exec} {u v w : System F Exec} {now : U32} {p : Sample}

/-! ### One call -/

def Moving (s : MachineState) : Prop := s = .autoApproach ∨ s = .autoSettle ∨ s = .autoPulse

theorem Moving.automatic {s : MachineState} (moving : Moving s) : isAutomatic s = true ∧ s ≠ .autoHold ∧ s ≠ .fault := by
  rcases moving with rfl | rfl | rfl <;> decide

/-- The budget is where it was; an approach that is pending without contact stays pending. -/
structure Fixed (w v : System F Exec) : Prop where
  contacted : v.autoHasContacted = w.autoHasContacted
  cycle : v.state ≠ .autoHold → v.cycleStartedMs = w.cycleStartedMs
  pending : v.autoHasContacted = false → w.autoApproachPending = true → v.autoApproachPending = true

structure Latched (now : U32) (w v : System F Exec) : Prop where
  apart : w.autoHasContacted = false
  contacted : v.autoHasContacted = true
  cycle : v.state ≠ .autoHold → v.cycleStartedMs = v.pressure.received
  current : v.pressure.control ≥ w.config.contactThresholdUnits ∧
    now - v.pressure.received ≤ now - w.cycleStartedMs ∧ isPressureFresh now { w with pressure := v.pressure } = true

inductive Turned (now : U32) (w v : System F Exec) : Prop
  | lost (state : v.state = .fault)
  | fixed (fixed : Fixed w v)
  | latched (latched : Latched now w v)

theorem Carried.fixed (carried : Carried env w v) (alive : v.state ≠ .fault) : Fixed w v :=
  ⟨carried.contacted alive, carried.cycle alive, fun _ => carried.pending alive⟩

theorem Carried.turned (carried : Carried env w v) : Turned now w v := by
  by_cases alive : v.state = .fault
  · exact .lost alive
  · exact .fixed (Carried.fixed carried alive)

structure Stopped (w v : System F Exec) : Prop where
  state : v.state = .autoSettle
  contacted : v.autoHasContacted = true
  cycle : v.cycleStartedMs = if w.autoHasContacted then w.cycleStartedMs else w.pressure.received
  pressure : v.pressure = w.pressure
  config : v.config = w.config

theorem latchContact_stopped (carried : Carried env w v) (settling : v.state = .autoSettle) :
    Stopped w (latchContact v) := by
  have alive : v.state ≠ .fault := by
    rw [settling]
    decide
  unfold latchContact
  rw [if_pos settling, carried.contacted alive, carried.cycle alive (by rw [settling]; decide)]
  refine ⟨settling, rfl, ?_, carried.pressure, carried.config⟩
  show (if _ then _ else v.pressure.received) = _
  rw [carried.pressure]

theorem Carried.trans (first : Carried env w u) (alive : u.state ≠ .fault) (moves : u.state ≠ .autoHold)
    (second : Carried env u v) : Carried env w v :=
  ⟨first.toKept.trans second.toKept, second.target.trans first.target, second.pressure.trans first.pressure,
    fun going => (second.integral going).trans (first.integral alive),
    fun going => (second.contacted going).trans (first.contacted alive),
    fun going moving => (second.cycle going moving).trans (first.cycle alive moves),
    first.plain ∘ second.plain, fun going => second.pending going ∘ first.pending alive⟩

theorem enterSettle_state (env : Platform F Exec) (now : U32) (w : System F Exec) :
    (enterSettle env now w).2.state = .autoSettle ∨ (enterSettle env now w).2.state = .fault := by
  unfold enterSettle
  rcases disableOrFault_cases env now w with done_ | failed
  · rw [done_]
    exact .inl rfl
  · rw [failed]
    exact .inr rfl

section
variable (auto : env.policy.isAutoTarget = true)
include auto

theorem stopApproachOnContact_stopped (coarse : w.state = .autoApproach ∨ w.state = .autoSettle) :
    (stopApproachOnContact env now w).state = .fault ∨ Stopped w (stopApproachOnContact env now w) := by
  let served : System F Exec := { w with exec := (env.executor.service now w.exec).2 }
  have still : Same w served := ⟨rfl, rfl, rfl, rfl, rfl, rfl, rfl, rfl, rfl, rfl, rfl, id⟩
  have faults {x : System F Exec} (fault : x.state = .fault) : (latchContact x).state = .fault := by
    unfold latchContact
    rw [if_neg (by rw [fault]; decide)]
    exact fault
  unfold stopApproachOnContact
  dsimp only
  split
  · exact .inl rfl
  have serviced : Carried env w (handleMotorService env now served) := (handleMotorService_carried env now served).after still
  have looked : Looked env served (handleMotorService env now served) := handleMotorService_looked auto now coarse
  show (latchContact (if (handleMotorService env now served).state = .autoApproach then
      (enterSettle env now (handleMotorService env now served)).2 else handleMotorService env now served)).state = .fault ∨
    Stopped w (latchContact (if (handleMotorService env now served).state = .autoApproach then
      (enterSettle env now (handleMotorService env now served)).2 else handleMotorService env now served))
  generalize handleMotorService env now served = m at serviced looked ⊢
  have state : m.state = .autoApproach ∨ m.state = .autoSettle ∨ m.state = .fault := by
    cases looked with
    | same aside alike state phase =>
      rcases coarse with approach | settling
      · exact .inl (state.trans approach)
      · exact .inr (.inl (state.trans settling))
    | faulted aside state press => exact .inr (.inr state)
    | contacted aside approach state phase press => exact .inr (.inl state)
  split
  · rename_i approach
    have settles := Carried.trans serviced (by rw [approach]; decide) (by rw [approach]; decide)
      (enterSettle_carried env now m)
    rcases enterSettle_state env now m with settling | fault
    · exact .inr (latchContact_stopped settles settling)
    · exact .inl (faults fault)
  · rename_i other
    rcases state with approach | settling | fault
    · exact absurd approach other
    · exact .inr (latchContact_stopped serviced settling)
    · exact .inl (faults fault)

/-- A check faults, changes nothing, or latches the contact of the stored sample. -/
theorem checkPressureSafety_watched (now : U32) (w : System F Exec) :
    (checkPressureSafety env now w).state = .fault ∨
      checkPressureSafety env now w = w ∧
        (isAutomatic w.state = true → hasCurrentApproachContact now w = false) ∨
      hasCurrentApproachContact now w = true ∧ Stopped w (checkPressureSafety env now w) := by
  unfold checkPressureSafety
  split
  · rename_i unneeded
    refine .inr (.inl ⟨rfl, fun automatic => ?_⟩)
    rw [requires_automatic automatic] at unneeded
    exact absurd unneeded Bool.false_ne_true
  split
  · exact .inl rfl
  split
  · rename_i direct
    exact .inr (.inl ⟨rfl, fun automatic => absurd direct (not_direct automatic)⟩)
  split
  · exact .inl rfl
  split
  · rw [checkContact_fault rfl]
    exact .inl rfl
  unfold checkContact
  rw [auto, Bool.true_and]
  cases contact : hasCurrentApproachContact now w with
  | false => exact .inr (.inl ⟨rfl, fun _ => rfl⟩)
  | true =>
    rcases @stopApproachOnContact_stopped _ _ env w now auto (hasCurrentApproachContact_coarse contact) with fault | stopped
    · exact .inl fault
    · exact .inr (.inr ⟨rfl, stopped⟩)

omit auto in
theorem Stopped.turned (contact : hasCurrentApproachContact now w = true) (stopped : Stopped w v) : Turned now w v := by
  unfold hasCurrentApproachContact at contact
  simp only [Bool.and_eq_true, decide_eq_true_eq] at contact
  obtain ⟨⟨⟨-, fresh⟩, touches⟩, recent⟩ := contact
  have cycle := stopped.cycle
  cases before : w.autoHasContacted with
  | true =>
    rw [before, if_pos rfl] at cycle
    refine .fixed ⟨stopped.contacted.trans before.symm, fun _ => cycle, fun apart => ?_⟩
    rw [stopped.contacted] at apart
    exact Bool.noConfusion apart
  | false =>
    rw [before, if_neg Bool.false_ne_true] at cycle
    refine .latched ⟨before, stopped.contacted, fun _ => ?_, ?_⟩
    · rw [stopped.pressure]
      exact cycle
    · rw [stopped.pressure]
      exact ⟨touches, recent, fresh⟩

omit auto in
theorem startApproach_lands (profile : ApproachProfile) (w : System F Exec) :
    (startApproach env profile now w).2.state = .autoApproach ∨ (startApproach env profile now w).2.state = .fault := by
  unfold startApproach requestMotor captureMotorRequest
  split
  · exact .inr rfl
  split
  · exact .inr rfl
  · exact .inl rfl

omit auto in
theorem startApproach_state (profile : ApproachProfile) (w : System F Exec) :
    (startApproach env profile now w).2.state ≠ .autoHold := by
  intro holding
  rcases @startApproach_lands _ _ env now profile w with approach | fault
  · exact absurd (approach.symm.trans holding) (by decide)
  · exact absurd (fault.symm.trans holding) (by decide)

theorem actOn_turned (moving : Moving w.state) (stored : w.pressure = p)
    (seen : w.state = .autoSettle → w.settlePhase = .waitSample → w.settleGateSequence < p.sequence →
      w.config.contactThresholdUnits ≤ p.control → w.autoHasContacted = true) :
    Turned now w (actOn env p now w) ∧
      ((actOn env p now w).state = .autoHold → (actOn env p now w).autoHasContacted = true) := by
  have still : Turned now w w := .fixed ⟨rfl, fun _ => rfl, fun _ => id⟩
  have rests : w.state ≠ .autoHold := moving.automatic.2.1
  unfold actOn
  split
  · unfold contactApproach
    rw [if_pos auto]
    rename_i approaching
    split
    · rename_i contact
      rcases @stopApproachOnContact_stopped _ _ env w now auto (.inl approaching.1) with fault | stopped
      · exact ⟨.lost fault, fun holding => absurd (fault.symm.trans holding) (by decide)⟩
      · exact ⟨stopped.turned contact, fun _ => stopped.contacted⟩
    · exact ⟨still, fun holding => absurd holding rests⟩
  split
  · rename_i waited
    obtain ⟨settling, waiting, later⟩ := waited
    have consumed : Same w (consumePressFeedback env w) := consumePressFeedback_same w
    unfold judgeSettled
    rw [if_pos auto]
    dsimp only
    have config : (consumePressFeedback env w).config = w.config := consumed.config
    by_cases touches : w.config.contactThresholdUnits ≤ p.control
    · have contacted := seen settling waiting later touches
      let noted : System F Exec := { consumePressFeedback env w with autoHasContacted := true, autoApproachPending := false }
      have carried : Carried env noted (classifySettledSample env now noted) := classifySettledSample_carried noted
      rw [if_pos (config ▸ touches)]
      show Turned now w (classifySettledSample env now noted) ∧ _
      by_cases alive : (classifySettledSample env now noted).state = .fault
      · exact ⟨.lost alive, fun holding => absurd (alive.symm.trans holding) (by decide)⟩
      · have kept : (classifySettledSample env now noted).autoHasContacted = true := carried.contacted alive
        refine ⟨.fixed ⟨kept.trans contacted.symm, fun runs => ?_, fun apart => ?_⟩, fun _ => kept⟩
        · exact (carried.cycle alive runs).trans consumed.cycle
        · rw [kept] at apart
          exact Bool.noConfusion apart
    · rw [if_neg (by rw [config]; exact touches)]
      have carried : Carried env w (classifySettledSample env now (consumePressFeedback env w)) :=
        (classifySettledSample_carried _).after consumed
      refine ⟨Carried.turned carried, fun holding => absurd holding ?_⟩
      unfold classifySettledSample
      rw [if_pos (by rw [consumed.pressure, stored, config]; exact not_le.mp touches)]
      exact startApproach_state _ _
  exact ⟨still, fun holding => absurd holding rests⟩

omit auto in
theorem Turned.trans (turned : Turned now w u) (alive : u.state ≠ .fault) (runs : u.state ≠ .autoHold)
    (config : u.config = w.config) (pressure : v.pressure = u.pressure) (later : Turned now u v) : Turned now w v := by
  cases turned with
  | lost state => exact absurd state alive
  | fixed before =>
    cases later with
    | lost state => exact .lost state
    | fixed after =>
      refine .fixed ⟨after.contacted.trans before.contacted, fun moves => ?_, fun apart pending => ?_⟩
      · exact (after.cycle moves).trans (before.cycle runs)
      · exact after.pending apart (before.pending (after.contacted.symm.trans apart) pending)
    | latched after =>
      refine .latched ⟨before.contacted.symm.trans after.apart, after.contacted, after.cycle, ?_⟩
      obtain ⟨touches, recent, fresh⟩ := after.current
      rw [config] at touches
      rw [before.cycle runs] at recent
      refine ⟨touches, recent, ?_⟩
      unfold isPressureFresh at fresh ⊢
      dsimp only at fresh ⊢
      rw [config] at fresh
      exact fresh
  | latched before =>
    cases later with
    | lost state => exact .lost state
    | fixed after =>
      refine .latched ⟨before.apart, after.contacted.trans before.contacted, fun moves => ?_, ?_⟩
      · rw [pressure]
        exact (after.cycle moves).trans (before.cycle runs)
      · rw [pressure]
        exact before.current
    | latched after => exact absurd (before.contacted.symm.trans after.apart) Bool.noConfusion

omit auto in
theorem Turned.of_same (same : Same w v) : Turned now w v :=
  .fixed ⟨same.contacted, fun _ => same.cycle, fun _ => same.pending⟩

omit auto in
theorem isPressureFresh_check (automatic : isAutomatic w.state = true)
    (alive : (checkPressureSafety env now w).state ≠ .fault) : isPressureFresh now w = true := by
  by_contra stale
  rw [checkPressureSafety_stale env automatic (Bool.eq_false_iff.mpr stale)] at alive
  exact alive rfl

/-- The check of a sample: a fault, or a machine that still moves, and that has seen the contact if there is one. -/
theorem checkPressureSafety_seen (moving : Moving w.state) (stored : w.pressure = p)
    (pending : w.autoHasContacted = false → w.autoApproachPending = true)
    (timely : w.autoHasContacted = false → w.state = .autoSettle → w.settlePhase = .waitSample →
      After p.received w.settleFeedbackAfterMs → isPressureFresh now w = true →
      now - p.received ≤ now - w.cycleStartedMs) :
    (checkPressureSafety env now w).state = .fault ∨
      Turned now w (checkPressureSafety env now w) ∧ Moving (checkPressureSafety env now w).state ∧
        (checkPressureSafety env now w).pressure = p ∧ (checkPressureSafety env now w).config = w.config ∧
        (beforeGate env p (checkPressureSafety env now w) = false →
          (checkPressureSafety env now w).state = .autoSettle →
          (checkPressureSafety env now w).settlePhase = .waitSample → w.config.contactThresholdUnits ≤ p.control →
          (checkPressureSafety env now w).autoHasContacted = true) := by
  have fresh := @isPressureFresh_check _ _ env w now moving.automatic.1
  rcases checkPressureSafety_watched auto now w with fault | ⟨same, quiet⟩ | ⟨contact, stopped⟩
  · exact .inl fault
  · rw [same] at fresh ⊢
    right
    refine ⟨.of_same (.refl w), moving, stored, rfl, fun gate settling waiting touches => ?_⟩
    cases contacted : w.autoHasContacted with
    | true => rfl
    | false =>
      have current := fresh moving.automatic.2.2
      have recent := timely contacted settling waiting (after_gate auto settling gate) current
      have off := quiet moving.automatic.1
      unfold hasCurrentApproachContact at off
      rw [pending contacted, current, stored, decide_eq_true (.inr settling), decide_eq_true touches,
        decide_eq_true recent] at off
      exact Bool.noConfusion off
  · right
    refine ⟨stopped.turned contact, .inr (.inl stopped.state), stopped.pressure.trans stored, stopped.config,
      fun _ _ _ _ => stopped.contacted⟩

theorem acceptSample_turned (valid : Valid p = true) (stored : w.pressure = p) (enabled : w.pi.enabled = true)
    (moving : Moving w.state) (pending : w.autoHasContacted = false → w.autoApproachPending = true)
    (timely : w.autoHasContacted = false → w.state = .autoSettle → w.settlePhase = .waitSample →
      After p.received w.settleFeedbackAfterMs → isPressureFresh now w = true →
      now - p.received ≤ now - w.cycleStartedMs) :
    Turned now w (acceptSample env p now w) ∧
      ((acceptSample env p now w).state = .autoHold → (acceptSample env p now w).autoHasContacted = true) := by
  have faults {v : System F Exec} (fault : v.state = .fault) :
      Turned now w v ∧ (v.state = .autoHold → v.autoHasContacted = true) :=
    ⟨.lost fault, fun holding => absurd (fault.symm.trans holding) (by decide)⟩
  have pressure : (acceptSample env p now w).pressure = p := acceptSample_pressure env stored valid
  have seen := @checkPressureSafety_seen _ _ env w now p auto moving stored pending timely
  unfold acceptSample supervise at pressure ⊢
  split
  · exact faults rfl
  rename_i within
  rw [if_neg within, if_pos (by rw [enabled, moving.automatic.1]; rfl)] at pressure
  rw [if_pos (by rw [enabled, moving.automatic.1]; rfl)]
  dsimp only at pressure ⊢
  generalize checkPressureSafety env now w = u at seen pressure ⊢
  have checked : Turned now w u ∧ (u.state = .autoHold → u.autoHasContacted = true) := by
    rcases seen with fault | ⟨turned, moves, -⟩
    · exact faults fault
    · exact ⟨turned, fun holding => absurd holding moves.automatic.2.1⟩
  by_cases gate : beforeGate env p u = true
  · rw [if_pos gate]
    exact checked
  rw [if_neg gate] at pressure ⊢
  by_cases fault : u.state = .fault
  · rw [if_pos fault]
    exact checked
  rw [if_neg fault] at pressure ⊢
  obtain ⟨turned, moves, held, config, latched⟩ := seen.resolve_left fault
  have alive := moves.automatic.2
  rcases observeForcePi_only env now u with ⟨unit, calculated⟩ | failed
  · rw [calculated] at pressure ⊢
    dsimp only at pressure ⊢
    let answered : System F Exec := { u with pi := unit }
    have same : Turned now u answered := .fixed ⟨rfl, fun _ => rfl, fun _ => id⟩
    have before : Turned now w answered := turned.trans alive.2 alive.1 config rfl same
    cases free : !(decide (u.state = .autoSettle ∨ u.state = .autoHold) && !forcePiMotorIdle env { u with pi := unit }) with
    | false => exact ⟨before, fun holding => absurd holding alive.1⟩
    | true =>
      rw [free] at pressure
      dsimp only at pressure ⊢
      have tracked : Same answered (trackPeak env p now answered) := trackPeak_same p answered
      have posed : Posed env answered (trackPeak env p now answered) := trackPeak_posed p answered
      have moves' : Moving (trackPeak env p now answered).state := by
        rw [tracked.state]
        exact moves
      have acted := @actOn_turned _ _ env (trackPeak env p now answered) now p auto moves' (tracked.pressure.trans held)
        fun settling waiting _ touches => by
          rw [tracked.config, show answered.config = w.config from config] at touches
          rw [tracked.contacted]
          exact latched (Bool.eq_false_iff.mpr gate) (tracked.state.symm.trans settling)
            (posed.settlePhase.symm.trans waiting) touches
      have peaked := before.trans alive.2 alive.1 config tracked.pressure (.of_same tracked)
      refine ⟨peaked.trans ?_ ?_ (tracked.config.trans config) ?_ acted.1, acted.2⟩
      · exact moves'.automatic.2.2
      · exact moves'.automatic.2.1
      · exact pressure.trans (tracked.pressure.trans held).symm
  · rw [failed]
    exact faults rfl

theorem handlePressureSample_turned (enabled : w.pi.enabled = true) (moving : Moving w.state)
    (pending : w.autoHasContacted = false → w.autoApproachPending = true)
    (timely : w.autoHasContacted = false → w.state = .autoSettle → w.settlePhase = .waitSample →
      After p.received w.settleFeedbackAfterMs → isPressureFresh now (store p w) = true →
      now - p.received ≤ now - w.cycleStartedMs) :
    Turned now w (handlePressureSample env p now w) ∧
      ((handlePressureSample env p now w).state = .autoHold → (handlePressureSample env p now w).autoHasContacted = true) := by
  have faults {v : System F Exec} (fault : v.state = .fault) :
      Turned now w v ∧ (v.state = .autoHold → v.autoHasContacted = true) :=
    ⟨.lost fault, fun holding => absurd (fault.symm.trans holding) (by decide)⟩
  have required (v : System F Exec) (state : v.state = w.state) : requiresPressureSafety env.policy v.state = true := by
    rw [state]
    exact requires_automatic moving.automatic.1
  unfold handlePressureSample
  split
  · unfold pressureFault
    rw [if_pos (required (store p w) rfl)]
    exact faults rfl
  rename_i valid
  split
  · split
    · unfold pressureFault
      rw [if_pos (required w rfl)]
      exact faults rfl
    · exact ⟨.of_same (.refl w), fun holding => absurd holding moving.automatic.2.1⟩
  split
  · unfold pressureFault
    rw [if_pos (required w rfl)]
    exact faults rfl
  obtain ⟨turned, held⟩ := @acceptSample_turned _ _ env (store p w) now p auto (by simpa using valid) rfl enabled moving
    pending timely
  refine ⟨?_, held⟩
  -- Storing the sample moves nothing of the budget.
  cases turned with
  | lost state => exact .lost state
  | fixed fixed => exact .fixed ⟨fixed.contacted, fixed.cycle, fixed.pending⟩
  | latched latched => exact .latched ⟨latched.apart, latched.contacted, latched.cycle, latched.current⟩

omit auto in
/-- A command does nothing to a running machine, except to stop it. -/
theorem handleCommand_running (c : Command) (running : isAutomatic w.state = true) :
    isAutomatic (handleCommand env c now w).state = false ∨ ∃ result, handleCommand env c now w =
      { w with lastCommandResult := result } := by
  have busy : w.state ≠ .idle := by
    intro idle
    rw [idle] at running
    exact absurd running (by decide)
  unfold handleCommand command
  split
  · left
    show isAutomatic (stop env now w).2.state = false
    unfold stop
    rcases disableOrFault_cases env now w with done_ | failed
    · rw [done_]
      show isAutomatic (stoppedState w.state) = false
      cases w.state <;> rfl
    · rw [failed]
      rfl
  · unfold setTarget
    rw [if_pos busy]
    exact .inr ⟨_, rfl⟩
  · right
    unfold directPulse
    split
    · exact ⟨_, rfl⟩
    · exact ⟨_, rfl⟩
  · right
    unfold directPulse
    split
    · exact ⟨_, rfl⟩
    · exact ⟨_, rfl⟩
  · right
    unfold autoStart
    split
    · exact ⟨_, rfl⟩
    · exact ⟨_, rfl⟩
  · exact .inr ⟨_, rfl⟩

omit auto in
theorem initializeContext_parked (config : Option MachineConfig) (w : System F Exec) :
    isAutomatic (initializeContext env config now w).state = false := by
  unfold initializeContext
  dsimp only
  split
  · rfl
  · rfl

omit auto in
theorem held_sampled {e : Event F} {c d : Core Exec} (outcome : Outcome env e now c d) (rests : c.state ≠ .autoHold)
    (holding : d.state = .autoHold) : ∃ p, e = .handlePressureSample p now := by
  cases outcome with
  | kept x aside => exact absurd holding rests
  | faulted detail after x aside founded => exact absurd holding MachineState.noConfusion
  | refused detail next x request may aside untaken plain => exact absurd holding MachineState.noConfusion
  | started next x request may aside taken =>
    rcases may with ⟨-, rfl⟩ | ⟨⟨units, direct⟩, -⟩ | ⟨-, rfl | rfl⟩
    · exact absurd holding MachineState.noConfusion
    · rcases direct with ⟨-, rfl⟩ | ⟨-, rfl⟩
      · exact absurd holding MachineState.noConfusion
      · exact absurd holding MachineState.noConfusion
    · exact absurd holding MachineState.noConfusion
    · exact absurd holding MachineState.noConfusion
  | settled x aside running => exact absurd holding MachineState.noConfusion
  | held p x sample judges aside => exact ⟨p, sample⟩
  | rested x already aside => exact absurd already rests
  | stopped units command =>
    change stoppedState c.state = .autoHold at holding
    unfold stoppedState at holding
    split at holding
    · exact absurd holding MachineState.noConfusion
    split at holding
    · exact absurd holding MachineState.noConfusion
    · exact absurd holding MachineState.noConfusion
  | booted boot => exact absurd holding MachineState.noConfusion
  | completed direct off => exact absurd holding MachineState.noConfusion
  | opened ticks settling delayed expired => exact absurd holding rests
  | configured idle => exact absurd holding rests
  | noted p sample invalid indifferent => exact ⟨p, sample⟩
  | spoiled p sample invalid => exact ⟨p, sample⟩

theorem call_turned (e : Event F) (enabled : w.pi.enabled = true) (moving : Moving w.state)
    (pending : w.autoHasContacted = false → w.autoApproachPending = true)
    (timely : ∀ p now, e = .handlePressureSample p now → w.autoHasContacted = false → w.state = .autoSettle →
      w.settlePhase = .waitSample → After p.received w.settleFeedbackAfterMs →
      isPressureFresh now (store p w) = true → now - p.received ≤ now - w.cycleStartedMs) :
    isAutomatic (call env w e).state = false ∨ Turned (instant e) w (call env w e) ∧
      ((call env w e).state = .autoHold → (call env w e).autoHasContacted = true) := by
  have rests := moving.automatic.2.1
  have still : Turned (instant e) w w ∧ (w.state = .autoHold → w.autoHasContacted = true) :=
    ⟨.of_same (.refl w), fun holding => absurd holding rests⟩
  cases e with
  | initializeContext config now => exact .inl (initializeContext_parked config w)
  | completeBoot checksPassed now =>
    right
    have booted : w.state ≠ .bootSafe := by
      intro boot
      have running := moving.automatic.1
      rw [boot] at running
      exact absurd running (by decide)
    have same : call env w (.completeBoot checksPassed now) = w := if_pos booted
    rw [same]
    exact still
  | configureForcePi config now =>
    right
    have busy : w.state ≠ .idle := by
      intro idle
      have running := moving.automatic.1
      rw [idle] at running
      exact absurd running (by decide)
    have same : call env w (.configureForcePi config now) = w := by
      show (configureForcePi env config w).2 = w
      unfold configureForcePi
      split
      · rfl
      · rfl
    rw [same]
    exact still
  | handleCommand c now =>
    rcases @handleCommand_running _ _ env w now c moving.automatic.1 with stopped | ⟨result, same⟩
    · exact .inl stopped
    · right
      show Turned now w (handleCommand env c now w) ∧
        ((handleCommand env c now w).state = .autoHold → (handleCommand env c now w).autoHasContacted = true)
      rw [same]
      exact ⟨.fixed ⟨rfl, fun _ => rfl, fun _ => id⟩, fun holding => absurd holding rests⟩
  | handlePressureSample p now =>
    exact .inr (handlePressureSample_turned auto enabled moving pending (timely p now rfl))
  | checkPressureSafety now =>
    rcases checkPressureSafety_watched auto now w with fault | ⟨same, -⟩ | ⟨contact, stopped⟩
    · left
      show isAutomatic (checkPressureSafety env now w).state = false
      rw [fault]
      rfl
    · have unmoved : call env w (.checkPressureSafety now) = w := same
      right
      rw [unmoved]
      exact still
    · exact .inr ⟨stopped.turned contact, fun _ => stopped.contacted⟩
  | handleMotorService now =>
    right
    have carried : Carried env w (handleMotorService env now w) := handleMotorService_carried env now w
    refine ⟨Carried.turned carried, fun holding => ?_⟩
    have outcome : Outcome env (.handleMotorService now) now (core w) (core (handleMotorService env now w)) :=
      handleMotorService_outcome w
    obtain ⟨p, sampled⟩ := held_sampled outcome rests holding
    cases sampled
  | reportFault f detail now =>
    left
    show isAutomatic (reportFault env f detail now w).state = false
    unfold reportFault
    split
    · rfl
    · rfl
  | tick now =>
    right
    have open_ : Turned now w (openGate env now w) := .fixed ⟨rfl, fun _ => rfl, fun _ => id⟩
    show Turned now w (tick env now w) ∧ ((tick env now w).state = .autoHold → (tick env now w).autoHasContacted = true)
    unfold tick
    split
    · split
      · exact ⟨open_, fun holding => absurd holding rests⟩
      · exact still
    · exact ⟨.lost rfl, fun holding => absurd holding MachineState.noConfusion⟩
    · exact ⟨.lost rfl, fun holding => absurd holding MachineState.noConfusion⟩
    · exact ⟨.lost rfl, fun holding => absurd holding MachineState.noConfusion⟩
    · exact still
  | isPressureFresh now => exact .inr still
  | service now => exact .inr ⟨.fixed ⟨rfl, fun _ => rfl, fun _ => id⟩, fun holding => absurd holding rests⟩
  | interrupt now => exact .inr ⟨.fixed ⟨rfl, fun _ => rfl, fun _ => id⟩, fun holding => absurd holding rests⟩

/-! ### HOLD and the start of a run -/

omit auto in
theorem moving_or_holds {s : MachineState} (running : isAutomatic s = true) : Moving s ∨ s = .autoHold := by
  revert running
  unfold Moving
  cases s <;> decide

/-- A check of a machine that holds faults, or changes nothing. -/
theorem checkPressureSafety_holding (holding : w.state = .autoHold) :
    (checkPressureSafety env now w).state = .fault ∨ checkPressureSafety env now w = w := by
  rcases checkPressureSafety_watched auto now w with fault | ⟨same, -⟩ | ⟨contact, -⟩
  · exact .inl fault
  · exact .inr same
  · rcases hasCurrentApproachContact_coarse contact with approach | settling
    · exact absurd (holding.symm.trans approach) (by decide)
    · exact absurd (holding.symm.trans settling) (by decide)

theorem acceptSample_holding (enabled : w.pi.enabled = true) (holding : w.state = .autoHold)
    (contacted : w.autoHasContacted = true) :
    (acceptSample env p now w).state = .fault ∨ (acceptSample env p now w).autoHasContacted = true ∧
      ((acceptSample env p now w).state = .autoHold ∨ (acceptSample env p now w).cycleStartedMs = now) := by
  have running : isAutomatic w.state = true := by
    rw [holding]
    rfl
  have checks : (checkPressureSafety env now w).state = .fault ∨ checkPressureSafety env now w = w :=
    checkPressureSafety_holding auto holding
  unfold acceptSample supervise
  split
  · exact .inl rfl
  rw [if_pos (by rw [enabled, running]; rfl)]
  dsimp only
  generalize checkPressureSafety env now w = u at checks ⊢
  have stays : u.state = .fault ∨ u.autoHasContacted = true ∧ (u.state = .autoHold ∨ u.cycleStartedMs = now) := by
    rcases checks with fault | rfl
    · exact .inl fault
    · exact .inr ⟨contacted, .inl holding⟩
  by_cases gate : beforeGate env p u = true
  · rw [if_pos gate]
    exact stays
  rw [if_neg gate]
  by_cases fault : u.state = .fault
  · rw [if_pos fault]
    exact stays
  rw [if_neg fault]
  obtain rfl := checks.resolve_left fault
  rcases observeForcePi_only env now u with ⟨unit, calculated⟩ | failed
  · rw [calculated]
    dsimp only
    let answered : System F Exec := { u with pi := unit }
    cases free : !(decide (u.state = .autoSettle ∨ u.state = .autoHold) && !forcePiMotorIdle env { u with pi := unit }) with
    | false => exact .inr ⟨contacted, .inl holding⟩
    | true =>
      dsimp only
      have tracked : Same answered (trackPeak env p now answered) := trackPeak_same p answered
      have holds : (trackPeak env p now answered).state = .autoHold := tracked.state.trans holding
      have acts : actOn env p now (trackPeak env p now answered) =
          classifyHoldSample env now (trackPeak env p now answered) := by
        unfold actOn
        rw [if_neg (by rw [holds]; exact fun wrong => MachineState.noConfusion wrong.1),
          if_neg (by rw [holds]; exact fun wrong => MachineState.noConfusion wrong.1), if_pos holds]
      show (actOn env p now (trackPeak env p now answered)).state = .fault ∨
        (actOn env p now (trackPeak env p now answered)).autoHasContacted = true ∧
          ((actOn env p now (trackPeak env p now answered)).state = .autoHold ∨
            (actOn env p now (trackPeak env p now answered)).cycleStartedMs = now)
      rw [acts]
      by_cases lost : (classifyHoldSample env now (trackPeak env p now answered)).state = .fault
      · exact .inl lost
      right
      rcases @classifyHoldSample_cases _ _ env now (trackPeak env p now answered) with carried | rests
      · refine ⟨(carried.contacted lost).trans (tracked.contacted.trans contacted), ?_⟩
        by_cases stays : (classifyHoldSample env now (trackPeak env p now answered)).state = .autoHold
        · exact .inl stays
        · exact .inr (carried.cycle lost stays)
      · rw [rests] at lost ⊢
        have carried : Carried env (trackPeak env p now answered) (disableOrFault env now (trackPeak env p now answered)).2 :=
          disableOrFault_carried env now _
        refine ⟨(carried.contacted lost).trans (tracked.contacted.trans contacted), .inl ?_⟩
        rcases disableOrFault_cases env now (trackPeak env p now answered) with done_ | failed
        · rw [done_]
          exact holds
        · rw [failed] at lost
          exact absurd rfl lost
  · rw [failed]
    exact .inl rfl

/-- What a call makes of HOLD: it ends, or stays, or a sample leaves it and restarts the budget. -/
theorem call_holding (e : Event F) (enabled : w.pi.enabled = true) (holding : w.state = .autoHold)
    (contacted : w.autoHasContacted = true) :
    isAutomatic (call env w e).state = false ∨ (call env w e).autoHasContacted = true ∧
      ((call env w e).state = .autoHold ∨ (call env w e).cycleStartedMs = instant e ∧
        ∃ p, e = .handlePressureSample p (instant e)) := by
  have running : isAutomatic w.state = true := by
    rw [holding]
    rfl
  cases e with
  | initializeContext config now => exact .inl (initializeContext_parked config w)
  | completeBoot checksPassed now =>
    have same : call env w (.completeBoot checksPassed now) = w := if_pos (by rw [holding]; decide)
    rw [same]
    exact .inr ⟨contacted, .inl holding⟩
  | configureForcePi config now =>
    have same : call env w (.configureForcePi config now) = w := by
      show (configureForcePi env config w).2 = w
      unfold configureForcePi
      split
      · rfl
      · rw [if_pos (by rw [holding]; decide)]
    rw [same]
    exact .inr ⟨contacted, .inl holding⟩
  | handleCommand c now =>
    rcases handleCommand_running c running with stopped | ⟨result, same⟩
    · exact .inl stopped
    · have kept : call env w (.handleCommand c now) = { w with lastCommandResult := result } := same
      rw [kept]
      exact .inr ⟨contacted, .inl holding⟩
  | handlePressureSample p now =>
    have required (v : System F Exec) (state : v.state = w.state) : requiresPressureSafety env.policy v.state = true := by
      rw [state]
      exact requires_automatic running
    show isAutomatic (handlePressureSample env p now w).state = false ∨
      (handlePressureSample env p now w).autoHasContacted = true ∧ ((handlePressureSample env p now w).state = .autoHold ∨
        (handlePressureSample env p now w).cycleStartedMs = now ∧
          ∃ p', Event.handlePressureSample p now = (.handlePressureSample p' now : Event F))
    unfold handlePressureSample
    split
    · unfold pressureFault
      rw [if_pos (required (store p w) rfl)]
      exact .inl rfl
    split
    · split
      · unfold pressureFault
        rw [if_pos (required w rfl)]
        exact .inl rfl
      · exact .inr ⟨contacted, .inl holding⟩
    split
    · unfold pressureFault
      rw [if_pos (required w rfl)]
      exact .inl rfl
    rcases @acceptSample_holding _ _ env (store p w) now p auto enabled holding contacted with fault | ⟨kept, stays | restarts⟩
    · rw [fault]
      exact .inl rfl
    · exact .inr ⟨kept, .inl stays⟩
    · exact .inr ⟨kept, .inr ⟨restarts, p, rfl⟩⟩
  | checkPressureSafety now =>
    rcases @checkPressureSafety_holding _ _ env w now auto holding with fault | unmoved
    · left
      show isAutomatic (checkPressureSafety env now w).state = false
      rw [fault]
      rfl
    · have same : call env w (.checkPressureSafety now) = w := unmoved
      rw [same]
      exact .inr ⟨contacted, .inl holding⟩
  | handleMotorService now =>
    have same : call env w (.handleMotorService now) = w := if_pos (by rw [holding]; decide)
    rw [same]
    exact .inr ⟨contacted, .inl holding⟩
  | reportFault f detail now =>
    left
    show isAutomatic (reportFault env f detail now w).state = false
    unfold reportFault
    split
    · rfl
    · rfl
  | tick now =>
    have same : call env w (.tick now) = w := by
      show tick env now w = w
      unfold tick
      rw [holding]
    rw [same]
    exact .inr ⟨contacted, .inl holding⟩
  | isPressureFresh now => exact .inr ⟨contacted, .inl holding⟩
  | service now => exact .inr ⟨contacted, .inl holding⟩
  | interrupt now => exact .inr ⟨contacted, .inl holding⟩

omit auto in
theorem begun_of_outcome {e : Event F} {c d : Core Exec} (outcome : Outcome env e now c d)
    (rests : isAutomatic c.state = false) (runs : isAutomatic d.state = true) :
    c.state = .idle ∧ ∃ units, e = .handleCommand ⟨.autoStart, units⟩ now := by
  have never {P : Prop} (same : isAutomatic d.state = false) : P := absurd (same.symm.trans runs) Bool.noConfusion
  cases outcome with
  | kept x aside => exact never rests
  | faulted detail after x aside founded => exact never rfl
  | refused detail next x request may aside untaken plain => exact never rfl
  | started next x request may aside taken =>
    rcases may with ⟨⟨asked, idle, -⟩, -⟩ | ⟨⟨units, direct⟩, -⟩ | ⟨⟨p, -, judges | ⟨-, -, holding⟩⟩, -⟩
    · exact ⟨idle, asked⟩
    · rcases direct with ⟨-, rfl⟩ | ⟨-, rfl⟩
      · exact never rfl
      · exact never rfl
    · rw [judges.2.2.1] at rests
      cases rests
    · rw [holding] at rests
      cases rests
  | settled x aside running =>
    rcases running with automatic | admits
    · exact absurd (rests.symm.trans automatic) Bool.noConfusion
    · exact ⟨admits.2.1, admits.1⟩
  | held p x sample judges aside =>
    rw [judges.2.2.1] at rests
    cases rests
  | rested x holding aside =>
    rw [holding] at rests
    cases rests
  | stopped units command =>
    refine never ?_
    show isAutomatic (stoppedState c.state) = false
    cases c.state <;> rfl
  | booted boot => exact never rfl
  | completed direct off => exact never rfl
  | opened ticks settling delayed expired =>
    rw [settling] at rests
    cases rests
  | configured idle => exact never rests
  | noted p sample invalid indifferent => exact never rests
  | spoiled p sample invalid => exact never rfl

/-- A run begins at START: with the contact it finds, and a pending approach without. -/
theorem autoStart_begins (idle : w.state = .idle) (runs : isAutomatic (autoStart env now w).2.state = true) :
    Moving (autoStart env now w).2.state ∧ (autoStart env now w).2.cycleStartedMs = now ∧
      (autoStart env now w).2.autoHasContacted = decide (w.config.contactThresholdUnits ≤ w.pressure.control) ∧
      ((autoStart env now w).2.autoHasContacted = false → (autoStart env now w).2.autoApproachPending = true) ∧
      (w.pressure.control < w.config.contactThresholdUnits → (autoStart env now w).2.state = .autoApproach) ∧
      w.configValid = true := by
  have parked : isAutomatic w.state = false := by
    rw [idle]
    rfl
  have never {P : Prop} {v : System F Exec} (same : isAutomatic v.state = false) (going : isAutomatic v.state = true) : P :=
    absurd (same.symm.trans going) Bool.noConfusion
  unfold autoStart at runs ⊢
  split
  · rename_i off
    rw [if_pos off] at runs
    exact never parked runs
  rename_i on
  rw [if_neg on] at runs
  rw [if_neg (not_not.mpr idle)] at runs ⊢
  split
  · rename_i unready
    rw [if_pos unready] at runs
    exact never parked runs
  rename_i ready
  rw [if_neg ready] at runs
  split
  · rename_i unready
    rw [if_pos unready] at runs
    exact never parked runs
  rename_i strategy
  rw [if_neg strategy] at runs
  split
  · rename_i high
    rw [if_pos high] at runs
    cases runs
  rename_i within
  rw [if_neg within] at runs
  have reset : Kept env w (resetForcePi env w) := resetForcePi_keeps w
  obtain ⟨-, -, -, pressure, -⟩ := @resetForcePi_kept _ _ env w
  let contacted := decide (w.config.contactThresholdUnits ≤ w.pressure.control)
  have begun : (beginCycle env now w).cycleStartedMs = now ∧ (beginCycle env now w).autoHasContacted = contacted ∧
      (beginCycle env now w).autoApproachPending = !contacted := by
    unfold beginCycle
    dsimp only
    rw [if_pos auto]
    dsimp only
    rw [reset.config, pressure]
    exact ⟨rfl, rfl, rfl⟩
  have carried : Carried env (beginCycle env now w) (launch env now (beginCycle env now w)).2 := by
    unfold launch
    split
    · exact startApproach_carried _ _
    · exact enterSettle_carried env now _
  have moves : (launch env now (beginCycle env now w)).2.state ≠ .autoHold := by
    unfold launch
    split
    · exact startApproach_state _ _
    · intro holding
      rcases enterSettle_state env now (beginCycle env now w) with settling | fault
      · exact absurd (settling.symm.trans holding) (by decide)
      · exact absurd (fault.symm.trans holding) (by decide)
  have alive : (launch env now (beginCycle env now w)).2.state ≠ .fault := by
    intro fault
    rw [fault] at runs
    cases runs
  have ready_ : w.configValid = true := by
    have all : automaticReady env now w = true := by simpa using ready
    unfold automaticReady at all
    simp only [Bool.and_eq_true] at all
    exact all.1.1.1.2
  have approaches (apart : w.pressure.control < w.config.contactThresholdUnits) :
      (launch env now (beginCycle env now w)).2.state = .autoApproach := by
    have kept : (beginCycle env now w).config = w.config ∧ (beginCycle env now w).pressure = w.pressure := by
      unfold beginCycle
      dsimp only
      rw [if_pos auto]
      exact ⟨reset.config, pressure⟩
    have launched : launch env now (beginCycle env now w) = startApproach env .first now (beginCycle env now w) :=
      if_pos (by rw [kept.1, kept.2]; exact apart)
    rw [launched] at alive ⊢
    rcases startApproach_lands .first (beginCycle env now w) with approach | fault
    · exact approach
    · exact absurd fault alive
  refine ⟨(moving_or_holds runs).resolve_right moves, (carried.cycle alive moves).trans begun.1,
    (carried.contacted alive).trans begun.2.1, fun apart => carried.pending alive ?_, approaches, ready_⟩
  rw [begun.2.2, ← begun.2.1, ← carried.contacted alive, apart]
  rfl

theorem call_begins (e : Event F) (rests : isAutomatic w.state = false) (runs : isAutomatic (call env w e).state = true) :
    w.state = .idle ∧ (∃ units, e = .handleCommand ⟨.autoStart, units⟩ (instant e)) ∧ Moving (call env w e).state ∧
      (call env w e).cycleStartedMs = instant e ∧
      (call env w e).autoHasContacted = decide (w.config.contactThresholdUnits ≤ w.pressure.control) ∧
      ((call env w e).autoHasContacted = false → (call env w e).autoApproachPending = true) ∧
      (w.pressure.control < w.config.contactThresholdUnits → (call env w e).state = .autoApproach) ∧
      w.configValid = true := by
  by_cases fresh : Initializes e
  · cases e with
    | initializeContext config now =>
      exact absurd ((initializeContext_parked config w).symm.trans runs) Bool.noConfusion
    | _ => exact absurd fresh id
  obtain ⟨c, arrives, outcome⟩ := call_outcome env e fresh w
  have state : c.state = w.state := (Arrives.same arrives).1
  obtain ⟨idle, units, asked⟩ := begun_of_outcome outcome (state ▸ rests) runs
  refine ⟨state.symm.trans idle, ⟨units, asked⟩, ?_⟩
  generalize instant e = now at asked
  subst asked
  exact autoStart_begins auto (state.symm.trans idle) runs

end

theorem configureForcePi_config (c : PiConfig F) (w : System F Exec) :
    (configureForcePi env c w).2.config = w.config ∧ (configureForcePi env c w).2.configValid = w.configValid := by
  unfold configureForcePi
  split
  · exact ⟨rfl, rfl⟩
  split
  · exact ⟨rfl, rfl⟩
  split
  · exact ⟨rfl, rfl⟩
  split
  · exact ⟨rfl, rfl⟩
  split
  · exact ⟨rfl, rfl⟩
  · rename_i next initial
    have kept : Kept env { w with pi := { w.pi with config := effectivePi env w.config c, state := next, enabled := true } }
      (resetForcePi env { w with pi := { w.pi with
        config := effectivePi env w.config c, state := next, enabled := true } }) := resetForcePi_keeps _
    exact ⟨kept.config, kept.valid⟩

theorem handlePressureSample_config (p : Sample) (w : System F Exec) :
    (handlePressureSample env p now w).config = w.config ∧
      (handlePressureSample env p now w).configValid = w.configValid := by
  have both {u v : System F Exec} (kept : Kept env u v) (same : u.config = w.config ∧ u.configValid = w.configValid) :
      v.config = w.config ∧ v.configValid = w.configValid := ⟨kept.config.trans same.1, kept.valid.trans same.2⟩
  have stored : (store p w).config = w.config ∧ (store p w).configValid = w.configValid := ⟨rfl, rfl⟩
  have checked : (checkPressureSafety env now (store p w)).config = w.config ∧
      (checkPressureSafety env now (store p w)).configValid = w.configValid :=
    both (checkPressureSafety_kept env now (store p w)) stored
  have supervised : (supervise env p now (store p w)).2.config = w.config ∧
      (supervise env p now (store p w)).2.configValid = w.configValid := by
    unfold supervise
    split
    · dsimp only
      split
      · exact checked
      split
      · exact checked
      rcases observeForcePi_only env now (checkPressureSafety env now (store p w)) with ⟨unit, calculated⟩ | failed
      · rw [calculated]
        exact checked
      · rw [failed]
        exact both (enterFault_kept env now _ _ _).1 checked
    · exact stored
  unfold handlePressureSample
  split
  · exact both (pressureFault_kept _ _) stored
  split
  · split
    · exact both (pressureFault_kept _ w) ⟨rfl, rfl⟩
    · exact ⟨rfl, rfl⟩
  split
  · exact both (pressureFault_kept _ w) ⟨rfl, rfl⟩
  unfold acceptSample
  split
  · exact both (enterFault_kept env now _ _ _).1 stored
  generalize supervise env p now (store p w) = outcome at supervised ⊢
  obtain ⟨flag, v⟩ := outcome
  cases flag with
  | false => exact supervised
  | true => exact both ((trackPeak_same p v).carried.toKept.trans (actOn_kept p _)) supervised

theorem call_config (e : Event F) (ordinary : ¬ Initializes e) (w : System F Exec) :
    (call env w e).config = w.config ∧ (call env w e).configValid = w.configValid := by
  have both {v : System F Exec} (kept : Kept env w v) : v.config = w.config ∧ v.configValid = w.configValid :=
    ⟨kept.config, kept.valid⟩
  cases e with
  | initializeContext config now => exact absurd trivial ordinary
  | completeBoot checksPassed now => exact both (completeBoot_kept _ w)
  | configureForcePi config now => exact configureForcePi_config config w
  | handleCommand asked now => exact both (handleCommand_kept asked w)
  | handlePressureSample p now => exact handlePressureSample_config p w
  | checkPressureSafety now => exact both (checkPressureSafety_kept env now w)
  | handleMotorService now => exact both (handleMotorService_carried env now w).toKept
  | reportFault f detail now => exact both (reportFault_kept f detail w)
  | tick now => exact both (tick_kept w)
  | isPressureFresh now => exact ⟨rfl, rfl⟩
  | service now => exact ⟨rfl, rfl⟩
  | interrupt now => exact ⟨rfl, rfl⟩

/-! ### The deadline -/

def Ended (env : Platform F Exec) (w v : System F Exec) : Prop :=
  v.state = .fault ∧ v.exec = (env.executor.disable w.exec).2

theorem enterFault_ended (f : MachineFault) (detail : FaultDetail) (same : v.exec = w.exec) :
    Ended env w (enterFault env f detail now v) := by
  refine ⟨rfl, ?_⟩
  rw [enterFault_exec, same]

theorem checkPressureSafety_expired (moving : Moving w.state) (contacted : w.autoHasContacted = true)
    (expired : w.config.automaticCycleTimeoutMs ≤ now - w.cycleStartedMs) :
    Ended env w (checkPressureSafety env now w) := by
  have automatic := moving.automatic.1
  have over_ : cycleExpired env now w = true := by
    unfold cycleExpired
    rw [decide_eq_true moving.automatic.2.1, contacted, decide_eq_true expired, Bool.or_true]
    rfl
  cases fresh : isPressureFresh now w with
  | false =>
    rw [checkPressureSafety_stale env automatic fresh]
    exact enterFault_ended _ _ rfl
  | true =>
    rw [checkPressureSafety_cycle env automatic fresh over_]
    exact enterFault_ended _ _ rfl

def Repeats (p : Sample) (w : System F Exec) : Prop :=
  Valid p = true ∧ notLater p w = true ∧ ¬ p.sequence < w.pressure.sequence

theorem handlePressureSample_expired (enabled : w.pi.enabled = true) (moving : Moving w.state)
    (contacted : w.autoHasContacted = true) (expired : w.config.automaticCycleTimeoutMs ≤ now - w.cycleStartedMs)
    (new : ¬ Repeats p w) : Ended env w (handlePressureSample env p now w) := by
  have required (v : System F Exec) (state : v.state = w.state) : requiresPressureSafety env.policy v.state = true := by
    rw [state]
    exact requires_automatic moving.automatic.1
  unfold handlePressureSample
  split
  · unfold pressureFault
    rw [if_pos (required (store p w) rfl)]
    exact enterFault_ended _ _ rfl
  rename_i valid
  split
  · rename_i old
    split
    · unfold pressureFault
      rw [if_pos (required w rfl)]
      exact enterFault_ended _ _ rfl
    · rename_i same
      exact absurd ⟨by simpa using valid, old, same⟩ new
  split
  · unfold pressureFault
    rw [if_pos (required w rfl)]
    exact enterFault_ended _ _ rfl
  by_cases high : overLimit p (store p w) = true
  · unfold acceptSample
    rw [if_pos high]
    exact enterFault_ended _ _ rfl
  · have stored : Moving (store p w).state := moving
    have ended : Ended env (store p w) (checkPressureSafety env now (store p w)) :=
      checkPressureSafety_expired stored contacted expired
    rw [acceptSample_faulted (Bool.eq_false_iff.mpr high) enabled moving.automatic.1 ended.1]
    exact ended

/-! ### Before the first contact -/

def Plain (w v : System F Exec) : Prop := v.faultDetail = .cycleTimeout → w.faultDetail = .cycleTimeout

theorem enterFault_plain (f : MachineFault) {detail : FaultDetail} (v : System F Exec)
    (plain : reportedDetail f detail ≠ .cycleTimeout) : Plain w (enterFault env f detail now v) :=
  fun expired => absurd expired plain

theorem stopApproachOnContact_plain (w : System F Exec) : Plain w (stopApproachOnContact env now w) := by
  let served : System F Exec := { w with exec := (env.executor.service now w.exec).2 }
  have serviced : Carried env served (handleMotorService env now served) := handleMotorService_carried env now served
  have latched (x : System F Exec) : (latchContact x).faultDetail = x.faultDetail := by
    unfold latchContact
    split
    · rfl
    · rfl
  unfold stopApproachOnContact
  dsimp only
  split
  · exact enterFault_plain _ _ (by decide)
  intro expired
  rw [latched] at expired
  apply serviced.plain
  split at expired
  · exact (enterSettle_carried env now _).plain expired
  · exact expired

theorem checkPressureSafety_plain (auto : env.policy.isAutoTarget = true) (apart : w.autoHasContacted = false) :
    Plain w (checkPressureSafety env now w) := by
  have running : cycleExpired env now w = false := by
    unfold cycleExpired
    rw [auto, apart]
    simp
  unfold checkPressureSafety
  rw [running]
  split
  · exact id
  split
  · exact enterFault_plain _ _ (by decide)
  split
  · exact id
  rw [if_neg Bool.false_ne_true]
  split
  · rw [checkContact_fault rfl]
    exact enterFault_plain _ _ (by decide)
  unfold checkContact
  split
  · exact stopApproachOnContact_plain w
  · exact id

theorem actOn_plain (auto : env.policy.isAutoTarget = true) (p : Sample) (w : System F Exec) :
    Plain w (actOn env p now w) := by
  unfold actOn
  split
  · unfold contactApproach
    rw [if_pos auto]
    split
    · exact stopApproachOnContact_plain w
    · exact id
  split
  · unfold judgeSettled
    rw [if_pos auto]
    dsimp only
    have consumed : Same w (consumePressFeedback env w) := consumePressFeedback_same w
    have judged (y : System F Exec) (same : y.faultDetail = w.faultDetail) : Plain w (classifySettledSample env now y) := by
      intro expired
      exact same.symm.trans ((classifySettledSample_carried y).plain expired)
    split
    · exact judged _ consumed.detail
    · exact judged _ consumed.detail
  split
  · rcases @classifyHoldSample_cases _ _ env now w with carried | rests
    · exact carried.plain
    · rw [rests]
      exact (disableOrFault_carried env now w).plain
  · exact id

theorem handlePressureSample_plain (auto : env.policy.isAutoTarget = true) (apart : w.autoHasContacted = false)
    (p : Sample) : Plain w (handlePressureSample env p now w) := by
  have faulted (detail : FaultDetail) (v : System F Exec) (same : v.faultDetail = w.faultDetail)
      (plain : reportedDetail .pressureSensor detail ≠ .cycleTimeout) : Plain w (pressureFault env detail now v) := by
    unfold pressureFault
    split
    · exact enterFault_plain _ _ plain
    · exact fun expired => same.symm.trans expired
  have checked : Plain w (checkPressureSafety env now (store p w)) :=
    @checkPressureSafety_plain _ _ env (store p w) now auto apart
  have supervised : Plain w (supervise env p now (store p w)).2 := by
    unfold supervise
    split
    · dsimp only
      split
      · exact checked
      split
      · exact checked
      rcases observeForcePi_only env now (checkPressureSafety env now (store p w)) with ⟨unit, calculated⟩ | failed
      · rw [calculated]
        exact checked
      · rw [failed]
        exact enterFault_plain _ _ (by decide)
    · exact id
  unfold handlePressureSample
  split
  · exact faulted _ (store p w) rfl (by decide)
  split
  · split
    · exact faulted _ w rfl (by decide)
    · exact id
  split
  · exact faulted _ w rfl (by decide)
  unfold acceptSample
  split
  · exact enterFault_plain _ _ (by decide)
  generalize supervise env p now (store p w) = outcome at supervised ⊢
  obtain ⟨flag, v⟩ := outcome
  cases flag with
  | false => exact supervised
  | true =>
    intro expired
    have tracked : Same v (trackPeak env p now v) := trackPeak_same p v
    exact supervised (tracked.detail.symm.trans (actOn_plain auto p _ expired))

theorem plain_of_outcome {e : Event F} {c d : Core Exec} (outcome : Outcome env e now c d)
    (before : c.state ≠ .fault → c.faultDetail ≠ .cycleTimeout) (alive : d.state ≠ .fault) :
    d.faultDetail ≠ .cycleTimeout := by
  cases outcome with
  | kept x aside => exact before alive
  | faulted detail after x aside founded => exact absurd rfl alive
  | refused detail next x request may aside untaken plain => exact absurd rfl alive
  | started next x request may aside taken =>
    apply before
    rcases may with ⟨admits, -⟩ | ⟨-, idle, -⟩ | ⟨⟨p, -, judges | ⟨-, -, holding⟩⟩, -⟩
    · rw [admits.2.1]
      decide
    · rw [idle]
      decide
    · rw [judges.2.2.1]
      decide
    · rw [holding]
      decide
  | settled x aside running =>
    apply before
    rcases running with automatic | admits
    · intro fault
      rw [fault] at automatic
      cases automatic
    · rw [admits.2.1]
      decide
  | held p x sample judges aside =>
    apply before
    rw [judges.2.2.1]
    decide
  | rested x holding aside =>
    apply before
    rw [holding]
    decide
  | stopped units command =>
    apply before
    intro fault
    apply alive
    show stoppedState c.state = .fault
    rw [fault]
    rfl
  | booted boot => exact FaultDetail.noConfusion
  | completed direct off =>
    apply before
    intro fault
    rw [fault] at direct
    cases direct
  | opened ticks settling delayed expired =>
    apply before
    rw [settling]
    decide
  | configured idle => exact before alive
  | noted p sample invalid indifferent => exact before alive
  | spoiled p sample invalid => exact absurd rfl alive

/-! ### Every run -/

section
variable {past : History F Exec} {w : System F (Exec × List (StartCall × Bool))}

/-- AUTO_START has found no contact at the instant given, and there has been none since. -/
inductive Search (time : History F Exec → ℕ) : History F Exec → ℕ → Prop
  | begins (turn : Turn (System F (Exec × List (StartCall × Bool))) (Event F)) (past : History F Exec)
      (idle : turn.before.state = .idle) (approaches : turn.after.state = .autoApproach)
      (apart : turn.before.pressure.control < turn.before.config.contactThresholdUnits) :
      Search time (turn :: past) (time (turn :: past))
  | searches {past : History F Exec} {t : ℕ} (turn : Turn (System F (Exec × List (StartCall × Bool))) (Event F))
      (search : Search time past t) (moving : Moving turn.after.state)
      (apart : turn.after.autoHasContacted = false) : Search time (turn :: past) t

/-- The reference of the budget that runs: AUTO_START in contact, the receive time of the first contact after it, or
the sample that has left HOLD. -/
inductive Counts (time : History F Exec → ℕ) : History F Exec → U32 → Prop
  | begins (turn : Turn (System F (Exec × List (StartCall × Bool))) (Event F)) (past : History F Exec)
      (idle : turn.before.state = .idle) (moving : Moving turn.after.state)
      (touches : turn.before.config.contactThresholdUnits ≤ turn.before.pressure.control) :
      Counts time (turn :: past) (instant turn.event)
  | contacts {past : History F Exec} {t : ℕ} (turn : Turn (System F (Exec × List (StartCall × Bool))) (Event F))
      (search : Search time past t) (moving : Moving turn.after.state)
      (contacted : turn.after.autoHasContacted = true) : Counts time (turn :: past) turn.after.pressure.received
  | leaves (turn : Turn (System F (Exec × List (StartCall × Bool))) (Event F)) (past : History F Exec)
      (holding : turn.before.state = .autoHold) (moving : Moving turn.after.state) :
      Counts time (turn :: past) (instant turn.event)
  | runs {past : History F Exec} {c : U32} (turn : Turn (System F (Exec × List (StartCall × Bool))) (Event F))
      (budget : Counts time past c) (moving : Moving turn.after.state) : Counts time (turn :: past) c

def Short (time : History F Exec → ℕ) : History F Exec → Prop
  | [] => True
  | turn :: past => (∀ t, Search time past t → time (turn :: past) < t + 2 ^ 31) ∧ Short time past

theorem Search.le {time : History F Exec → ℕ} {t : ℕ} (search : Search time past t) (clocked : Clocked time past) :
    t ≤ time past := by
  induction search with
  | begins turn past idle approaches apart => exact le_rfl
  | searches turn search moving apart ih => exact (ih clocked.2.2).trans clocked.2.1

/-- The gate of a settle period opens after the search has begun. -/
theorem Search.opened {time : History F Exec → ℕ} {since gate : History F Exec} {t : ℕ} (opened : Opened env past since gate)
    (clocked : Clocked time past) (search : Search time past t) :
    t ≤ time gate ∧ time gate ≤ time past ∧ clock gate = stamp 32 (time gate) := by
  induction opened with
  | expires turn settling ticks expired quiet settles => exact ⟨search.le clocked, le_rfl, clocked.1⟩
  | waits turn opened quiet settles ih =>
    cases search with
    | begins _ _ idle approaches apart => exact absurd (settles.symm.trans approaches) (by decide)
    | searches _ search moving apart =>
      obtain ⟨before, within, reads⟩ := ih clocked.2.2 search
      exact ⟨before, within.trans clocked.2.1, reads⟩

structure Reckons (time : History F Exec → ℕ) (past : History F Exec)
    (w : System F (Exec × List (StartCall × Bool))) : Prop where
  pending : Moving w.state → w.autoHasContacted = false → w.autoApproachPending = true ∧ ∃ t, Search time past t
  runs : Moving w.state → w.autoHasContacted = true → ∃ c, Counts time past c
  search (t : ℕ) : Search time past t →
    Moving w.state ∧ w.autoHasContacted = false ∧ w.cycleStartedMs = stamp 32 t
  budget (c : U32) : Counts time past c → Moving w.state ∧ w.autoHasContacted = true ∧ w.cycleStartedMs = c
  hold : w.state = .autoHold → w.autoHasContacted = true

structure Configured (env : Platform F Exec) (w : System F (Exec × List (StartCall × Bool))) : Prop where
  valid : w.configValid = true → configIsValid env.policy w.config = true
  running : isAutomatic w.state = true → w.configValid = true

theorem configured_of_reachable (auto : env.policy.isAutoTarget = true) (reachable : Reachable env.logged past w) :
    Configured env w := by
  have begins (w₀ : System F (Exec × List (StartCall × Bool))) (config : Option MachineConfig) (now : U32) :
      Configured env (initializeContext env.logged config now w₀) := by
    constructor
    · unfold initializeContext
      dsimp only
      cases config with
      | none => split <;> exact fun valid => Bool.noConfusion valid
      | some c => split <;> exact id
    · intro running
      exact absurd ((initializeContext_parked config w₀).symm.trans running) Bool.noConfusion
  refine recorded_invariant (fun _ w => Configured env w) ?_ ?_ reachable
  · rintro w ⟨w₀, config, now, rfl⟩
    exact begins w₀ config now
  · intro past w e _ _ before
    by_cases fresh : Initializes e
    · cases e with
      | initializeContext config now => exact begins w config now
      | _ => exact absurd fresh id
    obtain ⟨config, valid⟩ := @call_config _ _ env.logged e fresh w
    constructor
    · intro holds
      rw [config]
      exact before.valid (valid.symm.trans holds)
    · intro runs
      rw [valid]
      by_cases running : isAutomatic w.state = true
      · exact before.running running
      · exact (@call_begins _ _ env.logged w auto e (Bool.eq_false_iff.mpr running) runs).2.2.2.2.2.2.2

/-- The freshness limit of a valid configuration is far below half the range. -/
theorem Configured.fresh (auto : env.policy.isAutoTarget = true) (configured : Configured env w)
    (running : isAutomatic w.state = true) : w.config.pressureFreshnessMs.toNat < 2 ^ 31 := by
  have valid := configured.valid (configured.running running)
  unfold Context.configIsValid withinAutoTarget at valid
  simp only [auto, Bool.not_true, Bool.false_or, Bool.and_eq_true, decide_eq_true_eq] at valid
  have most : w.config.pressureFreshnessMs ≤ autoTargetConfig.pressureFreshnessMs := by tauto
  have bound : autoTargetConfig.pressureFreshnessMs.toNat < 2 ^ 31 := by decide
  exact lt_of_le_of_lt most bound

/-- A judged sample of a short search was received after the search began. -/
theorem timely_of_search {time : History F Exec → ℕ} {t : ℕ} {now : U32} {p : Sample}
    (turn : Turn (System F (Exec × List (StartCall × Bool))) (Event F))
    (gate : Gate env past (core w)) (auto : env.policy.isAutoTarget = true) (configured : Configured env w)
    (clocked : Clocked time (turn :: past)) (at_ : instant turn.event = now) (search : Search time past t)
    (short : time (turn :: past) < t + 2 ^ 31) (settling : w.state = .autoSettle) (waiting : w.settlePhase = .waitSample)
    (after : After p.received w.settleFeedbackAfterMs) (fresh : isPressureFresh now (store p w) = true) :
    now - p.received ≤ now - stamp 32 t := by
  obtain ⟨since, open_, opened, -, feedback⟩ := gate.sample settling waiting
  have opens : w.settleFeedbackAfterMs = clock open_ := feedback auto
  obtain ⟨begun, within, reads⟩ := search.opened opened clocked.2.2
  have limit := configured.fresh auto (by rw [settling]; rfl)
  have young : now - p.received ≤ w.config.pressureFreshnessMs := by
    unfold isPressureFresh at fresh
    simp only [Bool.and_eq_true, decide_eq_true_eq] at fresh
    exact fresh.2
  have reading : now = stamp 32 (time (turn :: past)) := at_.symm.trans clocked.1
  have forwards : time open_ ≤ time (turn :: past) := within.trans clocked.2.1
  rw [opens, reads] at after
  rw [reading] at young ⊢
  -- The ages of the sample and of the gate differ by what `After` bounds, without a wrap.
  have age : (stamp 32 (time (turn :: past)) - stamp 32 (time open_)).toNat = time (turn :: past) - time open_ :=
    stamp_sub_toNat forwards (by omega)
  have whole : (stamp 32 (time (turn :: past)) - stamp 32 t).toNat = time (turn :: past) - t :=
    stamp_sub_toNat (begun.trans forwards) (by omega)
  have split : stamp 32 (time (turn :: past)) - stamp 32 (time open_) =
      stamp 32 (time (turn :: past)) - p.received + (p.received - stamp 32 (time open_)) := by
    rw [sub_add_sub_cancel]
  have small : (stamp 32 (time (turn :: past)) - p.received).toNat < 2 ^ 31 := lt_of_le_of_lt young limit
  have later := after.2
  rw [split, BitVec.toNat_add] at age
  rw [BitVec.le_def, whole]
  omega

theorem Reckons.moved {time : History F Exec → ℕ} (reckons : Reckons time past w) (e : Event F) (auto : env.policy.isAutoTarget = true)
    (gate : Gate env past (core w)) (configured : Configured env w)
    (clocked : Clocked time (⟨w, e, call env.logged w e⟩ :: past)) (short : Short time (⟨w, e, call env.logged w e⟩ :: past))
    (moving : Moving w.state) :
    isAutomatic (call env.logged w e).state = false ∨ Turned (instant e) w (call env.logged w e) ∧
      ((call env.logged w e).state = .autoHold → (call env.logged w e).autoHasContacted = true) := by
  have enabled : w.pi.enabled = true := gate.strategy auto moving.automatic.1
  apply @call_turned _ _ env.logged w auto e enabled moving (fun apart => (reckons.pending moving apart).1)
  intro p now asked apart settling waiting after fresh
  obtain ⟨-, t, search⟩ := reckons.pending moving apart
  rw [(reckons.search t search).2.2]
  have at_ : instant e = now := by
    rw [asked]
    rfl
  exact timely_of_search ⟨w, e, call env.logged w e⟩ gate auto configured clocked at_ search (short.1 t search) settling
    waiting after fresh

theorem Reckons.turn {time : History F Exec → ℕ} (reckons : Reckons time past w) (e : Event F)
    (auto : env.policy.isAutoTarget = true) (gate : Gate env past (core w)) (configured : Configured env w)
    (clocked : Clocked time (⟨w, e, call env.logged w e⟩ :: past))
    (short : Short time (⟨w, e, call env.logged w e⟩ :: past)) :
    Reckons time (⟨w, e, call env.logged w e⟩ :: past) (call env.logged w e) := by
  have moved := reckons.moved e auto gate configured clocked short
  have held (holding : w.state = .autoHold) :=
    @call_holding _ _ env.logged w auto e (gate.strategy auto (by show isAutomatic w.state = true; rw [holding]; rfl))
      holding (reckons.hold holding)
  have begun := @call_begins _ _ env.logged w auto e
  generalize call env.logged w e = v at *
  have turned (moves : Moving v.state) (moving : Moving w.state) :
      Fixed w v ∨ Latched (instant e) w v := by
    rcases moved moving with rests | ⟨lost | fixed | latched, -⟩
    · exact absurd (rests.symm.trans moves.automatic.1) Bool.noConfusion
    · exact absurd lost moves.automatic.2.2
    · exact .inl fixed
    · exact .inr latched
  have leaves (moves : Moving v.state) (holding : w.state = .autoHold) :
      v.autoHasContacted = true ∧ v.cycleStartedMs = instant e := by
    rcases held holding with rests | ⟨contacted, stays | ⟨restarts, -⟩⟩
    · exact absurd (rests.symm.trans moves.automatic.1) Bool.noConfusion
    · exact absurd stays moves.automatic.2.1
    · exact ⟨contacted, restarts⟩
  have starts (moves : Moving v.state) (rests : isAutomatic w.state = false) := begun rests moves.automatic.1
  have parked (idle : w.state = .idle) : isAutomatic w.state = false := by
    rw [idle]
    rfl
  constructor
  · intro moves apart
    by_cases moving : Moving w.state
    · rcases turned moves moving with fixed | latched
      · obtain ⟨pending, t, search⟩ := reckons.pending moving (fixed.contacted.symm.trans apart)
        exact ⟨fixed.pending apart pending, t, .searches _ search moves apart⟩
      · exact absurd (latched.contacted.symm.trans apart) Bool.noConfusion
    by_cases holding : w.state = .autoHold
    · exact absurd ((leaves moves holding).1.symm.trans apart) Bool.noConfusion
    · have rests : isAutomatic w.state = false :=
        Bool.eq_false_iff.mpr fun running => (moving_or_holds running).elim moving holding
      obtain ⟨idle, -, -, -, contacted, pending, approaches, -⟩ := starts moves rests
      have low := of_decide_eq_false (contacted.symm.trans apart)
      exact ⟨pending apart, _, .begins _ _ idle (approaches (not_le.mp low)) (not_le.mp low)⟩
  · intro moves contacted
    by_cases moving : Moving w.state
    · cases before : w.autoHasContacted with
      | true =>
        obtain ⟨c, counts⟩ := reckons.runs moving before
        exact ⟨c, .runs _ counts moves⟩
      | false =>
        obtain ⟨-, t, search⟩ := reckons.pending moving before
        exact ⟨_, .contacts _ search moves contacted⟩
    by_cases holding : w.state = .autoHold
    · exact ⟨_, .leaves _ _ holding moves⟩
    · have rests : isAutomatic w.state = false :=
        Bool.eq_false_iff.mpr fun running => (moving_or_holds running).elim moving holding
      obtain ⟨idle, -, -, -, touches, -⟩ := starts moves rests
      exact ⟨_, .begins _ _ idle moves (of_decide_eq_true (touches.symm.trans contacted))⟩
  · intro t search
    cases search with
    | begins _ _ idle approaches apart =>
      have moves : Moving v.state := .inl approaches
      obtain ⟨-, -, -, cycle, contacted, -⟩ := starts moves (parked idle)
      exact ⟨moves, contacted.trans (decide_eq_false (not_le.mpr apart)), cycle.trans clocked.1⟩
    | searches _ search moves apart =>
      obtain ⟨moving, before, cycle⟩ := reckons.search t search
      rcases turned moves moving with fixed | latched
      · exact ⟨moves, apart, (fixed.cycle moves.automatic.2.1).trans cycle⟩
      · exact absurd (latched.contacted.symm.trans apart) Bool.noConfusion
  · intro c counts
    cases counts with
    | begins _ _ idle moves touches =>
      obtain ⟨-, -, -, cycle, contacted, -⟩ := starts moves (parked idle)
      exact ⟨moves, contacted.trans (decide_eq_true touches), cycle⟩
    | contacts _ search moves contacted =>
      obtain ⟨moving, before, -⟩ := reckons.search _ search
      rcases turned moves moving with fixed | latched
      · exact absurd (contacted.symm.trans (fixed.contacted.trans before)) Bool.noConfusion
      · exact ⟨moves, contacted, latched.cycle moves.automatic.2.1⟩
    | leaves _ _ holding moves =>
      obtain ⟨contacted, restarts⟩ := leaves moves holding
      exact ⟨moves, contacted, restarts⟩
    | runs _ counts moves =>
      obtain ⟨moving, before, cycle⟩ := reckons.budget c counts
      rcases turned moves moving with fixed | latched
      · exact ⟨moves, fixed.contacted.trans before, (fixed.cycle moves.automatic.2.1).trans cycle⟩
      · exact absurd (before.symm.trans latched.apart) Bool.noConfusion
  · intro holds
    have running : isAutomatic v.state = true := by
      rw [holds]
      rfl
    by_cases moving : Moving w.state
    · rcases moved moving with rests | ⟨-, contacted⟩
      · exact absurd (rests.symm.trans running) Bool.noConfusion
      · exact contacted holds
    by_cases holding : w.state = .autoHold
    · rcases held holding with rests | ⟨contacted, -⟩
      · exact absurd (rests.symm.trans running) Bool.noConfusion
      · exact contacted
    · have rests : isAutomatic w.state = false :=
        Bool.eq_false_iff.mpr fun running => (moving_or_holds running).elim moving holding
      exact absurd holds (begun rests running).2.2.1.automatic.2.1

theorem reckons_of_reachable {time : History F Exec → ℕ} (auto : env.policy.isAutoTarget = true)
    (sound : env.executor.Sound) (reachable : Reachable env.logged past w) (clocked : Clocked time past)
    (short : Short time past) : Reckons time past w := by
  revert clocked short
  refine recorded_invariant (fun past w => Clocked time past → Short time past → Reckons time past w) ?_ ?_ reachable
  · rintro w ⟨w₀, config, now, rfl⟩ - -
    have rests : isAutomatic (initializeContext env.logged config now w₀).state = false :=
      initializeContext_parked config w₀
    have never (state : isAutomatic (initializeContext env.logged config now w₀).state = true) : False :=
      absurd (rests.symm.trans state) Bool.noConfusion
    constructor
    · exact fun moving => (never moving.automatic.1).elim
    · exact fun moving => (never moving.automatic.1).elim
    · exact fun t search => nomatch search
    · exact fun c counts => nomatch counts
    · intro holding
      exact (never (by rw [holding]; rfl)).elim
  · intro past w e recorded _ before clocked short
    exact (before clocked.2.2 short.2).turn e auto (gate_of_reachable sound recorded)
      (configured_of_reachable auto recorded) clocked short

theorem plain_of_reachable (reachable : Reachable env.logged past w) (alive : w.state ≠ .fault) :
    w.faultDetail ≠ .cycleTimeout := by
  have begins (w₀ : System F (Exec × List (StartCall × Bool))) (config : Option MachineConfig) (now : U32) :
      (initializeContext env.logged config now w₀).faultDetail ≠ .cycleTimeout := by
    unfold initializeContext
    dsimp only
    split
    · exact FaultDetail.noConfusion
    · exact FaultDetail.noConfusion
  revert alive
  refine recorded_invariant (fun _ w => w.state ≠ .fault → w.faultDetail ≠ .cycleTimeout) ?_ ?_ reachable
  · rintro w ⟨w₀, config, now, rfl⟩ -
    exact begins w₀ config now
  · intro past w e _ _ before alive
    by_cases fresh : Initializes e
    · cases e with
      | initializeContext config now => exact begins w config now
      | _ => exact absurd fresh id
    obtain ⟨c, arrives, outcome⟩ := call_outcome env.logged e fresh w
    have detail : c.faultDetail = w.faultDetail := by
      cases e with
      | handlePressureSample p now =>
        rcases arrives with rfl | ⟨-, -, -, rfl⟩
        · rfl
        · rfl
      | _ =>
        cases arrives
        rfl
    have sound : c.state ≠ .fault → c.faultDetail ≠ .cycleTimeout := by
      rw [(Arrives.same arrives).1, detail]
      exact before
    exact plain_of_outcome outcome sound alive

/-- What the search for contact, its end, and the budget come to. -/
structure Budgeted (env : Platform F Exec) (time : History F Exec → ℕ) (past : History F Exec)
    (w : System F (Exec × List (StartCall × Bool))) : Prop where
  /-- A run is searching, or its budget counts. -/
  either : Moving w.state → (∃ t, Search time past t) ∨ ∃ c, Counts time past c
  search (t : ℕ) : Search time past t → Moving w.state ∧ w.autoHasContacted = false
  /-- The budget never moves. -/
  fixed (c : U32) : Counts time past c → Moving w.state ∧ w.autoHasContacted = true ∧ w.cycleStartedMs = c
  /-- Used up, it ends the run at the next check, with the output disabled and no new request. -/
  check (c : U32) (now : U32) : Counts time past c → w.config.automaticCycleTimeoutMs ≤ now - c →
    (checkPressureSafety env.logged now w).state = .fault ∧
      env.executor.Idle (checkPressureSafety env.logged now w).exec.1 ∧
      (checkPressureSafety env.logged now w).exec.2 = w.exec.2
  sample (c : U32) (p : Sample) (now : U32) : Counts time past c → w.config.automaticCycleTimeoutMs ≤ now - c →
    ¬ Repeats p w → (handlePressureSample env.logged p now w).state = .fault ∧
      env.executor.Idle (handlePressureSample env.logged p now w).exec.1 ∧
      (handlePressureSample env.logged p now w).exec.2 = w.exec.2
  /-- Before the first contact there is no cycle timeout. -/
  silent (t : ℕ) (now : U32) : Search time past t →
    (checkPressureSafety env.logged now w).faultDetail ≠ .cycleTimeout ∧
      ∀ p, (handlePressureSample env.logged p now w).faultDetail ≠ .cycleTimeout

/-- In every run of AutoTarget whose searches are short, the budget counts from the first contact or from the sample
that leaves HOLD, nothing moves it, and what it limits ends once it is used up. The first contact is a stored sample in
contact that was received during the search, and only a sample leaves HOLD. -/
theorem convergence_budget {env : Platform F Exec} (auto : env.policy.isAutoTarget = true) (sound : env.executor.Sound)
    {past : History F Exec} {w : System F (Exec × List (StartCall × Bool))} (reachable : Reachable env.logged past w)
    (time : History F Exec → ℕ) (clocked : Clocked time past) (short : Short time past) :
    Budgeted env time past w ∧
      (∀ later turn earlier t, past = later ++ turn :: earlier → Search time earlier t → Moving turn.after.state →
        turn.after.autoHasContacted = true →
        turn.before.config.contactThresholdUnits ≤ turn.after.pressure.control ∧
          ∃ r, turn.after.pressure.received = stamp 32 r ∧ t ≤ r ∧ r ≤ time (turn :: earlier)) ∧
      ∀ later turn earlier, past = later ++ turn :: earlier → turn.before.state = .autoHold → Moving turn.after.state →
        ∃ p now, turn.event = .handlePressureSample p now ∧ turn.after.cycleStartedMs = now := by
  have ended {v : System F (Exec × List (StartCall × Bool))} (ends : Ended env.logged w v) :
      v.state = .fault ∧ env.executor.Idle v.exec.1 ∧ v.exec.2 = w.exec.2 := by
    refine ⟨ends.1, ?_, ?_⟩
    · rw [ends.2]
      exact sound.disable_idle w.exec.1
    · rw [ends.2]
      rfl
  have cut {later earlier : History F Exec} (h : Clocked time (later ++ earlier)) (g : Short time (later ++ earlier)) :
      Clocked time earlier ∧ Short time earlier := by
    induction later with
    | nil => exact ⟨h, g⟩
    | cons turn later ih => exact ih h.2.2 g.2
  have reckons := reckons_of_reachable auto sound reachable clocked short
  have gate := gate_of_reachable sound reachable
  refine ⟨?_, ?_, ?_⟩
  · constructor
    · intro moving
      cases contacted : w.autoHasContacted with
      | true => exact .inr (reckons.runs moving contacted)
      | false => exact .inl (reckons.pending moving contacted).2
    · intro t search
      obtain ⟨moving, apart, -⟩ := reckons.search t search
      exact ⟨moving, apart⟩
    · exact reckons.budget
    · intro c now counts expired
      obtain ⟨moving, contacted, cycle⟩ := reckons.budget c counts
      exact ended (checkPressureSafety_expired moving contacted (cycle ▸ expired))
    · intro c p now counts expired new
      obtain ⟨moving, contacted, cycle⟩ := reckons.budget c counts
      exact ended (handlePressureSample_expired (gate.strategy auto moving.automatic.1) moving contacted
        (cycle ▸ expired) new)
    · intro t now search
      obtain ⟨moving, apart, -⟩ := reckons.search t search
      have plain := plain_of_reachable reachable moving.automatic.2.2
      exact ⟨fun expired => plain (@checkPressureSafety_plain _ _ env.logged w now auto apart expired),
        fun p expired => plain (@handlePressureSample_plain _ _ env.logged w now auto apart p expired)⟩
  · rintro later ⟨before, e, after⟩ earlier t rfl search moves contacted
    obtain ⟨run, same, -⟩ := reachable.at_turn
    obtain ⟨clocked, short⟩ := cut clocked short
    dsimp only at same run moves contacted ⊢
    subst same
    have reckons := reckons_of_reachable auto sound run clocked.2.2 short.2
    obtain ⟨moving, apart, cycle⟩ := reckons.search t search
    rcases reckons.moved e auto (gate_of_reachable sound run) (configured_of_reachable auto run) clocked short moving with
      rests | ⟨lost | fixed | latched, -⟩
    · exact absurd (rests.symm.trans moves.automatic.1) Bool.noConfusion
    · exact absurd lost moves.automatic.2.2
    · exact absurd (contacted.symm.trans (fixed.contacted.trans apart)) Bool.noConfusion
    · obtain ⟨touches, recent, -⟩ := latched.current
      refine ⟨touches, ?_⟩
      have reads : instant e = stamp 32 (time (⟨before, e, call env.logged before e⟩ :: earlier)) := clocked.1
      have begun := (search.le clocked.2.2).trans clocked.2.1
      have limit := short.1 t search
      generalize time (⟨before, e, call env.logged before e⟩ :: earlier) = T at reads begun limit
      generalize (call env.logged before e).pressure.received = received at recent
      rw [reads, cycle, BitVec.le_def, stamp_sub_toNat begun (by omega)] at recent
      refine ⟨T - (stamp 32 T - received).toNat, ?_, by omega, by omega⟩
      have back : stamp 32 (T - (stamp 32 T - received).toNat) + (stamp 32 T - received) = stamp 32 T := by
        apply BitVec.eq_of_toNat_eq
        rw [BitVec.toNat_add, stamp_toNat, stamp_toNat]
        omega
      rw [eq_sub_of_add_eq back, sub_sub_cancel]
  · rintro later ⟨before, e, after⟩ earlier rfl holding moves
    obtain ⟨run, same, -⟩ := reachable.at_turn
    obtain ⟨clocked, short⟩ := cut clocked short
    dsimp only at same run moves holding ⊢
    subst same
    have reckons := reckons_of_reachable auto sound run clocked.2.2 short.2
    have enabled : before.pi.enabled = true :=
      (gate_of_reachable sound run).strategy auto (by show isAutomatic before.state = true; rw [holding]; rfl)
    rcases @call_holding _ _ env.logged before auto e enabled holding (reckons.hold holding) with
      rests | ⟨-, stays | ⟨restarts, p, asked⟩⟩
    · exact absurd (rests.symm.trans moves.automatic.1) Bool.noConfusion
    · exact absurd stays moves.automatic.2.1
    · exact ⟨p, instant e, asked, restarts⟩

end

instance decidableClocked (time : History F Exec → ℕ) : (past : History F Exec) → Decidable (Clocked time past)
  | [] => isTrue trivial
  | turn :: past =>
    have := decidableClocked time past
    inferInstanceAs (Decidable (instant turn.event = stamp 32 (time (turn :: past)) ∧
      time past ≤ time (turn :: past) ∧ Clocked time past))

theorem short_of_small {time : History F Exec → ℕ} (small : ∀ past, time past < 2 ^ 31) :
    ∀ past, Short time past
  | [] => trivial
  | _ :: past => ⟨fun _ _ => lt_of_lt_of_le (small _) (Nat.le_add_left _ _), short_of_small small past⟩

def benchTime : History ℚ Motor.Locked.State → ℕ
  | [] => 0
  | turn :: _ => min (instant turn.event).toNat 1000

theorem benchTime_small (past : History ℚ Motor.Locked.State) : benchTime past < 2 ^ 31 := by
  cases past with
  | nil => decide
  | cons turn past => exact lt_of_le_of_lt (min_le_right _ _) (by decide)

theorem convergence_budget_bench :
    (Moving waiting.state ∧ waiting.cycleStartedMs = 2) ∧
    Budgeted autoTargetBench benchTime (playFrom autoTargetBench autoTargetConfig correctionRun).1 waiting ∧
      (∀ later turn earlier t, (playFrom autoTargetBench autoTargetConfig correctionRun).1 = later ++ turn :: earlier →
        Search benchTime earlier t → Moving turn.after.state → turn.after.autoHasContacted = true →
        turn.before.config.contactThresholdUnits ≤ turn.after.pressure.control ∧
          ∃ r, turn.after.pressure.received = stamp 32 r ∧ t ≤ r ∧ r ≤ benchTime (turn :: earlier)) ∧
      ∀ later turn earlier, (playFrom autoTargetBench autoTargetConfig correctionRun).1 = later ++ turn :: earlier →
        turn.before.state = .autoHold → Moving turn.after.state →
          ∃ p now, turn.event = .handlePressureSample p now ∧ turn.after.cycleStartedMs = now := by
  have settled_ : waiting.state = .autoSettle := by decide +kernel
  have started : waiting.cycleStartedMs = 2 := by decide +kernel
  have clocked : Clocked benchTime (playFrom autoTargetBench autoTargetConfig correctionRun).1 := by decide +kernel
  exact ⟨⟨.inr (.inl settled_), started⟩, convergence_budget rfl Motor.Locked.pulses_sound
    (reachable_playFrom autoTargetBench autoTargetConfig correctionRun) benchTime clocked (short_of_small benchTime_small _)⟩

end Sd700.Machine.Budget
