import Sd700.Logic.Modular
import Sd700.Machine.Handlers

/-! What a call can do. The part of the context that decides on output and authority changes in one of
a few ways, each with the guard under which the code takes it. -/

namespace Sd700.Machine.Outcomes
open Logic.Modular Build.Contract Motor.Interface Motor.Pulses ForcePi Context Motion Handlers
open Servo.State (MachineFault FaultDetail CommandType CommandResult Command Sample)

variable {F Exec : Type}

structure Core (Exec : Type) where
  state : MachineState
  faultDetail : FaultDetail
  settlePhase : SettlePhase
  settleGateSequence : U64
  settleFeedbackAfterMs : U32
  stateEnteredMs : U32
  motorRequestSequence : U32
  config : MachineConfig
  pressure : Sample
  piEnabled : Bool
  exec : Exec

def core (w : System F Exec) : Core Exec :=
  ⟨w.state, w.faultDetail, w.settlePhase, w.settleGateSequence, w.settleFeedbackAfterMs, w.stateEnteredMs,
    w.motorRequestSequence, w.config, w.pressure, w.pi.enabled, w.exec⟩

variable (env : Platform F Exec)

/-- The context of a fault: the executor, in whatever state `x` it was, has been disabled. -/
def faulted (detail : FaultDetail) (now after : U32) (x : Exec) (c : Core Exec) : Core Exec :=
  { c with state := .fault, faultDetail := detail, settlePhase := .waitDelay, settleGateSequence := 0
           settleFeedbackAfterMs := after, stateEnteredMs := now, motorRequestSequence := 0
           exec := (env.executor.disable x).2 }

def settled (now : U32) (x : Exec) (c : Core Exec) : Core Exec :=
  { c with state := .autoSettle, settlePhase := .waitDelay, settleGateSequence := c.pressure.sequence
           settleFeedbackAfterMs := now + c.config.settleDelayMs, stateEnteredMs := now
           motorRequestSequence := 0, exec := (env.executor.disable x).2 }

def requested (now : U32) (next : MachineState) (x : Exec) (c : Core Exec) : Core Exec :=
  { c with state := next, stateEnteredMs := now
           motorRequestSequence := (env.executor.snapshot x).requestSequence, exec := x }

/-- A fresh sample, as `Machine_IsPressureFresh` sees it. -/
def Fresh (now : U32) (c : Core Exec) : Prop :=
  Valid c.pressure = true ∧ now - c.pressure.received ≤ c.config.pressureFreshnessMs

def Judges (p : Sample) (c : Core Exec) : Prop :=
  c.pressure = p ∧ Valid p = true ∧ c.state = .autoSettle ∧ c.settlePhase = .waitSample ∧
    c.settleGateSequence < p.sequence ∧
    (env.policy.isAutoTarget = true → c.piEnabled = true → After p.received c.settleFeedbackAfterMs)

def Admits (e : Event F) (now : U32) (c : Core Exec) : Prop :=
  (∃ units, e = .handleCommand ⟨.autoStart, units⟩ now) ∧ c.state = .idle ∧ Fresh now c ∧
    env.policy.automaticCommands = true ∧ (env.policy.isAutoTarget = true → c.piEnabled = true)

def AdmitsDirect (e : Event F) (now : U32) (next : MachineState) (c : Core Exec) : Prop :=
  (∃ units, e = .handleCommand ⟨.directPressPulse, units⟩ now ∧ next = .directPressPulse ∨
      e = .handleCommand ⟨.directReleasePulse, units⟩ now ∧ next = .directReleasePulse) ∧
    c.state = .idle ∧ env.policy.directCommands = true ∧
    (env.policy.directPressureRequired = true → Fresh now c)

def Answers (e : Event F) (now : U32) (c : Core Exec) : Prop :=
  ∃ p, e = .handlePressureSample p now ∧
    (Judges env p c ∨ c.pressure = p ∧ Valid p = true ∧ c.state = .autoHold)

def MayStart (e : Event F) (now : U32) (next : MachineState) (c : Core Exec) : Prop :=
  Admits env e now c ∧ next = .autoApproach ∨ AdmitsDirect env e now next c ∨
    Answers env e now c ∧ (next = .autoApproach ∨ next = .autoPulse)

/-- A pressure timeout is only recorded of a stored sample that is not fresh, or when it is reported. -/
def Founded (e : Event F) (now : U32) (c : Core Exec) (detail : FaultDetail) : Prop :=
  detail = .pressureTimeout → ¬ Fresh now c ∨ ∃ f d, e = .reportFault f d now

/-- One change of the deciding part, in the call `e` at `now`. -/
inductive Outcome (e : Event F) (now : U32) : Core Exec → Core Exec → Prop
  | kept (c : Core Exec) (x : Exec) (aside : env.executor.Aside c.exec x) : Outcome e now c { c with exec := x }
  | faulted (c : Core Exec) (detail : FaultDetail) (after : U32) (x : Exec)
      (aside : env.executor.Aside c.exec x) (founded : Founded e now c detail) :
      Outcome e now c (faulted env detail now after x c)
  /-- A start the executor does not take ends in a fault. -/
  | refused (c : Core Exec) (detail : FaultDetail) (next : MachineState) (x : Exec) (request : StartCall)
      (may : MayStart env e now next c) (aside : env.executor.Aside c.exec x)
      (untaken : env.executor.took request x = false) (plain : detail ≠ .pressureTimeout) :
      Outcome e now c (Outcomes.faulted env detail now c.settleFeedbackAfterMs (env.executor.start request x).2 c)
  | started (c : Core Exec) (next : MachineState) (x : Exec) (request : StartCall)
      (may : MayStart env e now next c) (aside : env.executor.Aside c.exec x)
      (taken : env.executor.took request x = true) :
      Outcome e now c (requested env now next (env.executor.start request x).2 c)
  | settled (c : Core Exec) (x : Exec) (aside : env.executor.Aside c.exec x)
      (running : isAutomatic c.state = true ∨ Admits env e now c) : Outcome e now c (settled env now x c)
  | held (c : Core Exec) (p : Sample) (x : Exec) (sample : e = .handlePressureSample p now)
      (judges : Judges env p c) (aside : env.executor.Aside c.exec x) :
      Outcome e now c { c with state := .autoHold, stateEnteredMs := now, motorRequestSequence := 0
                               exec := (env.executor.disable x).2 }
  | rested (c : Core Exec) (x : Exec) (holding : c.state = .autoHold) (aside : env.executor.Aside c.exec x) :
      Outcome e now c { c with motorRequestSequence := 0, exec := (env.executor.disable x).2 }
  | stopped (c : Core Exec) (units : ℤ) (command : e = .handleCommand ⟨.stop, units⟩ now) :
      Outcome e now c { c with
        state := stoppedState c.state, settlePhase := .waitDelay, settleGateSequence := 0
        stateEnteredMs := now, motorRequestSequence := 0, exec := (env.executor.disable c.exec).2 }
  | booted (c : Core Exec) (boot : c.state = .bootSafe) :
      Outcome e now c { c with state := .idle, faultDetail := .none, stateEnteredMs := now
                               motorRequestSequence := 0, exec := (env.executor.disable c.exec).2 }
  | completed (c : Core Exec) (direct : isDirectPulse c.state = true) (off : env.executor.Idle c.exec) :
      Outcome e now c { c with state := .idle, stateEnteredMs := now, motorRequestSequence := 0 }
  | opened (c : Core Exec) (ticks : e = .tick now) (settling : c.state = .autoSettle)
      (delayed : c.settlePhase = .waitDelay) (expired : c.config.settleDelayMs ≤ now - c.stateEnteredMs) :
      Outcome e now c { c with
        settleGateSequence := c.pressure.sequence, settlePhase := .waitSample, stateEnteredMs := now
        settleFeedbackAfterMs := if env.policy.isAutoTarget then now else c.settleFeedbackAfterMs }
  | configured (c : Core Exec) (idle : c.state = .idle) : Outcome e now c { c with piEnabled := true }
  /-- An invalid sample is kept, and faults every state that depends on the sensor. -/
  | noted (c : Core Exec) (p : Sample) (sample : e = .handlePressureSample p now) (invalid : Valid p = false)
      (indifferent : requiresPressureSafety env.policy c.state = false) :
      Outcome e now c { c with pressure := p }
  | spoiled (c : Core Exec) (p : Sample) (sample : e = .handlePressureSample p now) (invalid : Valid p = false) :
      Outcome e now c { Outcomes.faulted env .pressureInvalid now c.settleFeedbackAfterMs c.exec c with pressure := p }

/-- The deciding part is still the one of `c`; the executor has at most been attended to. -/
structure Still (c : Core Exec) (w : System F Exec) : Prop where
  aside : env.executor.Aside c.exec w.exec
  same : core w = { c with exec := w.exec }

/-- A check starts nothing: it faults, starts the settle delay, or leaves everything as it was. -/
inductive Checked (e : Event F) (now : U32) (c : Core Exec) (w : System F Exec) : Prop
  | faulted (outcome : Outcome env e now c (core w)) (state : w.state = .fault)
  | settled (x : Exec) (aside : env.executor.Aside c.exec x)
      (running : isAutomatic c.state = true ∨ Admits env e now c) (same : core w = settled env now x c)
  | still (still : Still env c w)

variable {env} {e : Event F} {now : U32} {c : Core Exec} {w : System F Exec}

/-! ### Changes outside the deciding part -/

variable (env) in
@[simp] theorem core_resetPressFeedback (w : System F Exec) : core (resetPressFeedback env w) = core w := by
  unfold resetPressFeedback
  split
  · rfl
  · rfl

variable (env) in
@[simp] theorem core_recordPressEnd (w : System F Exec) : core (recordPressEnd env w) = core w := by
  unfold recordPressEnd
  split
  · rfl
  · rfl

variable (env) in
@[simp] theorem core_resetForcePi (w : System F Exec) : core (resetForcePi env w) = core w := by
  rw [← core_resetPressFeedback env w]
  rfl

@[simp] theorem core_notePressCompleted (w : System F Exec) : core (notePressCompleted env now w) = core w := by
  unfold notePressCompleted
  split
  · rw [← core_recordPressEnd env w]
    rfl
  · rfl

@[simp] theorem core_latchContact (w : System F Exec) : core (latchContact w) = core w := by
  unfold latchContact
  split
  · rfl
  · rfl

@[simp] theorem core_adaptBoost (rise : ℤ) (w : System F Exec) : core (adaptBoost rise w) = core w := by
  unfold adaptBoost
  dsimp only
  split
  · rfl
  split
  · rfl
  · rfl

@[simp] theorem core_consumePressFeedback (w : System F Exec) : core (consumePressFeedback env w) = core w := by
  unfold consumePressFeedback
  dsimp only
  split
  · rfl
  split
  · exact core_resetPressFeedback env _
  split
  · exact core_resetPressFeedback env _
  split
  · rfl
  · exact core_adaptBoost _ _

@[simp] theorem core_trackPeak (p : Sample) (w : System F Exec) : core (trackPeak env p now w) = core w := by
  unfold trackPeak
  split
  · rfl
  · rfl

@[simp] theorem core_noteCorrection (mapped : Bool) (suggestion : F) (commandMv : U32) (w : System F Exec) :
    core (noteCorrection env mapped suggestion commandMv w) = core w := by
  unfold noteCorrection
  cases mapped
  · rfl
  · rfl

@[simp] theorem core_noteIfAccepted (mapped : Bool) (suggestion : F) (commandMv : U32)
    (outcome : CommandResult × System F Exec) :
    core (noteIfAccepted env mapped suggestion commandMv outcome).2 = core outcome.2 := by
  unfold noteIfAccepted
  split
  · exact core_noteCorrection _ _ _ _
  · rfl

@[simp] theorem core_inhibitCorrection (suggestion : F) (w : System F Exec) :
    core (inhibitCorrection suggestion w) = core w := by
  unfold inhibitCorrection
  split
  · rfl
  · rfl

@[simp] theorem core_beginCycle (w : System F Exec) : core (beginCycle env now w) = core w := by
  rw [← core_resetForcePi env w]
  unfold beginCycle
  dsimp only
  split
  · rfl
  · rfl

/-! ### The deciding part after each transition -/

variable (env now) in
theorem core_enterFault (f : MachineFault) (detail : FaultDetail) (w : System F Exec) :
    core (enterFault env f detail now w) =
      faulted env (reportedDetail f detail) now w.settleFeedbackAfterMs w.exec (core w) := by
  have cleared : core (resetForcePi env (clearTransientMotion (recordPressEnd env (disable env w)))) =
      core (clearTransientMotion (disable env w)) := by
    rw [core_resetForcePi]
    unfold recordPressEnd
    split
    · rfl
    · rfl
  have fields : core (enterFault env f detail now w) = { core (resetForcePi env (clearTransientMotion
      (recordPressEnd env (disable env w)))) with
        state := .fault, faultDetail := reportedDetail f detail, stateEnteredMs := now } := rfl
  rw [fields, cleared]
  rfl

theorem enterFault_exec (f : MachineFault) (detail : FaultDetail) (v : System F Exec) :
    (enterFault env f detail now v).exec = (env.executor.disable v.exec).2 :=
  congrArg Core.exec (core_enterFault env now f detail v)

theorem enterFault_pressure (f : MachineFault) (detail : FaultDetail) (v : System F Exec) :
    (enterFault env f detail now v).pressure = v.pressure :=
  congrArg Core.pressure (core_enterFault env now f detail v)

namespace Still

theorem refl (w : System F Exec) : Still env (core w) w :=
  ⟨.refl, rfl⟩

theorem of_same {w' : System F Exec} (still : Still env c w) (same : core w' = core w) : Still env c w' := by
  have exec : w'.exec = w.exec := congrArg Core.exec same
  constructor
  · rw [exec]
    exact still.aside
  · rw [same, exec]
    exact still.same

theorem attended {x : Exec} (still : Still env c w) (attends : env.executor.Attends w.exec x) :
    Still env c { w with exec := x } := by
  constructor
  · exact still.aside.tail attends
  · rw [show core { w with exec := x } = { core w with exec := x } from rfl, still.same]

theorem disable (still : Still env c w) : Still env c (Motion.disable env w) :=
  still.attended (.inl rfl)

theorem served (still : Still env c w) :
    Still env c { w with exec := (env.executor.service now w.exec).2 } :=
  still.attended (.inr (.inl ⟨now, rfl⟩))

theorem state (still : Still env c w) : w.state = c.state :=
  congrArg Core.state still.same

theorem settlePhase (still : Still env c w) : w.settlePhase = c.settlePhase :=
  congrArg Core.settlePhase still.same

theorem pressure (still : Still env c w) : w.pressure = c.pressure :=
  congrArg Core.pressure still.same

theorem settleFeedbackAfterMs (still : Still env c w) : w.settleFeedbackAfterMs = c.settleFeedbackAfterMs :=
  congrArg Core.settleFeedbackAfterMs still.same

theorem outcome (still : Still env c w) : Outcome env e now c (core w) := by
  rw [still.same]
  exact .kept c w.exec still.aside

end Still

theorem Checked.outcome (checked : Checked env e now c w) : Outcome env e now c (core w) := by
  cases checked with
  | faulted outcome => exact outcome
  | settled x aside running same =>
    rw [same]
    exact .settled c x aside running
  | still still => exact still.outcome

namespace Still

theorem enterFault_founded (still : Still env c w) (f : MachineFault) (detail : FaultDetail)
    (founded : Founded e now c (reportedDetail f detail)) :
    Outcome env e now c (core (Motion.enterFault env f detail now w)) := by
  rw [core_enterFault, still.same]
  exact .faulted c _ _ w.exec still.aside founded

theorem enterFault (still : Still env c w) (f : MachineFault) (detail : FaultDetail)
    (plain : reportedDetail f detail ≠ .pressureTimeout) :
    Outcome env e now c (core (Motion.enterFault env f detail now w)) :=
  still.enterFault_founded f detail (fun timeout => absurd timeout plain)

variable (now) in
theorem disableOrFault_failed (still : Still env c w) (failed : disableSucceeds env w = false) :
    Outcome env e now c (core (disableOrFault env now w).2) := by
  simp only [disableOrFault, failed, Bool.false_eq_true, if_false]
  exact still.disable.enterFault .motor .motorHardware (by decide)

theorem enterSettle_checked (still : Still env c w)
    (running : isAutomatic c.state = true ∨ Admits env e now c) :
    Checked env e now c (Motion.enterSettle env now w).2 := by
  cases ok : disableSucceeds env w with
  | false =>
    have failed := still.disableOrFault_failed (e := e) now ok
    apply Checked.faulted
    · simpa only [Motion.enterSettle, disableOrFault, ok, Bool.false_eq_true, if_false] using failed
    · simp only [Motion.enterSettle, disableOrFault, ok, Bool.false_eq_true, if_false]
      rfl
  | true =>
    apply Checked.settled w.exec still.aside running
    have settles : core (Motion.enterSettle env now w).2 = settled env now w.exec (core w) := by
      simp only [Motion.enterSettle, disableOrFault, ok, if_true]
      rfl
    rw [settles, still.same]
    rfl

theorem enterSettle (still : Still env c w) (running : isAutomatic c.state = true ∨ Admits env e now c) :
    Outcome env e now c (core (Motion.enterSettle env now w).2) :=
  (still.enterSettle_checked running).outcome

theorem enterHold {p : Sample} (still : Still env c w) (sample : e = .handlePressureSample p now)
    (judges : Judges env p c) : Outcome env e now c (core (Motion.enterHold env now w).2) := by
  cases ok : disableSucceeds env w with
  | false =>
    have failed := still.disableOrFault_failed (e := e) now ok
    simpa only [Motion.enterHold, disableOrFault, ok, Bool.false_eq_true, if_false] using failed
  | true =>
    have holds : core (Motion.enterHold env now w).2 = { core w with
        state := .autoHold, stateEnteredMs := now, motorRequestSequence := 0
        exec := (env.executor.disable w.exec).2 } := by
      simp only [Motion.enterHold, disableOrFault, ok, if_true]
      rw [show ∀ x : System F Exec, core { resetPressFeedback env x with
        state := .autoHold, stateEnteredMs := now, cycleStartedMs := 0 } =
          { core (resetPressFeedback env x) with state := .autoHold, stateEnteredMs := now } from fun _ => rfl,
        core_resetPressFeedback]
      rfl
    rw [holds, still.same]
    exact .held c p w.exec sample judges still.aside

theorem requestMotor {next : MachineState} (still : Still env c w) (may : MayStart env e now next c)
    (request : StartCall) : Outcome env e now c (core (Motion.requestMotor env request next now w).2) := by
  have same := still.same
  have feedback := still.settleFeedbackAfterMs
  unfold Motion.requestMotor captureMotorRequest
  by_cases ok : (env.executor.start request w.exec).1 = .ok
  · by_cases valid : env.executor.activeRequestIsValid (env.executor.start request w.exec).2 = true
    · have taken : env.executor.took request w.exec = true := by
        simp only [PulseExecutor.took, ok, valid, decide_true, Bool.and_self]
      rw [if_neg (not_not.mpr ok), if_neg (by simp only [valid, Bool.not_true, Bool.false_eq_true, not_false_iff])]
      show Outcome env e now c (requested env now next _ (core w))
      rw [same]
      exact .started c next w.exec request may still.aside taken
    · have untaken : env.executor.took request w.exec = false := by
        simp only [PulseExecutor.took, Bool.and_eq_false_iff]
        exact .inr (Bool.eq_false_iff.mpr valid)
      rw [if_neg (not_not.mpr ok), if_pos (by simpa only [Bool.not_eq_true'] using Bool.eq_false_iff.mpr valid),
        core_enterFault]
      show Outcome env e now c (faulted env _ now w.settleFeedbackAfterMs _ (core w))
      rw [same, feedback]
      exact .refused c _ next w.exec request may still.aside untaken (by decide)
  · have untaken : env.executor.took request w.exec = false := by
      simp only [PulseExecutor.took, Bool.and_eq_false_iff]
      exact .inl (decide_eq_false ok)
    rw [if_pos ok, core_enterFault]
    show Outcome env e now c (faulted env _ now w.settleFeedbackAfterMs _ (core w))
    rw [same, feedback]
    exact .refused c _ next w.exec request may still.aside untaken (by decide)

theorem startApproach (still : Still env c w) (may : MayStart env e now .autoApproach c)
    (profile : ApproachProfile) : Outcome env e now c (core (Motion.startApproach env profile now w).2) := by
  have same : core { w with
      approachProfile := profile, autoApproachPending := env.policy.isAutoTarget || w.autoApproachPending } =
        core w := rfl
  exact (still.of_same same).requestMotor may _

theorem startDirectPulse {next : MachineState} (still : Still env c w) (may : AdmitsDirect env e now next c)
    (direction : Direction)
    (leads : next = match direction with
      | .press => .directPressPulse
      | .release => .directReleasePulse) :
    Outcome env e now c (core (Motion.startDirectPulse env direction now w).2) := by
  subst leads
  exact still.requestMotor (.inr (.inl may)) _

end Still

theorem Answers.automatic (answers : Answers env e now c) : isAutomatic c.state = true := by
  obtain ⟨p, -, judges | ⟨-, -, holding⟩⟩ := answers
  · simp only [isAutomatic, judges.2.2.1, reduceCtorEq, or_true, true_or, decide_true]
  · simp only [isAutomatic, holding, reduceCtorEq, or_true, decide_true]

@[simp] theorem core_keepResult (outcome : CommandResult × System F Exec) :
    core (keepResult outcome) = core outcome.2 := rfl

/-! ### Corrections -/

namespace Still

theorem startPulse (still : Still env c w) (answers : Answers env e now c) (direction : Direction)
    (commandMv : U32) : Outcome env e now c (core (Motion.startPulse env direction commandMv now w).2) :=
  still.requestMotor (.inr (.inr ⟨answers, .inr rfl⟩)) _

theorem pulseCorrection (still : Still env c w) (answers : Answers env e now c) (expected : Direction) :
    Outcome env e now c (core (Motion.pulseCorrection env expected now w).2) := by
  have banded (mapped : Bool) : Still env c (if mapped then selectPressBand w else w) := by
    cases mapped
    · exact still
    · exact still.of_same rfl
  unfold Motion.pulseCorrection
  dsimp only
  rw [core_noteIfAccepted]
  exact (banded _).startPulse answers _ _

theorem correct (still : Still env c w) (answers : Answers env e now c) (expected : Direction) :
    Outcome env e now c (core (Motion.correct env expected now w).2) := by
  unfold Motion.correct
  dsimp only
  split
  · exact still.startPulse answers _ _
  split
  · exact still.enterFault _ _ (by decide)
  split
  · exact (still.of_same (core_inhibitCorrection _ _)).enterSettle (.inl answers.automatic)
  · exact still.pulseCorrection answers expected

theorem startCorrection (still : Still env c w) (answers : Answers env e now c) (expected : Direction) :
    Outcome env e now c (core (Motion.startCorrection env expected now w).2) := by
  unfold Motion.startCorrection
  split
  · exact (still.of_same (core_resetPressFeedback env w)).correct answers expected
  · exact still.correct answers expected

theorem classifySettledSample {p : Sample} (still : Still env c w) (sample : e = .handlePressureSample p now)
    (judges : Judges env p c) : Outcome env e now c (core (Motion.classifySettledSample env now w)) := by
  have answers : Answers env e now c := ⟨p, sample, .inl judges⟩
  unfold Motion.classifySettledSample
  dsimp only
  split
  · exact (still.of_same (core_resetPressFeedback env w)).startApproach (.inr (.inr ⟨answers, .inl rfl⟩)) _
  split
  · exact still.startCorrection answers .press
  split
  · exact still.enterHold sample judges
  split
  · exact still.startCorrection answers .release
  · exact still.enterHold sample judges

theorem classifyHoldSample {p : Sample} (still : Still env c w) (sample : e = .handlePressureSample p now)
    (holding : c.pressure = p ∧ Valid p = true ∧ c.state = .autoHold) :
    Outcome env e now c (core (Motion.classifyHoldSample env now w)) := by
  have answers : Answers env e now c := ⟨p, sample, .inr holding⟩
  have cycled : Still env c { w with cycleStartedMs := now } := still.of_same rfl
  unfold Motion.classifyHoldSample
  split
  · exact cycled.startApproach (.inr (.inr ⟨answers, .inl rfl⟩)) _
  split
  · exact cycled.startCorrection answers .press
  split
  · exact cycled.startCorrection answers .release
  · cases ok : disableSucceeds env w with
    | false => exact still.disableOrFault_failed now ok
    | true =>
      have rests : core (disableOrFault env now w).2 = { core w with
          motorRequestSequence := 0, exec := (env.executor.disable w.exec).2 } := by
        simp only [disableOrFault, ok, if_true]
        rfl
      rw [rests, still.same]
      exact .rested c w.exec holding.2.2 still.aside

end Still

/-! ### Completions and the contact stop -/

theorem isAutomatic_approach (approach : c.state = .autoApproach) : isAutomatic c.state = true := by
  simp only [isAutomatic, approach, true_or, decide_true]

namespace Still

theorem approachCompleted (still : Still env c w) (approach : c.state = .autoApproach) :
    Outcome env e now c (core (Motion.approachCompleted env now w)) := by
  unfold Motion.approachCompleted
  split
  · split
    · exact still.enterSettle (.inl (isAutomatic_approach approach))
    · exact still.enterFault _ _ (by decide)
  · exact still.enterFault _ _ (by decide)
  · exact still.enterFault _ _ (by decide)

theorem pulseCompleted (still : Still env c w) (pulse : c.state = .autoPulse) :
    Outcome env e now c (core (Motion.pulseCompleted env now w)) := by
  have running : isAutomatic c.state = true := by
    simp only [isAutomatic, pulse, reduceCtorEq, true_or, or_true, decide_true]
  unfold Motion.pulseCompleted
  split
  · exact (still.of_same (core_notePressCompleted w)).enterSettle (.inl running)
  · exact still.enterFault _ _ (by decide)
  · exact still.enterFault _ _ (by decide)

end Still

theorem directCompleted_outcome (direct : isDirectPulse w.state = true) (off : env.executor.Idle w.exec) :
    Outcome env e now (core w) (core (directCompleted env now w)) := by
  unfold directCompleted
  split
  · exact .completed (core w) direct off
  · exact (Still.refl w).enterFault _ _ (by decide)
  · exact (Still.refl w).enterFault _ _ (by decide)

theorem handleMotorService_outcome (w : System F Exec) :
    Outcome env e now (core w) (core (handleMotorService env now w)) := by
  have still : Still env (core w) w := .refl w
  unfold handleMotorService
  split
  · exact still.outcome
  next running =>
    split
    · split
      · exact still.enterFault _ _ (by decide)
      · exact still.outcome
    split
    · split
      · exact still.outcome
      · exact still.enterFault _ _ (by decide)
    next inactive =>
      split
      · exact still.enterFault _ _ (by decide)
      next off =>
        split
        · exact still.enterFault _ _ (by decide)
        split
        next direct =>
          apply directCompleted_outcome direct
          constructor
          · exact Bool.eq_false_iff.mpr inactive
          · show outputIsDisabled env w = true
            simpa only [Bool.not_eq_true, Bool.not_eq_false'] using off
        next notDirect =>
          split
          next approach => exact still.approachCompleted approach
          next notApproach =>
            apply still.pulseCompleted
            by_contra notPulse
            exact running ⟨notApproach, notPulse, by simpa only [Bool.not_eq_true] using notDirect⟩

theorem Still.faults (still : Still env c w) (f : MachineFault) (detail : FaultDetail)
    (plain : reportedDetail f detail ≠ .pressureTimeout) :
    Checked env e now c (Motion.enterFault env f detail now w) :=
  .faulted (still.enterFault f detail plain) rfl

theorem Checked.enterFault (checked : Checked env e now c w) (sound : w.state ≠ .fault) (f : MachineFault)
    (detail : FaultDetail) (plain : reportedDetail f detail ≠ .pressureTimeout) :
    Outcome env e now c (core (Motion.enterFault env f detail now w)) := by
  rw [core_enterFault]
  cases checked with
  | faulted outcome state => exact absurd state sound
  | settled x aside running same =>
    have exec : w.exec = (env.executor.disable x).2 := congrArg Core.exec same
    rw [same, exec]
    exact .faulted c _ _ _ (aside.tail (.inl rfl)) (fun timeout => absurd timeout plain)
  | still still =>
    rw [still.same]
    exact .faulted c _ _ w.exec still.aside (fun timeout => absurd timeout plain)

variable (e now) in
/-- The service of an approach that goes on leaves the context as it is. -/
theorem handleMotorService_checked (still : Still env c w) (approach : c.state = .autoApproach) :
    Checked env e now c (handleMotorService env now w) := by
  have state : w.state = .autoApproach := still.state.trans approach
  have notDirect : isDirectPulse .autoApproach = false := rfl
  unfold handleMotorService
  rw [if_neg (fun other => other.1 state)]
  simp only [state, notDirect, Bool.false_eq_true, if_false, if_true]
  split
  · exact .still still
  split
  · split
    · exact .still still
    · exact still.faults _ _ (by decide)
  split
  · exact still.faults _ _ (by decide)
  split
  · exact still.faults _ _ (by decide)
  · unfold approachCompleted
    split
    · split
      · exact still.enterSettle_checked (.inl (isAutomatic_approach approach))
      · exact still.faults _ _ (by decide)
    · exact still.faults _ _ (by decide)
    · exact still.faults _ _ (by decide)

theorem stopApproachOnContact_checked (still : Still env c w)
    (coarse : c.state = .autoApproach ∨ c.state = .autoSettle) :
    Checked env e now c (stopApproachOnContact env now w) := by
  have served : Still env c { w with exec := (env.executor.service now w.exec).2 } := still.served
  have latched {w' : System F Exec} (checked : Checked env e now c w') : Checked env e now c (latchContact w') := by
    cases checked with
    | faulted outcome state =>
      have same : latchContact w' = w' := by
        simp only [latchContact, state, reduceCtorEq, if_false]
      rw [same]
      exact .faulted outcome state
    | settled x aside running same => exact .settled x aside running ((core_latchContact w').trans same)
    | still still => exact .still (still.of_same (core_latchContact w'))
  unfold stopApproachOnContact
  dsimp only
  split
  · exact served.faults _ _ (by decide)
  · apply latched
    rcases coarse with approach | settling
    · split
      next going =>
        have checked := handleMotorService_checked e now served approach
        cases checked with
        | faulted _ state => exact absurd (going.symm.trans state) (by simp only [reduceCtorEq, not_false_iff])
        | settled x _ _ same =>
          have state : _ = MachineState.autoSettle := congrArg Core.state same
          exact absurd (going.symm.trans state) (by simp only [reduceCtorEq, not_false_iff])
        | still still => exact still.enterSettle_checked (.inl (isAutomatic_approach approach))
      · exact handleMotorService_checked e now served approach
    · have idle : handleMotorService env now { w with exec := (env.executor.service now w.exec).2 } =
          { w with exec := (env.executor.service now w.exec).2 } := by
        unfold handleMotorService
        apply if_pos
        simp only [still.state, settling, isDirectPulse, ne_eq, reduceCtorEq, not_false_iff, or_self,
          decide_false, and_self]
      rw [idle, if_neg (by simp only [still.state, settling, reduceCtorEq, not_false_iff])]
      exact .still served

theorem hasCurrentApproachContact_coarse (contact : hasCurrentApproachContact now w = true) :
    w.state = .autoApproach ∨ w.state = .autoSettle := by
  simp only [hasCurrentApproachContact, Bool.and_eq_true, decide_eq_true_eq] at contact
  exact contact.1.1.1.2

theorem checkContact_checked (still : Still env c w) : Checked env e now c (checkContact env now w) := by
  unfold checkContact
  split
  next contact =>
    apply stopApproachOnContact_checked still
    rw [← still.state]
    exact hasCurrentApproachContact_coarse (Bool.and_eq_true _ _ ▸ contact).2
  · exact .still still

theorem checkContact_fault (faulted : w.state = .fault) : checkContact env now w = w := by
  apply if_neg
  intro contact
  rcases hasCurrentApproachContact_coarse (Bool.and_eq_true _ _ ▸ contact).2 with state | state
  · exact absurd (faulted.symm.trans state) (by simp only [reduceCtorEq, not_false_iff])
  · exact absurd (faulted.symm.trans state) (by simp only [reduceCtorEq, not_false_iff])

theorem checkPressureSafety_checked (still : Still env c w) :
    Checked env e now c (checkPressureSafety env now w) := by
  unfold checkPressureSafety
  split
  · exact .still still
  split
  next stale =>
    apply Checked.faulted _ rfl
    apply still.enterFault_founded
    intro _
    left
    intro fresh
    have config : w.config = c.config := congrArg Core.config still.same
    simp only [isPressureFresh, still.pressure, config, fresh.1, decide_eq_true fresh.2, Bool.and_self,
      Bool.not_true, Bool.false_eq_true] at stale
  split
  · exact .still still
  split
  · exact still.faults _ _ (by decide)
  split
  · rw [checkContact_fault rfl]
    exact still.faults _ _ (by decide)
  · exact checkContact_checked still

/-! ### Samples -/

@[simp] theorem core_observed (previewState : PiState F) (preview : PiSnapshot F)
    (inhibit : InhibitReason × F × Bool) (next : PiState F) (result : PiSnapshot F) (w : System F Exec) :
    core (observed env previewState preview inhibit next result w) = core w := rfl

variable (env now) in
theorem observeForcePi_cases (w : System F Exec) :
    (observeForcePi env now w).1 = true ∧ core (observeForcePi env now w).2 = core w ∨
      observeForcePi env now w = (false, enterFault env .internal .internalState now w) := by
  unfold observeForcePi
  split
  · exact .inr rfl
  · dsimp only
    split
    · exact .inr rfl
    · exact .inl ⟨rfl, core_observed _ _ _ _ _ _⟩

theorem after_gate {p : Sample} (auto : env.policy.isAutoTarget = true) (settling : w.state = .autoSettle)
    (passed : beforeGate env p w = false) : After p.received w.settleFeedbackAfterMs := by
  simp only [beforeGate, auto, settling, decide_true, Bool.true_and, Bool.or_eq_false_iff,
    decide_eq_false_iff_not, BitVec.not_le] at passed
  constructor
  · exact passed.1
  · have bound := passed.2
    rw [BitVec.lt_def] at bound
    exact bound

variable (env) in
def Gated (p : Sample) (c : Core Exec) : Prop :=
  env.policy.isAutoTarget = true → c.piEnabled = true → c.state = .autoSettle →
    After p.received c.settleFeedbackAfterMs

variable (e now) in
/-- The supervision ends the call, or hands on a context that is still the same or has begun to
settle. -/
theorem supervise_cases (p : Sample) (still : Still env c w) :
    (supervise env p now w).1 = false ∧ Outcome env e now c (core (supervise env p now w).2) ∨
      (supervise env p now w).1 = true ∧ (Still env c (supervise env p now w).2 ∧ Gated env p c ∨
        ∃ x, env.executor.Aside c.exec x ∧ isAutomatic c.state = true ∧
          core (supervise env p now w).2 = settled env now x c) := by
  have checked : Checked env e now c (checkPressureSafety env now w) := checkPressureSafety_checked still
  unfold supervise
  split
  next running =>
    have automatic : isAutomatic c.state = true := by
      rw [← still.state]
      exact (Bool.and_eq_true _ _ ▸ running).2
    dsimp only
    split
    · exact .inl ⟨rfl, checked.outcome⟩
    next passed =>
      split
      · exact .inl ⟨rfl, checked.outcome⟩
      next sound =>
        have cases := observeForcePi_cases env now (checkPressureSafety env now w)
        generalize observeForcePi env now (checkPressureSafety env now w) = outcome at cases ⊢
        rcases cases with ⟨flag, same⟩ | rfl
        · obtain ⟨_, v⟩ := outcome
          dsimp only at flag same
          subst flag
          dsimp only
          cases busy : !(decide (v.state = .autoSettle ∨ v.state = .autoHold) && !forcePiMotorIdle env v) with
          | false =>
            left
            rw [same]
            exact ⟨rfl, checked.outcome⟩
          | true =>
            right
            refine ⟨rfl, ?_⟩
            cases checked with
            | faulted _ state => exact absurd state sound
            | settled x aside _ delayed => exact .inr ⟨x, aside, automatic, same.trans delayed⟩
            | still checked =>
              left
              refine ⟨checked.of_same same, ?_⟩
              intro auto _ settling
              have gate := after_gate auto (checked.state.trans settling) (Bool.eq_false_iff.mpr passed)
              rwa [checked.settleFeedbackAfterMs] at gate
        · exact .inl ⟨rfl, checked.enterFault sound _ _ (by decide)⟩
  next idle =>
    right
    refine ⟨rfl, .inl ⟨still, ?_⟩⟩
    intro _ enabled settling
    apply absurd _ idle
    have piEnabled : w.pi.enabled = c.piEnabled := congrArg Core.piEnabled still.same
    simp only [piEnabled, enabled, still.state, settling, isAutomatic, reduceCtorEq, true_or, or_true, decide_true,
      Bool.and_self]

theorem actOn_outcome {p : Sample} (still : Still env c w) (stored : c.pressure = p) (valid : Valid p = true)
    (gated : Gated env p c) (sample : e = .handlePressureSample p now) :
    Outcome env e now c (core (actOn env p now w)) := by
  unfold actOn
  split
  next approach =>
    have state : c.state = .autoApproach := still.state.symm.trans approach.1
    unfold contactApproach
    split
    · split
      · exact (stopApproachOnContact_checked still (.inl state)).outcome
      · exact still.outcome
    · exact still.enterSettle (.inl (isAutomatic_approach state))
  split
  next waited =>
    have judges : Judges env p c := by
      refine ⟨stored, valid, still.state.symm.trans waited.1, still.settlePhase.symm.trans waited.2.1, ?_, ?_⟩
      · rw [← show w.settleGateSequence = c.settleGateSequence from congrArg Core.settleGateSequence still.same]
        exact waited.2.2
      · intro auto enabled
        exact gated auto enabled (still.state.symm.trans waited.1)
    unfold judgeSettled
    split
    · dsimp only
      apply Still.classifySettledSample _ sample judges
      split
      · exact (still.of_same (core_consumePressFeedback w)).of_same rfl
      · exact still.of_same (core_consumePressFeedback w)
    · exact still.classifySettledSample sample judges
  split
  next holding => exact still.classifyHoldSample sample ⟨stored, valid, still.state.symm.trans holding⟩
  · exact still.outcome

theorem actOn_settled {p : Sample} (settling : w.state = .autoSettle) (delayed : w.settlePhase = .waitDelay) :
    actOn env p now w = w := by
  unfold actOn
  simp only [settling, delayed, reduceCtorEq, false_and, and_false, if_false]

variable (env now) in
theorem acceptSample_outcome {p : Sample} (stored : w.pressure = p) (valid : Valid p = true)
    (sample : e = .handlePressureSample p now) :
    Outcome env e now (core w) (core (acceptSample env p now w)) := by
  unfold acceptSample
  split
  · exact (Still.refl w).enterFault _ _ (by decide)
  · have cases := supervise_cases e now p (Still.refl w : Still env (core w) w)
    generalize supervise env p now w = outcome at cases ⊢
    obtain ⟨flag, v⟩ := outcome
    dsimp only at cases ⊢
    rcases cases with ⟨rfl, done_⟩ | ⟨rfl, ⟨still, gated⟩ | ⟨x, aside, running, same⟩⟩
    · exact done_
    · exact actOn_outcome (still.of_same (core_trackPeak p v)) stored valid gated sample
    · have tracked : core (trackPeak env p now v) = settled env now x (core w) := (core_trackPeak p v).trans same
      dsimp only
      rw [actOn_settled (congrArg Core.state tracked) (congrArg Core.settlePhase tracked), tracked]
      exact .settled _ x aside (.inl running)

variable (env) in
def Delivered (p : Sample) (w : System F Exec) (c : Core Exec) : Prop :=
  c = core w ∨ Valid p = true ∧ notLater p w = false ∧ receivedBefore env p w = false ∧
    c = core (store p w)

theorem handlePressureSample_outcome {p : Sample} (w : System F Exec) :
    ∃ c, Delivered env p w c ∧
      Outcome env (.handlePressureSample p now) now c (core (handlePressureSample env p now w)) := by
  unfold handlePressureSample
  split
  next invalid =>
    have bad : Valid p = false := by simpa only [Bool.not_eq_true'] using invalid
    refine ⟨core w, .inl rfl, ?_⟩
    unfold pressureFault
    split
    · rw [core_enterFault]
      exact .spoiled (core w) p rfl bad
    next indifferent => exact .noted (core w) p rfl bad (Bool.eq_false_iff.mpr indifferent)
  next validity =>
    have valid : Valid p = true := by simpa only [Bool.not_eq_true, Bool.not_eq_false'] using validity
    have still : Still env (core w) w := .refl w
    have faults : Outcome env (.handlePressureSample p now) now (core w)
        (core (pressureFault env .pressureOrderLost now w)) := by
      unfold pressureFault
      split
      · exact still.enterFault _ _ (by decide)
      · exact still.outcome
    split
    · refine ⟨core w, .inl rfl, ?_⟩
      split
      · exact faults
      · exact still.outcome
    next later =>
      split
      · exact ⟨core w, .inl rfl, faults⟩
      next forwards =>
        refine ⟨core (store p w), .inr ⟨valid, Bool.eq_false_iff.mpr later,
          Bool.eq_false_iff.mpr forwards, rfl⟩, ?_⟩
        exact acceptSample_outcome env _ rfl valid rfl

/-! ### Commands -/

theorem fresh_core (fresh : isPressureFresh now w = true) : Fresh now (core w) := by
  simp only [isPressureFresh, Bool.and_eq_true, decide_eq_true_eq] at fresh
  exact fresh

theorem stop_outcome (units : ℤ) (w : System F Exec) :
    Outcome env (.handleCommand ⟨.stop, units⟩ now) now (core w) (core (stop env now w).2) := by
  unfold stop
  cases ok : disableSucceeds env w with
  | false =>
    have failed := (Still.refl w).disableOrFault_failed now
      (e := .handleCommand ⟨.stop, units⟩ now) ok
    simpa only [disableOrFault, ok, Bool.false_eq_true, if_false] using failed
  | true =>
    simp only [disableOrFault, ok, if_true]
    have cleared (x : System F Exec) : core (resetForcePi env (clearTransientMotion (recordPressEnd env x))) =
        core (clearTransientMotion x) := by
      rw [core_resetForcePi]
      unfold recordPressEnd
      split
      · rfl
      · rfl
    have stops (x : System F Exec) (next : MachineState) : core { x with
        cycleStartedMs := 0, state := next, stateEnteredMs := now } =
          { core x with state := next, stateEnteredMs := now } := rfl
    rw [stops, cleared]
    exact .stopped (core w) units rfl

theorem setTarget_outcome (units : ℤ) (w : System F Exec) :
    Outcome env e now (core w) (core (setTarget env units w).2) := by
  unfold setTarget
  split
  · exact (Still.refl w).outcome
  split
  · exact (Still.refl w).outcome
  · dsimp only
    rw [core_resetForcePi]
    exact (Still.refl w).outcome

theorem directPulse_outcome (direction : Direction) (next : MachineState)
    (leads : next = match direction with
      | .press => .directPressPulse
      | .release => .directReleasePulse)
    (asks : ∃ units, e = .handleCommand ⟨.directPressPulse, units⟩ now ∧ next = .directPressPulse ∨
      e = .handleCommand ⟨.directReleasePulse, units⟩ now ∧ next = .directReleasePulse)
    (w : System F Exec) : Outcome env e now (core w) (core (directPulse env direction now w).2) := by
  have still : Still env (core w) w := .refl w
  unfold directPulse
  split
  · exact still.outcome
  next enabled =>
    split
    · exact still.outcome
    next idle =>
      split
      · exact still.outcome
      split
      · exact still.outcome
      next fresh =>
        apply still.startDirectPulse _ direction leads
        refine ⟨asks, not_not.mp idle, ?_, ?_⟩
        · simpa only [Bool.not_eq_true, Bool.not_eq_false'] using enabled
        · intro required
          apply fresh_core
          simpa only [required, Bool.true_and, Bool.not_eq_true, Bool.not_eq_false'] using fresh

theorem autoStart_outcome (units : ℤ) (w : System F Exec) :
    Outcome env (.handleCommand ⟨.autoStart, units⟩ now) now (core w) (core (autoStart env now w).2) := by
  have still : Still env (core w) w := .refl w
  unfold autoStart
  split
  · exact still.outcome
  next enabled =>
    split
    · exact still.outcome
    next idle =>
      split
      · exact still.outcome
      next ready =>
        split
        · exact still.outcome
        next strategy =>
          split
          · exact still.enterFault _ _ (by decide)
          · have admits : Admits env (.handleCommand ⟨.autoStart, units⟩ now) now (core w) := by
              refine ⟨⟨units, rfl⟩, not_not.mp idle, ?_, ?_, ?_⟩
              · apply fresh_core
                simp only [automaticReady, Bool.not_eq_true, Bool.not_eq_false', Bool.and_eq_true] at ready
                exact ready.1.1.2
              · simpa only [Bool.not_eq_true, Bool.not_eq_false'] using enabled
              · intro auto
                simp only [auto, Bool.true_and, Bool.or_eq_true, not_or, Bool.not_eq_true,
                  Bool.not_eq_false'] at strategy
                exact strategy.1
            have begun : Still env (core w) (beginCycle env now w) := still.of_same (core_beginCycle w)
            unfold launch
            split
            · exact begun.startApproach (.inl ⟨admits, rfl⟩) _
            · exact begun.enterSettle (.inr admits)

theorem command_outcome (asked : Command) (w : System F Exec) :
    Outcome env (.handleCommand asked now) now (core w) (core (command env asked now w).2) := by
  obtain ⟨type, units⟩ := asked
  cases type with
  | stop => exact stop_outcome units w
  | setTarget => exact setTarget_outcome units w
  | directPressPulse => exact directPulse_outcome .press _ rfl ⟨units, .inl ⟨rfl, rfl⟩⟩ w
  | directReleasePulse => exact directPulse_outcome .release _ rfl ⟨units, .inr ⟨rfl, rfl⟩⟩ w
  | autoStart => exact autoStart_outcome units w
  | jogPress => exact (Still.refl w).outcome
  | jogRelease => exact (Still.refl w).outcome
  | jogStop => exact (Still.refl w).outcome
  | faultReset => exact (Still.refl w).outcome
  | ackComplete => exact (Still.refl w).outcome
  | forceStart => exact (Still.refl w).outcome

/-! ### Every call -/

theorem completeBoot_outcome (checksPassed : Bool) (w : System F Exec) :
    Outcome env e now (core w) (core (completeBoot env checksPassed now w)) := by
  have still : Still env (core w) w := .refl w
  unfold completeBoot
  split
  · exact still.outcome
  next boot =>
    split
    · exact still.enterFault _ _ (by decide)
    · cases ok : disableSucceeds env w with
      | false =>
        have failed := still.disableOrFault_failed (e := e) now ok
        simpa only [disableOrFault, ok, Bool.false_eq_true, if_false] using failed
      | true =>
        simp only [disableOrFault, ok, if_true]
        exact .booted (core w) (not_not.mp boot)

theorem configureForcePi_outcome (config : PiConfig F) (w : System F Exec) :
    Outcome env e now (core w) (core (configureForcePi env config w).2) := by
  have still : Still env (core w) w := .refl w
  unfold configureForcePi
  split
  · exact still.outcome
  split
  · exact still.outcome
  next idle =>
    split
    · exact still.outcome
    split
    · exact still.outcome
    split
    · exact still.outcome
    · dsimp only
      rw [core_resetForcePi]
      exact .configured (core w) (not_not.mp idle)

theorem reportFault_outcome (f : MachineFault) (detail : FaultDetail) (w : System F Exec) :
    Outcome env (.reportFault f detail now) now (core w) (core (reportFault env f detail now w)) := by
  unfold reportFault
  split
  · exact (Still.refl w).enterFault _ _ (by decide)
  · apply (Still.refl w).enterFault_founded
    intro _
    exact .inr ⟨f, detail, rfl⟩

theorem tick_outcome (w : System F Exec) :
    Outcome env (.tick now) now (core w) (core (tick env now w)) := by
  unfold tick
  split
  next settling =>
    split
    next expired => exact .opened (core w) rfl settling expired.1 expired.2
    · exact (Still.refl w).outcome
  · exact (Still.refl w).enterFault _ _ (by decide)
  · exact (Still.refl w).enterFault _ _ (by decide)
  · exact (Still.refl w).enterFault _ _ (by decide)
  · exact (Still.refl w).outcome

def instant : Event F → U32
  | .initializeContext _ now => now
  | .completeBoot _ now => now
  | .configureForcePi _ now => now
  | .handleCommand _ now => now
  | .handlePressureSample _ now => now
  | .checkPressureSafety now => now
  | .handleMotorService now => now
  | .reportFault _ _ now => now
  | .tick now => now
  | .isPressureFresh now => now
  | .service now => now
  | .interrupt now => now

def Initializes : Event F → Prop
  | .initializeContext _ _ => True
  | _ => False

variable (env) in
def Arrives (e : Event F) (w : System F Exec) (c : Core Exec) : Prop :=
  match e with
  | .handlePressureSample p _ => Delivered env p w c
  | _ => c = core w

variable (env) in
theorem call_outcome (e : Event F) (ordinary : ¬ Initializes e) (w : System F Exec) :
    ∃ c, Arrives env e w c ∧ Outcome env e (instant e) c (core (call env w e)) := by
  cases e with
  | initializeContext config now => exact absurd trivial ordinary
  | completeBoot checksPassed now => exact ⟨_, rfl, completeBoot_outcome checksPassed w⟩
  | configureForcePi config now => exact ⟨_, rfl, configureForcePi_outcome config w⟩
  | handleCommand asked now => exact ⟨_, rfl, command_outcome asked w⟩
  | handlePressureSample p now => exact handlePressureSample_outcome w
  | checkPressureSafety now => exact ⟨_, rfl, (checkPressureSafety_checked (.refl w)).outcome⟩
  | handleMotorService now => exact ⟨_, rfl, handleMotorService_outcome w⟩
  | reportFault f detail now => exact ⟨_, rfl, reportFault_outcome f detail w⟩
  | tick now => exact ⟨_, rfl, tick_outcome w⟩
  | isPressureFresh now => exact ⟨_, rfl, (Still.refl w).outcome⟩
  | service now => exact ⟨_, rfl, (Still.refl w).served.outcome⟩
  | interrupt now => exact ⟨_, rfl, ((Still.refl w).attended (.inr (.inr rfl))).outcome⟩

end Sd700.Machine.Outcomes
