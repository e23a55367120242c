import Sd700.Machine.Strategy
import Sd700.Machine.PressBoost

/-! What a correction of the strategy asks for: its direction, its magnitude, and when there is none. -/

namespace Sd700.Machine.Corrections
open Logic.Run Logic.Floating Build.Contract Motor.Interface Motor.Pulses ForcePi Context Motion Handlers Outcomes
  Ownership PressSteps SettleGate Strategy
open Deadlines (autoTargetBench)
open Servo.State (MachineFault FaultDetail CommandType CommandResult Command Sample)

variable {F Exec : Type} {env : Platform F Exec} {now : U32} {u v w w' : System F Exec}

/-! ### The sample on its way to the classification -/

/-- The question the sample poses is still the same; the executor has at most been attended to. -/
structure Posed (env : Platform F Exec) (w v : System F Exec) : Prop where
  aside : env.executor.Aside w.exec v.exec
  state : v.state = w.state
  settlePhase : v.settlePhase = w.settlePhase
  gate : v.settleGateSequence = w.settleGateSequence
  config : v.config = w.config
  target : v.targetUnits = w.targetUnits
  pressure : v.pressure = w.pressure
  pi : v.pi = w.pi

namespace Posed

theorem refl (w : System F Exec) : Posed env w w := ⟨.refl, rfl, rfl, rfl, rfl, rfl, rfl, rfl⟩

theorem trans (first : Posed env w u) (second : Posed env u v) : Posed env w v :=
  ⟨first.aside.trans second.aside, second.state.trans first.state, second.settlePhase.trans first.settlePhase,
    second.gate.trans first.gate, second.config.trans first.config, second.target.trans first.target,
    second.pressure.trans first.pressure, second.pi.trans first.pi⟩

theorem tolerance (posed : Posed env w v) : Motion.tolerance v = Motion.tolerance w := by
  unfold Motion.tolerance
  rw [posed.state, posed.config]

theorem isBelow (posed : Posed env w v) : Motion.isBelow v = Motion.isBelow w := by
  unfold Motion.isBelow
  rw [posed.pressure, posed.target, posed.tolerance]

theorem isAbove (posed : Posed env w v) : Motion.isAbove v = Motion.isAbove w := by
  unfold Motion.isAbove
  rw [posed.pressure, posed.target, posed.tolerance]

theorem correctionReady (posed : Posed env w v) : Motion.correctionReady v = Motion.correctionReady w := by
  unfold Motion.correctionReady
  rw [posed.state, posed.settlePhase, posed.gate, posed.pressure, posed.config, posed.isBelow, posed.isAbove]

end Posed

theorem trackPeak_posed (p : Sample) (w : System F Exec) : Posed env w (trackPeak env p now w) := by
  unfold trackPeak
  split
  · exact ⟨.refl, rfl, rfl, rfl, rfl, rfl, rfl, rfl⟩
  · exact .refl w

theorem resetPressFeedback_posed (w : System F Exec) : Posed env w (resetPressFeedback env w) := by
  unfold resetPressFeedback
  split
  · exact ⟨.refl, rfl, rfl, rfl, rfl, rfl, rfl, rfl⟩
  · exact .refl w

theorem consumePressFeedback_posed (w : System F Exec) : Posed env w (consumePressFeedback env w) := by
  rw [consumePressFeedback_only]
  exact ⟨.refl, rfl, rfl, rfl, rfl, rfl, rfl, rfl⟩

/-- A machine that is settled or holds: the checks fault, or leave the question. -/
theorem checkPressureSafety_posed (resting : w.state = .autoSettle ∨ w.state = .autoHold) :
    (checkPressureSafety env now w).state = .fault ∧
        env.executor.Aside w.exec (checkPressureSafety env now w).exec ∨
      Posed env w (checkPressureSafety env now w) := by
  have faulted (f : MachineFault) (detail : FaultDetail) :
      env.executor.Aside w.exec (enterFault env f detail now w).exec := .tail .refl (.inl (enterFault_exec _ _ _))
  unfold checkPressureSafety
  split
  · exact .inr (.refl w)
  split
  · exact .inl ⟨rfl, faulted _ _⟩
  split
  · exact .inr (.refl w)
  split
  · exact .inl ⟨rfl, faulted _ _⟩
  split
  · rw [checkContact_fault rfl]
    exact .inl ⟨rfl, faulted _ _⟩
  unfold checkContact
  split
  · let served : System F Exec := { w with exec := (env.executor.service now w.exec).2 }
    have serves : env.executor.Aside w.exec served.exec := .tail .refl (.inr (.inl ⟨now, rfl⟩))
    have parked : served.state ≠ .autoApproach ∧ served.state ≠ .autoPulse ∧ isDirectPulse served.state = false := by
      show w.state ≠ .autoApproach ∧ w.state ≠ .autoPulse ∧ isDirectPulse w.state = false
      rcases resting with settling | holding
      · rw [settling]
        decide
      · rw [holding]
        decide
    have unmoved : handleMotorService env now served = served := if_pos parked
    have posed : Posed env w served := ⟨serves, rfl, rfl, rfl, rfl, rfl, rfl, rfl⟩
    have latched : Posed env served (latchContact served) := by
      unfold latchContact
      split
      · exact ⟨.refl, rfl, rfl, rfl, rfl, rfl, rfl, rfl⟩
      · exact .refl served
    unfold stopApproachOnContact
    dsimp only
    split
    · exact .inl ⟨rfl, serves.trans (.tail .refl (.inl (enterFault_exec _ _ _)))⟩
    · right
      show Posed env w (latchContact (if (handleMotorService env now served).state = .autoApproach then
        (enterSettle env now (handleMotorService env now served)).2 else handleMotorService env now served))
      rw [unmoved, if_neg parked.1]
      exact posed.trans latched
  · exact .inr (.refl w)

/-- The supervision of such a machine ends the call without a start, or has calculated. -/
theorem supervise_posed (enabled : w.pi.enabled = true) (resting : w.state = .autoSettle ∨ w.state = .autoHold)
    (p : Sample) :
    (supervise env p now w).1 = false ∧ env.executor.Aside w.exec (supervise env p now w).2.exec ∨
      supervise env p now w = (true, (observeForcePi env now (checkPressureSafety env now w)).2) ∧
        Posed env w (checkPressureSafety env now w) ∧
        (observeForcePi env now (checkPressureSafety env now w)).1 = true ∧
        forcePiMotorIdle env (checkPressureSafety env now w) = true := by
  have automatic : isAutomatic w.state = true := by
    rcases resting with settling | holding
    · rw [settling]
      rfl
    · rw [holding]
      rfl
  have checked := @checkPressureSafety_posed _ _ env now w resting
  have aside : env.executor.Aside w.exec (checkPressureSafety env now w).exec := by
    rcases checked with ⟨-, aside⟩ | posed
    · exact aside
    · exact posed.aside
  unfold supervise
  rw [if_pos (by rw [enabled, automatic]; rfl)]
  dsimp only
  generalize checkPressureSafety env now w = u at checked aside ⊢
  split
  · exact .inl ⟨rfl, aside⟩
  split
  · exact .inl ⟨rfl, aside⟩
  rename_i sound
  have posed : Posed env w u := by
    rcases checked with ⟨fault, -⟩ | posed
    · exact absurd fault sound
    · exact posed
  rcases observeForcePi_only env now u with ⟨unit, calculated⟩ | failed
  · rw [calculated]
    dsimp only
    have rests : u.state = .autoSettle ∨ u.state = .autoHold := posed.state ▸ resting
    have quiet : forcePiMotorIdle env { u with pi := unit } = forcePiMotorIdle env u := rfl
    rw [quiet, decide_eq_true rests, Bool.true_and]
    cases idle : forcePiMotorIdle env u with
    | false => exact .inl ⟨rfl, aside⟩
    | true => exact .inr ⟨rfl, posed, rfl, rfl⟩
  · rw [failed]
    exact .inl ⟨rfl, aside.trans (.tail .refl (.inl (enterFault_exec _ _ _)))⟩

/-! ### The correction -/

def mapped (env : Platform F Exec) (v : System F Exec) (expected : Direction) : Bool :=
  env.policy.isAutoTarget && decide (expected = .press) &&
    env.ops.lt env.ops.zero v.pi.snapshot.limitedOutputMv

structure Correcting (env : Platform F Exec) (expected : Direction) (v : System F Exec) (request : StartCall) : Prop where
  valid : forcePiMagnitudeValid env.ops (env.ops.abs v.pi.snapshot.limitedOutputMv) expected = true
  free : v.pi.inhibitReason ≠ .wrongDirection ∧ v.pi.inhibitReason ≠ .releaseDisabled
  large : env.ops.lt (env.ops.abs v.pi.snapshot.limitedOutputMv) env.ops.one = false
  direction : request.direction = if env.ops.lt env.ops.zero v.pi.snapshot.limitedOutputMv then .press else .release
  commandMv : request.commandMv = correctionMv env (mapped env v expected)
    (env.ops.abs v.pi.snapshot.limitedOutputMv) (if mapped env v expected then selectPressBand v else v)

/-- What a context makes of the sample it classifies: nothing, an approach without contact, or one correction. -/
inductive Answer (env : Platform F Exec) (u w' : System F Exec) : Prop
  | quiet (aside : env.executor.Aside u.exec w'.exec)
  | approaches (request : StartCall) (x : Exec) (aside : env.executor.Aside u.exec x)
      (tried : Tried env request x w'.exec) (state : w'.state ≠ .autoPulse) (low : u.pressure.control < u.config.contactThresholdUnits)
  | corrects (expected : Direction) (v : System F Exec) (request : StartCall) (posed : Posed env u v)
      (tried : Tried env request v.exec w'.exec) (ready : correctionReady u = true)
      (out : if expected = .press then isBelow u = true else isAbove u = true)
      (correcting : Correcting env expected v request)

theorem correct_answer (enabled : v.pi.enabled = true) (posed : Posed env u v) (ready : correctionReady u = true)
    (expected : Direction) (out : if expected = .press then isBelow u = true else isAbove u = true) :
    Answer env u (correct env expected now v).2 := by
  unfold correct
  dsimp only
  rw [if_neg (by rw [enabled]; exact Bool.noConfusion)]
  split
  · exact .quiet (posed.aside.trans (.tail .refl (.inl (enterFault_exec _ _ _))))
  rename_i valid
  split
  · have same : (inhibitCorrection v.pi.snapshot.limitedOutputMv v).exec = v.exec := by
      unfold inhibitCorrection
      split
      · rfl
      · rfl
    have settles := enterSettle_aside env now (inhibitCorrection v.pi.snapshot.limitedOutputMv v)
    rw [same] at settles
    exact .quiet (posed.aside.trans settles)
  rename_i inhibited
  obtain ⟨toward, inhibited⟩ := not_or.mp inhibited
  obtain ⟨open_, large⟩ := not_or.mp inhibited
  unfold pulseCorrection
  dsimp only
  have kept (flag : Bool) (suggestion : F) (commandMv : U32) (outcome : CommandResult × System F Exec) :
      (noteIfAccepted env flag suggestion commandMv outcome).2.exec = outcome.2.exec := by
    unfold noteIfAccepted noteCorrection
    split
    · cases flag <;> rfl
    · rfl
  have same (flag : Bool) : (if flag then selectPressBand v else v).exec = v.exec := by
    cases flag <;> rfl
  let chosen := if mapped env v expected then selectPressBand v else v
  let request : StartCall := ⟨true, if env.ops.lt env.ops.zero v.pi.snapshot.limitedOutputMv then .press else .release,
    correctionMv env (mapped env v expected) (env.ops.abs v.pi.snapshot.limitedOutputMv) chosen,
    chosen.config.pulseDurationMs, chosen.config.pulseBackstopMs, now⟩
  have correcting : Correcting env expected v request :=
    ⟨by simpa using valid, ⟨toward, open_⟩, Bool.eq_false_iff.mpr large, rfl, rfl⟩
  apply Answer.corrects expected v request posed _ ready out correcting
  rw [kept, ← same (mapped env v expected)]
  exact requestMotor_tried env request .autoPulse now chosen

theorem startCorrection_answer (enabled : v.pi.enabled = true) (posed : Posed env u v) (ready : correctionReady u = true)
    (expected : Direction) (out : if expected = .press then isBelow u = true else isAbove u = true) :
    Answer env u (keepResult (startCorrection env expected now v)) := by
  have kept (outcome : CommandResult × System F Exec) (answer : Answer env u outcome.2) :
      Answer env u (keepResult outcome) := by
    cases answer with
    | quiet aside => exact .quiet aside
    | approaches request x aside tried state low => exact .approaches request x aside tried state low
    | corrects expected v request posed tried ready out correcting =>
      exact .corrects expected v request posed tried ready out correcting
  apply kept
  unfold startCorrection
  cases expected with
  | press =>
    rw [if_neg (by decide)]
    exact correct_answer enabled posed ready .press out
  | release =>
    have cleared : Posed env v (resetPressFeedback env v) := resetPressFeedback_posed v
    rw [if_pos rfl]
    exact correct_answer (by rw [cleared.pi]; exact enabled) (posed.trans cleared) ready .release out

theorem startApproach_answer (aside : env.executor.Aside u.exec v.exec)
    (low : u.pressure.control < u.config.contactThresholdUnits) (profile : ApproachProfile) :
    Answer env u (keepResult (startApproach env profile now v)) := by
  let approaching : System F Exec := { v with
    approachProfile := profile, autoApproachPending := env.policy.isAutoTarget || v.autoApproachPending }
  have tried := requestMotor_tried env (approachCall env profile now approaching) .autoApproach now approaching
  have state : (requestMotor env (approachCall env profile now approaching) .autoApproach now approaching).2.state ≠
      .autoPulse := by
    unfold requestMotor captureMotorRequest
    split
    · exact MachineState.noConfusion
    split
    · exact MachineState.noConfusion
    · exact MachineState.noConfusion
  exact .approaches (approachCall env profile now approaching) v.exec aside tried state low

theorem classifySettledSample_answer (enabled : v.pi.enabled = true) (posed : Posed env u v)
    (settling : u.state = .autoSettle) (waiting : u.settlePhase = .waitSample)
    (later : u.settleGateSequence < u.pressure.sequence) : Answer env u (classifySettledSample env now v) := by
  have tolerated : tolerance u = u.config.holdEnterToleranceUnits := if_neg (by rw [settling]; decide)
  have ready (contact : u.config.contactThresholdUnits ≤ u.pressure.control)
      (out : isBelow u = true ∨ isAbove u = true) : correctionReady u = true := by
    unfold correctionReady
    rw [settling, waiting, decide_eq_true later, decide_eq_true contact]
    rcases out with below | above
    · rw [below]
      rfl
    · rw [above, Bool.or_true]
      rfl
  have held : Answer env u (enterHold env now v).2 := .quiet (posed.aside.trans (enterHold_aside env now v))
  unfold classifySettledSample
  dsimp only
  rw [posed.pressure, posed.config, posed.target]
  split
  · rename_i low
    have cleared := (posed.trans (resetPressFeedback_posed v)).aside
    exact startApproach_answer cleared low _
  rename_i contact
  split
  · rename_i low
    have below : isBelow u = true := by
      unfold isBelow
      rw [tolerated]
      exact decide_eq_true low
    exact startCorrection_answer enabled posed (ready (not_lt.mp contact) (.inl below)) .press below
  split
  · exact held
  rename_i high
  split
  · have above : isAbove u = true := by
      unfold isAbove
      rw [tolerated]
      exact decide_eq_true (not_le.mp high)
    exact startCorrection_answer enabled posed (ready (not_lt.mp contact) (.inr above)) .release above
  · exact held

theorem classifyHoldSample_answer (enabled : v.pi.enabled = true) (posed : Posed env u v)
    (holding : u.state = .autoHold) : Answer env u (classifyHoldSample env now v) := by
  have ready (contact : u.config.contactThresholdUnits ≤ u.pressure.control)
      (out : isBelow u = true ∨ isAbove u = true) : correctionReady u = true := by
    unfold correctionReady
    rw [holding, decide_eq_true contact]
    rcases out with below | above
    · rw [below]
      rfl
    · rw [above, Bool.or_true]
      rfl
  have cycled : Posed env u { v with cycleStartedMs := now } :=
    ⟨posed.aside, posed.state, posed.settlePhase, posed.gate, posed.config, posed.target, posed.pressure, posed.pi⟩
  have on : ({ v with cycleStartedMs := now } : System F Exec).pi.enabled = true := enabled
  have tolerates : tolerance v = v.config.holdExitToleranceUnits := if_pos (posed.state.trans holding)
  have stored : v.pressure.control = u.pressure.control ∧ v.config = u.config := ⟨by rw [posed.pressure], posed.config⟩
  unfold classifyHoldSample
  split
  · rename_i low
    rw [stored.1, stored.2] at low
    exact startApproach_answer cycled.aside low _
  rename_i contact
  rw [stored.1, stored.2] at contact
  split
  · rename_i low
    have below : isBelow u = true := by
      rw [← posed.isBelow]
      unfold isBelow
      rw [tolerates]
      exact decide_eq_true low
    exact startCorrection_answer on cycled (ready (not_lt.mp contact) (.inl below)) .press below
  split
  · rename_i high
    have above : isAbove u = true := by
      rw [← posed.isAbove]
      unfold isAbove
      rw [tolerates]
      exact decide_eq_true high.1
    exact startCorrection_answer on cycled (ready (not_lt.mp contact) (.inr above)) .release above
  · exact .quiet (posed.aside.trans (disableOrFault_aside env now v))

theorem actOn_answer (enabled : v.pi.enabled = true) (posed : Posed env u v)
    (resting : u.state = .autoSettle ∨ u.state = .autoHold) (p : Sample) (stored : u.pressure = p) :
    Answer env u (actOn env p now v) := by
  unfold actOn
  rw [if_neg]
  swap
  · rintro ⟨approaching, -⟩
    rw [posed.state] at approaching
    rcases resting with settling | holding
    · exact absurd (approaching.symm.trans settling) (by decide)
    · exact absurd (approaching.symm.trans holding) (by decide)
  split
  · rename_i waited
    obtain ⟨settling, waiting, later⟩ := waited
    rw [posed.state] at settling
    rw [posed.settlePhase] at waiting
    rw [posed.gate, ← stored] at later
    unfold judgeSettled
    split
    · dsimp only
      have consumed := posed.trans (consumePressFeedback_posed v)
      split
      · exact classifySettledSample_answer (by rw [consumed.pi, ← posed.pi]; exact enabled)
          (consumed.trans ⟨.refl, rfl, rfl, rfl, rfl, rfl, rfl, rfl⟩) settling waiting later
      · exact classifySettledSample_answer (by rw [consumed.pi, ← posed.pi]; exact enabled) consumed settling waiting later
    · exact classifySettledSample_answer enabled posed settling waiting later
  split
  · rename_i holding
    exact classifyHoldSample_answer enabled posed (posed.state.symm.trans holding)
  · exact .quiet posed.aside

def checked (env : Platform F Exec) (p : Sample) (now : U32) (w : System F Exec) : System F Exec :=
  checkPressureSafety env now (store p w)

def calculated (env : Platform F Exec) (p : Sample) (now : U32) (w : System F Exec) : System F Exec :=
  (observeForcePi env now (checked env p now w)).2

/-- A sample that a settled or holding machine answers has been calculated on. -/
theorem handlePressureSample_answer (enabled : w.pi.enabled = true)
    (resting : w.state = .autoSettle ∨ w.state = .autoHold) (p : Sample) :
    env.executor.Aside w.exec (handlePressureSample env p now w).exec ∨
      Posed env (store p w) (checked env p now w) ∧ (observeForcePi env now (checked env p now w)).1 = true ∧
        forcePiMotorIdle env (checked env p now w) = true ∧
        Answer env (calculated env p now w) (handlePressureSample env p now w) := by
  have faults (detail : FaultDetail) (v : System F Exec) (same : v.exec = w.exec) :
      env.executor.Aside w.exec (pressureFault env detail now v).exec := by
    rw [← same]
    unfold pressureFault
    split
    · exact .tail .refl (.inl (enterFault_exec _ _ _))
    · exact .refl
  unfold handlePressureSample
  split
  · exact .inl (faults _ (store p w) rfl)
  split
  · split
    · exact .inl (faults _ w rfl)
    · exact .inl .refl
  split
  · exact .inl (faults _ w rfl)
  unfold acceptSample
  split
  · exact .inl (.tail .refl (.inl (enterFault_exec _ _ (store p w))))
  have on : (store p w).pi.enabled = true := enabled
  have rests : (store p w).state = .autoSettle ∨ (store p w).state = .autoHold := resting
  rcases @supervise_posed _ _ env now (store p w) on rests p with ⟨ended, aside⟩ | ⟨handed, posed, done_, idle⟩
  · generalize supervise env p now (store p w) = outcome at ended aside
    obtain ⟨flag, v⟩ := outcome
    dsimp only at ended aside
    subst ended
    exact .inl aside
  · rw [handed]
    dsimp only
    have tracked := @trackPeak_posed _ _ env now p (calculated env p now w)
    have only : ∃ unit, calculated env p now w = { checked env p now w with pi := unit } := by
      rcases observeForcePi_only env now (checked env p now w) with ⟨unit, same⟩ | failed
      · exact ⟨unit, congrArg Prod.snd same⟩
      · exact absurd (done_.symm.trans (congrArg Prod.fst failed)) Bool.noConfusion
    have kept : (calculated env p now w).state = w.state ∧ (calculated env p now w).pressure = p := by
      obtain ⟨unit, same⟩ := only
      rw [same]
      exact ⟨posed.state, posed.pressure⟩
    have still : (calculated env p now w).pi.enabled = true :=
      (observeForcePi_enabled env now (checked env p now w)).trans ((congrArg PiUnit.enabled posed.pi).trans on)
    right
    refine ⟨posed, done_, idle, ?_⟩
    exact actOn_answer (by rw [tracked.pi]; exact still) tracked (kept.1 ▸ resting) p kept.2

/-! ### A sound executor -/

section
variable (sound : env.executor.Sound)
include sound

theorem disableOrFault_sound (now : U32) (v : System F Exec) :
    disableOrFault env now v = (true, { disable env v with motorRequestSequence := 0 }) := by
  have succeeds : disableSucceeds env v = true := by
    unfold disableSucceeds
    rw [decide_eq_true (sound.disable_ok v.exec), Bool.true_and]
    exact (sound.disable_idle v.exec).2
  exact if_pos succeeds

theorem enterSettle_sound (now : U32) (v : System F Exec) : (enterSettle env now v).2.state = .autoSettle := by
  unfold enterSettle
  rw [disableOrFault_sound sound]

theorem enterHold_sound (now : U32) (v : System F Exec) : (enterHold env now v).2.state = .autoHold := by
  unfold enterHold
  rw [disableOrFault_sound sound]

theorem startCorrection_inhibited (enabled : v.pi.enabled = true) (expected : Direction)
    (valid : forcePiMagnitudeValid env.ops (env.ops.abs v.pi.snapshot.limitedOutputMv) expected = true)
    (blocked : v.pi.inhibitReason = .wrongDirection ∨ v.pi.inhibitReason = .releaseDisabled) :
    (startCorrection env expected now v).2.pi.state = v.pi.state := by
  have cleared : Posed env v (if expected = .release then resetPressFeedback env v else v) := by
    split
    · exact resetPressFeedback_posed v
    · exact .refl v
  refine (startCorrection_carried expected v).integral ?_
  unfold startCorrection correct
  dsimp only
  rw [cleared.pi, if_neg (by rw [enabled]; exact Bool.noConfusion), if_neg (by rw [valid]; exact Bool.noConfusion),
    if_pos (or_assoc.mp (.inl blocked))]
  show (enterSettle env now _).2.state ≠ .fault
  rw [enterSettle_sound sound]
  exact MachineState.noConfusion

variable (locked : env.policy.isAutoTarget = false)
include locked

/-- Without AutoTarget, a sample in contact whose correction is inhibited leaves the strategy alone. -/
theorem actOn_locked (enabled : v.pi.enabled = true) (p : Sample) (stored : v.pressure = p)
    (contact : v.config.contactThresholdUnits ≤ p.control)
    (valid : ∀ expected, forcePiMagnitudeValid env.ops (env.ops.abs v.pi.snapshot.limitedOutputMv) expected = true)
    (blocked : correctionReady v = true →
      v.pi.inhibitReason = .wrongDirection ∨ v.pi.inhibitReason = .releaseDisabled) :
    (actOn env p now v).pi.state = v.pi.state := by
  have corrects (expected : Direction) (t : U32) (ready : correctionReady v = true) :
      (keepResult (startCorrection env expected now { v with cycleStartedMs := t })).pi.state = v.pi.state := by
    let cycled : System F Exec := { v with cycleStartedMs := t }
    have on : cycled.pi.enabled = true := enabled
    exact startCorrection_inhibited sound on expected (valid expected) (blocked ready)
  have touches : ¬ v.pressure.control < v.config.contactThresholdUnits := by
    rw [stored]
    exact not_lt.mpr contact
  unfold actOn
  split
  · unfold contactApproach
    rw [if_neg (by rw [locked]; exact Bool.false_ne_true)]
    exact (enterSettle_carried env now v).integral (by rw [enterSettle_sound sound]; exact MachineState.noConfusion)
  have held : (enterHold env now v).2.pi.state = v.pi.state :=
    (enterHold_carried env now v).integral (by rw [enterHold_sound sound]; exact MachineState.noConfusion)
  split
  · rename_i waited
    obtain ⟨settling, waiting, later⟩ := waited
    have tolerated : tolerance v = v.config.holdEnterToleranceUnits := if_neg (by rw [settling]; decide)
    have ready (out : isBelow v = true ∨ isAbove v = true) : correctionReady v = true := by
      unfold correctionReady
      rw [settling, waiting, stored, decide_eq_true later, decide_eq_true contact]
      rcases out with below | above
      · rw [below]
        rfl
      · rw [above, Bool.or_true]
        rfl
    unfold judgeSettled classifySettledSample
    rw [if_neg (by rw [locked]; exact Bool.false_ne_true), if_neg touches]
    split
    · rename_i low
      refine corrects .press v.cycleStartedMs (ready (.inl ?_))
      unfold isBelow
      rw [tolerated]
      exact decide_eq_true low
    split
    · exact held
    rename_i high
    split
    · refine corrects .release v.cycleStartedMs (ready (.inr ?_))
      unfold isAbove
      rw [tolerated]
      exact decide_eq_true (not_le.mp high)
    · exact held
  split
  · rename_i holding
    have tolerated : tolerance v = v.config.holdExitToleranceUnits := if_pos holding
    have ready (out : isBelow v = true ∨ isAbove v = true) : correctionReady v = true := by
      unfold correctionReady
      rw [holding, stored, decide_eq_true contact]
      rcases out with below | above
      · rw [below]
        rfl
      · rw [above, Bool.or_true]
        rfl
    unfold classifyHoldSample
    rw [if_neg touches]
    split
    · rename_i low
      refine corrects .press now (ready (.inl ?_))
      unfold isBelow
      rw [tolerated]
      exact decide_eq_true low
    split
    · rename_i high
      refine corrects .release now (ready (.inr ?_))
      unfold isAbove
      rw [tolerated]
      exact decide_eq_true high.1
    · rw [disableOrFault_sound sound]
      rfl
  · rfl

end

/-! ### In exact arithmetic -/

section
open FloatOps (rational)

variable {env : Platform ℚ Exec} {u v w w' : System ℚ Exec} {p : Sample}

def suggestion (env : Platform ℚ Exec) (p : Sample) (now : U32) (w : System ℚ Exec) : ℚ :=
  (calculated env p now w).pi.snapshot.limitedOutputMv

def rounded (x : ℚ) : ℕ := ⌊x + 1 / 2⌋.toNat

def outputLimit (c : PiConfig ℚ) : Direction → ℚ
  | .press => c.outputMaxMv
  | .release => -c.outputMinMv

theorem rounded_mono {x y : ℚ} (le : x ≤ y) : rounded x ≤ rounded y := by
  apply Int.toNat_le_toNat
  apply Int.floor_le_floor
  linarith

/-- What a correction in answer to the sample asks for. -/
structure Aimed (env : Platform ℚ Exec) (p : Sample) (now : U32) (w : System ℚ Exec) (request : StartCall) : Prop where
  press : request.direction = .press → p.control < w.targetUnits - tolerance w ∧ 1 ≤ suggestion env p now w
  release : request.direction = .release → w.targetUnits + tolerance w < p.control ∧
    suggestion env p now w ≤ -1 ∧ w.config.benchReleaseCorrectionEnabled = true
  plain : ¬ (env.policy.isAutoTarget = true ∧ request.direction = .press) →
    request.commandMv.toNat = rounded |suggestion env p now w| ∧
      request.commandMv.toNat ≤ rounded (outputLimit w.pi.config request.direction)
  mapped : env.policy.isAutoTarget = true → request.direction = .press →
    request = pressCall env now (answering env (store p w)) ∧ request.commandMv ≤ w.config.pulseCommandMv

theorem forcePiMagnitudeValid_iff {m : ℚ} (nonneg : 0 ≤ m) (d : Direction) :
    forcePiMagnitudeValid rational m d = true ↔ m ≤ 24000 := by
  have rounds (one : 1 ≤ m) (most : m ≤ 24000) : 0 < rounded m ∧ rounded m ≤ 24000 := by
    have least : rounded 1 ≤ rounded m := rounded_mono one
    have largest : rounded m ≤ rounded 24000 := rounded_mono most
    have one_ : rounded 1 = 1 := by
      unfold rounded
      norm_num
    have top : rounded 24000 = 24000 := by
      unfold rounded
      norm_num
      rfl
    omega
  unfold forcePiMagnitudeValid
  simp only [rational, FloatOps.zero, FloatOps.one, FloatOps.half, Bool.not_true, Bool.false_or, Bool.or_eq_true,
    decide_eq_true_eq, Int.cast_zero, Int.cast_one, supplyReferenceMv]
  constructor
  · intro valid
    split at valid
    · cases valid
    · rename_i within
      push_cast at within
      exact not_lt.mp (not_or.mp within).2
  · intro most
    rw [if_neg]
    · split
      · rfl
      · rename_i one
        obtain ⟨some_, top⟩ := rounds (not_lt.mp one) most
        have same : (m + 1 / 2).floor.toNat = rounded m := rfl
        unfold planCommand
        norm_num only [Int.cast_ofNat]
        rw [same, if_neg (by unfold supplyReferenceMv; omega)]
        cases d <;> rfl
    · push_cast
      rintro (negative | beyond)
      · exact absurd nonneg (not_le.mpr negative)
      · exact absurd most (not_le.mpr beyond)

/-- The limits of an accepted strategy are commands that its directions can be given. -/
theorem limits_of_fitted (exact_ : env.ops = rational) (fitted : Fitted env w) :
    w.pi.config.outputMaxMv ≤ 24000 ∧ -24000 ≤ w.pi.config.outputMinMv := by
  obtain ⟨c, accepts, effective⟩ := fitted.accepted
  unfold acceptsPi at accepts
  rw [exact_] at accepts
  simp only [Bool.and_eq_true, Bool.not_eq_true'] at accepts
  obtain ⟨⟨⟨⟨⟨-, low⟩, high⟩, release⟩, press⟩, -⟩ := accepts
  simp only [rational, FloatOps.zero, decide_eq_false_iff_not, Int.cast_zero, not_lt] at low high
  have least := (forcePiMagnitudeValid_iff (by show 0 ≤ -c.outputMinMv; linarith) .release).mp release
  have most := (forcePiMagnitudeValid_iff high .press).mp press
  change -c.outputMinMv ≤ 24000 at least
  have zero : env.ops.zero = 0 := by
    rw [exact_]
    exact Int.cast_zero
  rw [effective]
  unfold effectivePi
  split
  · exact ⟨most, by linarith⟩
  · exact ⟨most, by rw [zero]; norm_num⟩

structure Reckoned (env : Platform ℚ Exec) (p : Sample) (now : U32) (w : System ℚ Exec) : Prop where
  posed : Posed env (store p w) (checked env p now w)
  observed : Observed env (checked env p now w) (calculated env p now w)
  limited : w.pi.config.outputMinMv ≤ suggestion env p now w ∧ suggestion env p now w ≤ w.pi.config.outputMaxMv

theorem reckoned (exact_ : env.ops = rational) (fitted : Fitted env w) {p : Sample}
    (posed : Posed env (store p w) (checked env p now w))
    (done_ : (observeForcePi env now (checked env p now w)).1 = true) : Reckoned env p now w := by
  have pi : (checked env p now w).pi = w.pi := posed.pi
  have sound : PiSequence.Sound (checked env p now w).pi.config (checked env p now w).pi.state := by
    rw [pi]
    exact fitted.sound
  have observed := observeForcePi_observed exact_ sound done_
  refine ⟨posed, observed, ?_⟩
  obtain ⟨integrate, next, result, calculates, snapshot⟩ := observed.suggestion
  have limited := (calculate_updated exact_ sound calculates).limited rfl
  unfold suggestion calculated
  rw [snapshot, ← pi]
  exact limited

namespace Reckoned

theorem still (reckoned : Reckoned env p now w) :
    isBelow (calculated env p now w) = isBelow (checked env p now w) ∧
      isAbove (calculated env p now w) = isAbove (checked env p now w) ∧
      correctionReady (calculated env p now w) = correctionReady (checked env p now w) := by
  rw [reckoned.observed.only]
  exact ⟨rfl, rfl, rfl⟩

theorem magnitude (exact_ : env.ops = rational) (fitted : Fitted env w) (reckoned : Reckoned env p now w) :
    |suggestion env p now w| ≤ 24000 := by
  have limits := limits_of_fitted exact_ fitted
  rw [abs_le]
  exact ⟨limits.2.trans reckoned.limited.1, reckoned.limited.2.trans limits.1⟩

theorem sided (exact_ : env.ops = rational) (reckoned : Reckoned env p now w)
    (idle : forcePiMotorIdle env (checked env p now w) = true) {expected : Direction} {request : StartCall}
    (posed : Posed env (calculated env p now w) v) (ready : correctionReady (calculated env p now w) = true)
    (out : if expected = .press then isBelow (calculated env p now w) = true else isAbove (calculated env p now w) = true)
    (correcting : Correcting env expected v request) :
    expected = request.direction ∧
      (request.direction = .press → isBelow (store p w) = true ∧ 1 ≤ suggestion env p now w) ∧
      (request.direction = .release → isAbove (store p w) = true ∧ suggestion env p now w ≤ -1) := by
  obtain ⟨below_, above_, ready_⟩ := reckoned.still
  rw [ready_] at ready
  rw [below_, above_, reckoned.posed.isBelow, reckoned.posed.isAbove] at out
  have zero : env.ops.zero = 0 := by
    rw [exact_]
    exact Int.cast_zero
  have less (x y : ℚ) : env.ops.lt x y = decide (x < y) := by
    rw [exact_]
    rfl
  obtain ⟨-, ⟨toward, -⟩, large, direction, -⟩ := correcting
  rw [posed.pi] at toward large direction
  have plain := reckoned.observed.directed ready idle toward
  change env.ops.lt (env.ops.abs (suggestion env p now w)) env.ops.one = false at large
  change request.direction = if env.ops.lt env.ops.zero (suggestion env p now w) then .press else .release at direction
  change pointsAway env (checked env p now w) (suggestion env p now w) = false at plain
  have least : 1 ≤ |suggestion env p now w| := by
    rw [exact_] at large
    simpa [rational, FloatOps.one] using large
  unfold pointsAway at plain
  rw [reckoned.posed.isBelow, reckoned.posed.isAbove, less, less, zero] at plain
  rw [less, zero] at direction
  cases expected with
  | press =>
    rw [if_pos rfl] at out
    rw [out, Bool.true_and] at plain
    have positive := not_lt.mp (of_decide_eq_false (Bool.or_eq_false_iff.mp plain).2)
    rw [abs_of_nonneg positive] at least
    rw [decide_eq_true (by linarith), if_pos rfl] at direction
    rw [direction]
    exact ⟨rfl, fun _ => ⟨out, least⟩, fun wrong => Direction.noConfusion wrong⟩
  | release =>
    rw [if_neg (by decide)] at out
    rw [out, Bool.true_and] at plain
    have negative := not_lt.mp (of_decide_eq_false (Bool.or_eq_false_iff.mp plain).1)
    rw [abs_of_nonpos negative] at least
    rw [decide_eq_false (not_lt.mpr negative), if_neg Bool.false_ne_true] at direction
    rw [direction]
    exact ⟨rfl, fun wrong => Direction.noConfusion wrong, fun _ => ⟨out, by linarith⟩⟩

theorem unmapped (exact_ : env.ops = rational) (fitted : Fitted env w) (reckoned : Reckoned env p now w)
    {expected : Direction} {request : StartCall} (posed : Posed env (calculated env p now w) v)
    (correcting : Correcting env expected v request) (plain : mapped env v expected = false) :
    request.commandMv.toNat = rounded |suggestion env p now w| := by
  have most : rounded |suggestion env p now w| ≤ rounded 24000 := rounded_mono (reckoned.magnitude exact_ fitted)
  have top : rounded 24000 = 24000 := by
    unfold rounded
    norm_num
    rfl
  have command := correcting.commandMv
  rw [plain, posed.pi] at command
  have same : correctionMv env false (env.ops.abs (calculated env p now w).pi.snapshot.limitedOutputMv) v =
      BitVec.ofNat 32 (rounded |suggestion env p now w|) := by
    unfold correctionMv
    rw [if_neg Bool.false_ne_true, exact_]
    unfold rounded
    simp [rational, FloatOps.half, suggestion]
    rfl
  rw [if_neg Bool.false_ne_true, same] at command
  rw [command, BitVec.toNat_ofNat]
  exact Nat.mod_eq_of_lt (by omega)

theorem aimed (exact_ : env.ops = rational) (fitted : Fitted env w) (reckoned : Reckoned env p now w)
    (idle : forcePiMotorIdle env (checked env p now w) = true) {expected : Direction} {request : StartCall}
    (posed : Posed env (calculated env p now w) v) (ready : correctionReady (calculated env p now w) = true)
    (out : if expected = .press then isBelow (calculated env p now w) = true else isAbove (calculated env p now w) = true)
    (correcting : Correcting env expected v request)
    (mapped : env.policy.isAutoTarget = true → request.direction = .press →
      request = pressCall env now (answering env (store p w)) ∧ request.commandMv ≤ w.config.pulseCommandMv) :
    Aimed env p now w request := by
  obtain ⟨is, press, release⟩ := reckoned.sided exact_ idle posed ready out correcting
  refine ⟨fun pressing => ?_, fun releasing => ?_, fun plain => ?_, mapped⟩
  · obtain ⟨below, least⟩ := press pressing
    exact ⟨of_decide_eq_true below, least⟩
  · obtain ⟨above, least⟩ := release releasing
    refine ⟨of_decide_eq_true above, least, ?_⟩
    have bench : (checked env p now w).config.benchReleaseCorrectionEnabled = w.config.benchReleaseCorrectionEnabled :=
      congrArg _ reckoned.posed.config
    rw [← bench]
    by_contra shut
    have blocked := reckoned.observed.released (reckoned.still.2.2 ▸ ready) idle (reckoned.posed.isAbove.trans above)
      (Bool.eq_false_iff.mpr shut)
    have free := correcting.free
    rw [posed.pi] at free
    rcases blocked with wrong | disabled
    · exact free.1 wrong
    · exact free.2 disabled
  · have flag : Corrections.mapped env v expected = false := by
      unfold Corrections.mapped
      rw [is, Bool.and_assoc]
      by_contra on
      simp only [Bool.not_eq_false, Bool.and_eq_true, decide_eq_true_eq] at on
      exact plain ⟨on.1, on.2.1⟩
    have command := reckoned.unmapped exact_ fitted posed correcting flag
    refine ⟨command, ?_⟩
    rw [command]
    apply rounded_mono
    cases direction : request.direction with
    | press =>
      rw [abs_of_nonneg (by linarith [(press direction).2])]
      exact reckoned.limited.2
    | release =>
      rw [abs_of_nonpos (by linarith [(release direction).2])]
      exact neg_le_neg reckoned.limited.1

end Reckoned

/-! ### A sample whose suggestion points away -/

theorem calculates (exact_ : env.ops = rational) {s : PiState ℚ} {integrate : Bool}
    (accepts : acceptsUpdate rational w.pi.config s (rational.ofInt w.targetUnits)
      (rational.ofInt w.pressure.control) (elapsedSeconds env w) integrate = true) :
    ∃ outcome, calculate env s integrate w = some outcome := by
  have valid : configIsValid rational w.pi.config = true := by
    unfold acceptsUpdate at accepts
    simp only [Bool.and_eq_true] at accepts
    exact accepts.1.1.1.1.1.1.1.1.2
  obtain ⟨integral, found, -⟩ := @PiSequence.integrated_eq w.pi.config s (elapsedSeconds env w) integrate valid
    (w.targetUnits - w.pressure.control)
  unfold calculate
  rw [exact_]
  unfold update
  rw [if_neg (by rw [accepts]; exact Bool.noConfusion)]
  simp only [rational, Bool.not_true, Bool.or_self, Bool.false_eq_true, if_false] at found ⊢
  rw [found]
  exact ⟨_, rfl⟩

theorem observeForcePi_done (exact_ : env.ops = rational) (wrong : WrongWay env w) :
    (observeForcePi env now w).1 = true := by
  obtain ⟨integrate, next, result, done_, -⟩ := wrong
  have accepted : acceptsUpdate rational w.pi.config w.pi.state (rational.ofInt w.targetUnits)
      (rational.ofInt w.pressure.control) (elapsedSeconds env w) integrate = true := by
    unfold calculate at done_
    rw [exact_] at done_
    by_contra refused
    unfold update at done_
    rw [if_pos (by rw [Bool.eq_false_iff.mpr refused]; rfl)] at done_
    cases done_
  have accepts (flag : Bool) (passes : flag = true → env.ops.lt env.ops.zero (elapsedSeconds env w) = true) :
      acceptsUpdate rational w.pi.config w.pi.state (rational.ofInt w.targetUnits)
        (rational.ofInt w.pressure.control) (elapsedSeconds env w) flag = true := by
    unfold acceptsUpdate at accepted ⊢
    simp only [Bool.and_eq_true] at accepted ⊢
    refine ⟨⟨accepted.1.1, ?_⟩, accepted.2⟩
    cases flag with
    | false => rw [Bool.and_false]; rfl
    | true =>
      have later := passes rfl
      rw [exact_] at later
      simp only [rational, FloatOps.zero, decide_eq_true_eq] at later ⊢
      rw [decide_eq_false (ne_of_gt later)]
      rfl
  obtain ⟨⟨previewState, preview⟩, first⟩ := calculates exact_ (accepts false Bool.noConfusion)
  have passes : (inhibition env preview w).2.2 = true → env.ops.lt env.ops.zero (elapsedSeconds env w) = true := by
    intro flag
    unfold inhibition at flag
    split at flag
    · cases flag
    split at flag
    · cases flag
    split at flag
    · cases flag
    split at flag
    · cases flag
    · exact flag
  obtain ⟨outcome, second⟩ := calculates exact_ (accepts _ passes)
  unfold observeForcePi
  rw [first]
  dsimp only
  rw [second]

/-- The sample is accepted by a running machine and passes its checks. -/
structure Reaches (env : Platform F Exec) (p : Sample) (now : U32) (w : System F Exec) : Prop where
  valid : Valid p = true
  newer : notLater p w = false
  ordered : receivedBefore env p w = false
  within : overLimit p (store p w) = false
  running : isAutomatic w.state = true
  gated : beforeGate env p (checked env p now w) = false
  passes : (checked env p now w).state ≠ .fault

theorem handlePressureSample_reaches (enabled : w.pi.enabled = true) (reaches : Reaches env p now w)
    (done_ : (observeForcePi env now (checked env p now w)).1 = true) :
    handlePressureSample env p now w =
      if decide ((calculated env p now w).state = .autoSettle ∨ (calculated env p now w).state = .autoHold) &&
          !forcePiMotorIdle env (calculated env p now w) then calculated env p now w
      else actOn env p now (trackPeak env p now (calculated env p now w)) := by
  have on : ((store p w).pi.enabled && isAutomatic (store p w).state) = true := by
    show (w.pi.enabled && isAutomatic w.state) = true
    rw [enabled, reaches.running]
    rfl
  unfold handlePressureSample acceptSample supervise
  rw [if_neg (by rw [reaches.valid]; exact Bool.noConfusion),
    if_neg (by rw [reaches.newer]; exact Bool.false_ne_true),
    if_neg (by rw [reaches.ordered]; exact Bool.false_ne_true),
    if_neg (by rw [reaches.within]; exact Bool.false_ne_true), if_pos on]
  dsimp only
  have gated : beforeGate env p (checkPressureSafety env now (store p w)) = false := reaches.gated
  have passes : (checkPressureSafety env now (store p w)).state ≠ .fault := reaches.passes
  rw [gated, if_neg Bool.false_ne_true, if_neg passes]
  unfold calculated
  change (observeForcePi env now (checkPressureSafety env now (store p w))).1 = true at done_
  unfold checked
  generalize observeForcePi env now (checkPressureSafety env now (store p w)) = outcome at done_
  obtain ⟨flag, v⟩ := outcome
  dsimp only at done_ ⊢
  subst done_
  dsimp only
  cases decide (v.state = .autoSettle ∨ v.state = .autoHold) && !forcePiMotorIdle env v <;> rfl

theorem integral_zero (exact_ : env.ops = rational) (auto : env.policy.isAutoTarget = true) (fitted : Fitted env w) :
    w.pi.state.integralMv = 0 := by
  obtain ⟨c, accepts, effective⟩ := fitted.accepted
  apply fitted.sound.proportional
  unfold acceptsPi at accepts
  rw [auto, exact_] at accepts
  simp only [Bool.and_eq_true, Bool.not_true, Bool.false_or] at accepts
  have bounds := accepts.2
  unfold withinAutoTargetPi at bounds
  simp only [Bool.and_eq_true, rational, FloatOps.zero, decide_eq_true_eq, Int.cast_zero] at bounds
  have kept : (effectivePi env w.config c).kiMvPerUnitS = c.kiMvPerUnitS := by
    unfold effectivePi
    split
    · rfl
    · rfl
  rw [effective, kept]
  exact bounds.1.1.1.1

theorem checked_locked (locked : env.policy.isAutoTarget = false) (passes : (checked env p now w).state ≠ .fault) :
    checked env p now w = store p w := by
  have off (v : System ℚ Exec) : checkContact env now v = v := by
    unfold checkContact
    rw [if_neg (by rw [locked]; exact Bool.false_ne_true)]
  have either : (checked env p now w).state = .fault ∨ checked env p now w = store p w := by
    unfold checked checkPressureSafety
    split
    · exact .inr rfl
    split
    · exact .inl rfl
    split
    · exact .inr rfl
    split
    · exact .inl rfl
    rw [off]
    split
    · exact .inl rfl
    · exact .inr rfl
  exact either.resolve_left passes

/-- In contact, a suggestion that points away leaves the integral. -/
theorem integral_kept (exact_ : env.ops = rational) (sound : env.executor.Sound) (fitted : Fitted env w)
    (enabled : w.pi.enabled = true) (reaches : Reaches env p now w)
    (contact : w.config.contactThresholdUnits ≤ p.control) (wrong : WrongWay env (checked env p now w)) :
    (handlePressureSample env p now w).pi.state.integralMv = w.pi.state.integralMv := by
  cases auto : env.policy.isAutoTarget with
  | true =>
    rw [integral_zero exact_ auto fitted,
      integral_zero exact_ auto ((handlePressureSample_steady exact_ now p w).2 fitted)]
  | false =>
    have same := checked_locked auto reaches.passes
    have done_ := @observeForcePi_done _ now env _ exact_ wrong
    have posed : Posed env (store p w) (checked env p now w) := same ▸ .refl _
    have reckoned := reckoned exact_ fitted posed done_
    have only := reckoned.observed.only
    have frozen : (calculated env p now w).pi.state.integralMv = w.pi.state.integralMv :=
      (reckoned.observed.frozen wrong).trans (by rw [posed.pi]; rfl)
    have still : (trackPeak env p now (calculated env p now w)) = calculated env p now w := by
      unfold trackPeak
      rw [if_neg (by rw [auto]; exact Bool.false_ne_true)]
    rw [handlePressureSample_reaches enabled reaches done_, still]
    split
    · exact frozen
    rename_i free
    refine (congrArg PiState.integralMv (actOn_locked sound auto ?_ p ?_ ?_ ?_ ?_)).trans frozen
    · exact (reckoned.observed.enabled.trans (by rw [posed.pi]; rfl)).trans enabled
    · rw [only]
      exact posed.pressure
    · rw [only]
      show (checked env p now w).config.contactThresholdUnits ≤ p.control
      rw [posed.config]
      exact contact
    · intro expected
      rw [exact_]
      exact (forcePiMagnitudeValid_iff (abs_nonneg _) expected).mpr (reckoned.magnitude exact_ fitted)
    · intro ready
      have ready_ := reckoned.still.2.2 ▸ ready
      apply reckoned.observed.inhibited wrong ready_
      have resting : (calculated env p now w).state = .autoSettle ∨ (calculated env p now w).state = .autoHold := by
        unfold correctionReady at ready
        simp only [Bool.and_eq_true, Bool.or_eq_true, decide_eq_true_eq] at ready
        rcases ready.1.1 with holding | ⟨⟨settling, -⟩, -⟩
        · exact .inr holding
        · exact .inl settling
      have idle : forcePiMotorIdle env (calculated env p now w) = true := by
        rw [decide_eq_true resting, Bool.true_and] at free
        simpa using free
      rw [only] at idle
      exact idle

/-- Without AutoTarget, a sample that causes no fault leaves the strategy alone once it has been calculated on. -/
theorem actOn_integral (locked : env.policy.isAutoTarget = false) (going : (actOn env p now v).state ≠ .fault) :
    (actOn env p now v).pi.state = v.pi.state := by
  unfold actOn at going ⊢
  by_cases approaching : v.state = .autoApproach ∧ v.config.contactThresholdUnits ≤ p.control
  · rw [if_pos approaching] at going ⊢
    unfold contactApproach at going ⊢
    rw [if_neg (by rw [locked]; exact Bool.false_ne_true)] at going ⊢
    exact (enterSettle_carried env now v).integral going
  rw [if_neg approaching] at going ⊢
  by_cases waited : v.state = .autoSettle ∧ v.settlePhase = .waitSample ∧ v.settleGateSequence < p.sequence
  · rw [if_pos waited] at going ⊢
    unfold judgeSettled at going ⊢
    rw [if_neg (by rw [locked]; exact Bool.false_ne_true)] at going ⊢
    exact (classifySettledSample_carried v).integral going
  rw [if_neg waited] at going ⊢
  by_cases holding : v.state = .autoHold
  · rw [if_pos holding] at going ⊢
    rcases @classifyHoldSample_cases _ _ env now v with carried | rests
    · exact carried.integral going
    · rw [rests] at going ⊢
      exact (disableOrFault_carried env now v).integral going
  · rw [if_neg holding]

/-- A suggestion that points away leaves the integral, where the sample causes no fault. -/
theorem integral_kept_going (exact_ : env.ops = rational) (fitted : Fitted env w)
    (enabled : w.pi.enabled = true) (reaches : Reaches env p now w) (wrong : WrongWay env (checked env p now w))
    (going : (handlePressureSample env p now w).state ≠ .fault) :
    (handlePressureSample env p now w).pi.state.integralMv = w.pi.state.integralMv := by
  cases auto : env.policy.isAutoTarget with
  | true =>
    rw [integral_zero exact_ auto fitted,
      integral_zero exact_ auto ((handlePressureSample_steady exact_ now p w).2 fitted)]
  | false =>
    have same := checked_locked auto reaches.passes
    have done_ := @observeForcePi_done _ now env _ exact_ wrong
    have posed : Posed env (store p w) (checked env p now w) := same ▸ .refl _
    have frozen : (calculated env p now w).pi.state.integralMv = w.pi.state.integralMv :=
      ((reckoned exact_ fitted posed done_).observed.frozen wrong).trans (by rw [posed.pi]; rfl)
    have still : (trackPeak env p now (calculated env p now w)) = calculated env p now w := by
      unfold trackPeak
      rw [if_neg (by rw [auto]; exact Bool.false_ne_true)]
    rw [handlePressureSample_reaches enabled reaches done_, still] at going ⊢
    split
    · exact frozen
    · rename_i free
      rw [if_neg free] at going
      exact (congrArg PiState.integralMv (actOn_integral auto going)).trans frozen

theorem unanswered (exact_ : env.ops = rational) (fitted : Fitted env w) (enabled : w.pi.enabled = true)
    (resting : w.state = .autoSettle ∨ w.state = .autoHold) (wrong : WrongWay env (checked env p now w)) :
    env.executor.Aside w.exec (handlePressureSample env p now w).exec ∨
      p.control < w.config.contactThresholdUnits ∧ (handlePressureSample env p now w).state ≠ .autoPulse := by
  rcases handlePressureSample_answer enabled resting p with aside | ⟨posed, done_, idle, answer⟩
  · exact .inl aside
  have reckoned := reckoned exact_ fitted posed done_
  have exec : (calculated env p now w).exec = (checked env p now w).exec := by rw [reckoned.observed.only]
  cases answer with
  | quiet aside => exact .inl (posed.aside.trans (exec ▸ aside))
  | approaches request x aside tried state low =>
    rw [reckoned.observed.only] at low
    change (checked env p now w).pressure.control < (checked env p now w).config.contactThresholdUnits at low
    rw [posed.pressure, posed.config] at low
    exact .inr ⟨low, state⟩
  | corrects expected v request asks tried ready out correcting =>
    have free := correcting.free
    rw [asks.pi] at free
    rcases reckoned.observed.inhibited wrong (reckoned.still.2.2 ▸ ready) idle with away | shut
    · exact absurd away free.1
    · exact absurd shut free.2

end

/-! ### Every run -/

section
open FloatOps (rational)

variable {env : Platform ℚ Exec} {w : System ℚ (Exec × List (StartCall × Bool))}

theorem tried_log {request : StartCall} {x y : Exec × List (StartCall × Bool)} (tried : Tried env.logged request x y) :
    ∃ taken, y.2 = (request, taken) :: x.2 := by
  rcases tried with rfl | rfl
  · exact ⟨_, rfl⟩
  · exact ⟨_, rfl⟩

theorem aside_log {x y : Exec × List (StartCall × Bool)} (aside : env.logged.executor.Aside x y) : y.2 = x.2 :=
  PulseExecutor.logged_aside aside

theorem mapped_call {p : Sample} {now : U32} (auto : env.policy.isAutoTarget = true) (exact_ : env.ops = rational)
    (enabled : w.pi.enabled = true) {request : StartCall} {taken : Bool}
    (log : (handlePressureSample env.logged p now w).exec.2 = (request, taken) :: w.exec.2)
    (contact : w.config.contactThresholdUnits ≤ p.control) (press : request.direction = .press) :
    request = pressCall env.logged now (answering env.logged (store p w)) ∧
      request.commandMv ≤ w.config.pulseCommandMv := by
  have least : (pressCall env.logged now (answering env.logged (store p w))).commandMv ≤ w.config.pulseCommandMv := by
    rw [BitVec.le_def, PressBoost.pressCall_command]
    exact min_le_left _ _
  have silent (same : (handlePressureSample env.logged p now w).exec.2 = w.exec.2) : False := by
    rw [same] at log
    exact absurd (congrArg List.length log) (by simp)
  have asked {call : StartCall} {flag : Bool}
      (filed : (handlePressureSample env.logged p now w).exec.2 = (call, flag) :: w.exec.2) : request = call :=
    congrArg Prod.fst (List.cons.inj (log.symm.trans filed)).1
  have signed : env.logged.ops.Signed := by
    show env.ops.Signed
    rw [exact_]
    exact FloatOps.rational_signed
  rcases @handlePressureSample_sampled _ _ env.logged auto signed p now w (fun _ => enabled) with aside | sampled
  · exact (silent (aside_log aside)).elim
  cases sampled with
  | kept aside press ended state phase => exact (silent (aside_log aside)).elim
  | outside aside press away => exact (silent (aside_log aside)).elim
  | cleared aside press => exact (silent (aside_log aside)).elim
  | peaked aside peak press ended pulse state => exact (silent (aside_log aside)).elim
  | judged aside judges press state phase => exact (silent (aside_log aside)).elim
  | lost call x aside tried low _ => exact absurd contact (not_le.mpr low)
  | released call x aside tried direction _ =>
    obtain ⟨flag, filed⟩ := tried_log tried
    rw [aside_log aside] at filed
    rw [asked filed, direction] at press
    exact Direction.noConfusion press
  | pressed x aside answered low took exec state _ pressure =>
    obtain ⟨flag, filed⟩ := tried_log (.inl exec)
    rw [aside_log aside] at filed
    exact ⟨asked filed, asked filed ▸ least⟩
  | refused x aside answered low untaken tried _ =>
    obtain ⟨flag, filed⟩ := tried_log tried
    rw [aside_log aside] at filed
    exact ⟨asked filed, asked filed ▸ least⟩

/-- A start that is no command answers a sample, in SETTLE or HOLD. -/
theorem sampled_of_starts {e : Event ℚ} (starts : (call env.logged w e).exec.2 ≠ w.exec.2) :
    w.state = .idle ∨
      ∃ p, e = .handlePressureSample p (instant e) ∧ (w.state = .autoSettle ∨ w.state = .autoHold) := by
  obtain ⟨c, next, arrives, may⟩ := mayStart_of_starts starts
  have state : c.state = w.state := (Arrives.same arrives).1
  rcases may with ⟨⟨-, idle, -⟩, -⟩ | ⟨-, idle, -⟩ | ⟨⟨p, asked, answers⟩, -⟩
  · exact .inl (state.symm.trans idle)
  · exact .inl (state.symm.trans idle)
  · right
    refine ⟨p, asked, ?_⟩
    rcases answers with judges | ⟨-, -, holding⟩
    · exact .inl (state.symm.trans judges.2.2.1)
    · exact .inr (state.symm.trans holding)

/-- A sample answered by a request: an approach without contact, or an aimed correction. -/
theorem answered_aimed {p : Sample} {now : U32} (exact_ : env.ops = rational) (fitted : Fitted env.logged w)
    (enabled : w.pi.enabled = true) (resting : w.state = .autoSettle ∨ w.state = .autoHold) {request : StartCall}
    {taken : Bool} (log : (handlePressureSample env.logged p now w).exec.2 = (request, taken) :: w.exec.2) :
    p.control < w.config.contactThresholdUnits ∧ (handlePressureSample env.logged p now w).state ≠ .autoPulse ∨
      Aimed env.logged p now w request := by
  have exact' : env.logged.ops = rational := exact_
  have starts : (handlePressureSample env.logged p now w).exec.2 ≠ w.exec.2 := by
    rw [log]
    intro same
    exact absurd (congrArg List.length same) (by simp)
  rcases @handlePressureSample_answer _ _ env.logged now w enabled resting p with aside | ⟨posed, done_, idle, answer⟩
  · exact absurd (aside_log aside) starts
  have reckoned : Reckoned env.logged p now w := reckoned exact' fitted posed done_
  have exec : (calculated env.logged p now w).exec = (checked env.logged p now w).exec := by
    rw [reckoned.observed.only]
  cases answer with
  | quiet aside =>
    rw [exec] at aside
    exact absurd (aside_log (posed.aside.trans aside)) starts
  | approaches call x aside tried state low =>
    rw [reckoned.observed.only] at low
    change (checked env.logged p now w).pressure.control < (checked env.logged p now w).config.contactThresholdUnits at low
    rw [posed.pressure, posed.config] at low
    exact .inl ⟨low, state⟩
  | corrects expected v call asks tried ready out correcting =>
    right
    have contact : w.config.contactThresholdUnits ≤ p.control := by
      have touches := reckoned.still.2.2.symm.trans ready
      rw [posed.correctionReady] at touches
      unfold correctionReady at touches
      simp only [Bool.and_eq_true, decide_eq_true_eq] at touches
      exact touches.1.2
    obtain ⟨flag, filed⟩ := tried_log tried
    have waits := asks.aside
    rw [exec] at waits
    have quiet : v.exec.2 = w.exec.2 := aside_log (posed.aside.trans waits)
    rw [quiet] at filed
    have same : request = call := congrArg Prod.fst (List.cons.inj (log.symm.trans filed)).1
    rw [← same] at correcting
    have mapped (auto : env.logged.policy.isAutoTarget = true) (press : request.direction = .press) :
        request = pressCall env.logged now (answering env.logged (store p w)) ∧
          request.commandMv ≤ w.config.pulseCommandMv :=
      @mapped_call _ env w p now auto exact_ enabled request taken log contact press
    exact reckoned.aimed exact' fitted idle asks ready out correcting mapped

/-- In every run with the strategy enabled, a correction from SETTLE or HOLD answers a sample beyond the state's
tolerance, towards the target, by the rounded suggestion within the limit of its direction or by the mapped command;
and a sample whose suggestion points away is answered by no correction and leaves the integral. Without contact there
is no correction: the machine approaches again. -/
theorem correction_direction {env : Platform ℚ Exec} (exact_ : env.ops = rational) (sound : env.executor.Sound)
    {past : History ℚ Exec} {w : System ℚ (Exec × List (StartCall × Bool))} (reachable : Reachable env.logged past w)
    (enabled : w.pi.enabled = true) :
    (∀ e request taken, (call env.logged w e).exec.2 = (request, taken) :: w.exec.2 →
      w.state = .autoSettle ∨ w.state = .autoHold → ∃ p now, e = .handlePressureSample p now ∧
        (p.control < w.config.contactThresholdUnits ∧ (call env.logged w e).state ≠ .autoPulse ∨
          Aimed env.logged p now w request)) ∧
      ∀ p now, Reaches env.logged p now w → WrongWay env.logged (checked env.logged p now w) →
        ((handlePressureSample env.logged p now w).exec.2 = w.exec.2 ∨ p.control < w.config.contactThresholdUnits ∧
            (handlePressureSample env.logged p now w).state ≠ .autoPulse) ∧
          ((handlePressureSample env.logged p now w).pi.state.integralMv = w.pi.state.integralMv ∨
            p.control < w.config.contactThresholdUnits ∧ (handlePressureSample env.logged p now w).state = .fault) := by
  have exact' : env.logged.ops = rational := exact_
  have fitted : Fitted env.logged w := fitted_of_reachable exact' reachable enabled
  constructor
  · intro e request taken log resting
    have starts : (call env.logged w e).exec.2 ≠ w.exec.2 := by
      rw [log]
      intro same
      exact absurd (congrArg List.length same) (by simp)
    rcases sampled_of_starts starts with idle | ⟨p, asked, -⟩
    · rcases resting with settling | holding
      · exact absurd (idle.symm.trans settling) (by decide)
      · exact absurd (idle.symm.trans holding) (by decide)
    · generalize instant e = now at asked
      subst asked
      exact ⟨p, now, rfl, answered_aimed exact_ fitted enabled resting log⟩
  · intro p now reaches wrong
    constructor
    · by_cases resting : w.state = .autoSettle ∨ w.state = .autoHold
      · rcases unanswered exact' fitted enabled resting wrong with aside | approaches
        · exact .inl (aside_log aside)
        · exact .inr approaches
      · left
        by_contra starts
        have calls : (call env.logged w (.handlePressureSample p now)).exec.2 ≠ w.exec.2 := starts
        rcases sampled_of_starts calls with idle | ⟨-, -, rests⟩
        · have running := reaches.running
          rw [idle] at running
          exact absurd running (by decide)
        · exact resting rests
    · by_cases contact : w.config.contactThresholdUnits ≤ p.control
      · exact .inl (integral_kept exact' sound.logged fitted enabled reaches contact wrong)
      · by_cases fault : (handlePressureSample env.logged p now w).state = .fault
        · exact .inr ⟨not_le.mp contact, fault⟩
        · exact .inl (integral_kept_going exact' fitted enabled reaches wrong fault)

end

/-- A run that waits in SETTLE for the sample which the third press answers. -/
def correctionRun : List (Event ℚ) := PressBoost.boostRun.dropLast

def waiting : System ℚ (Motor.Locked.State × List (StartCall × Bool)) :=
  (playFrom autoTargetBench autoTargetConfig correctionRun).2

theorem correction_direction_bench :
    (waiting.state = .autoSettle ∧ (call autoTargetBench.logged waiting (benchSample 4 32 201)).state = .autoPulse) ∧
    (∀ e request taken, (call autoTargetBench.logged waiting e).exec.2 = (request, taken) :: waiting.exec.2 →
      waiting.state = .autoSettle ∨ waiting.state = .autoHold → ∃ p now, e = .handlePressureSample p now ∧
        (p.control < waiting.config.contactThresholdUnits ∧ (call autoTargetBench.logged waiting e).state ≠ .autoPulse ∨
          Aimed autoTargetBench.logged p now waiting request)) ∧
      ∀ p now, Reaches autoTargetBench.logged p now waiting →
        WrongWay autoTargetBench.logged (checked autoTargetBench.logged p now waiting) →
          ((handlePressureSample autoTargetBench.logged p now waiting).exec.2 = waiting.exec.2 ∨
              p.control < waiting.config.contactThresholdUnits ∧
                (handlePressureSample autoTargetBench.logged p now waiting).state ≠ .autoPulse) ∧
            ((handlePressureSample autoTargetBench.logged p now waiting).pi.state.integralMv =
                waiting.pi.state.integralMv ∨
              p.control < waiting.config.contactThresholdUnits ∧
                (handlePressureSample autoTargetBench.logged p now waiting).state = .fault) := by
  constructor
  · decide +kernel
  · have enabled : waiting.pi.enabled = true := by decide +kernel
    exact correction_direction rfl Motor.Locked.pulses_sound
      (reachable_playFrom autoTargetBench autoTargetConfig correctionRun) enabled

/-- A run of the locked build that has released twice from 300 towards 250, with an integral of -450 mV. -/
def releasedRun : List (Event ℚ) :=
  [.completeBoot true 1, .configureForcePi ⟨1, 200, -800, 1200, -500, 500, 10⟩ 1, .handleCommand ⟨.setTarget, 250⟩ 2,
    benchSample 1 300 3, .handleCommand ⟨.autoStart, 0⟩ 4, .tick 15, benchSample 2 300 16, .service 40,
    .handleMotorService 40, .tick 60, benchSample 3 300 61, .service 90, .handleMotorService 90, .tick 110]

def released : System ℚ (Motor.Locked.State × List (StartCall × Bool)) :=
  (playFrom lockedBench benchConfig releasedRun).2

def lostSample : Sample := ⟨4, 111, 0, [], 0, true, true⟩

theorem lostSample_reaches : Reaches lockedBench.logged lostSample 111 released where
  valid := by decide +kernel
  newer := by decide +kernel
  ordered := by decide +kernel
  within := by decide +kernel
  running := by decide +kernel
  gated := by decide +kernel
  passes := by decide +kernel

theorem lostSample_wrongWay : WrongWay lockedBench.logged (checked lockedBench.logged lostSample 111 released) := by
  have away : (calculate lockedBench.logged (checked lockedBench.logged lostSample 111 released).pi.state false
      (checked lockedBench.logged lostSample 111 released)).any (fun done_ => pointsAway lockedBench.logged
        (checked lockedBench.logged lostSample 111 released) done_.2.limitedOutputMv) = true := by
    decide +kernel
  obtain ⟨⟨next, result⟩, done_, points⟩ := (Option.any_eq_true _ _).mp away
  exact ⟨false, next, result, done_, points⟩

/-- A suggestion that points away does not keep the machine from an approach, where contact is lost. -/
theorem wrong_way_approaches : ¬ ∀ (env : Platform ℚ Motor.Locked.State), env.ops = FloatOps.rational →
    env.executor.Sound → ∀ past w, Reachable env.logged past w → w.pi.enabled = true → ∀ p now, Reaches env.logged p now w →
      WrongWay env.logged (checked env.logged p now w) →
        (handlePressureSample env.logged p now w).exec.2 = w.exec.2 ∧
          (handlePressureSample env.logged p now w).pi.state.integralMv = w.pi.state.integralMv := by
  intro every
  have enabled : released.pi.enabled = true := by decide +kernel
  have quiet := (every lockedBench rfl Motor.Locked.pulses_sound _ _
    (reachable_playFrom lockedBench benchConfig releasedRun) enabled lostSample 111 lostSample_reaches
    lostSample_wrongWay).1
  have starts : (handlePressureSample lockedBench.logged lostSample 111 released).exec.2.length =
      released.exec.2.length + 1 := by
    decide +kernel
  rw [show (handlePressureSample lockedBench.logged lostSample 111 released).exec.2 = released.exec.2 from quiet] at starts
  omega

end Sd700.Machine.Corrections
