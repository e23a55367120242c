import Sd700.Machine.Ownership
import Sd700.Machine.PressRamp

/-! What one call makes of the press feedback of AutoTarget: where a correction is noted, where it
completes, and where the sample that answers it is consumed. -/

namespace Sd700.Machine.PressSteps
open Logic.Floating Build.Contract Motor.Interface Motor.Pulses ForcePi Context Motion Handlers Outcomes PressRamp
open Servo.State (MachineFault FaultDetail CommandType CommandResult Command Sample)

variable {F Exec : Type}

/-! ### Consumption -/

def Current (w : System F Exec) : Prop :=
  w.diagnosticRequestSequence = w.press.requestSequence ∧ w.press.beforeSequence < w.pressure.sequence ∧
    (w.pressure.received - w.press.completedAtMs).toNat < 2 ^ 31

inductive Consumed (w : System F Exec) (next : PressFeedback) : Prop
  | nothing (idle : w.press.feedbackPending = false) (same : next = w.press)
  | reset (zero : next = .zero)
  | crossed (none_ : next.boostMv = 0) (fresh : next.lowResponseCount = 0) (spent : next.feedbackPending = false)
      (band : next.band = pressBand w) (flight : next.inFlight = w.press.inFlight)
  | effective (less : next.boostMv ≤ w.press.boostMv) (fresh : next.lowResponseCount = 0)
      (spent : next.feedbackPending = false) (band : next.band = pressBand w) (same : w.press.band = pressBand w)
      (flight : next.inFlight = w.press.inFlight)
  /-- The first low response of a streak only counts. -/
  | low (pending : w.press.feedbackPending = true) (current : Current w)
      (small : w.pressure.control - w.pressEndedUnits < 2)
      (far : pressBand w ≠ 1) (same : w.press.band = pressBand w) (first : w.press.lowResponseCount = 0)
      (next_ : next = { w.press with lowResponseCount := 1, feedbackPending := false })
  | raised (pending : w.press.feedbackPending = true) (current : Current w)
      (small : w.pressure.control - w.pressEndedUnits < 2)
      (far : pressBand w ≠ 1) (same : w.press.band = pressBand w) (second : 1 ≤ w.press.lowResponseCount)
      (next_ : next = { w.press with
        boostMv := min (w.press.boostMv + 300) (pressBoostLimit w), lowResponseCount := 0, feedbackPending := false })

/-- However a sample is consumed, the boost stays within the cap of its band. -/
theorem Consumed.cap {w : System F Exec} {next : PressFeedback} (cap : w.press.boostMv ≤ bandLimit w.press.band)
    (consumed : Consumed w next) : next.boostMv ≤ bandLimit next.band := by
  cases consumed with
  | nothing idle same =>
    rw [same]
    exact cap
  | reset zero =>
    rw [zero]
    exact Nat.zero_le _
  | crossed none_ fresh spent band flight =>
    rw [none_]
    exact Nat.zero_le _
  | effective less fresh spent band same flight =>
    rw [band, ← same]
    exact less.trans cap
  | low pending current small far same first next_ =>
    rw [next_]
    exact cap
  | raised pending current small far same second next_ =>
    rw [next_]
    dsimp only
    rw [same]
    exact Nat.min_le_right _ _

theorem pressBand_cases (w : System F Exec) : pressBand w = 1 ∨ pressBand w = 2 ∨ pressBand w = 3 := by
  unfold pressBand
  dsimp only
  split
  · exact .inl rfl
  split
  · exact .inr (.inl rfl)
  · exact .inr (.inr rfl)

/-- A band away from the target that has not changed keeps its boost. -/
theorem selectPressBand_same {w : System F Exec} (same : w.press.band = pressBand w) (far : pressBand w ≠ 1) :
    (selectPressBand w).press = w.press := by
  unfold selectPressBand
  dsimp only
  rw [if_neg (by simp only [same, ne_eq, not_true_eq_false, far, or_self, not_false_iff]), ← same]

theorem selectPressBand_new {w : System F Exec} (new : pressBand w ≠ w.press.band ∨ pressBand w = 1) :
    (selectPressBand w).press = { w.press with boostMv := 0, lowResponseCount := 0, band := pressBand w } := by
  unfold selectPressBand
  dsimp only
  rw [if_pos new]

/-- The feedback of `w`, taken. -/
abbrev taken (w : System F Exec) : System F Exec := { w with press := { w.press with feedbackPending := false } }

theorem adaptBoost_consumed {w : System F Exec} (pending : w.press.feedbackPending = true) (current : Current w)
    (same : w.press.band = pressBand w) :
    Consumed w (adaptBoost (w.pressure.control - w.pressEndedUnits) (selectPressBand (taken w))).press := by
  by_cases near : pressBand w = 1
  · have limit : pressBoostLimit w = 0 := by
      rw [pressBoostLimit_eq, near]
      rfl
    have selected := selectPressBand_new (w := taken w) (.inr near)
    have retracted : adaptBoost (w.pressure.control - w.pressEndedUnits) (selectPressBand (taken w)) =
        { selectPressBand (taken w) with press := { (selectPressBand (taken w)).press with
          boostMv := min (selectPressBand (taken w)).press.boostMv
            (if (selectPressBand (taken w)).press.band = 3 then pressBoostLimit w else 0)
          lowResponseCount := 0 } } := if_pos (.inr limit)
    rw [retracted, selected]
    apply Consumed.effective
    · dsimp only
      omega
    · rfl
    · rfl
    · rfl
    · exact same
    · rfl
  · have selected := selectPressBand_same (w := taken w) same near
    have kept : selectPressBand (taken w) = taken w := by
      unfold selectPressBand at selected ⊢
      dsimp only at selected ⊢
      rw [selected]
    have limit : pressBoostLimit w ≠ 0 := by
      rw [pressBoostLimit_eq]
      rcases pressBand_cases w with one | two | three
      · exact absurd one near
      · rw [two]
        decide
      · rw [three]
        decide
    rw [kept]
    unfold adaptBoost
    dsimp only
    rw [show pressBoostLimit (taken w) = pressBoostLimit w from rfl]
    by_cases rise : 2 ≤ w.pressure.control - w.pressEndedUnits
    · rw [if_pos (.inl rise)]
      exact .effective (Nat.min_le_left _ _) rfl rfl same same rfl
    rw [if_neg (by rintro (big | none_) <;> [exact rise big; exact limit none_])]
    have small : w.pressure.control - w.pressEndedUnits < 2 := by omega
    by_cases second : 2 ≤ w.press.lowResponseCount + 1
    · rw [if_pos second]
      exact .raised pending current small near same (by omega) rfl
    · rw [if_neg second]
      have first : w.press.lowResponseCount = 0 := by omega
      apply Consumed.low pending current small near same first
      rw [first]

theorem consumePressFeedback_idle (env : Platform F Exec) {w : System F Exec}
    (idle : w.press.feedbackPending = false) : consumePressFeedback env w = w := by
  unfold consumePressFeedback
  rw [if_pos (by rw [idle]; rfl)]

theorem consumePressFeedback_pending (env : Platform F Exec) {w : System F Exec}
    (pending : w.press.feedbackPending = true) :
    consumePressFeedback env w =
      if w.diagnosticRequestSequence ≠ w.press.requestSequence ∨ w.pressure.sequence ≤ w.press.beforeSequence ∨
          0x80000000 ≤ w.pressure.received - w.press.completedAtMs then resetPressFeedback env (taken w)
      else if w.pressure.control < w.config.contactThresholdUnits ∨
          w.targetUnits - w.config.holdEnterToleranceUnits ≤ w.pressure.control then
        resetPressFeedback env (taken w)
      else if w.press.band ≠ pressBand w then selectPressBand (taken w)
      else adaptBoost (w.pressure.control - w.pressEndedUnits) (selectPressBand (taken w)) := by
  unfold consumePressFeedback
  rw [if_neg (by rw [pending]; exact Bool.noConfusion)]
  rfl

theorem consumePressFeedback_only (env : Platform F Exec) (w : System F Exec) :
    consumePressFeedback env w = { w with press := (consumePressFeedback env w).press } := by
  have reset (v : System F Exec) : resetPressFeedback env v = { v with press := (resetPressFeedback env v).press } := by
    unfold resetPressFeedback
    split
    · rfl
    · rfl
  have adapted (rise : ℤ) (v : System F Exec) :
      adaptBoost rise v = { v with press := (adaptBoost rise v).press } := by
    unfold adaptBoost
    dsimp only
    split
    · rfl
    split
    · rfl
    · rfl
  by_cases pending : w.press.feedbackPending = true
  · rw [consumePressFeedback_pending env pending]
    split
    · exact reset (taken w)
    split
    · exact reset (taken w)
    split
    · rfl
    · exact adapted _ (selectPressBand (taken w))
  · rw [consumePressFeedback_idle env (Bool.eq_false_iff.mpr pending)]

/-! ### What the feedback depends on -/

structure Alike (v w : System F Exec) : Prop where
  press : v.press = w.press
  ended : v.pressEndedUnits = w.pressEndedUnits
  newest : v.diagnosticRequestSequence = w.diagnosticRequestSequence
  target : v.targetUnits = w.targetUnits
  config : v.config = w.config
  pressure : v.pressure = w.pressure

namespace Alike
variable {v w : System F Exec}

theorem shortfall (alike : Alike v w) : PressRamp.shortfall v = PressRamp.shortfall w := by
  unfold PressRamp.shortfall
  rw [alike.target, alike.pressure]

theorem band (alike : Alike v w) : pressBand v = pressBand w := by
  unfold pressBand
  rw [alike.target, alike.pressure, alike.config]

theorem limit (alike : Alike v w) : pressBoostLimit v = pressBoostLimit w := by
  rw [pressBoostLimit_eq, pressBoostLimit_eq, alike.band]

theorem base (alike : Alike v w) : pressBaseMv v = pressBaseMv w := by
  unfold pressBaseMv
  rw [alike.target, alike.pressure, alike.config]

theorem select (alike : Alike v w) : Alike (selectPressBand v) (selectPressBand w) := by
  refine ⟨?_, alike.ended, alike.newest, alike.target, alike.config, alike.pressure⟩
  unfold selectPressBand
  dsimp only
  rw [alike.band, alike.press]

theorem adapt (alike : Alike v w) (rise : ℤ) : Alike (adaptBoost rise v) (adaptBoost rise w) := by
  unfold adaptBoost
  dsimp only
  rw [alike.limit, alike.press]
  split
  · exact ⟨rfl, alike.ended, alike.newest, alike.target, alike.config, alike.pressure⟩
  split
  · exact ⟨rfl, alike.ended, alike.newest, alike.target, alike.config, alike.pressure⟩
  · exact ⟨rfl, alike.ended, alike.newest, alike.target, alike.config, alike.pressure⟩

theorem taken (alike : Alike v w) : Alike (PressSteps.taken v) (PressSteps.taken w) := by
  refine ⟨?_, alike.ended, alike.newest, alike.target, alike.config, alike.pressure⟩
  dsimp only
  rw [alike.press]

theorem reset {env : Platform F Exec} (alike : Alike v w) :
    Alike (resetPressFeedback env v) (resetPressFeedback env w) := by
  unfold resetPressFeedback
  split
  · exact ⟨rfl, alike.ended, alike.newest, alike.target, alike.config, alike.pressure⟩
  · exact alike

theorem consume {env : Platform F Exec} (alike : Alike v w) :
    Alike (consumePressFeedback env v) (consumePressFeedback env w) := by
  by_cases pending : w.press.feedbackPending = true
  · rw [consumePressFeedback_pending env pending, consumePressFeedback_pending env (alike.press ▸ pending),
      alike.band, alike.newest, alike.press, alike.pressure, alike.config, alike.target, alike.ended]
    split
    · exact alike.taken.reset
    split
    · exact alike.taken.reset
    split
    · exact alike.taken.select
    · exact alike.taken.select.adapt _
  · have idle : w.press.feedbackPending = false := Bool.eq_false_iff.mpr pending
    rw [consumePressFeedback_idle env idle, consumePressFeedback_idle env (alike.press ▸ idle)]
    exact alike

end Alike

theorem disableOrFault_aside (env : Platform F Exec) (now : U32) (w : System F Exec) :
    env.executor.Aside w.exec (disableOrFault env now w).2.exec := by
  have once : env.executor.Aside w.exec (disable env w).exec := .tail .refl (.inl rfl)
  unfold disableOrFault
  cases ok : disableSucceeds env w with
  | false =>
    have twice : (enterFault env .motor .motorHardware now (disable env w)).exec = _ := enterFault_exec _ _ _
    exact once.tail (.inl twice)
  | true => exact once

theorem enterSettle_aside (env : Platform F Exec) (now : U32) (w : System F Exec) :
    env.executor.Aside w.exec (enterSettle env now w).2.exec := by
  have aside := disableOrFault_aside env now w
  unfold enterSettle
  generalize disableOrFault env now w = outcome at aside ⊢
  obtain ⟨ok, v⟩ := outcome
  cases ok with
  | false => exact aside
  | true => exact aside

theorem enterHold_aside (env : Platform F Exec) (now : U32) (w : System F Exec) :
    env.executor.Aside w.exec (enterHold env now w).2.exec := by
  have aside := disableOrFault_aside env now w
  unfold enterHold
  generalize disableOrFault env now w = outcome at aside ⊢
  obtain ⟨ok, v⟩ := outcome
  cases ok with
  | false => exact aside
  | true =>
    have same : (resetPressFeedback env v).exec = v.exec := congrArg Core.exec (core_resetPressFeedback env v)
    show env.executor.Aside w.exec (resetPressFeedback env v).exec
    rw [same]
    exact aside

def Tried (env : Platform F Exec) (request : StartCall) (x y : Exec) : Prop :=
  y = (env.executor.start request x).2 ∨ y = (env.executor.disable (env.executor.start request x).2).2

theorem requestMotor_tried (env : Platform F Exec) (request : StartCall) (next : MachineState) (now : U32)
    (w : System F Exec) : Tried env request w.exec (requestMotor env request next now w).2.exec := by
  unfold requestMotor captureMotorRequest
  split
  · exact .inr (enterFault_exec _ _ _)
  split
  · exact .inr (enterFault_exec _ _ _)
  · exact .inl rfl

theorem forcePiMagnitudeValid_finite {ops : FloatOps F} {magnitude : F} {direction : Direction}
    (sound : forcePiMagnitudeValid ops magnitude direction = true) : ops.isFinite magnitude = true := by
  unfold forcePiMagnitudeValid at sound
  by_contra infinite
  rw [if_pos (by rw [Bool.eq_false_iff.mpr infinite]; rfl)] at sound
  exact Bool.noConfusion sound

section
variable {env : Platform F Exec} (auto : env.policy.isAutoTarget = true)
include auto

theorem resetPressFeedback_press (w : System F Exec) : (resetPressFeedback env w).press = .zero := by
  unfold resetPressFeedback
  rw [if_pos auto]

theorem consumePressFeedback_consumed (w : System F Exec) : Consumed w (consumePressFeedback env w).press := by
  by_cases pending : w.press.feedbackPending = true
  · rw [consumePressFeedback_pending env pending]
    by_cases stale : w.diagnosticRequestSequence ≠ w.press.requestSequence ∨
        w.pressure.sequence ≤ w.press.beforeSequence ∨ 0x80000000 ≤ w.pressure.received - w.press.completedAtMs
    · rw [if_pos stale]
      exact .reset (resetPressFeedback_press auto _)
    rw [if_neg stale]
    have current : Current w := by
      simp only [not_or, not_not, BitVec.not_le] at stale
      exact ⟨stale.1, stale.2.1, BitVec.lt_def.mp stale.2.2⟩
    split
    · exact .reset (resetPressFeedback_press auto _)
    by_cases crossing : w.press.band ≠ pressBand w
    · rw [if_pos crossing, selectPressBand_new (w := taken w) (.inl (Ne.symm crossing))]
      exact .crossed rfl rfl rfl rfl rfl
    · rw [if_neg crossing]
      exact adaptBoost_consumed pending current (not_not.mp crossing)
  · have idle : w.press.feedbackPending = false := Bool.eq_false_iff.mpr pending
    rw [consumePressFeedback_idle env idle]
    exact .nothing idle rfl

/-! ### Transitions that end or keep the feedback -/

theorem enterFault_press (f : MachineFault) (detail : FaultDetail) (now : U32) (w : System F Exec) :
    (enterFault env f detail now w).press = .zero :=
  resetPressFeedback_press auto _

inductive Settles (w w' : System F Exec) : Prop
  | faulted (state : w'.state = .fault) (press : w'.press = .zero)
  | settled (state : w'.state = .autoSettle) (phase : w'.settlePhase = .waitDelay) (press : w'.press = w.press)
      (ended : w'.pressEndedUnits = w.pressEndedUnits) (pressure : w'.pressure = w.pressure)

theorem enterSettle_settles (now : U32) (w : System F Exec) : Settles w (enterSettle env now w).2 := by
  unfold enterSettle disableOrFault
  cases ok : disableSucceeds env w with
  | false => exact .faulted rfl (enterFault_press auto _ _ _ _)
  | true => exact .settled rfl rfl rfl rfl rfl

theorem enterHold_press (now : U32) (w : System F Exec) : (enterHold env now w).2.press = .zero := by
  unfold enterHold disableOrFault
  cases ok : disableSucceeds env w with
  | false => exact enterFault_press auto _ _ _ _
  | true => exact resetPressFeedback_press auto _

theorem disableOrFault_press (now : U32) (w : System F Exec) :
    (disableOrFault env now w).2.press = w.press ∨ (disableOrFault env now w).2.press = .zero := by
  unfold disableOrFault
  cases ok : disableSucceeds env w with
  | false => exact .inr (enterFault_press auto _ _ _ _)
  | true => exact .inl rfl

inductive Asked (env : Platform F Exec) (request : StartCall) (next : MachineState) (w : System F Exec) :
    CommandResult × System F Exec → Prop
  | taken (w' : System F Exec) (took : env.executor.took request w.exec = true)
      (exec : w'.exec = (env.executor.start request w.exec).2) (state : w'.state = next)
      (press : w'.press = w.press) (pressure : w'.pressure = w.pressure) : Asked env request next w (.accepted, w')
  | refused (result : CommandResult) (w' : System F Exec) (untaken : env.executor.took request w.exec = false)
      (state : w'.state = .fault) (press : w'.press = .zero)
      (bad : result ≠ .accepted) : Asked env request next w (result, w')

theorem requestMotor_asked (request : StartCall) (next : MachineState) (now : U32) (w : System F Exec) :
    Asked env request next w (requestMotor env request next now w) := by
  unfold requestMotor captureMotorRequest
  by_cases ok : (env.executor.start request w.exec).1 = .ok
  · rw [if_neg (not_not.mpr ok)]
    by_cases valid : env.executor.activeRequestIsValid (env.executor.start request w.exec).2 = true
    · have took : env.executor.took request w.exec = true := by
        unfold PulseExecutor.took
        rw [valid, decide_eq_true ok]
        rfl
      rw [if_neg (by rw [valid]; exact Bool.noConfusion)]
      exact .taken _ took rfl rfl rfl rfl
    · have untaken : env.executor.took request w.exec = false := by
        unfold PulseExecutor.took
        rw [Bool.eq_false_iff.mpr valid, Bool.and_false]
      rw [if_pos (by rw [Bool.eq_false_iff.mpr valid]; rfl)]
      exact .refused _ _ untaken rfl (enterFault_press auto _ _ _ _) (by decide)
  · have untaken : env.executor.took request w.exec = false := by
      unfold PulseExecutor.took
      rw [decide_eq_false ok, Bool.false_and]
    rw [if_pos ok]
    exact .refused _ _ untaken rfl (enterFault_press auto _ _ _ _) (by decide)

theorem requestMotor_press (request : StartCall) (next : MachineState) (now : U32) {w : System F Exec}
    (zero : w.press = .zero) : (requestMotor env request next now w).2.press = .zero := by
  have asked := requestMotor_asked auto request next now w
  generalize requestMotor env request next now w = outcome at asked ⊢
  cases asked with
  | taken w' took exec state press pressure => exact press.trans zero
  | refused result w' untaken state press bad => exact press

/-! ### Corrections -/

omit auto

def pressCall (env : Platform F Exec) (now : U32) (w : System F Exec) : StartCall :=
  ⟨true, .press, correctionMv env true env.ops.zero (selectPressBand w), w.config.pulseDurationMs,
    w.config.pulseBackstopMs, now⟩

def noted (request : StartCall) (sequence : U32) (p : Sample) (press : PressFeedback) : PressFeedback :=
  { press with requestSequence := sequence, commandMv := request.commandMv, beforeUnits := p.control
               beforeSequence := p.sequence, observedPeakUnits := p.control, inFlight := true
               feedbackPending := false }

inductive Corrected (env : Platform F Exec) (expected : Direction) (now : U32) (v w' : System F Exec) : Prop
  | settles (settles : Settles v w') (aside : env.executor.Aside v.exec w'.exec)
  | released (request : StartCall) (direction : request.direction = .release)
      (is : expected = .release) (exec : Tried env request v.exec w'.exec) (press : w'.press = v.press ∨ w'.press = .zero)
  | pressed (is : expected = .press) (took : env.executor.took (pressCall env now v) v.exec = true)
      (exec : w'.exec = (env.executor.start (pressCall env now v) v.exec).2) (state : w'.state = .autoPulse)
      (press : w'.press = noted (pressCall env now v) w'.motorRequestSequence v.pressure (selectPressBand v).press)
      (pressure : w'.pressure = v.pressure)
  | refused (is : expected = .press) (untaken : env.executor.took (pressCall env now v) v.exec = false)
      (exec : Tried env (pressCall env now v) v.exec w'.exec)
      (press : w'.press = .zero)

def Pointed (env : Platform F Exec) (expected : Direction) (w : System F Exec) : Prop :=
  match expected with
  | .press => env.ops.lt w.pi.snapshot.limitedOutputMv env.ops.zero = false
  | .release => env.ops.lt env.ops.zero w.pi.snapshot.limitedOutputMv = false

include auto

theorem inhibited_settles (suggestion : F) (now : U32) (v : System F Exec) :
    Settles v (enterSettle env now (inhibitCorrection suggestion v)).2 ∧
      env.executor.Aside v.exec (enterSettle env now (inhibitCorrection suggestion v)).2.exec := by
  unfold inhibitCorrection
  split
  · constructor
    · cases enterSettle_settles auto now { v with
        pi := { v.pi with inhibitReason := .belowOneMv, blockedSuggestionMv := suggestion } } with
      | faulted state press => exact .faulted state press
      | settled state phase press ended pressure => exact .settled state phase press ended pressure
    · exact enterSettle_aside env now { v with
        pi := { v.pi with inhibitReason := .belowOneMv, blockedSuggestionMv := suggestion } }
  · exact ⟨enterSettle_settles auto now v, enterSettle_aside env now v⟩

theorem pressCorrection_corrected (now : U32) {v : System F Exec}
    (positive : env.ops.lt env.ops.zero v.pi.snapshot.limitedOutputMv = true) :
    Corrected env .press now v (pulseCorrection env .press now v).2 := by
  have asked := requestMotor_asked auto (pressCall env now v) .autoPulse now (selectPressBand v)
  have same : pulseCorrection env .press now v =
      noteIfAccepted env true v.pi.snapshot.limitedOutputMv (pressCall env now v).commandMv
        (requestMotor env (pressCall env now v) .autoPulse now (selectPressBand v)) := by
    unfold pulseCorrection startPulse
    dsimp only
    rw [auto, positive]
    rfl
  have tried := requestMotor_tried env (pressCall env now v) .autoPulse now (selectPressBand v)
  rw [same]
  generalize requestMotor env (pressCall env now v) .autoPulse now (selectPressBand v) = outcome at asked tried ⊢
  cases asked with
  | taken w' took exec state press pressure =>
    have kept : noteIfAccepted env true v.pi.snapshot.limitedOutputMv (pressCall env now v).commandMv (.accepted, w') =
        (.accepted, noteCorrection env true v.pi.snapshot.limitedOutputMv (pressCall env now v).commandMv w') := rfl
    rw [kept]
    refine .pressed rfl took exec state ?_ pressure
    · show ({ w'.press with
        requestSequence := w'.motorRequestSequence, commandMv := (pressCall env now v).commandMv
        beforeUnits := w'.pressure.control, beforeSequence := w'.pressure.sequence
        observedPeakUnits := w'.pressure.control, inFlight := true, feedbackPending := false } : PressFeedback) = _
      rw [press, pressure]
      rfl
  | refused result w' untaken state press bad =>
    have kept : noteIfAccepted env true v.pi.snapshot.limitedOutputMv (pressCall env now v).commandMv (result, w') =
        (result, w') := if_neg bad
    rw [kept]
    exact .refused rfl untaken tried press

/-- A RELEASE leaves the feedback to its caller, who has reset it. -/
theorem releaseCorrection_corrected (now : U32) {v : System F Exec}
    (negative : env.ops.lt env.ops.zero v.pi.snapshot.limitedOutputMv = false) :
    Corrected env .release now v (pulseCorrection env .release now v).2 := by
  have unmapped : (env.policy.isAutoTarget && decide (Direction.release = Direction.press) &&
      env.ops.lt env.ops.zero v.pi.snapshot.limitedOutputMv) = false := by
    rw [negative, Bool.and_false]
  let request : StartCall := ⟨true, .release, correctionMv env false (env.ops.abs v.pi.snapshot.limitedOutputMv) v,
    v.config.pulseDurationMs, v.config.pulseBackstopMs, now⟩
  have same : pulseCorrection env .release now v = noteIfAccepted env false v.pi.snapshot.limitedOutputMv
      request.commandMv (requestMotor env request .autoPulse now v) := by
    unfold pulseCorrection startPulse
    dsimp only
    rw [unmapped, negative]
    rfl
  have asked := requestMotor_asked auto request .autoPulse now v
  have tried := requestMotor_tried env request .autoPulse now v
  rw [same]
  generalize requestMotor env request .autoPulse now v = outcome at asked tried ⊢
  cases asked with
  | taken w' took exec state press pressure => exact .released request rfl rfl tried (.inl press)
  | refused result w' untaken state press bad =>
    have kept : noteIfAccepted env false v.pi.snapshot.limitedOutputMv request.commandMv (result, w') =
        (result, w') := if_neg bad
    rw [kept]
    exact .released request rfl rfl tried (.inr press)

theorem correct_corrected (signed : env.ops.Signed) {expected : Direction} {now : U32} {v : System F Exec}
    (enabled : v.pi.enabled = true)
    (pointed : v.pi.inhibitReason ≠ .wrongDirection → Pointed env expected v) :
    Corrected env expected now v (correct env expected now v).2 := by
  unfold correct
  dsimp only
  rw [if_neg (by rw [enabled]; exact Bool.noConfusion)]
  by_cases sound : forcePiMagnitudeValid env.ops (env.ops.abs v.pi.snapshot.limitedOutputMv) expected = true
  · rw [if_neg (by rw [sound]; exact Bool.noConfusion)]
    by_cases inhibited : v.pi.inhibitReason = .wrongDirection ∨ v.pi.inhibitReason = .releaseDisabled ∨
        env.ops.lt (env.ops.abs v.pi.snapshot.limitedOutputMv) env.ops.one = true
    · rw [if_pos inhibited]
      have settles := inhibited_settles auto v.pi.snapshot.limitedOutputMv now v
      exact .settles settles.1 settles.2
    · rw [if_neg inhibited]
      obtain ⟨free, -, large⟩ := not_or.mp inhibited |>.imp_right not_or.mp
      have directed := pointed free
      cases expected with
      | press =>
        have finite := forcePiMagnitudeValid_finite sound
        rcases signed v.pi.snapshot.limitedOutputMv finite with positive | negative | small
        · exact pressCorrection_corrected auto now positive
        · exact absurd (directed.symm.trans negative) Bool.false_ne_true
        · exact absurd small large
      | release => exact releaseCorrection_corrected auto now directed
  · rw [if_pos (by rw [Bool.eq_false_iff.mpr sound]; rfl)]
    apply Corrected.settles
    · exact .faulted rfl (enterFault_press auto _ _ _ _)
    · exact .tail .refl (.inl (enterFault_exec _ _ _))

/-! ### The strategy points at the target -/

omit auto

def Directed (env : Platform F Exec) (v : System F Exec) : Prop :=
  correctionReady v = true → v.pi.inhibitReason ≠ .wrongDirection →
    pointsAway env v v.pi.snapshot.limitedOutputMv = false

theorem observeForcePi_directed {now : U32} {w : System F Exec} (idle : forcePiMotorIdle env w = true)
    (done_ : (observeForcePi env now w).1 = true) : Directed env (observeForcePi env now w).2 := by
  unfold observeForcePi at done_ ⊢
  cases first : calculate env w.pi.state false w with
  | none =>
    rw [first] at done_
    exact absurd done_ Bool.false_ne_true
  | some calculated =>
    obtain ⟨previewState, preview⟩ := calculated
    rw [first] at done_
    dsimp only at done_ ⊢
    cases second : calculate env w.pi.state (inhibition env preview w).2.2 w with
    | none =>
      rw [second] at done_
      exact absurd done_ Bool.false_ne_true
    | some outcome =>
      obtain ⟨next, result⟩ := outcome
      dsimp only
      intro ready free
      have readyBefore : correctionReady w = true := ready
      by_cases away : pointsAway env w preview.limitedOutputMv = true
      · have blocked : inhibition env preview w = (.wrongDirection, preview.limitedOutputMv, false) := by
          unfold inhibition
          rw [if_neg (by rw [readyBefore]; exact Bool.noConfusion), if_neg (by rw [idle]; exact Bool.noConfusion),
            if_pos away]
        rw [blocked] at free
        exact absurd rfl free
      · have plain : pointsAway env w preview.limitedOutputMv = false := Bool.eq_false_iff.mpr away
        show pointsAway env w (if (inhibition env preview w).2.2 && pointsAway env w result.limitedOutputMv then preview
          else result).limitedOutputMv = false
        cases integrates : (inhibition env preview w).2.2 with
        | false =>
          rw [integrates, first] at second
          obtain ⟨-, rfl⟩ := Prod.mk.inj (Option.some.inj second)
          exact plain
        | true =>
          cases back : pointsAway env w result.limitedOutputMv with
          | false => exact back
          | true => exact plain

/-! ### Checks -/

/-- What a check leaves of the feedback: everything, nothing in a fault, or an approach that has begun to
settle. -/
inductive Looked (env : Platform F Exec) (w v : System F Exec) : Prop
  | same (aside : env.executor.Aside w.exec v.exec) (alike : Alike v w) (state : v.state = w.state)
      (phase : v.settlePhase = w.settlePhase)
  | faulted (aside : env.executor.Aside w.exec v.exec) (state : v.state = .fault) (press : v.press = .zero)
  | contacted (aside : env.executor.Aside w.exec v.exec) (approach : w.state = .autoApproach)
      (state : v.state = .autoSettle) (phase : v.settlePhase = .waitDelay) (press : v.press = w.press)

theorem Alike.refl (w : System F Exec) : Alike w w := ⟨rfl, rfl, rfl, rfl, rfl, rfl⟩

include auto

theorem enterFault_looked (f : MachineFault) (detail : FaultDetail) (now : U32) (w : System F Exec) :
    Looked env w (enterFault env f detail now w) :=
  .faulted (.tail .refl (.inl (enterFault_exec _ _ _))) rfl (enterFault_press auto _ _ _ _)

theorem enterSettle_looked (now : U32) {w : System F Exec} (approach : w.state = .autoApproach) :
    Looked env w (enterSettle env now w).2 := by
  have aside := enterSettle_aside env now w
  cases enterSettle_settles auto now w with
  | faulted state press => exact .faulted aside state press
  | settled state phase press ended pressure => exact .contacted aside approach state phase press

theorem handleMotorService_looked (now : U32) {w : System F Exec} (coarse : w.state = .autoApproach ∨ w.state = .autoSettle) :
    Looked env w (handleMotorService env now w) := by
  have still : Looked env w w := .same .refl (.refl w) rfl rfl
  unfold handleMotorService
  rcases coarse with approach | settling
  · have notDirect : isDirectPulse w.state = false := by
      rw [approach]
      rfl
    split
    · exact still
    split
    · rw [if_neg (by rw [notDirect]; exact Bool.noConfusion)]
      exact still
    split
    · split
      · exact still
      · exact enterFault_looked auto _ _ now w
    split
    · exact enterFault_looked auto _ _ now w
    split
    · exact enterFault_looked auto _ _ now w
    rw [if_neg (by rw [notDirect]; exact Bool.noConfusion)]
    unfold approachCompleted
    rw [if_pos auto]
    split
    · exact enterSettle_looked auto now approach
    · exact enterFault_looked auto _ _ now w
    · exact enterFault_looked auto _ _ now w
  · rw [if_pos (by rw [settling]; decide)]
    exact still

omit auto in
theorem Alike.trans {u v w : System F Exec} (first : Alike u v) (second : Alike v w) : Alike u w :=
  ⟨first.press.trans second.press, first.ended.trans second.ended, first.newest.trans second.newest,
    first.target.trans second.target, first.config.trans second.config, first.pressure.trans second.pressure⟩

omit auto in
theorem Looked.after {w v x : System F Exec} (aside : env.executor.Aside w.exec x.exec) (alike : Alike x w)
    (state : x.state = w.state) (phase : x.settlePhase = w.settlePhase) (looked : Looked env x v) :
    Looked env w v := by
  cases looked with
  | same later like state' phase' =>
    exact .same (aside.trans later) (like.trans alike) (state'.trans state) (phase'.trans phase)
  | faulted later fault press => exact .faulted (aside.trans later) fault press
  | contacted later approach settling phase' press =>
    exact .contacted (aside.trans later) (state.symm.trans approach) settling phase' (press.trans alike.press)

omit auto in
theorem latchContact_looked {w v : System F Exec} (looked : Looked env w v) : Looked env w (latchContact v) := by
  unfold latchContact
  split
  · cases looked with
    | same aside alike state phase =>
      exact .same aside ⟨alike.press, alike.ended, alike.newest, alike.target, alike.config, alike.pressure⟩ state phase
    | faulted aside state press => exact .faulted aside state press
    | contacted aside approach state phase press => exact .contacted aside approach state phase press
  · exact looked

theorem stopApproachOnContact_looked (now : U32) {w : System F Exec}
    (coarse : w.state = .autoApproach ∨ w.state = .autoSettle) :
    Looked env w (stopApproachOnContact env now w) := by
  have served : env.executor.Aside w.exec (env.executor.service now w.exec).2 := .tail .refl (.inr (.inl ⟨now, rfl⟩))
  have like : Alike { w with exec := (env.executor.service now w.exec).2 } w := ⟨rfl, rfl, rfl, rfl, rfl, rfl⟩
  unfold stopApproachOnContact
  dsimp only
  apply Looked.after served like rfl rfl
  split
  · exact enterFault_looked auto _ _ now _
  · have serviced := handleMotorService_looked auto now
      (w := { w with exec := (env.executor.service now w.exec).2 }) coarse
    apply latchContact_looked
    split
    next going =>
      cases serviced with
      | same aside alike state phase => exact (enterSettle_looked auto now going).after aside alike state phase
      | faulted aside state press => exact absurd (going.symm.trans state) (by decide)
      | contacted aside approach state phase press => exact absurd (going.symm.trans state) (by decide)
    · exact serviced

theorem checkPressureSafety_looked (now : U32) (w : System F Exec) :
    Looked env w (checkPressureSafety env now w) := by
  have still : Looked env w w := .same .refl (.refl w) rfl rfl
  unfold checkPressureSafety
  split
  · exact still
  split
  · exact enterFault_looked auto _ _ now w
  split
  · exact still
  split
  · exact enterFault_looked auto _ _ now w
  split
  · rw [checkContact_fault rfl]
    exact enterFault_looked auto _ _ now w
  · unfold checkContact
    split
    next contact =>
      apply stopApproachOnContact_looked auto now
      exact hasCurrentApproachContact_coarse (Bool.and_eq_true _ _ ▸ contact).2
    · exact still

/-! ### Samples -/

omit auto

def answering (env : Platform F Exec) (u : System F Exec) : System F Exec :=
  if u.state = .autoSettle then consumePressFeedback env u else u

def Answered (env : Platform F Exec) (u : System F Exec) : Prop :=
  Judges env u.pressure (core u) ∨ u.state = .autoHold

def Low (u : System F Exec) : Prop :=
  u.config.contactThresholdUnits ≤ u.pressure.control ∧ isBelow u = true

/-- What a stored sample makes of the feedback, and of the executor. -/
inductive Sampled (env : Platform F Exec) (now : U32) (u w' : System F Exec) : Prop
  | kept (aside : env.executor.Aside u.exec w'.exec) (press : w'.press = u.press)
      (ended : w'.pressEndedUnits = u.pressEndedUnits) (state : w'.state = u.state)
      (phase : w'.settlePhase = u.settlePhase)
  | outside (aside : env.executor.Aside u.exec w'.exec) (press : w'.press = u.press)
      (away : u.state ≠ .autoSettle ∧ u.state ≠ .autoPulse)
  | cleared (aside : env.executor.Aside u.exec w'.exec) (press : w'.press = .zero)
  | peaked (aside : env.executor.Aside u.exec w'.exec) (peak : ℤ)
      (press : w'.press = { u.press with observedPeakUnits := peak })
      (ended : w'.pressEndedUnits = u.pressEndedUnits) (pulse : u.state = .autoPulse) (state : w'.state = .autoPulse)
  | judged (aside : env.executor.Aside u.exec w'.exec) (judges : Judges env u.pressure (core u))
      (press : w'.press = (consumePressFeedback env u).press) (state : w'.state = .autoSettle)
      (phase : w'.settlePhase = .waitDelay)
  /-- Contact is lost: the machine approaches again. -/
  | lost (request : StartCall) (x : Exec) (aside : env.executor.Aside u.exec x) (tried : Tried env request x w'.exec)
      (low : u.pressure.control < u.config.contactThresholdUnits)
      (press : w'.press = .zero ∨ u.state = .autoHold ∧ w'.press = u.press)
  | released (request : StartCall) (x : Exec) (aside : env.executor.Aside u.exec x)
      (tried : Tried env request x w'.exec) (direction : request.direction = .release) (press : w'.press = .zero)
  | pressed (x : Exec) (aside : env.executor.Aside u.exec x) (answered : Answered env u) (low : Low u)
      (took : env.executor.took (pressCall env now (answering env u)) x = true)
      (exec : w'.exec = (env.executor.start (pressCall env now (answering env u)) x).2)
      (state : w'.state = .autoPulse)
      (press : w'.press = noted (pressCall env now (answering env u)) w'.motorRequestSequence u.pressure
        (selectPressBand (answering env u)).press)
      (pressure : w'.pressure = u.pressure)
  | refused (x : Exec) (aside : env.executor.Aside u.exec x) (answered : Answered env u) (low : Low u)
      (untaken : env.executor.took (pressCall env now (answering env u)) x = false)
      (tried : Tried env (pressCall env now (answering env u)) x w'.exec) (press : w'.press = .zero)

theorem Alike.pressCall {u v : System F Exec} (alike : Alike u v) (env : Platform F Exec) (now : U32) :
    PressSteps.pressCall env now u = PressSteps.pressCall env now v := by
  have commands : correctionMv env true env.ops.zero (selectPressBand u) =
      correctionMv env true env.ops.zero (selectPressBand v) := by
    unfold correctionMv
    rw [alike.select.base, alike.select.press, alike.select.config]
  unfold PressSteps.pressCall
  rw [commands, alike.config]

theorem Corrected.sampled_release {now : U32} {u v w' : System F Exec} (zero : v.press = .zero)
    (aside : env.executor.Aside u.exec v.exec) (corrected : Corrected env .release now v w') :
    Sampled env now u w' := by
  cases corrected with
  | settles settles later =>
    apply Sampled.cleared (aside.trans later)
    cases settles with
    | faulted state press => exact press
    | settled state phase press ended pressure => exact press.trans zero
  | released request direction is exec press =>
    apply Sampled.released request v.exec aside exec direction
    rcases press with kept | reset
    · exact kept.trans zero
    · exact reset
  | pressed is took exec state press pressure => exact Direction.noConfusion is
  | refused is untaken exec press => exact Direction.noConfusion is

theorem Corrected.sampled_press {now : U32} {u v w' : System F Exec} (alike : Alike v (answering env u))
    (pressure : v.pressure = u.pressure) (aside : env.executor.Aside u.exec v.exec) (answered : Answered env u)
    (low : Low u) (corrected : Corrected env .press now v w') : Sampled env now u w' := by
  cases corrected with
  | settles settles later =>
    cases settles with
    | faulted state press => exact .cleared (aside.trans later) press
    | settled state phase press ended stored =>
      rcases answered with judges | holds
      · apply Sampled.judged (aside.trans later) judges _ state phase
        rw [press, alike.press]
        exact congrArg System.press (if_pos judges.2.2.1)
      · apply Sampled.outside (aside.trans later)
        · rw [press, alike.press]
          exact congrArg System.press (if_neg (by rw [holds]; decide))
        · rw [holds]
          decide
  | released request direction is exec press => exact Direction.noConfusion is
  | pressed is took exec state press stored =>
    rw [alike.pressCall env now] at took exec press
    rw [pressure, alike.select.press] at press
    exact .pressed v.exec aside answered low took exec state press (stored.trans pressure)
  | refused is untaken exec press =>
    rw [alike.pressCall env now] at untaken exec
    exact .refused v.exec aside answered low untaken exec press

theorem Sampled.keepResult {now : U32} {u : System F Exec} {outcome : CommandResult × System F Exec}
    (sampled : Sampled env now u outcome.2) : Sampled env now u (Motion.keepResult outcome) := by
  cases sampled with
  | kept aside press ended state phase => exact .kept aside press ended state phase
  | outside aside press away => exact .outside aside press away
  | cleared aside press => exact .cleared aside press
  | peaked aside peak press ended pulse state => exact .peaked aside peak press ended pulse state
  | judged aside judges press state phase => exact .judged aside judges press state phase
  | lost request x aside tried low press => exact .lost request x aside tried low press
  | released request x aside tried direction press => exact .released request x aside tried direction press
  | pressed x aside answered low took exec state press pressure =>
    exact .pressed x aside answered low took exec state press pressure
  | refused x aside answered low untaken tried press => exact .refused x aside answered low untaken tried press

include auto

theorem startCorrection_press (signed : env.ops.Signed) {now : U32} {u v : System F Exec}
    (alike : Alike v (answering env u)) (pressure : v.pressure = u.pressure)
    (aside : env.executor.Aside u.exec v.exec) (answered : Answered env u) (low : Low u) (below : isBelow v = true)
    (ready : correctionReady v = true) (enabled : v.pi.enabled = true) (directed : Directed env v) :
    Sampled env now u (keepResult (startCorrection env .press now v)) := by
  apply Sampled.keepResult
  have same : startCorrection env .press now v = correct env .press now v := rfl
  rw [same]
  apply Corrected.sampled_press alike pressure aside answered low
  apply correct_corrected auto signed enabled
  intro free
  have toward := directed ready free
  unfold pointsAway at toward
  rw [below, Bool.true_and] at toward
  exact (Bool.or_eq_false_iff.mp toward).2

theorem startCorrection_release (signed : env.ops.Signed) {now : U32} {u v : System F Exec}
    (aside : env.executor.Aside u.exec v.exec) (above : isAbove v = true)
    (ready : correctionReady v = true) (enabled : v.pi.enabled = true) (directed : Directed env v) :
    Sampled env now u (keepResult (startCorrection env .release now v)) := by
  apply Sampled.keepResult
  have same : startCorrection env .release now v = correct env .release now (resetPressFeedback env v) := rfl
  let bare : System F Exec := { v with press := .zero }
  have reset : resetPressFeedback env v = bare := if_pos auto
  have zero : bare.press = .zero := rfl
  have still : bare.pi.enabled = true := enabled
  rw [same, reset]
  apply Corrected.sampled_release zero aside
  apply correct_corrected auto signed still
  intro free
  have toward := directed ready free
  unfold pointsAway at toward
  rw [above, Bool.true_and] at toward
  exact (Bool.or_eq_false_iff.mp toward).1

theorem startApproach_lost {now : U32} {u v : System F Exec} (profile : ApproachProfile)
    (aside : env.executor.Aside u.exec v.exec) (low : u.pressure.control < u.config.contactThresholdUnits)
    (press : v.press = .zero ∨ u.state = .autoHold ∧ v.press = u.press) :
    Sampled env now u (keepResult (startApproach env profile now v)) := by
  apply Sampled.keepResult
  let approaching : System F Exec := { v with
    approachProfile := profile, autoApproachPending := env.policy.isAutoTarget || v.autoApproachPending }
  have asked := requestMotor_asked auto (approachCall env profile now approaching) .autoApproach now approaching
  have tried := requestMotor_tried env (approachCall env profile now approaching) .autoApproach now approaching
  have same : startApproach env profile now v =
      requestMotor env (approachCall env profile now approaching) .autoApproach now approaching := rfl
  rw [same]
  generalize requestMotor env (approachCall env profile now approaching) .autoApproach now approaching = outcome
    at asked tried ⊢
  apply Sampled.lost (approachCall env profile now approaching) v.exec aside tried low
  cases asked with
  | taken w' took exec state kept pressure =>
    rcases press with zero | ⟨holds, unchanged⟩
    · exact .inl (kept.trans zero)
    · exact .inr ⟨holds, kept.trans unchanged⟩
  | refused result w' untaken state zero bad => exact .inl zero

theorem classifySettledSample_sampled (signed : env.ops.Signed) {now : U32} {u v : System F Exec}
    (alike : Alike v (consumePressFeedback env u)) (aside : env.executor.Aside u.exec v.exec)
    (judges : Judges env u.pressure (core u)) (settling : v.state = .autoSettle) (waiting : v.settlePhase = .waitSample)
    (later : v.settleGateSequence < v.pressure.sequence) (enabled : v.pi.enabled = true)
    (directed : Directed env v) : Sampled env now u (classifySettledSample env now v) := by
  have consumed : core (consumePressFeedback env u) = core u := core_consumePressFeedback u
  have pressure : v.pressure = u.pressure := alike.pressure.trans (congrArg Core.pressure consumed)
  have config : v.config = u.config := alike.config.trans (congrArg Core.config consumed)
  have settled_ : u.state = .autoSettle := judges.2.2.1
  have answering_is : answering env u = consumePressFeedback env u := if_pos settled_
  have tolerated : tolerance v = v.config.holdEnterToleranceUnits := if_neg (by rw [settling]; decide)
  have ready (contact : v.config.contactThresholdUnits ≤ v.pressure.control)
      (out : isBelow v = true ∨ isAbove v = true) : correctionReady v = true := by
    unfold correctionReady
    rw [settling, waiting, decide_eq_true later, decide_eq_true contact]
    rcases out with below | above
    · rw [below]
      rfl
    · rw [above, Bool.or_true]
      rfl
  unfold classifySettledSample
  dsimp only
  split
  next low =>
    have zero : (resetPressFeedback env v).press = .zero := resetPressFeedback_press auto v
    have exec : (resetPressFeedback env v).exec = v.exec := congrArg Core.exec (core_resetPressFeedback env v)
    apply startApproach_lost auto _ _ _ (.inl zero)
    · rw [exec]
      exact aside
    · rw [← pressure, ← config]
      exact low
  next contact =>
    have touches : v.config.contactThresholdUnits ≤ v.pressure.control := not_lt.mp contact
    split
    next low =>
      have below : isBelow v = true := by
        unfold isBelow
        rw [tolerated]
        exact decide_eq_true low
      apply startCorrection_press auto signed (answering_is ▸ alike) pressure aside (.inl judges) _ below
        (ready touches (.inl below)) enabled directed
      constructor
      · rw [← pressure, ← config]
        exact touches
      · have tolerates : tolerance u = u.config.holdEnterToleranceUnits := if_neg (by rw [settled_]; decide)
        have target : v.targetUnits = u.targetUnits := by
          rw [alike.target, consumePressFeedback_only]
        unfold isBelow
        rw [tolerates, ← pressure, ← config, ← target]
        exact decide_eq_true low
    split
    · exact .cleared (aside.trans (enterHold_aside env now v)) (enterHold_press auto now v)
    next high =>
      split
      · have above : isAbove v = true := by
          unfold isAbove
          rw [tolerated]
          exact decide_eq_true (not_le.mp high)
        exact startCorrection_release auto signed aside above (ready touches (.inr above)) enabled directed
      · exact .cleared (aside.trans (enterHold_aside env now v)) (enterHold_press auto now v)

theorem classifyHoldSample_sampled (signed : env.ops.Signed) {now : U32} {u v : System F Exec}
    (alike : Alike v u) (aside : env.executor.Aside u.exec v.exec) (state : v.state = u.state)
    (holds : u.state = .autoHold) (enabled : v.pi.enabled = true) (directed : Directed env v) :
    Sampled env now u (classifyHoldSample env now v) := by
  have holding : v.state = .autoHold := state.trans holds
  have answering_is : answering env u = u := if_neg (by rw [holds]; decide)
  have tolerated : tolerance v = v.config.holdExitToleranceUnits := if_pos holding
  let cycled : System F Exec := { v with cycleStartedMs := now }
  have like : Alike cycled u := ⟨alike.press, alike.ended, alike.newest, alike.target, alike.config, alike.pressure⟩
  have directed_ : Directed env cycled := directed
  have enabled_ : cycled.pi.enabled = true := enabled
  have aside_ : env.executor.Aside u.exec cycled.exec := aside
  have ready (contact : v.config.contactThresholdUnits ≤ v.pressure.control)
      (out : isBelow v = true ∨ isAbove v = true) : correctionReady cycled = true := by
    show correctionReady v = true
    unfold correctionReady
    rw [holding, decide_eq_true contact]
    rcases out with below | above
    · rw [below]
      rfl
    · rw [above, Bool.or_true]
      rfl
  unfold classifyHoldSample
  split
  next low =>
    apply startApproach_lost auto _ aside_
    · rw [← alike.pressure, ← alike.config]
      exact low
    · exact .inr ⟨holds, like.press⟩
  next contact =>
    have touches : v.config.contactThresholdUnits ≤ v.pressure.control := not_lt.mp contact
    split
    next low =>
      have below : isBelow cycled = true := by
        show isBelow v = true
        unfold isBelow
        rw [tolerated]
        exact decide_eq_true low
      apply startCorrection_press auto signed (answering_is.symm ▸ like) like.pressure aside_ (.inr holds) _ below
        (ready touches (.inl below)) enabled_ directed_
      constructor
      · rw [← alike.pressure, ← alike.config]
        exact touches
      · have tolerates : tolerance u = u.config.holdExitToleranceUnits := if_pos holds
        unfold isBelow
        rw [tolerates, ← alike.pressure, ← alike.config, ← alike.target]
        exact decide_eq_true low
    split
    next high =>
      have above : isAbove cycled = true := by
        show isAbove v = true
        unfold isAbove
        rw [tolerated]
        exact decide_eq_true high.1
      exact startCorrection_release auto signed aside_ above (ready touches (.inr above)) enabled_ directed_
    · have later := aside.trans (disableOrFault_aside env now v)
      rcases disableOrFault_press auto now v with kept | zero
      · apply Sampled.outside later (kept.trans alike.press)
        rw [holds]
        decide
      · exact .cleared later zero

omit auto in
theorem observeForcePi_only (env : Platform F Exec) (now : U32) (w : System F Exec) :
    (∃ unit, observeForcePi env now w = (true, { w with pi := unit })) ∨
      observeForcePi env now w = (false, enterFault env .internal .internalState now w) := by
  unfold observeForcePi
  split
  · exact .inr rfl
  · dsimp only
    split
    · exact .inr rfl
    · exact .inl ⟨_, rfl⟩

omit auto in
theorem Looked.pi {w v : System F Exec} (looked : Looked env w v) (unit : PiUnit F) :
    Looked env w { v with pi := unit } := by
  cases looked with
  | same aside alike state phase =>
    exact .same aside ⟨alike.press, alike.ended, alike.newest, alike.target, alike.config, alike.pressure⟩ state phase
  | faulted aside state press => exact .faulted aside state press
  | contacted aside approach state phase press => exact .contacted aside approach state phase press

/-- The supervision only looks, and a sample it hands on finds the strategy directed. -/
theorem supervise_looked (p : Sample) (now : U32) (w : System F Exec) :
    Looked env w (supervise env p now w).2 ∧
      ((supervise env p now w).1 = true → w.pi.enabled = true → isAutomatic w.state = true →
        ((supervise env p now w).2.state = .autoSettle ∨ (supervise env p now w).2.state = .autoHold) →
        Directed env (supervise env p now w).2) := by
  have looked := checkPressureSafety_looked auto now w
  unfold supervise
  split
  next running =>
    dsimp only
    generalize checkPressureSafety env now w = x at looked ⊢
    split
    · exact ⟨looked, fun flag => absurd flag Bool.false_ne_true⟩
    split
    · exact ⟨looked, fun flag => absurd flag Bool.false_ne_true⟩
    · rcases observeForcePi_only env now x with ⟨unit, observed⟩ | failed
      · have directed : forcePiMotorIdle env x = true → Directed env { x with pi := unit } := by
          intro quiet
          have done_ : (observeForcePi env now x).1 = true := by rw [observed]
          have toward := observeForcePi_directed quiet done_
          rw [observed] at toward
          exact toward
        rw [observed]
        dsimp only
        refine ⟨looked.pi unit, ?_⟩
        intro flag _ _ resting
        apply directed
        have busy : (decide (x.state = .autoSettle ∨ x.state = .autoHold) && !forcePiMotorIdle env x) = false :=
          Bool.not_eq_true' _ ▸ flag
        rw [decide_eq_true resting, Bool.true_and] at busy
        exact Bool.not_eq_false' .. ▸ busy
      · rw [failed]
        refine ⟨?_, fun flag => absurd flag Bool.false_ne_true⟩
        cases looked with
        | same aside alike state phase =>
          exact (enterFault_looked auto _ _ now x).after aside alike state phase
        | faulted aside state press =>
          exact .faulted (aside.tail (.inl (enterFault_exec _ _ _))) rfl (enterFault_press auto _ _ _ _)
        | contacted aside approach state phase press =>
          exact .faulted (aside.tail (.inl (enterFault_exec _ _ _))) rfl (enterFault_press auto _ _ _ _)
  next idle =>
    refine ⟨.same .refl (.refl w) rfl rfl, ?_⟩
    intro _ enabled automatic _
    rw [enabled, automatic] at idle
    exact absurd rfl idle

omit auto in
theorem trackPeak_cases (env : Platform F Exec) (p : Sample) (now : U32) (w : System F Exec) :
    trackPeak env p now w = w ∨ w.state = .autoPulse ∧
      ∃ peak, trackPeak env p now w = { w with press := { w.press with observedPeakUnits := peak } } := by
  unfold trackPeak
  split
  next tracks =>
    simp only [Bool.and_eq_true, decide_eq_true_eq] at tracks
    exact .inr ⟨tracks.1.1.2, _, rfl⟩
  · exact .inl rfl

omit auto in
theorem actOn_pulse {p : Sample} {now : U32} {w : System F Exec} (pulse : w.state = .autoPulse) :
    actOn env p now w = w := by
  unfold actOn
  simp only [pulse, reduceCtorEq, false_and, if_false]

omit auto in
theorem Looked.sampled {now : U32} {u v : System F Exec} (looked : Looked env u v) : Sampled env now u v := by
  cases looked with
  | same aside alike state phase => exact .kept aside alike.press alike.ended state phase
  | faulted aside state press => exact .cleared aside press
  | contacted aside approach state phase press =>
    apply Sampled.outside aside press
    rw [approach]
    decide

theorem actOn_sampled (signed : env.ops.Signed) {now : U32} {u v : System F Exec}
    (aside : env.executor.Aside u.exec v.exec) (alike : Alike v u) (same : Still env (core u) v)
    (valid : Valid u.pressure = true) (gated : Gated env u.pressure (core u))
    (enabled : isAutomatic u.state = true → u.pi.enabled = true)
    (directed : v.state = .autoSettle ∨ v.state = .autoHold → Directed env v) :
    Sampled env now u (actOn env u.pressure now v) := by
  have state : v.state = u.state := same.state
  have strategy (automatic : isAutomatic u.state = true) : v.pi.enabled = true := by
    have kept : v.pi.enabled = u.pi.enabled := congrArg Core.piEnabled same.same
    rw [kept]
    exact enabled automatic
  have unchanged : Looked env u v := .same aside alike state same.settlePhase
  unfold actOn
  split
  next approach =>
    unfold contactApproach
    rw [if_pos auto]
    split
    · exact ((stopApproachOnContact_looked auto now (.inl approach.1)).after aside alike state same.settlePhase).sampled
    · exact unchanged.sampled
  split
  next waited =>
    obtain ⟨settling, waiting, later⟩ := waited
    have settled_ : u.state = .autoSettle := state.symm.trans settling
    have gate : v.settleGateSequence = u.settleGateSequence := congrArg Core.settleGateSequence same.same
    have judges : Judges env u.pressure (core u) := by
      refine ⟨rfl, valid, settled_, same.settlePhase.symm.trans waiting, ?_, ?_⟩
      · show u.settleGateSequence < u.pressure.sequence
        rw [← gate]
        exact later
      · intro auto_ on
        exact gated auto_ on settled_
    have on : v.pi.enabled = true := by
      apply strategy
      rw [settled_]
      rfl
    have toward := directed (.inl settling)
    have like : Alike (consumePressFeedback env v) (consumePressFeedback env u) := alike.consume
    rw [← alike.pressure] at later
    unfold judgeSettled
    rw [if_pos auto, consumePressFeedback_only env v]
    rw [consumePressFeedback_only env v] at like
    dsimp only
    split
    · let v' : System F Exec := { v with
        press := (consumePressFeedback env v).press, autoHasContacted := true, autoApproachPending := false }
      have like' : Alike v' (consumePressFeedback env u) :=
        ⟨like.press, like.ended, like.newest, like.target, like.config, like.pressure⟩
      exact classifySettledSample_sampled auto signed like' aside judges settling waiting later on toward
    · exact classifySettledSample_sampled auto signed like aside judges settling waiting later on toward
  split
  next holding =>
    have holds : u.state = .autoHold := state.symm.trans holding
    apply classifyHoldSample_sampled auto signed alike aside state holds
    · apply strategy
      rw [holds]
      rfl
    · exact directed (.inr holding)
  · exact unchanged.sampled

theorem acceptSample_sampled (signed : env.ops.Signed) {now : U32} {u : System F Exec}
    (valid : Valid u.pressure = true) (enabled : isAutomatic u.state = true → u.pi.enabled = true) :
    Sampled env now u (acceptSample env u.pressure now u) := by
  unfold acceptSample
  split
  · exact (enterFault_looked auto _ _ now u).sampled
  · have cases_ := supervise_cases (.handlePressureSample u.pressure now) now u.pressure (.refl u : Still env (core u) u)
    have looked := supervise_looked auto u.pressure now u
    generalize supervise env u.pressure now u = outcome at cases_ looked ⊢
    obtain ⟨flag, v⟩ := outcome
    dsimp only at cases_ looked ⊢
    obtain ⟨looked, directed⟩ := looked
    rcases cases_ with ⟨rfl, -⟩ | ⟨rfl, ⟨still, gated⟩ | ⟨x, -, running, delayed⟩⟩
    · exact looked.sampled
    · dsimp only
      rcases trackPeak_cases env u.pressure now v with untracked | ⟨pulse, peak, tracked⟩
      · rw [untracked]
        cases looked with
        | same aside alike state phase =>
          apply actOn_sampled auto signed aside alike still valid gated enabled
          intro resting
          have automatic : isAutomatic u.state = true := by
            rw [← state]
            rcases resting with settling | holding
            · rw [settling]
              rfl
            · rw [holding]
              rfl
          exact directed rfl (enabled automatic) automatic resting
        | faulted aside state press =>
          have ended : actOn env u.pressure now v = v := by
            unfold actOn
            simp only [state, reduceCtorEq, false_and, if_false]
          rw [ended]
          exact .cleared aside press
        | contacted aside approach state phase press =>
          have unchanged : v.state = .autoApproach := still.state.trans approach
          exact absurd (state.symm.trans unchanged) (by decide)
      · let v' : System F Exec := { v with press := { v.press with observedPeakUnits := peak } }
        have running : v'.state = .autoPulse := pulse
        have ends : actOn env u.pressure now v' = v' := actOn_pulse running
        rw [tracked, ends]
        cases looked with
        | same aside alike state phase =>
          have aside' : env.executor.Aside u.exec v'.exec := aside
          have ended : v'.pressEndedUnits = u.pressEndedUnits := alike.ended
          refine .peaked aside' peak ?_ ended (state.symm.trans pulse) running
          show ({ v.press with observedPeakUnits := peak } : PressFeedback) = _
          rw [alike.press]
        | faulted aside state press => exact absurd (state.symm.trans pulse) (by decide)
        | contacted aside approach state phase press => exact absurd (state.symm.trans pulse) (by decide)
    · have settling : v.state = .autoSettle := congrArg Core.state delayed
      have waiting : v.settlePhase = .waitDelay := congrArg Core.settlePhase delayed
      have untracked : trackPeak env u.pressure now v = v := by
        rcases trackPeak_cases env u.pressure now v with same | ⟨pulse, -⟩
        · exact same
        · exact absurd (settling.symm.trans pulse) (by decide)
      dsimp only
      rw [untracked, actOn_settled settling waiting]
      exact looked.sampled

/-! ### Every call -/

omit auto

inductive Fed (env : Platform F Exec) (e : Event F) (w w' : System F Exec) : Prop
  | sampled (p : Sample) (now : U32) (sample : e = .handlePressureSample p now)
      (sampled : Sampled env now (store p w) w')
  | kept (press : w'.press = w.press) (ended : w'.pressEndedUnits = w.pressEndedUnits) (state : w'.state = w.state)
      (phase : w'.settlePhase = .waitDelay → w.settlePhase = .waitDelay)
  | outside (press : w'.press = w.press) (away : w.state ≠ .autoSettle ∧ w.state ≠ .autoPulse)
  | cleared (press : w'.press = .zero)
  /-- A pulse without feedback ends. -/
  | unnoted (press : w'.press = w.press) (pulse : w.state = .autoPulse) (state : w'.state = .autoSettle)
  | completed (now : U32) (serviced : e = .handleMotorService now) (pulse : w.state = .autoPulse)
      (flight : w.press.inFlight = true) (own : w.press.requestSequence = (snapshot env w).requestSequence)
      (normal : (snapshot env w).lastCompletion = .normal) (state : w'.state = .autoSettle)
      (press : w'.press = { w.press with inFlight := false, completedAtMs := now, feedbackPending := true })
      (ended : w'.pressEndedUnits = w.press.beforeUnits)

variable {e : Event F}

theorem Fed.refl (w : System F Exec) : Fed env e w w := .kept rfl rfl rfl id

theorem Looked.fed {w v : System F Exec} (looked : Looked env w v) : Fed env e w v := by
  cases looked with
  | same aside alike state phase => exact .kept alike.press alike.ended state (fun delayed => phase.symm.trans delayed)
  | faulted aside state press => exact .cleared press
  | contacted aside approach state phase press =>
    apply Fed.outside press
    rw [approach]
    decide

theorem notePressCompleted_cases (now : U32) (w : System F Exec) :
    notePressCompleted env now w = w ∨
      w.press.inFlight = true ∧ w.press.requestSequence = (snapshot env w).requestSequence ∧
        notePressCompleted env now w = { w with
          pressEndedUnits := w.press.beforeUnits
          press := { w.press with inFlight := false, completedAtMs := now, feedbackPending := true } } := by
  unfold notePressCompleted
  split
  next noted =>
    simp only [Bool.and_eq_true, decide_eq_true_eq] at noted
    obtain ⟨⟨⟨auto, flight⟩, own⟩, -⟩ := noted
    refine .inr ⟨flight, own, ?_⟩
    unfold recordPressEnd
    rw [auto, flight]
    rfl
  · exact .inl rfl

include auto

theorem enterFault_fed (f : MachineFault) (detail : FaultDetail) (now : U32) (w : System F Exec) :
    Fed env e w (enterFault env f detail now w) :=
  .cleared (enterFault_press auto f detail now w)

theorem pulseCompleted_fed (now : U32) {w : System F Exec} (pulse : w.state = .autoPulse) :
    Fed env (.handleMotorService now) w (pulseCompleted env now w) := by
  unfold pulseCompleted
  cases completion : (snapshot env w).lastCompletion with
  | normal =>
    dsimp only
    have settles := enterSettle_settles auto now (notePressCompleted env now w)
    rcases notePressCompleted_cases now w with same | ⟨flight, own, noted⟩
    · rw [same] at settles ⊢
      cases settles with
      | faulted state press => exact .cleared press
      | settled state phase press ended pressure => exact .unnoted press pulse state
    · rw [noted] at settles ⊢
      cases settles with
      | faulted state press => exact .cleared press
      | settled state phase press ended pressure =>
        exact .completed now rfl pulse flight own completion state press ended
  | none => exact enterFault_fed auto _ _ now w
  | backstop => exact enterFault_fed auto _ _ now w
  | error => exact enterFault_fed auto _ _ now w
  | lease => exact enterFault_fed auto _ _ now w

theorem requestMotor_fed (request : StartCall) (next : MachineState) (now : U32) {w : System F Exec}
    (away : w.state ≠ .autoSettle ∧ w.state ≠ .autoPulse) :
    Fed env e w (keepResult (requestMotor env request next now w)) := by
  have asked := requestMotor_asked auto request next now w
  generalize requestMotor env request next now w = outcome at asked ⊢
  cases asked with
  | taken w' took exec state press pressure => exact .outside press away
  | refused result w' untaken state press bad => exact .cleared press

theorem handleMotorService_fed (now : U32) (w : System F Exec) :
    Fed env (.handleMotorService now) w (handleMotorService env now w) := by
  by_cases coarse : w.state = .autoApproach ∨ w.state = .autoSettle
  · exact (handleMotorService_looked auto now coarse).fed
  unfold handleMotorService
  split
  · exact .refl w
  next running =>
    split
    · split
      · exact enterFault_fed auto _ _ now w
      · exact .refl w
    split
    · split
      · exact .refl w
      · exact enterFault_fed auto _ _ now w
    split
    · exact enterFault_fed auto _ _ now w
    split
    · exact enterFault_fed auto _ _ now w
    split
    next direct =>
      have away : w.state ≠ .autoSettle ∧ w.state ≠ .autoPulse := by
        revert direct
        cases w.state <;> decide
      unfold directCompleted
      split
      · exact .outside rfl away
      · exact enterFault_fed auto _ _ now w
      · exact enterFault_fed auto _ _ now w
    next indirect =>
      rw [if_neg (fun approach => coarse (.inl approach))]
      apply pulseCompleted_fed auto now
      by_contra other
      exact running ⟨fun approach => coarse (.inl approach), other, Bool.eq_false_iff.mpr indirect⟩

theorem beginCycle_press (now : U32) (w : System F Exec) : (beginCycle env now w).press = .zero := by
  have reset := resetPressFeedback_press auto w
  unfold beginCycle
  dsimp only
  rw [if_pos auto]
  exact reset

theorem launch_press (now : U32) (w : System F Exec) :
    (launch env now (beginCycle env now w)).2.press = .zero := by
  have begun := beginCycle_press auto now w
  unfold launch
  split
  · exact requestMotor_press auto _ _ now begun
  · cases enterSettle_settles auto now (beginCycle env now w) with
    | faulted state press => exact press
    | settled state phase press ended pressure => exact press.trans begun

theorem autoStart_fed (now : U32) (w : System F Exec) : Fed env e w (keepResult (autoStart env now w)) := by
  have kept (result : CommandResult) : Fed env e w (keepResult (result, w)) := .kept rfl rfl rfl id
  unfold autoStart
  split
  · exact kept _
  split
  · exact kept _
  split
  · exact kept _
  split
  · exact kept _
  split
  · exact .cleared (enterFault_press auto .overpressure .none now w)
  · exact .cleared (launch_press auto now w)

theorem stop_press (now : U32) (w : System F Exec) : (stop env now w).2.press = .zero := by
  unfold stop disableOrFault
  cases ok : disableSucceeds env w with
  | false => exact enterFault_press auto _ _ _ _
  | true => exact resetPressFeedback_press auto _

theorem command_fed (c : Command) (now : U32) (w : System F Exec) :
    Fed env e w (keepResult (command env c now w)) := by
  have kept (result : CommandResult) : Fed env e w (keepResult (result, w)) := .kept rfl rfl rfl id
  have direct (direction : Direction) : Fed env e w (keepResult (directPulse env direction now w)) := by
    unfold directPulse
    split
    · exact kept _
    split
    · exact kept _
    next idle =>
      split
      · exact kept _
      split
      · exact kept _
      · apply requestMotor_fed auto
        rw [not_not.mp idle]
        decide
  unfold command
  cases c.type with
  | stop => exact .cleared (stop_press auto now w)
  | setTarget =>
    unfold setTarget
    dsimp only
    split
    · exact kept _
    split
    · exact kept _
    · exact .cleared (resetPressFeedback_press auto _)
  | directPressPulse => exact direct .press
  | directReleasePulse => exact direct .release
  | autoStart => exact autoStart_fed auto now w
  | jogPress => exact kept _
  | jogRelease => exact kept _
  | jogStop => exact kept _
  | faultReset => exact kept _
  | ackComplete => exact kept _
  | forceStart => exact kept _

theorem handlePressureSample_fed (signed : env.ops.Signed) (p : Sample) (now : U32) {w : System F Exec}
    (enabled : isAutomatic w.state = true → w.pi.enabled = true) :
    Fed env (.handlePressureSample p now) w (handlePressureSample env p now w) := by
  unfold handlePressureSample
  split
  · unfold pressureFault
    split
    · exact .cleared (enterFault_press auto _ _ now _)
    · exact .kept rfl rfl rfl id
  next validity =>
    have valid : Valid p = true := by simpa only [Bool.not_eq_true, Bool.not_eq_false'] using validity
    have faults (detail : FaultDetail) : Fed env (.handlePressureSample p now) w (pressureFault env detail now w) := by
      unfold pressureFault
      split
      · exact enterFault_fed auto _ _ now w
      · exact .refl w
    split
    · split
      · exact faults _
      · exact .refl w
    split
    · exact faults _
    · have stored : Valid (store p w).pressure = true := valid
      exact .sampled p now rfl (acceptSample_sampled auto signed stored enabled)

theorem handlePressureSample_sampled (signed : env.ops.Signed) (p : Sample) (now : U32) {w : System F Exec}
    (enabled : isAutomatic w.state = true → w.pi.enabled = true) :
    env.executor.Aside w.exec (handlePressureSample env p now w).exec ∨
      Sampled env now (store p w) (handlePressureSample env p now w) := by
  have faults (detail : FaultDetail) (v : System F Exec) (same : v.exec = w.exec) :
      env.executor.Aside w.exec (pressureFault env detail now v).exec := by
    rw [← same]
    unfold pressureFault
    split
    · exact .tail .refl (.inl (enterFault_exec _ _ _))
    · exact .refl
  unfold handlePressureSample
  split
  · exact .inl (faults _ (store p w) rfl)
  next validity =>
    have valid : Valid p = true := by simpa only [Bool.not_eq_true, Bool.not_eq_false'] using validity
    have stored : Valid (store p w).pressure = true := valid
    split
    · left
      split
      · exact faults _ w rfl
      · exact .refl
    split
    · exact .inl (faults _ w rfl)
    · exact .inr (acceptSample_sampled auto signed stored enabled)

theorem autoStart_accepted {now : U32} {w : System F Exec} (accepted : (autoStart env now w).1 = .accepted) :
    (autoStart env now w).2.press = .zero := by
  unfold autoStart at accepted ⊢
  by_cases enabled : !env.policy.automaticCommands
  · rw [if_pos enabled] at accepted
    exact CommandResult.noConfusion accepted
  rw [if_neg enabled] at accepted ⊢
  by_cases idle : w.state ≠ .idle
  · rw [if_pos idle] at accepted
    dsimp only at accepted
    split at accepted
    · exact CommandResult.noConfusion accepted
    · exact CommandResult.noConfusion accepted
  rw [if_neg idle] at accepted ⊢
  by_cases ready : !automaticReady env now w
  · rw [if_pos ready] at accepted
    exact CommandResult.noConfusion accepted
  rw [if_neg ready] at accepted ⊢
  by_cases strategy : env.policy.isAutoTarget && (!w.pi.enabled || !forcePiMotorIdle env w)
  · rw [if_pos strategy] at accepted
    exact CommandResult.noConfusion accepted
  rw [if_neg strategy]
  split
  · exact enterFault_press auto _ _ now w
  · exact launch_press auto now w

theorem setTarget_accepted {units : ℤ} {w : System F Exec} (accepted : (setTarget env units w).1 = .accepted) :
    (setTarget env units w).2.press = .zero := by
  unfold setTarget at accepted ⊢
  by_cases idle : w.state ≠ .idle
  · rw [if_pos idle] at accepted
    dsimp only at accepted
    split at accepted
    · exact CommandResult.noConfusion accepted
    · exact CommandResult.noConfusion accepted
  rw [if_neg idle] at accepted ⊢
  by_cases out : units < w.config.contactThresholdUnits ∨ w.config.maximumTargetUnits < units
  · rw [if_pos out] at accepted
    exact CommandResult.noConfusion accepted
  rw [if_neg out]
  exact resetPressFeedback_press auto _

theorem call_fed (signed : env.ops.Signed) (e : Event F) {w : System F Exec}
    (enabled : isAutomatic w.state = true → w.pi.enabled = true) : Fed env e w (call env w e) := by
  cases e with
  | initializeContext config now =>
    apply Fed.cleared
    show (initializeContext env config now w).press = .zero
    unfold initializeContext
    dsimp only
    split
    · rfl
    · rfl
  | completeBoot checksPassed now =>
    show Fed env _ w (completeBoot env checksPassed now w)
    unfold completeBoot
    split
    · exact .refl w
    next boot =>
      split
      · exact enterFault_fed auto _ _ now w
      · unfold disableOrFault
        cases ok : disableSucceeds env w with
        | false => exact .cleared (enterFault_press auto _ _ now _)
        | true =>
          have away : w.state ≠ .autoSettle ∧ w.state ≠ .autoPulse := by
            rw [not_not.mp boot]
            decide
          exact .outside rfl away
  | configureForcePi config now =>
    show Fed env _ w (configureForcePi env config w).2
    unfold configureForcePi
    split
    · exact .refl w
    split
    · exact .refl w
    split
    · exact .refl w
    split
    · exact .refl w
    split
    · exact .refl w
    · exact .cleared (resetPressFeedback_press auto _)
  | handleCommand c now => exact command_fed auto c now w
  | handlePressureSample p now => exact handlePressureSample_fed auto signed p now enabled
  | checkPressureSafety now => exact (checkPressureSafety_looked auto now w).fed
  | handleMotorService now => exact handleMotorService_fed auto now w
  | reportFault f detail now =>
    show Fed env _ w (reportFault env f detail now w)
    unfold reportFault
    split
    · exact enterFault_fed auto _ _ now w
    · exact enterFault_fed auto _ _ now w
  | tick now =>
    show Fed env _ w (tick env now w)
    unfold tick
    split
    · split
      · exact .kept rfl rfl rfl (fun delayed => SettlePhase.noConfusion delayed)
      · exact .refl w
    · exact enterFault_fed auto _ _ now w
    · exact enterFault_fed auto _ _ now w
    · exact enterFault_fed auto _ _ now w
    · exact .refl w
  | isPressureFresh now => exact .refl w
  | service now => exact .kept rfl rfl rfl id
  | interrupt now => exact .kept rfl rfl rfl id

end

end Sd700.Machine.PressSteps
