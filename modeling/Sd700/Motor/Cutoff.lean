import Sd700.Motor.Countdown
import Sd700.Motor.Rests

/-! The cutoff behind a Build output: whatever the program calls, and however its calls fall between the counts and
the interrupt of TIM5, a bridge that is on has a timer that will end it before its frame is 130 milliseconds old. -/

namespace Sd700.Motor.BuildExecutor
open Build.Contract Interface Logic.Modular Logic.Run Timer Bridge

variable {Bridge : Type} {hw : Hardware Bridge}

/-- A bridge that the shutdown reaches, and that is on when it brakes. -/
structure Cuts (hw : Hardware Bridge) : Prop extends StaysOff hw where
  cuts : ∀ b, hw.isDisabled (hw.disableImmediate b) = true
  brakes : ∀ b, hw.isBraking b = true → hw.isDisabled b = false

theorem board_cuts (armed : Bool) : Cuts (.board armed) where
  toStaysOff := board_staysOff armed
  cuts _ := rfl
  brakes b braking := by
    change b.isBraking = true at braking
    change b.isDisabled = false
    unfold Registers.isBraking Registers.activeCompareIsValid at braking
    simp only [Bool.and_eq_true] at braking
    unfold Registers.isDisabled
    rw [braking.2.1.1.1.1]
    rfl

namespace Device

variable {m n k : Device Bridge}

structure Powered (m : Device Bridge) : Prop where
  idle : m.pending = none
  armed : m.timer.armed = true
  counting : m.timer.Counting
  single : m.timer.onePulse = true → m.renewable = false
  receive : m.timer.Before m.time m.build.receiveDeadlineMs
  near : (m.build.receiveDeadlineMs - m.clock).toNat ≤ 130

structure Sound (hw : Hardware Bridge) (m : Device Bridge) : Prop where
  quiet : m.Quiet hw
  powered : hw.isDisabled m.bridge = false → m.Powered

/-- An output that is on was on before, under the same deadline. -/
structure Kept (hw : Hardware Bridge) (m n : Device Bridge) : Prop where
  time : n.time = m.time
  powered : hw.isDisabled n.bridge = false →
    n.Powered ∧ n.build.receiveDeadlineMs = m.build.receiveDeadlineMs ∧ hw.isDisabled m.bridge = false

theorem Kept.refl (sound : m.Sound hw) : Kept hw m m :=
  ⟨rfl, fun on => ⟨sound.powered on, rfl, on⟩⟩

theorem Kept.trans (first : Kept hw m n) (second : Kept hw n k) : Kept hw m k where
  time := second.time.trans first.time
  powered on := by
    obtain ⟨powered, same, still⟩ := second.powered on
    obtain ⟨_, before, was⟩ := first.powered still
    exact ⟨powered, same.trans before, was⟩

theorem Kept.dark (time : n.time = m.time) (off : hw.isDisabled n.bridge = true) : Kept hw m n :=
  ⟨time, fun on => by rw [off] at on; contradiction⟩

def outline (m : Device Bridge) : ℕ × Bridge × StopTimer × Option StopEvent × U32 × Bool :=
  (m.time, m.bridge, m.timer, m.pending, m.build.receiveDeadlineMs, m.renewable)

theorem Powered.same (powered : m.Powered) (same : n.outline = m.outline) : n.Powered := by
  unfold outline at same
  simp only [Prod.mk.injEq] at same
  obtain ⟨time, bridge, timer, pending, deadline, renewable⟩ := same
  have clock : n.clock = m.clock := congrArg (fun time => stamp 32 (time / 10)) time
  refine ⟨pending.trans powered.idle, ?_, ?_, ?_, ?_, ?_⟩
  · rw [timer]
    exact powered.armed
  · rw [timer]
    exact powered.counting
  · rw [timer, renewable]
    exact powered.single
  · rw [timer, time, deadline]
    exact powered.receive
  · rw [deadline, clock]
    exact powered.near

theorem Kept.same (kept : Kept hw m n) (same : k.outline = n.outline) : Kept hw m k where
  time := (congrArg Prod.fst same).trans kept.time
  powered on := by
    rw [show k.bridge = n.bridge from congrArg (fun t => t.2.1) same] at on
    obtain ⟨powered, before, was⟩ := kept.powered on
    exact ⟨powered.same same, (congrArg (fun t => t.2.2.2.2.1) same).trans before, was⟩

theorem Kept.off (kept : Kept hw m n) (off : hw.isDisabled m.bridge = true) : hw.isDisabled n.bridge = true := by
  by_contra on
  have was := (kept.powered (Bool.eq_false_iff.mpr on)).2.2
  rw [off] at was
  contradiction

theorem Kept.sound (kept : Kept hw m n) (quiet : n.Quiet hw) : n.Sound hw :=
  ⟨quiet, fun on => (kept.powered on).1⟩

/-! ### Ways off -/

theorem recordPulseEnd_bridge (m : Device Bridge) (now : U32) (reason : EndReason) :
    (m.recordPulseEnd now reason).bridge = m.bridge := by
  unfold recordPulseEnd
  split <;> rfl

theorem chargePreload_bridge (m : Device Bridge) (now : U32) : (m.chargePreload now).bridge = m.bridge := by
  unfold chargePreload
  dsimp only
  split <;> rfl

theorem confirmOff_bridge (m : Device Bridge) (now : U32) : (m.confirmOff hw now).bridge = m.bridge := by
  unfold confirmOff
  split
  · rfl
  split <;> rfl

theorem recordOff_bridge (m : Device Bridge) (now : U32) (reason : EndReason) :
    (m.recordOff hw now reason).bridge = m.bridge := by
  change (((m.recordPulseEnd now reason).chargePreload now).confirmOff hw now).bridge = m.bridge
  rw [confirmOff_bridge, chargePreload_bridge, recordPulseEnd_bridge]

theorem recordedOff_dark (obeys : Cuts hw) (m : Device Bridge) (now : U32) (reason : EndReason) :
    hw.isDisabled ((m.disableImmediate hw).recordOff hw now reason).bridge = true := by
  rw [recordOff_bridge]
  exact obeys.cuts _

theorem shutDown_kept (obeys : Cuts hw) (quiet : m.Quiet hw) (event : StopEvent) : Kept hw m (m.shutDown hw event) :=
  .dark (shutDown_calm obeys.toStaysOff quiet event).steady.time (recordedOff_dark obeys m _ _)

theorem abort_kept (obeys : Cuts hw) (quiet : m.Quiet hw) (reason : EndReason) : Kept hw m (m.abort hw reason) :=
  .dark (abort_calm obeys.toStaysOff quiet reason).steady.time (recordedOff_dark obeys m _ _)

/-! ### The interrupt -/

theorem buildHandoff_running {t : StopTimer} {remaining : U32} (ok : (t.buildHandoff remaining).1 = true)
    (initialized : t.initialized = true) (interrupts : t.interrupts = true) (line : t.line = true) :
    Running remaining (t.buildHandoff remaining).2 ∧ t.onePulse = true ∧
      (t.buildHandoff remaining).2.handoff = (t.normalCallback || t.handoff) := by
  unfold StopTimer.buildHandoff at ok ⊢
  by_cases unfit : ¬ t.buildTransitionReady ∨ ¬ t.onePulse ∨ t.reload ≤ t.count ∨ ¬ StopTimer.leaseFits remaining
  · rw [if_pos unfit] at ok
    contradiction
  rw [if_neg unfit] at ok ⊢
  push Not at unfit
  dsimp only at ok ⊢
  split at ok
  · contradiction
  rename_i ready
  rw [if_neg ready]
  push Not at ready
  have ready := ready.1
  unfold StopTimer.buildTransitionReady StopTimer.isArmed at ready
  simp only [Bool.and_eq_true, Bool.not_eq_true'] at ready
  refine ⟨?_, unfit.2.1, rfl⟩
  exact {
    armed := ready.1.1.1
    healthy := by
      unfold StopTimer.isHealthy
      exact (Bool.and_eq_true _ _).mpr ⟨initialized, ready.1.2⟩
    enabled := ready.1.1.2
    interrupts := interrupts
    line := line
    repeats := rfl
    reload := rfl
    clear := ready.2
    fits := unfit.2.2.2
    ahead := add_sub_cancel_left _ _ }

/-- A pulse or an approach that ends in a BRAKE has a lease for what is left of its frame. -/
theorem finishPulse_powered (obeys : Cuts hw) (quiet : m.Quiet hw)
    {renew : U32 → Device Bridge → Bool × Device Bridge} {now : U32} {reason : EndReason}
    (ok : (m.finishPulse hw renew now reason).1 = .ok)
    (renews : hw.isDisabled m.bridge = false → m.renewable = true → ∀ remaining,
      (renew remaining (m.brakeBridge hw).2).1 = true →
        ∃ timer, (renew remaining (m.brakeBridge hw).2).2 = { (m.brakeBridge hw).2 with timer := timer } ∧
          Running remaining timer)
    (hands : hw.isDisabled m.bridge = false → ∀ remaining, (m.timer.buildHandoff remaining).1 = true →
      Running remaining (m.timer.buildHandoff remaining).2) :
    Kept hw m (m.finishPulse hw renew now reason).2 ∧ hw.isDisabled m.bridge = false ∧
      (m.build.phase = .approach → ∃ remaining, (renew remaining (m.brakeBridge hw).2).1 = true) ∧
      (m.build.phase ≠ .approach → ∃ remaining, (m.timer.buildHandoff remaining).1 = true ∧
        (m.finishPulse hw renew now reason).2.timer = (m.timer.buildHandoff remaining).2) := by
  unfold finishPulse at ok ⊢
  dsimp only at ok ⊢
  split at ok
  · contradiction
  rename_i refused
  rw [if_neg refused]
  split at ok
  · contradiction
  rename_i lost
  rw [if_neg lost]
  split at ok
  · contradiction
  rename_i late
  rw [if_neg late]
  push Not at refused lost late
  obtain ⟨_, active, _, _, _, matched⟩ := refused
  obtain ⟨none2, some3, _⟩ := quiet.pressing active
  rw [none2] at matched
  have on := obeys.drives _ _ matched some3
  have standing := late.1
  have leased : ∃ timer, ((m.brakeBridge hw).2.keepTimer renew).2 = { (m.brakeBridge hw).2 with timer := timer } ∧
      Running (m.build.receiveDeadlineMs - m.clock) timer ∧
      (m.build.phase = .approach → ∃ remaining, (renew remaining (m.brakeBridge hw).2).1 = true) ∧
      (m.build.phase ≠ .approach → ∃ remaining, (m.timer.buildHandoff remaining).1 = true ∧
        timer = (m.timer.buildHandoff remaining).2) := by
    have done := standing.1
    unfold keepTimer at done ⊢
    dsimp only at done ⊢
    by_cases approach : m.build.phase = .approach
    · rw [if_pos (show (m.brakeBridge hw).2.build.phase = .approach from approach)] at done ⊢
      have renewable : m.renewable = true := by
        unfold renewable
        rw [active, approach, Bool.true_and]
        exact Bool.or_true _
      obtain ⟨timer, same, running⟩ := renews on renewable _ done
      exact ⟨timer, same, running, fun _ => ⟨_, done⟩, fun pulse => absurd approach pulse⟩
    · rw [if_neg (show (m.brakeBridge hw).2.build.phase ≠ .approach from approach)] at done ⊢
      exact ⟨_, rfl, hands on _ done, fun ends => absurd ends approach, fun _ => ⟨_, done, rfl⟩⟩
  obtain ⟨timer, same, running, renewed, handed⟩ := leased
  rw [same]
  have waits : m.pending = none := by
    have idle := standing.2.2
    rw [same] at idle
    exact idle
  generalize held : ({ (m.brakeBridge hw).2 with timer := timer } : Device Bridge).holdBrake _ reason = k
  have shown : k.time = m.time ∧ k.timer = timer ∧ k.pending = m.pending ∧
      k.build.receiveDeadlineMs = m.build.receiveDeadlineMs := by
    rw [← held]
    unfold holdBrake recordPulseEnd
    dsimp only
    split <;> exact ⟨rfl, rfl, rfl, rfl⟩
  obtain ⟨time, timed, pending, deadline⟩ := shown
  refine ⟨⟨time, fun _ => ⟨?_, deadline, on⟩⟩, on, renewed, ?_⟩
  swap
  · rw [timed]
    exact handed
  have clock : k.clock = m.clock := congrArg (fun time => stamp 32 (time / 10)) time
  have fits : (m.build.receiveDeadlineMs - m.clock).toNat ≤ 130 := (StopTimer.leaseFits_iff.mp running.fits).2
  refine ⟨pending.trans waits, ?_, ?_, ?_, ?_, ?_⟩
  · rw [timed]
    exact running.armed
  · rw [timed]
    exact running.counting
  · rw [timed, running.repeats]
    exact fun single => by contradiction
  · rw [timed, time, deadline]
    exact running.before (BitVec.le_refl _) (Nat.le_trans fits (by decide))
  · rw [deadline, clock]
    exact fits

theorem Powered.retimed {timer : StopTimer} (powered : m.Powered) (armed : timer.armed = true)
    (counting : timer.Counting) (single : timer.onePulse = true → m.renewable = false)
    (receive : timer.Before m.time m.build.receiveDeadlineMs) : Powered { m with timer := timer } :=
  ⟨powered.idle, armed, counting, single, receive, powered.near⟩

theorem expired_time (obeys : Cuts hw) (quiet : m.Quiet hw) (event : StopEvent) : (m.expired hw event).time = m.time :=
  (expired_calm obeys.toStaysOff quiet event).steady.time

/-- The interrupt ends the output, or hands a pulse over to a BRAKE with a lease. -/
theorem irqHandler_kept (obeys : Cuts hw) (sound : m.Sound hw) : Kept hw m (m.irqHandler hw) := by
  have time := (irqHandler_calm obeys.toStaysOff sound.quiet).steady.time
  have dark (k : Device Bridge) (event : StopEvent) : hw.isDisabled (k.shutDown hw event).bridge = true :=
    recordedOff_dark obeys k _ _
  unfold irqHandler at time ⊢
  by_cases idle : ¬ m.timer.armed
  · rw [if_pos idle] at time ⊢
    apply Kept.dark time
    unfold expired
    rw [if_neg (fun normal => by cases normal.1)]
    split
    · exact dark _ _
    · exact dark _ _
  rw [if_neg idle] at time ⊢
  have same : m.enterIrq.Quiet hw := ⟨sound.quiet.off, sound.quiet.pressing⟩
  have left (k : Device Bridge) : k.leaveIrq.bridge = k.bridge := by
    unfold leaveIrq
    dsimp only
    split <;> rfl
  unfold expired at time ⊢
  by_cases pulse : m.irqEvent = .normal ∧ m.enterIrq.pulsing
  · rw [if_pos pulse] at time ⊢
    dsimp only at time ⊢
    by_cases ok : (m.enterIrq.finishPulse hw (fun _ m => (false, m)) m.enterIrq.clock .normal).1 = .ok
    · rw [if_pos ok] at time ⊢
      have lined (on : hw.isDisabled m.bridge = false) : m.timer.initialized = true ∧ m.timer.interrupts = true ∧
          m.timer.line = true := by
        have counting := (sound.powered on).counting
        exact ⟨((Bool.and_eq_true _ _).mp counting.healthy).1, counting.interrupts, counting.line⟩
      have hands (on : hw.isDisabled m.bridge = false) (remaining : U32)
          (handed : (m.enterIrq.timer.buildHandoff remaining).1 = true) :=
        buildHandoff_running (t := m.enterIrq.timer) handed (lined on).1 (lined on).2.1 (lined on).2.2
      obtain ⟨kept, on, renewed, handed⟩ := finishPulse_powered obeys same ok
        (fun _ _ _ failed => absurd failed Bool.false_ne_true) (fun on remaining done => (hands on remaining done).1)
      have pulsed : m.enterIrq.build.phase ≠ .approach := by
        intro approach
        obtain ⟨_, failed⟩ := renewed approach
        contradiction
      obtain ⟨remaining, done, timed⟩ := handed pulsed
      obtain ⟨running, single, marked⟩ := hands on remaining done
      have called : m.enterIrq.timer.normalCallback = true := by
        change (decide (m.irqEvent = .normal) && m.timer.onePulse) = true
        rw [pulse.1, show m.timer.onePulse = true from single]
        rfl
      rw [called, Bool.true_or, ← timed] at marked
      rw [← timed] at running
      generalize (m.enterIrq.finishPulse hw (fun _ m => (false, m)) m.enterIrq.clock .normal).2 = ended
        at time kept running marked ⊢
      have stays : ended.leaveIrq = { ended with timer := { ended.timer with
          normalCallback := false, handoff := false } } := by
        unfold leaveIrq
        dsimp only
        rw [if_pos marked]
      rw [stays] at time ⊢
      refine ⟨time, fun lit => ?_⟩
      obtain ⟨powered, deadline, _⟩ := kept.powered lit
      have again := running.marked false false
      refine ⟨powered.retimed again.armed again.counting ?_ powered.receive, deadline, on⟩
      intro again
      rw [running.repeats] at again
      contradiction
    · rw [if_neg ok] at time ⊢
      apply Kept.dark time
      rw [left]
      exact dark _ _
  · rw [if_neg pulse] at time ⊢
    apply Kept.dark time
    rw [left]
    split
    · exact dark _ _
    · exact dark _ _

/-- An output keeps its cutoff when the timer's interrupt line is opened again. -/
theorem Sound.opened (sound : m.Sound hw) : Kept hw m { m with timer := { m.timer with line := true } } where
  time := rfl
  powered on := by
    have powered := sound.powered on
    have line := powered.counting.line
    have same : { m.timer with line := true } = m.timer := by
      rw [← line]
    refine ⟨?_, rfl, on⟩
    rw [same]
    exact powered

theorem commitArm_kept (obeys : Cuts hw) (sound : m.Sound hw) : Kept hw m (m.commitArm hw).2 := by
  unfold commitArm
  by_cases unfit : ¬ m.timer.armed ∨ ¬ m.timer.healthy
  · rw [if_pos unfit]
    exact .refl sound
  rw [if_neg unfit]
  by_cases flagged : m.timer.flagged = true
  · rw [if_pos flagged]
    exact irqHandler_kept obeys sound
  · rw [if_neg flagged]
    exact sound.opened

theorem commitArm_sound (obeys : Cuts hw) (sound : m.Sound hw) : (m.commitArm hw).2.Sound hw :=
  (commitArm_kept obeys sound).sound (commitArm_calm obeys.toStaysOff m sound.quiet).quiet

theorem renewLease_ok {remaining : U32} (ok : (m.renewLease hw remaining).1 = true)
    (initialized : m.timer.initialized = true) (interrupts : m.timer.interrupts = true) (repeats : m.timer.onePulse = false)
    (reload : m.timer.reload = BitVec.allOnes 32) :
    ∃ timer, (m.renewLease hw remaining).2 = { m with timer := timer } ∧ Running remaining timer := by
  unfold renewLease at ok ⊢
  split at ok
  · contradiction
  rename_i fits
  rw [if_neg fits]
  split at ok
  · contradiction
  rename_i clear
  rw [if_neg clear]
  split at ok
  · contradiction
  rename_i early
  rw [if_neg early]
  obtain ⟨committed, armed, healthy, unflagged⟩ := commitArm_ok ok
  rw [committed]
  push Not at fits
  unfold StopTimer.isArmed at fits
  have enabled := ((Bool.and_eq_true _ _).mp fits.1).2
  refine ⟨_, rfl, ?_⟩
  exact {
    armed := armed
    healthy := by
      unfold StopTimer.isHealthy
      exact (Bool.and_eq_true _ _).mpr ⟨initialized, healthy⟩
    enabled := enabled
    interrupts := interrupts
    line := rfl
    repeats := repeats
    reload := reload
    clear := unflagged
    fits := fits.2.2
    ahead := add_sub_cancel_left _ _ }

theorem Powered.repeats (powered : m.Powered) (renewable : m.renewable = true) : m.timer.onePulse = false := by
  apply Bool.eq_false_iff.mpr
  intro single
  rw [powered.single single] at renewable
  contradiction

theorem Powered.renews (powered : m.Powered) (renewable : m.renewable = true) {remaining : U32}
    (ok : (m.renewLease hw remaining).1 = true) :
    ∃ timer, (m.renewLease hw remaining).2 = { m with timer := timer } ∧ Running remaining timer := by
  have counting := powered.counting
  have repeats := powered.repeats renewable
  exact renewLease_ok ok ((Bool.and_eq_true _ _).mp counting.healthy).1 counting.interrupts repeats
    (counting.repeats repeats)

/-! ### The calls that bring no frame -/

theorem refreshRest_outline (m : Device Bridge) (now : U32) : (m.refreshRest hw now).outline = m.outline := by
  unfold refreshRest settleRest
  have confirmed : (m.confirmOff hw now).outline = m.outline := by
    unfold confirmOff
    split
    · rfl
    split <;> rfl
  rw [← confirmed]
  dsimp only
  split <;> rfl

theorem refreshRest_kept (sound : m.Sound hw) (now : U32) : Kept hw m (m.refreshRest hw now) :=
  (Kept.refl sound).same (refreshRest_outline m now)

theorem beginBuild_kept (sound : m.Sound hw) : Kept hw m (m.beginBuild hw).2 := by
  have refreshed := refreshRest_kept sound m.clock
  unfold beginBuild
  dsimp only
  split
  · exact refreshed
  · exact refreshed.same rfl

theorem acceptBuildPost_kept (obeys : Cuts hw) (sound : m.Sound hw) (token request : U32) (sequence : U64)
    (received : U32) : Kept hw m (m.acceptBuildPost hw token request sequence received).2 := by
  unfold acceptBuildPost
  dsimp only
  split
  · exact .refl sound
  split
  · split
    · exact .refl sound
    · have kept := commitArm_kept obeys sound
      split
      · exact kept
      · exact kept.same rfl
  · split
    · exact .refl sound
    · exact (Kept.refl sound).same rfl

theorem acceptBuildPost_off (obeys : Cuts hw) (token request : U32) (sequence : U64) (received : U32)
    (off : hw.isDisabled m.bridge = true) :
    hw.isDisabled (m.acceptBuildPost hw token request sequence received).2.bridge = true := by
  unfold acceptBuildPost
  dsimp only
  split
  · exact off
  split
  · have still : ¬ hw.isBraking m.bridge := by
      intro braking
      rw [obeys.brakes _ braking] at off
      contradiction
    rw [if_pos (Or.inl still)]
    exact off
  · exact off

theorem disable_off (obeys : Cuts hw) (m : Device Bridge) :
    (m.disable hw).1 = .ok ∧ hw.isDisabled (m.disable hw).2.bridge = true := by
  have off : hw.isDisabled ((m.disableImmediate hw).recordOff hw (m.disableImmediate hw).clock .stop).cancel.bridge =
      true := recordedOff_dark obeys m (m.disableImmediate hw).clock .stop
  unfold disable
  dsimp only
  rw [if_neg (not_not.mpr off), if_neg (by simp [cancel, StopTimer.cancel, StopTimer.isArmed])]
  exact ⟨rfl, off⟩

theorem disable_kept (obeys : Cuts hw) (quiet : m.Quiet hw) : Kept hw m (m.disable hw).2 :=
  .dark (disable_calm obeys.toStaysOff quiet).steady.time (disable_off obeys m).2

theorem publishCompletion_dark (obeys : Cuts hw) (m : Device Bridge) (event : StopEvent) :
    hw.isDisabled (m.publishCompletion hw event).2.bridge = true := by
  unfold publishCompletion
  dsimp only
  generalize (if m.drive.lastAction = .buildSegment ∧ m.build.endReason = .deadline then .error else event) = shown
  generalize (if shown ≠ .normal then (m.disableImmediate hw).recordOff hw (m.disableImmediate hw).clock .deadline
    else m) = k
  by_cases on : ¬ hw.isDisabled k.bridge
  · rw [if_pos on]
    exact obeys.cuts _
  · rw [if_neg on]
    exact not_not.mp on

theorem service_kept (obeys : Cuts hw) (sound : m.Sound hw) (now : U32) : Kept hw m (m.service hw now).2 := by
  have time := (service_calm obeys.toStaysOff sound.quiet now).steady.time
  unfold service at time ⊢
  cases happened : m.pending with
  | some event =>
    rw [happened] at time
    exact .dark time (publishCompletion_dark obeys _ _)
  | none =>
    rw [happened] at time
    dsimp only at time ⊢
    split
    · split
      · exact .dark rfl (obeys.cuts _)
      split
      · exact .dark rfl (obeys.cuts _)
      split
      · exact .refl sound
      · exact .refl sound
    · rename_i active
      rw [if_neg active] at time
      have failure : hw.isDisabled (m.publishFailure hw).2.bridge = true := publishCompletion_dark obeys _ _
      have when : (m.publishFailure hw).2.time = m.time := by
        have silenced : Calm hw m ((m.disableImmediate hw).cancel) :=
          (disableImmediate_calm obeys.toStaysOff sound.quiet).same rfl
        exact (silenced.trans (publishCompletion_calm obeys.toStaysOff silenced.quiet .error
          (fun normal => by contradiction))).steady.time
      split
      · exact .dark when failure
      split
      · exact .dark when failure
      · exact .refl sound

theorem guardOutput_kept (obeys : Cuts hw) (sound : m.Sound hw) : Kept hw m (m.guardOutput hw).2 := by
  unfold guardOutput guardPendingCompletion
  dsimp only
  split
  · exact .dark rfl (obeys.cuts _)
  split
  · split
    · exact .refl sound
    · exact .dark rfl (obeys.cuts _)
  · exact .dark rfl (obeys.cuts _)

theorem endBuildSegment_kept (obeys : Cuts hw) (sound : m.Sound hw) (token : U32) :
    Kept hw m (m.endBuildSegment hw token).2 := by
  have calm := endBuildSegment_calm obeys.toStaysOff sound.quiet token
  have time := calm.steady.time
  unfold endBuildSegment at time ⊢
  dsimp only at time ⊢
  by_cases foreign_ : ¬ m.owned ∨ token ≠ m.generation ∨ ¬ m.build.segmentActive ∨ m.pending ≠ none
  · rw [if_pos foreign_]
    exact .refl sound
  rw [if_neg foreign_] at time ⊢
  by_cases press : m.drive.direction = .press
  · simp only [press, if_true] at time ⊢
    have kept := commitArm_kept obeys sound
    have still := commitArm_sound obeys sound
    generalize commitArm hw m = k at kept still time ⊢
    by_cases lost : ¬ stands k ∨ k.2.due m.clock
    · rw [if_pos lost] at time ⊢
      exact .dark time (recordedOff_dark obeys _ _ _)
    rw [if_neg lost] at time ⊢
    by_cases ok : (k.2.finishPulse hw (fun remaining m => m.renewLease hw remaining) m.clock .reduced).1 = .ok
    · rw [if_pos ok]
      apply kept.trans
      apply (finishPulse_powered obeys still.quiet ok ?_ ?_).1
      · intro on renewable remaining done
        have powered := still.powered on
        have counting := powered.counting
        have repeats := powered.repeats renewable
        exact renewLease_ok done ((Bool.and_eq_true _ _).mp counting.healthy).1 counting.interrupts repeats
          (counting.repeats repeats)
      · intro on remaining done
        have counting := (still.powered on).counting
        exact (buildHandoff_running done ((Bool.and_eq_true _ _).mp counting.healthy).1 counting.interrupts
          counting.line).1
    · rw [if_neg ok] at time ⊢
      exact .dark time (recordedOff_dark obeys _ _ _)
  · simp only [press, if_false] at time ⊢
    have silenced : (m.disableImmediate hw).Sound hw :=
      Kept.sound (.dark rfl (obeys.cuts _)) (disableImmediate_calm obeys.toStaysOff sound.quiet).quiet
    have off := (commitArm_kept obeys silenced).off (obeys.cuts _)
    generalize commitArm hw (m.disableImmediate hw) = k at off time ⊢
    by_cases lost : ¬ stands k ∨ k.2.due m.clock
    · rw [if_pos lost] at time ⊢
      exact .dark time (recordedOff_dark obeys _ _ _)
    rw [if_neg lost] at time ⊢
    apply Kept.dark time
    rw [← @recordOff_bridge _ hw k.2 m.clock .reduced] at off
    split
    · exact off
    · exact off

end Device

end Sd700.Motor.BuildExecutor
