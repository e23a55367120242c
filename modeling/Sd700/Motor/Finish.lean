import Sd700.Motor.BuildExecutor

/-! How a pulse ends in BRAKE on a board that works: by its compare interrupt, or by a call. -/

namespace Sd700.Motor.BuildExecutor
open Build.Contract Interface Logic.Modular Timer Bridge

namespace Device

/-! ### Ends that come too late -/

section Late
variable {Bridge : Type} {hw : Hardware Bridge} {m : Device Bridge} {now : U32}

theorem chargePreload_endReason (m : Device Bridge) (now : U32) :
    (m.chargePreload now).build.endReason = m.build.endReason := by
  unfold chargePreload
  split
  · rfl
  · rfl

/-- A segment that is switched off for a missed deadline is on the books as one. -/
theorem recordOff_deadline (active : m.build.segmentActive = true) :
    (m.recordOff hw now .deadline).build.endReason = .deadline := by
  have ended : (m.recordPulseEnd now .deadline).build.endReason = .deadline := by
    unfold recordPulseEnd
    rw [if_neg (by simp [active])]
    show m.endedAs now .deadline = .deadline
    unfold endedAs
    exact ite_self _
  have reported : (((m.recordPulseEnd now .deadline).chargePreload now).confirmOff hw now).build.endReason = .deadline := by
    rw [confirmOff_build, chargePreload_endReason, ended]
  unfold recordOff
  dsimp only
  rw [reported]
  exact if_neg (by simp)

theorem shutDown_deadline {event : StopEvent} (active : m.build.segmentActive = true) (abnormal : event ≠ .normal) :
    (m.shutDown hw event).build.endReason = .deadline := by
  unfold shutDown
  rw [if_neg abnormal]
  exact recordOff_deadline active

theorem finishPulse_due (late : m.due now) (renew : U32 → Device Bridge → Bool × Device Bridge) (reason : EndReason) :
    m.finishPulse hw renew now reason = (.timerError, m) :=
  if_pos (.inr (.inr (.inr (.inr (.inl late)))))

end Late

/-! ### A pulse that is brought to BRAKE -/

structure Brakable (m : Device Registers) : Prop where
  owned : m.owned = true
  idle : m.pending = none
  active : m.build.segmentActive = true
  direction : m.drive.direction = .press
  plan : m.drive.tim2 = 0
  positive : m.drive.tim3 ≠ 0#16
  drives : Registers.Drives m.drive.tim3 m.bridge
  phase : m.build.phase ≠ .approach
  prompt : ¬ m.due m.clock
  ready : m.timer.buildTransitionReady = true
  onePulse : m.timer.onePulse = true
  room : m.timer.count < m.timer.reload
  lease : StopTimer.leaseFits (m.build.receiveDeadlineMs - m.clock) = true

def braked (m : Device Registers) : Device Registers := { m with bridge := (m.bridge.buildBrake true).2 }

def toBrake (m : Device Registers) : Device Registers :=
  { m.braked with timer := m.timer.handedOff (m.build.receiveDeadlineMs - m.clock) }

variable {m : Device Registers}

theorem finishPulse_brakes (brakable : Brakable m)
    (renew : U32 → Device Registers → Bool × Device Registers) (reason : EndReason) :
    m.finishPulse (.board true) renew m.clock reason = (.ok, m.toBrake.holdBrake m.clock reason) := by
  obtain ⟨owned, idle, active, direction, plan, positive, drives, phase, prompt, ready, onePulse, room, lease⟩ := brakable
  have matched : m.bridge.matchesPlan m.drive.tim2 m.drive.tim3 = true := by
    rw [plan]
    exact drives.matches positive
  have bridge : m.brakeBridge (.board true) = (true, m.braked) :=
    Prod.ext (Registers.buildBrake_drives drives).1 rfl
  have timer : m.braked.keepTimer renew = (true, m.toBrake) := by
    unfold keepTimer
    refine (if_neg phase).trans ?_
    unfold handoff
    show ((m.timer.buildHandoff (m.build.receiveDeadlineMs - m.clock)).1, { m.braked with
      timer := (m.timer.buildHandoff (m.build.receiveDeadlineMs - m.clock)).2 }) = _
    rw [StopTimer.buildHandoff_ok ready onePulse room lease]
    rfl
  unfold finishPulse
  rw [if_neg (by simp [owned, active, idle, direction, prompt, Hardware.board, matched]), bridge]
  refine (if_neg (not_or.mpr ⟨not_not.mpr ⟨rfl, owned, idle⟩, prompt⟩)).trans ?_
  dsimp only
  rw [timer]
  exact if_neg (not_or.mpr ⟨not_not.mpr ⟨rfl, owned, idle⟩, prompt⟩)

/-! ### The compare interrupt -/

structure AtCompare (m : Device Registers) : Prop where
  armed : m.timer.armed = true
  compared : m.timer.compared = true
  updated : m.timer.updated = false
  overcaptured : m.timer.overcaptured = false
  onePulse : m.timer.onePulse = true
  pulse : m.build.mode = .micro ∨ m.build.mode = .fine

def acknowledged (m : Device Registers) : Device Registers :=
  { m with timer := { m.timer with compared := false, normalCallback := true, handoff := false } }

def completed (m : Device Registers) : Device Registers :=
  { m.acknowledged.toBrake.holdBrake m.clock .normal with
    timer := { m.timer.handedOff (m.build.receiveDeadlineMs - m.clock) with
      compared := false, normalCallback := false, handoff := false } }

theorem AtCompare.event (at_ : AtCompare m) : m.irqEvent = .normal := by
  simp [irqEvent, at_.overcaptured, at_.updated, at_.compared]

theorem AtCompare.entered (at_ : AtCompare m) : m.enterIrq = m.acknowledged := by
  simp [enterIrq, acknowledged, at_.event, at_.onePulse]

theorem AtCompare.pulsing (at_ : AtCompare m) (active : m.build.segmentActive = true)
    (press : m.drive.direction = .press) : m.acknowledged.pulsing = true := by
  rcases at_.pulse with micro | fine
  · simp [Device.pulsing, acknowledged, active, press, micro]
  · simp [Device.pulsing, acknowledged, active, press, fine]

theorem recordPulseEnd_timer (m : Device Registers) (now : U32) (reason : EndReason) :
    (m.recordPulseEnd now reason).timer = m.timer := by
  unfold recordPulseEnd
  split
  · rfl
  · rfl

theorem holdBrake_timer (m : Device Registers) (now : U32) (reason : EndReason) :
    (m.holdBrake now reason).timer = m.timer :=
  recordPulseEnd_timer m now reason

theorem leaveIrq_build (m : Device Registers) : m.leaveIrq.build = m.build := by
  unfold leaveIrq
  dsimp only
  split
  · rfl
  · rfl

theorem irqHandler_late (at_ : AtCompare m) (active : m.build.segmentActive = true)
    (press : m.drive.direction = .press) (late : m.due m.clock) (hw : Hardware Registers) :
    (m.irqHandler hw).build.endReason = .deadline := by
  have finished : m.acknowledged.finishPulse hw (fun _ m => (false, m)) m.acknowledged.clock .normal =
      (.timerError, m.acknowledged) := by
    have late' : m.acknowledged.due m.acknowledged.clock := late
    exact finishPulse_due late' _ _
  have expires : m.acknowledged.expired hw .normal = m.acknowledged.shutDown hw .error := by
    unfold expired
    rw [if_pos ⟨rfl, at_.pulsing active press⟩, finished]
    exact if_neg (by simp)
  unfold irqHandler
  rw [if_neg (not_not.mpr at_.armed), at_.event, at_.entered, expires, leaveIrq_build]
  exact shutDown_deadline active (by simp)

/-- The interrupt brings a pulse that can be brought to BRAKE there. -/
theorem irqHandler_brakes (at_ : AtCompare m) (brakable : Brakable m.acknowledged) :
    m.irqHandler (.board true) = m.completed := by
  have finished : m.acknowledged.finishPulse (.board true) (fun _ m => (false, m)) m.acknowledged.clock .normal = _ :=
    finishPulse_brakes brakable _ .normal
  have pulsing := at_.pulsing brakable.active brakable.direction
  have expires : m.acknowledged.expired (.board true) .normal =
      m.acknowledged.toBrake.holdBrake m.acknowledged.clock .normal := by
    unfold expired
    rw [if_pos ⟨rfl, pulsing⟩, finished]
    exact if_pos rfl
  unfold irqHandler
  rw [if_neg (not_not.mpr at_.armed), at_.event, at_.entered, expires]
  unfold leaveIrq
  dsimp only
  rw [holdBrake_timer]
  exact if_pos rfl

end Device

end Sd700.Motor.BuildExecutor
