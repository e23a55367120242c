import Sd700.Motor.BuildExecutor

/-! What a segment that has started looks like: its place in the ledger, its timer and its bridge. -/

namespace Sd700.Motor.BuildExecutor
open Build.Contract Interface Logic.Modular Timer Bridge

namespace Device

variable {Bridge : Type} {hw : Hardware Bridge} {m : Device Bridge}

/-! ### Small steps -/

theorem commitArm_ok (ok : (m.commitArm hw).1 = true) :
    m.commitArm hw = (true, { m with timer := { m.timer with line := true } }) ∧
      m.timer.armed = true ∧ m.timer.healthy = true ∧ m.timer.flagged = false := by
  unfold commitArm at ok ⊢
  split at ok
  · exact nomatch ok
  rename_i committed
  split at ok
  · exact nomatch ok
  rename_i clear
  rw [if_neg committed, if_neg clear]
  push Not at committed
  exact ⟨rfl, committed.1, committed.2, by simpa using clear⟩

theorem commitArm_ready (armed : m.timer.armed = true) (healthy : m.timer.healthy = true)
    (clear : m.timer.flagged = false) :
    m.commitArm hw = (true, { m with timer := { m.timer with line := true } }) := by
  unfold commitArm
  rw [if_neg (by simp [armed, healthy]), if_neg (by simp [clear])]

structure Programmed (r : Request) (hard : U32) (t : StopTimer) : Prop where
  pulse : r.phase ≠ .approach → t.Pulsed r.normalMs hard

theorem armLease_ok {remaining : U32} (ok : (m.armLease hw remaining).1 = true) :
    ∃ timer, m.armLease hw remaining = (true, { m with timer := timer }) := by
  unfold armLease at ok ⊢
  split at ok
  · exact nomatch ok
  rename_i fits
  rw [if_neg fits]
  exact ⟨_, (commitArm_ok ok).1⟩

theorem program_ok {r : Request} {origin : Origin} {now : U32} (ok : (m.program hw r origin now).1 = true) :
    ∃ timer, m.program hw r origin now = (true, { m with timer := timer }) ∧
      Programmed r m.build.hardMs timer := by
  unfold program at ok ⊢
  dsimp only at ok ⊢
  split at ok
  · rename_i approach
    obtain ⟨timer, armed⟩ := armLease_ok ok
    rw [if_pos approach]
    exact ⟨timer, armed, ⟨fun pulse => absurd approach pulse⟩⟩
  · rename_i pulse
    rw [if_neg pulse]
    split at ok
    · rename_i off
      rw [if_pos off, show (m.timer.arm r.normalMs m.build.hardMs).1 = true from ok]
      exact ⟨_, rfl, ⟨fun _ => StopTimer.arm_pulsed ok⟩⟩
    · rename_i on
      rw [if_neg on, show (m.timer.buildPulse r.normalMs m.build.hardMs).1 = true from ok]
      exact ⟨_, rfl, ⟨fun _ => StopTimer.buildPulse_pulsed ok⟩⟩

theorem stands_iff {kept : Bool × Device Bridge} :
    stands kept ↔ kept.1 = true ∧ kept.2.owned = true ∧ kept.2.pending = none := Iff.rfl

/-! ### A segment that starts -/

structure Energized (hw : Hardware Bridge) (delay : Nat) (r : Request) (origin : Origin) (duty : U16)
    (m s : Device Bridge) : Prop where
  owned : m.owned = true
  idle : m.pending = none
  programmed : Programmed r m.build.hardMs s.timer
  clear : s.timer.armed = true ∧ s.timer.healthy = true ∧ s.timer.flagged = false
  engaged : engage hw origin duty m.bridge = (true, s.bridge)
  matched : hw.matchesPlan 0 duty s.bridge = true
  same : s = { m with
    time := m.time + delay, timer := s.timer, bridge := s.bridge, offVerified := false
    build := { m.build with segmentActive := true } }

theorem energize_ok {delay : Nat} {r : Request} {origin : Origin} {duty : U16} {now : U32}
    (ok : (m.energize hw delay r origin duty now).1 = .ok) :
    Energized hw delay r origin duty m (m.energize hw delay r origin duty now).2 := by
  unfold energize at ok ⊢
  dsimp only at ok ⊢
  split at ok
  · exact nomatch ok
  rename_i armed
  rw [if_neg armed]
  rw [not_not] at armed
  split at ok
  · exact nomatch ok
  rename_i ready
  rw [if_neg ready]
  rw [not_not] at ready
  split at ok
  · exact nomatch ok
  rename_i applied
  rw [if_neg applied]
  split at ok
  · exact nomatch ok
  rename_i driven
  rw [if_neg driven]
  rw [not_not] at driven
  push Not at applied
  obtain ⟨timer, program, programmed⟩ := program_ok armed
  rw [program] at ready applied driven ⊢
  have committed := (commitArm_ok ready.1).1
  rw [committed] at ready applied driven ⊢
  obtain ⟨again, armedAgain, healthy, clear⟩ := commitArm_ok driven.1
  rw [again] at driven ⊢
  refine ⟨ready.2.1, ready.2.2, ⟨fun pulse => ?_⟩, ⟨armedAgain, healthy, clear⟩, ?_, applied.2, rfl⟩
  · exact (programmed.pulse pulse).line
  · exact Prod.ext applied.1 rfl

/-- An output that is taken over keeps its state; only its interrupt line may be opened again. -/
theorem takesOver_ok {r : Request} {now : U32} (ok : (m.takesOver hw r now).1 = true) :
    ∃ timer, (m.takesOver hw r now).2 = { m with timer := timer } := by
  unfold takesOver at ok ⊢
  split at ok
  · rename_i brake
    rw [if_pos brake]
    split at ok
    · exact nomatch ok
    rename_i braking
    rw [if_neg braking]
    simp only [Bool.and_eq_true] at ok
    exact ⟨_, congrArg Prod.snd (commitArm_ok ok.1.1.1.1).1⟩
  rename_i brake
  rw [if_neg brake]
  split at ok
  · rename_i approach
    rw [if_pos approach]
    split at ok
    · exact nomatch ok
    rename_i matched
    rw [if_neg matched]
    simp only [Bool.and_eq_true] at ok
    exact ⟨_, congrArg Prod.snd (commitArm_ok ok.1.1.1).1⟩
  · rename_i approach
    rw [if_neg approach]
    exact ⟨m.timer, rfl⟩

/-- What an accepted start passed through, up to the state that is energized. -/
structure Accepted (hw : Hardware Bridge) (delay : Nat) (token : U32) (r : Request) (sequence : U64)
    (received : U32) (duty : U16) (taken : Device Bridge) (m s : Device Bridge) : Prop where
  admitted : ¬ m.refuses token r sequence
  rested : (m.refreshRest hw m.clock).restRequired = false
  recent : m.clock - received ≤ ageMs
  healthy : (m.refreshRest hw m.clock).isHealthy hw = true
  takes : (m.refreshRest hw m.clock).takesOver hw r m.clock = (true, taken)
  fits : taken.admits r (m.clock - received)
  left : r.phase = .approach → ¬ (taken.giveWay r m.clock).approachSpent
  plans : planPress r.command = some duty
  energized : Energized hw delay r (taken.origin r) duty
    (((taken.giveWay r m.clock).book r sequence received m.clock).plan r duty m.clock) s

theorem start_ok {delay : Nat} {token : U32} {r : Request} {sequence : U64} {received : U32}
    (ok : (m.startBuildSegmentAfter hw delay token r sequence received).1 = .ok) :
    ∃ duty taken, Accepted hw delay token r sequence received duty taken m
      (m.startBuildSegmentAfter hw delay token r sequence received).2 := by
  unfold startBuildSegmentAfter at ok ⊢
  dsimp only at ok ⊢
  split at ok
  · exact nomatch ok
  rename_i admitted
  rw [if_neg admitted]
  split at ok
  · exact nomatch ok
  rename_i rested
  rw [if_neg rested]
  split at ok
  · exact nomatch ok
  rename_i taken
  rw [if_neg taken]
  split at ok
  · exact nomatch ok
  rename_i left
  rw [if_neg left]
  push Not at rested taken left
  split at ok
  · exact nomatch ok
  rename_i duty plans
  refine ⟨duty, ((m.refreshRest hw m.clock).takesOver hw r m.clock).2, admitted, ?_, ?_, rested.2.2, ?_, taken.2,
    left, plans, ?_⟩
  · simpa using rested.1
  · exact BitVec.not_lt.mp rested.2.1
  · exact Prod.ext taken.1 rfl
  · exact energize_ok ok

theorem chargePreload_preload (now : U32) : (m.chargePreload now).build.preloadActive = false := by
  unfold chargePreload
  split
  · rename_i off
    simpa using off
  · rfl

theorem chargePreload_owned (now : U32) : (m.chargePreload now).owned = m.owned := by
  unfold chargePreload
  split
  · rfl
  · rfl

theorem chargePreload_rest (now : U32) : (m.chargePreload now).restRequired = m.restRequired := by
  unfold chargePreload
  split
  · rfl
  · rfl

theorem recordPulseEnd_rest {now : U32} {reason : EndReason} (owned : (m.recordPulseEnd now reason).owned = true) :
    (m.recordPulseEnd now reason).restRequired = m.restRequired := by
  unfold recordPulseEnd at owned ⊢
  split
  · rfl
  · rename_i active
    rw [if_neg active] at owned
    by_cases overran : m.overran now
    · simp [endedAs, overran, EndReason.isOrderly] at owned
    · simp [overran]

/-- A segment that keeps its owner has brought no rest upon the motor. -/
theorem giveWay_rest {r : Request} {now : U32} (owned : (m.giveWay r now).owned = true) :
    (m.giveWay r now).restRequired = m.restRequired := by
  unfold giveWay at owned ⊢
  dsimp only at owned ⊢
  rw [chargePreload_owned] at owned
  rw [chargePreload_rest]
  by_cases approach : m.fromApproach r = true
  · rw [if_pos approach] at owned ⊢
    exact recordPulseEnd_rest owned
  · rw [if_neg approach]

/-! ### A pulse that starts -/

structure PulseStarted (hw : Hardware Bridge) (r : Request) (received now : U32) (duty : U16)
    (s : Device Bridge) : Prop where
  owned : s.owned = true
  idle : s.pending = none
  rested : s.restRequired = false
  active : s.build.segmentActive = true
  unbraked : s.build.preloadActive = false
  unended : s.build.endReason = .none
  phase : s.build.phase = r.phase
  mode : s.build.mode = r.mode
  started : s.build.startedMs = now
  hard : s.build.hardMs = r.hardMs
  deadline : s.build.deadlineMs = now + r.hardMs
  receiveDeadline : s.build.receiveDeadlineMs = received + leaseMs
  direction : s.drive.direction = .press
  plan : s.drive.tim2 = 0 ∧ s.drive.tim3 = duty
  pulsed : s.timer.Pulsed r.normalMs r.hardMs
  matched : hw.matchesPlan 0 duty s.bridge = true

theorem Accepted.pulse {delay : Nat} {token : U32} {r : Request} {sequence : U64} {received : U32} {duty : U16}
    {taken s : Device Bridge} (accepted : Accepted hw delay token r sequence received duty taken m s)
    (pulse : r.phase ≠ .approach) : PulseStarted hw r received m.clock duty s := by
  obtain ⟨timer, same⟩ := takesOver_ok (congrArg Prod.fst accepted.takes)
  have keeps : taken = { m.refreshRest hw m.clock with timer := timer } :=
    (congrArg Prod.snd accepted.takes).symm.trans same
  have energized := accepted.energized
  have owned : (taken.giveWay r m.clock).owned = true := energized.owned
  have rested : (taken.giveWay r m.clock).restRequired = false := by
    rw [giveWay_rest owned, keeps]
    exact accepted.rested
  have hard : (taken.giveWay r m.clock).hardLimit r = r.hardMs := if_neg pulse
  have programmed := energized.programmed.pulse pulse
  rw [energized.same]
  exact {
    owned := owned
    idle := energized.idle
    rested := rested
    active := rfl
    unbraked := chargePreload_preload _
    unended := rfl
    phase := rfl
    mode := rfl
    started := rfl
    hard := hard
    deadline := congrArg (m.clock + ·) hard
    receiveDeadline := rfl
    direction := rfl
    plan := ⟨rfl, rfl⟩
    pulsed := by
      rw [← hard]
      exact programmed
    matched := energized.matched }

end Device

end Sd700.Motor.BuildExecutor
