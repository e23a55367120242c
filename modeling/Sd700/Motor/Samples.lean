import Sd700.Logic.Checks
import Sd700.Motor.Continuous
import Sd700.Motor.Countdown

/-! The calls of the continuous executor that get through: what they have asked of the timer and the bridge, and the
session, the lease and the output they leave. -/

namespace Sd700.Motor.Continuous
open Build.Contract Logic.Modular Logic.Checks Interface Bridge Timer Locked Unlocked

/-! ### Ways out -/

theorem need_ok {condition : Prop} [Decidable condition] {s : State} : need condition s = .ok () ↔ condition := by
  unfold need
  by_cases holds : condition
  · rw [if_pos holds]
    exact ⟨fun _ => holds, fun _ => rfl⟩
  · rw [if_neg holds]
    exact ⟨fun passed => by contradiction, fun met => absurd met holds⟩

theorem tried_ok {answer : Bool × State} {t : State} : tried answer = .ok t ↔ answer.1 = true ∧ answer.2 = t := by
  unfold tried
  by_cases ok : answer.1 = true
  · rw [if_pos ok]
    exact ⟨fun reached => ⟨ok, Except.ok.inj reached⟩, fun reached => congrArg _ reached.2⟩
  · rw [if_neg ok]
    exact ⟨fun reached => by contradiction, fun reached => absurd reached.1 ok⟩

theorem settle_ok {body : Except State State} (ok : (State.settle body).1 = .ok) : body = .ok (State.settle body).2 := by
  cases body with
  | ok s => rfl
  | error s => contradiction

namespace State

abbrev lead (s : State) : ℕ := s.timer.lead

abbrev Before (s : State) (deadline : U32) : Prop := s.timer.Before s.time deadline

def Planned (c : Ceilings) (command : ℤ) (t2 t3 : U16) : Prop :=
  if command = 0 then t2 = 0 ∧ t3 = 0
  else ∃ plan, c.plan (directionOf command) command.natAbs = some plan ∧ t2 = plan.tim2 ∧ t3 = plan.tim3

/-- A lease is running, and everything an output needs stands behind it. -/
structure Leased (c : Ceilings) (s : State) : Prop where
  isOpen : s.session.isOpen = true
  sequenced : s.session.hasSequence = true
  settled : s.pending = none
  active : s.logical.active = true
  continuous : s.logical.lastAction = .continuous
  healthy : s.timer.isHealthy = true
  enabled : s.timer.enabled = true
  interrupts : s.timer.interrupts = true
  line : s.timer.line = true
  repeats : s.timer.onePulse = false
  reload : s.timer.reload = BitVec.allOnes 32
  ahead : s.timer.flagged = true ∨ 0 < s.lead
  planned : Planned c s.session.committed s.logical.tim2 s.logical.tim3
  driven : s.bridge.matchesPlan s.logical.tim2 s.logical.tim3 = true
  receive : s.Before s.session.receiveDeadline
  near : (s.session.receiveDeadline - s.clock).toNat ≤ 130
  session : s.session.limited = true → s.Before s.session.deadline

structure Sound (c : Ceilings) (s : State) : Prop where
  leased : s.timer.armed = true → s.Leased c
  lit : s.bridge.isDisabled = false → s.timer.armed = true
  limited : s.session.limited = true → s.session.budgetSet = true
  configured : s.bridge.configured = true

variable {c : Ceilings} {armed : Bool} {s t : State}

/-- An executor whose output is off and whose timer is cleared. -/
theorem Sound.dark (off : s.bridge.isDisabled = true) (idle : s.timer.armed = false)
    (limited : s.session.limited = true → s.session.budgetSet = true) (configured : s.bridge.configured = true) :
    s.Sound c where
  leased running := by rw [idle] at running; contradiction
  lit on := by rw [off] at on; contradiction
  limited := limited
  configured := configured

theorem Sound.off_of_idle (sound : s.Sound c) (idle : s.timer.armed = false) : s.bridge.isDisabled = true := by
  by_contra on
  have running := sound.lit (Bool.eq_false_iff.mpr on)
  rw [idle] at running
  contradiction

/-! ### The calls of the timer -/

theorem commitArm_ok (ok : s.commitArm.1 = true) :
    s.timer.armed = true ∧ s.timer.healthy = true ∧ s.timer.flagged = false ∧
      s.commitArm.2 = { s with timer := { s.timer with line := true } } := by
  unfold commitArm at ok ⊢
  by_cases sick : ¬s.timer.armed ∨ ¬s.timer.healthy
  · rw [if_pos sick] at ok
    contradiction
  rw [if_neg sick] at ok ⊢
  push Not at sick
  by_cases flagged : s.timer.flagged = true
  · rw [if_pos flagged] at ok
    contradiction
  rw [if_neg flagged]
  exact ⟨sick.1, sick.2, Bool.eq_false_iff.mpr flagged, rfl⟩

theorem commitArm_same (line : s.timer.line = true) (ok : s.commitArm.1 = true) : s.commitArm.2 = s := by
  obtain ⟨_, _, _, same⟩ := commitArm_ok ok
  rw [same]
  have still : { s.timer with line := true } = s.timer := by rw [← line]
  rw [still]

theorem armLease_ok {remaining : U32} (ok : (s.armLease remaining).1 = true) :
    Running remaining (s.armLease remaining).2.timer ∧
      (s.armLease remaining).2 = { s with timer := (s.armLease remaining).2.timer } := by
  unfold armLease at ok ⊢
  by_cases refused : ¬s.timer.isHealthy ∨ s.timer.armed ∨ ¬StopTimer.leaseFits remaining
  · rw [if_pos refused] at ok
    contradiction
  rw [if_neg refused] at ok ⊢
  push Not at refused
  obtain ⟨_, _, _, same⟩ := commitArm_ok ok
  rw [same]
  refine ⟨⟨rfl, refused.1, rfl, rfl, rfl, rfl, rfl, rfl, refused.2.2, ?_⟩, rfl⟩
  exact BitVec.sub_zero _

theorem renewLease_ok {remaining : U32} (interrupts : s.timer.interrupts = true) (repeats : s.timer.onePulse = false)
    (reload : s.timer.reload = BitVec.allOnes 32) (initialized : s.timer.initialized = true)
    (ok : (s.renewLease remaining).1 = true) :
    Running remaining (s.renewLease remaining).2.timer ∧
      (s.renewLease remaining).2 = { s with timer := (s.renewLease remaining).2.timer } := by
  unfold renewLease at ok ⊢
  by_cases refused : ¬s.timer.isArmed ∨ ¬s.timer.healthy ∨ ¬StopTimer.leaseFits remaining
  · rw [if_pos refused] at ok
    contradiction
  rw [if_neg refused] at ok ⊢
  by_cases flagged : s.timer.flagged = true
  · rw [if_pos flagged] at ok
    contradiction
  rw [if_neg flagged] at ok ⊢
  by_cases late : Reached s.timer.count s.timer.compare
  · rw [if_pos late] at ok
    contradiction
  rw [if_neg late] at ok ⊢
  push Not at refused
  have running := refused.1
  rw [StopTimer.isArmed, Bool.and_eq_true] at running
  obtain ⟨_, _, _, same⟩ := commitArm_ok ok
  rw [same]
  refine ⟨⟨running.1, ?_, running.2, interrupts, rfl, repeats, reload, Bool.eq_false_iff.mpr flagged, refused.2.2, ?_⟩, rfl⟩
  · change (s.timer.initialized && s.timer.healthy) = true
    rw [initialized, refused.2.1]
    rfl
  · exact add_sub_cancel_left _ _

/-! ### The calls of the bridge -/

/-- A call on the bridge that has succeeded drives its compare values. -/
structure Driven (t2 t3 : U16) (b : Registers) : Prop where
  matched : b.matchesPlan t2 t3 = true
  on : b.isDisabled = false
  configured : b.configured = true

theorem driven_press {b : Registers} {duty : U16} (configured : b.configured = true) (positive : duty ≠ 0#16)
    (valid : b.activeCompareIsValid duty = true) : Driven 0 duty b := by
  refine ⟨?_, ?_, configured⟩
  · simp [Registers.matchesPlan, positive, configured, valid]
  · simp only [Registers.activeCompareIsValid, Bool.and_eq_true] at valid
    simp [Registers.isDisabled, valid.1.1.1.1]

theorem driven_release {b : Registers} {duty : U16} (configured : b.configured = true) (positive : duty ≠ 0#16)
    (valid : b.releaseCompareIsValid duty = true) : Driven duty 0 b := by
  refine ⟨?_, ?_, configured⟩
  · simp [Registers.matchesPlan, positive, configured, valid]
  · simp only [Registers.releaseCompareIsValid, Bool.and_eq_true] at valid
    simp [Registers.isDisabled, valid.1.1.1.1]

theorem applyPress_driven {b : Registers} {duty : U16} (configured : b.configured = true)
    (ok : (b.applyPress armed duty).1 = true) : Driven 0 duty (b.applyPress armed duty).2 := by
  unfold Registers.applyPress at ok ⊢
  dsimp only at ok ⊢
  split at ok
  · contradiction
  rename_i admitted
  split at ok
  · contradiction
  rename_i running
  split at ok
  · contradiction
  rename_i valid
  rw [if_neg admitted, if_neg running, if_neg valid]
  push Not at admitted
  exact driven_press configured admitted.2.1 (not_not.mp valid)

theorem applyRelease_driven {b : Registers} {duty : U16} (configured : b.configured = true)
    (ok : (applyRelease b armed duty).1 = true) : Driven duty 0 (applyRelease b armed duty).2 := by
  unfold applyRelease at ok ⊢
  dsimp only at ok ⊢
  split at ok
  · contradiction
  rename_i admitted
  split at ok
  · contradiction
  rename_i running
  split at ok
  · contradiction
  rename_i valid
  rw [if_neg admitted, if_neg running, if_neg valid]
  push Not at admitted
  exact driven_release configured admitted.2.1 (not_not.mp valid)

theorem updatePress_driven {b : Registers} {duty : U16} (ok : (b.updatePress armed duty).1 = true) :
    Driven 0 duty (b.updatePress armed duty).2 := by
  unfold Registers.updatePress at ok ⊢
  dsimp only at ok ⊢
  split at ok
  · contradiction
  rename_i admitted
  split at ok
  · contradiction
  rename_i valid
  rw [if_neg admitted, if_neg valid]
  push Not at admitted
  exact driven_press admitted.2.2.2.2.2.1 admitted.2.2.2.1 (not_not.mp valid)

theorem updateRelease_driven {b : Registers} {duty : U16} (ok : (updateRelease b armed duty).1 = true) :
    Driven duty 0 (updateRelease b armed duty).2 := by
  unfold updateRelease at ok ⊢
  dsimp only at ok ⊢
  split at ok
  · contradiction
  rename_i admitted
  split at ok
  · contradiction
  rename_i valid
  rw [if_neg admitted, if_neg valid]
  push Not at admitted
  exact driven_release admitted.2.2.2.2.2.1 admitted.2.2.2.1 (not_not.mp valid)

theorem plan_one_sided {direction : Direction} {command : ℕ} {plan : Plan} (planned : c.plan direction command = some plan) :
    plan.direction = direction ∧ (direction = .press → plan.tim2 = 0) ∧ (direction = .release → plan.tim3 = 0) := by
  unfold Ceilings.plan at planned
  dsimp only at planned
  split_ifs at planned
  obtain ⟨counts, found, same⟩ := Option.map_eq_some_iff.mp planned
  unfold Pulses.planCommand at found
  split_ifs at found
  rw [← same]
  cases direction with
  | press =>
    obtain rfl := Option.some.inj found
    exact ⟨rfl, fun _ => rfl, fun other => by contradiction⟩
  | release =>
    obtain rfl := Option.some.inj found
    exact ⟨rfl, fun other => by contradiction, fun _ => rfl⟩

theorem plan_counts {direction : Direction} {command : ℕ} {plan : Plan} (planned : c.plan direction command = some plan) :
    (direction = .press → plan.tim3 ≠ 0) ∧ (direction = .release → plan.tim2 ≠ 0) := by
  unfold Ceilings.plan at planned
  dsimp only at planned
  split_ifs at planned
  obtain ⟨counts, found, same⟩ := Option.map_eq_some_iff.mp planned
  unfold Pulses.planCommand at found
  split_ifs at found with none_
  push Not at none_
  have positive : BitVec.ofNat 16 (min ((command * Pulses.pwmPeriodCounts + (Pulses.supplyReferenceMv - 1)) /
      Pulses.supplyReferenceMv) Pulses.pwmPeriodCounts) ≠ 0#16 := by
    intro zero
    have value := congrArg BitVec.toNat zero
    rw [BitVec.toNat_ofNat] at value
    unfold Pulses.pwmPeriodCounts Pulses.supplyReferenceMv at value
    simp only [BitVec.toNat_ofNat] at value
    omega
  rw [← same]
  cases direction with
  | press =>
    obtain rfl := Option.some.inj found
    exact ⟨fun _ => positive, fun other => by contradiction⟩
  | release =>
    obtain rfl := Option.some.inj found
    exact ⟨fun other => by contradiction, fun _ => positive⟩

theorem apply_driven {running : Bool} {direction : Direction} {command : ℕ} {plan : Plan}
    (planned : c.plan direction command = some plan) (configured : s.bridge.configured = true)
    (ok : (s.apply armed running plan).1 = true) :
    Driven plan.tim2 plan.tim3 (s.apply armed running plan).2.bridge := by
  obtain ⟨same, press, release⟩ := plan_one_sided planned
  unfold apply at ok ⊢
  rw [same] at ok ⊢
  cases direction with
  | press =>
    rw [press rfl]
    cases running with
    | true => exact updatePress_driven ok
    | false => exact applyPress_driven configured ok
  | release =>
    rw [release rfl]
    cases running with
    | true => exact updateRelease_driven ok
    | false => exact applyRelease_driven configured ok

/-! ### An accepted sample -/

def letThrough (s : State) (r : ContinuousRequest) : ℤ := if s.reverses r ∨ s.tooSoon r then 0 else r.requested

def endsBoost (s : State) (actual : ℤ) : Bool :=
  s.session.boostSet && s.session.boostEnd && decide (actual ≤ s.session.normalCap)

def accepted (s : State) (r : ContinuousRequest) (actual : ℤ) : Session :=
  { s.session with
    committed := actual
    lastSign := if actual = 0 then s.session.lastSign else actual.sign
    offMs := if actual = 0 ∧ s.session.committed ≠ 0 then s.clock else s.session.offMs
    sequence := r.sequence, hasSequence := true, receiveDeadline := r.received + r.leaseMs
    boostSet := s.session.boostSet && !s.endsBoost actual
    boostPlan := s.session.boostPlan && !s.endsBoost actual }

structure Accepts (c : Ceilings) (armed : Bool) (r : ContinuousRequest) (s t : State) : Prop where
  owned : ¬ s.refuses r
  admitted : s.admits c armed r
  session : t.session = s.accepted r (s.letThrough r)
  time : t.time = s.time
  settled : t.pending = none
  lease : ∃ remaining, Running remaining t.timer ∧ remaining ≤ s.grant (r.leaseMs - s.age r) ∧
    (t.session.boostSet = true → remaining ≤ s.session.boostDeadline - s.clock)
  planned : Planned c (s.letThrough r) t.logical.tim2 t.logical.tim3
  driven : t.bridge.matchesPlan t.logical.tim2 t.logical.tim3 = true
  configured : t.bridge.configured = true
  active : t.logical.active = true
  continuous : t.logical.lastAction = .continuous

theorem interlock_ok {r : ContinuousRequest} {actual : ℤ} (done : s.interlock r = .ok (actual, t)) :
    actual = s.letThrough r ∧
      t = { s with
        bridge := if s.reverses r then s.bridge.disableImmediate else s.bridge
        session := { s.session with
          committed := if s.reverses r then 0 else s.session.committed
          offMs := if s.reverses r then s.clock else s.session.offMs } } := by
  unfold interlock at done
  unfold letThrough
  by_cases turns : s.reverses r
  · rw [if_pos turns] at done
    obtain ⟨_, reached⟩ := guard_ok.mp done
    obtain ⟨rfl, rfl⟩ := Prod.mk.inj (Except.ok.inj reached)
    rw [if_pos (Or.inl turns), if_pos turns, if_pos turns, if_pos turns]
    exact ⟨rfl, rfl⟩
  · rw [if_neg turns] at done
    rw [if_neg turns, if_neg turns, if_neg turns]
    by_cases soon : s.tooSoon r
    · rw [if_pos soon] at done
      obtain ⟨rfl, rfl⟩ := Prod.mk.inj (Except.ok.inj done)
      rw [if_pos (Or.inr soon)]
      exact ⟨rfl, rfl⟩
    · rw [if_neg soon] at done
      obtain ⟨rfl, rfl⟩ := Prod.mk.inj (Except.ok.inj done)
      rw [if_neg (not_or.mpr ⟨turns, soon⟩)]
      exact ⟨rfl, rfl⟩

structure Free (t : StopTimer) : Prop where
  initialized : t.initialized = true
  interrupts : t.interrupts = true
  repeats : t.onePulse = false
  reload : t.reload = BitVec.allOnes 32

theorem Leased.free (leased : s.Leased c) : Free s.timer := by
  have healthy := leased.healthy
  rw [StopTimer.isHealthy, Bool.and_eq_true] at healthy
  exact ⟨healthy.1, leased.interrupts, leased.repeats, leased.reload⟩

theorem free_of_running {remaining : U32} (running : Running remaining s.timer) : Free s.timer := by
  have healthy := running.healthy
  rw [StopTimer.isHealthy, Bool.and_eq_true] at healthy
  exact ⟨healthy.1, running.interrupts, running.repeats, running.reload⟩

theorem lease_ok {remaining : U32} (free : s.session.hasSequence = true → Free s.timer)
    (ok : (s.lease remaining).1 = true) :
    Running remaining (s.lease remaining).2.timer ∧
      (s.lease remaining).2 = { s with timer := (s.lease remaining).2.timer } := by
  unfold lease at ok ⊢
  by_cases further : s.session.hasSequence = true
  · rw [if_pos further] at ok ⊢
    have free := free further
    exact renewLease_ok free.interrupts free.repeats free.reload free.initialized ok
  · rw [if_neg further] at ok ⊢
    exact armLease_ok ok

theorem output_ok {actual : ℤ} {t2 t3 : U16} (configured : s.bridge.configured = true)
    (done : s.output c armed actual = .ok (t2, t3, t)) :
    Planned c actual t2 t3 ∧ t.bridge.matchesPlan t2 t3 = true ∧ t.bridge.configured = true ∧
      t = { s with
        bridge := t.bridge
        session := { s.session with
          lastSign := if actual = 0 then s.session.lastSign else actual.sign
          offMs := if actual = 0 ∧ s.session.committed ≠ 0 then s.clock else s.session.offMs } } := by
  unfold output at done
  unfold Planned
  by_cases zero : actual = 0
  · rw [if_pos zero] at done
    obtain ⟨_, reached⟩ := guard_ok.mp done
    obtain ⟨rfl, rest⟩ := Prod.mk.inj (Except.ok.inj reached)
    obtain ⟨rfl, rfl⟩ := Prod.mk.inj rest
    rw [if_pos zero, if_pos zero]
    by_cases on : s.session.committed ≠ 0
    · rw [if_pos on, if_pos ⟨zero, on⟩]
      exact ⟨⟨rfl, rfl⟩, rfl, configured, rfl⟩
    · rw [if_neg on, if_neg fun both => on both.2]
      exact ⟨⟨rfl, rfl⟩, rfl, configured, rfl⟩
  · rw [if_neg zero] at done
    rw [if_neg zero, if_neg zero, if_neg fun both => zero both.1]
    generalize planned : c.plan (directionOf actual) actual.natAbs = found at done
    cases found with
    | none => contradiction
    | some plan =>
      obtain ⟨u, applied, reached⟩ := bind_ok.mp done
      obtain ⟨ok, rfl⟩ := tried_ok.mp applied
      obtain ⟨_, reached⟩ := guard_ok.mp reached
      obtain ⟨rfl, rest⟩ := Prod.mk.inj (Except.ok.inj reached)
      obtain ⟨rfl, rfl⟩ := Prod.mk.inj rest
      have driven := apply_driven planned configured ok
      exact ⟨⟨plan, rfl, rfl, rfl⟩, driven.matched, driven.configured, rfl⟩

theorem finishBoost_ok {ends : Bool} {normal remaining left : U32} (running : Running remaining s.timer)
    (done : s.finishBoost ends normal remaining = .ok (left, t)) :
    left = (if ends then normal else remaining) ∧ Running left t.timer ∧
      t = { s with
        timer := t.timer
        session := { s.session with
          boostSet := s.session.boostSet && !ends, boostPlan := s.session.boostPlan && !ends } } := by
  unfold finishBoost at done
  cases ends with
  | false =>
    obtain ⟨rfl, rfl⟩ := Prod.mk.inj (Except.ok.inj done)
    refine ⟨rfl, running, ?_⟩
    rw [Bool.not_false, Bool.and_true, Bool.and_true]
  | true =>
    obtain ⟨u, renewed, reached⟩ := bind_ok.mp done
    obtain ⟨ok, rfl⟩ := tried_ok.mp renewed
    obtain ⟨v, committed, reached⟩ := bind_ok.mp reached
    obtain ⟨kept, rfl⟩ := tried_ok.mp committed
    obtain ⟨rfl, rfl⟩ := Prod.mk.inj (Except.ok.inj reached)
    have free := free_of_running running
    obtain ⟨renewed, same⟩ := renewLease_ok free.interrupts free.repeats free.reload free.initialized ok
    rw [commitArm_same renewed.line kept]
    refine ⟨rfl, renewed, ?_⟩
    rw [Bool.not_true, Bool.and_false, Bool.and_false, same]

theorem grant_le (s : State) (remaining : U32) : s.grant remaining ≤ remaining := by
  unfold grant
  by_cases shorter : s.session.limited = true ∧ s.session.deadline - s.clock < remaining
  · rw [if_pos shorter]
    exact BitVec.le_of_lt shorter.2
  · rw [if_neg shorter]
    exact BitVec.le_refl _

theorem grant_session (limited : s.session.limited = true) (remaining : U32) :
    s.grant remaining ≤ s.session.deadline - s.clock := by
  unfold grant
  by_cases shorter : s.session.limited = true ∧ s.session.deadline - s.clock < remaining
  · rw [if_pos shorter]
    exact BitVec.le_refl _
  · rw [if_neg shorter]
    exact BitVec.not_lt.mp fun less => shorter ⟨limited, less⟩

theorem updateGrant_le (s : State) (r : ContinuousRequest) :
    s.updateGrant r ≤ s.grant (r.leaseMs - s.age r) ∧
      (s.session.boostSet = true → s.updateGrant r ≤ s.session.boostDeadline - s.clock) := by
  unfold updateGrant
  dsimp only
  by_cases shorter : s.session.boostSet = true ∧ s.session.boostDeadline - s.clock < s.grant (r.leaseMs - s.age r)
  · rw [if_pos shorter]
    exact ⟨BitVec.le_of_lt shorter.2, fun _ => BitVec.le_refl _⟩
  · rw [if_neg shorter]
    exact ⟨BitVec.le_refl _, fun set => BitVec.not_lt.mp fun less => shorter ⟨set, less⟩⟩

theorem free_of_admitted {r : ContinuousRequest} (sound : s.Sound c) (admitted : s.admits c armed r) :
    s.session.hasSequence = true → Free s.timer := by
  intro further
  have running : s.timer.isArmed = true := by
    by_contra stopped
    exact admitted.2.2.2.2 ⟨further, Or.inl stopped⟩
  rw [StopTimer.isArmed, Bool.and_eq_true] at running
  exact (sound.leased running.1).free

theorem commit_ok {r : ContinuousRequest} {actual : ℤ} (configured : s.bridge.configured = true)
    (free : s.session.hasSequence = true → Free s.timer) (done : s.commit c armed r actual = .ok t) :
    t.session = { s.accepted r actual with isOpen := t.session.isOpen } ∧ t.session.isOpen = true ∧ t.time = s.time ∧
      t.pending = none ∧
      (∃ remaining, Running remaining t.timer ∧ remaining ≤ s.grant (r.leaseMs - s.age r) ∧
        (t.session.boostSet = true → remaining ≤ s.session.boostDeadline - s.clock)) ∧
      Planned c actual t.logical.tim2 t.logical.tim3 ∧
      t.bridge.matchesPlan t.logical.tim2 t.logical.tim3 = true ∧ t.bridge.configured = true ∧
      t.logical.active = true ∧ t.logical.lastAction = .continuous := by
  unfold commit at done
  dsimp only at done
  obtain ⟨leased, run, done⟩ := bind_ok.mp done
  obtain ⟨ok, rfl⟩ := tried_ok.mp run
  obtain ⟨running, kept⟩ := lease_ok free ok
  obtain ⟨timer, same⟩ : ∃ timer, (s.lease (s.updateGrant r)).2 = { s with timer := timer } := ⟨_, kept⟩
  rw [same] at running done
  obtain ⟨_, done⟩ := guard_ok.mp done
  obtain ⟨⟨t2, t3, v⟩, out, done⟩ := bind_ok.mp done
  obtain ⟨planned, driven, still, kept⟩ := output_ok (by exact configured) out
  dsimp only at done
  have held : Running (s.updateGrant r) v.timer := by
    rw [kept]
    exact running
  obtain ⟨committed, run, done⟩ := bind_ok.mp done
  obtain ⟨ok, rfl⟩ := tried_ok.mp run
  rw [commitArm_same held.line ok] at done
  obtain ⟨stands, done⟩ := guard_ok.mp done
  have stands := need_ok.mp stands
  obtain ⟨⟨left, w⟩, finished, done⟩ := bind_ok.mp done
  obtain ⟨long, lasting, same⟩ := finishBoost_ok held finished
  dsimp only at done
  obtain rfl := Except.ok.inj done
  obtain ⟨short, boosted⟩ := updateGrant_le s r
  have opened : w.session.isOpen = true := by
    rw [same]
    exact stands.1
  have clear : w.pending = none := by
    rw [same]
    exact stands.2
  refine ⟨?_, opened, ?_, clear, ⟨left, lasting, ?_, ?_⟩, planned, ?_, ?_, rfl, rfl⟩
  · rw [same, kept]
    rfl
  · change w.time = s.time
    rw [same, kept]
  · rw [long]
    cases s.session.boostSet && s.session.boostEnd && decide (actual ≤ s.session.normalCap) with
    | false => exact short
    | true => exact BitVec.le_refl _
  · intro set
    change w.session.boostSet = true at set
    rw [same, kept] at set
    rw [Bool.and_eq_true, Bool.not_eq_true'] at set
    rw [long, if_neg (Bool.eq_false_iff.mp set.2)]
    exact boosted set.1
  · change w.bridge.matchesPlan t2 t3 = true
    rw [same]
    exact driven
  · change w.bridge.configured = true
    rw [same]
    exact still

theorem update_accepts {r : ContinuousRequest} (sound : s.Sound c) (ok : (s.updateContinuous c armed r).1 = .ok) :
    s.Accepts c armed r (s.updateContinuous c armed r).2 := by
  unfold updateContinuous at ok ⊢
  by_cases refused : s.refuses r
  · rw [if_pos refused] at ok
    contradiction
  rw [if_neg refused] at ok ⊢
  have done := settle_ok ok
  generalize (settle _).2 = t at done
  obtain ⟨admitted, done⟩ := guard_ok.mp done
  have admitted := need_ok.mp admitted
  obtain ⟨⟨actual, u⟩, turned, done⟩ := bind_ok.mp done
  obtain ⟨rfl, same⟩ := interlock_ok turned
  dsimp only at done
  have free := free_of_admitted sound admitted
  have configured : u.bridge.configured = true := by
    rw [same]
    by_cases turns : s.reverses r
    · rw [if_pos turns]
      exact sound.configured
    · rw [if_neg turns]
      exact sound.configured
  have started : u.session.hasSequence = true → Free u.timer := by
    rw [same]
    exact free
  obtain ⟨session, opened, time, settled, lease, planned, driven, still, active, continuous⟩ :=
    commit_ok configured started done
  refine ⟨refused, admitted, ?_, ?_, settled, ?_, planned, driven, still, active, continuous⟩
  · rw [session, opened]
    have owned := (not_not.mp (not_or.mp refused).1).1
    by_cases turns : s.reverses r
    · rw [if_pos turns, if_pos turns, if_pos turns] at same
      have stopped : s.letThrough r = 0 := if_pos (Or.inl turns)
      rw [same, stopped]
      unfold accepted
      dsimp only
      have late : (if (0 : ℤ) = 0 ∧ s.session.committed ≠ 0 then s.clock else s.session.offMs) = s.clock :=
        if_pos ⟨rfl, turns.1⟩
      rw [owned, late]
      simp only [ne_eq, not_true_eq_false, and_false, if_false]
      rfl
    · rw [if_neg turns, if_neg turns, if_neg turns] at same
      rw [same]
      unfold accepted
      dsimp only
      rw [owned]
      rfl
  · rw [time, same]
  · rw [same] at lease
    exact lease

/-! ### A lower or a higher command under the same sample -/

theorem leased_of_valid (sound : s.Sound c) (settled : s.pending = none) (valid : s.activeRequestIsValid armed = true) :
    s.timer.armed = true ∧ s.Leased c ∧ s.bridge.isDisabled = decide (s.session.committed = 0) := by
  have running : s.timer.armed = true := by
    unfold activeRequestIsValid at valid
    by_cases continuous : s.logical.lastAction = .continuous ∧ s.pending = none
    · rw [if_pos continuous] at valid
      simp only [Bool.and_eq_true, StopTimer.isArmed] at valid
      exact valid.1.1.1.2.1
    · rw [if_neg continuous, if_neg (not_not.mpr settled)] at valid
      simp only [Bool.and_eq_true, StopTimer.isArmed] at valid
      exact valid.2.1.2.1
  have leased := sound.leased running
  unfold activeRequestIsValid at valid
  rw [if_pos ⟨leased.continuous, settled⟩] at valid
  simp only [Bool.and_eq_true, decide_eq_true_eq] at valid
  exact ⟨running, leased, valid.1.2⟩

structure Commands (c : Ceilings) (command : ℤ) (session : Session) (s t : State) : Prop where
  session : t.session = session
  time : t.time = s.time
  settled : t.pending = none
  planned : Planned c command t.logical.tim2 t.logical.tim3
  driven : t.bridge.matchesPlan t.logical.tim2 t.logical.tim3 = true
  configured : t.bridge.configured = true
  active : t.logical.active = s.logical.active
  continuous : t.logical.lastAction = s.logical.lastAction

theorem planned_press {requested : ℤ} {plan : Plan} (positive : 0 < requested)
    (planned : c.plan .press requested.toNat = some plan) : Planned c requested plan.tim2 plan.tim3 := by
  unfold Planned directionOf
  rw [if_neg (by omega), if_pos positive]
  refine ⟨plan, ?_, rfl, rfl⟩
  have same : requested.natAbs = requested.toNat := by omega
  rw [same]
  exact planned

theorem lower_ok {requested : ℤ} {t2 t3 : U16} (forward : 0 ≤ requested) (configured : s.bridge.configured = true)
    (done : s.lower c armed requested = .ok (t2, t3, t)) :
    Planned c requested t2 t3 ∧ t.bridge.configured = true ∧
      t = { s with
        bridge := t.bridge
        session := { s.session with offMs := if requested = 0 then s.clock else s.session.offMs } } := by
  unfold lower at done
  by_cases zero : requested = 0
  · rw [if_pos zero] at done
    obtain ⟨_, reached⟩ := guard_ok.mp done
    obtain ⟨rfl, rest⟩ := Prod.mk.inj (Except.ok.inj reached)
    obtain ⟨rfl, rfl⟩ := Prod.mk.inj rest
    rw [if_pos zero]
    exact ⟨(if_pos zero).mpr ⟨rfl, rfl⟩, configured, rfl⟩
  · rw [if_neg zero] at done
    rw [if_neg zero]
    generalize planned : c.plan .press requested.toNat = found at done
    cases found with
    | none => contradiction
    | some plan =>
      obtain ⟨u, applied, reached⟩ := bind_ok.mp done
      obtain ⟨ok, rfl⟩ := tried_ok.mp applied
      obtain ⟨_, reached⟩ := guard_ok.mp reached
      obtain ⟨rfl, rest⟩ := Prod.mk.inj (Except.ok.inj reached)
      obtain ⟨rfl, rfl⟩ := Prod.mk.inj rest
      have positive : 0 < requested := by omega
      exact ⟨planned_press positive planned, (apply_driven planned configured ok).configured, rfl⟩

theorem renewed_ok (free : Free s.timer) (done : s.renewed = .ok t) :
    ∃ remaining, Running remaining t.timer ∧ remaining ≤ s.grant (s.session.receiveDeadline - s.clock) ∧
      2 ≤ s.left s.session.receiveDeadline ∧ s.withinSession ∧ t.pending = none ∧
      t = { s with timer := t.timer, logical := { s.logical with
        deadlineMs := t.logical.deadlineMs, backstopMs := t.logical.backstopMs } } := by
  unfold renewed at done
  obtain ⟨within, done⟩ := guard_ok.mp done
  have within := need_ok.mp within
  obtain ⟨u, renewed, done⟩ := bind_ok.mp done
  obtain ⟨ok, rfl⟩ := tried_ok.mp renewed
  obtain ⟨v, committed, done⟩ := bind_ok.mp done
  obtain ⟨kept, rfl⟩ := tried_ok.mp committed
  obtain ⟨running, same⟩ := renewLease_ok free.interrupts free.repeats free.reload free.initialized ok
  rw [commitArm_same running.line kept] at done
  obtain ⟨stands, done⟩ := guard_ok.mp done
  have stands := need_ok.mp stands
  obtain rfl := Except.ok.inj done
  refine ⟨_, running, BitVec.le_refl _, within.1, within.2, stands.2, ?_⟩
  rw [same]

def handed (s : State) (requested : ℤ) : Session :=
  { s.session with
    committed := requested, boostSet := false, boostEnd := false, boostPlan := false
    offMs := if requested = 0 then s.clock else s.session.offMs }

theorem handoff_ok {requested : ℤ} (sound : s.Sound c) (done : s.handoff c armed requested = .ok t) :
    s.handoffFits c armed requested ∧ Commands c requested (s.handed requested) s t ∧
      ∃ remaining, Running remaining t.timer ∧ remaining ≤ s.grant (s.session.receiveDeadline - s.clock) := by
  unfold handoff at done
  obtain ⟨fits, done⟩ := guard_ok.mp done
  have fits := need_ok.mp fits
  obtain ⟨_, leased, _⟩ := leased_of_valid sound fits.2.2.2.2.2.2.2.2.1 fits.2.2.2.2.2.2.2.2.2.2.2.2
  obtain ⟨u, committed, done⟩ := bind_ok.mp done
  obtain ⟨kept, rfl⟩ := tried_ok.mp committed
  rw [commitArm_same leased.line kept] at done
  obtain ⟨⟨t2, t3, u⟩, lowered, done⟩ := bind_ok.mp done
  obtain ⟨planned, configured, same⟩ := lower_ok fits.2.2.2.1 sound.configured lowered
  dsimp only at done
  obtain ⟨matched, done⟩ := guard_ok.mp done
  have matched := need_ok.mp matched
  have line : u.timer.line = true := by
    rw [same]
    exact leased.line
  have free : Free u.timer := by
    rw [same]
    exact leased.free
  obtain ⟨v, committed, done⟩ := bind_ok.mp done
  obtain ⟨kept, rfl⟩ := tried_ok.mp committed
  rw [commitArm_same line kept] at done
  obtain ⟨_, done⟩ := guard_ok.mp done
  obtain ⟨w, renewed, done⟩ := bind_ok.mp done
  obtain ⟨remaining, running, short, _, _, settled, kept⟩ := renewed_ok free renewed
  obtain rfl := Except.ok.inj done
  refine ⟨fits, ⟨?_, ?_, settled, planned, ?_, ?_, ?_, ?_⟩, remaining, running, ?_⟩
  · rw [kept, same]
    rfl
  · change w.time = s.time
    rw [kept, same]
  · change w.bridge.matchesPlan t2 t3 = true
    rw [kept]
    exact matched
  · change w.bridge.configured = true
    rw [kept]
    exact configured
  · change w.logical.active = s.logical.active
    rw [kept, same]
  · change w.logical.lastAction = s.logical.lastAction
    rw [kept, same]
  · rw [same] at short
    exact short

def climbed (s : State) (requested : ℤ) : Session :=
  { s.session with
    committed := requested
    lastSign := if requested = s.session.committed then s.session.lastSign else 1 }

/-- A bridge that drives RELEASE takes no compare value towards PRESS. -/
theorem forward_of_press {command : ℕ} {plan : Plan} (leased : s.Leased c) (planned : c.plan .press command = some plan)
    (ok : (s.apply armed (decide (s.session.committed ≠ 0)) plan).1 = true) : 0 ≤ s.session.committed := by
  by_contra behind
  have driven := leased.driven
  have here := leased.planned
  unfold Planned at here
  rw [if_neg (by omega)] at here
  obtain ⟨old, found, two, three⟩ := here
  have direction : directionOf s.session.committed = .release := if_neg (by omega)
  rw [direction] at found
  have none_ : s.logical.tim3 = 0 := three.trans ((plan_one_sided found).2.2 rfl)
  have some_ : s.logical.tim2 ≠ 0 := by
    rw [two]
    exact (plan_counts found).2 rfl
  unfold Registers.matchesPlan at driven
  rw [none_, if_neg fun both => some_ both.1, if_neg fun both => both.2 rfl, if_neg fun other => other rfl,
    Bool.and_eq_true] at driven
  have valid := driven.2
  simp only [Registers.releaseCompareIsValid, Bool.and_eq_true, decide_eq_true_eq] at valid
  have running : decide (s.session.committed ≠ 0) = true := decide_eq_true (by omega)
  unfold apply at ok
  rw [running, (plan_one_sided planned).1] at ok
  change (s.bridge.updatePress armed plan.tim3).1 = true at ok
  unfold Registers.updatePress at ok
  dsimp only at ok
  rw [if_pos (Or.inr (Or.inr (Or.inl valid.2)))] at ok
  contradiction

theorem climb_ok {requested : ℤ} (leased : s.Leased c) (configured : s.bridge.configured = true)
    (done : s.climb c armed requested = .ok t) :
    s.stepFits c requested ∧ (requested = s.session.committed ∨ 0 < requested) ∧ 0 ≤ s.session.committed ∧
      Commands c requested (s.climbed requested) s t ∧ t.timer = s.timer := by
  unfold climb at done
  obtain ⟨fits, done⟩ := guard_ok.mp done
  have fits := need_ok.mp fits
  obtain ⟨u, committed, done⟩ := bind_ok.mp done
  obtain ⟨kept, rfl⟩ := tried_ok.mp committed
  rw [commitArm_same leased.line kept] at done
  unfold climbed
  by_cases same : requested = s.session.committed
  · rw [if_pos same] at done
    obtain rfl := Except.ok.inj done
    rw [if_pos same, same]
    exact ⟨same ▸ fits, Or.inl rfl, same ▸ fits.2.2.1, ⟨rfl, rfl, leased.settled, leased.planned, leased.driven, configured, rfl, rfl⟩, rfl⟩
  · rw [if_neg same] at done
    rw [if_neg same]
    generalize planned : c.plan .press requested.toNat = found at done
    cases found with
    | none => contradiction
    | some plan =>
      obtain ⟨u, applied, done⟩ := bind_ok.mp done
      obtain ⟨ok, rfl⟩ := tried_ok.mp applied
      have driven := apply_driven planned configured ok
      obtain ⟨_, done⟩ := guard_ok.mp done
      obtain ⟨v, committed, done⟩ := bind_ok.mp done
      obtain ⟨kept, rfl⟩ := tried_ok.mp committed
      have line : (s.apply armed (decide (s.session.committed ≠ 0)) plan).2.timer.line = true := leased.line
      rw [commitArm_same line kept] at done
      obtain ⟨stands, done⟩ := guard_ok.mp done
      have stands := need_ok.mp stands
      obtain rfl := Except.ok.inj done
      have positive : 0 < requested := by
        have low := fits.2.2.1
        by_contra zero
        have nothing : requested.toNat = 0 := by omega
        rw [nothing] at planned
        unfold Ceilings.plan at planned
        dsimp only at planned
        rw [if_neg (Nat.not_lt_zero _)] at planned
        contradiction
      exact ⟨fits, Or.inr positive, forward_of_press leased planned ok,
        ⟨rfl, rfl, stands.2, planned_press positive planned, driven.matched, driven.configured, rfl, rfl⟩, rfl⟩

end State

end Sd700.Motor.Continuous
