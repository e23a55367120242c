import Sd700.Logic.Run
import Sd700.Motor.Unlocked

/-! The locked executor rehearses the real one: both asked the same, TIM5 on time and a service every millisecond,
they answer the same and show the same request. -/

namespace Sd700.Motor.Agreement
open Build.Contract Logic.Modular Logic.Run Interface Bridge Timer Locked Unlocked

inductive Call
  | start (r : Start)
  | disable
  | service

inductive Event
  | call (c : Call)
  | interrupt
  | count

/-- Both executors, the time in counts of TIM5, and whether this millisecond has had its service. -/
structure World where
  time : ℕ
  served : Bool
  locked : Locked.State
  real : Unlocked.State

namespace World
variable (w : World)

def now : U32 := stamp 32 (w.time / 10)

def lockedCall : Call → MotorResult × Locked.State
  | .start r => w.locked.start r w.now
  | .disable => w.locked.disable
  | .service => w.locked.service w.now

def realCall : Call → MotorResult × Unlocked.State
  | .start r => w.real.start true r w.now
  | .disable => w.real.disable true
  | .service => w.real.service true w.now

/-- TIM5 has been programmed for the millisecond the clock shows, and has not run out. -/
def due : Prop := w.real.timer.armed = true ∧ Reached w.now w.real.logical.deadlineMs

/-- What may happen next: a backstop is one TIM5 can count, a service comes behind the interrupt of its
millisecond, the interrupt comes at once when TIM5 asks, and no millisecond ends without a service. -/
def Admits : Event → Prop
  | .call (.start r) => r.backstopMs.toNat * 10 < 2 ^ 32
  | .call .disable => True
  | .call .service => ¬w.due
  | .interrupt => raised w.real.timer = true
  | .count => raised w.real.timer = false ∧ ((w.time + 1) / 10 ≠ w.time / 10 → w.served = true)

def step : Event → World
  | .call c =>
    { w with
      served := w.served || (match c with | .service => true | _ => false)
      locked := (w.lockedCall c).2
      real := (w.realCall c).2 }
  | .interrupt => { w with real := w.real.irqHandler }
  | .count =>
    { w with
      time := w.time + 1
      served := w.served && decide ((w.time + 1) / 10 = w.time / 10)
      real := { w.real with timer := w.real.timer.tick } }

end World

/-- Both executors right behind their initialization, at any time. -/
def Started (w : World) : Prop :=
  w.locked = .initial ∧ ∃ bridge timer, w.real = .initial true bridge timer

/-! ### The hardware of a request -/

variable {b : Registers} {t : StopTimer} {duty : U16}

theorem planCommand_counts {code commandMv : U32} {plan : Plan} (planned : planCommand code commandMv = some plan) :
    (plan.direction = .press → plan.tim3 ≠ 0#16 ∧ plan.tim3 ≤ Registers.periodCounts) ∧
      (plan.direction = .release → plan.tim2 ≠ 0#16 ∧ plan.tim2 ≤ Registers.periodCounts) := by
  obtain ⟨direction, _, mapped⟩ := Option.bind_eq_some_iff.mp planned
  obtain ⟨counts, held, same⟩ := Option.map_eq_some_iff.mp mapped
  unfold Pulses.planCommand at held
  by_cases refused : commandMv.toNat = 0 ∨ Pulses.supplyReferenceMv < commandMv.toNat
  · rw [if_pos refused] at held
    contradiction
  · rw [if_neg refused] at held
    push Not at refused
    dsimp only at held
    generalize drawn : min ((commandMv.toNat * Pulses.pwmPeriodCounts + (Pulses.supplyReferenceMv - 1)) /
      Pulses.supplyReferenceMv) Pulses.pwmPeriodCounts = counted at held
    have low : 0 < counted := by
      unfold Pulses.pwmPeriodCounts Pulses.supplyReferenceMv at *
      omega
    have high : counted ≤ 4799 := by
      rw [← drawn]
      exact Nat.min_le_right _ _
    have word : BitVec.ofNat 16 counted ≠ 0#16 ∧ BitVec.ofNat 16 counted ≤ Registers.periodCounts := by
      constructor
      · intro zero
        have value := congrArg BitVec.toNat zero
        rw [BitVec.toNat_ofNat, BitVec.toNat_ofNat] at value
        omega
      · change (BitVec.ofNat 16 counted).toNat ≤ (4799#16).toNat
        rw [BitVec.toNat_ofNat, BitVec.toNat_ofNat]
        omega
    rw [← same]
    cases direction with
    | press =>
      rw [← Option.some.inj held]
      exact ⟨fun _ => word, fun other => (nomatch other)⟩
    | release =>
      rw [← Option.some.inj held]
      exact ⟨fun other => (nomatch other), fun _ => word⟩

structure On (b : Registers) : Prop where
  initialized : b.initialized = true
  configured : b.configured = true
  output : b.isDisabled = false

theorem applyRelease_on (initialized : b.initialized = true) (configured : b.configured = true)
    (positive : duty ≠ 0#16) (bounded : duty ≤ Registers.periodCounts) :
    (applyRelease b true duty).1 = true ∧ On (applyRelease b true duty).2 := by
  have on : On { b.disableImmediate with
      channel2 := true, channel3 := true, running2 := true, running3 := true
      sd1 := true, sd2 := true, compare2 := duty, compare3 := 0 } :=
    ⟨initialized, configured, by simp [Registers.isDisabled]⟩
  unfold applyRelease
  dsimp only
  rw [if_neg (by simp [initialized, positive, BitVec.not_lt.mpr bounded]),
    if_neg (by simp [Registers.zeroCarriersAreRunning, Registers.channelsOn, Registers.disableImmediate]),
    if_neg (by simp [Registers.releaseCompareIsValid, Registers.channelsOn])]
  exact ⟨rfl, on⟩

/-- What a healthy board keeps through every call. -/
structure Sound (s : Unlocked.State) : Prop where
  initialized : s.initialized = true
  bridge : s.bridge.initialized = true ∧ s.bridge.configured = true
  timer : s.timer.initialized = true ∧ s.timer.healthy = true

theorem apply_on {s : Unlocked.State} {code commandMv : U32} {plan : Plan} (sound : Sound s)
    (planned : planCommand code commandMv = some plan) :
    (s.apply true plan).1 = true ∧ On (s.apply true plan).2.bridge := by
  obtain ⟨press, release⟩ := planCommand_counts planned
  unfold Unlocked.State.apply
  cases towards : plan.direction with
  | press =>
    obtain ⟨positive, bounded⟩ := press towards
    obtain ⟨ok, drives⟩ := Registers.applyPress_drives sound.bridge.1 sound.bridge.2 positive bounded
    exact ⟨ok, drives.initialized, drives.configured, drives.disabled⟩
  | release =>
    obtain ⟨positive, bounded⟩ := release towards
    exact applyRelease_on sound.bridge.1 sound.bridge.2 positive bounded

/-! ### Where a request can be -/

structure Stopped (t : StopTimer) : Prop where
  armed : t.armed = false
  enabled : t.enabled = false
  line : t.line = false

structure Quiet (s : Unlocked.State) : Prop where
  inactive : s.logical.active = false
  unlatched : s.pending = none
  off : s.bridge.isDisabled = true
  stopped : Stopped s.timer

structure Requested (w : World) (start : ℕ) (r : Start) : Prop where
  active : w.real.logical.active = true
  fits : r.fits
  range : r.backstopMs.toNat * 10 < 2 ^ 32
  deadline : w.real.logical.deadlineMs = stamp 32 (start / 10) + r.durationMs
  backstop : w.real.logical.backstopMs = stamp 32 (start / 10) + r.backstopMs

/-- The output is on and TIM5 counts. A millisecond that has had its service is one before the deadline. -/
structure Counting (w : World) (start : ℕ) (r : Start) : Prop where
  requested : Requested w start r
  unlatched : w.real.pending = none
  on : w.real.bridge.isDisabled = false
  begun : start ≤ w.time
  within : w.time ≤ start + r.durationMs.toNat * 10
  timer : ∃ t, StopTimer.Pulsed r.durationMs r.backstopMs t ∧ t.line = true ∧ t.interrupts = true ∧
    w.real.timer = t.elapse (w.time - start)
  early : w.served = true → w.time / 10 < start / 10 + r.durationMs.toNat

/-- The interrupt has ended the output, and the service of its millisecond is still to come. -/
structure Fired (w : World) (start : ℕ) (r : Start) : Prop where
  requested : Requested w start r
  latched : w.real.pending = some .normal
  off : w.real.bridge.isDisabled = true
  stopped : Stopped w.real.timer
  moment : w.time / 10 = start / 10 + r.durationMs.toNat
  unserved : w.served = false

structure Agree (w : World) : Prop where
  same : w.locked.logical = w.real.logical
  sound : Sound w.real
  phase : Quiet w.real ∨ (∃ start r, Counting w start r) ∨ ∃ start r, Fired w start r

/-! ### Deadlines -/

/-- Milliseconds from a moment on, against a length short of half the range. -/
theorem reached_length {m k : ℕ} {length : U32} (order : k ≤ m) (near : m - k < 2 ^ 31) (far : length.toNat < 2 ^ 31) :
    Reached (stamp 32 m) (stamp 32 k + length) ↔ length.toNat ≤ m - k := by
  have split : stamp 32 m = stamp 32 k + BitVec.ofNat 32 (m - k) := by
    unfold stamp
    rw [← BitVec.ofNat_add, Nat.add_sub_cancel' order]
  have value : (BitVec.ofNat 32 (m - k)).toNat = m - k := by
    rw [BitVec.toNat_ofNat]
    exact Nat.mod_eq_of_lt (by omega)
  rw [split, reached_add_iff (by omega) far, value]

variable {w : World} {start : ℕ} {r : Start}

theorem Start.fits_iff : r.fits ↔ 0 < r.durationMs.toNat ∧ r.durationMs.toNat < r.backstopMs.toNat := by
  unfold Start.fits
  have positive : r.durationMs ≠ 0 ↔ 0 < r.durationMs.toNat := by
    rw [Nat.pos_iff_ne_zero, Ne, Ne, ← BitVec.toNat_inj]
    rfl
  rw [positive]
  exact Iff.rfl

theorem Requested.lengths (q : Requested w start r) :
    0 < r.durationMs.toNat ∧ r.durationMs.toNat < r.backstopMs.toNat ∧ r.backstopMs.toNat < 2 ^ 31 := by
  obtain ⟨positive, longer⟩ := Start.fits_iff.mp q.fits
  have range := q.range
  omega

/-- Up to the millisecond of the deadline, the clock tells the deadline and never the backstop. -/
theorem Requested.reached (q : Requested w start r) (begun : start / 10 ≤ w.time / 10)
    (close : w.time / 10 ≤ start / 10 + r.durationMs.toNat) :
    (Reached w.now w.real.logical.deadlineMs ↔ w.time / 10 = start / 10 + r.durationMs.toNat) ∧
      ¬Reached w.now w.real.logical.backstopMs := by
  obtain ⟨positive, longer, short⟩ := q.lengths
  unfold World.now
  rw [q.deadline, q.backstop, reached_length begun (by omega) (by omega), reached_length begun (by omega) short]
  omega

/-! ### The timer of a request -/

/-- What TIM5 is while it counts: on, and asking for its interrupt exactly at the duration. -/
structure Punctual (t : StopTimer) (ended : Prop) : Prop where
  armed : t.armed = true
  enabled : t.enabled = true
  asks : raised t = true ↔ ended
  event : ended → irqEvent t = .normal

theorem Counting.runs (c : Counting w start r) :
    Punctual w.real.timer (w.time = start + r.durationMs.toNat * 10) := by
  obtain ⟨positive, longer, _⟩ := c.requested.lengths
  obtain ⟨t, pulsed, line, interrupts, held⟩ := c.timer
  obtain ⟨armed, enabled, healthy, updated, compared, overcaptured⟩ := pulsed.flags
  have begun := c.begun
  rcases Nat.lt_or_eq_of_le c.within with before | end_
  · have ticks : w.time - start < r.durationMs.toNat * 10 := by omega
    rw [held, pulsed.counting longer ticks]
    refine ⟨armed, enabled, ?_, ?_⟩
    · simp [raised, StopTimer.flagged, updated, compared, overcaptured]
      omega
    · intro late
      omega
  · have counted := pulsed.matched longer c.requested.fits.1
    have ticks : w.time - start = r.durationMs.toNat * 10 := by omega
    rw [held, ticks, counted]
    refine ⟨armed, enabled, ?_, ?_⟩
    · simp [raised, StopTimer.flagged, line, interrupts, end_]
    · intro _
      simp [irqEvent, updated, overcaptured]

/-! ### The calls -/

variable {s : Unlocked.State}

theorem arm_ok (initialized : t.initialized = true) (healthy : t.healthy = true) (fits : r.fits)
    (range : r.backstopMs.toNat * 10 < 2 ^ 32) :
    (t.arm r.durationMs r.backstopMs).1 = true ∧ (t.arm r.durationMs r.backstopMs).2.initialized = true ∧
      (t.arm r.durationMs r.backstopMs).2.interrupts = true := by
  obtain ⟨positive, longer⟩ := Start.fits_iff.mp fits
  have admitted : ¬(¬t.cancel.isHealthy ∨ r.durationMs = 0 ∨ r.backstopMs ≤ r.durationMs ∨
      2 ^ 32 ≤ r.durationMs.toNat * 10 ∨ 2 ^ 32 ≤ r.backstopMs.toNat * 10) := by
    push Not
    refine ⟨?_, fits.1, BitVec.not_le.mpr fits.2, by omega, range⟩
    change (t.initialized && t.healthy) = true
    rw [initialized, healthy]
    rfl
  unfold StopTimer.arm
  dsimp only
  rw [if_neg admitted]
  exact ⟨rfl, initialized, rfl⟩

structure Taken (s : Unlocked.State) (r : Start) (plan : Plan) (now : U32) (out : MotorResult × Unlocked.State) : Prop where
  ok : out.1 = .ok
  logical : out.2.logical = s.logical.take r plan now
  sound : Sound out.2
  unlatched : out.2.pending = none
  on : out.2.bridge.isDisabled = false
  pulsed : StopTimer.Pulsed r.durationMs r.backstopMs out.2.timer
  line : out.2.timer.line = true
  interrupts : out.2.timer.interrupts = true

theorem commitStart_ok {now : U32} (active : s.logical.active = true)
    (pulsed : StopTimer.Pulsed r.durationMs r.backstopMs s.timer) :
    s.commitStart true now = (.ok, { s with timer := { s.timer with line := true } }) := by
  obtain ⟨armed, _, healthy, clear⟩ := pulsed.flags
  have committed : s.commitArm = (true, { s with timer := { s.timer with line := true } }) := by
    unfold Unlocked.State.commitArm
    rw [if_neg (by simp [armed, healthy]), (StopTimer.flagged_eq_false s.timer).mpr clear]
    rfl
  unfold Unlocked.State.commitStart
  rw [committed]
  dsimp only
  rw [if_neg (by simp), if_neg (by simp [active])]

theorem drive_ok {now code commandMv : U32} {plan : Plan} {failed : MotorResult × Unlocked.State} (sound : Sound s)
    (planned : planCommand code commandMv = some plan) (active : s.logical.active = true)
    (pulsed : StopTimer.Pulsed r.durationMs r.backstopMs s.timer) :
    (if ¬(s.apply true plan).1 ∨ ((s.apply true plan).2.setPhysicalStatus true).outputDisabled then failed
      else ((s.apply true plan).2.setPhysicalStatus true).commitStart true now) =
      (.ok, { s with
        outputLocked := false, outputDisabled := false, bridge := (s.apply true plan).2.bridge
        timer := { s.timer with line := true } }) := by
  obtain ⟨ok, on⟩ := apply_on sound planned
  have shown : (s.apply true plan).2.setPhysicalStatus true =
      { s with outputLocked := false, outputDisabled := false, bridge := (s.apply true plan).2.bridge } := by
    unfold Unlocked.State.setPhysicalStatus
    rw [on.output]
    rfl
  rw [shown, if_neg (by simp [ok])]
  exact commitStart_ok (s := { s with
    outputLocked := false, outputDisabled := false, bridge := (s.apply true plan).2.bridge }) active pulsed

theorem energize_taken {now code commandMv : U32} {plan : Plan} (sound : Sound s)
    (planned : planCommand code commandMv = some plan) (fits : r.fits) (range : r.backstopMs.toNat * 10 < 2 ^ 32) :
    Taken s r plan now (s.energize true r plan now) := by
  obtain ⟨armed, initialized, interrupts⟩ := arm_ok (t := s.timer.cancel) sound.timer.1 sound.timer.2 fits range
  have pulsed := StopTimer.arm_pulsed armed
  obtain ⟨_, _, healthy, _⟩ := pulsed.flags
  generalize programmed : s.timer.cancel.arm r.durationMs r.backstopMs = out at armed initialized interrupts pulsed healthy
  have ready : s.clearFailure.disableImmediate.cancel.setPhysicalStatus true =
      { s with
        outputLocked := false, outputDisabled := true, lastFailure := .ok, bridge := s.bridge.disableImmediate
        timer := s.timer.cancel } := rfl
  unfold Unlocked.State.energize
  rw [ready]
  dsimp only
  rw [if_neg (by simp [sound.initialized])]
  unfold Unlocked.State.arm Unlocked.State.clearPending
  dsimp only
  rw [programmed, if_neg (by simp [armed])]
  generalize held : ({ s with
      logical := s.logical.take r plan now, outputLocked := false, outputDisabled := true, lastFailure := .ok
      pending := none, bridge := s.bridge.disableImmediate, timer := out.2 } : Unlocked.State) = u
  have soundly : Sound u := by
    rw [← held]
    exact ⟨sound.initialized, sound.bridge, initialized, healthy⟩
  have logical : u.logical = s.logical.take r plan now := by rw [← held]
  have timer : u.timer = out.2 := by rw [← held]
  have pending : u.pending = none := by rw [← held]
  have active : u.logical.active = true := by
    rw [logical]
    rfl
  obtain ⟨_, on⟩ := apply_on soundly planned
  rw [drive_ok soundly planned active (timer ▸ pulsed)]
  refine ⟨rfl, logical, ⟨soundly.initialized, ⟨on.initialized, on.configured⟩, soundly.timer⟩, pending, on.output, ?_, rfl, ?_⟩
  · dsimp only
    rw [timer]
    exact pulsed.line
  · dsimp only
    rw [timer]
    exact interrupts

theorem disable_ok (s : Unlocked.State) : s.disable true =
    (.ok, { s with
      logical := s.logical.stop, outputLocked := false, outputDisabled := true, pending := none
      bridge := s.bridge.disableImmediate, timer := s.timer.cancel }) := rfl

theorem service_quiet {now : U32} (quiet : Quiet s) (sound : Sound s) :
    s.service true now = (.ok, { s with outputLocked := false, outputDisabled := true }) := by
  have shown : s.setPhysicalStatus true = { s with outputLocked := false, outputDisabled := true } := by
    unfold Unlocked.State.setPhysicalStatus
    rw [quiet.off]
    rfl
  unfold Unlocked.State.service
  rw [shown]
  simp only [Unlocked.State.orPublish, quiet.unlatched]
  rw [if_pos (by simp [quiet.inactive]), if_neg (by simp), if_neg (by simp [StopTimer.isArmed, quiet.stopped.armed]),
    if_neg (by simp [StopTimer.isHealthy, sound.timer.1, sound.timer.2])]

theorem service_counting (c : Counting w start r) (sound : Sound w.real) (wait : ¬w.due) :
    w.real.service true w.now = (.ok, { w.real with outputLocked := false, outputDisabled := false }) ∧
      w.time / 10 < start / 10 + r.durationMs.toNat := by
  have runs := c.runs
  have begun := c.begun
  have within := c.within
  obtain ⟨deadline, backstop⟩ := c.requested.reached (w := w) (by omega) (by omega)
  have early : w.time / 10 < start / 10 + r.durationMs.toNat := by
    have before : ¬Reached w.now w.real.logical.deadlineMs := fun reached => wait ⟨runs.armed, reached⟩
    rw [deadline] at before
    omega
  refine ⟨?_, early⟩
  have shown : w.real.setPhysicalStatus true = { w.real with outputLocked := false, outputDisabled := false } := by
    unfold Unlocked.State.setPhysicalStatus
    rw [c.on]
    rfl
  unfold Unlocked.State.service
  rw [shown]
  simp only [Unlocked.State.orPublish, c.unlatched]
  rw [if_neg (by simp [c.requested.active]), if_neg (by simp [StopTimer.isHealthy, sound.timer.1, sound.timer.2]),
    if_neg (by simp [StopTimer.isArmed, runs.armed, runs.enabled]), if_neg backstop, if_neg (by simp)]

theorem service_fired (f : Fired w start r) : w.real.service true w.now =
    (.ok, { w.real with
      logical := { w.real.logical with lastCompletion := .normal }.clearPlan, outputLocked := false
      outputDisabled := true, pending := none }) := by
  have shown : w.real.clearPending.setPhysicalStatus true =
      { w.real with outputLocked := false, outputDisabled := true, pending := none } := by
    unfold Unlocked.State.setPhysicalStatus Unlocked.State.clearPending
    dsimp only
    rw [f.off]
    rfl
  unfold Unlocked.State.service
  rw [Unlocked.State.orPublish, f.latched]
  dsimp only
  unfold Unlocked.State.publishCompletion
  rw [shown]
  dsimp only
  rw [if_neg (by simp), if_neg (by simp)]
  rfl

/-- At the duration, the interrupt ends the output and leaves the normal event. -/
theorem irqHandler_fires (c : Counting w start r) (asks : raised w.real.timer = true) :
    w.time = start + r.durationMs.toNat * 10 ∧ w.real.irqHandler =
      { w.real with
        pending := some .normal, bridge := w.real.bridge.disableImmediate, timer := w.real.irqHandler.timer } ∧
      Stopped w.real.irqHandler.timer ∧ w.real.irqHandler.timer.initialized = w.real.timer.initialized ∧
      w.real.irqHandler.timer.healthy = w.real.timer.healthy := by
  have runs := c.runs
  have ended := runs.asks.mp asks
  have event := runs.event ended
  refine ⟨ended, ?_⟩
  unfold Unlocked.State.irqHandler
  rw [if_neg (by simp [runs.armed]), event]
  exact ⟨rfl, ⟨rfl, rfl, rfl⟩, rfl, by simp [Unlocked.State.expired, Unlocked.State.disableImmediate,
    Unlocked.State.cancel, StopTimer.cancel, StopTimer.clearFlags]⟩

/-! ### The simulation -/

theorem Agree.quiet (agree : Agree w) (inactive : w.real.logical.active = false) : Quiet w.real := by
  rcases agree.phase with quiet | ⟨start, r, c⟩ | ⟨start, r, f⟩
  · exact quiet
  · rw [c.requested.active] at inactive
    contradiction
  · rw [f.requested.active] at inactive
    contradiction

theorem step_refused (result : MotorResult) (locked : w.locked.start r w.now = (result, w.locked))
    (real : w.real.start true r w.now = (result, w.real)) : w.step (.call (.start r)) = w := by
  unfold World.step World.lockedCall World.realCall
  dsimp only
  rw [locked, real, Bool.or_false]

theorem start_agrees (agree : Agree w) (range : r.backstopMs.toNat * 10 < 2 ^ 32) :
    (w.locked.start r w.now).1 = (w.real.start true r w.now).1 ∧ Agree (w.step (.call (.start r))) := by
  have refuse : ∀ result, w.locked.start r w.now = (result, w.locked) → w.real.start true r w.now = (result, w.real) →
      (w.locked.start r w.now).1 = (w.real.start true r w.now).1 ∧ Agree (w.step (.call (.start r))) := by
    intro result locked real
    rw [step_refused result locked real, locked, real]
    exact ⟨rfl, agree⟩
  cases active : w.real.logical.active with
  | true =>
    apply refuse .busy
    · unfold Locked.State.start
      rw [agree.same, active, if_pos rfl]
    · unfold Unlocked.State.start
      rw [active, if_pos rfl]
  | false =>
    have quiet := agree.quiet active
    by_cases fits : r.fits
    · cases planned : planCommand r.direction r.commandMv with
      | none =>
        apply refuse .invalid
        · unfold Locked.State.start
          rw [agree.same, active, if_neg (by simp), if_neg (by simp [fits]), planned]
        · unfold Unlocked.State.start
          rw [active, if_neg (by simp), if_neg (by simp [fits]), planned]
      | some plan =>
        have locked : w.locked.start r w.now = (.ok, ⟨w.real.logical.take r plan w.now, true, true⟩) := by
          unfold Locked.State.start
          rw [agree.same, active, if_neg (by simp), if_neg (by simp [fits]), planned]
        have real : w.real.start true r w.now = w.real.energize true r plan w.now := by
          unfold Unlocked.State.start
          rw [active, if_neg (by simp), if_neg (by simp [fits]), planned]
        have taken : Taken w.real r plan w.now _ := energize_taken agree.sound planned fits range
        rw [locked, real]
        refine ⟨taken.ok.symm, ?_⟩
        have next : w.step (.call (.start r)) =
            ⟨w.time, w.served, ⟨w.real.logical.take r plan w.now, true, true⟩, (w.real.energize true r plan w.now).2⟩ := by
          unfold World.step World.lockedCall World.realCall
          dsimp only
          rw [locked, real, Bool.or_false]
        rw [next]
        refine ⟨taken.logical.symm, taken.sound, Or.inr (Or.inl ⟨w.time, r, ?_⟩)⟩
        have positive := (Start.fits_iff.mp fits).1
        have requested : Requested ⟨w.time, w.served, ⟨w.real.logical.take r plan w.now, true, true⟩,
            (w.real.energize true r plan w.now).2⟩ w.time r := by
          constructor
          · dsimp only
            rw [taken.logical]
            rfl
          · exact fits
          · exact range
          · dsimp only
            rw [taken.logical]
            rfl
          · dsimp only
            rw [taken.logical]
            rfl
        refine ⟨requested, taken.unlatched, taken.on, Nat.le_refl _, Nat.le_add_right _ _, ?_, ?_⟩
        · refine ⟨_, taken.pulsed, taken.line, taken.interrupts, ?_⟩
          dsimp only
          rw [Nat.sub_self]
          rfl
        · intro _
          dsimp only
          omega
    · apply refuse .invalid
      · unfold Locked.State.start
        rw [agree.same, active, if_neg (by simp), if_pos fits]
      · unfold Unlocked.State.start
        rw [active, if_neg (by simp), if_pos fits]

theorem stopped_cancel (t : StopTimer) : Stopped t.cancel := ⟨rfl, rfl, rfl⟩

theorem disable_agrees (agree : Agree w) :
    w.locked.disable.1 = (w.real.disable true).1 ∧ Agree (w.step (.call .disable)) := by
  rw [disable_ok]
  refine ⟨rfl, ?_⟩
  constructor
  · exact congrArg Logical.stop agree.same
  · exact ⟨agree.sound.initialized, agree.sound.bridge, agree.sound.timer⟩
  · exact Or.inl ⟨rfl, rfl, rfl, stopped_cancel _⟩

theorem service_agrees (agree : Agree w) (wait : ¬w.due) :
    (w.locked.service w.now).1 = (w.real.service true w.now).1 ∧ Agree (w.step (.call .service)) := by
  rcases agree.phase with quiet | ⟨start, r, c⟩ | ⟨start, r, f⟩
  · have real : w.real.service true w.now = _ := service_quiet quiet agree.sound
    have locked : w.locked.service w.now = (.ok, w.locked) := by
      unfold Locked.State.service
      rw [agree.same, quiet.inactive, if_pos (by simp)]
    have next : w.step (.call .service) =
        ⟨w.time, true, w.locked, { w.real with outputLocked := false, outputDisabled := true }⟩ := by
      unfold World.step World.lockedCall World.realCall
      dsimp only
      rw [locked, real, Bool.or_true]
    rw [next, locked, real]
    refine ⟨rfl, agree.same, ⟨agree.sound.initialized, agree.sound.bridge, agree.sound.timer⟩, Or.inl ?_⟩
    exact ⟨quiet.inactive, quiet.unlatched, quiet.off, quiet.stopped⟩
  · obtain ⟨real, early⟩ := service_counting c agree.sound wait
    have begun := c.begun
    obtain ⟨deadline, backstop⟩ := c.requested.reached (w := w) (by omega) (by omega)
    have before : ¬Reached w.now w.real.logical.deadlineMs := by
      rw [deadline]
      omega
    have locked : w.locked.service w.now = (.ok, w.locked) := by
      unfold Locked.State.service
      rw [agree.same, c.requested.active, if_neg (by simp), if_neg backstop, if_neg before]
      dsimp only
      rw [if_neg (by simp [c.requested.active]), ← agree.same]
    have next : w.step (.call .service) =
        ⟨w.time, true, w.locked, { w.real with outputLocked := false, outputDisabled := false }⟩ := by
      unfold World.step World.lockedCall World.realCall
      dsimp only
      rw [locked, real, Bool.or_true]
    rw [next, locked, real]
    refine ⟨rfl, agree.same, ⟨agree.sound.initialized, agree.sound.bridge, agree.sound.timer⟩, Or.inr (Or.inl ⟨start, r, ?_⟩)⟩
    have requested := c.requested
    exact ⟨⟨requested.active, requested.fits, requested.range, requested.deadline, requested.backstop⟩, c.unlatched, c.on,
      c.begun, c.within, c.timer, fun _ => early⟩
  · have real := service_fired f
    have moment := f.moment
    obtain ⟨deadline, backstop⟩ := f.requested.reached (w := w) (by omega) (by omega)
    have now_ := deadline.mpr moment
    have locked : w.locked.service w.now =
        (.ok, ⟨{ w.real.logical with lastCompletion := .normal }.clearPlan, w.locked.outputLocked, true⟩) := by
      unfold Locked.State.service
      rw [agree.same, f.requested.active, if_neg (by simp), if_neg backstop, if_pos now_]
      dsimp only
      rw [if_pos (by simp)]
      rfl
    have next : w.step (.call .service) =
        ⟨w.time, true, ⟨{ w.real.logical with lastCompletion := .normal }.clearPlan, w.locked.outputLocked, true⟩,
          { w.real with
            logical := { w.real.logical with lastCompletion := .normal }.clearPlan, outputLocked := false
            outputDisabled := true, pending := none }⟩ := by
      unfold World.step World.lockedCall World.realCall
      dsimp only
      rw [locked, real, Bool.or_true]
    rw [next, locked, real]
    refine ⟨rfl, rfl, ⟨agree.sound.initialized, agree.sound.bridge, agree.sound.timer⟩, Or.inl ?_⟩
    exact ⟨rfl, rfl, f.off, f.stopped⟩

theorem interrupt_agrees (agree : Agree w) (asks : raised w.real.timer = true) : Agree (w.step .interrupt) := by
  have silent : ∀ {t : StopTimer}, Stopped t → raised t = false := by
    intro t stopped
    unfold raised
    rw [stopped.line]
    rfl
  rcases agree.phase with quiet | ⟨start, r, c⟩ | ⟨start, r, f⟩
  · rw [silent quiet.stopped] at asks
    contradiction
  · obtain ⟨ended, handled, stopped, initialized, healthy⟩ := irqHandler_fires c asks
    have moment : w.time / 10 = start / 10 + r.durationMs.toNat := by omega
    have unserved : w.served = false := by
      cases held : w.served with
      | false => rfl
      | true =>
        have early := c.early held
        omega
    have logical : w.real.irqHandler.logical = w.real.logical := by rw [handled]
    have requested := c.requested
    constructor
    · change w.locked.logical = w.real.irqHandler.logical
      rw [logical]
      exact agree.same
    · change Sound w.real.irqHandler
      refine ⟨?_, ?_, initialized.trans agree.sound.timer.1, healthy.trans agree.sound.timer.2⟩
      · rw [handled]
        exact agree.sound.initialized
      · rw [handled]
        exact agree.sound.bridge
    · refine Or.inr (Or.inr ⟨start, r, ?_, ?_, ?_, stopped, moment, unserved⟩)
      · refine ⟨?_, requested.fits, requested.range, ?_, ?_⟩
        · change w.real.irqHandler.logical.active = true
          rw [logical]
          exact requested.active
        · change w.real.irqHandler.logical.deadlineMs = _
          rw [logical]
          exact requested.deadline
        · change w.real.irqHandler.logical.backstopMs = _
          rw [logical]
          exact requested.backstop
      · change w.real.irqHandler.pending = _
        rw [handled]
      · change w.real.irqHandler.bridge.isDisabled = true
        rw [handled]
        rfl
  · rw [silent f.stopped] at asks
    contradiction

theorem tick_stopped (stopped : Stopped t) : t.tick = t := by
  unfold StopTimer.tick
  rw [if_pos (by simp [stopped.enabled])]

/-- A count changes nothing but the timer of a running request. -/
theorem count_agrees (agree : Agree w) (silent : raised w.real.timer = false)
    (serves : (w.time + 1) / 10 ≠ w.time / 10 → w.served = true) : Agree (w.step .count) := by
  have sound : Sound { w.real with timer := w.real.timer.tick } := by
    have kept : w.real.timer.tick.initialized = w.real.timer.initialized ∧
        w.real.timer.tick.healthy = w.real.timer.healthy := by
      unfold StopTimer.tick
      by_cases on : w.real.timer.enabled = true
      · rw [if_neg (by simp [on])]
        by_cases reload : w.real.timer.count = w.real.timer.reload
        · rw [if_pos reload]
          exact ⟨rfl, rfl⟩
        · rw [if_neg reload]
          exact ⟨rfl, rfl⟩
      · rw [if_pos on]
        exact ⟨rfl, rfl⟩
    exact ⟨agree.sound.initialized, agree.sound.bridge, kept.1.trans agree.sound.timer.1,
      kept.2.trans agree.sound.timer.2⟩
  refine ⟨agree.same, sound, ?_⟩
  rcases agree.phase with quiet | ⟨start, r, c⟩ | ⟨start, r, f⟩
  · left
    refine ⟨quiet.inactive, quiet.unlatched, quiet.off, ?_⟩
    change Stopped w.real.timer.tick
    rw [tick_stopped quiet.stopped]
    exact quiet.stopped
  · right
    left
    have requested := c.requested
    have begun := c.begun
    have within := c.within
    have more : w.time ≠ start + r.durationMs.toNat * 10 := by
      intro ended
      rw [c.runs.asks.mpr ended] at silent
      contradiction
    obtain ⟨t, pulsed, line, interrupts, held⟩ := c.timer
    refine ⟨start, r, ⟨requested.active, requested.fits, requested.range, requested.deadline, requested.backstop⟩,
      c.unlatched, c.on, ?_, ?_, ⟨t, pulsed, line, interrupts, ?_⟩, ?_⟩
    · change start ≤ w.time + 1
      omega
    · change w.time + 1 ≤ start + r.durationMs.toNat * 10
      omega
    · change w.real.timer.tick = t.elapse (w.time + 1 - start)
      have next : w.time + 1 - start = w.time - start + 1 := by omega
      rw [next, StopTimer.elapse_succ, held]
    · intro served
      have both := Bool.and_eq_true_iff.mp served
      have early := c.early both.1
      have same := of_decide_eq_true both.2
      change (w.time + 1) / 10 < _
      omega
  · right
    right
    have requested := f.requested
    have same : (w.time + 1) / 10 = w.time / 10 := by
      by_contra passes
      rw [f.unserved] at serves
      exact absurd (serves passes) (by simp)
    refine ⟨start, r, ⟨requested.active, requested.fits, requested.range, requested.deadline, requested.backstop⟩,
      f.latched, f.off, ?_, ?_, ?_⟩
    · change Stopped w.real.timer.tick
      rw [tick_stopped f.stopped]
      exact f.stopped
    · change (w.time + 1) / 10 = _
      rw [same]
      exact f.moment
    · change (w.served && _) = false
      rw [f.unserved]
      rfl

theorem step_agrees (w : World) (event : Event) (admitted : w.Admits event) (agree : Agree w) : Agree (w.step event) := by
  cases event with
  | call c =>
    cases c with
    | start r => exact (start_agrees agree admitted).2
    | disable => exact (disable_agrees agree).2
    | service => exact (service_agrees agree admitted).2
  | interrupt => exact interrupt_agrees agree admitted
  | count => exact count_agrees agree admitted.1 admitted.2

theorem started_agrees (started : Started w) : Agree w := by
  obtain ⟨locked, bridge, timer, real⟩ := started
  constructor
  · rw [locked, real]
    rfl
  · rw [real]
    exact ⟨rfl, ⟨rfl, rfl⟩, rfl, rfl⟩
  · left
    rw [real]
    exact ⟨rfl, rfl, rfl, rfl, rfl, rfl⟩

/-- After any admitted run from a start, both executors answer the next call the same, and show the same request
in front of it and behind it. -/
theorem executors_agree {first : World} (started : Started first) (runs : Runs World.step World.Admits first w) (c : Call)
    (admitted : w.Admits (.call c)) :
    (w.lockedCall c).1 = (w.realCall c).1 ∧ w.locked.logical = w.real.logical ∧
      (w.lockedCall c).2.logical = (w.realCall c).2.logical := by
  have agree : Agree w := runs_invariant step_agrees runs (started_agrees started)
  have next : Agree (w.step (.call c)) := step_agrees w (.call c) admitted agree
  refine ⟨?_, agree.same, next.same⟩
  cases c with
  | start r => exact (start_agrees agree admitted).1
  | disable => exact (disable_agrees agree).1
  | service => exact (service_agrees agree admitted).1

/-! ### A request over the wrap of the clock -/

instance (w : World) : Decidable w.due := inferInstanceAs (Decidable (_ ∧ _))

instance (w : World) : (event : Event) → Decidable (w.Admits event)
  | .call (.start _) => inferInstanceAs (Decidable (_ < _))
  | .call .disable => isTrue trivial
  | .call .service => inferInstanceAs (Decidable (¬_))
  | .interrupt => inferInstanceAs (Decidable (_ = _))
  | .count => inferInstanceAs (Decidable (_ ∧ _))

def Admitted : World → List Event → Prop
  | _, [] => True
  | w, event :: events => w.Admits event ∧ Admitted (w.step event) events

instance decidableAdmitted : (w : World) → (events : List Event) → Decidable (Admitted w events)
  | _, [] => isTrue trivial
  | w, event :: events => @instDecidableAnd _ _ inferInstance (decidableAdmitted (w.step event) events)

theorem runs_admitted {events : List Event} (admitted : Admitted w events) :
    Runs World.step World.Admits w (events.foldl World.step w) := by
  induction events generalizing w with
  | nil => exact .refl
  | cons event events ih => exact Relation.ReflTransGen.head ⟨event, admitted.1, rfl⟩ (ih admitted.2)

def wrapping : World :=
  { time := 42949672955
    served := false
    locked := .initial
    real := .initial true ⟨false, false, true, true, 7, 7, true, true, true, true⟩
      ⟨false, false, false, false, false, true, false, false, false, 9, 8, 7, true, true, true⟩ }

/-- A start of one millisecond, and in the middle of the next one the interrupt. -/
def request : List Event :=
  [.call (.start ⟨true, 1, 12000, 1, 2⟩), .call .service] ++ List.replicate 10 .count ++ [.interrupt]

def wrapped : World := request.foldl World.step wrapping

theorem executors_agree_wrapped :
    (wrapped.lockedCall .service).1 = (wrapped.realCall .service).1 ∧ wrapped.locked.logical = wrapped.real.logical ∧
      (wrapped.lockedCall .service).2.logical = (wrapped.realCall .service).2.logical :=
  executors_agree ⟨rfl, _, _, rfl⟩ (@runs_admitted wrapping request (by decide +kernel)) .service
    (by decide +kernel)

example : wrapped.real.logical.active = true ∧ (wrapped.realCall .service).2.logical.lastCompletion = .normal := by
  decide +kernel

end Sd700.Motor.Agreement
