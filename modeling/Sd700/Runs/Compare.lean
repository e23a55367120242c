import Sd700.Motor.Finish
import Sd700.Motor.Starts
import Sd700.Runs.Terminal

/-! A pulse that ends on its normal compare. Its deadline is a whole tick of a clock read before the timer is
armed; the timer counts from the arming. -/

namespace Sd700.Runs.Compare
open Build.Contract Servo.State Servo.BuildMachine Servo.Machine Servo.Moves Motor.Interface Motor.BuildExecutor
  Motor.Timer Motor.Bridge Logic.Modular
open Runs.Terminal (fault_code)

variable {Bridge : Type} {hw : Hardware Bridge}

/-! ### What the safety check sees -/

theorem refreshRest_snapshot (x : Device Bridge) (now : U32) : ∃ epoch inhibited,
    (x.refreshRest hw now).build.snapshot = { x.build.snapshot with epoch := epoch, inhibited := inhibited } := by
  have same : (x.confirmOff hw now).build = x.build := Device.confirmOff_build x now
  unfold Device.refreshRest Device.settleRest
  dsimp only
  rw [← same]
  split
  · exact ⟨_, _, rfl⟩
  · exact ⟨_, _, rfl⟩

theorem refreshRest_time (x : Device Bridge) (now : U32) : (x.refreshRest hw now).time = x.time := by
  have same : (x.confirmOff hw now).time = x.time := by
    unfold Device.confirmOff
    split
    · rfl
    split
    · rfl
    · rfl
  unfold Device.refreshRest Device.settleRest
  dsimp only
  rw [← same]
  split
  · rfl
  · rfl

theorem refreshRest_clock (x : Device Bridge) (now : U32) : (x.refreshRest hw now).clock = x.clock := by
  unfold Device.clock
  rw [refreshRest_time]

/-- Nothing the machine could take for a missed deadline: the last end was orderly and no time is up. -/
structure Timely (x : Device Bridge) : Prop where
  orderly : x.build.endReason.isCutoff = false
  early : cutoffDue x.clock x.build.snapshot = false

theorem Timely.refreshed {x : Device Bridge} (timely : Timely x) (hw : Hardware Bridge) (now : U32) :
    Timely (x.refreshRest hw now) := by
  obtain ⟨epoch, inhibited, same⟩ : ∃ epoch inhibited, (x.refreshRest hw now).build.snapshot = _ :=
    refreshRest_snapshot x now
  constructor
  · have reason := congrArg BuildSnapshot.endReason same
    exact (congrArg EndReason.isCutoff reason).trans timely.orderly
  · rw [refreshRest_clock, same]
    exact timely.early

variable {env : Platform (Device Bridge)}

theorem Timely.snapshot {x : Device Bridge} (timely : Timely x) (hw : Hardware Bridge) :
    (x.getBuildSnapshot hw).1.snapshot.endReason.isCutoff = false ∧
      cutoffDue x.clock (x.getBuildSnapshot hw).1.snapshot = false := by
  have later := timely.refreshed hw x.clock
  have early := later.early
  rw [refreshRest_clock] at early
  exact ⟨later.orderly, early⟩

def NoCutoff (hw : Hardware Bridge) (x : Device Bridge) : Prop :=
  ∀ (env : Platform (Device Bridge)) (w : System (Device Bridge)), env.executor = executor hw → w.exec = x →
    w.state ≠ .fault → w.faultDetail ≠ .buildCutoff → (safety env x.clock w).faultDetail ≠ .buildCutoff

theorem checkDrive_timely {u : System (Device Bridge)} (linked : env.executor = executor hw) (timely : Timely u.exec)
    (sound : u.state ≠ .fault) (unreported : u.faultDetail ≠ .buildCutoff) :
    (checkDrive env u.exec.clock u).faultDetail ≠ .buildCutoff := by
  obtain ⟨orderly, early⟩ := timely.snapshot hw
  have snapshot : buildSnapshot env u.exec.clock u = (u.exec.getBuildSnapshot hw).1.snapshot := by
    unfold buildSnapshot
    rw [linked]
    rfl
  have faulted (f : MachineFault) (detail : FaultDetail) (other : detail ≠ .buildCutoff) :
      (fault env f detail u.exec.clock (refreshBuild env u.exec.clock u)).faultDetail ≠ .buildCutoff := by
    rw [(fault_code f detail (show (refreshBuild env u.exec.clock u).state ≠ .fault from sound)).2]
    exact other
  unfold checkDrive
  dsimp only
  rw [snapshot, if_neg (by simp [orderly])]
  split
  · exact faulted _ _ (by decide)
  rw [if_neg (by simp [early])]
  split
  · exact faulted _ _ (by decide)
  · exact unreported

theorem checkSession_timely {u : System (Device Bridge)} (linked : env.executor = executor hw) (timely : Timely u.exec)
    (sound : u.state ≠ .fault) (unreported : u.faultDetail ≠ .buildCutoff) :
    (checkSession env u.exec.clock u).faultDetail ≠ .buildCutoff := by
  have faulted (f : MachineFault) (detail : FaultDetail) (other : detail ≠ .buildCutoff) :
      (fault env f detail u.exec.clock u).faultDetail ≠ .buildCutoff := by
    rw [(fault_code f detail sound).2]
    exact other
  unfold checkSession
  split
  · exact unreported
  split
  · exact faulted _ _ (by decide)
  split
  · split
    · exact faulted _ _ (by decide)
    · exact unreported
  · exact checkDrive_timely linked timely sound unreported

theorem Timely.noCutoff {x : Device Bridge} (timely : Timely x) (hw : Hardware Bridge) : NoCutoff hw x := by
  intro env w linked exec sound unreported
  have refreshed : (syncEpoch env x.clock (account x.clock w)).exec = x.refreshRest hw x.clock := by
    rw [syncEpoch_eq]
    show ((env.executor.buildSnapshot x.clock w.exec).2 = _)
    rw [linked, exec]
    rfl
  have later := timely.refreshed hw x.clock
  rw [← refreshed] at later
  have clock : x.clock = (syncEpoch env x.clock (account x.clock w)).exec.clock := by
    rw [refreshed, refreshRest_clock]
  unfold safety
  have checked := checkSession_timely linked later (by rw [syncEpoch_eq]; exact sound) (by rw [syncEpoch_eq]; exact unreported)
  rw [← clock] at checked
  exact checked

/-! ### Deadlines of a pulse -/

variable {r : Request} {received now : U32} {duty : U16} {s : Device Bridge}

/-- The feedback deadline of a pulse, counted from the tick it started in. -/
theorem receiveDeadline_eq (received now : U32) : received + leaseMs = now + (leaseMs - (now - received)) := by
  rw [sub_sub_eq_add_sub, add_sub_cancel, add_comm]

theorem lease_toNat (recent : now - received ≤ ageMs) :
    (leaseMs - (now - received)).toNat = 130 - (now - received).toNat := by
  have young : (now - received).toNat ≤ 20 := recent
  rw [BitVec.toNat_sub]
  simp only [leaseMs, BitVec.toNat_ofNat, BitVec.ofNat_eq_ofNat]
  omega

theorem undue (started : Device.PulseStarted hw r received now duty s) (recent : now - received ≤ ageMs)
    (fits : r.hardMs < leaseMs - (now - received)) {k : U32} (within : k < r.hardMs) : ¬ s.due (now + k) := by
  have lease := lease_toNat recent
  have order : k.toNat < r.hardMs.toNat := within
  have room : r.hardMs.toNat < (leaseMs - (now - received)).toNat := fits
  unfold Device.due
  rw [started.deadline, started.receiveDeadline, receiveDeadline_eq received now,
    reached_add_iff (by omega) (by omega), reached_add_iff (by omega) (by omega)]
  omega

theorem due_hard (started : Device.PulseStarted hw r received now duty s) : s.due (now + r.hardMs) := by
  left
  rw [started.deadline]
  unfold Reached
  rw [BitVec.sub_self]
  decide

/-- What is left of the feedback lease short of the hard limit is a lease the timer takes. -/
theorem lease_left (started : Device.PulseStarted hw r received now duty s) (recent : now - received ≤ ageMs)
    (fits : r.hardMs < leaseMs - (now - received)) {k : U32} (within : k < r.hardMs) :
    StopTimer.leaseFits (s.build.receiveDeadlineMs - (now + k)) = true := by
  have lease := lease_toNat recent
  have order : k.toNat < r.hardMs.toNat := within
  have room : r.hardMs.toNat < (leaseMs - (now - received)).toNat := fits
  rw [StopTimer.leaseFits_iff, started.receiveDeadline, receiveDeadline_eq received now, add_sub_add_left_eq_sub,
    BitVec.toNat_sub]
  omega

/-! ### The compare of a pulse -/

theorem engaged_drives {armed : Bool} {origin : Device.Origin} {b : Registers} {s : Device Registers}
    (engaged : Device.engage (.board armed) origin duty b = (true, s.bridge))
    (matched : (Hardware.board armed).matchesPlan 0 duty s.bridge = true) :
    armed = true ∧ duty ≠ 0#16 ∧ Registers.Drives duty s.bridge := by
  have ready : armed = true ∧ duty ≠ 0#16 ∧ s.bridge.initialized = true := by
    have ok := congrArg Prod.fst engaged
    have left := congrArg Prod.snd engaged
    dsimp only at ok left
    rw [← left]
    cases origin with
    | off => exact Registers.applyPress_ok ok
    | brake => exact Registers.buildFromBrake_ok ok
    | approach => exact Registers.updatePress_ok ok
  exact ⟨ready.1, ready.2.1, Registers.drives_of_matches ready.2.2 ready.2.1 matched⟩

def ticks (start time : Nat) : Nat := time / 10 - start / 10

theorem clock_eq {start time : Nat} (order : start ≤ time) :
    stamp 32 (time / 10) = stamp 32 (start / 10) + stamp 32 (ticks start time) := by
  have later : start / 10 ≤ time / 10 := Nat.div_le_div_right order
  unfold stamp
  rw [← BitVec.ofNat_add, ticks, Nat.add_sub_cancel' later]

/-- A pulse as it starts on the board, with what its request and its frame give it. -/
structure Started (r : Request) (received : U32) (start delay : Nat) (duty : U16) (s : Device Registers) : Prop where
  begun : Device.PulseStarted (.board true) r received (stamp 32 (start / 10)) duty s
  drives : Registers.Drives duty s.bridge
  positive : duty ≠ 0#16
  pulse : r.phase ≠ .approach
  fits : r.pulseFits
  recent : stamp 32 (start / 10) - received ≤ ageMs
  leased : r.hardMs < leaseMs - (stamp 32 (start / 10) - received)
  time : s.time = start + delay

variable {start delay : Nat} {x : Device Registers}

/-- The pulse after some counts, short of its compare or at it. -/
theorem Started.clock (started : Started r received start delay duty x) (counts : Nat) :
    (x.elapse counts).clock = stamp 32 (start / 10) + stamp 32 (ticks start (start + delay + counts)) := by
  unfold Device.elapse Device.clock
  dsimp only
  rw [started.time]
  exact clock_eq (by omega)

theorem Started.atCompare (started : Started r received start delay duty x) :
    (x.elapse (r.normalMs.toNat * 10)).AtCompare ∧
      (x.elapse (r.normalMs.toNat * 10)).timer = { x.timer with count := x.timer.compare, compared := true } := by
  obtain ⟨low, high, hard⟩ := pulse_lengths started.fits
  have matched : (x.elapse (r.normalMs.toNat * 10)).timer = { x.timer with count := x.timer.compare, compared := true } :=
    started.begun.pulsed.matched (show r.normalMs.toNat < r.hardMs.toNat by omega) (fun zero => by
      rw [zero] at low
      exact absurd low (by decide))
  obtain ⟨armed, -, -, updated, -, overcaptured⟩ := started.begun.pulsed.flags
  refine ⟨⟨?_, ?_, ?_, ?_, ?_, ?_⟩, matched⟩
  · rw [matched]
    exact armed
  · rw [matched]
  · rw [matched]
    exact updated
  · rw [matched]
    exact overcaptured
  · rw [matched]
    exact started.begun.pulsed.onePulse
  · show x.build.mode = .micro ∨ x.build.mode = .fine
    rw [started.begun.mode]
    exact started.fits.2.1

/-- While the clock is short of the hard limit, the pulse can be brought to BRAKE at its compare. -/
theorem Started.brakable (started : Started r received start delay duty x)
    (within : ticks start (start + delay + r.normalMs.toNat * 10) < r.hardMs.toNat) :
    (x.elapse (r.normalMs.toNat * 10)).acknowledged.Brakable := by
  obtain ⟨low, high, hard⟩ := pulse_lengths started.fits
  obtain ⟨at_, matched⟩ := started.atCompare
  obtain ⟨armed, on, healthy, updated, -, overcaptured⟩ := started.begun.pulsed.flags
  have clock := started.clock (r.normalMs.toNat * 10)
  have short : stamp 32 (ticks start (start + delay + r.normalMs.toNat * 10)) < r.hardMs := by
    show BitVec.toNat _ < _
    rw [stamp_toNat, Nat.mod_eq_of_lt (by omega)]
    exact within
  have now : (x.elapse (r.normalMs.toNat * 10)).acknowledged.clock = _ := clock
  have plan := started.begun.plan
  constructor
  · exact started.begun.owned
  · exact started.begun.idle
  · exact started.begun.active
  · exact started.begun.direction
  · exact plan.1
  · show x.drive.tim3 ≠ 0#16
    rw [plan.2]
    exact started.positive
  · show Registers.Drives x.drive.tim3 x.bridge
    rw [plan.2]
    exact started.drives
  · show x.build.phase ≠ .approach
    rw [started.begun.phase]
    exact started.pulse
  · rw [now]
    exact undue started.begun started.recent started.leased short
  · unfold Device.acknowledged
    dsimp only
    rw [matched]
    simp [StopTimer.buildTransitionReady, StopTimer.isArmed, StopTimer.flagged, armed, on, healthy, updated,
      overcaptured]
  · exact at_.onePulse
  · show (x.elapse (r.normalMs.toNat * 10)).timer.count < (x.elapse (r.normalMs.toNat * 10)).timer.reload
    rw [matched]
    have compare := started.begun.pulsed.compare
    have reload := started.begun.pulsed.reload
    show x.timer.compare.toNat < x.timer.reload.toNat
    omega
  · rw [now]
    exact lease_left started.begun started.recent started.leased short

/-! ### Ends on the compare -/

structure EndedNormally (f : Device Registers) : Prop where
  reason : f.build.endReason = .normal
  ended : f.build.segmentActive = false
  braking : f.build.preloadActive = true ∧ f.bridge.isBraking = true
  lease : f.build.preloadDeadlineMs = f.build.receiveDeadlineMs
  owned : f.owned = true
  rested : f.restRequired = false

/-- The pulse ends normally when its compare is serviced in time, and no safety check up to then, nor one
within the BRAKE's own lease, reports a missed deadline. -/
def Completes (hw : Hardware Registers) (r : Request) (x : Device Registers) : Prop :=
  let f := (x.elapse (r.normalMs.toNat * 10)).irqHandler hw
  EndedNormally f ∧ (∀ counts ≤ r.normalMs.toNat * 10, NoCutoff hw (x.elapse counts)) ∧
    ∀ counts, ¬ Reached (f.elapse counts).clock f.build.receiveDeadlineMs → NoCutoff hw (f.elapse counts)

/-- A pulse that is brought to BRAKE within its hard limit has ended normally. -/
theorem completed_ended {y : Device Registers} (brakable : y.acknowledged.Brakable) (within : ¬ y.overran y.clock)
    (rested : y.restRequired = false) : EndedNormally y.completed := by
  have record : y.acknowledged.toBrake.recordPulseEnd y.clock .normal = _ :=
    Device.recordPulseEnd_within (m := y.acknowledged.toBrake) brakable.active within rfl
  have braking : (y.bridge.buildBrake true).2.isBraking = true :=
    (Registers.buildBrake_drives brakable.drives).2.braking
  unfold Device.completed Device.holdBrake
  dsimp only
  rw [record]
  exact ⟨rfl, rfl, ⟨rfl, braking⟩, rfl, brakable.owned, rested⟩

theorem Started.overran (started : Started r received start delay duty x)
    (within : ticks start (start + delay + r.normalMs.toNat * 10) < r.hardMs.toNat) :
    ¬ (x.elapse (r.normalMs.toNat * 10)).overran (x.elapse (r.normalMs.toNat * 10)).clock := by
  obtain ⟨low, high, hard⟩ := pulse_lengths started.fits
  rw [started.clock]
  unfold Device.overran Device.ranMs
  show ¬ x.build.hardMs < stamp 32 (start / 10) + _ - x.build.startedMs + 1
  rw [started.begun.started, started.begun.hard, add_sub_cancel_left, BitVec.not_lt]
  show BitVec.toNat _ ≤ _
  rw [BitVec.toNat_add, stamp_toNat]
  simp only [BitVec.toNat_ofNat, BitVec.ofNat_eq_ofNat]
  omega

theorem Started.timely (started : Started r received start delay duty x)
    (within : ticks start (start + delay + r.normalMs.toNat * 10) < r.hardMs.toNat) {counts : Nat}
    (before : counts ≤ r.normalMs.toNat * 10) : Timely (x.elapse counts) := by
  have sooner : ticks start (start + delay + counts) ≤ ticks start (start + delay + r.normalMs.toNat * 10) := by
    unfold ticks
    omega
  have small := r.hardMs.isLt
  have short : stamp 32 (ticks start (start + delay + counts)) < r.hardMs := by
    show BitVec.toNat _ < _
    rw [stamp_toNat, Nat.mod_eq_of_lt (by omega)]
    omega
  have early := undue started.begun started.recent started.leased short
  rw [← started.clock] at early
  obtain ⟨deadline, receive⟩ := not_or.mp early
  constructor
  · show x.build.endReason.isCutoff = false
    rw [started.begun.unended]
    rfl
  · unfold cutoffDue Ledger.snapshot
    show ((x.build.segmentActive || x.build.preloadActive) && decide (Reached _ x.build.receiveDeadlineMs) ||
      x.build.segmentActive && decide (Reached _ x.build.deadlineMs) ||
      x.build.preloadActive && decide (Reached _ x.build.preloadDeadlineMs)) = false
    rw [started.begun.unbraked, decide_eq_false receive, decide_eq_false deadline]
    simp

theorem EndedNormally.timely {f : Device Registers} (ended : EndedNormally f) {counts : Nat}
    (early : ¬ Reached (f.elapse counts).clock f.build.receiveDeadlineMs) : Timely (f.elapse counts) := by
  constructor
  · show f.build.endReason.isCutoff = false
    rw [ended.reason]
    rfl
  · unfold cutoffDue Ledger.snapshot
    show ((f.build.segmentActive || f.build.preloadActive) && decide (Reached _ f.build.receiveDeadlineMs) ||
      f.build.segmentActive && decide (Reached _ f.build.deadlineMs) ||
      f.build.preloadActive && decide (Reached _ f.build.preloadDeadlineMs)) = false
    rw [ended.lease, ended.ended, decide_eq_false early]
    simp

/-- A pulse whose clock stays short of its hard limit is completed by its compare. -/
theorem Started.completes (started : Started r received start delay duty x)
    (within : ticks start (start + delay + r.normalMs.toNat * 10) < r.hardMs.toNat) :
    Completes (.board true) r x := by
  obtain ⟨low, high, hard⟩ := pulse_lengths started.fits
  have brakable := started.brakable within
  have ended := completed_ended brakable (started.overran within) started.begun.rested
  rw [← Device.irqHandler_brakes started.atCompare.1 brakable] at ended
  refine ⟨ended, ?_, ?_⟩
  · intro counts before
    exact (started.timely within before).noCutoff _
  · intro counts early
    exact (ended.timely early).noCutoff _

/-- A pulse whose clock reaches its hard limit before its compare is taken for an overrun. -/
theorem Started.overruns (started : Started r received start delay duty x)
    (late : ticks start (start + delay + r.normalMs.toNat * 10) = r.hardMs.toNat) :
    ((x.elapse (r.normalMs.toNat * 10)).irqHandler (.board true)).build.endReason = .deadline := by
  apply Device.irqHandler_late started.atCompare.1 started.begun.active started.begun.direction
  have reading : stamp 32 r.hardMs.toNat = r.hardMs := by
    apply BitVec.eq_of_toNat_eq
    rw [stamp_toNat, Nat.mod_eq_of_lt r.hardMs.isLt]
  have due : x.due (stamp 32 (start / 10) + r.hardMs) := due_hard started.begun
  rw [started.clock, late, reading]
  exact due

/-! ### The phase of the clock -/

/-- The clock ticks once more than the timer counts milliseconds, or not, as the delay crosses a tick. -/
theorem ticks_hard (start : Nat) {normal hard : Nat} (length : hard = normal + 1) (short : delay < 10) :
    (ticks start (start + delay + normal * 10) < hard ↔ start % 10 + delay < 10) ∧
      (¬ start % 10 + delay < 10 → ticks start (start + delay + normal * 10) = hard) := by
  unfold ticks
  omega

theorem giveWay_time (x : Device Bridge) (r : Request) (now : U32) : (x.giveWay r now).time = x.time := by
  have ended (reason : EndReason) : (x.recordPulseEnd now reason).time = x.time := by
    unfold Device.recordPulseEnd
    split
    · rfl
    · rfl
  have charged (y : Device Bridge) : (y.chargePreload now).time = y.time := by
    unfold Device.chargePreload
    split
    · rfl
    · rfl
  unfold Device.giveWay
  dsimp only
  rw [charged]
  split
  · exact ended .reduced
  · rfl

theorem Started.of_accepted {armed : Bool} {m : Device Registers} {token : U32} {sequence : U64}
    (ok : (m.startBuildSegmentAfter (.board armed) delay token r sequence received).1 = .ok)
    (pulse : r.phase ≠ .approach) : armed = true ∧ ∃ duty,
      Started r received m.time delay duty (m.startBuildSegmentAfter (.board armed) delay token r sequence received).2 := by
  obtain ⟨duty, taken, accepted⟩ := Device.start_ok ok
  obtain ⟨rfl, positive, drives⟩ := engaged_drives accepted.energized.engaged accepted.energized.matched
  obtain ⟨timer, keeps⟩ := Device.takesOver_ok (congrArg Prod.fst accepted.takes)
  have keeps' : taken = { m.refreshRest (.board true) m.clock with timer := timer } :=
    (congrArg Prod.snd accepted.takes).symm.trans keeps
  have fits := accepted.fits.2.2
  rw [if_neg pulse] at fits
  refine ⟨rfl, duty, accepted.pulse pulse, drives, positive, pulse, fits.1, accepted.recent, fits.2, ?_⟩
  rw [accepted.energized.same]
  show (taken.giveWay r m.clock).time + delay = m.time + delay
  rw [giveWay_time, keeps']
  exact congrArg (· + delay) (refreshRest_time m m.clock)

/-- A pulse ends on its normal compare exactly when the clock does not tick between its reading and the
arming of the timer. -/
theorem compare_completes_iff (armed : Bool) (m : Device Registers) (delay : Nat) (token : U32) (r : Request)
    (sequence : U64) (received : U32) (short : delay < 10) (pulse : r.phase ≠ .approach)
    (ok : (m.startBuildSegmentAfter (.board armed) delay token r sequence received).1 = .ok) :
    Completes (.board armed) r (m.startBuildSegmentAfter (.board armed) delay token r sequence received).2 ↔
      m.time % 10 + delay < 10 := by
  obtain ⟨rfl, duty, started⟩ := Started.of_accepted ok pulse
  obtain ⟨low, high, hard⟩ := pulse_lengths started.fits
  obtain ⟨inPhase, late⟩ := ticks_hard m.time hard short
  constructor
  · intro completes
    by_contra crossed
    have reason := completes.1.reason.symm.trans (started.overruns (late crossed))
    exact nomatch reason
  · intro aligned
    exact started.completes (inPhase.mpr aligned)

/-! ### One pulse in both phases -/

/-- An executor that was initialized, has rested for 108 s, and is about to be opened nine tenths into a tick. -/
def benchRested : Device Registers :=
  (Device.initial (.board true) true ⟨false, false, false, false, 0, 0, false, false, false, false⟩ 0).elapse 1080009

theorem benchRested_eq : benchRested = { Device.initial (.board true) true
    ⟨false, false, false, false, 0, 0, false, false, false, false⟩ 0 with time := 1080009 } := by
  unfold benchRested Device.elapse
  rw [StopTimer.elapse_stopped rfl]
  rfl

def benchPulse : Request := ⟨.build, 3000, 3, 3000, .micro, 0, 2, 30, 100, false⟩

/-- Such a pulse need not end normally: started nine tenths into a tick and armed a tenth later, its compare finds the
clock at the hard limit. -/
theorem late_compare_overruns :
    ¬ ∀ (armed : Bool) (m : Device Registers) (delay : Nat) (token : U32) (r : Request) (sequence : U64)
      (received : U32), delay < 10 → r.phase ≠ .approach →
      (m.startBuildSegmentAfter (.board armed) delay token r sequence received).1 = .ok →
      Completes (.board armed) r (m.startBuildSegmentAfter (.board armed) delay token r sequence received).2 := by
  intro every
  have completes := every true (benchRested.beginBuild (.board true)).2 1 1 benchPulse 1 108000 (by decide) (by decide)
    (by rw [benchRested_eq]; decide +kernel)
  have overrun : ((((benchRested.beginBuild (.board true)).2.startBuildSegmentAfter (.board true) 1 1 benchPulse 1
      108000).2.elapse (benchPulse.normalMs.toNat * 10)).irqHandler (.board true)).build.endReason = .deadline := by
    rw [benchRested_eq]
    decide +kernel
  exact nomatch overrun.symm.trans completes.1.reason

/-- The same pulse, armed within its tick. -/
theorem compare_completes_bench :
    Completes (.board true) benchPulse
      ((benchRested.beginBuild (.board true)).2.startBuildSegmentAfter (.board true) 0 1 benchPulse 1 108000).2 :=
  (compare_completes_iff true (benchRested.beginBuild (.board true)).2 0 1 benchPulse 1 108000 (by decide) (by decide)
    (by rw [benchRested_eq]; decide +kernel)).mpr (by rw [benchRested_eq]; decide +kernel)

end Sd700.Runs.Compare
