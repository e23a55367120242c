import Sd700.Motor.Cutoff

/-! Frames and the output they carry: a Build output that is on was started or renewed by a frame of feedback, and it is
off before that frame is 130 milliseconds old. -/

namespace Sd700.Motor.Timer
open Build.Contract Logic.Modular

theorem StopTimer.Pulsed.counts {t : StopTimer} {normalMs hardMs : U32} (pulsed : t.Pulsed normalMs hardMs)
    (shorter : normalMs.toNat < hardMs.toNat) (positive : 0 < normalMs.toNat) (initialized : t.initialized = true)
    (interrupts : t.interrupts = true) (line : t.line = true) :
    t.Counting ∧ t.lead = normalMs.toNat * 10 := by
  obtain ⟨armed, enabled, healthy, _⟩ := pulsed.flags
  have compare := pulsed.compare
  have reload := pulsed.reload
  have wide := t.reload.isLt
  have lead : t.lead = normalMs.toNat * 10 := by
    unfold StopTimer.lead
    rw [BitVec.toNat_sub_of_le (show t.count.toNat ≤ t.compare.toNat by omega)]
    omega
  have room : (t.reload - t.count).toNat = hardMs.toNat * 10 - 1 := by
    rw [BitVec.toNat_sub_of_le (show t.count.toNat ≤ t.reload.toNat by omega)]
    omega
  refine ⟨?_, lead⟩
  exact {
    healthy := (Bool.and_eq_true _ _).mpr ⟨initialized, healthy⟩
    enabled := enabled
    interrupts := interrupts
    line := line
    repeats := fun repeats => by
      rw [pulsed.onePulse] at repeats
      contradiction
    reload := fun _ => by
      rw [lead, room]
      omega
    ahead := by
      right
      omega }

end Sd700.Motor.Timer

namespace Sd700.Motor.BuildExecutor
open Build.Contract Interface Logic.Modular Logic.Run Timer Bridge

variable {Bridge : Type} {hw : Hardware Bridge}

namespace Device

variable {m n k : Device Bridge}

/-! ### A deadline and the age of its frame -/

theorem age_le {now received : U32} (recent : now - received ≤ ageMs) : (now - received).toNat ≤ 20 := recent

/-- What is left of a frame's lease and the age of the frame make up the lease. -/
theorem lease_left {now received : U32} (recent : now - received ≤ ageMs) :
    (received + leaseMs - now).toNat + (now - received).toNat = 130 := by
  have age := age_le recent
  have word : received + leaseMs - now = leaseMs - (now - received) := by
    rw [sub_sub_eq_add_sub, add_comm]
  have fits : (now - received).toNat ≤ leaseMs.toNat := Nat.le_trans age (by decide)
  have whole : leaseMs.toNat = 130 := rfl
  rw [word, BitVec.toNat_sub_of_le fits, whole]
  omega

theorem earlier_left {now late early : U32} (after : After late early) (near : (early - now).toNat ≤ 130)
    (close : (late - now).toNat ≤ 130) : (early - now).toNat ≤ (late - now).toNat := by
  obtain ⟨_, half⟩ := after
  have word : late - early = late - now - (early - now) := (sub_sub_sub_cancel_right late early now).symm
  by_contra less
  rw [word, BitVec.toNat_sub] at half
  omega

structure Lit (m n : Device Bridge) (received : U32) : Prop where
  time : n.time = m.time
  powered : n.Powered
  recent : (m.clock - received).toNat ≤ 20
  dated : (n.build.receiveDeadlineMs - m.clock).toNat + (m.clock - received).toNat ≤ 130

theorem renewable_on (obeys : Cuts hw) (sound : m.Sound hw) (renewable : m.renewable = true)
    (stays : ¬ m.lapsed hw m.clock) : hw.isDisabled m.bridge = false := by
  unfold lapsed at stays
  push Not at stays
  have stays := stays.2
  by_cases brake : m.build.preloadActive = true
  · rw [if_pos brake] at stays
    exact obeys.brakes _ (not_not.mp stays)
  rw [if_neg brake] at stays
  push Not at stays
  unfold Device.renewable at renewable
  rw [Bool.eq_false_iff.mpr brake, Bool.false_or] at renewable
  have pressing := sound.quiet.pressing ((Bool.and_eq_true _ _).mp renewable).1
  exact obeys.drives _ _ stays.2 pressing.2.1

theorem refreshBuildFeedback_kept (obeys : Cuts hw) (sound : m.Sound hw) (token : U32) (sequence : U64)
    (received : U32) :
    Kept hw m (m.refreshBuildFeedback hw token sequence received).2 ∨
      ((m.refreshBuildFeedback hw token sequence received).1 = .ok ∧
        Lit m (m.refreshBuildFeedback hw token sequence received).2 received) := by
  have time := (refreshBuildFeedback_calm obeys.toStaysOff sound.quiet token sequence received).steady.time
  unfold refreshBuildFeedback at time ⊢
  dsimp only at time ⊢
  by_cases stale : ¬ m.owned ∨ token ≠ m.generation ∨ m.pending ≠ none ∨ ageMs < m.clock - received ∨
      (m.haveSequence ∧ ¬ After sequence m.feedbackSequence)
  · rw [if_pos stale]
    exact .inl (.refl sound)
  rw [if_neg stale] at time ⊢
  by_cases idle : ¬ m.renewable
  · rw [if_pos idle]
    exact .inl ((Kept.refl sound).same rfl)
  rw [if_neg idle] at time ⊢
  by_cases late : m.lapsed hw m.clock
  · rw [if_pos late] at time ⊢
    exact .inl (.dark time (recordedOff_dark obeys _ _ _))
  rw [if_neg late] at time ⊢
  by_cases lost : ¬ stands (m.renewLease hw (m.renewedDeadline received - m.clock))
  · rw [if_pos lost] at time ⊢
    exact .inl (.dark time (recordedOff_dark obeys _ _ _))
  rw [if_neg lost] at time ⊢
  right
  push Not at stale
  obtain ⟨_, _, waits, recent, _⟩ := stale
  have recent : m.clock - received ≤ ageMs := BitVec.not_lt.mp recent
  have renewable := not_not.mp idle
  have powered := sound.powered (renewable_on obeys sound renewable late)
  have stood := not_not.mp lost
  obtain ⟨timer, same, running⟩ := powered.renews renewable stood.1
  have fits : (m.renewedDeadline received - m.clock).toNat ≤ 130 := (StopTimer.leaseFits_iff.mp running.fits).2
  have whole := lease_left recent
  have dated : (m.renewedDeadline received - m.clock).toNat + (m.clock - received).toNat ≤ 130 := by
    unfold renewedDeadline at fits ⊢
    dsimp only at fits ⊢
    by_cases clamped : m.build.segmentActive = true ∧ After (received + leaseMs) m.build.deadlineMs
    · rw [if_pos clamped] at fits ⊢
      have less := earlier_left clamped.2 fits (by omega)
      omega
    · rw [if_neg clamped]
      omega
  refine ⟨rfl, ?_, ?_, age_le recent, dated⟩
  · exact time
  rw [same]
  refine ⟨waits, running.armed, running.counting, ?_, ?_, fits⟩
  · intro single
    rw [running.repeats] at single
    contradiction
  · exact running.before (BitVec.le_refl _) (Nat.le_trans fits (by decide))

/-! ### A segment that starts -/

theorem armLease_running {remaining : U32} (ok : (m.armLease hw remaining).1 = true) :
    ∃ timer, m.armLease hw remaining = (true, { m with timer := timer }) ∧ Running remaining timer := by
  unfold armLease at ok ⊢
  by_cases unfit : ¬ m.timer.isHealthy ∨ m.timer.armed ∨ ¬ StopTimer.leaseFits remaining
  · rw [if_pos unfit] at ok
    contradiction
  rw [if_neg unfit] at ok ⊢
  push Not at unfit
  obtain ⟨committed, armed, healthy, clear⟩ := commitArm_ok ok
  refine ⟨_, committed, ?_⟩
  exact {
    armed := armed
    healthy := unfit.1
    enabled := rfl
    interrupts := rfl
    line := rfl
    repeats := rfl
    reload := rfl
    clear := clear
    fits := unfit.2.2
    ahead := BitVec.sub_zero _ }

def handsOver (origin : Origin) (t : StopTimer) : Prop :=
  origin ≠ .off → t.initialized = true ∧ t.interrupts = true

structure Scheduled (r : Request) (lease : U32) (t : StopTimer) : Prop where
  approach : r.phase = .approach → Running lease { t with line := true }
  pulse : r.phase ≠ .approach → t.initialized = true ∧ t.interrupts = true

def leased (m : Device Bridge) (now : U32) : U32 :=
  if m.build.hardMs < m.build.receiveDeadlineMs - now then m.build.hardMs else m.build.receiveDeadlineMs - now

theorem program_scheduled {r : Request} {origin : Origin} {now : U32} (ok : (m.program hw r origin now).1 = true)
    (hands : handsOver origin m.timer) : Scheduled r (m.leased now) (m.program hw r origin now).2.timer := by
  unfold program at ok ⊢
  dsimp only at ok ⊢
  by_cases approach : r.phase = .approach
  · rw [if_pos approach] at ok ⊢
    obtain ⟨timer, armed, running⟩ := armLease_running ok
    change Scheduled r (m.leased now) (m.armLease hw (m.leased now)).2.timer
    rw [show m.armLease hw (m.leased now) = _ from armed]
    refine ⟨fun _ => ?_, fun pulse => absurd approach pulse⟩
    rw [← running.line]
    exact running
  rw [if_neg approach] at ok ⊢
  refine ⟨fun lease => absurd lease approach, fun _ => ?_⟩
  by_cases off : origin = .off
  · rw [if_pos off] at ok ⊢
    unfold StopTimer.arm at ok ⊢
    dsimp only at ok ⊢
    split at ok
    · contradiction
    rename_i fits
    rw [if_neg fits]
    push Not at fits
    exact ⟨((Bool.and_eq_true _ _).mp fits.1).1, rfl⟩
  · rw [if_neg off] at ok ⊢
    unfold StopTimer.buildPulse
    dsimp only
    split
    · exact hands off
    · exact hands off

theorem energize_timer {r : Request} {origin : Origin} {duty : U16} {now : U32}
    (ok : (m.energize hw 0 r origin duty now).1 = .ok) :
    (m.program hw r origin now).1 = true ∧
      (m.energize hw 0 r origin duty now).2.timer = { (m.program hw r origin now).2.timer with line := true } := by
  have still : m.elapse 0 = m := rfl
  unfold energize at ok ⊢
  rw [still] at ok ⊢
  dsimp only at ok ⊢
  split at ok
  · contradiction
  rename_i armed
  rw [if_neg armed]
  split at ok
  · contradiction
  rename_i ready
  rw [if_neg ready]
  split at ok
  · contradiction
  rename_i applied
  rw [if_neg applied]
  split at ok
  · contradiction
  rename_i driven
  rw [if_neg driven]
  refine ⟨not_not.mp armed, ?_⟩
  have committed := (commitArm_ok (not_not.mp ready).1).1
  have again := (commitArm_ok (not_not.mp driven).1).1
  rw [again]
  unfold apply
  dsimp only
  rw [committed]

theorem refreshRest_sound (sound : m.Sound hw) : (m.refreshRest hw m.clock).Sound hw :=
  ((Kept.refl sound).same (refreshRest_outline m m.clock)).sound (refreshRest_steady sound.quiet).quiet

theorem takesOver_on (obeys : Cuts hw) (quiet : m.Quiet hw) {r : Request} {now : U32}
    (ok : (m.takesOver hw r now).1 = true) (takes : m.origin r ≠ .off) : hw.isDisabled m.bridge = false := by
  unfold takesOver at ok
  unfold Device.origin at takes
  by_cases brake : m.build.preloadActive = true
  · rw [if_pos brake] at ok
    by_cases released : ¬ hw.isBraking m.bridge
    · rw [if_pos released] at ok
      contradiction
    · exact obeys.brakes _ (not_not.mp released)
  rw [if_neg brake] at ok takes
  by_cases approach : m.fromApproach r = true
  · rw [if_pos approach] at ok
    by_cases unmatched : ¬ hw.matchesPlan 0 m.drive.tim3 m.bridge
    · rw [if_pos unmatched] at ok
      contradiction
    unfold fromApproach at approach
    have active := ((Bool.and_eq_true _ _).mp ((Bool.and_eq_true _ _).mp approach).1).1
    exact obeys.drives _ _ (not_not.mp unmatched) (quiet.pressing active).2.1
  · rw [if_neg approach] at takes
    contradiction

theorem takesOver_kept (obeys : Cuts hw) (sound : m.Sound hw) (r : Request) (now : U32) :
    Kept hw m (m.takesOver hw r now).2 := by
  unfold takesOver
  by_cases brake : m.build.preloadActive = true
  · rw [if_pos brake]
    by_cases released : ¬ hw.isBraking m.bridge
    · rw [if_pos released]
      exact .refl sound
    · rw [if_neg released]
      exact commitArm_kept obeys sound
  rw [if_neg brake]
  by_cases approach : m.fromApproach r = true
  · rw [if_pos approach]
    by_cases unmatched : ¬ hw.matchesPlan 0 m.drive.tim3 m.bridge
    · rw [if_pos unmatched]
      exact .refl sound
    · rw [if_neg unmatched]
      exact commitArm_kept obeys sound
  · rw [if_neg approach]
    exact .refl sound

theorem recordPulseEnd_counts (m : Device Bridge) (now : U32) (reason : EndReason) :
    (m.recordPulseEnd now reason).timer = m.timer ∧ (m.recordPulseEnd now reason).time = m.time := by
  unfold recordPulseEnd
  split
  · exact ⟨rfl, rfl⟩
  · exact ⟨rfl, rfl⟩

theorem chargePreload_counts (m : Device Bridge) (now : U32) :
    (m.chargePreload now).timer = m.timer ∧ (m.chargePreload now).time = m.time := by
  unfold chargePreload
  dsimp only
  split
  · exact ⟨rfl, rfl⟩
  · exact ⟨rfl, rfl⟩

theorem giveWay_counts (m : Device Bridge) (r : Request) (now : U32) :
    (m.giveWay r now).timer = m.timer ∧ (m.giveWay r now).time = m.time := by
  unfold giveWay
  dsimp only
  rw [(chargePreload_counts _ now).1, (chargePreload_counts _ now).2]
  by_cases approach : m.fromApproach r = true
  · rw [if_pos approach]
    exact recordPulseEnd_counts m now .reduced
  · rw [if_neg approach]
    exact ⟨rfl, rfl⟩

def planned (taken : Device Bridge) (r : Request) (sequence : U64) (received now : U32) (duty : U16) : Device Bridge :=
  ((taken.giveWay r now).book r sequence received now).plan r duty now

theorem startBuildSegment_energizes {token : U32} {r : Request} {sequence : U64} {received : U32}
    (ok : (m.startBuildSegment hw token r sequence received).1 = .ok) {duty : U16} {taken : Device Bridge}
    (takes : (m.refreshRest hw m.clock).takesOver hw r m.clock = (true, taken))
    (plans : planPress r.command = some duty) :
    m.startBuildSegment hw token r sequence received =
      (taken.planned r sequence received m.clock duty).energize hw 0 r (taken.origin r) duty m.clock := by
  unfold startBuildSegment startBuildSegmentAfter at ok ⊢
  dsimp only at ok ⊢
  rw [takes] at ok ⊢
  split at ok
  · contradiction
  rename_i admitted
  rw [if_neg admitted]
  split at ok
  · contradiction
  rename_i rested
  rw [if_neg rested]
  split at ok
  · contradiction
  rename_i fits
  rw [if_neg fits]
  split at ok
  · contradiction
  rename_i left
  rw [if_neg left, plans]
  rfl

theorem startBuildSegment_lit (obeys : Cuts hw) (sound : m.Sound hw) {token : U32} {r : Request} {sequence : U64}
    {received : U32} (ok : (m.startBuildSegment hw token r sequence received).1 = .ok) :
    Lit m (m.startBuildSegment hw token r sequence received).2 received := by
  obtain ⟨duty, taken, accepted⟩ := start_ok ok
  have energizes := startBuildSegment_energizes ok accepted.takes accepted.plans
  have energized := accepted.energized
  change Energized hw 0 r (taken.origin r) duty (taken.planned r sequence received m.clock duty)
    (m.startBuildSegment hw token r sequence received).2 at energized
  obtain ⟨programmed, timed⟩ := energize_timer ((congrArg Prod.fst energizes).symm.trans ok)
  have rested := refreshRest_sound sound
  have kept := takesOver_kept obeys rested r m.clock
  have quiet := (takesOver_calm obeys.toStaysOff rested.quiet r m.clock).quiet
  obtain ⟨timer, same⟩ := takesOver_ok (congrArg Prod.fst accepted.takes)
  have moved : ((m.refreshRest hw m.clock).takesOver hw r m.clock).2 = taken := congrArg Prod.snd accepted.takes
  rw [moved] at kept quiet same
  have held := kept.sound quiet
  obtain ⟨keeps, stays⟩ := giveWay_counts taken r m.clock
  have time : (taken.planned r sequence received m.clock duty).time = m.time :=
    stays.trans (kept.time.trans (congrArg Prod.fst (refreshRest_outline m m.clock)))
  have hands : handsOver (taken.origin r) (taken.planned r sequence received m.clock duty).timer := by
    intro takes
    change (taken.giveWay r m.clock).timer.initialized = true ∧ (taken.giveWay r m.clock).timer.interrupts = true
    rw [keeps]
    have on : hw.isDisabled taken.bridge = false := by
      have bridge : taken.bridge = (m.refreshRest hw m.clock).bridge := by rw [same]
      have origin : taken.origin r = (m.refreshRest hw m.clock).origin r := by
        rw [same]
        rfl
      rw [bridge]
      rw [origin] at takes
      exact takesOver_on obeys rested.quiet (congrArg Prod.fst accepted.takes) takes
    have counting := (held.powered on).counting
    exact ⟨((Bool.and_eq_true _ _).mp counting.healthy).1, counting.interrupts⟩
  have scheduled := program_scheduled programmed hands
  rw [← energizes] at timed
  have whole := lease_left accepted.recent
  generalize (m.startBuildSegment hw token r sequence received).2 = s at energized timed ⊢
  have later : s.time = m.time := (congrArg Device.time energized.same).trans time
  have deadline : s.build.receiveDeadlineMs = received + leaseMs :=
    congrArg (fun m : Device Bridge => m.build.receiveDeadlineMs) energized.same
  have waits : s.pending = none := (congrArg Device.pending energized.same).trans energized.idle
  have clock : s.clock = m.clock := congrArg (fun time => stamp 32 (time / 10)) later
  have close : (received + leaseMs - m.clock).toNat ≤ 130 := by omega
  refine ⟨later, ?_, age_le accepted.recent, ?_⟩
  swap
  · rw [deadline]
    exact Nat.le_of_eq whole
  by_cases approach : r.phase = .approach
  · have running := scheduled.approach approach
    rw [← timed] at running
    refine ⟨waits, running.armed, running.counting, ?_, ?_, ?_⟩
    · intro single
      rw [running.repeats] at single
      contradiction
    · rw [deadline]
      have when : millis s.time = m.clock := clock
      have shorter :
          (taken.planned r sequence received m.clock duty).leased m.clock ≤ received + leaseMs - m.clock := by
        unfold leased
        split
        · rename_i less
          exact BitVec.le_of_lt less
        · exact BitVec.le_refl _
      apply running.before
      · rw [when]
        exact shorter
      · rw [when]
        omega
    · rw [deadline, clock]
      exact close
  · have pulsed := energized.programmed.pulse approach
    obtain ⟨initialized, interrupts⟩ := scheduled.pulse approach
    have line : s.timer.line = true := by rw [timed]
    rw [show (taken.planned r sequence received m.clock duty).build.hardMs = r.hardMs from if_neg approach] at pulsed
    obtain ⟨_, _, admitted⟩ := accepted.fits
    rw [if_neg approach] at admitted
    obtain ⟨fits, short⟩ := admitted
    obtain ⟨two, _, hard⟩ := pulse_lengths fits
    have less : r.hardMs.toNat < (leaseMs - (m.clock - received)).toNat := short
    have left : received + leaseMs - m.clock = leaseMs - (m.clock - received) := by
      rw [sub_sub_eq_add_sub, add_comm]
    rw [← left] at less
    obtain ⟨counting, lead⟩ := pulsed.counts (by omega) (by omega) (by rw [timed]; exact initialized)
      (by rw [timed]; exact interrupts) line
    refine ⟨waits, energized.clear.1, counting, ?_, ?_, ?_⟩
    · intro _
      have ended : s.build.preloadActive = false :=
        (congrArg (fun m : Device Bridge => m.build.preloadActive) energized.same).trans (chargePreload_preload m.clock)
      have phase : s.build.phase = r.phase := congrArg (fun m : Device Bridge => m.build.phase) energized.same
      unfold Device.renewable
      rw [ended, phase, decide_eq_false approach, Bool.and_false]
      rfl
    · have when : millis s.time = m.clock := clock
      unfold StopTimer.Before
      rw [deadline, lead, when]
      omega
    · rw [deadline, clock]
      exact close

theorem startBuildSegment_kept (obeys : Cuts hw) (sound : m.Sound hw) (token : U32) (r : Request) (sequence : U64)
    (received : U32) :
    Kept hw m (m.startBuildSegment hw token r sequence received).2 ∨
      (m.startBuildSegment hw token r sequence received).1 = .ok := by
  have time : (m.startBuildSegment hw token r sequence received).2.time = m.time :=
    ((startBuildSegment_outcome obeys.toStaysOff sound.quiet token r sequence received).steady sound.quiet).time
  have aborted (k : Device Bridge) : hw.isDisabled (k.abort hw .hardware).bridge = true := recordedOff_dark obeys k _ _
  unfold startBuildSegment startBuildSegmentAfter energize at time ⊢
  dsimp only at time ⊢
  by_cases refused : m.refuses token r sequence
  · rw [if_pos refused]
    exact .inl (.refl sound)
  rw [if_neg refused] at time ⊢
  split at time
  · rename_i unfit
    rw [if_pos unfit]
    exact .inl (.dark time (aborted _))
  rename_i rested
  rw [if_neg rested]
  split at time
  · rename_i wrong
    rw [if_pos wrong]
    exact .inl (.dark time (aborted _))
  rename_i taken
  rw [if_neg taken]
  split at time
  · rename_i over_
    rw [if_pos over_]
    exact .inl (.dark time (aborted _))
  rename_i left
  rw [if_neg left]
  split at time
  · exact .inl (.dark time (aborted _))
  split at time
  · rename_i failed
    rw [if_pos failed]
    exact .inl (.dark time (aborted _))
  rename_i armed
  rw [if_neg armed]
  split at time
  · rename_i lost
    rw [if_pos lost]
    exact .inl (.dark time (aborted _))
  rename_i ready
  rw [if_neg ready]
  split at time
  · rename_i failed
    rw [if_pos failed]
    exact .inl (.dark time (aborted _))
  rename_i applied
  rw [if_neg applied]
  split at time
  · rename_i lost
    rw [if_pos lost]
    exact .inl (.dark time (aborted _))
  rename_i driven
  rw [if_neg driven]
  exact .inr rfl

/-! ### Whole runs -/

def frame : DriveCall → Option U32
  | .startSegment _ _ _ received _ => some received
  | .refreshFeedback _ _ received _ => some received
  | _ => none

/-- A turn whose call was accepted with its frame. -/
def Fed (hw : Hardware Bridge) (turn : Turn (Device Bridge) Event) (received : U32) : Prop :=
  ∃ call, turn.event = .drive call ∧ frame call = some received ∧ (driveCall hw call turn.before).1.result = .ok

def raised (m : Device Bridge) : Bool := m.timer.line && m.timer.interrupts && m.timer.flagged

/-- An interrupt that is asked for runs before the next count; every other order of events may happen. -/
def prompt (m : Device Bridge) : Event → Prop
  | .tick => m.raised = false
  | _ => True

instance promptDecidable (m : Device Bridge) : (event : Event) → Decidable (prompt m event)
  | .tick => inferInstanceAs (Decidable (_ = _))
  | .drive _ | .disable | .shown | .post .. | .service _ | .guardOutput | .interrupt => .isTrue trivial

theorem drive_lit (obeys : Cuts hw) (sound : m.Sound hw) (call : DriveCall) :
    Kept hw m (driveCall hw call m).2 ∨
      ∃ received, frame call = some received ∧ (driveCall hw call m).1.result = .ok ∧
        Lit m (driveCall hw call m).2 received := by
  cases call with
  | beginBuild now => exact .inl (beginBuild_kept sound)
  | startSegment token request sequence received now =>
    rcases startBuildSegment_kept obeys sound token request sequence received with kept | ok
    · exact .inl kept
    · exact .inr ⟨received, rfl, ok, startBuildSegment_lit obeys sound ok⟩
  | endSegment token now => exact .inl (endBuildSegment_kept obeys sound token)
  | refreshFeedback token sequence received now =>
    rcases refreshBuildFeedback_kept obeys sound token sequence received with kept | ⟨ok, lit⟩
    · exact .inl kept
    · exact .inr ⟨received, rfl, ok, lit⟩
  | _ => exact .inl (.refl sound)

/-- Every event but a count keeps the output's deadline, ends the output, or brings a frame. -/
theorem step_lit (obeys : Cuts hw) (sound : m.Sound hw) {event : Event} (still : event ≠ .tick) :
    Kept hw m (m.step hw event) ∨
      ∃ received, Fed hw ⟨m, event, m.step hw event⟩ received ∧ Lit m (m.step hw event) received := by
  cases event with
  | drive call =>
    rcases drive_lit obeys sound call with kept | ⟨received, framed, ok, lit⟩
    · exact .inl kept
    · exact .inr ⟨received, ⟨call, rfl, framed, ok⟩, lit⟩
  | disable => exact .inl (disable_kept obeys sound.quiet)
  | shown => exact .inl (refreshRest_kept sound m.clock)
  | post token request sequence received =>
    exact .inl (acceptBuildPost_kept obeys sound token request sequence received)
  | service now => exact .inl (service_kept obeys sound now)
  | guardOutput => exact .inl (guardOutput_kept obeys sound)
  | interrupt => exact .inl (irqHandler_kept obeys sound)
  | tick => exact absurd rfl still

theorem step_sound (obeys : Cuts hw) (sound : m.Sound hw) {event : Event} (still : event ≠ .tick) :
    (m.step hw event).Sound hw := by
  have quiet := step_quiet obeys.toStaysOff sound.quiet event
  rcases step_lit obeys sound still with kept | ⟨received, _, lit⟩
  · exact kept.sound quiet
  · exact ⟨quiet, fun _ => lit.powered⟩

/-- A count takes from the lead what it takes from the deadline. -/
theorem Powered.tick (powered : m.Powered) (calm : m.raised = false) :
    (m.elapse 1).Powered ∧ (m.elapse 1).time / 10 + (m.build.receiveDeadlineMs - (m.elapse 1).clock).toNat =
      m.time / 10 + (m.build.receiveDeadlineMs - m.clock).toNat := by
  have clear : m.timer.flagged = false := by
    rw [← powered.counting.asks]
    exact calm
  obtain ⟨counting, lead, ahead⟩ := powered.counting.tick clear
  obtain ⟨receive, nearer, moved⟩ := powered.receive.tick lead ahead
  have single : m.timer.tick.onePulse = m.timer.onePulse := by
    unfold StopTimer.tick
    split_ifs <;> rfl
  refine ⟨⟨powered.idle, ?_, counting, ?_, receive, ?_⟩, moved⟩
  · change m.timer.tick.armed = true
    rw [StopTimer.tick_armed]
    exact powered.armed
  · change m.timer.tick.onePulse = true → _
    rw [single]
    exact powered.single
  · exact Nat.le_trans nearer powered.near

/-- An output that is on has a frame behind it, and what is left of its deadline does not outlast that frame. -/
structure Dated (hw : Hardware Bridge) (past : List (Turn (Device Bridge) Event)) (m : Device Bridge) : Prop where
  sound : m.Sound hw
  fed : hw.isDisabled m.bridge = false → ∃ turn ∈ past, ∃ received, Fed hw turn received ∧
    (turn.before.clock - received).toNat ≤ 20 ∧
    m.time / 10 + (m.build.receiveDeadlineMs - m.clock).toNat + (turn.before.clock - received).toNat ≤
      turn.before.time / 10 + 130

variable {past : List (Turn (Device Bridge) Event)}

theorem dated_step (obeys : Cuts hw) (dated : Dated hw past m) {event : Event} (admitted : prompt m event) :
    Dated hw (⟨m, event, m.step hw event⟩ :: past) (m.step hw event) := by
  by_cases tick : event = .tick
  · subst tick
    refine ⟨⟨tick_steady dated.sound.quiet, fun on => ((dated.sound.powered on).tick admitted).1⟩, fun on => ?_⟩
    obtain ⟨turn, listed, received, fed, recent, left⟩ := dated.fed on
    refine ⟨turn, List.mem_cons_of_mem _ listed, received, fed, recent, ?_⟩
    have moved := ((dated.sound.powered on).tick admitted).2
    change (m.elapse 1).time / 10 + (m.build.receiveDeadlineMs - (m.elapse 1).clock).toNat + _ ≤ _
    rw [moved]
    exact left
  · refine ⟨step_sound obeys dated.sound tick, fun on => ?_⟩
    rcases step_lit obeys dated.sound tick with kept | ⟨received, fed, lit⟩
    · obtain ⟨_, deadline, was⟩ := kept.powered on
      obtain ⟨turn, listed, received, fed, recent, left⟩ := dated.fed was
      refine ⟨turn, List.mem_cons_of_mem _ listed, received, fed, recent, ?_⟩
      have clock : (m.step hw event).clock = m.clock := congrArg (fun time => stamp 32 (time / 10)) kept.time
      rw [deadline, clock, kept.time]
      exact left
    · refine ⟨_, List.mem_cons_self, received, fed, lit.recent, ?_⟩
      have clock : (m.step hw event).clock = m.clock := congrArg (fun time => stamp 32 (time / 10)) lit.time
      have sum := lit.dated
      rw [clock, lit.time]
      dsimp only
      omega

theorem boots_dark (obeys : Cuts hw) (boots : Boots hw m) : hw.isDisabled m.bridge = true := by
  obtain ⟨clockValid, bridge, time, rfl⟩ := boots
  unfold initial
  dsimp only
  split
  · exact obeys.initializes _ (obeys.cuts _)
  · exact obeys.cuts _

theorem boots_dated (obeys : Cuts hw) (boots : Boots hw m) : Dated hw [] m := by
  have off := boots_dark obeys boots
  refine ⟨⟨boots_quiet obeys.toStaysOff boots, fun on => ?_⟩, fun on => ?_⟩
  · rw [off] at on
    contradiction
  · rw [off] at on
    contradiction

theorem run_dated (obeys : Cuts hw) (run : Run hw prompt past m) : Dated hw past m :=
  recorded_invariant (Dated hw) (fun _ boots => boots_dated obeys boots)
    (fun _ _ _ _ admitted dated => dated_step obeys dated admitted) run

/-- The frame behind an output is young, since its deadline is still ahead. -/
theorem Dated.recent (dated : Dated hw past m) (on : hw.isDisabled m.bridge = false) :
    m.timer.armed = true ∧ ∃ turn ∈ past, ∃ received, Fed hw turn received ∧
      (turn.before.clock - received).toNat ≤ 20 ∧
      m.time / 10 + (turn.before.clock - received).toNat < turn.before.time / 10 + 130 := by
  have powered := dated.sound.powered on
  obtain ⟨turn, listed, received, fed, recent, left⟩ := dated.fed on
  refine ⟨powered.armed, turn, listed, received, fed, recent, ?_⟩
  obtain ⟨soon, _⟩ := powered.receive
  have clock : m.clock = millis m.time := rfl
  rw [clock] at left
  omega

/-- Whatever the program calls and in whichever order, a bridge that is on has an armed timer behind it, and a call was
accepted with a frame that is not 130 milliseconds old yet. -/
theorem output_dated (obeys : Cuts hw) (run : Run hw prompt past m) (on : hw.isDisabled m.bridge = false) :
    m.timer.armed = true ∧ ∃ turn ∈ past, ∃ received, Fed hw turn received ∧
      (turn.before.clock - received).toNat ≤ 20 ∧
      m.time / 10 + (turn.before.clock - received).toNat < turn.before.time / 10 + 130 :=
  (run_dated obeys run).recent on

/-- An approach that a second frame renews after five milliseconds, and five milliseconds more. -/
def driving : List Event :=
  approach 1 1 108000 :: (List.replicate 50 .tick ++ .drive (.refreshFeedback 1 2 108005 0) :: List.replicate 50 .tick)

def driven : Device Registers := (play (step (.board true)) ([], begun) driving).2

theorem output_dated_driving : driven.timer.armed = true ∧ ∃ past : List (Turn (Device Registers) Event),
    ∃ turn ∈ past, ∃ received, Fed (.board true) turn received ∧ (turn.before.clock - received).toNat ≤ 20 ∧
      driven.time / 10 + (turn.before.clock - received).toNat < turn.before.time / 10 + 130 := by
  obtain ⟨past, run⟩ := @warmed_run prompt (fun _ => rfl)
  have begins : Run (.board true) prompt (⟨warmed, .drive (.beginBuild 0), begun⟩ :: past) begun :=
    run.turn (.drive (.beginBuild 0)) (show prompt warmed (.drive (.beginBuild 0)) from trivial)
  have free : possible (step (.board true)) prompt begun driving = true := by decide +kernel
  have drives := @recorded_possible _ _ _ _ _ _ driving (_, begun) begins free
  rw [play_append] at drives
  have on : (Hardware.board true).isDisabled driven.bridge = false := by decide +kernel
  obtain ⟨armed, found⟩ := output_dated (board_cuts true) drives on
  exact ⟨armed, _, found⟩

end Device

end Sd700.Motor.BuildExecutor
