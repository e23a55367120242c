import Sd700.Machine.PressureSafety

/-! Deadlines and arriving samples. The supervision of a run is meant to let an expired deadline precede
whatever a new sample asks for; but it looks at the context only after the sample has been stored, so
the freshness of the sample before is no longer there to be judged. -/

namespace Sd700.Machine.Deadlines
open Logic.Run Build.Contract Motor.Interface Motor.Pulses Context Motion Handlers Outcomes Ownership
  PressureSafety
open Servo.State (MachineFault FaultDetail CommandType CommandResult Command Sample)

variable {F Exec : Type} (env : Platform F Exec)

def FreshnessPassed (now : U32) (w : System F Exec) : Prop :=
  w.config.pressureFreshnessMs < now - w.pressure.received

/-- Some deadline had passed before the delivery. -/
def DeadlinePassed (now : U32) (w : System F Exec) : Prop :=
  FreshnessPassed now w ∨ cycleExpired env now w = true ∨ feedbackExpired now w = true

def NamesPassed (now : U32) (w : System F Exec) (detail : FaultDetail) : Prop :=
  FreshnessPassed now w ∧ detail = .pressureTimeout ∨
    cycleExpired env now w = true ∧ detail = .cycleTimeout ∨
    feedbackExpired now w = true ∧ detail = .settleFeedbackTimeout

/-- A valid in-order sample below the raw limit, for a run of AutoTarget with its strategy. -/
structure Delivery (p : Sample) (w : System F Exec) : Prop where
  auto : env.policy = .autoTarget
  automatic : isAutomatic w.state = true
  enabled : w.pi.enabled = true
  valid : Valid p = true
  later : notLater p w = false
  forwards : receivedBefore env p w = false
  below : overLimit p w = false

/-- The sample does not hide a deadline: the call ends in FAULT for one that had passed, and starts
nothing. -/
def Reveals (p : Sample) (now : U32) (w : System F (Exec × List (StartCall × Bool))) : Prop :=
  DeadlinePassed env.logged now w →
    (handlePressureSample env.logged p now w).state = .fault ∧
      NamesPassed env.logged now w (handlePressureSample env.logged p now w).faultDetail ∧
      (handlePressureSample env.logged p now w).exec.2 = w.exec.2

variable {env} {p : Sample} {now : U32} {w : System F Exec}

theorem handlePressureSample_accepts (delivery : Delivery env p w) :
    handlePressureSample env p now w = acceptSample env p now (store p w) := by
  unfold handlePressureSample
  rw [if_neg (by rw [delivery.valid]; decide), if_neg (by rw [delivery.later]; decide),
    if_neg (by rw [delivery.forwards]; decide)]

/-- Once the check of the deadlines has faulted, the sample is done with. -/
theorem acceptSample_faulted (below : overLimit p w = false) (enabled : w.pi.enabled = true)
    (automatic : isAutomatic w.state = true) (faulted : (checkPressureSafety env now w).state = .fault) :
    acceptSample env p now w = checkPressureSafety env now w := by
  have stops : supervise env p now w = (false, checkPressureSafety env now w) := by
    unfold supervise
    rw [if_pos (by rw [enabled, automatic]; rfl)]
    dsimp only
    rw [if_neg (by simp only [beforeGate, faulted, reduceCtorEq, decide_false, Bool.and_false, Bool.false_and,
      Bool.false_eq_true, not_false_iff]), if_pos faulted]
  unfold acceptSample
  rw [if_neg (by rw [below]; decide), stops]

variable (env) in
theorem checkPressureSafety_stale (automatic : isAutomatic w.state = true) (stale : isPressureFresh now w = false) :
    checkPressureSafety env now w = enterFault env .pressureSensor .pressureTimeout now w := by
  unfold checkPressureSafety
  rw [if_neg (by rw [requires_automatic automatic]; decide), if_pos (by rw [stale]; rfl)]

theorem not_direct (automatic : isAutomatic w.state = true) : ¬ isDirectPulse w.state = true := by
  revert automatic
  cases w.state <;> decide

variable (env) in
theorem checkPressureSafety_cycle (automatic : isAutomatic w.state = true) (fresh : isPressureFresh now w = true)
    (expired : cycleExpired env now w = true) :
    checkPressureSafety env now w = enterFault env .motionTimeout .cycleTimeout now w := by
  unfold checkPressureSafety
  rw [if_neg (by rw [requires_automatic automatic]; decide), if_neg (by rw [fresh]; decide),
    if_neg (not_direct automatic), if_pos expired]

variable (env) in
theorem checkPressureSafety_feedback (automatic : isAutomatic w.state = true)
    (fresh : isPressureFresh now w = true) (running : cycleExpired env now w = false)
    (expired : feedbackExpired now w = true) :
    checkPressureSafety env now w = enterFault env .pressureSensor .settleFeedbackTimeout now w := by
  unfold checkPressureSafety
  rw [if_neg (by rw [requires_automatic automatic]; decide), if_neg (by rw [fresh]; decide),
    if_neg (not_direct automatic), if_neg (by rw [running]; decide), if_pos expired, checkContact_fault rfl]

theorem stoppedState_fault {s : MachineState} : stoppedState s = .fault → s = .fault := by
  cases s <;> decide

/-- A call on a fresh context that is not in FAULT does not end in FAULT for a pressure timeout. -/
theorem not_timeout {e : Event F} {c d : Core Exec} (outcome : Outcome env e now c d) (sound : c.state ≠ .fault)
    (fresh : Fresh now c) (unreported : ∀ f detail, e ≠ .reportFault f detail now) (fault : d.state = .fault) :
    d.faultDetail ≠ .pressureTimeout := by
  cases outcome with
  | kept x aside => exact absurd fault sound
  | faulted detail after x aside founded =>
    intro timeout
    rcases founded timeout with stale | ⟨f, detail, reported⟩
    · exact stale fresh
    · exact unreported f detail reported
  | refused detail next x request may aside untaken plain => exact plain
  | started next x request may aside taken =>
    have engages : Engages next := MayStart.engages may
    rw [show next = .fault from fault] at engages
    exact absurd engages (by decide)
  | settled x aside running => exact absurd fault (by simp only [settled, reduceCtorEq, not_false_iff])
  | held p x sample judges aside => exact absurd fault (by simp only [reduceCtorEq, not_false_iff])
  | rested x holding aside => exact absurd fault sound
  | stopped units command => exact absurd (stoppedState_fault fault) sound
  | booted boot => exact absurd fault (by simp only [reduceCtorEq, not_false_iff])
  | completed direct off => exact absurd fault (by simp only [reduceCtorEq, not_false_iff])
  | opened ticks settling delayed expired => exact absurd fault sound
  | configured idle => exact absurd fault sound
  | noted p sample invalid indifferent => exact absurd fault sound
  | spoiled p sample invalid =>
    show FaultDetail.pressureInvalid ≠ .pressureTimeout
    decide

def SampleStale (p : Sample) (now : U32) (w : System F Exec) : Prop :=
  w.config.pressureFreshnessMs < now - p.received

theorem fresh_of_not_stale (valid : Valid p = true) (recent : ¬ SampleStale p now w) :
    isPressureFresh now (store p w) = true := by
  have recent : now - p.received ≤ w.config.pressureFreshnessMs := BitVec.not_lt.mp recent
  exact Bool.and_eq_true_iff.mpr ⟨valid, decide_eq_true recent⟩

theorem stale_of_stale (stale : SampleStale p now w) : isPressureFresh now (store p w) = false := by
  simp only [isPressureFresh, Bool.and_eq_false_iff, decide_eq_false_iff_not]
  exact .inr (BitVec.not_le.mpr stale)

/-- A sample hides a deadline exactly when it is fresh and only the freshness of the sample before had
passed, or when it is stale itself and that freshness had not passed. -/
theorem reveals_iff {env : Platform F Exec} {p : Sample} {now : U32}
    {w : System F (Exec × List (StartCall × Bool))} (delivery : Delivery env.logged p w) :
    Reveals env p now w ↔ ¬ DeadlinePassed env.logged now w ∨ SampleStale p now w ∧ FreshnessPassed now w ∨
      ¬ SampleStale p now w ∧ (cycleExpired env.logged now w = true ∨ feedbackExpired now w = true) := by
  have automatic := delivery.automatic
  have accepts : handlePressureSample env.logged p now w =
      acceptSample env.logged p now (store p w) := handlePressureSample_accepts delivery
  -- A fault of the check is what the whole call leaves.
  have faults {f : MachineFault} {detail : FaultDetail} (check :
      checkPressureSafety env.logged now (store p w) =
        enterFault env.logged f detail now (store p w)) :
      handlePressureSample env.logged p now w = enterFault env.logged f detail now (store p w) := by
    rw [accepts, acceptSample_faulted (w := store p w) delivery.below delivery.enabled automatic
      (by rw [check]; rfl), check]
  have quiet (f : MachineFault) (detail : FaultDetail) :
      (enterFault env.logged f detail now (store p w)).exec.2 = w.exec.2 := by
    rw [enterFault_exec]
    rfl
  unfold Reveals
  by_cases stale : SampleStale p now w
  · have check := checkPressureSafety_stale env.logged (w := store p w) automatic
      (stale_of_stale stale)
    rw [faults check]
    constructor
    · intro reveals
      by_cases passed : DeadlinePassed env.logged now w
      · rcases (reveals passed).2.1 with ⟨old, -⟩ | ⟨-, other⟩ | ⟨-, other⟩
        · exact .inr (.inl ⟨stale, old⟩)
        · exact absurd (show FaultDetail.pressureTimeout = .cycleTimeout from other) (by decide)
        · exact absurd (show FaultDetail.pressureTimeout = .settleFeedbackTimeout from other) (by decide)
      · exact .inl passed
    · rintro (none | ⟨-, old⟩ | ⟨recent, -⟩) passed
      · exact absurd passed none
      · exact ⟨rfl, .inl ⟨old, rfl⟩, quiet _ _⟩
      · exact absurd stale recent
  · have fresh := fresh_of_not_stale delivery.valid stale
    cases cycle : cycleExpired env.logged now w with
    | true =>
      have check := checkPressureSafety_cycle env.logged (w := store p w) automatic fresh cycle
      rw [faults check]
      constructor
      · exact fun _ => .inr (.inr ⟨stale, .inl rfl⟩)
      · exact fun _ _ => ⟨rfl, .inr (.inl ⟨cycle, rfl⟩), quiet _ _⟩
    | false =>
      cases feedback : feedbackExpired now w with
      | true =>
        have check := checkPressureSafety_feedback env.logged (w := store p w) automatic
          fresh cycle feedback
        rw [faults check]
        constructor
        · exact fun _ => .inr (.inr ⟨stale, .inr rfl⟩)
        · exact fun _ _ => ⟨rfl, .inr (.inr ⟨feedback, rfl⟩), quiet _ _⟩
      | false =>
        -- Only the freshness of the sample before can have passed, and nothing looks at it any more.
        constructor
        · intro reveals
          by_cases passed : DeadlinePassed env.logged now w
          · obtain ⟨fault, named, -⟩ := reveals passed
            have detail : (handlePressureSample env.logged p now w).faultDetail = .pressureTimeout := by
              rcases named with ⟨-, detail⟩ | ⟨expired, -⟩ | ⟨expired, -⟩
              · exact detail
              · exact absurd (cycle.symm.trans expired) Bool.false_ne_true
              · exact absurd (feedback.symm.trans expired) Bool.false_ne_true
            rw [accepts] at fault detail
            have outcome := acceptSample_outcome env.logged now (w := store p w)
              rfl delivery.valid rfl
            apply absurd detail
            apply not_timeout outcome _ (fresh_core fresh) _ fault
            · intro state
              rw [show w.state = .fault from state] at automatic
              exact Bool.false_ne_true automatic
            · intro f detail same
              cases same
          · exact .inl passed
        · rintro (none | ⟨old, -⟩ | ⟨-, expired | expired⟩) passed
          · exact absurd passed none
          · exact absurd old stale
          · exact absurd expired Bool.false_ne_true
          · exact absurd expired Bool.false_ne_true

/-! ### A run of AutoTarget that hides a deadline -/

def autoTargetBench : Platform ℚ Motor.Locked.State :=
  ⟨.autoTarget, .rational, Motor.Locked.pulses⟩

/-- A run that starts in contact and opens its gate; the sample it rests on is received at 0. -/
def openedRun : List (Event ℚ) :=
  [.completeBoot true 0, .configureForcePi ⟨8, 0, -800, 1200, 0, 0, 1⟩ 0, .handleCommand ⟨.setTarget, 100⟩ 0,
    .handlePressureSample ⟨1, 0, 50, [], 50, true, true⟩ 0, .handleCommand ⟨.autoStart, 0⟩ 0, .tick 60]

def openedState : System ℚ (Motor.Locked.State × List (StartCall × Bool)) :=
  (playFrom autoTargetBench autoTargetConfig openedRun).2

def lateSample : Sample :=
  ⟨2, 300, 50, [], 50, true, true⟩

theorem lateSample_delivery : Delivery autoTargetBench.logged lateSample openedState where
  auto := rfl
  automatic := by decide +kernel
  enabled := by decide +kernel
  valid := by decide +kernel
  later := by decide +kernel
  forwards := by decide +kernel
  below := by decide +kernel

theorem reveals_iff_late : Reveals autoTargetBench lateSample 300 openedState ↔
    ¬ DeadlinePassed autoTargetBench.logged 300 openedState ∨
      SampleStale lateSample 300 openedState ∧ FreshnessPassed 300 openedState ∨
      ¬ SampleStale lateSample 300 openedState ∧
        (cycleExpired autoTargetBench.logged 300 openedState = true ∨ feedbackExpired 300 openedState = true) :=
  reveals_iff lateSample_delivery

/-- The freshness limit of 200 ms had passed, and the late sample starts a correction all the same. -/
theorem hidden_deadline : ¬ ∀ past w p now, Reachable autoTargetBench.logged past w →
    Delivery autoTargetBench.logged p w → Reveals autoTargetBench p now w := by
  intro reveals
  have passed : FreshnessPassed 300 openedState := by
    unfold FreshnessPassed
    decide +kernel
  have fault := (reveals _ _ lateSample 300 (reachable_playFrom autoTargetBench autoTargetConfig openedRun)
    lateSample_delivery (.inl passed)).1
  have starts : (handlePressureSample autoTargetBench.logged lateSample 300 openedState).state = .autoPulse := by
    decide +kernel
  exact absurd (starts.symm.trans fault) (by decide)

end Sd700.Machine.Deadlines
