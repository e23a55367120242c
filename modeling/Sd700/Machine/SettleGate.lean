import Sd700.Machine.Ownership

/-! The settle gate. Within an automatic run, a request is followed by a settle period that has to
expire at a tick, and only a sample after that tick leads to the next request. A position in a run is
the record of the turns up to it, newest first. -/

namespace Sd700.Machine.SettleGate
open Logic.Run Logic.Modular Build.Contract Motor.Interface Motor.Pulses Context Motion Handlers Outcomes
  Ownership
open Servo.State (CommandType CommandResult Command Sample)

variable {F Exec : Type}

abbrev History (F Exec : Type) := List (Turn (System F (Exec × List (StartCall × Bool))) (Event F))

variable (env : Platform F Exec)

def clock : History F Exec → U32
  | [] => 0
  | turn :: _ => instant turn.event

def storedSequence : History F Exec → U64
  | [] => 0
  | turn :: _ => turn.before.pressure.sequence

def StartsMotor (turn : Turn (System F (Exec × List (StartCall × Bool))) (Event F)) : Prop :=
  turn.after.exec.2 ≠ turn.before.exec.2

def Quiet (turn : Turn (System F (Exec × List (StartCall × Bool))) (Event F)) : Prop :=
  ¬ StartsMotor turn ∧ env.executor.Idle turn.after.exec.1

/-- The settle delay runs since the position `entered`, with the output off. -/
inductive Settling : History F Exec → History F Exec → Prop
  | entered (turn : Turn (System F (Exec × List (StartCall × Bool))) (Event F)) (past : History F Exec)
      (quiet : Quiet env turn) (settles : turn.after.state = .autoSettle)
      (waits : turn.after.settlePhase = .waitDelay) (entry : turn.after.stateEnteredMs = instant turn.event) :
      Settling (turn :: past) (turn :: past)
  | waits {past since : History F Exec} (turn : Turn (System F (Exec × List (StartCall × Bool))) (Event F))
      (settling : Settling past since) (quiet : Quiet env turn) (settles : turn.after.state = .autoSettle) :
      Settling (turn :: past) since

/-- A tick has found the delay expired, at the position `gate`; the output is still off. -/
inductive Opened : History F Exec → History F Exec → History F Exec → Prop
  | expires {past since : History F Exec} (turn : Turn (System F (Exec × List (StartCall × Bool))) (Event F))
      (settling : Settling env past since) (ticks : ∃ now, turn.event = .tick now)
      (expired : turn.before.config.settleDelayMs ≤ instant turn.event - clock since)
      (quiet : Quiet env turn) (settles : turn.after.state = .autoSettle) :
      Opened (turn :: past) since (turn :: past)
  | waits {past since gate : History F Exec} (turn : Turn (System F (Exec × List (StartCall × Bool))) (Event F))
      (opened : Opened past since gate) (quiet : Quiet env turn) (settles : turn.after.state = .autoSettle) :
      Opened (turn :: past) since gate

def Classifies (turn : Turn (System F (Exec × List (StartCall × Bool))) (Event F)) (gate : History F Exec) : Prop :=
  ∃ p now, turn.event = .handlePressureSample p now ∧ Valid p = true ∧ storedSequence gate < p.sequence ∧
    (env.policy.isAutoTarget = true → After p.received (clock gate))

inductive Holding : History F Exec → Prop
  | holds {past since gate : History F Exec} (turn : Turn (System F (Exec × List (StartCall × Bool))) (Event F))
      (opened : Opened env past since gate) (classifies : Classifies env turn gate) (quiet : Quiet env turn)
      (state : turn.after.state = .autoHold) : Holding (turn :: past)
  | stays {past : History F Exec} (turn : Turn (System F (Exec × List (StartCall × Bool))) (Event F))
      (holding : Holding past) (quiet : Quiet env turn) (state : turn.after.state = .autoHold) :
      Holding (turn :: past)

/-- A start within a run comes right after the sample of an open gate, or from HOLD, which such a sample led to. -/
def Waited (turn : Turn (System F (Exec × List (StartCall × Bool))) (Event F)) (earlier : History F Exec) : Prop :=
  (∃ since gate, Opened env earlier since gate ∧ Classifies env turn gate) ∨ Holding env earlier

structure Gate (past : History F Exec) (c : Core (Exec × List (StartCall × Bool))) : Prop where
  delay : c.state = .autoSettle → c.settlePhase = .waitDelay →
    ∃ since, Settling env past since ∧ c.stateEnteredMs = clock since
  sample : c.state = .autoSettle → c.settlePhase = .waitSample →
    ∃ since gate, Opened env past since gate ∧ c.settleGateSequence = storedSequence gate ∧
      (env.policy.isAutoTarget = true → c.settleFeedbackAfterMs = clock gate)
  hold : c.state = .autoHold → Holding env past
  strategy : env.policy.isAutoTarget = true → isAutomatic c.state = true → c.piEnabled = true

variable {env} {past : History F Exec} {c d : Core (Exec × List (StartCall × Bool))}
  {w : System F (Exec × List (StartCall × Bool))} {e : Event F} {now : U32}

theorem Gate.outside (other : isAutomatic c.state = false) : Gate env past c := by
  have never {P : Prop} {s : MachineState} (state : c.state = s) (automatic : isAutomatic s = true) : P := by
    rw [state, automatic] at other
    exact absurd other.symm Bool.false_ne_true
  constructor
  · exact fun settling _ => never settling rfl
  · exact fun settling _ => never settling rfl
  · exact fun holding => never holding rfl
  · intro _ automatic
    exact never rfl automatic

theorem Gate.arrives (gate : Gate env past (core w)) (arrives : Arrives env.logged e w c) :
    Gate env past c := by
  cases e with
  | handlePressureSample p now =>
    rcases arrives with rfl | ⟨-, -, -, rfl⟩
    · exact gate
    · exact ⟨gate.delay, gate.sample, gate.hold, gate.strategy⟩
  | _ =>
    obtain rfl : c = core w := arrives
    exact gate

theorem Arrives.settlePhase (arrives : Arrives env.logged e w c) : c.settlePhase = w.settlePhase := by
  cases e with
  | handlePressureSample p now =>
    rcases arrives with rfl | ⟨-, -, -, rfl⟩
    · rfl
    · rfl
  | _ =>
    obtain rfl : c = core w := arrives
    rfl

theorem Gate.classifies (gate : Gate env past c) {p : Sample}
    (turn : Turn (System F (Exec × List (StartCall × Bool))) (Event F)) (sample : turn.event = .handlePressureSample p now)
    (judges : Judges env.logged p c) : ∃ since opening, Opened env past since opening ∧ Classifies env turn opening := by
  obtain ⟨-, valid, settling, waiting, later, received⟩ := judges
  obtain ⟨since, opening, opened, sequence, tick⟩ := gate.sample settling waiting
  refine ⟨since, opening, opened, p, now, sample, valid, ?_, ?_⟩
  · rw [← sequence]
    exact later
  · intro auto
    rw [← tick auto]
    apply received auto
    apply gate.strategy auto
    rw [settling]
    rfl

theorem Gate.waited {turn : Turn (System F (Exec × List (StartCall × Bool))) (Event F)} (gate : Gate env past c)
    (answers : Answers env.logged turn.event now c) : Waited env turn past := by
  obtain ⟨p, sample, judges | ⟨-, -, holding⟩⟩ := answers
  · exact .inl (gate.classifies turn sample judges)
  · exact .inr (gate.hold holding)

theorem engages_other {s : MachineState} (engages : Engages s) : s ≠ .autoSettle ∧ s ≠ .autoHold := by
  revert engages
  cases s <;> decide

theorem Gate.carried {turn : Turn (System F (Exec × List (StartCall × Bool))) (Event F)} (gate : Gate env past c)
    (after : turn.after.state = d.state) (quiet : Rests d.state → Quiet env turn) (state : d.state = c.state)
    (phase : d.settlePhase = c.settlePhase) (sequence : d.settleGateSequence = c.settleGateSequence)
    (feedback : d.settleFeedbackAfterMs = c.settleFeedbackAfterMs)
    (entered : c.state = .autoSettle → d.stateEnteredMs = c.stateEnteredMs) (pi : d.piEnabled = c.piEnabled) :
    Gate env (turn :: past) d := by
  constructor
  · intro settling waiting
    have calm := quiet (.inr (.inr (.inl settling)))
    obtain ⟨since, running, entry⟩ := gate.delay (state.symm.trans settling) (phase.symm.trans waiting)
    exact ⟨since, .waits turn running calm (after.trans settling),
      (entered (state.symm.trans settling)).trans entry⟩
  · intro settling waiting
    have calm := quiet (.inr (.inr (.inl settling)))
    obtain ⟨since, opening, opened, stored, tick⟩ := gate.sample (state.symm.trans settling) (phase.symm.trans waiting)
    refine ⟨since, opening, .waits turn opened calm (after.trans settling), sequence.trans stored, ?_⟩
    intro auto
    exact feedback.trans (tick auto)
  · intro holding
    exact .stays turn (gate.hold (state.symm.trans holding)) (quiet (.inr (.inr (.inr (.inl holding)))))
      (after.trans holding)
  · intro auto automatic
    rw [pi]
    exact gate.strategy auto (state ▸ automatic)

theorem Gate.of_outcome (gate : Gate env past c) (arrives : Arrives env.logged e w c)
    (after : core (call env.logged w e) = d) (idle : Rests d.state → env.executor.Idle d.exec.1)
    (outcome : Outcome env.logged e (instant e) c d) : Gate env (⟨w, e, call env.logged w e⟩ :: past) d := by
  have state : (call env.logged w e).state = d.state := congrArg Core.state after
  have exec : (call env.logged w e).exec = d.exec := congrArg Core.exec after
  have quiet (log : d.exec.2 = c.exec.2) (rests : Rests d.state) : Quiet env ⟨w, e, call env.logged w e⟩ := by
    constructor
    · apply not_not.mpr
      show (call env.logged w e).exec.2 = w.exec.2
      rw [exec, log, (Arrives.same arrives).2.1]
    · show env.executor.Idle (call env.logged w e).exec.1
      rw [exec]
      exact idle rests
  cases outcome with
  | kept x aside =>
    exact gate.carried state (quiet (PulseExecutor.logged_aside aside)) rfl rfl rfl rfl (fun _ => rfl) rfl
  | faulted detail after x aside founded => exact .outside rfl
  | refused detail next x request may aside untaken plain => exact .outside rfl
  | started next x request may aside taken =>
    obtain ⟨notSettling, notHolding⟩ := engages_other (MayStart.engages may)
    constructor
    · exact fun settling _ => absurd settling notSettling
    · exact fun settling _ => absurd settling notSettling
    · exact fun holding => absurd holding notHolding
    · intro auto automatic
      rcases may with ⟨admits, -⟩ | ⟨⟨units, ⟨-, rfl⟩ | ⟨-, rfl⟩⟩, -⟩ | ⟨answers, -⟩
      · exact admits.2.2.2.2 auto
      · exact absurd (show false = true from automatic) Bool.false_ne_true
      · exact absurd (show false = true from automatic) Bool.false_ne_true
      · exact gate.strategy auto (Answers.automatic answers)
  | settled x aside running =>
    have log := PulseExecutor.logged_aside (aside.tail (.inl rfl))
    constructor
    · intro settling waiting
      exact ⟨_, .entered _ past (quiet log (.inr (.inr (.inl rfl)))) state (congrArg Core.settlePhase after)
        (congrArg Core.stateEnteredMs after), rfl⟩
    · intro _ waiting
      exact absurd waiting (by simp only [settled, reduceCtorEq, not_false_iff])
    · intro holding
      exact absurd holding (by simp only [settled, reduceCtorEq, not_false_iff])
    · intro auto _
      rcases running with automatic | admits
      · exact gate.strategy auto automatic
      · exact admits.2.2.2.2 auto
  | held p x sample judges aside =>
    have log := PulseExecutor.logged_aside (aside.tail (.inl rfl))
    have settling : c.state = .autoSettle := judges.2.2.1
    obtain ⟨since, opening, opened, classifies⟩ :=
      gate.classifies ⟨w, e, call env.logged w e⟩ sample judges
    constructor
    · intro state
      exact absurd state (by simp only [reduceCtorEq, not_false_iff])
    · intro state
      exact absurd state (by simp only [reduceCtorEq, not_false_iff])
    · intro _
      exact .holds _ opened classifies (quiet log (.inr (.inr (.inr (.inl rfl))))) state
    · intro auto _
      apply gate.strategy auto
      rw [settling]
      rfl
  | rested x holding aside =>
    have log : _ := PulseExecutor.logged_aside (aside.tail (.inl rfl))
    refine gate.carried state (quiet log) rfl rfl rfl rfl (fun _ => rfl) rfl
  | stopped units command => exact .outside (by cases c.state <;> rfl)
  | booted boot => exact .outside rfl
  | completed direct off => exact .outside rfl
  | opened ticks settling delayed expired =>
    have found : c = core w := by
      rw [ticks] at arrives
      exact arrives
    obtain ⟨since, running, entry⟩ := gate.delay settling delayed
    have calm := quiet rfl (.inr (.inr (.inl settling)))
    have opening : Opened env (⟨w, e, call env.logged w e⟩ :: past) since (⟨w, e, call env.logged w e⟩ :: past) := by
      apply Opened.expires _ running ⟨_, ticks⟩ _ calm (state.trans settling)
      rw [found] at expired entry
      rw [← entry]
      exact expired
    constructor
    · intro _ waiting
      exact absurd waiting (by simp only [reduceCtorEq, not_false_iff])
    · intro _ _
      refine ⟨since, _, opening, ?_, ?_⟩
      · rw [found]
        rfl
      · intro auto
        show (if env.policy.isAutoTarget = true then instant e else c.settleFeedbackAfterMs) = _
        rw [if_pos auto]
        rfl
    · intro holding
      exact absurd (settling.symm.trans holding) (by simp only [reduceCtorEq, not_false_iff])
    · intro auto automatic
      exact gate.strategy auto automatic
  | configured unengaged =>
    apply Gate.outside
    show isAutomatic c.state = false
    rw [unengaged]
    rfl
  | noted p sample invalid indifferent => exact .outside (Bool.or_eq_false_iff.mp indifferent).1
  | spoiled p sample invalid => exact .outside rfl

theorem gate_of_reachable (sound : env.executor.Sound) (reachable : Reachable env.logged past w) :
    Gate env past (core w) := by
  refine recorded_invariant (fun past w => Gate env past (core w)) ?_ ?_ reachable
  · rintro w ⟨before, config, now, rfl⟩
    apply Gate.outside
    show isAutomatic (initializeContext env.logged config now before).state = false
    rcases initializeContext_rest env.logged now config before with fault | boot
    · rw [fault]
      rfl
    · rw [boot]
      rfl
  · intro past w e recorded admitted gate
    have owned : Owned env.logged (core (call env.logged w e)) :=
      owned_of_reachable sound.logged (.turn e recorded admitted)
    by_cases fresh : Initializes e
    · cases e with
      | initializeContext config now =>
        apply Gate.outside
        show isAutomatic (initializeContext env.logged config now w).state = false
        rcases initializeContext_rest env.logged now config w with fault | boot
        · rw [fault]
          rfl
        · rw [boot]
          rfl
      | _ => exact absurd fresh id
    obtain ⟨c, arrives, outcome⟩ := call_outcome env.logged e fresh w
    apply Gate.of_outcome _ arrives rfl owned.off outcome
    exact gate.arrives arrives

theorem mayStart_of_starts (starts : StartsMotor ⟨w, e, call env.logged w e⟩) :
    ∃ c next, Arrives env.logged e w c ∧ MayStart env.logged e (instant e) next c := by
  by_cases fresh : Initializes e
  · cases e with
    | initializeContext config now => exact absurd (log_of_initializeContext config w) starts
    | _ => exact absurd fresh id
  obtain ⟨c, arrives, outcome⟩ := call_outcome env.logged e fresh w
  rcases log_of_outcome outcome with same | ⟨request, taken, next, may, -⟩
  · rw [(Arrives.same arrives).2.1] at same
    exact absurd same starts
  · exact ⟨c, next, arrives, may⟩

/-! ### Elapsed time -/

/-- The turns happen at times that never run back; the machine sees them wrapped to 32 bits. -/
def Clocked (time : History F Exec → ℕ) : History F Exec → Prop
  | [] => True
  | turn :: past =>
    instant turn.event = stamp 32 (time (turn :: past)) ∧ time past ≤ time (turn :: past) ∧ Clocked time past

def settleDelay : History F Exec → ℕ
  | [] => 0
  | turn :: _ => turn.before.config.settleDelayMs.toNat

theorem settling_clock {since : History F Exec} {time : History F Exec → ℕ} (settling : Settling env past since)
    (clocked : Clocked time past) : time since ≤ time past ∧ clock since = stamp 32 (time since) := by
  induction settling with
  | entered turn past quiet settles waits entry => exact ⟨le_rfl, clocked.1⟩
  | waits turn settling quiet settles ih =>
    obtain ⟨order, same⟩ := ih clocked.2.2
    exact ⟨order.trans clocked.2.1, same⟩

/-- The delay has passed on any clock, however often its readings have wrapped. -/
theorem opened_clock {since gate : History F Exec} {time : History F Exec → ℕ} (opened : Opened env past since gate)
    (clocked : Clocked time past) : time since + settleDelay gate ≤ time gate := by
  induction opened with
  | expires turn settling ticks expired quiet settles =>
    obtain ⟨order, same⟩ := settling_clock settling clocked.2.2
    have forwards := order.trans clocked.2.1
    have elapsed := stamp_sub_le (w := 32) forwards
    rw [clocked.1, same, BitVec.le_def] at expired
    show _ + turn.before.config.settleDelayMs.toNat ≤ _
    omega
  | waits turn opened quiet settles ih => exact ih clocked.2.2

/-- In every run, a start that is not the one of its own command has waited for the settle gate; a sample
delivered during the delay starts nothing; and the gate opens no earlier than the delay after the settle
began, on any clock. -/
theorem settle_gate {env : Platform F Exec} (sound : env.executor.Sound) {past : History F Exec}
    {w : System F (Exec × List (StartCall × Bool))} (reachable : Reachable env.logged past w) :
    (∀ later turn earlier, past = later ++ turn :: earlier → StartsMotor turn →
      Starts turn.event ∧ turn.before.state = .idle ∨ Waited env turn earlier) ∧
    (∀ later turn earlier, past = later ++ turn :: earlier → turn.before.state = .autoSettle →
      turn.before.settlePhase = .waitDelay → ¬ StartsMotor turn) ∧
    ∀ since gate time, Opened env past since gate → Clocked time past → time since + settleDelay gate ≤ time gate := by
  refine ⟨?_, ?_, fun since gate time opened clocked => opened_clock opened clocked⟩
  · rintro later ⟨before, e, after⟩ earlier rfl starts
    obtain ⟨run, same, -⟩ := reachable.at_turn
    dsimp only at same
    subst same
    obtain ⟨c, next, arrives, may⟩ := mayStart_of_starts starts
    have state : c.state = before.state := (Arrives.same arrives).1
    rcases may with ⟨⟨⟨units, asked⟩, idle, -⟩, -⟩ | ⟨⟨units, ⟨asked, -⟩ | ⟨asked, -⟩⟩, idle, -⟩ | ⟨answers, -⟩
    · exact .inl ⟨⟨units, _, .inl asked⟩, state.symm.trans idle⟩
    · exact .inl ⟨⟨units, _, .inr (.inl asked)⟩, state.symm.trans idle⟩
    · exact .inl ⟨⟨units, _, .inr (.inr asked)⟩, state.symm.trans idle⟩
    · exact .inr (((gate_of_reachable sound run).arrives arrives).waited answers)
  · rintro later ⟨before, e, after⟩ earlier rfl settling waiting starts
    obtain ⟨run, same, -⟩ := reachable.at_turn
    dsimp only at same settling waiting
    subst same
    obtain ⟨c, next, arrives, may⟩ := mayStart_of_starts starts
    have state : c.state = .autoSettle := (Arrives.same arrives).1.trans settling
    have phase : c.settlePhase = .waitDelay := (Arrives.settlePhase arrives).trans waiting
    rcases may with ⟨⟨-, idle, -⟩, -⟩ | ⟨-, idle, -⟩ | ⟨⟨p, -, judges | ⟨-, -, holding⟩⟩, -⟩
    · exact absurd (idle.symm.trans state) (by decide)
    · exact absurd (idle.symm.trans state) (by decide)
    · exact absurd (phase.symm.trans judges.2.2.2.1) (by decide)
    · exact absurd (holding.symm.trans state) (by decide)

/-- The approach ends on contact; the delay expires, and the next sample starts a correction. -/
def benchCorrection : List (Event ℚ) :=
  benchStart ++ [benchSample 2 150 5, .tick 15, benchSample 3 150 16]

theorem settle_gate_bench : (playFrom lockedBench benchConfig benchCorrection).2.state = .autoPulse ∧
    (∀ later turn earlier, (playFrom lockedBench benchConfig benchCorrection).1 = later ++ turn :: earlier →
      StartsMotor turn → Starts turn.event ∧ turn.before.state = .idle ∨ Waited lockedBench turn earlier) ∧
    (∀ later turn earlier, (playFrom lockedBench benchConfig benchCorrection).1 = later ++ turn :: earlier →
      turn.before.state = .autoSettle → turn.before.settlePhase = .waitDelay → ¬ StartsMotor turn) ∧
    ∀ since gate time, Opened lockedBench (playFrom lockedBench benchConfig benchCorrection).1 since gate →
      Clocked time (playFrom lockedBench benchConfig benchCorrection).1 → time since + settleDelay gate ≤ time gate := by
  constructor
  · decide +kernel
  · exact settle_gate Motor.Locked.pulses_sound (reachable_playFrom lockedBench benchConfig benchCorrection)

end Sd700.Machine.SettleGate
