import Sd700.Machine.Ownership

/-! Pressure supervision: what a delivered sample can do to a state that depends on the sensor, and when
a new sample hides a deadline that has already passed. -/

namespace Sd700.Machine.PressureSafety
open Logic.Run Logic.Modular Build.Contract Motor.Interface Motor.Pulses Context Motion Handlers Outcomes
  Ownership
open Servo.State (MachineFault FaultDetail CommandType CommandResult Command Sample)

variable {F Exec : Type} {env : Platform F Exec} {e : Event F} {now : U32} {c d : Core Exec}

def Supported (env : Platform F Exec) (c : Core Exec) : Prop :=
  requiresPressureSafety env.policy c.state = true → Valid c.pressure = true

theorem requires_automatic {s : MachineState} (automatic : isAutomatic s = true) :
    requiresPressureSafety env.policy s = true := by
  simp only [requiresPressureSafety, automatic, Bool.true_or]

theorem not_requires {s : MachineState} (rest : isAutomatic s = false) (direct : isDirectPulse s = false) :
    ¬ requiresPressureSafety env.policy s = true := by
  simp only [requiresPressureSafety, rest, direct, Bool.and_false, Bool.or_self, Bool.false_eq_true, not_false_iff]

/-- What may start the motor in a state that depends on the sensor has a valid sample. -/
theorem MayStart.valid {next : MachineState} (may : MayStart env e now next c)
    (requires : requiresPressureSafety env.policy next = true) : Valid c.pressure = true := by
  rcases may with ⟨admits, -⟩ | ⟨⟨units, direct⟩, -, -, fresh⟩ | ⟨⟨p, -, judges | ⟨stored, valid, -⟩⟩, -⟩
  · exact admits.2.2.1.1
  · have pressure : env.policy.directPressureRequired = true := by
      rcases direct with ⟨-, rfl⟩ | ⟨-, rfl⟩
      · exact (Bool.and_eq_true _ _ ▸ (Bool.or_eq_true _ _ ▸ requires).resolve_left Bool.false_ne_true).1
      · exact (Bool.and_eq_true _ _ ▸ (Bool.or_eq_true _ _ ▸ requires).resolve_left Bool.false_ne_true).1
    exact (fresh pressure).1
  · rw [judges.1]
    exact judges.2.1
  · rw [stored]
    exact valid

theorem Supported.of_outcome (supported : Supported env c) (outcome : Outcome env e now c d) :
    Supported env d := by
  have off (s : MachineState) (rest : isAutomatic s = false) (direct : isDirectPulse s = false) {P : Prop}
      (requires : requiresPressureSafety env.policy s = true) : P :=
    absurd requires (not_requires rest direct)
  cases outcome with
  | kept x aside => exact supported
  | faulted detail after x aside founded => exact off .fault rfl rfl
  | refused detail next x request may aside untaken plain => exact off .fault rfl rfl
  | started next x request may aside taken =>
    intro requires
    exact MayStart.valid (c := c) may requires
  | settled x aside running =>
    intro _
    rcases running with automatic | admits
    · exact supported (requires_automatic automatic)
    · exact admits.2.2.1.1
  | held p x sample judges aside =>
    intro _
    show Valid c.pressure = true
    rw [judges.1]
    exact judges.2.1
  | rested x holding aside => exact supported
  | stopped units command => exact off (stoppedState c.state) (by cases c.state <;> rfl) (by cases c.state <;> rfl)
  | booted boot => exact off .idle rfl rfl
  | completed direct idle => exact off .idle rfl rfl
  | opened ticks settling delayed expired => exact supported
  | configured idle => exact supported
  | noted p sample invalid indifferent => exact fun requires => absurd requires (Bool.eq_false_iff.mp indifferent)
  | spoiled p sample invalid => exact off .fault rfl rfl

theorem supported_of_reachable {past : List (Turn (System F Exec) (Event F))} {w : System F Exec}
    (reachable : Reachable env past w) : Supported env (core w) := by
  have initialized (config : Option MachineConfig) (now : U32) (before : System F Exec) :
      Supported env (core (initializeContext env config now before)) := by
    intro requires
    have state : (core (initializeContext env config now before)).state =
        (initializeContext env config now before).state := rfl
    rw [state] at requires
    rcases initializeContext_rest env now config before with rest | rest
    · rw [rest] at requires
      exact absurd requires (not_requires rfl rfl)
    · rw [rest] at requires
      exact absurd requires (not_requires rfl rfl)
  refine recorded_invariant (fun _ w => Supported env (core w)) ?_ ?_ reachable
  · rintro w ⟨before, config, now, rfl⟩
    exact initialized config now before
  · intro past w e _ _ supported
    by_cases fresh : Initializes e
    · cases e with
      | initializeContext config now => exact initialized config now w
      | _ => exact absurd fresh id
    obtain ⟨c, arrives, outcome⟩ := call_outcome env e fresh w
    apply Supported.of_outcome _ outcome
    cases e with
    | handlePressureSample p now =>
      rcases arrives with rfl | ⟨valid, -, -, rfl⟩
      · exact supported
      · exact fun _ => valid
    | _ =>
      obtain rfl : c = core w := arrives
      exact supported

/-- Only an invalid sample can take the place of the stored one in the middle of a call. -/
theorem pressure_of_outcome (outcome : Outcome env e now c d)
    (usable : ∀ p now, e = .handlePressureSample p now → Valid p = true) : d.pressure = c.pressure := by
  have never {p : Sample} {P : Prop} (sample : e = .handlePressureSample p now) (invalid : Valid p = false) : P := by
    rw [usable p now sample] at invalid
    exact absurd invalid.symm Bool.false_ne_true
  cases outcome with
  | noted p sample invalid indifferent => exact never sample invalid
  | spoiled p sample invalid => exact never sample invalid
  | _ => rfl

/-! ### Delivered samples -/

variable {w : System F (Exec × List (StartCall × Bool))} {p : Sample}

/-- What a delivered sample leaves: FAULT with the motor off and nothing started, the very same context,
or a valid later sample below the raw limit. -/
def Screened (env : Platform F Exec) (p : Sample) (w w' : System F (Exec × List (StartCall × Bool))) : Prop :=
  w'.state = .fault ∧ env.executor.Idle w'.exec.1 ∧ w'.exec.2 = w.exec.2 ∨
    p.sequence = w.pressure.sequence ∧ w' = w ∨
    Valid p = true ∧ w.pressure.sequence < p.sequence ∧
      (env.policy.isAutoTarget = true → Reached p.received w.pressure.received) ∧
      (w.config.rawOverpressureEnabled = true → p.raw < w.config.rawOverpressureLimitCounts) ∧ w'.pressure = p

/-- The stored sample stays, or is replaced by a valid one that is later. -/
def Advances (env : Platform F Exec) (w w' : System F (Exec × List (StartCall × Bool))) : Prop :=
  w'.pressure = w.pressure ∨ Valid w'.pressure = true ∧ w.pressure.sequence < w'.pressure.sequence ∧
    (env.policy.isAutoTarget = true → Reached w'.pressure.received w.pressure.received)

theorem enterFault_screened (sound : env.executor.Sound) (f : MachineFault) (detail : FaultDetail)
    (v : System F (Exec × List (StartCall × Bool))) (log : v.exec.2 = w.exec.2) :
    Screened env p w (enterFault env.logged f detail now v) := by
  left
  rw [enterFault_exec]
  exact ⟨rfl, sound.disable_idle v.exec.1, log⟩

theorem pressureFault_screened (sound : env.executor.Sound) (detail : FaultDetail)
    (v : System F (Exec × List (StartCall × Bool))) (log : v.exec.2 = w.exec.2)
    (requires : requiresPressureSafety env.policy v.state = true) :
    Screened env p w (pressureFault env.logged detail now v) := by
  have faults : pressureFault env.logged detail now v = enterFault env.logged .pressureSensor detail now v :=
    if_pos requires
  rw [faults]
  exact enterFault_screened sound _ _ v log

theorem not_receivedBefore (forwards : receivedBefore env.logged p w = false) (valid : Valid w.pressure = true)
    (auto : env.policy.isAutoTarget = true) : Reached p.received w.pressure.received := by
  have policy : env.logged.policy.isAutoTarget = true := auto
  simp only [receivedBefore, policy, valid, Bool.true_and, decide_eq_false_iff_not, BitVec.not_le] at forwards
  exact BitVec.lt_def.mp forwards

theorem not_notLater (later : notLater p w = false) (valid : Valid w.pressure = true) :
    w.pressure.sequence < p.sequence := by
  simp only [notLater, valid, Bool.true_and, decide_eq_false_iff_not, BitVec.not_le] at later
  exact later

theorem handlePressureSample_invalid {v : System F Exec} (invalid : Valid p = false)
    (requires : requiresPressureSafety env.policy v.state = true) :
    handlePressureSample env p now v = enterFault env .pressureSensor .pressureInvalid now (store p v) := by
  have stored : requiresPressureSafety env.policy (store p v).state = true := requires
  unfold handlePressureSample pressureFault
  rw [if_pos (by rw [invalid, Bool.not_false]), if_pos stored]

theorem acceptSample_pressure (env : Platform F Exec) {v : System F Exec} (stored : v.pressure = p)
    (valid : Valid p = true) : (acceptSample env p now v).pressure = p := by
  have outcome := acceptSample_outcome env now stored valid rfl
  have kept := pressure_of_outcome outcome (by
    intro other later same
    obtain ⟨rfl, -⟩ := Event.handlePressureSample.inj same
    exact valid)
  exact kept.trans stored

theorem handlePressureSample_screened (sound : env.executor.Sound)
    (requires : requiresPressureSafety env.policy w.state = true) (stored : Valid w.pressure = true) :
    Screened env p w (handlePressureSample env.logged p now w) := by
  unfold handlePressureSample
  split
  · exact pressureFault_screened sound _ (store p w) rfl requires
  next validity =>
    have valid : Valid p = true := by simpa only [Bool.not_eq_true, Bool.not_eq_false'] using validity
    split
    next late =>
      split
      · exact pressureFault_screened sound _ w rfl requires
      next repeated =>
        right
        left
        simp only [notLater, stored, Bool.true_and, decide_eq_true_eq] at late
        exact ⟨BitVec.le_antisymm late (BitVec.not_lt.mp repeated), rfl⟩
    next later =>
      split
      · exact pressureFault_screened sound _ w rfl requires
      next forwards =>
        by_cases limit : overLimit p w = true
        · have faults : acceptSample env.logged p now (store p w) =
              enterFault env.logged .overpressure .none now (store p w) := if_pos limit
          rw [faults]
          exact enterFault_screened sound _ _ (store p w) rfl
        · refine .inr (.inr ⟨valid, not_notLater (Bool.eq_false_iff.mpr later) stored,
            not_receivedBefore (Bool.eq_false_iff.mpr forwards) stored, ?_, acceptSample_pressure _ rfl valid⟩)
          intro enabled
          simpa only [overLimit, enabled, Bool.true_and, decide_eq_true_eq, BitVec.not_le] using limit

/-- A valid sample that is not later leaves the stored one, whatever else the call does. -/
theorem handlePressureSample_ordered (valid : Valid p = true) (stored : Valid w.pressure = true) :
    Advances env w (handlePressureSample env.logged p now w) := by
  have faults (detail : FaultDetail) : (pressureFault env.logged detail now w).pressure = w.pressure := by
    unfold pressureFault
    split
    · exact enterFault_pressure _ _ w
    · rfl
  unfold handlePressureSample
  rw [if_neg (by simp only [valid, Bool.not_true, Bool.false_eq_true, not_false_iff])]
  split
  · left
    split
    · exact faults _
    · rfl
  next later =>
    split
    · exact .inl (faults _)
    next forwards =>
      right
      have accepted : (acceptSample env.logged p now (store p w)).pressure = p :=
        acceptSample_pressure env.logged rfl valid
      rw [accepted]
      exact ⟨valid, not_notLater (Bool.eq_false_iff.mpr later) stored,
        not_receivedBefore (Bool.eq_false_iff.mpr forwards) stored⟩

/-- A call after which the state still depends on the sensor keeps the stored sample or advances it. -/
theorem call_advances (e : Event F) (ordinary : ¬ Initializes e) (stored : Valid w.pressure = true)
    (before : requiresPressureSafety env.policy w.state = true)
    (after : requiresPressureSafety env.policy (call env.logged w e).state = true) :
    Advances env w (call env.logged w e) := by
  obtain ⟨c, arrives, outcome⟩ := call_outcome env.logged e ordinary w
  cases e with
  | handlePressureSample p now =>
    by_cases valid : Valid p = true
    · exact handlePressureSample_ordered valid stored
    · have faulted : (call env.logged w (.handlePressureSample p now)).state = .fault := by
        show (handlePressureSample env.logged p now w).state = .fault
        rw [handlePressureSample_invalid (Bool.eq_false_iff.mpr valid) before]
        rfl
      rw [faulted] at after
      exact absurd after (not_requires rfl rfl)
  | _ =>
    obtain rfl : c = core w := arrives
    left
    exact pressure_of_outcome outcome (fun _ _ same => by cases same)

/-- In every reachable state that depends on the sensor the stored sample is valid, every delivered sample
is screened, and as long as such a state lasts the stored sample only advances; valid samples that are not
later never replace it. -/
theorem pressure_safety {env : Platform F Exec} (sound : env.executor.Sound)
    {past : List (Turn (System F (Exec × List (StartCall × Bool))) (Event F))}
    {w : System F (Exec × List (StartCall × Bool))} (reachable : Reachable env.logged past w)
    (requires : requiresPressureSafety env.policy w.state = true) :
    Valid w.pressure = true ∧
      (∀ p now, Screened env p w (handlePressureSample env.logged p now w)) ∧
      (∀ e, ¬ Initializes e → requiresPressureSafety env.policy (call env.logged w e).state = true →
        Advances env w (call env.logged w e)) ∧
      ∀ p now, Valid p = true → Advances env w (handlePressureSample env.logged p now w) := by
  have stored : Valid w.pressure = true := supported_of_reachable reachable requires
  refine ⟨stored, ?_, ?_, ?_⟩
  · intro p now
    exact handlePressureSample_screened sound requires stored
  · intro e ordinary after
    exact call_advances e ordinary stored requires after
  · intro p now valid
    exact handlePressureSample_ordered valid stored

theorem pressure_safety_bench : ∃ w : System ℚ (Motor.Locked.State × List (StartCall × Bool)), w.state = .autoApproach ∧
    Valid w.pressure = true ∧
      (∀ p now, Screened lockedBench p w (handlePressureSample lockedBench.logged p now w)) ∧
      (∀ e, ¬ Initializes e → requiresPressureSafety .locked (call lockedBench.logged w e).state = true →
        Advances lockedBench w (call lockedBench.logged w e)) ∧
      ∀ p now, Valid p = true → Advances lockedBench w (handlePressureSample lockedBench.logged p now w) := by
  refine ⟨(playFrom lockedBench benchConfig benchStart).2, by decide +kernel, ?_⟩
  exact pressure_safety Motor.Locked.pulses_sound (reachable_playFrom lockedBench benchConfig benchStart)
    (by decide +kernel)

end Sd700.Machine.PressureSafety
