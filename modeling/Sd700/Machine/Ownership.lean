import Sd700.Machine.Outcomes
import Sd700.Motor.Locked

/-! Who owns the motor: in every state the executor is either idle or runs the very request the machine
recorded, and nothing starts it without an accepted command. -/

namespace Sd700.Machine.Ownership
open Logic.Run Build.Contract Motor.Interface Motor.Pulses Context Motion Handlers Outcomes
open Servo.State (CommandType CommandResult Command Sample)

variable {F Exec : Type}

def Initialized (env : Platform F Exec) (w : System F Exec) : Prop :=
  ∃ before config now, w = initializeContext env config now before

/-- A run of the machine from an initialisation, with its turns, newest first. -/
abbrev Reachable (env : Platform F Exec) : List (Turn (System F Exec) (Event F)) → System F Exec → Prop :=
  Recorded (call env) (fun _ _ => True) (Initialized env)

def Rests (s : MachineState) : Prop :=
  s = .bootSafe ∨ s = .idle ∨ s = .autoSettle ∨ s = .autoHold ∨ s = .fault

def Engages (s : MachineState) : Prop :=
  s = .autoApproach ∨ s = .autoPulse ∨ s = .directPressPulse ∨ s = .directReleasePulse

def Active (s : MachineState) : Prop :=
  isAutomatic s = true ∨ isDirectPulse s = true

structure Owned (env : Platform F Exec) (c : Core Exec) : Prop where
  known : Rests c.state ∨ Engages c.state
  off : Rests c.state → env.executor.Idle c.exec
  current : Engages c.state → c.motorRequestSequence = (env.executor.snapshot c.exec).requestSequence

instance (s : MachineState) : Decidable (Rests s) := inferInstanceAs (Decidable (_ ∨ _))
instance (s : MachineState) : Decidable (Engages s) := inferInstanceAs (Decidable (_ ∨ _))
instance (s : MachineState) : Decidable (Active s) := inferInstanceAs (Decidable (_ ∨ _))

theorem not_engages_of_rests {s : MachineState} (rests : Rests s) : ¬ Engages s := by
  revert rests
  cases s <;> decide

theorem active_of_engages {s : MachineState} (engages : Engages s) : Active s := by
  revert engages
  cases s <;> decide

theorem rests_stoppedState (s : MachineState) : Rests (stoppedState s) := by
  cases s <;> decide

variable {env : Platform F Exec} {e : Event F} {now : U32} {c d : Core Exec}

theorem MayStart.engages {next : MachineState} (may : MayStart env e now next c) : Engages next := by
  rcases may with ⟨-, rfl⟩ | ⟨⟨units, ⟨-, rfl⟩ | ⟨-, rfl⟩⟩, -⟩ | ⟨-, rfl | rfl⟩
  · exact .inl rfl
  · exact .inr (.inr (.inl rfl))
  · exact .inr (.inr (.inr rfl))
  · exact .inl rfl
  · exact .inr (.inl rfl)

theorem Owned.resting (rests : Rests c.state) (idle : env.executor.Idle c.exec) : Owned env c :=
  ⟨.inl rests, fun _ => idle, fun engages => absurd engages (not_engages_of_rests rests)⟩

theorem Owned.of_outcome (sound : env.executor.Sound) (owned : Owned env c) (outcome : Outcome env e now c d) :
    Owned env d := by
  cases outcome with
  | kept x aside =>
    refine ⟨owned.known, ?_, ?_⟩
    · intro rests
      exact sound.aside_idle aside (owned.off rests)
    · intro engages
      exact (owned.current engages).trans (sound.aside_sequence aside).symm
  | faulted detail after x aside founded => exact .resting (.inr (.inr (.inr (.inr rfl)))) (sound.disable_idle _)
  | refused detail next x request may aside untaken plain =>
    exact .resting (.inr (.inr (.inr (.inr rfl)))) (sound.disable_idle _)
  | started next x request may aside taken =>
    have engages : Engages next := MayStart.engages may
    exact ⟨.inr engages, fun rests => absurd engages (not_engages_of_rests rests), fun _ => rfl⟩
  | settled x aside running => exact .resting (.inr (.inr (.inl rfl))) (sound.disable_idle _)
  | held p x sample judges aside => exact .resting (.inr (.inr (.inr (.inl rfl)))) (sound.disable_idle _)
  | rested x holding aside =>
    exact .resting (.inr (.inr (.inr (.inl holding)))) (sound.disable_idle _)
  | stopped units command => exact .resting (rests_stoppedState _) (sound.disable_idle _)
  | booted boot => exact .resting (.inr (.inl rfl)) (sound.disable_idle _)
  | completed direct off => exact .resting (.inr (.inl rfl)) off
  | opened ticks settling delayed expired =>
    exact .resting (.inr (.inr (.inl settling))) (owned.off (.inr (.inr (.inl settling))))
  | configured idle => exact .resting (.inr (.inl idle)) (owned.off (.inr (.inl idle)))
  | noted p sample invalid indifferent => exact ⟨owned.known, owned.off, owned.current⟩
  | spoiled p sample invalid => exact .resting (.inr (.inr (.inr (.inr rfl)))) (sound.disable_idle _)

theorem Owned.initializeContext (sound : env.executor.Sound) (config : Option MachineConfig) (now : U32)
    (w : System F Exec) : Owned env (core (Handlers.initializeContext env config now w)) := by
  unfold Handlers.initializeContext
  dsimp only
  rw [if_neg (not_not.mpr (sound.disable_ok w.exec))]
  exact .resting (.inl rfl) (sound.disable_idle w.exec)

theorem Arrives.same {w : System F Exec} (arrives : Arrives env e w c) :
    c.state = w.state ∧ c.exec = w.exec ∧ c.motorRequestSequence = w.motorRequestSequence := by
  cases e with
  | handlePressureSample p now =>
    rcases arrives with rfl | ⟨-, -, -, rfl⟩
    · exact ⟨rfl, rfl, rfl⟩
    · exact ⟨rfl, rfl, rfl⟩
  | _ =>
    obtain rfl : c = core w := arrives
    exact ⟨rfl, rfl, rfl⟩

theorem Owned.call (sound : env.executor.Sound) {w : System F Exec} (owned : Owned env (core w)) (e : Event F) :
    Owned env (core (Handlers.call env w e)) := by
  by_cases fresh : Initializes e
  · cases e with
    | initializeContext config now => exact .initializeContext sound config now w
    | _ => exact absurd fresh id
  · obtain ⟨c, arrives, outcome⟩ := call_outcome env e fresh w
    obtain ⟨state, exec, request⟩ := Arrives.same arrives
    refine Owned.of_outcome sound ⟨?_, ?_, ?_⟩ outcome
    · rw [state]
      exact owned.known
    · rw [state, exec]
      exact owned.off
    · rw [state, exec, request]
      exact owned.current

/-! ### Commands that ask for motion -/

def Starts (e : Event F) : Prop :=
  ∃ units now, e = .handleCommand ⟨.autoStart, units⟩ now ∨ e = .handleCommand ⟨.directPressPulse, units⟩ now ∨
    e = .handleCommand ⟨.directReleasePulse, units⟩ now

def Stops (e : Event F) : Prop :=
  ∃ units now, e = .handleCommand ⟨.stop, units⟩ now

def Grants (turn : Turn (System F Exec) (Event F)) : Prop :=
  Starts turn.event ∧ turn.after.lastCommandResult = .accepted

def Continues (turn : Turn (System F Exec) (Event F)) : Prop :=
  ¬ Stops turn.event ∧ turn.after.state ≠ .fault ∧ turn.after.state ≠ .idle ∧ turn.after.state ≠ .bootSafe

/-- An accepted start command lies behind, with neither STOP, fault nor IDLE in between. -/
def Licensed (past : List (Turn (System F Exec) (Event F))) : Prop :=
  ∃ later granting earlier, past = later ++ granting :: earlier ∧ Grants granting ∧
    ∀ turn ∈ later, Continues turn

theorem Licensed.cons {past : List (Turn (System F Exec) (Event F))} (licensed : Licensed past)
    {turn : Turn (System F Exec) (Event F)} (continues : Continues turn) : Licensed (turn :: past) := by
  obtain ⟨later, granting, earlier, rfl, grants, all⟩ := licensed
  refine ⟨turn :: later, granting, earlier, rfl, grants, ?_⟩
  intro other member
  rcases List.mem_cons.mp member with rfl | member
  · exact continues
  · exact all other member

theorem Licensed.granted {past : List (Turn (System F Exec) (Event F))} {turn : Turn (System F Exec) (Event F)}
    (grants : Grants turn) : Licensed (turn :: past) :=
  ⟨[], turn, past, rfl, grants, fun _ member => absurd member List.not_mem_nil⟩

theorem not_active {s : MachineState} (rest : s = .fault ∨ s = .idle ∨ s = .bootSafe) : ¬ Active s := by
  rcases rest with rfl | rfl | rfl
  · decide
  · decide
  · decide

theorem stoppedState_rest (s : MachineState) :
    stoppedState s = .fault ∨ stoppedState s = .idle ∨ stoppedState s = .bootSafe := by
  cases s <;> decide

theorem active_of_outcome (outcome : Outcome env e now c d) (active : Active d.state) :
    Active c.state ∨ c.state = .idle ∧ Starts e := by
  have starts {next : MachineState} (may : MayStart env e now next c) : Active c.state ∨ c.state = .idle ∧ Starts e := by
    rcases may with ⟨⟨⟨units, asked⟩, idle, -⟩, -⟩ | ⟨⟨units, ⟨asked, -⟩ | ⟨asked, -⟩⟩, idle, -⟩ | ⟨answers, -⟩
    · exact .inr ⟨idle, units, now, .inl asked⟩
    · exact .inr ⟨idle, units, now, .inr (.inl asked)⟩
    · exact .inr ⟨idle, units, now, .inr (.inr asked)⟩
    · exact .inl (.inl (Answers.automatic answers))
  cases outcome with
  | kept x aside => exact .inl active
  | faulted detail after x aside founded => exact absurd active (not_active (.inl rfl))
  | refused detail next x request may aside untaken plain => exact absurd active (not_active (.inl rfl))
  | started next x request may aside taken => exact starts may
  | settled x aside running =>
    rcases running with automatic | ⟨⟨units, asked⟩, idle, -⟩
    · exact .inl (.inl automatic)
    · exact .inr ⟨idle, units, now, .inl asked⟩
  | held p x sample judges aside => exact .inl (.inl (Answers.automatic ⟨p, sample, .inl judges⟩))
  | rested x holding aside => exact .inl active
  | stopped units command => exact absurd active (not_active (stoppedState_rest _))
  | booted boot => exact absurd active (not_active (.inr (.inl rfl)))
  | completed direct off => exact absurd active (not_active (.inr (.inl rfl)))
  | opened ticks settling delayed expired => exact .inl active
  | configured idle => exact absurd active (not_active (.inr (.inl idle)))
  | noted p sample invalid indifferent => exact .inl active
  | spoiled p sample invalid => exact absurd active (not_active (.inl rfl))

theorem fault_of_outcome (outcome : Outcome env e now c d) (fault : c.state = .fault) : d.state = .fault := by
  have dead {P : Prop} (active : Active c.state) : P := absurd active (not_active (.inl fault))
  have other {P : Prop} {s : MachineState} (state : c.state = s) (differs : s ≠ .fault) : P :=
    absurd (state.symm.trans fault) differs
  have never {next : MachineState} {P : Prop} (may : MayStart env e now next c) : P := by
    rcases may with ⟨⟨-, idle, -⟩, -⟩ | ⟨-, idle, -⟩ | ⟨answers, -⟩
    · exact other idle (by decide)
    · exact other idle (by decide)
    · exact dead (.inl (Answers.automatic answers))
  cases outcome with
  | kept x aside => exact fault
  | faulted detail after x aside founded => rfl
  | refused detail next x request may aside untaken plain => rfl
  | started next x request may aside taken => exact never may
  | settled x aside running =>
    rcases running with automatic | ⟨-, idle, -⟩
    · exact dead (.inl automatic)
    · exact other idle (by decide)
  | held p x sample judges aside => exact other judges.2.2.1 (by decide)
  | rested x holding aside => exact other holding (by decide)
  | stopped units command => simp only [stoppedState, fault, if_true]
  | booted boot => exact other boot (by decide)
  | completed direct off => exact dead (.inr direct)
  | opened ticks settling delayed expired => exact other settling (by decide)
  | configured idle => exact fault
  | noted p sample invalid indifferent => exact fault
  | spoiled p sample invalid => rfl

variable (env now) in
theorem requestMotor_result (request : StartCall) (next : MachineState) (w : System F Exec) :
    (requestMotor env request next now w).1 = .accepted ∨ (requestMotor env request next now w).2.state = .fault := by
  unfold requestMotor captureMotorRequest
  split
  · exact .inr rfl
  split
  · exact .inr rfl
  · exact .inl rfl

variable (env now) in
theorem settleResult_result (w : System F Exec) :
    (settleResult (enterSettle env now w)).1 = .accepted ∨
      (settleResult (enterSettle env now w)).2.state = .fault := by
  cases ok : disableSucceeds env w with
  | false =>
    right
    simp only [settleResult, enterSettle, disableOrFault, ok, Bool.false_eq_true, if_false]
    rfl
  | true =>
    left
    simp only [settleResult, enterSettle, disableOrFault, ok, if_true]

theorem directPulse_result (direction : Direction) (w : System F Exec) :
    (directPulse env direction now w).1 = .accepted ∨ (directPulse env direction now w).2 = w ∨
      (directPulse env direction now w).2.state = .fault := by
  unfold directPulse
  split
  · exact .inr (.inl rfl)
  split
  · exact .inr (.inl rfl)
  split
  · exact .inr (.inl rfl)
  split
  · exact .inr (.inl rfl)
  · rcases requestMotor_result env now _ _ w with accepted | fault
    · exact .inl accepted
    · exact .inr (.inr fault)

theorem autoStart_result (w : System F Exec) :
    (autoStart env now w).1 = .accepted ∨ (autoStart env now w).2 = w ∨ (autoStart env now w).2.state = .fault := by
  unfold autoStart
  split
  · exact .inr (.inl rfl)
  split
  · exact .inr (.inl rfl)
  split
  · exact .inr (.inl rfl)
  split
  · exact .inr (.inl rfl)
  split
  · exact .inr (.inr rfl)
  · unfold launch
    split
    · rcases requestMotor_result env now _ _ _ with accepted | fault
      · exact .inl accepted
      · exact .inr (.inr fault)
    · rcases settleResult_result env now (beginCycle env now w) with accepted | fault
      · exact .inl accepted
      · exact .inr (.inr fault)

variable (env) in
/-- A start command that is not accepted leaves the state, or faults. -/
theorem starts_result (w : System F Exec) (starts : Starts e) :
    (call env w e).lastCommandResult = .accepted ∨ (call env w e).state = w.state ∨ (call env w e).state = .fault := by
  have from_result {outcome : CommandResult × System F Exec}
      (cases : outcome.1 = .accepted ∨ outcome.2 = w ∨ outcome.2.state = .fault) :
      (keepResult outcome).lastCommandResult = .accepted ∨ (keepResult outcome).state = w.state ∨
        (keepResult outcome).state = .fault := by
    rcases cases with accepted | rfl | fault
    · exact .inl accepted
    · exact .inr (.inl rfl)
    · exact .inr (.inr fault)
  obtain ⟨units, now, rfl | rfl | rfl⟩ := starts
  · exact from_result (autoStart_result w)
  · exact from_result (directPulse_result .press w)
  · exact from_result (directPulse_result .release w)

theorem stops_rest {w : System F Exec} (stops : Stops e) :
    (call env w e).state = .fault ∨ (call env w e).state = .idle ∨ (call env w e).state = .bootSafe := by
  obtain ⟨units, now, rfl⟩ := stops
  show (stop env now w).2.state = .fault ∨ (stop env now w).2.state = .idle ∨ (stop env now w).2.state = .bootSafe
  cases ok : disableSucceeds env w with
  | false =>
    left
    simp only [stop, disableOrFault, ok, Bool.false_eq_true, if_false]
    rfl
  | true =>
    simp only [stop, disableOrFault, ok, if_true]
    exact stoppedState_rest w.state

variable (env now) in
theorem initializeContext_rest (config : Option MachineConfig) (w : System F Exec) :
    (initializeContext env config now w).state = .fault ∨ (initializeContext env config now w).state = .bootSafe := by
  unfold initializeContext
  dsimp only
  split
  · exact .inl rfl
  · exact .inr rfl

/-- A state that runs something was entered by an accepted command and not left since. -/
theorem licensed_of_active {past : List (Turn (System F Exec) (Event F))} {w : System F Exec}
    (reachable : Reachable env past w) : Active w.state → Licensed past := by
  refine recorded_invariant (fun past w => Active w.state → Licensed past) ?_ ?_ reachable
  · rintro w ⟨before, config, now, rfl⟩ active
    rcases initializeContext_rest env now config before with fault | boot
    · exact absurd active (not_active (.inl fault))
    · exact absurd active (not_active (.inr (.inr boot)))
  · intro past w e _ _ ih active
    by_cases fresh : Initializes e
    · cases e with
      | initializeContext config now =>
        rcases initializeContext_rest env now config w with fault | boot
        · exact absurd active (not_active (.inl fault))
        · exact absurd active (not_active (.inr (.inr boot)))
      | _ => exact absurd fresh id
    obtain ⟨c, arrives, outcome⟩ := call_outcome env e fresh w
    have state : c.state = w.state := (Arrives.same arrives).1
    rcases active_of_outcome outcome active with before | ⟨idle, starts⟩
    · rw [state] at before
      apply (ih before).cons
      refine ⟨fun stops => not_active (stops_rest stops) active, ?_, ?_, ?_⟩
      · exact fun fault => not_active (.inl fault) active
      · exact fun idle => not_active (.inr (.inl idle)) active
      · exact fun boot => not_active (.inr (.inr boot)) active
    · apply Licensed.granted
      refine ⟨starts, ?_⟩
      rcases starts_result env w starts with accepted | same | fault
      · exact accepted
      · rw [← state, idle] at same
        exact absurd active (not_active (.inr (.inl same)))
      · exact absurd active (not_active (.inl fault))

/-! ### The starts of a run -/

variable {f d : Core (Exec × List (StartCall × Bool))}

/-- A call starts the motor at most once, and only where it may. -/
theorem log_of_outcome (outcome : Outcome env.logged e now f d) :
    d.exec.2 = f.exec.2 ∨ ∃ request taken next, MayStart env.logged e now next f ∧
      d.exec.2 = (request, taken) :: f.exec.2 ∧ (taken = true → d.state = next) ∧
      (taken = false → d.state = .fault) := by
  have quiet {x y : Exec × List (StartCall × Bool)} (aside : env.logged.executor.Aside x y) : y.2 = x.2 :=
    PulseExecutor.logged_aside aside
  cases outcome with
  | kept x aside => exact .inl (quiet aside)
  | faulted detail after x aside founded => exact .inl (quiet (aside.tail (.inl rfl)))
  | refused detail next x request may aside untaken plain =>
    refine .inr ⟨request, false, next, may, ?_, fun taken => absurd taken Bool.false_ne_true, fun _ => rfl⟩
    show (request, env.executor.took request x.1) :: x.2 = _
    rw [quiet aside, show env.executor.took request x.1 = false from untaken]
  | started next x request may aside taken =>
    refine .inr ⟨request, true, next, may, ?_, fun _ => rfl, fun untaken => absurd untaken.symm Bool.false_ne_true⟩
    show (request, env.executor.took request x.1) :: x.2 = _
    rw [quiet aside, show env.executor.took request x.1 = true from taken]
  | settled x aside running => exact .inl (quiet (aside.tail (.inl rfl)))
  | held p x sample judges aside => exact .inl (quiet (aside.tail (.inl rfl)))
  | rested x holding aside => exact .inl (quiet (aside.tail (.inl rfl)))
  | stopped units command => exact .inl rfl
  | booted boot => exact .inl rfl
  | completed direct off => exact .inl rfl
  | opened ticks settling delayed expired => exact .inl rfl
  | configured idle => exact .inl rfl
  | noted p sample invalid indifferent => exact .inl rfl
  | spoiled p sample invalid => exact .inl rfl

theorem log_of_initializeContext (config : Option MachineConfig) (w : System F (Exec × List (StartCall × Bool))) :
    (initializeContext env.logged config now w).exec.2 = w.exec.2 := by
  unfold initializeContext
  dsimp only
  split
  · rfl
  · rfl

/-- What asked for a start: an earlier command, or the command of the call itself. A start the executor
does not take ends in FAULT. -/
def Authorized (turn : Turn (System F (Exec × List (StartCall × Bool))) (Event F))
    (earlier : List (Turn (System F (Exec × List (StartCall × Bool))) (Event F))) (taken : Bool) : Prop :=
  (Licensed earlier ∨ Starts turn.event ∧ turn.before.state = .idle ∧
      (taken = true → turn.after.lastCommandResult = .accepted)) ∧
    (taken = false → turn.after.state = .fault)

/-- What the record of a run says about one of its turns: FAULT is only left by initialising the machine
again, and a call starts the motor at most once, on authority. -/
structure Lawful (turn : Turn (System F (Exec × List (StartCall × Bool))) (Event F))
    (earlier : List (Turn (System F (Exec × List (StartCall × Bool))) (Event F))) : Prop where
  latched : turn.before.state = .fault → ¬ Initializes turn.event → turn.after.state = .fault
  starts : turn.after.exec.2 = turn.before.exec.2 ∨ ∃ request taken,
    turn.after.exec.2 = (request, taken) :: turn.before.exec.2 ∧ Authorized turn earlier taken

theorem lawful_turn {past : List (Turn (System F (Exec × List (StartCall × Bool))) (Event F))}
    {w : System F (Exec × List (StartCall × Bool))} (reachable : Reachable env.logged past w) (e : Event F) :
    Lawful ⟨w, e, call env.logged w e⟩ past := by
  by_cases fresh : Initializes e
  · cases e with
    | initializeContext config now =>
      exact ⟨fun _ ordinary => absurd trivial ordinary, .inl (log_of_initializeContext config w)⟩
    | _ => exact absurd fresh id
  obtain ⟨c, arrives, outcome⟩ := call_outcome env.logged e fresh w
  obtain ⟨state, exec, -⟩ := Arrives.same arrives
  constructor
  · intro faulted _
    exact fault_of_outcome outcome (state.trans faulted)
  · rcases log_of_outcome outcome with same | ⟨request, taken, next, may, log, took, refused⟩
    · left
      rw [exec] at same
      exact same
    · refine .inr ⟨request, taken, ?_, ?_, refused⟩
      · rw [exec] at log
        exact log
      have own (starts : Starts e) (idle : c.state = .idle) : Licensed past ∨ Starts e ∧ w.state = .idle ∧
          (taken = true → (call env.logged w e).lastCommandResult = .accepted) := by
        refine .inr ⟨starts, state.symm.trans idle, ?_⟩
        intro isTaken
        have engaged : Engages (call env.logged w e).state := by
          rw [show (call env.logged w e).state = next from took isTaken]
          exact MayStart.engages may
        rcases starts_result env.logged w starts with accepted | same | fault
        · exact accepted
        · rw [same, ← state, idle] at engaged
          exact absurd engaged (by decide)
        · rw [fault] at engaged
          exact absurd engaged (by decide)
      rcases may with ⟨⟨⟨units, asked⟩, idle, -⟩, -⟩ | ⟨⟨units, ⟨asked, -⟩ | ⟨asked, -⟩⟩, idle, -⟩ | ⟨answers, -⟩
      · exact own ⟨units, _, .inl asked⟩ idle
      · exact own ⟨units, _, .inr (.inl asked)⟩ idle
      · exact own ⟨units, _, .inr (.inr asked)⟩ idle
      · left
        apply licensed_of_active reachable
        rw [← state]
        exact .inl (Answers.automatic answers)

theorem owned_of_reachable {env : Platform F Exec} (sound : env.executor.Sound)
    {past : List (Turn (System F Exec) (Event F))} {w : System F Exec} (reachable : Reachable env past w) :
    Owned env (core w) := by
  refine recorded_invariant (fun _ w => Owned env (core w)) ?_ ?_ reachable
  · rintro w ⟨before, config, now, rfl⟩
    exact .initializeContext sound config now before
  · intro past w e _ _ owned
    exact owned.call sound e

/-- In every run, whatever the build and the configuration, the machine and its executor agree after every
call, FAULT is latched, and every start has been asked for. -/
theorem motor_ownership {env : Platform F Exec} (sound : env.executor.Sound)
    {past : List (Turn (System F (Exec × List (StartCall × Bool))) (Event F))}
    {w : System F (Exec × List (StartCall × Bool))} (reachable : Reachable env.logged past w) :
    Owned env.logged (core w) ∧
      ∀ later turn earlier, past = later ++ turn :: earlier → Lawful turn earlier := by
  constructor
  · exact owned_of_reachable sound.logged reachable
  · rintro later ⟨before, e, after⟩ earlier rfl
    obtain ⟨start, same, -⟩ := reachable.at_turn
    dsimp only at same
    subst same
    exact lawful_turn start e

/-! ### A run of the locked build -/

def lockedBench : Platform ℚ Motor.Locked.State :=
  ⟨.locked, .rational, Motor.Locked.pulses⟩

def powerOn (env : Platform ℚ Motor.Locked.State) (config : MachineConfig) :
    System ℚ (Motor.Locked.State × List (StartCall × Bool)) :=
  initializeContext env.logged (some config) 0 (blank env.logged (.initial, []))

/-- What has happened, and the state, once the events have taken place. -/
def playFrom (env : Platform ℚ Motor.Locked.State) (config : MachineConfig) (events : List (Event ℚ)) :=
  play (call env.logged) ([], powerOn env config) events

theorem reachable_playFrom (env : Platform ℚ Motor.Locked.State) (config : MachineConfig) (events : List (Event ℚ)) :
    Reachable env.logged (playFrom env config events).1 (playFrom env config events).2 := by
  apply recorded_play events (fun _ _ _ => trivial)
  exact .first _ ⟨blank env.logged (.initial, []), some config, 0, rfl⟩

def benchSample (sequence : U64) (units : ℤ) (now : U32) : Event ℚ :=
  .handlePressureSample ⟨sequence, now, 0, [], units, true, true⟩ now

def benchStart : List (Event ℚ) :=
  [.completeBoot true 1, .handleCommand ⟨.setTarget, 250⟩ 2, benchSample 1 0 3, .handleCommand ⟨.autoStart, 0⟩ 4]

theorem motor_ownership_bench : (playFrom lockedBench benchConfig benchStart).2.state = .autoApproach ∧
    Owned lockedBench.logged (core (playFrom lockedBench benchConfig benchStart).2) ∧
      ∀ later turn earlier, (playFrom lockedBench benchConfig benchStart).1 = later ++ turn :: earlier →
        Lawful turn earlier := by
  constructor
  · decide +kernel
  · exact motor_ownership Motor.Locked.pulses_sound (reachable_playFrom lockedBench benchConfig benchStart)

end Sd700.Machine.Ownership
