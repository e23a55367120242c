import Sd700.Motor.Leases

/-! Whole runs of the continuous executor: how fresh the sample behind an output is, how far a command may go, and
how an output turns round. -/

namespace Sd700.Motor.Continuous
open Build.Contract Logic.Modular Logic.Run Interface Bridge Timer Locked Unlocked

variable {c : Ceilings} {armed : Bool} {s t : State} {event : Event} {past : List (Turn State Event)}

/-! ### Turns -/

def Sampled (c : Ceilings) (armed : Bool) (r : ContinuousRequest) (turn : Turn State Event) : Prop :=
  turn.event = .drive (.updateContinuous r) ∧ (turn.before.updateContinuous c armed r).1 = .ok

def Boosted (c : Ceilings) (armed : Bool) (turn : Turn State Event) : Prop :=
  ∃ token now durationMs, turn.event = .drive (.armBoost token now durationMs) ∧
    (turn.before.armBoost c armed token durationMs).1 = true

def Begun (armed : Bool) (turn : Turn State Event) : Prop :=
  turn.event = .drive .beginContinuous ∧ (turn.before.beginContinuous armed).1 = .ok

abbrev Run (c : Ceilings) (armed : Bool) : List (Turn State Event) → State → Prop :=
  Recorded (State.step c armed) State.admitsEvent State.Boots

theorem run_sound (run : Run c armed past s) : s.Sound c :=
  recorded_invariant (fun _ state => state.Sound c) (fun _ boots => State.boots_sound boots)
    (fun _ _ _ _ admitted sound => State.step_sound armed sound admitted) run

/-! ### Runs of one session -/

instance (s : State) (event : Event) : Decidable (s.admitsEvent event) :=
  match event with
  | .interrupt => inferInstanceAs (Decidable (raised s.timer = true))
  | .tick => inferInstanceAs (Decidable (raised s.timer = false))
  | .drive _ | .disable | .service _ | .guardOutput => isTrue trivial

def cold : State :=
  .initial ⟨false, false, false, false, 0, 0, false, false, false, false⟩
    ⟨false, false, false, false, false, false, false, false, false, 0, 0, 0, false, false, false⟩ 0

def sample (sequence : U64) (received : U32) (requested : ℤ) : Event :=
  .drive (.updateContinuous ⟨1, sequence, received, 0, 130, 20, 2, requested⟩)

def pressing : List Event :=
  [.drive .beginContinuous, .drive (.setBudget 1 0 0 2000), sample 1 0 500]

def boosting : List Event :=
  pressing ++ [.drive (.armBoost 1 0 4), .drive (.setBoostPlan 1 0 1 2 9000 500), sample 2 0 500]

def turning : List Event := pressing ++ sample 2 0 (-50) :: List.replicate 30 .tick

def played (events : List Event) : List (Turn State Event) × State :=
  play (State.step .characterized true) ([], cold) events

theorem played_run (events : List Event)
    (admitted : possible (State.step .characterized true) State.admitsEvent cold events = true) :
    Run .characterized true (played events).1 (played events).2 :=
  @recorded_possible _ _ _ _ _ _ events ([], cold) (.first cold ⟨_, _, _, rfl⟩) admitted

/-! ### The sample behind an output -/

/-- The lease in force is that of an accepted sample, and has been counted down ever since. -/
def Dated (c : Ceilings) (armed : Bool) (past : List (Turn State Event)) (s : State) : Prop :=
  s.timer.armed = true → ∃ turn ∈ past, ∃ r, Sampled c armed r turn ∧ r.token = s.session.generation ∧
    (turn.before.age r).toNat ≤ 20 ∧ r.leaseMs.toNat ≤ 130 ∧
    s.time / 10 + (s.session.receiveDeadline - s.clock).toNat + (turn.before.age r).toNat =
      turn.before.time / 10 + r.leaseMs.toNat

theorem Dated.kept {turn : Turn State Event} (dated : Dated c armed past s) (running : s.timer.armed = true)
    (generation : t.session.generation = s.session.generation)
    (left : t.time / 10 + (t.session.receiveDeadline - t.clock).toNat =
      s.time / 10 + (s.session.receiveDeadline - s.clock).toNat) : Dated c armed (turn :: past) t := by
  intro _
  obtain ⟨sample, listed, r, sampled, token, age, lease, same⟩ := dated running
  refine ⟨sample, List.mem_cons_of_mem _ listed, r, sampled, ?_, age, lease, ?_⟩
  · rw [generation]
    exact token
  · rw [left]
    exact same

theorem Dated.still {turn : Turn State Event} (dated : Dated c armed past s) (running : s.timer.armed = true)
    (generation : t.session.generation = s.session.generation)
    (receive : t.session.receiveDeadline = s.session.receiveDeadline) (time : t.time = s.time) :
    Dated c armed (turn :: past) t := by
  have clock : t.clock = s.clock := congrArg (fun time => stamp 32 (time / 10)) time
  apply dated.kept running generation
  rw [receive, clock, time]

theorem dated_step (sound : s.Sound c) (dated : Dated c armed past s) (admitted : s.admitsEvent event) :
    Dated c armed (⟨s, event, s.step c armed event⟩ :: past) (s.step c armed event) := by
  have outcome := State.step_outcome armed sound event
  generalize s.step c armed event = t at outcome ⊢
  cases outcome with
  | same => exact fun running => dated.still running rfl rfl rfl running
  | dark off idle kin kept =>
    intro running
    rw [idle] at running
    contradiction
  | @accepts r ok accepts =>
    intro _
    have session := accepts.session
    have clock : (s.updateContinuous c armed r).2.clock = s.clock :=
      congrArg (fun time => stamp 32 (time / 10)) accepts.time
    have owned := (not_not.mp (not_or.mp accepts.owned).1).2
    obtain ⟨fresh, young, bound⟩ := State.age_lt accepts.admitted
    refine ⟨_, List.mem_cons_self, r, ⟨rfl, ok⟩, ?_, young, bound, ?_⟩
    · rw [session]
      exact owned
    · have left : (s.updateContinuous c armed r).2.session.receiveDeadline - s.clock = r.leaseMs - s.age r := by
        rw [session]
        exact State.receive_left s r
      rw [clock, left, State.lease_left accepts.admitted, accepts.time]
      change _ = s.time / 10 + r.leaseMs.toNat
      change s.time / 10 + (r.leaseMs.toNat - (s.age r).toNat) + (s.age r).toNat = _
      omega
  | lowers fits commands running short =>
    obtain ⟨before, _⟩ := State.leased_of_valid sound fits.2.2.2.2.2.2.2.2.1 fits.2.2.2.2.2.2.2.2.2.2.2.2
    apply dated.still before _ _ commands.time
    · rw [commands.session]
      rfl
    · rw [commands.session]
      rfl
  | climbs owned fits step rises forward commands timer =>
    obtain ⟨before, _⟩ := State.leased_of_valid sound fits.2.2.1 fits.2.2.2.2.2.2
    apply dated.still before _ _ commands.time
    · rw [commands.session]
      rfl
    · rw [commands.session]
      rfl
  | begins fits =>
    have idle := State.begins_idle sound fits
    intro running
    rw [State.begins_eq fits] at running
    rw [idle] at running
    contradiction
  | budgets fits =>
    have idle := State.budgets_idle sound fits
    intro running
    rw [State.budgets_eq fits] at running
    rw [idle] at running
    contradiction
  | boosts fits =>
    rw [State.boosts_eq fits]
    exact fun running => dated.still running rfl rfl rfl running
  | ends fits =>
    rw [State.ends_eq fits]
    exact fun running => dated.still running rfl rfl rfl running
  | plans fits =>
    rw [State.plans_eq fits]
    exact fun running => dated.still running rfl rfl rfl running
  | ticks =>
    intro running
    have before := (StopTimer.tick_armed s.timer).symm.trans running
    have leased := sound.leased before
    obtain ⟨_, lead, ahead⟩ := State.tick_lead leased admitted
    exact dated.kept before rfl (leased.receive.tick lead ahead).2.2 running

theorem run_dated (run : Run c armed past s) : Dated c armed past s :=
  recorded_invariant (Dated c armed)
    (fun state boots running => by
      obtain ⟨bridge, timer, time, rfl⟩ := boots
      contradiction)
    (fun _ _ _ recorded admitted dated => dated_step (run_sound recorded) dated admitted) run

/-- Whenever the output is on, TIM5 runs, and the sample the command rests on was accepted less than its lease ago. -/
theorem run_recent (run : Run c armed past s) (on : s.bridge.isDisabled = false) :
    s.timer.armed = true ∧ ∃ turn ∈ past, ∃ r, Sampled c armed r turn ∧ r.token = s.session.generation ∧
      (turn.before.age r).toNat ≤ 20 ∧ r.leaseMs.toNat ≤ 130 ∧
      s.time / 10 + (turn.before.age r).toNat < turn.before.time / 10 + r.leaseMs.toNat := by
  have sound := run_sound run
  have running := sound.lit on
  obtain ⟨turn, listed, r, sampled, token, young, bound, dated⟩ := run_dated run running
  have left : s.time % 10 + s.lead < 10 * (s.session.receiveDeadline - s.clock).toNat := (sound.leased running).receive.1
  exact ⟨running, turn, listed, r, sampled, token, young, bound, by omega⟩

/-- Whenever the output is on, TIM5 runs for an open session, the compare values are those of the committed command,
and the sample that command rests on was accepted for this session less than its lease ago. -/
theorem output_fresh (run : Run c armed past s) (on : s.bridge.isDisabled = false) :
    s.timer.armed = true ∧ s.Leased c ∧ (s.session.limited = true → ¬Reached s.clock s.session.deadline) ∧
      ∃ turn ∈ past, ∃ r, Sampled c armed r turn ∧ r.token = s.session.generation ∧
        (turn.before.age r).toNat ≤ 20 ∧ r.leaseMs.toNat ≤ 130 ∧
        s.time / 10 + (turn.before.age r).toNat < turn.before.time / 10 + r.leaseMs.toNat := by
  obtain ⟨running, recent⟩ := run_recent run on
  have leased := (run_sound run).leased running
  exact ⟨running, leased, fun limited => (leased.session limited).not_reached, recent⟩

theorem output_fresh_pressing :
    ∃ turn ∈ (played pressing).1, ∃ r, Sampled .characterized true r turn ∧
      (played pressing).2.time / 10 + (turn.before.age r).toNat < turn.before.time / 10 + r.leaseMs.toNat := by
  obtain ⟨_, _, _, turn, listed, r, sampled, _, _, _, fresh⟩ :=
    output_fresh (played_run pressing (by decide +kernel)) (by decide +kernel)
  exact ⟨turn, listed, r, sampled, fresh⟩

/-! ### How far a command may go -/

structure Bounded (c : Ceilings) (s : State) : Prop where
  capped : s.session.budgetSet = true → 0 ≤ s.session.normalCap ∧ s.session.normalCap ≤ c.continuous
  unsampled : s.session.hasSequence = false → s.session.committed = 0
  boosted : s.session.boostSet = true → s.session.budgetSet = true ∧ s.session.boostUsed = true
  planned : s.session.boostPlan = true → s.session.boostPeak ≤ c.executorPress
  low : -c.releaseProfile ≤ s.session.committed
  high : s.session.committed ≤ c.executorPress
  normal : s.session.boostSet = false → s.session.committed ≤ c.continuous ∧
    (s.session.budgetSet = true → s.session.committed ≤ s.session.normalCap)

theorem Bounded.same (bounded : Bounded c s) (session : t.session = s.session) : Bounded c t := by
  constructor <;> rw [session]
  · exact bounded.capped
  · exact bounded.unsampled
  · exact bounded.boosted
  · exact bounded.planned
  · exact bounded.low
  · exact bounded.high
  · exact bounded.normal

/-- The command of an accepted sample is the one asked for, or 0. -/
theorem letThrough_cases (s : State) (r : ContinuousRequest) : s.letThrough r = 0 ∨ s.letThrough r = r.requested := by
  unfold State.letThrough
  by_cases stopped : s.reverses r ∨ s.tooSoon r
  · exact Or.inl (if_pos stopped)
  · exact Or.inr (if_neg stopped)

theorem bounded_accepts {r : ContinuousRequest} (bounded : Bounded c s) (accepts : s.Accepts c armed r t) :
    Bounded c t := by
  obtain ⟨budget, ceiling, _⟩ := accepts.admitted
  unfold State.overCeiling at ceiling
  unfold State.overBudget at budget
  push Not at ceiling budget
  have session := accepts.session
  have range : -c.releaseProfile ≤ s.letThrough r ∧ s.letThrough r ≤ c.executorPress := by
    rcases letThrough_cases s r with zero | asked
    · rw [zero]
      omega
    · rw [asked]
      exact ⟨ceiling.2.2.1, ceiling.2.1⟩
  constructor <;> rw [session]
  · exact bounded.capped
  · intro unsampled
    contradiction
  · intro set
    exact bounded.boosted ((Bool.and_eq_true _ _).mp set).1
  · intro plan
    exact bounded.planned ((Bool.and_eq_true _ _).mp plan).1
  · exact range.1
  · exact range.2
  · intro unset
    change (s.session.boostSet && !s.endsBoost (s.letThrough r)) = false at unset
    change s.letThrough r ≤ c.continuous ∧ (s.session.budgetSet = true → s.letThrough r ≤ s.session.normalCap)
    cases set : s.session.boostSet with
    | false =>
      rcases letThrough_cases s r with zero | asked
      · rw [zero]
        exact ⟨by omega, fun limited => (bounded.capped limited).1⟩
      · rw [asked]
        refine ⟨?_, fun limited => ?_⟩
        · by_contra above
          exact absurd (ceiling.1 (not_le.mp above)) (by rw [set]; exact Bool.false_ne_true)
        · by_contra above
          exact absurd ((budget limited).2.2 (not_le.mp above)) (by rw [set]; exact Bool.false_ne_true)
    | true =>
      rw [set, Bool.true_and, Bool.not_eq_false'] at unset
      unfold State.endsBoost at unset
      simp only [Bool.and_eq_true, decide_eq_true_eq] at unset
      have limited := (bounded.boosted set).1
      exact ⟨le_trans unset.2 (bounded.capped limited).2, fun _ => unset.2⟩

theorem bounded_step (sound : s.Sound c) (bounded : s.session.isOpen = true → Bounded c s)
    (opened : (s.step c armed event).session.isOpen = true) : Bounded c (s.step c armed event) := by
  have outcome := State.step_outcome armed sound event
  generalize s.step c armed event = t at outcome opened ⊢
  cases outcome with
  | same => exact bounded opened
  | dark off idle kin kept =>
    have same := kept opened
    rw [same] at opened
    exact (bounded opened).same same
  | @accepts r ok accepts =>
    have owner := (not_not.mp (not_or.mp accepts.owned).1).1
    exact bounded_accepts (bounded owner) accepts
  | @lowers call t requested remaining fits commands running short =>
    obtain ⟨_, leased, _⟩ := State.leased_of_valid sound fits.2.2.2.2.2.2.2.2.1 fits.2.2.2.2.2.2.2.2.2.2.2.2
    have held := bounded leased.isOpen
    have session := commands.session
    constructor <;> rw [session]
    · exact held.capped
    · intro unsampled
      change s.session.hasSequence = false at unsampled
      rw [leased.sequenced] at unsampled
      contradiction
    · intro set
      contradiction
    · intro plan
      contradiction
    · have forward := fits.2.2.2.1
      change -(c.releaseProfile : ℤ) ≤ requested
      omega
    · exact le_trans fits.2.2.2.2.2.1 held.high
    · intro _
      have limited := fits.1
      exact ⟨le_trans fits.2.2.2.2.1 (held.capped limited).2, fun _ => fits.2.2.2.2.1⟩
  | @climbs token now t requested owned fits step rises forward commands timer =>
    obtain ⟨_, leased, _⟩ := State.leased_of_valid sound fits.2.2.1 fits.2.2.2.2.2.2
    have held := bounded leased.isOpen
    have session := commands.session
    constructor <;> rw [session]
    · exact held.capped
    · intro unsampled
      change s.session.hasSequence = false at unsampled
      rw [leased.sequenced] at unsampled
      contradiction
    · exact held.boosted
    · exact held.planned
    · have forward := step.2.2.1
      change -(c.releaseProfile : ℤ) ≤ requested
      omega
    · exact le_trans step.2.1 (held.planned fits.1)
    · intro unset
      change s.session.boostSet = false at unset
      rw [fits.2.1] at unset
      contradiction
  | begins fits =>
    rw [State.begins_eq fits]
    exact {
      capped := fun limited => by contradiction
      unsampled := fun _ => rfl
      boosted := fun set => by contradiction
      planned := fun plan => by contradiction
      low := neg_nonpos.mpr (Int.natCast_nonneg _)
      high := Int.natCast_nonneg _
      normal := fun _ => ⟨Int.natCast_nonneg _, fun limited => by contradiction⟩ }
  | budgets fits =>
    have held := bounded fits.1.1
    have zero := held.unsampled (Bool.eq_false_iff.mpr fits.2.2.1)
    rw [State.budgets_eq fits]
    exact {
      capped := fun _ => ⟨by
        cases fits.2.2.2.2.1 with
        | inl positive => exact le_of_lt positive
        | inr none_ => exact le_of_eq none_.2.symm, fits.2.2.2.2.2⟩
      unsampled := held.unsampled
      boosted := fun set => ⟨rfl, (held.boosted set).2⟩
      planned := held.planned
      low := held.low
      high := held.high
      normal := fun unset => ⟨(held.normal unset).1, fun _ => by
        change s.session.committed ≤ _
        rw [zero]
        cases fits.2.2.2.2.1 with
        | inl positive => exact le_of_lt positive
        | inr none_ => exact le_of_eq none_.2.symm⟩ }
  | boosts fits =>
    have held := bounded fits.1.1
    rw [State.boosts_eq fits]
    exact {
      capped := held.capped
      unsampled := held.unsampled
      boosted := fun _ => ⟨fits.2.1, rfl⟩
      planned := held.planned
      low := held.low
      high := held.high
      normal := fun unset => by contradiction }
  | ends fits =>
    have held := bounded fits.1.1
    rw [State.ends_eq fits]
    exact ⟨held.capped, held.unsampled, held.boosted, held.planned, held.low, held.high, held.normal⟩
  | plans fits =>
    have held := bounded fits.1.1
    rw [State.plans_eq fits]
    exact ⟨held.capped, held.unsampled, held.boosted, fun _ => fits.2.2.2.2.2.2.2.2.2.1, held.low, held.high, held.normal⟩
  | ticks =>
    exact (bounded opened).same rfl

theorem run_bounded (run : Run c armed past s) : s.session.isOpen = true → Bounded c s :=
  recorded_invariant (fun _ state => state.session.isOpen = true → Bounded c state)
    (fun state boots opened => by
      obtain ⟨bridge, timer, time, rfl⟩ := boots
      contradiction)
    (fun _ _ _ recorded _ bounded opened => bounded_step (run_sound recorded) bounded opened) run

theorem run_boostUsed (run : Run c armed past s) (since : Since (Boosted c armed) (Begun armed) past) :
    s.session.boostUsed = true := by
  revert since
  apply recorded_invariant (fun past state => Since (Boosted c armed) (Begun armed) past → state.session.boostUsed = true)
    (fun _ _ nothing => nothing.elim) _ run
  intro past s event recorded _ used since
  have outcome := State.step_outcome armed (run_sound recorded) event
  by_cases boosted : Boosted c armed ⟨s, event, s.step c armed event⟩
  · obtain ⟨token, now, durationMs, rfl, ok⟩ := boosted
    change (s.armBoost c armed token durationMs).2.session.boostUsed = true
    change (s.armBoost c armed token durationMs).1 = true at ok
    unfold State.armBoost at ok ⊢
    by_cases refused : ¬s.boostFits c armed token durationMs
    · rw [if_pos refused] at ok
      contradiction
    · rw [if_neg refused]
  have before := since.resolve_left boosted
  have used := used before.2
  have unbegun := before.1
  generalize after : s.step c armed event = t at outcome ⊢
  cases outcome with
  | same => exact used
  | dark off idle kin kept => exact kin.boostUsed.trans used
  | accepts ok accepts =>
    rw [accepts.session]
    exact used
  | lowers fits commands running short =>
    rw [commands.session]
    exact used
  | climbs owned fits step rises forward commands timer =>
    rw [commands.session]
    exact used
  | begins fits =>
    apply absurd _ unbegun
    refine ⟨rfl, ?_⟩
    unfold State.beginContinuous
    rw [if_neg (not_not.mpr fits)]
  | budgets fits =>
    rw [State.budgets_eq fits]
    exact used
  | boosts fits =>
    rw [State.boosts_eq fits]
  | ends fits =>
    rw [State.ends_eq fits]
    exact used
  | plans fits =>
    rw [State.plans_eq fits]
    exact used
  | ticks => exact used

/-- An output stays within the ceilings of its direction, and above the normal cap a boost of its session is in force. -/
theorem output_bounded (run : Run c armed past s) (on : s.bridge.isDisabled = false) :
    -c.releaseProfile ≤ s.session.committed ∧ s.session.committed ≤ c.executorPress ∧
      (s.session.boostSet = false → s.session.committed ≤ c.continuous ∧
        (s.session.budgetSet = true → s.session.committed ≤ s.session.normalCap)) := by
  have sound := run_sound run
  have bounded := run_bounded run (sound.leased (sound.lit on)).isOpen
  exact ⟨bounded.low, bounded.high, bounded.normal⟩

theorem output_bounded_pressing : (played pressing).2.session.committed ≤ 9600 :=
  (output_bounded (played_run pressing (by decide +kernel)) (by decide +kernel)).2.1

/-- Between two boosts a new session has been opened. -/
theorem boost_once {later earlier : List (Turn State Event)} {turn : Turn State Event}
    (run : Run c armed (later ++ turn :: earlier) s) (boosted : Boosted c armed turn) :
    ¬Since (Boosted c armed) (Begun armed) earlier := by
  intro since
  obtain ⟨recorded, _⟩ := run.at_turn
  obtain ⟨token, now, durationMs, _, ok⟩ := boosted
  have used := run_boostUsed recorded since
  unfold State.armBoost at ok
  by_cases refused : ¬turn.before.boostFits c armed token durationMs
  · rw [if_pos refused] at ok
    contradiction
  · exact (not_not.mp refused).2.2.1 used

theorem boost_once_boosting : ¬Since (Boosted .characterized true) (Begun true) (played pressing).1 := by
  have run := (played_run pressing (by decide +kernel)).turn (.drive (.armBoost 1 0 4)) (by exact trivial)
  exact @boost_once _ _ _ [] _ _ run ⟨1, 0, 4, rfl, by decide +kernel⟩

/-! ### The deadline of a boost -/

/-- An update accepted since the boost was armed has put the lease under its deadline. -/
def Covered (c : Ceilings) (armed : Bool) : List (Turn State Event) → Prop :=
  Since (fun turn => ∃ r, Sampled c armed r turn) (Boosted c armed)

theorem covered_step (sound : s.Sound c) (bounded : s.session.isOpen = true → Bounded c s)
    (covered : s.timer.armed = true → s.session.boostSet = true → Covered c armed past →
      s.Before s.session.boostDeadline)
    (admitted : s.admitsEvent event) (running : (s.step c armed event).timer.armed = true)
    (set : (s.step c armed event).session.boostSet = true)
    (since : Covered c armed (⟨s, event, s.step c armed event⟩ :: past)) :
    (s.step c armed event).Before (s.step c armed event).session.boostDeadline := by
  have outcome := State.step_outcome armed sound event
  by_cases sampled : ∃ r, Sampled c armed r ⟨s, event, s.step c armed event⟩
  · obtain ⟨r, rfl, ok⟩ := sampled
    have accepts := State.update_accepts sound ok
    change (s.updateContinuous c armed r).2.session.boostSet = true at set
    change (s.updateContinuous c armed r).2.Before _
    obtain ⟨remaining, lease, _, short⟩ := accepts.lease
    have clock : (s.updateContinuous c armed r).2.clock = s.clock :=
      congrArg (fun time => stamp 32 (time / 10)) accepts.time
    have before := short set
    have session := accepts.session
    rw [session] at set
    have was : s.session.boostSet = true := ((Bool.and_eq_true _ _).mp set).1
    have owner := (not_not.mp (not_or.mp accepts.owned).1).1
    have limited := ((bounded owner).boosted was).1
    have deadline : (s.updateContinuous c armed r).2.session.boostDeadline = s.session.boostDeadline := by
      rw [session]
      rfl
    change (s.updateContinuous c armed r).2.Before (s.updateContinuous c armed r).2.session.boostDeadline
    rw [deadline]
    apply lease.before
    · change _ ≤ _ - (s.updateContinuous c armed r).2.clock
      rw [clock]
      exact before
    · change (_ - (s.updateContinuous c armed r).2.clock).toNat ≤ _
      rw [clock]
      apply State.near_of_not_reached
      intro reached
      exact accepts.admitted.1 ⟨limited, Or.inr (Or.inl ⟨was, reached⟩)⟩
  have before := since.resolve_left sampled
  have unboosted := before.1
  have covered := fun running set => covered running set before.2
  generalize after : s.step c armed event = t at outcome running set sampled ⊢
  cases outcome with
  | same => exact covered running set
  | dark off idle kin kept =>
    rw [idle] at running
    contradiction
  | accepts ok accepts => exact absurd ⟨_, rfl, ok⟩ sampled
  | lowers fits commands lease short =>
    rw [commands.session] at set
    contradiction
  | climbs owned fits step rises forward commands timer =>
    obtain ⟨was, _⟩ := State.leased_of_valid sound fits.2.2.1 fits.2.2.2.2.2.2
    have early := covered was fits.2.1
    have deadline : t.session.boostDeadline = s.session.boostDeadline := by
      rw [commands.session]
      rfl
    change t.timer.Before t.time _
    rw [deadline, timer, commands.time]
    exact early
  | begins fits =>
    rw [State.begins_eq fits] at set
    contradiction
  | budgets fits =>
    have idle := State.budgets_idle sound fits
    rw [State.budgets_eq fits] at running
    rw [idle] at running
    contradiction
  | boosts fits =>
    apply absurd _ unboosted
    refine ⟨_, _, _, rfl, ?_⟩
    unfold State.armBoost
    rw [if_neg (not_not.mpr fits)]
  | ends fits =>
    rw [State.ends_eq fits] at running set ⊢
    exact covered running set
  | plans fits =>
    rw [State.plans_eq fits] at running set ⊢
    exact covered running set
  | ticks =>
    have was := (StopTimer.tick_armed s.timer).symm.trans running
    have leased := sound.leased was
    obtain ⟨_, lead, ahead⟩ := State.tick_lead leased admitted
    exact ((covered was set).tick lead ahead).1

/-- Once a sample has been accepted under a boost, the boost's own deadline cuts the output as well. -/
theorem boost_cut (run : Run c armed past s) (on : s.bridge.isDisabled = false) (set : s.session.boostSet = true)
    (since : Covered c armed past) : ¬Reached s.clock s.session.boostDeadline := by
  have sound := run_sound run
  have covered := recorded_invariant
    (fun past state => state.timer.armed = true → state.session.boostSet = true → Covered c armed past →
      state.Before state.session.boostDeadline)
    (fun _ _ _ _ nothing => nothing.elim)
    (fun _ _ _ recorded admitted covered running set since =>
      covered_step (run_sound recorded) (run_bounded recorded) covered admitted running set since) run
  exact (covered (sound.lit on) set since).not_reached

theorem boost_cut_boosting : ¬Reached (played boosting).2.clock (played boosting).2.session.boostDeadline :=
  boost_cut (played_run boosting (by decide +kernel)) (by decide +kernel) (by decide +kernel)
    (Or.inl ⟨_, rfl, by decide +kernel⟩)

/-! ### Turning round -/

def heading (b : Registers) : ℤ := if b.isDisabled then 0 else if b.compare3 ≠ 0 then 1 else -1

theorem heading_planned {command : ℤ} {t2 t3 : U16} {b : Registers} (planned : State.Planned c command t2 t3)
    (driven : b.matchesPlan t2 t3 = true) : heading b = command.sign := by
  unfold State.Planned at planned
  unfold heading
  by_cases zero : command = 0
  · rw [if_pos zero] at planned
    obtain ⟨rfl, rfl⟩ := planned
    have off : b.isDisabled = true := driven
    rw [if_pos off, zero]
    rfl
  rw [if_neg zero] at planned
  obtain ⟨plan, found, rfl, rfl⟩ := planned
  obtain ⟨_, press, release⟩ := State.plan_one_sided found
  have counted := State.plan_counts found
  unfold Registers.matchesPlan at driven
  by_cases forward : 0 < command
  · have direction : directionOf command = .press := if_pos forward
    rw [direction] at press counted
    rw [press rfl] at driven
    have on : plan.tim3 ≠ 0 := counted.1 rfl
    rw [if_neg fun both => on both.2, if_neg fun both => both.1 rfl, if_pos on, Bool.and_eq_true] at driven
    have valid := driven.2
    simp only [Registers.activeCompareIsValid, Bool.and_eq_true, decide_eq_true_eq] at valid
    have lit : ¬b.isDisabled = true := by
      simp [Registers.isDisabled, valid.1.1.1.1]
    rw [if_neg lit, valid.2, if_pos on]
    exact (Int.sign_eq_one_of_pos forward).symm
  · have direction : directionOf command = .release := if_neg forward
    rw [direction] at release counted
    rw [release rfl] at driven
    have on : plan.tim2 ≠ 0 := counted.2 rfl
    rw [if_neg fun both => on both.1, if_neg fun both => both.2 rfl, if_neg fun other => other rfl, Bool.and_eq_true] at driven
    have valid := driven.2
    simp only [Registers.releaseCompareIsValid, Bool.and_eq_true, decide_eq_true_eq] at valid
    have lit : ¬b.isDisabled = true := by
      simp [Registers.isDisabled, valid.1.1.1.1]
    rw [if_neg lit, valid.2, if_neg fun other => other rfl]
    exact (Int.sign_eq_neg_one_of_neg (by omega)).symm

def opens : Event → Bool
  | .drive .beginContinuous => true
  | _ => false

/-- The last way the bridge has driven in this session up to this turn, with the millisecond. -/
def lastLit (armed : Bool) : List (Turn State Event) → Option (ℤ × ℕ)
  | [] => none
  | turn :: past =>
    if opens turn.event ∧ turn.before.mayBegin armed then none
    else if turn.before.bridge.isDisabled then lastLit armed past
    else some (heading turn.before.bridge, turn.before.time / 10)

def lastSeen (armed : Bool) (past : List (Turn State Event)) (s : State) : Option (ℤ × ℕ) :=
  if s.bridge.isDisabled then lastLit armed past else some (heading s.bridge, s.time / 10)

structure Turned (armed : Bool) (past : List (Turn State Event)) (s : State) : Prop where
  sign : s.session.committed ≠ 0 → s.session.lastSign = s.session.committed.sign
  seen : ∀ way ms, lastSeen armed past s = some (way, ms) → s.session.lastSign = way ∧ ms ≤ s.time / 10 ∧
    (s.bridge.isDisabled = true → s.session.committed = 0 →
      ∃ off, s.session.offMs = stamp 32 off ∧ ms ≤ off ∧ off ≤ s.time / 10)

theorem lit_committed (sound : s.Sound c) (on : s.bridge.isDisabled = false) :
    heading s.bridge = s.session.committed.sign ∧ s.session.committed ≠ 0 := by
  have leased := sound.leased (sound.lit on)
  have way := heading_planned leased.planned leased.driven
  refine ⟨way, fun zero => ?_⟩
  rw [zero] at way
  unfold heading at way
  rw [if_neg (Bool.eq_false_iff.mp on), Int.sign_zero] at way
  split_ifs at way
  exact absurd way (by decide)

theorem lit_on {b : Registers} (on : b.isDisabled = false) : heading b ≠ 0 := by
  unfold heading
  rw [if_neg (Bool.eq_false_iff.mp on)]
  split_ifs <;> decide

theorem lastLit_ne {way : ℤ} {ms : ℕ} (last : lastLit armed past = some (way, ms)) : way ≠ 0 := by
  induction past with
  | nil => contradiction
  | cons turn past ih =>
    rw [lastLit] at last
    by_cases begun : opens turn.event = true ∧ turn.before.mayBegin armed = true
    · rw [if_pos begun] at last
      contradiction
    rw [if_neg begun] at last
    by_cases off : turn.before.bridge.isDisabled = true
    · rw [if_pos off] at last
      exact ih last
    · rw [if_neg off] at last
      rw [← (Prod.mk.inj (Option.some.inj last)).1]
      exact lit_on (Bool.eq_false_iff.mpr off)

theorem lastSeen_ne {way : ℤ} {ms : ℕ} (last : lastSeen armed past s = some (way, ms)) : way ≠ 0 := by
  unfold lastSeen at last
  by_cases off : s.bridge.isDisabled = true
  · rw [if_pos off] at last
    exact lastLit_ne last
  · rw [if_neg off] at last
    rw [← (Prod.mk.inj (Option.some.inj last)).1]
    exact lit_on (Bool.eq_false_iff.mpr off)

theorem Turned.on {turn : Turn State Event} (turned : Turned armed past s) (before : turn.before = s)
    (unbegun : ¬(opens turn.event = true ∧ turn.before.mayBegin armed = true))
    (bridge : t.bridge = s.bridge) (committed : t.session.committed = s.session.committed)
    (sign : t.session.lastSign = s.session.lastSign) (off : t.session.offMs = s.session.offMs)
    (later : s.time / 10 ≤ t.time / 10) (lit : s.bridge.isDisabled = false → t.session.lastSign = heading s.bridge) :
    Turned armed (turn :: past) t := by
  have record : lastLit armed (turn :: past) = lastSeen armed past s := by
    rw [lastLit, if_neg unbegun, before, lastSeen]
  constructor
  · rw [committed, sign]
    exact turned.sign
  · intro way ms seen
    unfold lastSeen at seen
    rw [record, bridge] at seen
    cases dark : s.bridge.isDisabled with
    | false =>
      rw [if_neg (Bool.eq_false_iff.mp dark)] at seen
      obtain ⟨rfl, rfl⟩ := Prod.mk.inj (Option.some.inj seen)
      refine ⟨lit dark, le_refl _, fun still => ?_⟩
      rw [bridge, dark] at still
      contradiction
    | true =>
      rw [if_pos dark] at seen
      obtain ⟨same, earlier, rest⟩ := turned.seen way ms seen
      refine ⟨sign.trans same, Nat.le_trans earlier later, fun _ zero => ?_⟩
      rw [committed] at zero
      obtain ⟨since, written, low, high⟩ := rest dark zero
      exact ⟨since, off.trans written, low, Nat.le_trans high later⟩

theorem Turned.commanded {turn : Turn State Event} (sound : s.Sound c) (after : t.Sound c)
    (turned : Turned armed past s) (before : turn.before = s)
    (unbegun : ¬(opens turn.event = true ∧ turn.before.mayBegin armed = true))
    (time : t.time = s.time) (sign : t.session.committed ≠ 0 → t.session.lastSign = t.session.committed.sign)
    (kept : t.bridge.isDisabled = true → t.session.lastSign = s.session.lastSign)
    (rests : t.bridge.isDisabled = true → t.session.committed = 0 →
      t.session.offMs = (if s.session.committed ≠ 0 then s.clock else s.session.offMs) ∨ t.session.offMs = s.clock) :
    Turned armed (turn :: past) t := by
  have record : lastLit armed (turn :: past) = lastSeen armed past s := by
    rw [lastLit, if_neg unbegun, before, lastSeen]
  refine ⟨sign, fun way ms seen => ?_⟩
  unfold lastSeen at seen
  cases lit : t.bridge.isDisabled with
  | false =>
    rw [if_neg (Bool.eq_false_iff.mp lit)] at seen
    obtain ⟨rfl, rfl⟩ := Prod.mk.inj (Option.some.inj seen)
    obtain ⟨same, committed⟩ := lit_committed after lit
    exact ⟨(sign committed).trans same.symm, le_refl _, fun still => by contradiction⟩
  | true =>
    rw [if_pos lit, record] at seen
    obtain ⟨same, earlier, rest⟩ := turned.seen way ms seen
    rw [time]
    refine ⟨(kept lit).trans same, earlier, fun _ zero => ?_⟩
    by_cases stopped : t.session.offMs = s.clock
    · exact ⟨s.time / 10, stopped, earlier, le_refl _⟩
    have written := (rests lit zero).resolve_right stopped
    by_cases on : s.session.committed ≠ 0
    · rw [if_pos on] at written
      exact absurd written stopped
    · rw [if_neg on] at written
      have off : s.bridge.isDisabled = true := by
        by_contra lit
        exact on (lit_committed sound (Bool.eq_false_iff.mpr lit)).2
      obtain ⟨since, same, low, high⟩ := rest off (not_not.mp on)
      exact ⟨since, written.trans same, low, high⟩

theorem dark_committed {command : ℤ} {t2 t3 : U16} {b : Registers} (planned : State.Planned c command t2 t3)
    (driven : b.matchesPlan t2 t3 = true) (dark : b.isDisabled = true) : command = 0 := by
  have way := heading_planned planned driven
  unfold heading at way
  rw [if_pos dark] at way
  exact Int.sign_eq_zero_iff_zero.mp way.symm

theorem turned_step (sound : s.Sound c) (turned : s.session.isOpen = true → Turned armed past s)
    (admitted : s.admitsEvent event) (opened : (s.step c armed event).session.isOpen = true) :
    Turned armed (⟨s, event, s.step c armed event⟩ :: past) (s.step c armed event) := by
  by_cases begun : opens event = true ∧ s.mayBegin armed = true
  · have fresh : lastLit armed (⟨s, event, s.step c armed event⟩ :: past) = none := by
      rw [lastLit, if_pos begun]
    have idle := State.begins_idle sound begun.2
    have begins : s.step c armed event = (s.beginContinuous armed).2 := by
      cases event with
      | drive call => cases call <;> first | rfl | exact absurd begun.1 Bool.false_ne_true
      | _ => exact absurd begun.1 Bool.false_ne_true
    refine ⟨fun on => ?_, fun way ms seen => ?_⟩
    · rw [begins, State.begins_eq begun.2] at on
      exact absurd rfl on
    · have off : (s.step c armed event).bridge.isDisabled = true := by
        rw [begins, State.begins_eq begun.2]
        exact sound.off_of_idle idle
      rw [lastSeen, if_pos off, fresh] at seen
      contradiction
  have outcome := State.step_outcome armed sound event
  have after := State.step_sound armed sound admitted
  generalize s.step c armed event = t at outcome opened after ⊢
  have lit : Turned armed past s → s.bridge.isDisabled = false → s.session.lastSign = heading s.bridge := by
    intro turned on
    obtain ⟨same, committed⟩ := lit_committed sound on
    exact (turned.sign committed).trans same.symm
  cases outcome with
  | same => exact (turned opened).on rfl begun rfl rfl rfl rfl (le_refl _) (lit (turned opened))
  | dark off idle kin kept =>
    have same := kept opened
    rw [same] at opened
    have held := turned opened
    apply held.commanded sound after rfl begun kin.time
    · rw [same]
      exact held.sign
    · exact fun _ => congrArg Session.lastSign same
    · intro _ zero
      rw [same] at zero ⊢
      exact Or.inl (if_neg (not_not.mpr zero)).symm
  | @accepts r ok accepts =>
    have owner := (not_not.mp (not_or.mp accepts.owned).1).1
    have session := accepts.session
    apply (turned owner).commanded sound after rfl begun accepts.time
    · rw [session]
      exact fun on => if_neg on
    · intro dark
      rw [session]
      exact if_pos (dark_committed accepts.planned accepts.driven dark)
    · intro dark _
      have zero := dark_committed accepts.planned accepts.driven dark
      left
      rw [session]
      change (if s.letThrough r = 0 ∧ s.session.committed ≠ 0 then s.clock else s.session.offMs) = _
      by_cases on : s.session.committed ≠ 0
      · rw [if_pos ⟨zero, on⟩, if_pos on]
      · rw [if_neg fun both => on both.2, if_neg on]
  | @lowers call t requested remaining fits commands running short =>
    obtain ⟨_, leased, _⟩ := State.leased_of_valid sound fits.2.2.2.2.2.2.2.2.1 fits.2.2.2.2.2.2.2.2.2.2.2.2
    have held := turned leased.isOpen
    have session := commands.session
    apply held.commanded sound after rfl begun commands.time
    · rw [session]
      intro on
      change requested ≠ 0 at on
      have forward := fits.2.2.2.1
      have below := fits.2.2.2.2.2.1
      change s.session.lastSign = requested.sign
      rw [held.sign (by omega), Int.sign_eq_one_of_pos (show 0 < requested by omega),
        Int.sign_eq_one_of_pos (show 0 < s.session.committed by omega)]
    · rw [session]
      exact fun _ => rfl
    · intro dark _
      right
      rw [session]
      exact if_pos (dark_committed commands.planned commands.driven dark)
  | @climbs token now t requested owned fits step rises forward commands timer =>
    obtain ⟨_, leased, _⟩ := State.leased_of_valid sound fits.2.2.1 fits.2.2.2.2.2.2
    have held := turned leased.isOpen
    have session := commands.session
    have same_of_zero : requested = 0 → requested = s.session.committed := by
      intro zero
      exact rises.resolve_right (by omega)
    apply held.commanded sound after rfl begun commands.time
    · rw [session]
      intro on
      change requested ≠ 0 at on
      change (if requested = s.session.committed then s.session.lastSign else 1) = requested.sign
      by_cases same : requested = s.session.committed
      · rw [if_pos same, same]
        exact held.sign (same ▸ on)
      · rw [if_neg same]
        have forward := step.2.2.1
        exact (Int.sign_eq_one_of_pos (by omega)).symm
    · intro dark
      rw [session]
      exact if_pos (same_of_zero (dark_committed commands.planned commands.driven dark))
    · intro dark _
      have zero := dark_committed commands.planned commands.driven dark
      left
      rw [session, if_neg (not_not.mpr ((same_of_zero zero).symm.trans zero))]
      rfl
  | begins fits => exact absurd ⟨rfl, fits⟩ begun
  | budgets fits =>
    have held := turned fits.1.1
    rw [State.budgets_eq fits]
    exact held.on rfl begun rfl rfl rfl rfl (le_refl _) (lit held)
  | boosts fits =>
    have held := turned fits.1.1
    rw [State.boosts_eq fits]
    exact held.on rfl begun rfl rfl rfl rfl (le_refl _) (lit held)
  | ends fits =>
    have held := turned fits.1.1
    rw [State.ends_eq fits]
    exact held.on rfl begun rfl rfl rfl rfl (le_refl _) (lit held)
  | plans fits =>
    have held := turned fits.1.1
    rw [State.plans_eq fits]
    exact held.on rfl begun rfl rfl rfl rfl (le_refl _) (lit held)
  | ticks => exact (turned opened).on rfl begun rfl rfl rfl rfl (Nat.div_le_div_right (Nat.le_succ _)) (lit (turned opened))

theorem run_turned (run : Run c armed past s) : s.session.isOpen = true → Turned armed past s :=
  recorded_invariant (fun past state => state.session.isOpen = true → Turned armed past state)
    (fun state boots opened => by
      obtain ⟨bridge, timer, time, rfl⟩ := boots
      contradiction)
    (fun _ _ _ recorded admitted turned opened => turned_step (run_sound recorded) turned admitted opened) run

/-- An output never turns round in one step: where the bridge drives another way than it last did in the session, it has
been off in between, and an accepted update has waited for the dead time, or a boost plan was being served. -/
theorem turns_after_deadtime {way : ℤ} {ms : ℕ} (run : Run c armed (⟨t, event, s⟩ :: past) s)
    (on : s.bridge.isDisabled = false) (last : lastLit armed (⟨t, event, s⟩ :: past) = some (way, ms)) (other : heading s.bridge ≠ way) :
    t.bridge.isDisabled = true ∧
      ((∃ r, Sampled c armed r ⟨t, event, s⟩ ∧ 2 ≤ r.deadtimeMs.toNat ∧ ms + r.deadtimeMs.toNat ≤ s.time / 10) ∨
        ∃ token now, event = .drive (.serviceBoost token now) ∧ t.session.boostPlan = true ∧ heading s.bridge = 1) := by
  obtain ⟨recorded, same, admitted⟩ := @Recorded.at_turn _ _ _ _ _ [] _ _ _ run
  change Run c armed past t at recorded
  change s = t.step c armed event at same
  change t.admitsEvent event at admitted
  have sound := run_sound recorded
  have outcome := State.step_outcome armed sound event
  rw [← same] at outcome
  have unbegun : ¬(opens event = true ∧ t.mayBegin armed = true) := by
    intro begun
    rw [lastLit, if_pos begun] at last
    contradiction
  have record : lastSeen armed past t = some (way, ms) := by
    rw [lastLit, if_neg unbegun] at last
    exact last
  have seen : t.bridge.isDisabled = false → way = heading t.bridge := by
    intro lit
    rw [lastSeen, if_neg (Bool.eq_false_iff.mp lit)] at record
    exact (Prod.mk.inj (Option.some.inj record)).1.symm
  have kept : s.bridge = t.bridge → False := by
    intro bridge
    rw [bridge] at on other
    exact other (seen on).symm
  cases outcome with
  | same => exact (kept rfl).elim
  | dark off idle kin kept =>
    rw [off] at on
    contradiction
  | @accepts r ok accepts =>
    have owner := (not_not.mp (not_or.mp accepts.owned).1).1
    have turned := run_turned recorded owner
    have driving : t.letThrough r ≠ 0 := by
      intro zero
      have way := heading_planned accepts.planned accepts.driven
      rw [zero] at way
      exact (lit_on on) way
    have through : ¬(t.reverses r ∨ t.tooSoon r) := by
      intro stopped
      exact driving (if_pos stopped)
    have asked : t.letThrough r = r.requested := if_neg through
    obtain ⟨steady, waited⟩ := not_or.mp through
    have forward : heading (t.updateContinuous c armed r).2.bridge = r.requested.sign := by
      rw [heading_planned accepts.planned accepts.driven, asked]
    obtain ⟨sign, earlier, rest⟩ := turned.seen way ms record
    have apart : r.requested.sign ≠ t.session.lastSign := by
      rw [sign, ← forward]
      exact other
    have moving : r.requested.sign ≠ 0 := by
      rw [← forward]
      exact lit_on on
    have idle : t.session.committed = 0 := by
      by_contra busy
      exact steady ⟨busy, moving, apart⟩
    have off : t.bridge.isDisabled = true := by
      by_contra lit
      exact (lit_committed sound (Bool.eq_false_iff.mpr lit)).2 idle
    refine ⟨off, Or.inl ⟨r, ⟨rfl, ok⟩, ?_⟩⟩
    obtain ⟨since, written, low, high⟩ := rest off idle
    have drove : t.session.lastSign ≠ 0 := by
      rw [sign]
      exact lastSeen_ne record
    have dead : r.deadtimeMs.toNat ≤ (t.clock - t.session.offMs).toNat := by
      by_contra less
      exact waited ⟨moving, drove, apart, BitVec.not_le.mp less⟩
    rw [written] at dead
    have passed := stamp_sub_le (w := 32) high
    have ceiling := accepts.admitted.2.1
    unfold State.overCeiling at ceiling
    push Not at ceiling
    have least : 2 ≤ r.deadtimeMs.toNat := BitVec.not_lt.mp ceiling.2.2.2.2.2
    have time : (t.updateContinuous c armed r).2.time = t.time := accepts.time
    refine ⟨least, ?_⟩
    rw [time]
    exact (Nat.add_le_add low (Nat.le_trans dead passed)).trans (by omega)
  | @lowers call t requested remaining fits commands running short =>
    obtain ⟨_, _, dark⟩ := State.leased_of_valid sound fits.2.2.2.2.2.2.2.2.1 fits.2.2.2.2.2.2.2.2.2.2.2.2
    have positive : 0 < requested := by
      have low := fits.2.2.2.1
      by_contra zero
      have way := heading_planned commands.planned commands.driven
      rw [show requested = 0 by omega] at way
      exact lit_on on way
    have below := fits.2.2.2.2.2.1
    have lit : t.bridge.isDisabled = false := by
      rw [dark]
      exact decide_eq_false (by omega)
    apply absurd _ other
    rw [seen lit, (lit_committed sound lit).1, heading_planned commands.planned commands.driven,
      Int.sign_eq_one_of_pos positive, Int.sign_eq_one_of_pos (by omega)]
  | @climbs token now t requested owned fits step rises forward commands timer =>
    have positive : 0 < requested := by
      have low := step.2.2.1
      by_contra zero
      have way := heading_planned commands.planned commands.driven
      rw [show requested = 0 by omega] at way
      exact lit_on on way
    have ahead : heading s.bridge = 1 := by
      rw [heading_planned commands.planned commands.driven, Int.sign_eq_one_of_pos positive]
    refine ⟨?_, Or.inr ⟨token, now, rfl, fits.1, ahead⟩⟩
    by_contra lit
    have lit := Bool.eq_false_iff.mpr lit
    obtain ⟨same, busy⟩ := lit_committed sound lit
    apply other
    rw [seen lit, same, ahead, Int.sign_eq_one_of_pos (by omega)]
  | begins fits => exact absurd ⟨rfl, fits⟩ unbegun
  | budgets fits =>
    apply (kept _).elim
    rw [State.budgets_eq fits]
  | boosts fits =>
    apply (kept _).elim
    rw [State.boosts_eq fits]
  | ends fits =>
    apply (kept _).elim
    rw [State.ends_eq fits]
  | plans fits =>
    apply (kept _).elim
    rw [State.plans_eq fits]
  | ticks => exact (kept rfl).elim

theorem turns_after_deadtime_turning : (played turning).2.bridge.isDisabled = true := by
  have run := (played_run turning (by decide +kernel)).turn (sample 3 3 (-50)) (by exact trivial)
  exact (@turns_after_deadtime _ _ _ _ _ _ 1 0 run (by decide +kernel) (by decide +kernel) (by decide +kernel)).1

end Sd700.Motor.Continuous
