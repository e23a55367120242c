import Sd700.Machine.Deadlines
import Sd700.Machine.PressSteps
import Sd700.Machine.SettleGate

/-! The press boost of AutoTarget over whole runs: every mapped command is a base and a boost within
the cap of its band, and a rise of the boost has been earned by two presses that completed, settled and
moved the pressure too little. A position in a run is the record of the turns up to it. -/

namespace Sd700.Machine.PressBoost
open Logic.Run Logic.Modular Logic.Floating Build.Contract Motor.Interface Motor.Pulses Context Motion Handlers
  Outcomes Ownership SettleGate PressRamp PressSteps
open Deadlines (autoTargetBench)
open Servo.State (CommandType CommandResult Command Sample)

variable {F Exec : Type}

abbrev Act (F Exec : Type) := Turn (System F (Exec × List (StartCall × Bool))) (Event F)

def latest : History F Exec → Sample
  | [] => noSample
  | turn :: _ => turn.after.pressure

def number : History F Exec → U32
  | [] => 0
  | turn :: _ => turn.after.motorRequestSequence

def Presses (turn : Act F Exec) : Prop :=
  turn.after.state = .autoPulse ∧
    ∃ request, turn.after.exec.2 = (request, true) :: turn.before.exec.2 ∧ request.direction = .press

/-- A PRESS correction runs, since the position `start`. -/
inductive Pressing : History F Exec → History F Exec → Prop
  | starts (turn : Act F Exec) (past : History F Exec) (presses : Presses turn) :
      Pressing (turn :: past) (turn :: past)
  | runs {past start : History F Exec} (turn : Act F Exec) (pressing : Pressing past start)
      (silent : ¬ StartsMotor turn) (state : turn.after.state = .autoPulse) : Pressing (turn :: past) start

/-- It has completed NORMAL, at the position `finish`, and the machine settles. -/
inductive Finished (env : Platform F Exec) : History F Exec → History F Exec → History F Exec → Prop
  | completes {past start : History F Exec} (turn : Act F Exec) (pressing : Pressing past start)
      (serviced : ∃ now, turn.event = .handleMotorService now) (pulse : turn.before.state = .autoPulse)
      (own : (snapshot env.logged turn.before).requestSequence = number start)
      (normal : (snapshot env.logged turn.before).lastCompletion = .normal)
      (silent : ¬ StartsMotor turn) (settles : turn.after.state = .autoSettle) :
      Finished env (turn :: past) start (turn :: past)
  | waits {past start finish : History F Exec} (turn : Act F Exec) (finished : Finished env past start finish)
      (silent : ¬ StartsMotor turn) (settles : turn.after.state = .autoSettle)
      (going : turn.after.settlePhase = .waitDelay → turn.before.settlePhase = .waitDelay) :
      Finished env (turn :: past) start finish

/-- The newest turn judges a sample against the press that began at `start`: the machine has settled since
the press completed, the sample is newer and received later, and in its band the pressure has risen by
less than two units. The wait is over. -/
inductive LowResponse (env : Platform F Exec) (band : ℕ) : History F Exec → History F Exec → Prop
  | judged {past start finish since gate : History F Exec} (turn : Act F Exec) (p : Sample) (now : U32)
      (sample : turn.event = .handlePressureSample p now) (finished : Finished env past start finish)
      (opened : Opened env past since gate) (settled : finish <:+ since) (classifies : Classifies env turn gate)
      (newer : (latest start).sequence < p.sequence) (later : Reached p.received (clock finish))
      (low : p.control - (latest start).control < 2) (far : band ≠ 1)
      (current : pressBand (store p turn.before) = band)
      (waited : turn.before.settlePhase = .waitSample)
      (over_ : turn.after.state = .autoSettle → turn.after.settlePhase = .waitDelay) :
      LowResponse env band (turn :: past) start

/-- The boost is larger after the turn than before it. -/
def Rises (turn : Act F Exec) : Prop := turn.before.press.boostMv < turn.after.press.boostMv

def Unspent (first past : History F Exec) : Prop :=
  ∀ later turn earlier, past = later ++ turn :: earlier → first <:+ turn :: earlier → ¬ Rises turn

/-- Two low responses in one band, of two presses, the second at the turn itself; no rise lies between. -/
structure EarnedBy (env : Platform F Exec) (turn : Act F Exec) (past : History F Exec) (band : ℕ)
    (start first origin : History F Exec) : Prop where
  second : LowResponse env band (turn :: past) start
  earlier : LowResponse env band first origin
  behind : first <:+ start
  apart : origin ≠ start
  unspent : Unspent first past

def Earned (env : Platform F Exec) (turn : Act F Exec) (past : History F Exec) : Prop :=
  ∃ band start first origin, EarnedBy env turn past band start first origin

/-- The rise is owed to the press that began at the position. -/
def Uses (env : Platform F Exec) (turn : Act F Exec) (past press : History F Exec) : Prop :=
  ∃ band start first origin, EarnedBy env turn past band start first origin ∧ (press = start ∨ press = origin)

variable {env : Platform F Exec} {past start finish since gate : History F Exec}

/-! ### Positions -/

theorem Pressing.state (pressing : Pressing past start) :
    ∃ turn earlier, past = turn :: earlier ∧ turn.after.state = .autoPulse := by
  cases pressing with
  | starts turn past presses => exact ⟨turn, past, rfl, presses.1⟩
  | runs turn pressing silent state => exact ⟨turn, _, rfl, state⟩

theorem Finished.state (finished : Finished env past start finish) :
    ∃ turn earlier, past = turn :: earlier ∧ turn.after.state = .autoSettle := by
  cases finished with
  | completes turn pressing serviced pulse own normal silent settles => exact ⟨turn, _, rfl, settles⟩
  | waits turn finished silent settles going => exact ⟨turn, _, rfl, settles⟩

theorem Pressing.not_finished {other : History F Exec} (pressing : Pressing past start)
    (finished : Finished env past other finish) : False := by
  obtain ⟨turn, earlier, rfl, pulse⟩ := pressing.state
  obtain ⟨turn', earlier', same, settles⟩ := finished.state
  obtain ⟨rfl, rfl⟩ := List.cons.inj same
  exact absurd (pulse.symm.trans settles) (by decide)

theorem Pressing.suffix (pressing : Pressing past start) : start <:+ past := by
  induction pressing with
  | starts turn past presses => exact List.suffix_rfl
  | runs turn pressing silent state ih => exact ih.trans (List.suffix_cons _ _)

theorem Finished.suffix (finished : Finished env past start finish) : start <:+ past := by
  induction finished with
  | completes turn pressing serviced pulse own normal silent settles =>
    exact pressing.suffix.trans (List.suffix_cons _ _)
  | waits turn finished silent settles going ih => exact ih.trans (List.suffix_cons _ _)

theorem Finished.finish_suffix (finished : Finished env past start finish) : finish <:+ past := by
  induction finished with
  | completes turn pressing serviced pulse own normal silent settles => exact List.suffix_rfl
  | waits turn finished silent settles going ih => exact ih.trans (List.suffix_cons _ _)

theorem LowResponse.suffix {band : ℕ} (response : LowResponse env band past start) :
    start <:+ past ∧ start ≠ past := by
  cases response with
  | judged turn p now sample finished opened settled classifies newer later low far current waited over_ =>
    have inside := finished.suffix
    refine ⟨inside.trans (List.suffix_cons _ _), ?_⟩
    rintro rfl
    have longer := inside.length_le
    rw [List.length_cons] at longer
    omega

theorem settling_state (settling : Settling env past since) :
    ∃ turn earlier, past = turn :: earlier ∧ turn.after.state = .autoSettle := by
  cases settling with
  | entered turn past quiet settles waits entry => exact ⟨turn, past, rfl, settles⟩
  | waits turn settling quiet settles => exact ⟨turn, _, rfl, settles⟩

theorem opened_state (opened : Opened env past since gate) :
    ∃ turn earlier, past = turn :: earlier ∧ turn.after.state = .autoSettle := by
  cases opened with
  | expires turn settling ticks expired quiet settles => exact ⟨turn, _, rfl, settles⟩
  | waits turn opened quiet settles => exact ⟨turn, _, rfl, settles⟩

theorem Pressing.not_settling (pressing : Pressing past start) (settling : Settling env past since) : False := by
  obtain ⟨turn, earlier, rfl, pulse⟩ := pressing.state
  obtain ⟨turn', earlier', same, settles⟩ := settling_state settling
  obtain ⟨rfl, rfl⟩ := List.cons.inj same
  exact absurd (pulse.symm.trans settles) (by decide)

theorem Pressing.not_opened (pressing : Pressing past start) (opened : Opened env past since gate) : False := by
  obtain ⟨turn, earlier, rfl, pulse⟩ := pressing.state
  obtain ⟨turn', earlier', same, settles⟩ := opened_state opened
  obtain ⟨rfl, rfl⟩ := List.cons.inj same
  exact absurd (pulse.symm.trans settles) (by decide)

/-- The settle period of a completed press began with its completion, or later. -/
theorem Finished.settling (finished : Finished env past start finish) (settling : Settling env past since) :
    finish <:+ since := by
  induction finished with
  | completes turn pressing serviced pulse own normal silent settles =>
    cases settling with
    | entered turn past quiet settles waits entry => exact List.suffix_rfl
    | waits turn settling quiet settles => exact (pressing.not_settling settling).elim
  | waits turn finished silent settles going ih =>
    cases settling with
    | entered turn past quiet settles waits entry => exact finished.finish_suffix.trans (List.suffix_cons _ _)
    | waits turn settling quiet settles => exact ih settling

theorem Finished.opened (finished : Finished env past start finish) (opened : Opened env past since gate) :
    finish <:+ since := by
  induction finished generalizing gate with
  | completes turn pressing serviced pulse own normal silent settles =>
    cases opened with
    | expires turn settling ticks expired quiet settles => exact (pressing.not_settling settling).elim
    | waits turn opened quiet settles => exact (pressing.not_opened opened).elim
  | waits turn finished silent settles going ih =>
    cases opened with
    | expires turn settling ticks expired quiet settles => exact finished.settling settling
    | waits turn opened quiet settles => exact ih opened

/-! ### A press is used once -/

/-- While a press runs, no earlier position of its run has completed it. -/
theorem Pressing.unfinished {turn : Act F Exec} {position : History F Exec} (pressing : Pressing past start)
    (inside : turn :: position <:+ past) (finished : Finished env position start finish) : False := by
  induction pressing with
  | starts newest past presses =>
    have small := finished.suffix.length_le
    have large := inside.length_le
    rw [List.length_cons] at small large
    rw [List.length_cons] at large
    omega
  | runs newest pressing silent state ih =>
    rcases List.suffix_cons_iff.mp inside with same | inside
    · obtain ⟨rfl, rfl⟩ := List.cons.inj same
      exact pressing.not_finished finished
    · exact ih inside finished

/-- Once it has completed, no earlier position has ended the wait for its sample. -/
theorem Finished.unjudged {turn : Act F Exec} {position other : History F Exec}
    (finished : Finished env past start finish) (inside : turn :: position <:+ past)
    (before : Finished env position start other) (waited : turn.before.settlePhase = .waitSample)
    (over_ : turn.after.state = .autoSettle → turn.after.settlePhase = .waitDelay) : False := by
  induction finished with
  | completes newest pressing serviced pulse own normal silent settles =>
    rcases List.suffix_cons_iff.mp inside with same | inside
    · obtain ⟨rfl, rfl⟩ := List.cons.inj same
      exact pressing.not_finished before
    · exact pressing.unfinished inside before
  | waits newest finished silent settles going ih =>
    rcases List.suffix_cons_iff.mp inside with same | inside
    · obtain ⟨rfl, rfl⟩ := List.cons.inj same
      exact absurd (waited.symm.trans (going (over_ settles))) (by decide)
    · exact ih inside before

theorem LowResponse.unique {b₁ b₂ : ℕ} {first second : History F Exec} (one : LowResponse env b₁ first start)
    (two : LowResponse env b₂ second start) (within : first <:+ past) (within' : second <:+ past) :
    first = second := by
  have ordered {b c : ℕ} {x y : History F Exec} (response : LowResponse env b x start)
      (response' : LowResponse env c y start) (inside : x <:+ y) : x = y := by
    cases response with
    | judged turn p now sample finished opened settled classifies newer later low far current waited over_ =>
      cases response' with
      | judged turn' p' now' sample' finished' =>
        rcases List.suffix_cons_iff.mp inside with same | inside
        · exact same
        · exact (finished'.unjudged inside finished waited over_).elim
  rcases List.suffix_or_suffix_of_suffix within within' with inside | inside
  · exact ordered one two inside
  · exact (ordered two one inside).symm

/-- A press that one rise is owed to is not one that an earlier rise was owed to. -/
theorem Uses.once {turn before : Act F Exec} {middle earlier press : History F Exec} (rises : Rises before)
    (uses : Uses env turn (middle ++ before :: earlier) press) : ¬ Uses env before earlier press := by
  obtain ⟨band, start, first, origin, now, which⟩ := uses
  rintro ⟨band', start', first', origin', then_, which'⟩
  have inside : before :: earlier <:+ turn :: (middle ++ before :: earlier) :=
    (List.suffix_append middle _).trans (List.suffix_cons turn _)
  have longer : (before :: earlier).length < (turn :: (middle ++ before :: earlier)).length := by
    simp only [List.length_cons, List.length_append]
    omega
  have spent : ¬ first <:+ before :: earlier := fun reaches => now.unspent middle before earlier rfl reaches rises
  have early := then_.second.suffix.1
  have earliest := then_.behind.trans early
  have early_ : first <:+ turn :: (middle ++ before :: earlier) := now.behind.trans now.second.suffix.1
  rcases which with rfl | rfl
  · rcases which' with rfl | rfl
    · have same := now.second.unique then_.second List.suffix_rfl inside
      rw [same] at longer
      exact absurd longer (lt_irrefl _)
    · have same := now.second.unique then_.earlier List.suffix_rfl (earliest.trans inside)
      rw [same] at longer
      exact absurd earliest.length_le (not_le.mpr longer)
  · rcases which' with rfl | rfl
    · have same := now.earlier.unique then_.second early_ inside
      rw [same] at spent
      exact spent List.suffix_rfl
    · have same := now.earlier.unique then_.earlier early_ (earliest.trans inside)
      rw [same] at spent
      exact spent earliest

/-! ### What the feedback says about the record -/

/-- A low response in the band lies behind and has not been spent; whatever press runs or waits began at it or later. -/
def Streak (env : Platform F Exec) (past : History F Exec) (band : ℕ) : Prop :=
  ∃ first earlier, LowResponse env band first earlier ∧ first <:+ past ∧ Unspent first past ∧
    ∀ start, (Pressing past start ∨ ∃ finish, Finished env past start finish) → first <:+ start

theorem Unspent.cons {first : History F Exec} {turn : Act F Exec} (unspent : Unspent first past)
    (level : ¬ Rises turn) : Unspent first (turn :: past) := by
  intro later turn' earlier split reaches
  cases later with
  | nil =>
    obtain ⟨rfl, -⟩ := List.cons.inj split
    exact level
  | cons newest later =>
    obtain ⟨-, rest⟩ := List.cons.inj split
    exact unspent later turn' earlier rest reaches

theorem Unspent.begins {turn : Act F Exec} (level : ¬ Rises turn) : Unspent (turn :: past) (turn :: past) := by
  intro later turn' earlier split reaches
  have whole : later = [] := by
    have size := congrArg List.length split
    have within := reaches.length_le
    rw [List.length_append] at size
    apply List.eq_nil_of_length_eq_zero
    omega
  rw [whole] at split
  obtain ⟨rfl, -⟩ := List.cons.inj split
  exact level

theorem Streak.cons {band : ℕ} {turn : Act F Exec} (streak : Streak env past band) (level : ¬ Rises turn) :
    Streak env (turn :: past) band := by
  obtain ⟨first, earlier, response, behind, unspent, after⟩ := streak
  refine ⟨first, earlier, response, behind.trans (List.suffix_cons _ _), unspent.cons level, ?_⟩
  rintro start (pressing | ⟨finish, finished⟩)
  · cases pressing with
    | starts turn past presses => exact behind.trans (List.suffix_cons _ _)
    | runs turn pressing silent state => exact after start (.inl pressing)
  · cases finished with
    | completes turn pressing serviced pulse own normal silent settles => exact after start (.inl pressing)
    | waits turn finished silent settles going => exact after start (.inr ⟨finish, finished⟩)

theorem Streak.begins {band : ℕ} {turn : Act F Exec} (response : LowResponse env band (turn :: past) start)
    (level : ¬ Rises turn) : Streak env (turn :: past) band := by
  refine ⟨turn :: past, start, response, List.suffix_rfl, .begins level, ?_⟩
  cases response with
  | judged turn p now sample finished opened settled classifies newer later low far current waited over_ =>
    rintro start' (pressing | ⟨finish', finished'⟩)
    · cases pressing with
      | starts turn past presses => exact List.suffix_rfl
      | runs turn pressing silent state => exact (pressing.not_finished finished).elim
    · cases finished' with
      | completes turn pressing serviced pulse own normal silent settles => exact (pressing.not_finished finished).elim
      | waits turn finished' silent settles going =>
        exact absurd (waited.symm.trans (going (over_ settles))) (by decide)

theorem Streak.earns {band : ℕ} {turn : Act F Exec} (streak : Streak env past band)
    (response : LowResponse env band (turn :: past) start) : Earned env turn past := by
  obtain ⟨first, earlier, before, behind, unspent, after⟩ := streak
  have inside : first <:+ start := by
    cases response with
    | judged turn p now sample finished => exact after start (.inr ⟨_, finished⟩)
  refine ⟨band, start, first, earlier, response, before, inside, ?_, unspent⟩
  rintro rfl
  have strict := before.suffix
  exact strict.2 (strict.1.eq_of_length_le inside.length_le)

def Began (start : History F Exec) (press : PressFeedback) : Prop :=
  press.requestSequence = number start ∧ press.beforeSequence = (latest start).sequence ∧
    press.beforeUnits = (latest start).control

def Waits (env : Platform F Exec) (past : History F Exec) (w : System F (Exec × List (StartCall × Bool))) : Prop :=
  w.state = .autoSettle ∧ ∃ start finish, Finished env past start finish ∧
    w.press.beforeSequence = (latest start).sequence ∧ w.pressEndedUnits = (latest start).control ∧
    w.press.completedAtMs = clock finish

structure Credit (env : Platform F Exec) (past : History F Exec)
    (w : System F (Exec × List (StartCall × Bool))) : Prop where
  rest : w.state ≠ .autoSettle → w.state ≠ .autoPulse → w.press = .zero
  cap : w.press.boostMv ≤ bandLimit w.press.band
  running : w.press.inFlight = true → w.state = .autoPulse → ∃ start, Pressing past start ∧ Began start w.press
  finished : w.press.feedbackPending = true → Waits env past w
  streak : 1 ≤ w.press.lowResponseCount → Streak env past w.press.band

variable {w w' : System F (Exec × List (StartCall × Bool))} {e : Event F}

theorem Credit.zero (zero : w.press = .zero) : Credit env past w := by
  constructor
  · exact fun _ _ => zero
  · rw [zero]
    exact Nat.zero_le _
  · intro flight
    rw [zero] at flight
    exact absurd flight Bool.false_ne_true
  · intro pending
    rw [zero] at pending
    exact absurd pending Bool.false_ne_true
  · intro counted
    rw [zero] at counted
    exact absurd counted (by decide)

theorem silent_of_pulse (pulse : w.state = .autoPulse) : ¬ StartsMotor ⟨w, e, call env.logged w e⟩ := by
  intro starts
  obtain ⟨c, next, arrives, may⟩ := mayStart_of_starts starts
  have state : c.state = .autoPulse := (Arrives.same arrives).1.trans pulse
  rcases may with ⟨⟨-, idle, -⟩, -⟩ | ⟨-, idle, -⟩ | ⟨⟨p, -, judges | ⟨-, -, holding⟩⟩, -⟩
  · exact absurd (idle.symm.trans state) (by decide)
  · exact absurd (idle.symm.trans state) (by decide)
  · exact absurd (judges.2.2.1.symm.trans state) (by decide)
  · exact absurd (holding.symm.trans state) (by decide)

/-- A call that leaves the machine settling has started nothing. -/
theorem silent_of_settles (settles : (call env.logged w e).state = .autoSettle) :
    ¬ StartsMotor ⟨w, e, call env.logged w e⟩ := by
  apply not_not.mpr
  by_cases fresh : Initializes e
  · cases e with
    | initializeContext config now => exact log_of_initializeContext config w
    | _ => exact absurd fresh id
  obtain ⟨c, arrives, outcome⟩ := call_outcome env.logged e fresh w
  rcases log_of_outcome outcome with same | ⟨request, taken, next, may, log, took, refused⟩
  · rw [(Arrives.same arrives).2.1] at same
    exact same
  · have state : (core (call env.logged w e)).state = .autoSettle := settles
    cases taken with
    | true =>
      have other := (engages_other (MayStart.engages may)).1
      exact absurd ((took rfl).symm.trans state) other
    | false => exact absurd ((refused rfl).symm.trans state) (by decide)

/-! ### One turn -/

structure Spent (env : Platform F Exec) (past : History F Exec) (turn : Act F Exec) (next : PressFeedback) : Prop where
  cap : next.boostMv ≤ bandLimit next.band
  spent : next.feedbackPending = false
  level : 1 ≤ next.lowResponseCount → next.boostMv ≤ turn.before.press.boostMv
  streak : 1 ≤ next.lowResponseCount → ¬ Rises turn → Streak env (turn :: past) next.band
  rise : turn.before.press.boostMv < next.boostMv →
    next.boostMv ≤ turn.before.press.boostMv + 300 ∧ Earned env turn past

variable {p : Sample} {now : U32} {turn : Act F Exec}

theorem Spent.of_less {next : PressFeedback} (cap : next.boostMv ≤ bandLimit next.band)
    (spent : next.feedbackPending = false) (fresh : next.lowResponseCount = 0)
    (less : next.boostMv ≤ turn.before.press.boostMv) : Spent env past turn next := by
  refine ⟨cap, spent, fun _ => less, ?_, ?_⟩
  · intro counted
    rw [fresh] at counted
    exact absurd counted (by decide)
  · intro more
    exact absurd more (not_lt.mpr less)

/-- What is left in the end is what was left of the boost, or less. -/
theorem Spent.kept {next : PressFeedback} (spent : Spent env past turn next)
    (boost : turn.after.press.boostMv = next.boostMv) (counted : 1 ≤ next.lowResponseCount) :
    Streak env (turn :: past) next.band := by
  apply spent.streak counted
  unfold Rises
  rw [boost]
  exact not_lt.mpr (spent.level counted)

/-- A pending feedback that is current and too small is a low response. -/
theorem Credit.responds (credit : Credit env past turn.before) (gate : Gate env past (core turn.before))
    (sample : turn.event = .handlePressureSample p now) (judges : Judges env.logged p (core (store p turn.before)))
    (over_ : turn.after.state = .autoSettle → turn.after.settlePhase = .waitDelay)
    (pending : turn.before.press.feedbackPending = true) (current : Current (store p turn.before))
    (small : p.control - turn.before.pressEndedUnits < 2) (far : pressBand (store p turn.before) ≠ 1) :
    ∃ start, LowResponse env (pressBand (store p turn.before)) (turn :: past) start := by
  obtain ⟨-, start, finish, finished, sequence, units, completed⟩ := credit.finished pending
  have stored : Gate env past (core (store p turn.before)) := ⟨gate.delay, gate.sample, gate.hold, gate.strategy⟩
  obtain ⟨since, opening, opened, classifies⟩ := stored.classifies turn sample judges
  obtain ⟨-, newer, later⟩ := current
  refine ⟨start, .judged turn p now sample finished opened (finished.opened opened) classifies ?_ ?_ ?_ far rfl
    judges.2.2.2.1 over_⟩
  · rw [← sequence]
    exact newer
  · rw [← completed]
    exact later
  · rw [← units]
    exact small

theorem Credit.consumed (auto : env.policy.isAutoTarget = true) (credit : Credit env past turn.before)
    (gate : Gate env past (core turn.before)) (sample : turn.event = .handlePressureSample p now)
    (judges : Judges env.logged p (core (store p turn.before)))
    (over_ : turn.after.state = .autoSettle → turn.after.settlePhase = .waitDelay) :
    Spent env past turn (consumePressFeedback env.logged (store p turn.before)).press := by
  have consumed := consumePressFeedback_consumed (show env.logged.policy.isAutoTarget = true from auto)
    (store p turn.before)
  have held : (store p turn.before).press.boostMv ≤ bandLimit (store p turn.before).press.band := credit.cap
  have cap := consumed.cap held
  generalize (consumePressFeedback env.logged (store p turn.before)).press = next at consumed cap ⊢
  cases consumed with
  | nothing idle same =>
    subst same
    refine ⟨cap, idle, fun _ => le_refl _, fun counted level => (credit.streak counted).cons level, ?_⟩
    intro more
    exact absurd more (lt_irrefl _)
  | reset zero =>
    subst zero
    exact .of_less cap rfl rfl (Nat.zero_le _)
  | crossed none_ fresh spent band flight =>
    apply Spent.of_less cap spent fresh
    rw [none_]
    exact Nat.zero_le _
  | effective less fresh spent band same flight => exact .of_less cap spent fresh less
  | low pending current small far same first next_ =>
    subst next_
    obtain ⟨start, response⟩ := credit.responds gate sample judges over_ pending current small far
    rw [← same] at response
    refine ⟨cap, rfl, fun _ => le_refl _, fun _ level => .begins response level, ?_⟩
    intro more
    exact absurd more (lt_irrefl _)
  | raised pending current small far same second next_ =>
    subst next_
    obtain ⟨start, response⟩ := credit.responds gate sample judges over_ pending current small far
    rw [← same] at response
    refine ⟨cap, rfl, fun counted => absurd counted (Nat.not_succ_le_zero 0),
      fun counted => absurd counted (Nat.not_succ_le_zero 0), ?_⟩
    intro _
    exact ⟨Nat.min_le_left _ _, (credit.streak second).earns response⟩

theorem Spent.selected {u : System F (Exec × List (StartCall × Bool))} (spent : Spent env past turn u.press) :
    Spent env past turn (selectPressBand u).press := by
  by_cases new : pressBand u ≠ u.press.band ∨ pressBand u = 1
  · rw [selectPressBand_new new]
    exact .of_less (Nat.zero_le _) spent.spent rfl (Nat.zero_le _)
  · obtain ⟨same, far⟩ := not_or.mp new
    rw [selectPressBand_same (not_not.mp same).symm far]
    exact spent

/-- Of the newest turn: the feedback stays true to the record, and a rise has been earned. -/
structure Credited (env : Platform F Exec) (past : History F Exec) (turn : Act F Exec) : Prop where
  credit : Credit env (turn :: past) turn.after
  rise : turn.before.press.boostMv < turn.after.press.boostMv →
    turn.after.press.boostMv ≤ turn.before.press.boostMv + 300 ∧ Earned env turn past

theorem Credited.zero (zero : turn.after.press = .zero) : Credited env past turn := by
  refine ⟨.zero zero, ?_⟩
  intro more
  rw [zero] at more
  exact absurd more (Nat.not_lt_zero _)

/-- A turn that leaves the state, and all of the feedback but the peak. -/
theorem Credit.kept (credit : Credit env past turn.before) (peak : ℤ)
    (press : turn.after.press = { turn.before.press with observedPeakUnits := peak })
    (ended : turn.after.pressEndedUnits = turn.before.pressEndedUnits) (state : turn.after.state = turn.before.state)
    (phase : turn.after.state = .autoSettle → turn.after.settlePhase = .waitDelay →
      turn.before.settlePhase = .waitDelay)
    (silent : turn.before.state = .autoPulse ∨ turn.after.state = .autoSettle → ¬ StartsMotor turn)
    (still : turn.before.state ≠ .autoSettle → turn.before.state ≠ .autoPulse → turn.after.press = turn.before.press) :
    Credited env past turn := by
  refine ⟨⟨?_, ?_, ?_, ?_, ?_⟩, ?_⟩
  · intro settling pulse
    rw [state] at settling pulse
    rw [still settling pulse]
    exact credit.rest settling pulse
  · rw [press]
    exact credit.cap
  · intro flight pulse
    rw [press] at flight ⊢
    obtain ⟨start, pressing, began⟩ := credit.running flight (state.symm.trans pulse)
    exact ⟨start, .runs turn pressing (silent (.inl (state.symm.trans pulse))) pulse, began⟩
  · intro pending
    rw [press] at pending
    obtain ⟨settling, start, finish, finished, sequence, units, completed⟩ := credit.finished pending
    have settles := state.trans settling
    unfold Waits
    rw [press, ended]
    exact ⟨settles, start, finish, .waits turn finished (silent (.inr settles)) settles (phase settles), sequence, units, completed⟩
  · intro counted
    rw [press] at counted ⊢
    apply (credit.streak counted).cons
    unfold Rises
    rw [press]
    exact lt_irrefl _
  · intro more
    rw [press] at more
    exact absurd more (lt_irrefl _)

theorem Credit.pressed {u : System F (Exec × List (StartCall × Bool))} {request : StartCall}
    (spent : Spent env past turn (selectPressBand u).press) (presses : Presses turn)
    (press : turn.after.press = noted request turn.after.motorRequestSequence turn.after.pressure
      (selectPressBand u).press) : Credited env past turn := by
  refine ⟨⟨?_, ?_, ?_, ?_, ?_⟩, ?_⟩
  · exact fun _ pulse => absurd presses.1 pulse
  · rw [press]
    exact spent.cap
  · intro _ _
    rw [press]
    exact ⟨turn :: past, .starts turn past presses, rfl, rfl, rfl⟩
  · intro pending
    rw [press] at pending
    exact absurd pending Bool.false_ne_true
  · intro counted
    have level : turn.after.press.boostMv = (selectPressBand u).press.boostMv := by
      rw [press]
      rfl
    rw [press] at counted ⊢
    exact spent.kept level counted
  · intro more
    rw [press] at more ⊢
    exact spent.rise more

theorem logged_start {x y : Exec × List (StartCall × Bool)} {request : StartCall}
    (aside : env.logged.executor.Aside x y) :
    (env.logged.executor.start request y).2.2 = (request, env.executor.took request y.1) :: x.2 := by
  rw [← PulseExecutor.logged_aside aside]
  rfl

theorem Credit.sampled (auto : env.policy.isAutoTarget = true) (credit : Credit env past turn.before)
    (gate : Gate env past (core turn.before)) (sample : turn.event = .handlePressureSample p now)
    (silent : turn.before.state = .autoPulse ∨ turn.after.state = .autoSettle → ¬ StartsMotor turn)
    (sampled : Sampled env.logged now (store p turn.before) turn.after) : Credited env past turn := by
  have same : (store p turn.before).press = turn.before.press := rfl
  cases sampled with
  | kept aside press ended state phase =>
    exact credit.kept turn.before.press.observedPeakUnits press ended state (fun _ delayed => phase.symm.trans delayed)
      silent (fun _ _ => press)
  | outside aside press away => exact .zero (press.trans (credit.rest away.1 away.2))
  | cleared aside press => exact .zero press
  | peaked aside peak press ended pulse state =>
    apply credit.kept peak press ended (state.trans pulse.symm) _ silent
    · exact fun _ running => absurd pulse running
    · exact fun settles => absurd (state.symm.trans settles) (by decide)
  | judged aside judges press state phase =>
    have spent := credit.consumed auto gate sample judges (fun _ => phase)
    rw [← press] at spent
    refine ⟨⟨?_, spent.cap, ?_, ?_, spent.kept rfl⟩, spent.rise⟩
    · exact fun settling => absurd state settling
    · exact fun _ pulse => absurd (state.symm.trans pulse) (by decide)
    · intro pending
      exact absurd (spent.spent.symm.trans pending) Bool.false_ne_true
  | lost request x aside tried low press =>
    rcases press with zero | ⟨holding, kept⟩
    · exact .zero zero
    · have holds : turn.before.state = .autoHold := holding
      apply Credited.zero
      rw [kept, same]
      apply credit.rest
      · rw [holds]
        decide
      · rw [holds]
        decide
  | released request x aside tried direction press => exact .zero press
  | refused x aside answered low untaken tried press => exact .zero press
  | pressed x aside answered low took exec state press pressure =>
    have presses : Presses turn := by
      refine ⟨state, pressCall env.logged now (answering env.logged (store p turn.before)), ?_, rfl⟩
      rw [exec, logged_start aside]
      rw [show env.executor.took _ x.1 = true from took]
      rfl
    rw [← pressure] at press
    apply Credit.pressed _ presses press
    apply Spent.selected
    rcases answered with judges | holding
    · have settled_ : (store p turn.before).state = .autoSettle := judges.2.2.1
      rw [show answering env.logged (store p turn.before) = consumePressFeedback env.logged (store p turn.before) from
        if_pos settled_]
      apply credit.consumed auto gate sample judges
      intro settles
      exact absurd (state.symm.trans settles) (by decide)
    · have holds : turn.before.state = .autoHold := holding
      have zero : turn.before.press = .zero := by
        apply credit.rest
        · rw [holds]
          decide
        · rw [holds]
          decide
      rw [show answering env.logged (store p turn.before) = store p turn.before from
        if_neg (by rw [holding]; decide), same, zero]
      exact .of_less (Nat.zero_le _) rfl rfl (Nat.zero_le _)

theorem Credit.credited (auto : env.policy.isAutoTarget = true) (signed : env.ops.Signed) (credit : Credit env past w)
    (gate : Gate env past (core w)) (e : Event F) : Credited env past ⟨w, e, call env.logged w e⟩ := by
  have enabled : isAutomatic w.state = true → w.pi.enabled = true := fun automatic => gate.strategy auto automatic
  have silent : w.state = .autoPulse ∨ (call env.logged w e).state = .autoSettle →
      ¬ StartsMotor ⟨w, e, call env.logged w e⟩ := by
    rintro (pulse | settles)
    · exact silent_of_pulse pulse
    · exact silent_of_settles settles
  have fed := call_fed (show env.logged.policy.isAutoTarget = true from auto) signed e enabled
  cases fed with
  | sampled p now sample sampled => exact Credit.sampled auto credit gate sample silent sampled
  | kept press ended state phase =>
    exact Credit.kept credit w.press.observedPeakUnits press ended state (fun _ => phase) silent (fun _ _ => press)
  | outside press away => exact .zero (press.trans (credit.rest away.1 away.2))
  | cleared press => exact .zero press
  | unnoted press pulse state =>
    refine ⟨⟨?_, ?_, ?_, ?_, ?_⟩, ?_⟩
    · exact fun settling => absurd state settling
    · show (call env.logged w e).press.boostMv ≤ _
      rw [press]
      exact credit.cap
    · exact fun _ running => absurd (state.symm.trans running) (by decide)
    · intro pending
      have before : w.press.feedbackPending = true := press ▸ pending
      exact absurd (pulse.symm.trans (credit.finished before).1) (by decide)
    · intro counted
      have before : 1 ≤ w.press.lowResponseCount := press ▸ counted
      have level : ¬ Rises (⟨w, e, call env.logged w e⟩ : Act F Exec) := by
        unfold Rises
        dsimp only
        rw [show (call env.logged w e).press = w.press from press]
        exact lt_irrefl _
      have streak := (credit.streak before).cons level
      rw [← press] at streak
      exact streak
    · intro more
      have same : w.press.boostMv < w.press.boostMv := press ▸ more
      exact absurd same (lt_irrefl _)
  | completed now serviced pulse flight own normal state press ended =>
    obtain ⟨start, pressing, request, sequence, units⟩ := credit.running flight pulse
    refine ⟨⟨?_, ?_, ?_, ?_, ?_⟩, ?_⟩
    · exact fun settling => absurd state settling
    · show (call env.logged w e).press.boostMv ≤ _
      rw [press]
      exact credit.cap
    · exact fun _ running => absurd (state.symm.trans running) (by decide)
    · intro _
      refine ⟨state, start, ⟨w, e, call env.logged w e⟩ :: past, ?_, ?_, ?_, ?_⟩
      · exact .completes _ pressing ⟨now, serviced⟩ pulse (own.symm.trans request) normal (silent (.inl pulse)) state
      · show (call env.logged w e).press.beforeSequence = _
        rw [press]
        exact sequence
      · exact ended.trans units
      · show (call env.logged w e).press.completedAtMs = instant e
        rw [press, serviced]
        rfl
    · intro counted
      have before : 1 ≤ w.press.lowResponseCount := by
        have after : 1 ≤ (call env.logged w e).press.lowResponseCount := counted
        rw [press] at after
        exact after
      have level : ¬ Rises (⟨w, e, call env.logged w e⟩ : Act F Exec) := by
        unfold Rises
        dsimp only
        rw [press]
        exact lt_irrefl _
      have streak := (credit.streak before).cons level
      show Streak env _ (call env.logged w e).press.band
      rw [press]
      exact streak
    · intro more
      have after : w.press.boostMv < (call env.logged w e).press.boostMv := more
      rw [press] at after
      exact absurd after (lt_irrefl _)

theorem credit_of_reachable (auto : env.policy.isAutoTarget = true) (signed : env.ops.Signed)
    (sound : env.executor.Sound) (reachable : Reachable env.logged past w) : Credit env past w := by
  refine recorded_invariant (fun past w => Credit env past w) ?_ ?_ reachable
  · rintro w ⟨before, config, now, rfl⟩
    apply Credit.zero
    unfold initializeContext
    dsimp only
    split
    · rfl
    · rfl
  · intro past w e recorded _ credit
    exact (credit.credited auto signed (gate_of_reachable sound recorded) e).credit

/-! ### Commands -/

def carriedMv (env : Platform F Exec) (p : Sample) (w : System F (Exec × List (StartCall × Bool))) : ℕ :=
  (selectPressBand (answering env.logged (store p w))).press.boostMv

/-- The command of a mapped PRESS: a base between its bounds and a boost within the cap of the band of the
sample, up to the configured ceiling. A correction that is taken leaves this boost. -/
structure Mapped (env : Platform F Exec) (turn : Act F Exec) (p : Sample) (request : StartCall) (taken : Bool) :
    Prop where
  command : request.commandMv.toNat =
    min turn.before.config.pulseCommandMv.toNat (pressBaseMv (store p turn.before) + carriedMv env p turn.before)
  least : 400 ≤ pressBaseMv (store p turn.before)
  most : pressBaseMv (store p turn.before) ≤ 3000
  cap : carriedMv env p turn.before ≤ pressBoostLimit (store p turn.before)
  left_ : taken = true → turn.after.press.boostMv = carriedMv env p turn.before

/-- Everything the answer reads but the feedback itself is as it was. -/
theorem answering_same (env : Platform F Exec) (u : System F Exec) :
    (answering env u).config = u.config ∧ (answering env u).targetUnits = u.targetUnits ∧
      (answering env u).pressure = u.pressure := by
  unfold answering
  split
  · rw [consumePressFeedback_only]
    exact ⟨rfl, rfl, rfl⟩
  · exact ⟨rfl, rfl, rfl⟩

theorem pressCall_command (env : Platform F Exec) (u : System F Exec) :
    (pressCall env now (answering env u)).commandMv.toNat =
      min u.config.pulseCommandMv.toNat (pressBaseMv u + (selectPressBand (answering env u)).press.boostMv) := by
  obtain ⟨config, target, pressure⟩ := answering_same env u
  have base : pressBaseMv (selectPressBand (answering env u)) = pressBaseMv u := by
    unfold pressBaseMv
    rw [show (selectPressBand (answering env u)).config = u.config from config,
      show (selectPressBand (answering env u)).targetUnits = u.targetUnits from target,
      show (selectPressBand (answering env u)).pressure = u.pressure from pressure]
  unfold pressCall correctionMv
  dsimp only
  rw [if_pos rfl, base, show (selectPressBand (answering env u)).config = u.config from config]
  split
  · omega
  next within =>
    have small := u.config.pulseCommandMv.isLt
    rw [BitVec.toNat_ofNat, Nat.mod_eq_of_lt (by omega)]
    omega

/-- The selected boost is within the cap of the sample's band, as soon as the boost was. -/
theorem selected_cap (auto : env.policy.isAutoTarget = true) {u : System F (Exec × List (StartCall × Bool))}
    (cap : u.press.boostMv ≤ bandLimit u.press.band) :
    (selectPressBand (answering env.logged u)).press.boostMv ≤ pressBoostLimit u := by
  obtain ⟨config, target, pressure⟩ := answering_same env.logged u
  have band : pressBand (answering env.logged u) = pressBand u := by
    unfold pressBand
    rw [config, target, pressure]
  have held : (answering env.logged u).press.boostMv ≤ bandLimit (answering env.logged u).press.band := by
    unfold answering
    split
    · exact (consumePressFeedback_consumed (show env.logged.policy.isAutoTarget = true from auto) u).cap cap
    · exact cap
  by_cases new : pressBand (answering env.logged u) ≠ (answering env.logged u).press.band ∨
      pressBand (answering env.logged u) = 1
  · rw [selectPressBand_new new]
    exact Nat.zero_le _
  · obtain ⟨same, far⟩ := not_or.mp new
    rw [selectPressBand_same (not_not.mp same).symm far, pressBoostLimit_eq, ← band, not_not.mp same]
    exact held

theorem low_shortfall {u : System F Exec} (tolerant : Tolerant u.config) (low : Low u) :
    u.config.holdEnterToleranceUnits < shortfall u := by
  obtain ⟨-, below⟩ := low
  obtain ⟨-, ordered⟩ := tolerant
  unfold isBelow tolerance at below
  unfold shortfall
  have under := of_decide_eq_true below
  split at under
  · omega
  · omega

/-- Every PRESS start on a sample in contact is a mapped command. -/
theorem mapped_turn (auto : env.policy.isAutoTarget = true) (signed : env.ops.Signed) (credit : Credit env past w)
    (gate : Gate env past (core w)) (tolerant : Tolerant w.config) {request : StartCall} {taken : Bool}
    (log : (call env.logged w (.handlePressureSample p now)).exec.2 = (request, taken) :: w.exec.2)
    (press : request.direction = .press) (contact : w.config.contactThresholdUnits ≤ p.control) :
    Mapped env ⟨w, .handlePressureSample p now, call env.logged w (.handlePressureSample p now)⟩ p request taken := by
  have enabled : isAutomatic w.state = true → w.pi.enabled = true := fun automatic => gate.strategy auto automatic
  have starts {x : Exec × List (StartCall × Bool)} (aside : env.logged.executor.Aside w.exec x)
      (asked : StartCall) {y : Exec × List (StartCall × Bool)} (tried : Tried env.logged asked x y) :
      y.2 = (asked, env.executor.took asked x.1) :: w.exec.2 := by
    rcases tried with rfl | rfl
    · exact logged_start aside
    · exact logged_start aside
  have quiet (aside : env.logged.executor.Aside w.exec (call env.logged w (.handlePressureSample p now)).exec)
      {P : Prop} : P := by
    have kept := PulseExecutor.logged_aside aside
    rw [log] at kept
    exact absurd kept (List.cons_ne_self _ _)
  have mapped {x : Exec × List (StartCall × Bool)} (aside : env.logged.executor.Aside w.exec x)
      (low : Low (store p w)) (tried : Tried env.logged (pressCall env.logged now (answering env.logged (store p w))) x
        (call env.logged w (.handlePressureSample p now)).exec)
      (left_ : env.executor.took (pressCall env.logged now (answering env.logged (store p w))) x.1 = true →
        (call env.logged w (.handlePressureSample p now)).press.boostMv = carriedMv env p w) :
      Mapped env ⟨w, .handlePressureSample p now, call env.logged w (.handlePressureSample p now)⟩ p request taken := by
    have asked := starts aside _ tried
    rw [log] at asked
    obtain ⟨same, -⟩ := List.cons.inj asked
    obtain ⟨rfl, rfl⟩ := Prod.mk.inj same
    have bounds := pressBaseMv_bounds (w := store p w) tolerant (low_shortfall tolerant low)
    exact ⟨pressCall_command env.logged (store p w), bounds.1, bounds.2, selected_cap auto credit.cap, left_⟩
  rcases handlePressureSample_sampled (show env.logged.policy.isAutoTarget = true from auto) signed p now enabled
    with aside | sampled
  · exact quiet aside
  cases sampled with
  | kept aside press ended state phase => exact quiet aside
  | outside aside press away => exact quiet aside
  | cleared aside press => exact quiet aside
  | peaked aside peak press ended pulse state => exact quiet aside
  | judged aside judges press state phase => exact quiet aside
  | lost asked x aside tried low press => exact absurd contact (not_le.mpr low)
  | released asked x aside tried direction press' =>
    have entry := starts aside asked tried
    rw [show (handlePressureSample env.logged p now w).exec.2 = _ from log] at entry
    obtain ⟨rfl, -⟩ := Prod.mk.inj (List.cons.inj entry).1
    exact absurd (press.symm.trans direction) (by decide)
  | pressed x aside answered low took exec state press' pressure =>
    apply mapped aside low (.inl exec)
    intro _
    show (handlePressureSample env.logged p now w).press.boostMv = _
    rw [press']
    rfl
  | refused x aside answered low untaken tried press' =>
    apply mapped aside low tried
    intro took
    exact absurd (untaken.symm.trans took) Bool.false_ne_true

/-! ### Resets -/

/-- What takes the boost away: every state but the settle period and the pulse (HOLD, a new approach after
a loss of contact, IDLE after STOP, FAULT), a RELEASE, an answer to a sample without contact, and the
commands that stop, retarget or restart the run. -/
structure Resets (turn : Act F Exec) : Prop where
  elsewhere : turn.after.state ≠ .autoSettle → turn.after.state ≠ .autoPulse → turn.after.press.boostMv = 0
  release : ∀ request taken, turn.after.exec.2 = (request, taken) :: turn.before.exec.2 →
    request.direction = .release → turn.after.press.boostMv = 0
  lost : ∀ p now, turn.event = .handlePressureSample p now →
    p.control < turn.before.config.contactThresholdUnits → StartsMotor turn → turn.after.press.boostMv = 0
  stop : Stops turn.event → turn.after.press.boostMv = 0
  retarget : ∀ units now, turn.event = .handleCommand ⟨.setTarget, units⟩ now →
    turn.after.lastCommandResult = .accepted → turn.after.press.boostMv = 0
  restart : ∀ units now, turn.event = .handleCommand ⟨.autoStart, units⟩ now →
    turn.after.lastCommandResult = .accepted → turn.after.press.boostMv = 0

theorem boost_zero {press : PressFeedback} (zero : press = .zero) : press.boostMv = 0 := by
  rw [zero]
  rfl

/-- A sample that starts something else than a PRESS takes the boost away. -/
theorem Credit.sample_resets (auto : env.policy.isAutoTarget = true) (signed : env.ops.Signed)
    (credit : Credit env past w) (gate : Gate env past (core w))
    (starts : StartsMotor ⟨w, .handlePressureSample p now, call env.logged w (.handlePressureSample p now)⟩)
    (other : (∀ request taken, (call env.logged w (.handlePressureSample p now)).exec.2 =
      (request, taken) :: w.exec.2 → request.direction = .release) ∨ p.control < w.config.contactThresholdUnits) :
    (call env.logged w (.handlePressureSample p now)).press.boostMv = 0 := by
  have enabled : isAutomatic w.state = true → w.pi.enabled = true := fun automatic => gate.strategy auto automatic
  have quiet (aside : env.logged.executor.Aside w.exec (call env.logged w (.handlePressureSample p now)).exec)
      {P : Prop} : P := absurd (PulseExecutor.logged_aside aside) starts
  rcases handlePressureSample_sampled (show env.logged.policy.isAutoTarget = true from auto) signed p now enabled
    with aside | sampled
  · exact quiet aside
  cases sampled with
  | kept aside press ended state phase => exact quiet aside
  | outside aside press away => exact quiet aside
  | cleared aside press => exact quiet aside
  | peaked aside peak press ended pulse state => exact quiet aside
  | judged aside judges press state phase => exact quiet aside
  | lost asked x aside tried low press =>
    apply boost_zero
    rcases press with zero | ⟨holding, kept⟩
    · exact zero
    · refine (show (handlePressureSample env.logged p now w).press = w.press from kept).trans ?_
      have holds : w.state = .autoHold := holding
      apply credit.rest
      · rw [holds]
        decide
      · rw [holds]
        decide
  | released asked x aside tried direction press => exact boost_zero press
  | refused x aside answered low untaken tried press => exact boost_zero press
  | pressed x aside answered low took exec state press pressure =>
    rcases other with releases | lost
    · have entry : (call env.logged w (.handlePressureSample p now)).exec.2 = _ :=
        (congrArg Prod.snd exec).trans (logged_start aside)
      exact absurd (releases _ _ entry) (by show Direction.press ≠ _; decide)
    · exact absurd low.1 (not_le.mpr lost)

theorem resets_turn (auto : env.policy.isAutoTarget = true) (signed : env.ops.Signed) (credit : Credit env past w)
    (gate : Gate env past (core w)) (e : Event F) : Resets ⟨w, e, call env.logged w e⟩ := by
  have policy : env.logged.policy.isAutoTarget = true := auto
  have after := (credit.credited auto signed gate e).credit
  have elsewhere : (call env.logged w e).state ≠ .autoSettle → (call env.logged w e).state ≠ .autoPulse →
      (call env.logged w e).press.boostMv = 0 := fun settling pulse => boost_zero (after.rest settling pulse)
  constructor
  · exact elsewhere
  · intro request taken log direction
    have starts : StartsMotor ⟨w, e, call env.logged w e⟩ := by
      intro same
      exact absurd (log.symm.trans same) (List.cons_ne_self _ _)
    have idle (rests : w.state = .idle) {asked : Command} {now : U32} (command : e = .handleCommand asked now) :
        (call env.logged w e).press.boostMv = 0 := by
      have none_ : w.press.boostMv = 0 := by
        apply boost_zero
        apply credit.rest
        · rw [rests]
          decide
        · rw [rests]
          decide
      by_contra some_
      have more : w.press.boostMv < (call env.logged w e).press.boostMv := by omega
      obtain ⟨-, band, start, first, origin, earned⟩ := (credit.credited auto signed gate e).rise more
      cases earned.second with
      | judged turn p now sample => exact absurd (command.symm.trans sample) nofun
    obtain ⟨c, next, arrives, may⟩ := mayStart_of_starts starts
    have state : c.state = w.state := (Arrives.same arrives).1
    rcases may with ⟨⟨⟨units, asked⟩, rests, -⟩, -⟩ | ⟨⟨units, ⟨asked, -⟩ | ⟨asked, -⟩⟩, rests, -⟩ | ⟨⟨p, sample, -⟩, -⟩
    · exact idle (state.symm.trans rests) asked
    · exact idle (state.symm.trans rests) asked
    · exact idle (state.symm.trans rests) asked
    · generalize instant e = now at sample
      subst sample
      apply credit.sample_resets auto signed gate starts
      left
      intro request' taken' log'
      obtain ⟨rfl, -⟩ := Prod.mk.inj (List.cons.inj (log'.symm.trans log)).1
      exact direction
  · rintro p now sample low starts
    obtain rfl : e = .handlePressureSample p now := sample
    exact credit.sample_resets auto signed gate starts (.inr low)
  · rintro ⟨units, now, asked⟩
    obtain rfl : e = .handleCommand ⟨.stop, units⟩ now := asked
    exact boost_zero (stop_press policy now w)
  · intro units now asked accepted
    obtain rfl : e = .handleCommand ⟨.setTarget, units⟩ now := asked
    exact boost_zero (setTarget_accepted policy accepted)
  · intro units now asked accepted
    obtain rfl : e = .handleCommand ⟨.autoStart, units⟩ now := asked
    exact boost_zero (autoStart_accepted policy accepted)

/-! ### Runs -/

/-- What a turn of an AutoTarget run does with the boost. -/
structure Boosted (env : Platform F Exec) (turn : Act F Exec) (earlier : History F Exec) : Prop where
  command : ∀ p now request taken, turn.event = .handlePressureSample p now →
    turn.after.exec.2 = (request, taken) :: turn.before.exec.2 → request.direction = .press →
      turn.before.config.contactThresholdUnits ≤ p.control → configIsValid env.policy turn.before.config = true →
        Mapped env turn p request taken
  rise : Rises turn → turn.after.press.boostMv ≤ turn.before.press.boostMv + 300 ∧ Earned env turn earlier
  resets : Resets turn

/-- The base of an accepted configuration never falls with the distance to the target, and its two ramps
meet at the end of the fine band. -/
def Ramped (c : MachineConfig) : Prop :=
  (∀ (E : Type) (v w : System F E), v.config = c → w.config = c → shortfall v ≤ shortfall w →
    pressBaseMv v ≤ pressBaseMv w) ∧
  (∀ (E : Type) (w : System F E), w.config = c → (pressBaseMv w : ℤ) =
    if shortfall w ≤ c.holdEnterToleranceUnits then 0
    else if shortfall w ≤ 2 * c.holdExitToleranceUnits then
      fineMv c.holdEnterToleranceUnits (2 * c.holdExitToleranceUnits) (shortfall w)
    else min (microMv (2 * c.holdExitToleranceUnits) (shortfall w)) 3000) ∧
  fineMv c.holdEnterToleranceUnits (2 * c.holdExitToleranceUnits) (2 * c.holdExitToleranceUnits) =
    microMv (2 * c.holdExitToleranceUnits) (2 * c.holdExitToleranceUnits)

theorem ramped_of_valid {policy : MotionPolicy} {c : MachineConfig} (valid : configIsValid policy c = true) :
    Ramped (F := F) c := by
  have tolerant := tolerant_of_valid valid
  have wide : c.holdEnterToleranceUnits < 2 * c.holdExitToleranceUnits := by
    obtain ⟨nonnegative, ordered⟩ := tolerant
    omega
  refine ⟨?_, ?_, (ramps_meet wide).1.trans (ramps_meet wide).2.symm⟩
  · rintro E v w rfl same further
    exact pressBaseMv_mono tolerant same further
  · rintro E w rfl
    exact pressBaseMv_eq w tolerant

/-- In every run of AutoTarget each mapped command is a bounded base and a boost within its cap, the base
is a ramp over the distance to the target, a rise of the boost is earned by two presses that no other rise has
used, and whatever ends the convergence takes the boost away. -/
theorem press_boost {env : Platform F Exec} (auto : env.policy = .autoTarget) (sound : env.executor.Sound)
    (signed : env.ops.Signed) {past : History F Exec} {w : System F (Exec × List (StartCall × Bool))}
    (reachable : Reachable env.logged past w) :
    (∀ later turn earlier, past = later ++ turn :: earlier → Boosted env turn earlier) ∧
      (∀ c, configIsValid env.policy c = true → Ramped (F := F) c) ∧
      (∀ b₁ b₂ first second start, first <:+ past → second <:+ past → LowResponse env b₁ first start →
        LowResponse env b₂ second start → first = second) ∧
      ∀ later turn middle before earlier press, past = later ++ turn :: (middle ++ before :: earlier) →
        Rises before → Uses env turn (middle ++ before :: earlier) press → ¬ Uses env before earlier press := by
  have policy : env.policy.isAutoTarget = true := decide_eq_true auto
  refine ⟨?_, fun c valid => ramped_of_valid valid, ?_, ?_⟩
  · rintro later ⟨before, e, after⟩ earlier rfl
    obtain ⟨run, same, -⟩ := reachable.at_turn
    dsimp only at run same
    subst same
    have credit := credit_of_reachable policy signed sound run
    have gate := gate_of_reachable sound run
    constructor
    · rintro p now request taken rfl log press contact valid
      exact mapped_turn policy signed credit gate (tolerant_of_valid valid) log press contact
    · exact (credit.credited policy signed gate e).rise
    · exact resets_turn policy signed credit gate e
  · intro b₁ b₂ first second start within within' one two
    exact one.unique two within within'
  · intro later turn middle before earlier press _ rises uses
    exact uses.once rises

/-- Two presses from 30 towards 250 that move the pressure by one unit each. -/
def boostRun : List (Event ℚ) :=
  [.completeBoot true 0, .configureForcePi ⟨1, 0, -800, 1200, 0, 0, 10⟩ 0, .handleCommand ⟨.setTarget, 250⟩ 0,
    benchSample 1 30 1, .handleCommand ⟨.autoStart, 0⟩ 2, .tick 60, benchSample 2 30 61, .service 75,
    .handleMotorService 75, .tick 130, benchSample 3 31 131, .service 145, .handleMotorService 145, .tick 200,
    benchSample 4 32 201]

theorem press_boost_bench :
    ((playFrom autoTargetBench autoTargetConfig boostRun).2.press.boostMv = 300 ∧
      (playFrom autoTargetBench autoTargetConfig boostRun).2.press.commandMv = 3300) ∧
    (∀ later turn earlier, (playFrom autoTargetBench autoTargetConfig boostRun).1 = later ++ turn :: earlier →
      Boosted autoTargetBench turn earlier) ∧
    (∀ c, configIsValid .autoTarget c = true → Ramped (F := ℚ) c) ∧
    ∀ b₁ b₂ first second start, first <:+ (playFrom autoTargetBench autoTargetConfig boostRun).1 →
      second <:+ (playFrom autoTargetBench autoTargetConfig boostRun).1 →
        LowResponse autoTargetBench b₁ first start → LowResponse autoTargetBench b₂ second start → first = second := by
  obtain ⟨turns, ramps, unique, -⟩ := press_boost rfl Motor.Locked.pulses_sound FloatOps.rational_signed
    (reachable_playFrom autoTargetBench autoTargetConfig boostRun)
  refine ⟨?_, turns, ramps, unique⟩
  decide +kernel

end Sd700.Machine.PressBoost
