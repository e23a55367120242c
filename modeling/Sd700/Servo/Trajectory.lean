import Mathlib.Analysis.Real.Sqrt
import Mathlib.Tactic.FieldSimp
import Sd700.Logic.Smoothstep
import Sd700.Servo.Admitted
import Sd700.Servo.Controller

/-! The reference of `ForceServo_Prepare` over whole runs: a smoothstep stretched over the time that
`ForceServo_TrajectorySeconds` allows it. -/

namespace Sd700.Servo.Trajectory
open Config Controller Admitted Logic.Smoothstep

inductive Turn (K : Type)
  | prepare (m dt : K)
  | commit (o : StepOver K) (committed : ℤ)

section
variable {K : Type} [Field K] [LinearOrder K] [FloorRing K] (p : BuildPolicy) (c : ForceServoConfig)

def Turn.apply (s : ForceServoOver K) : Turn K → ForceServoOver K
  | .prepare m dt => ((Controller.prepare p c s m dt).map Prod.fst).getD s
  | .commit o committed => ((Controller.commit p c s o committed).map Prod.fst).getD s

def run (s : ForceServoOver K) (turns : List (Turn K)) : ForceServoOver K := turns.foldl (Turn.apply p c) s

end

section
variable {K : Type} [Field K] [LinearOrder K] [IsStrictOrderedRing K]

def Root (sqrtf : K → K) : Prop := ∀ x, 0 ≤ x → 0 ≤ sqrtf x ∧ x ≤ sqrtf x * sqrtf x

def progress (s : ForceServoOver K) : K := if 0 < s.trajectoryS then s.elapsedS / s.trajectoryS else 1

/-- The controller is on its way from `start` to `target`. -/
structure Tracks (c : ForceServoConfig) (sqrtf : K → K) (start target : K) (s : ForceServoOver K) : Prop where
  origin : s.start = start
  goal : s.target = target
  duration : s.trajectoryS = trajectorySeconds sqrtf c start target
  begun : 0 ≤ s.elapsedS
  within : s.elapsedS ≤ s.trajectoryS
  reference : s.reference = start + (target - start) * smooth (progress s)
  rate : s.referenceRate = if 0 < s.trajectoryS then (target - start) * Logic.Smoothstep.slope (progress s) / s.trajectoryS else 0

/-- From `x` to `y` the reference goes towards `target` and stays between it and `start`. -/
def Toward (start target x y : K) : Prop :=
  (start ≤ target → start ≤ x ∧ x ≤ y ∧ y ≤ target) ∧ (target ≤ start → target ≤ y ∧ y ≤ x ∧ x ≤ start)

def Stands (s next : ForceServoOver K) : Prop :=
  next.elapsedS = s.elapsedS ∧ next.trajectoryS = s.trajectoryS ∧ next.reference = s.reference ∧
    next.referenceRate = s.referenceRate

/-- A step of the reference of `dt` seconds. -/
structure Moved (c : ForceServoConfig) (start target dt : K) (s next : ForceServoOver K) : Prop where
  elapsed : next.elapsedS = min (s.elapsedS + dt) s.trajectoryS
  duration : next.trajectoryS = s.trajectoryS
  toward : Toward start target s.reference next.reference
  arrived : next.elapsedS = next.trajectoryS → next.reference = target
  arriving : next.reference = target → start = target ∨ next.elapsedS = next.trajectoryS
  rate : |next.referenceRate| ≤ c.referenceRate
  change : |next.reference - s.reference| ≤ c.referenceRate * dt
  acceleration : |next.referenceRate - s.referenceRate| ≤ c.referenceAcceleration * dt

variable {p : BuildPolicy} {c : ForceServoConfig} {sqrtf : K → K} {start target : K} {s next : ForceServoOver K}

/-- The trajectory takes at least the time that the rate limit asks for, and that the acceleration limit does. -/
theorem duration_rate (valid : configValid p c = true) :
    3 / 2 * |target - start| ≤ c.referenceRate * trajectorySeconds sqrtf c start target := by
  have positive : 0 < (c.referenceRate : K) := Rat.cast_pos.mpr (referenceRate_pos valid)
  have bound : 3 / 2 * |target - start| / (c.referenceRate : K) ≤ trajectorySeconds sqrtf c start target :=
    le_max_left _ _
  rwa [div_le_iff₀' positive] at bound

theorem duration_acceleration (root : Root sqrtf) (valid : configValid p c = true) :
    6 * |target - start| ≤ c.referenceAcceleration *
      (trajectorySeconds sqrtf c start target * trajectorySeconds sqrtf c start target) := by
  have positive : 0 < (c.referenceAcceleration : K) := Rat.cast_pos.mpr (referenceAcceleration_pos valid)
  have amount : 0 ≤ 6 * |target - start| / (c.referenceAcceleration : K) := by positivity
  obtain ⟨nonneg, square⟩ := root _ amount
  have bound : sqrtf (6 * |target - start| / (c.referenceAcceleration : K)) ≤
      trajectorySeconds sqrtf c start target := le_max_right _ _
  have squares := square.trans (mul_le_mul bound bound nonneg (nonneg.trans bound))
  rwa [div_le_iff₀' positive] at squares

theorem duration_nonneg (valid : configValid p c = true) : 0 ≤ trajectorySeconds sqrtf c start target := by
  have positive : 0 < (c.referenceRate : K) := Rat.cast_pos.mpr (referenceRate_pos valid)
  have amount : 0 ≤ 3 / 2 * |target - start| / (c.referenceRate : K) := by positivity
  exact amount.trans (le_max_left _ _)

theorem distance_zero (valid : configValid p c = true) (still : ¬ 0 < trajectorySeconds sqrtf c start target) :
    target - start = 0 := by
  have positive : 0 < (c.referenceRate : K) := Rat.cast_pos.mpr (referenceRate_pos valid)
  have rate := @duration_rate K _ _ _ p c sqrtf start target valid
  have none_ : c.referenceRate * trajectorySeconds sqrtf c start target ≤ 0 :=
    mul_nonpos_of_nonneg_of_nonpos positive.le (not_lt.mp still)
  have zero : |target - start| ≤ 0 := by linarith
  exact abs_nonpos_iff.mp zero

theorem Tracks.progress_unit (tracks : Tracks c sqrtf start target s) : 0 ≤ progress s ∧ progress s ≤ 1 := by
  unfold progress
  split
  · rename_i positive
    exact ⟨div_nonneg tracks.begun positive.le, (div_le_one positive).mpr tracks.within⟩
  · exact ⟨zero_le_one, le_refl _⟩

theorem init_tracks (started : init sqrtf p c start target = some s) :
    configValid p c = true ∧ s.initialized = true ∧ s.reference = start ∧ Tracks c sqrtf start target s := by
  unfold init at started
  split at started
  · cases started
  rename_i accepted
  push Not at accepted
  have valid := accepted.1
  cases started
  refine ⟨valid, rfl, rfl, rfl, rfl, rfl, le_refl _, duration_nonneg valid, ?_, ?_⟩
  · unfold progress
    dsimp only
    split
    · rw [show (ForceServoOver.zero : ForceServoOver K).elapsedS = 0 from rfl, zero_div, smooth_zero, mul_zero,
        add_zero]
    · rename_i still
      rw [distance_zero valid still, zero_mul, add_zero]
  · unfold progress
    dsimp only
    split
    · rw [show (ForceServoOver.zero : ForceServoOver K).elapsedS = 0 from rfl, zero_div]
      simp [Logic.Smoothstep.slope, ForceServoOver.zero]
    · rfl

omit [IsStrictOrderedRing K] in
theorem init_begins (started : init sqrtf p c start target = some s) : s.elapsedS = 0 := by
  unfold init at started
  split at started
  · cases started
  · cases started
    rfl

theorem prepare_accepted {m dt : K} {o : StepOver K} (accepted : prepare p c s m dt = some (next, o)) :
    0 < dt ∧ next = observe c (follow s dt) m dt ∧ o.reference = next.reference ∧
      o.referenceRate = next.referenceRate := by
  unfold prepare at accepted
  split at accepted
  · cases accepted
  rename_i inside
  push Not at inside
  obtain ⟨-, valid, -, -, low, -⟩ := inside
  have period : 0 < (c.controlMinMs : K) := Rat.cast_pos.mpr (controlMinMs_pos valid)
  cases accepted
  refine ⟨lt_of_lt_of_le ?_ low, rfl, rfl, rfl⟩
  exact mul_pos period (by norm_num)

theorem Tracks.follow (tracks : Tracks c sqrtf start target s) {dt : K} (later : 0 < dt) :
    Tracks c sqrtf start target (Controller.follow s dt) := by
  have ahead : s.elapsedS ≤ min (s.elapsedS + dt) s.trajectoryS := le_min (by linarith) tracks.within
  refine ⟨tracks.origin, tracks.goal, tracks.duration, tracks.begun.trans ahead, min_le_right _ _, ?_, ?_⟩
  · simp only [Controller.follow, progress, smooth, tracks.origin, tracks.goal]
    ring
  · simp only [Controller.follow, progress, Logic.Smoothstep.slope, tracks.origin, tracks.goal]
    split
    · ring
    · rfl

omit [IsStrictOrderedRing K] in
theorem Tracks.observe (tracks : Tracks c sqrtf start target s) (m dt : K) :
    Tracks c sqrtf start target (Controller.observe c s m dt) :=
  ⟨tracks.origin, tracks.goal, tracks.duration, tracks.begun, tracks.within, tracks.reference, tracks.rate⟩

omit [IsStrictOrderedRing K] in
theorem progress_of_pos (positive : 0 < s.trajectoryS) : progress s * s.trajectoryS = s.elapsedS := by
  unfold progress
  rw [if_pos positive, div_mul_cancel₀ _ positive.ne']

/-- Two points of one trajectory, the second `dt` seconds later or at its end. -/
theorem Tracks.moved (root : Root sqrtf) (valid : configValid p c = true) {dt : K} (later : 0 < dt)
    (tracks : Tracks c sqrtf start target s) (tracked : Tracks c sqrtf start target next)
    (elapsed : next.elapsedS = min (s.elapsedS + dt) s.trajectoryS) : Moved c start target dt s next := by
  have ahead : s.elapsedS ≤ next.elapsedS := by
    rw [elapsed]
    exact le_min (by linarith) tracks.within
  have short : next.elapsedS - s.elapsedS ≤ dt := by
    have least : min (s.elapsedS + dt) s.trajectoryS ≤ s.elapsedS + dt := min_le_left _ _
    linarith
  have rateLimit : 0 < (c.referenceRate : K) := Rat.cast_pos.mpr (referenceRate_pos valid)
  have accelerationLimit : 0 < (c.referenceAcceleration : K) := Rat.cast_pos.mpr (referenceAcceleration_pos valid)
  have rates : 3 / 2 * |target - start| ≤ c.referenceRate * s.trajectoryS := by
    rw [tracks.duration]
    exact duration_rate valid
  have accelerations : 6 * |target - start| ≤ c.referenceAcceleration * (s.trajectoryS * s.trajectoryS) := by
    rw [tracks.duration]
    exact duration_acceleration root valid
  have same : next.trajectoryS = s.trajectoryS := tracked.duration.trans tracks.duration.symm
  obtain ⟨low, -⟩ := tracks.progress_unit
  obtain ⟨-, high⟩ := tracked.progress_unit
  by_cases positive : 0 < s.trajectoryS
  · have from_ := progress_of_pos positive
    have to_ := progress_of_pos (same.symm ▸ positive)
    rw [same] at to_
    have step : (progress next - progress s) * s.trajectoryS ≤ dt := by
      rw [sub_mul, from_, to_]
      exact short
    have le : progress s ≤ progress next := by
      rw [← from_, ← to_] at ahead
      exact le_of_mul_le_mul_right ahead positive
    have rise := smooth_mono low le high
    refine ⟨elapsed, same, ⟨fun up => ?_, fun down => ?_⟩, fun done_ => ?_, fun done_ => ?_, ?_, ?_, ?_⟩
    · have distance : 0 ≤ target - start := sub_nonneg.mpr up
      have first := mul_nonneg distance (smooth_nonneg low (le.trans high))
      have second := mul_le_mul_of_nonneg_left rise distance
      have third := mul_le_mul_of_nonneg_left (smooth_le_one (low.trans le) high) distance
      rw [tracks.reference, tracked.reference]
      refine ⟨?_, ?_, ?_⟩ <;> linarith
    · have distance : target - start ≤ 0 := sub_nonpos.mpr down
      have first := mul_nonpos_of_nonpos_of_nonneg distance (smooth_nonneg low (le.trans high))
      have second := mul_le_mul_of_nonpos_left rise distance
      have third := mul_le_mul_of_nonpos_left (smooth_le_one (low.trans le) high) distance
      rw [tracks.reference, tracked.reference]
      refine ⟨?_, ?_, ?_⟩ <;> linarith
    · have whole : progress next = 1 := by
        unfold progress
        rw [done_, if_pos (same.symm ▸ positive), div_self (same.symm ▸ positive.ne')]
      rw [tracked.reference, whole, smooth_one]
      ring
    · rw [tracked.reference] at done_
      have gap : (target - start) * (smooth (progress next) - 1) = 0 := by linarith
      rcases mul_eq_zero.mp gap with still | whole
      · exact .inl (sub_eq_zero.mp still).symm
      · right
        have one := smooth_eq_one (low.trans le) (sub_eq_zero.mp whole)
        rw [one, one_mul] at to_
        rw [same]
        exact to_.symm
    · rw [tracked.rate, if_pos (same.symm ▸ positive), same, abs_div, abs_of_pos positive, div_le_iff₀ positive,
        abs_mul, abs_of_nonneg (slope_nonneg (low.trans le) high)]
      have bound := mul_le_mul_of_nonneg_left (slope_le (progress next)) (abs_nonneg (target - start))
      linarith
    · have difference : next.reference - s.reference =
          (target - start) * (smooth (progress next) - smooth (progress s)) := by
        rw [tracks.reference, tracked.reference]
        ring
      rw [difference, abs_mul]
      calc |target - start| * |smooth (progress next) - smooth (progress s)|
          ≤ |target - start| * (3 / 2 * (progress next - progress s)) :=
            mul_le_mul_of_nonneg_left (smooth_step low le high) (abs_nonneg _)
        _ = 3 / 2 * |target - start| * (progress next - progress s) := by ring
        _ ≤ c.referenceRate * s.trajectoryS * (progress next - progress s) :=
            mul_le_mul_of_nonneg_right rates (sub_nonneg.mpr le)
        _ = c.referenceRate * ((progress next - progress s) * s.trajectoryS) := by ring
        _ ≤ c.referenceRate * dt := mul_le_mul_of_nonneg_left step rateLimit.le
    · have difference : next.referenceRate - s.referenceRate =
          (target - start) * (Logic.Smoothstep.slope (progress next) - Logic.Smoothstep.slope (progress s)) / s.trajectoryS := by
        rw [tracks.rate, tracked.rate, if_pos positive, if_pos (same.symm ▸ positive), same]
        ring
      rw [difference, abs_div, abs_of_pos positive, div_le_iff₀ positive, abs_mul]
      calc |target - start| * |Logic.Smoothstep.slope (progress next) - Logic.Smoothstep.slope (progress s)|
          ≤ |target - start| * (6 * (progress next - progress s)) :=
            mul_le_mul_of_nonneg_left (slope_step low le high) (abs_nonneg _)
        _ = 6 * |target - start| * (progress next - progress s) := by ring
        _ ≤ c.referenceAcceleration * (s.trajectoryS * s.trajectoryS) * (progress next - progress s) :=
            mul_le_mul_of_nonneg_right accelerations (sub_nonneg.mpr le)
        _ = c.referenceAcceleration * ((progress next - progress s) * s.trajectoryS) * s.trajectoryS := by ring
        _ ≤ c.referenceAcceleration * dt * s.trajectoryS :=
            mul_le_mul_of_nonneg_right (mul_le_mul_of_nonneg_left step accelerationLimit.le) positive.le
  · -- A trajectory that takes no time has nowhere to go.
    have distance : target - start = 0 := distance_zero valid (tracks.duration ▸ positive)
    have stopped : ¬ 0 < next.trajectoryS := same.symm ▸ positive
    have here : s.reference = start := by rw [tracks.reference, distance, zero_mul, add_zero]
    have there : next.reference = start := by rw [tracked.reference, distance, zero_mul, add_zero]
    have arrived : target = start := sub_eq_zero.mp distance
    have idle : s.referenceRate = 0 := by rw [tracks.rate, if_neg positive]
    have still : next.referenceRate = 0 := by rw [tracked.rate, if_neg stopped]
    refine ⟨elapsed, same, ?_, fun _ => there.trans arrived.symm, fun _ => .inl arrived.symm, ?_, ?_, ?_⟩
    · rw [here, there, arrived]
      exact ⟨fun _ => ⟨le_refl _, le_refl _, le_refl _⟩, fun _ => ⟨le_refl _, le_refl _, le_refl _⟩⟩
    · rw [still, abs_zero]
      exact rateLimit.le
    · rw [here, there, sub_self, abs_zero]
      exact (mul_pos rateLimit later).le
    · rw [idle, still, sub_self, abs_zero]
      exact (mul_pos accelerationLimit later).le

variable [FloorRing K]

omit [IsStrictOrderedRing K] in
theorem commit_stands (o : StepOver K) (committed : ℤ) (s : ForceServoOver K) :
    Stands s ((Turn.commit o committed).apply p c s) ∧
      ((Turn.commit o committed).apply p c s).initialized = s.initialized := by
  show Stands s (((Controller.commit p c s o committed).map Prod.fst).getD s) ∧
    (((Controller.commit p c s o committed).map Prod.fst).getD s).initialized = s.initialized
  unfold commit
  split
  · exact ⟨⟨rfl, rfl, rfl, rfl⟩, rfl⟩
  · exact ⟨⟨rfl, rfl, rfl, rfl⟩, rfl⟩

omit [IsStrictOrderedRing K] in
theorem turn_initialized (turn : Turn K) (ready : s.initialized = true) : (turn.apply p c s).initialized = true := by
  cases turn with
  | prepare m dt =>
    show (((Controller.prepare p c s m dt).map Prod.fst).getD s).initialized = true
    unfold prepare
    split
    · exact ready
    · exact ready
  | commit o committed => exact (commit_stands o committed s).2.trans ready

omit [IsStrictOrderedRing K] in
theorem run_initialized (ready : s.initialized = true) (turns : List (Turn K)) :
    (run p c s turns).initialized = true := by
  induction turns generalizing s with
  | nil => exact ready
  | cons turn rest ih => exact ih (turn_initialized turn ready)

omit [IsStrictOrderedRing K] [FloorRing K] in
theorem prepare_admitted (ready : s.initialized = true) (valid : configValid p c = true) {m dt : K}
    (admitted : Admits c m dt) : ∃ next o, prepare p c s m dt = some (next, o) := by
  obtain ⟨low, high, soon, recent⟩ := admitted
  have inside : ¬ (¬ s.initialized = true ∨ ¬ configValid p c = true ∨ m < 0 ∨ representable < m ∨
      dt < c.controlMinMs * (1 / 1000) ∨ c.feedbackGapMs * (1 / 1000) < dt) := by
    push Not
    exact ⟨ready, valid, low, high, soon, recent⟩
  exact ⟨_, _, if_neg inside⟩

theorem Tracks.turn (tracks : Tracks c sqrtf start target s) (turn : Turn K) :
    Tracks c sqrtf start target (turn.apply p c s) := by
  cases turn with
  | prepare m dt =>
    show Tracks c sqrtf start target (((Controller.prepare p c s m dt).map Prod.fst).getD s)
    cases accepted : prepare p c s m dt with
    | none => exact tracks
    | some result =>
      obtain ⟨later, moved, -, -⟩ := prepare_accepted accepted
      show Tracks c sqrtf start target result.1
      rw [moved]
      exact (tracks.follow later).observe m dt
  | commit o committed =>
    show Tracks c sqrtf start target (((Controller.commit p c s o committed).map Prod.fst).getD s)
    unfold commit
    split
    · exact tracks
    · exact ⟨tracks.origin, tracks.goal, tracks.duration, tracks.begun, tracks.within, tracks.reference, tracks.rate⟩

theorem Tracks.run (tracks : Tracks c sqrtf start target s) (turns : List (Turn K)) :
    Tracks c sqrtf start target (run p c s turns) := by
  induction turns generalizing s with
  | nil => exact tracks
  | cons turn rest ih => exact ih (tracks.turn turn)

end

theorem sqrt_root : Root Real.sqrt := fun x nonneg => ⟨Real.sqrt_nonneg x, (Real.mul_self_sqrt nonneg).ge⟩

/-- In exact arithmetic the reference starts at `start`, every admitted call is accepted and moves it on in time and
towards `target` within the limits of the configuration, to arrive there with the end of the trajectory; a commit leaves
it where it is. -/
theorem trajectory_contract {p : BuildPolicy} {c : ForceServoConfig} {start target : ℝ} {s : ForceServoOver ℝ}
    (started : init Real.sqrt p c start target = some s) (turns : List (Turn ℝ)) :
    s.reference = start ∧ s.elapsedS = 0 ∧ s.trajectoryS = trajectorySeconds Real.sqrt c start target ∧
      (∀ m dt, Admits c m dt → ∃ next o, prepare p c (run p c s turns) m dt = some (next, o)) ∧
      (∀ m dt next o, prepare p c (run p c s turns) m dt = some (next, o) →
        o.reference = next.reference ∧ o.referenceRate = next.referenceRate ∧
          Moved c start target dt (run p c s turns) next) ∧
      ∀ o committed, Stands (run p c s turns) ((Turn.commit o committed).apply p c (run p c s turns)) := by
  obtain ⟨valid, ready, here, begins⟩ := init_tracks started
  have tracks := @Tracks.run ℝ _ _ _ p c Real.sqrt start target s _ begins turns
  refine ⟨here, init_begins started, begins.duration, ?_, ?_, ?_⟩
  · intro m dt admitted
    exact prepare_admitted (run_initialized ready turns) valid admitted
  · intro m dt next o accepted
    obtain ⟨later, moved, reference, rate⟩ := prepare_accepted accepted
    refine ⟨reference, rate, ?_⟩
    rw [moved]
    exact tracks.moved sqrt_root valid later ((tracks.follow later).observe m dt) rfl
  · intro o committed
    exact (commit_stands o committed _).1

/-- The default controller of a commissioning build on its way from 30 to 250. -/
noncomputable def benchStart : ForceServoOver ℝ :=
  { ForceServoOver.zero with
    start := 30, filtered := 30, reference := 30, target := 250
    trajectoryS := trajectorySeconds Real.sqrt (defaultConfig .commissioned) 30 250, initialized := true }

theorem benchStart_started :
    init Real.sqrt .commissioned (defaultConfig .commissioned) 30 250 = some benchStart := by
  have valid : configValid .commissioned (defaultConfig .commissioned) = true := by decide +kernel
  have accepted : ¬ (¬ configValid .commissioned (defaultConfig .commissioned) = true ∨ (30 : ℝ) < 0 ∨
      (representable : ℝ) < 30 ∨ (250 : ℝ) ≤ 0 ∨ (representable : ℝ) < 250) := by
    rw [valid]
    norm_num [representable]
  exact if_neg accepted

theorem trajectory_contract_bench :
    ∃ next o,
      prepare .commissioned (defaultConfig .commissioned)
          (run .commissioned (defaultConfig .commissioned) benchStart [.prepare 30 (1 / 100)]) 31 (1 / 50) =
        some (next, o) ∧
        Moved (defaultConfig .commissioned) 30 250 (1 / 50)
          (run .commissioned (defaultConfig .commissioned) benchStart [.prepare 30 (1 / 100)]) next := by
  obtain ⟨-, -, -, accepts, moves, -⟩ := trajectory_contract benchStart_started [.prepare 30 (1 / 100)]
  have admitted : Admits (defaultConfig .commissioned) (31 : ℝ) (1 / 50) := by
    have low : (defaultConfig .commissioned).controlMinMs = 5 := by decide +kernel
    have high : (defaultConfig .commissioned).feedbackGapMs = 125 := by decide +kernel
    unfold Admits representable
    rw [low, high]
    norm_num
  obtain ⟨next, o, accepted⟩ := accepts 31 (1 / 50) admitted
  exact ⟨next, o, accepted, (moves 31 (1 / 50) next o accepted).2.2⟩

end Sd700.Servo.Trajectory
