import Mathlib.Tactic.Linarith
import Sd700.Machine.ForcePi

/-! The calls of `force_pi.c` over one state, read in exact arithmetic: what a sequence of them keeps of the
integral, and what each of them returns. -/

namespace Sd700.Machine.PiSequence
open Logic.Floating ForcePi

section
variable {F : Type} (ops : FloatOps F)

/-- `ForcePi_Update` with what it leaves: its result, the state and the caller's snapshot, which is cleared
before anything is checked and written only on success. -/
def updateCall (c : PiConfig F) (s : PiState F) (target measurement dt : F) (integrate : Bool) :
    Bool × PiState F × PiSnapshot F :=
  match update ops c s target measurement dt integrate with
  | none => (false, s, PiSnapshot.zero ops)
  | some (next, snapshot) => (true, next, snapshot)

/-- A call after `ForcePi_Initialize`. -/
inductive Call (F : Type)
  | update (c : PiConfig F) (target measurement dt : F) (integrate : Bool)
  | reset

def Call.apply (s : PiState F) : Call F → PiState F
  | .update c target measurement dt integrate => (updateCall ops c s target measurement dt integrate).2.1
  | .reset => ForcePi.reset ops s

def run (s : PiState F) (calls : List (Call F)) : PiState F := calls.foldl (Call.apply ops) s

/-- The integral an integration step proposes: one step on, inside the integral's own limits. -/
def proposal (c : PiConfig F) (s : PiState F) (error dt : F) : F :=
  clamp ops (ops.add s.integralMv (ops.mul (ops.mul c.kiMvPerUnitS error) dt)) c.integralMinMv c.integralMaxMv

def proposedOutput (c : PiConfig F) (s : PiState F) (error dt : F) : F :=
  ops.add (ops.mul c.kpMvPerUnit error) (proposal ops c s error dt)

end

open FloatOps (rational)

/-- An integral in the hull of zero and the integral's limits. -/
def InHull (c : PiConfig ℚ) (x : ℚ) : Prop := min 0 c.integralMinMv ≤ x ∧ x ≤ max 0 c.integralMaxMv

def Beyond (c : PiConfig ℚ) (s : PiState ℚ) (error dt : ℚ) : Prop :=
  c.outputMaxMv < proposedOutput rational c s error dt ∧ 0 < error ∨
    proposedOutput rational c s error dt < c.outputMinMv ∧ error < 0

section
variable {c : PiConfig ℚ} {s : PiState ℚ} {target measurement dt : ℚ} {integrate : Bool}

theorem inHull_zero (c : PiConfig ℚ) : InHull c 0 := ⟨min_le_left _ _, le_max_left _ _⟩

theorem clamp_bounds {x lower upper : ℚ} (ordered : lower ≤ upper) :
    lower ≤ clamp rational x lower upper ∧ clamp rational x lower upper ≤ upper := by
  simp only [clamp, rational, decide_eq_true_eq]
  split_ifs with below above
  · exact ⟨le_refl _, ordered⟩
  · exact ⟨ordered, le_refl _⟩
  · exact ⟨not_lt.mp below, not_lt.mp above⟩

theorem configIsValid_iff : configIsValid rational c = true ↔
    0 ≤ c.kpMvPerUnit ∧ 0 ≤ c.kiMvPerUnitS ∧ c.outputMinMv ≤ c.outputMaxMv ∧
      c.integralMinMv ≤ c.integralMaxMv ∧ 0 < c.maximumDtS := by
  simp only [configIsValid, FloatOps.le, FloatOps.zero, rational, Bool.true_and, Bool.and_eq_true,
    Bool.or_eq_true, decide_eq_true_eq, Int.cast_zero, ← le_iff_lt_or_eq, and_assoc]

theorem configMatches_iff {a b : PiConfig ℚ} : configMatches rational a b = true ↔ a = b := by
  cases a
  cases b
  simp only [configMatches, rational, Bool.and_eq_true, decide_eq_true_eq, PiConfig.mk.injEq, and_assoc]

theorem proposal_inHull (valid : configIsValid rational c = true) (error : ℚ) :
    InHull c (proposal rational c s error dt) := by
  have bounds : c.integralMinMv ≤ proposal rational c s error dt ∧
      proposal rational c s error dt ≤ c.integralMaxMv := clamp_bounds (configIsValid_iff.mp valid).2.2.2.1
  exact ⟨(min_le_right _ _).trans bounds.1, bounds.2.trans (le_max_right _ _)⟩

/-- The integral after an update: the proposal of a step that integrates and is not held back, else the old
one, or zero without an integral gain. -/
theorem integrated_eq (valid : configIsValid rational c = true) (error : ℚ) :
    ∃ integral, integrated rational c s error (c.kpMvPerUnit * error) dt integrate = some integral ∧
      (c.kiMvPerUnitS = 0 → integral = 0) ∧
      (c.kiMvPerUnitS ≠ 0 → integrate = false → integral = s.integralMv) ∧
      (c.kiMvPerUnitS ≠ 0 → integrate = true → Beyond c s error dt → integral = s.integralMv) ∧
      (c.kiMvPerUnitS ≠ 0 → integrate = true → ¬ Beyond c s error dt →
        integral = proposal rational c s error dt) := by
  have gain : 0 ≤ c.kiMvPerUnitS := (configIsValid_iff.mp valid).2.1
  rcases eq_or_ne c.kiMvPerUnitS 0 with none_ | some_
  · refine ⟨0, ?_, fun _ => rfl, fun positive => absurd none_ positive, fun positive => absurd none_ positive,
      fun positive => absurd none_ positive⟩
    simp [integrated, FloatOps.zero, rational, none_]
  · have positive : 0 < c.kiMvPerUnitS := lt_of_le_of_ne gain some_.symm
    cases integrate with
    | false =>
      refine ⟨s.integralMv, ?_, fun none_ => absurd none_ some_, fun _ _ => rfl, fun _ on => Bool.noConfusion on,
        fun _ on => Bool.noConfusion on⟩
      simp [integrated, FloatOps.zero, rational, some_]
    | true =>
      by_cases beyond : Beyond c s error dt
      · refine ⟨s.integralMv, ?_, fun none_ => absurd none_ some_, fun _ off => Bool.noConfusion off,
          fun _ _ _ => rfl, fun _ _ within => absurd beyond within⟩
        have held := beyond
        unfold Beyond proposedOutput proposal at held
        simp only [rational] at held
        simp [integrated, FloatOps.zero, rational, some_, positive, held]
      · refine ⟨proposal rational c s error dt, ?_, fun none_ => absurd none_ some_,
          fun _ off => Bool.noConfusion off, fun _ _ held => absurd held beyond, fun _ _ _ => rfl⟩
        have free := beyond
        unfold Beyond proposedOutput proposal at free
        simp only [rational] at free
        simp [integrated, FloatOps.zero, rational, some_, positive, free, proposal]

/-- What one update does to a state of this configuration. -/
structure Updated (c : PiConfig ℚ) (s : PiState ℚ) (target measurement dt : ℚ) (integrate : Bool)
    (left : Bool × PiState ℚ × PiSnapshot ℚ) : Prop where
  refused : left.1 = false → left.2.1 = s ∧ left.2.2 = PiSnapshot.zero rational
  limited : left.1 = true → c.outputMinMv ≤ left.2.2.limitedOutputMv ∧ left.2.2.limitedOutputMv ≤ c.outputMaxMv
  frozen : left.1 = true → integrate = false → left.2.1.integralMv = s.integralMv
  proportional : left.1 = true → c.kiMvPerUnitS = 0 → left.2.1.integralMv = 0
  heldBack : left.1 = true → integrate = true → Beyond c s (target - measurement) dt →
    left.2.1.integralMv = s.integralMv
  hull : InHull c left.2.1.integralMv
  kept : left.2.1.initializedConfig = c

/-- The state holds this configuration and an integral it may have reached. -/
structure Sound (c : PiConfig ℚ) (s : PiState ℚ) : Prop where
  valid : configIsValid rational c = true
  config : s.initializedConfig = c
  hull : InHull c s.integralMv
  proportional : c.kiMvPerUnitS = 0 → s.integralMv = 0

theorem initialState_sound (initial : initialState rational c = some s) : Sound c s := by
  unfold initialState at initial
  split at initial
  · rename_i valid
    cases initial
    have zero : rational.zero = 0 := Int.cast_zero
    exact ⟨valid, rfl, zero ▸ inHull_zero c, fun _ => zero⟩
  · cases initial

/-- An update that is not refused was given the configuration of the state. -/
theorem update_config {config : PiConfig ℚ} {next : PiState ℚ} {snapshot : PiSnapshot ℚ}
    (done_ : update rational config s target measurement dt integrate = some (next, snapshot)) :
    config = s.initializedConfig := by
  unfold update at done_
  split at done_
  · cases done_
  · rename_i accepted
    simp only [Bool.not_eq_true', Bool.not_eq_false, acceptsUpdate, Bool.and_eq_true] at accepted
    exact configMatches_iff.mp accepted.1.1.1.1.1.1.1.2

theorem update_done {next : PiState ℚ} {snapshot : PiSnapshot ℚ}
    (done_ : update rational c s target measurement dt integrate = some (next, snapshot)) :
    ∃ integral, integrated rational c s (target - measurement) (c.kpMvPerUnit * (target - measurement)) dt
        integrate = some integral ∧
      next = { s with integralMv := integral } ∧
      snapshot.limitedOutputMv =
        clamp rational (c.kpMvPerUnit * (target - measurement) + integral) c.outputMinMv c.outputMaxMv := by
  unfold update at done_
  split at done_
  · cases done_
  · simp only [rational, Bool.not_true, Bool.or_self, Bool.false_eq_true, if_false] at done_
    split at done_
    · cases done_
    · rename_i integral found
      cases done_
      exact ⟨integral, found, rfl, rfl⟩

theorem updateCall_updated (sound : Sound c s) (config : PiConfig ℚ) (target measurement dt : ℚ) (integrate : Bool) :
    Updated c s target measurement dt integrate (updateCall rational config s target measurement dt integrate) := by
  unfold updateCall
  cases done_ : update rational config s target measurement dt integrate with
  | none =>
    exact ⟨fun _ => ⟨rfl, rfl⟩, fun ok => Bool.noConfusion ok, fun ok => Bool.noConfusion ok,
      fun ok => Bool.noConfusion ok, fun ok => Bool.noConfusion ok, sound.hull, sound.config⟩
  | some result =>
    obtain ⟨next, snapshot⟩ := result
    have same : config = c := (update_config done_).trans sound.config
    subst same
    obtain ⟨integral, found, rfl, limited⟩ := update_done done_
    obtain ⟨value, computed, proportional, frozen, heldBack, moved⟩ :=
      @integrated_eq config s dt integrate sound.valid (target - measurement)
    obtain rfl : integral = value := Option.some.inj (found.symm.trans computed)
    have bounds := clamp_bounds (x := config.kpMvPerUnit * (target - measurement) + integral)
      (configIsValid_iff.mp sound.valid).2.2.1
    have still (same : integral = s.integralMv) : InHull config integral := same ▸ sound.hull
    refine ⟨fun no => Bool.noConfusion no, fun _ => ?_, fun _ off => ?_, fun _ none_ => proportional none_,
      fun _ on beyond => ?_, ?_, sound.config⟩
    · rw [limited]
      exact bounds
    · rcases eq_or_ne config.kiMvPerUnitS 0 with none_ | some_
      · exact (proportional none_).trans (sound.proportional none_).symm
      · exact frozen some_ off
    · rcases eq_or_ne config.kiMvPerUnitS 0 with none_ | some_
      · exact (proportional none_).trans (sound.proportional none_).symm
      · exact heldBack some_ on beyond
    · show InHull config integral
      rcases eq_or_ne config.kiMvPerUnitS 0 with none_ | some_
      · rw [proportional none_]
        exact inHull_zero config
      · cases integrate with
        | false => exact still (frozen some_ rfl)
        | true =>
          by_cases beyond : Beyond config s (target - measurement) dt
          · exact still (heldBack some_ rfl beyond)
          · rw [moved some_ rfl beyond]
            exact proposal_inHull sound.valid _

theorem Sound.call (sound : Sound c s) (call : Call ℚ) : Sound c (call.apply rational s) := by
  cases call with
  | update config target measurement dt integrate =>
    have updated := updateCall_updated sound config target measurement dt integrate
    refine ⟨sound.valid, updated.kept, updated.hull, fun none_ => ?_⟩
    change (updateCall rational config s target measurement dt integrate).2.1.integralMv = 0
    cases ok : (updateCall rational config s target measurement dt integrate).1 with
    | false =>
      rw [(updated.refused ok).1]
      exact sound.proportional none_
    | true => exact updated.proportional ok none_
  | reset =>
    show Sound c (ForcePi.reset rational s)
    unfold ForcePi.reset
    split
    · have zero : rational.zero = 0 := Int.cast_zero
      exact ⟨sound.valid, sound.config, zero ▸ inHull_zero c, fun _ => zero⟩
    · exact sound

theorem Sound.run (sound : Sound c s) (calls : List (Call ℚ)) : Sound c (run rational s calls) := by
  induction calls generalizing s with
  | nil => exact sound
  | cons call rest ih => exact ih (sound.call call)

end

/-- After `ForcePi_Initialize` and any calls, the integral is in its hull, and so it stays through one more
update: one that is refused changes nothing and leaves a cleared snapshot, one that succeeds reports an output
within the limits, and moves the integral only when integration is allowed, the gain is not zero and the step's
own output is not already beyond the limit on the side of the error. -/
theorem pi_contract {c : PiConfig ℚ} {s : PiState ℚ} (initial : initialState rational c = some s)
    (calls : List (Call ℚ)) :
    InHull c (run rational s calls).integralMv ∧
      ∀ config target measurement dt integrate,
        Updated c (run rational s calls) target measurement dt integrate
          (updateCall rational config (run rational s calls) target measurement dt integrate) := by
  have sound := (initialState_sound initial).run calls
  exact ⟨sound.hull, fun config => updateCall_updated sound config⟩

def benchConfig : PiConfig ℚ := ⟨2, 4, 0, 10, 1, 3, 1⟩

/-- A step inside the limits, one that is held back at the output limit, and a reset between them. -/
def benchCalls : List (Call ℚ) :=
  [.update benchConfig 3 1 (1 / 10) true, .reset, .update benchConfig 9 1 1 true]

theorem pi_contract_bench :
    InHull benchConfig (run rational ⟨benchConfig, 0, true⟩ benchCalls).integralMv ∧
      ∀ config target measurement dt integrate,
        Updated benchConfig (run rational ⟨benchConfig, 0, true⟩ benchCalls) target measurement dt integrate
          (updateCall rational config (run rational ⟨benchConfig, 0, true⟩ benchCalls) target measurement dt
            integrate) :=
  pi_contract (if_pos (by decide +kernel)) benchCalls

end Sd700.Machine.PiSequence
