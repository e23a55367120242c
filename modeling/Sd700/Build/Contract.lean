import Mathlib.Data.BitVec

/-! The BuildToTarget contract shared by the source controller, the machine and the motor executor:
the compiled configuration, the segment request and the executor's envelope for it. -/

namespace Sd700.Build.Contract

abbrev U16 := BitVec 16
abbrev U32 := BitVec 32
abbrev U64 := BitVec 64

/-- `BUILD_MODE_*`; `none` is the zero of a cleared record. -/
inductive BuildMode
  | none | coarse | micro | fine
  deriving DecidableEq, Repr

/-- `BUILD_PHASE_*`. -/
inductive Phase
  | idle | approach | build | taper | targetOff
  deriving DecidableEq, Repr

/-- `BUILD_END_*`, in the order of the source's enumeration. -/
inductive EndReason
  | none | normal | reduced | stop | deadline | hardware
  deriving DecidableEq, Repr

/-- `end_reason >= BUILD_END_DEADLINE`. -/
def EndReason.isCutoff : EndReason → Bool
  | .deadline | .hardware => true
  | _ => false

/-- `end_reason` other than NORMAL and REDUCED closes the owner. -/
def EndReason.isOrderly : EndReason → Bool
  | .normal | .reduced => true
  | _ => false

/-- `g_force_build_config`, in wire order. -/
def forceBuildFields : List U32 :=
  [5, 5000, 10, 8000, 8000, 800, 3000, 500, 9000, 12000, 9, 15, 3, 50, 3, 2000, 12000, 0, 30, 0,
    108000, 45000, 2, 1, 2, 25, 2, 1, 200, 0, 0, 5000, 40000000, 0, 0, 0, 0, 0, 10000, 12, 7000, 8,
    400, 1, 10]

namespace Config

def contactN : U32 := 10
def approachTotalMs : U32 := 8000
def buildCeiling : U32 := 12000
def fullRestMs : U32 := 108000
def noResponseMs : U32 := 45000
def progressN : U32 := 2
def approachCommandMsBudget : U32 := 40000000
def farPressCeiling : U32 := 10000
def farNormalMaxMs : U32 := 12
def precision250Ceiling : U32 := 7000
def precision250MaxMs : U32 := 8

end Config

example : [2, 4, 9, 20, 21, 22, 32, 38, 39, 40, 41].map (forceBuildFields[·]?) =
    [Config.contactN, Config.approachTotalMs, Config.buildCeiling, Config.fullRestMs,
      Config.noResponseMs, Config.progressN, Config.approachCommandMsBudget,
      Config.farPressCeiling, Config.farNormalMaxMs, Config.precision250Ceiling,
      Config.precision250MaxMs].map some := by
  decide

/-- `FORCE_SERVO_COMMISSIONING_LEASE_MS`. -/
def leaseMs : U32 := 130

/-- `FORCE_SERVO_COMMISSIONING_AGE_MS`. -/
def ageMs : U32 := 20

/-- `ForceBuildRequest`. -/
structure Request where
  phase : Phase
  command : U32
  hardMs : U32
  baseCommand : U32
  mode : BuildMode
  preloadCommand : U32
  normalMs : U32
  settleMs : U32
  target : U32
  precision : Bool
  deriving DecidableEq

/-- The command ceiling and the pulse width `MotorExecutor_StartBuildSegment` selects. -/
def Request.cap (r : Request) : U32 × U32 :=
  if r.precision ∨ r.mode = .fine then
    if r.target ≤ 200 then (5500, 4)
    else if r.target < 800 then (Config.precision250Ceiling, Config.precision250MaxMs)
    else (12000, 14)
  else if r.phase = .taper then
    (if r.target ≤ 200 then 5000 else 7000, if r.target ≤ 200 then 4 else 8)
  else (Config.farPressCeiling, Config.farNormalMaxMs)

def Request.approachFits (r : Request) : Prop :=
  r.mode = .coarse ∧ r.command = 5000 ∧ r.normalMs = 0 ∧ ¬ r.precision

def Request.pulseFits (r : Request) : Prop :=
  (r.phase = .build ∨ r.phase = .taper) ∧ (r.mode = .micro ∨ r.mode = .fine) ∧
    r.command ≠ 0 ∧ r.command ≤ r.cap.1 ∧ 2 ≤ r.normalMs ∧ r.normalMs ≤ r.cap.2 ∧
    r.hardMs = r.normalMs + 1 ∧ (r.settleMs = 30 ∨ r.settleMs = 400)

def Request.targetFits (r : Request) : Prop :=
  1 ≤ r.target ∧ r.target ≤ 3000 ∧ r.preloadCommand = 0

instance (r : Request) : Decidable r.approachFits := inferInstanceAs (Decidable (_ ∧ _))
instance (r : Request) : Decidable r.pulseFits := inferInstanceAs (Decidable (_ ∧ _))
instance (r : Request) : Decidable r.targetFits := inferInstanceAs (Decidable (_ ∧ _))

/-- Every parameter check of `MotorExecutor_StartBuildSegment`. -/
def Request.Fits (r : Request) : Prop :=
  r.targetFits ∧ if r.phase = .approach then r.approachFits else r.pulseFits

/-! ### Lengths -/

theorem cap_width (r : Request) : r.cap.2.toNat ≤ 14 := by
  unfold Request.cap
  split
  · split
    · decide
    split
    · decide
    · decide
  split
  · dsimp only
    split
    · decide
    · decide
  · decide

theorem pulse_lengths {r : Request} (fits : r.pulseFits) :
    2 ≤ r.normalMs.toNat ∧ r.normalMs.toNat ≤ 14 ∧ r.hardMs.toNat = r.normalMs.toNat + 1 := by
  obtain ⟨-, -, -, -, low, high, hard, -⟩ := fits
  have narrow : r.normalMs.toNat ≤ 14 := Nat.le_trans (show r.normalMs.toNat ≤ r.cap.2.toNat from high) (cap_width r)
  refine ⟨low, narrow, ?_⟩
  rw [hard]
  simp only [BitVec.toNat_add, BitVec.toNat_ofNat, BitVec.ofNat_eq_ofNat]
  omega

end Sd700.Build.Contract
