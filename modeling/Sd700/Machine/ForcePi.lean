import Sd700.Logic.Floating

/-! The proportional-integral strategy of `force_pi.c`, a calculation over control units that starts
nothing by itself. -/

namespace Sd700.Machine.ForcePi
open Logic.Floating

/-- `ForcePiConfig`. -/
structure PiConfig (F : Type) where
  kpMvPerUnit : F
  kiMvPerUnitS : F
  outputMinMv : F
  outputMaxMv : F
  integralMinMv : F
  integralMaxMv : F
  maximumDtS : F

/-- `ForcePiState`. -/
structure PiState (F : Type) where
  initializedConfig : PiConfig F
  integralMv : F
  initialized : Bool

/-- `ForcePiSnapshot`. -/
structure PiSnapshot (F : Type) where
  target : F
  measurement : F
  error : F
  dtS : F
  proportionalMv : F
  integralMv : F
  unlimitedOutputMv : F
  limitedOutputMv : F
  saturated : Bool
  integrationAllowed : Bool

variable {F : Type} (ops : FloatOps F)

def PiConfig.zero : PiConfig F :=
  ⟨ops.zero, ops.zero, ops.zero, ops.zero, ops.zero, ops.zero, ops.zero⟩

def PiSnapshot.zero : PiSnapshot F :=
  ⟨ops.zero, ops.zero, ops.zero, ops.zero, ops.zero, ops.zero, ops.zero, ops.zero, false, false⟩

/-- `ForcePi_ConfigIsValid`. -/
def configIsValid (c : PiConfig F) : Bool :=
  ops.isFinite c.kpMvPerUnit && ops.isFinite c.kiMvPerUnitS && ops.isFinite c.outputMinMv &&
    ops.isFinite c.outputMaxMv && ops.isFinite c.integralMinMv && ops.isFinite c.integralMaxMv &&
    ops.isFinite c.maximumDtS && ops.le ops.zero c.kpMvPerUnit && ops.le ops.zero c.kiMvPerUnitS &&
    ops.le c.outputMinMv c.outputMaxMv && ops.le c.integralMinMv c.integralMaxMv &&
    ops.lt ops.zero c.maximumDtS

/-- `ForcePi_ConfigMatches`. -/
def configMatches (a b : PiConfig F) : Bool :=
  ops.eq a.kpMvPerUnit b.kpMvPerUnit && ops.eq a.kiMvPerUnitS b.kiMvPerUnitS &&
    ops.eq a.outputMinMv b.outputMinMv && ops.eq a.outputMaxMv b.outputMaxMv &&
    ops.eq a.integralMinMv b.integralMinMv && ops.eq a.integralMaxMv b.integralMaxMv &&
    ops.eq a.maximumDtS b.maximumDtS

/-- `ForcePi_Clamp`. -/
def clamp (x lower upper : F) : F :=
  if ops.lt x lower then lower else if ops.lt upper x then upper else x

/-- `ForcePi_Initialize`. -/
def initialState (c : PiConfig F) : Option (PiState F) :=
  if configIsValid ops c then some ⟨c, ops.zero, true⟩ else none

/-- `ForcePi_Reset`. -/
def reset (s : PiState F) : PiState F :=
  if s.initialized && configIsValid ops s.initializedConfig then { s with integralMv := ops.zero } else s

/-- The checks `ForcePi_Update` makes on its arguments. -/
def acceptsUpdate (c : PiConfig F) (s : PiState F) (target measurement dt : F) (integrate : Bool) : Bool :=
  s.initialized && configIsValid ops c && configMatches ops c s.initializedConfig &&
    ops.isFinite s.integralMv && ops.isFinite target && ops.isFinite measurement && ops.isFinite dt &&
    !ops.lt dt ops.zero && !(ops.eq dt ops.zero && integrate) && !ops.lt c.maximumDtS dt

/-- The integral after the sample, or nothing when an intermediate value is not finite. -/
def integrated (c : PiConfig F) (s : PiState F) (error proportional dt : F) (integrate : Bool) : Option F :=
  let integral := if ops.eq c.kiMvPerUnitS ops.zero then ops.zero else s.integralMv
  if integrate && ops.lt ops.zero c.kiMvPerUnitS then
    let rate := ops.mul c.kiMvPerUnitS error
    if !ops.isFinite rate then none
    else
      let delta := ops.mul rate dt
      let candidate := ops.add integral delta
      if !ops.isFinite delta || !ops.isFinite candidate then none
      else
        let candidate := clamp ops candidate c.integralMinMv c.integralMaxMv
        let output := ops.add proportional candidate
        if !ops.isFinite output then none
        -- The integral is frozen while it would drive further into the limit.
        else if ops.lt c.outputMaxMv output && ops.lt ops.zero error ||
            ops.lt output c.outputMinMv && ops.lt error ops.zero then some integral
        else some candidate
  else some integral

/-- `ForcePi_Update`: the next state and the calculation, or a refusal. -/
def update (c : PiConfig F) (s : PiState F) (target measurement dt : F) (integrate : Bool) :
    Option (PiState F × PiSnapshot F) :=
  if !acceptsUpdate ops c s target measurement dt integrate then none
  else
    let error := ops.sub target measurement
    let proportional := ops.mul c.kpMvPerUnit error
    if !ops.isFinite error || !ops.isFinite proportional then none
    else
      match integrated ops c s error proportional dt integrate with
      | none => none
      | some integral =>
        let unlimited := ops.add proportional integral
        if !ops.isFinite unlimited then none
        else
          let limited := clamp ops unlimited c.outputMinMv c.outputMaxMv
          some ({ s with integralMv := integral },
            ⟨target, measurement, error, dt, proportional, integral, unlimited, limited,
              !ops.eq limited unlimited, integrate⟩)

end Sd700.Machine.ForcePi
