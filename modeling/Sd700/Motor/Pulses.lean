import Mathlib.Logic.Relation
import Sd700.Motor.Interface

/-! The motor executor as the automatic machine sees it: timed requests only, one at a time. -/

namespace Sd700.Motor.Pulses
open Build.Contract Interface

def supplyReferenceMv : ℕ := 24000
def pwmPeriodCounts : ℕ := 4799

/-- `MotorExecutor_PlanCommand`: the two compare values of a command. -/
def planCommand (direction : Direction) (commandMv : ℕ) : Option (ℕ × ℕ) :=
  if commandMv = 0 ∨ supplyReferenceMv < commandMv then none
  else
    let duty := min ((commandMv * pwmPeriodCounts + (supplyReferenceMv - 1)) / supplyReferenceMv)
      pwmPeriodCounts
    match direction with
    | .press => some (0, duty)
    | .release => some (duty, 0)

/-- The fields of `MotorExecutorSnapshot` the machine reads. -/
structure PulseSnapshot where
  requestSequence : U32
  direction : Direction
  lastCompletion : Completion
  logicalActive : Bool
  physicalOutputDisabled : Bool

/-- The arguments of `MotorExecutor_StartPulse`, and with `pulse` off of `MotorExecutor_StartRun`. -/
structure StartCall where
  pulse : Bool
  direction : Direction
  commandMv : U32
  durationMs : U32
  backstopMs : U32
  now : U32

/-- An executor over its own state. `interrupt` is what its timer does between two calls. -/
structure PulseExecutor (Exec : Type) where
  snapshot : Exec → PulseSnapshot
  outputIsDisabled : Exec → Bool
  isHealthy : Exec → Bool
  activeRequestIsValid : Exec → Bool
  start : StartCall → Exec → MotorResult × Exec
  service : U32 → Exec → MotorResult × Exec
  disable : Exec → MotorResult × Exec
  interrupt : Exec → Exec

namespace PulseExecutor
variable {Exec : Type}

def Idle (E : PulseExecutor Exec) (x : Exec) : Prop :=
  (E.snapshot x).logicalActive = false ∧ E.outputIsDisabled x = true

/-- What the machine relies on: Disable succeeds, and only a start wakes an executor or gives its
request a new number. -/
structure Sound (E : PulseExecutor Exec) : Prop where
  disable_ok (x : Exec) : (E.disable x).1 = .ok
  disable_idle (x : Exec) : E.Idle (E.disable x).2
  service_idle (now : U32) (x : Exec) : E.Idle x → E.Idle (E.service now x).2
  interrupt_idle (x : Exec) : E.Idle x → E.Idle (E.interrupt x)
  disable_sequence (x : Exec) : (E.snapshot (E.disable x).2).requestSequence = (E.snapshot x).requestSequence
  service_sequence (now : U32) (x : Exec) :
    (E.snapshot (E.service now x).2).requestSequence = (E.snapshot x).requestSequence
  interrupt_sequence (x : Exec) :
    (E.snapshot (E.interrupt x)).requestSequence = (E.snapshot x).requestSequence

def took (E : PulseExecutor Exec) (call : StartCall) (x : Exec) : Bool :=
  decide ((E.start call x).1 = .ok) && E.activeRequestIsValid (E.start call x).2

/-- The same executor, keeping its start calls, newest first, each with whether it was taken. -/
def logged (E : PulseExecutor Exec) : PulseExecutor (Exec × List (StartCall × Bool)) where
  snapshot x := E.snapshot x.1
  outputIsDisabled x := E.outputIsDisabled x.1
  isHealthy x := E.isHealthy x.1
  activeRequestIsValid x := E.activeRequestIsValid x.1
  start call x := ((E.start call x.1).1, (E.start call x.1).2, (call, E.took call x.1) :: x.2)
  service now x := ((E.service now x.1).1, (E.service now x.1).2, x.2)
  disable x := ((E.disable x.1).1, (E.disable x.1).2, x.2)
  interrupt x := (E.interrupt x.1, x.2)

theorem Sound.logged {E : PulseExecutor Exec} (sound : E.Sound) : E.logged.Sound where
  disable_ok x := sound.disable_ok x.1
  disable_idle x := sound.disable_idle x.1
  service_idle now x := sound.service_idle now x.1
  interrupt_idle x := sound.interrupt_idle x.1
  disable_sequence x := sound.disable_sequence x.1
  service_sequence now x := sound.service_sequence now x.1
  interrupt_sequence x := sound.interrupt_sequence x.1

def Attends (E : PulseExecutor Exec) (x y : Exec) : Prop :=
  y = (E.disable x).2 ∨ (∃ now, y = (E.service now x).2) ∨ y = E.interrupt x

abbrev Aside (E : PulseExecutor Exec) : Exec → Exec → Prop := Relation.ReflTransGen E.Attends

theorem Sound.aside_idle {E : PulseExecutor Exec} (sound : E.Sound) {x y : Exec} (aside : E.Aside x y)
    (idle : E.Idle x) : E.Idle y := by
  induction aside with
  | refl => exact idle
  | tail _ attended ih =>
    rcases attended with rfl | ⟨now, rfl⟩ | rfl
    · exact sound.disable_idle _
    · exact sound.service_idle now _ ih
    · exact sound.interrupt_idle _ ih

theorem Sound.aside_sequence {E : PulseExecutor Exec} (sound : E.Sound) {x y : Exec} (aside : E.Aside x y) :
    (E.snapshot y).requestSequence = (E.snapshot x).requestSequence := by
  induction aside with
  | refl => rfl
  | tail _ attended ih =>
    rcases attended with rfl | ⟨now, rfl⟩ | rfl
    · rw [sound.disable_sequence, ih]
    · rw [sound.service_sequence, ih]
    · rw [sound.interrupt_sequence, ih]

theorem logged_aside {E : PulseExecutor Exec} {x y : Exec × List (StartCall × Bool)}
    (aside : E.logged.Aside x y) : y.2 = x.2 := by
  induction aside with
  | refl => rfl
  | tail _ attended ih =>
    rcases attended with rfl | ⟨now, rfl⟩ | rfl
    · exact ih
    · exact ih
    · exact ih

end PulseExecutor

end Sd700.Motor.Pulses
