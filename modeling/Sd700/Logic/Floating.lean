import Mathlib.Data.Rat.Floor

/-! Floating point as the code's arithmetic uses it, with every operation a parameter: whatever is
proved over these operations holds for any rounding. -/

namespace Sd700.Logic.Floating

/-- A floating point format: conversions, arithmetic, the quiet comparisons and the truncation to an
unsigned integer. -/
structure FloatOps (F : Type) where
  ofInt : ℤ → F
  add : F → F → F
  sub : F → F → F
  mul : F → F → F
  div : F → F → F
  neg : F → F
  abs : F → F
  lt : F → F → Bool
  eq : F → F → Bool
  isFinite : F → Bool
  truncate : F → ℕ

namespace FloatOps
variable {F : Type} (ops : FloatOps F)

def zero : F := ops.ofInt 0
def one : F := ops.ofInt 1
def half : F := ops.div (ops.ofInt 1) (ops.ofInt 2)
def le (x y : F) : Bool := ops.lt x y || ops.eq x y

/-- A value of finite magnitude is positive, negative or less than one in magnitude. -/
def Signed : Prop :=
  ∀ x, ops.isFinite (ops.abs x) = true →
    ops.lt ops.zero x = true ∨ ops.lt x ops.zero = true ∨ ops.lt (ops.abs x) ops.one = true

def rational : FloatOps ℚ where
  ofInt n := n
  add x y := x + y
  sub x y := x - y
  mul x y := x * y
  div x y := x / y
  neg x := -x
  abs x := |x|
  lt x y := decide (x < y)
  eq x y := decide (x = y)
  isFinite _ := true
  truncate x := x.floor.toNat

theorem rational_signed : rational.Signed := by
  intro x _
  rcases lt_trichotomy 0 x with positive | rfl | negative
  · exact .inl (decide_eq_true positive)
  · right
    right
    exact decide_eq_true (show |(0 : ℚ)| < ((1 : ℤ) : ℚ) by norm_num)
  · exact .inr (.inl (decide_eq_true negative))

end FloatOps

end Sd700.Logic.Floating
