import Mathlib.Data.BitVec
import Mathlib.Data.Rat.Floor
import Mathlib.Data.Int.Log
import Mathlib.Algebra.Order.Field.Rat

/-!
# Binary32 words

A 32-bit word read as a rational, and a rational rounded to the nearest word with ties to even.
Subnormal magnitudes are included; infinities and NaNs are the words that are not finite.
-/

namespace Sd700.Logic.Binary32

abbrev Word := BitVec 32

def exponentField (w : Word) : Nat := w.toNat / 2 ^ 23 % 2 ^ 8

def fraction (w : Word) : Nat := w.toNat % 2 ^ 23

def finite (w : Word) : Bool := exponentField w ≠ 255

def pow2 (e : ℤ) : ℚ := if 0 ≤ e then 2 ^ e.toNat else 1 / 2 ^ (-e).toNat

/-- The magnitude and sign of a finite word; both zeros have the value 0. -/
def value (w : Word) : ℚ :=
  let magnitude : ℚ :=
    if exponentField w = 0 then fraction w * pow2 (-149)
    else (2 ^ 23 + fraction w : ℕ) * pow2 (exponentField w - 150)
  if w.msb then -magnitude else magnitude

def roundEven (q : ℚ) : ℤ :=
  let below := ⌊q⌋
  let rest := q - below
  if rest < 1 / 2 then below
  else if 1 / 2 < rest then below + 1
  else if below % 2 = 0 then below else below + 1

/-- The word nearest to a magnitude. A significand that rounds up to the next power of two carries
into the exponent by plain addition. -/
def magnitudeWord (q : ℚ) : Nat :=
  let e := max (Int.log 2 q) (-126)
  let significand := (roundEven (q / pow2 (e - 23))).toNat
  if significand < 2 ^ 23 then significand
  else (e + 127).toNat * 2 ^ 23 + (significand - 2 ^ 23)

def encode (q : ℚ) : Word :=
  if q = 0 then 0
  else if 0 < q then BitVec.ofNat 32 (magnitudeWord q)
  else BitVec.ofNat 32 (2 ^ 31 + magnitudeWord (-q))

example : [0, 1, 10, 1 / 1000, 1 / 50, 1 / 10, -1000, 100000].map encode =
    [0, 0x3F800000, 0x41200000, 0x3A83126F, 0x3CA3D70A, 0x3DCCCCCD, 0xC47A0000, 0x47C35000] := by
  decide +kernel

end Sd700.Logic.Binary32
