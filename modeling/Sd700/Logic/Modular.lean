import Mathlib.Data.BitVec

/-!
# Half-range order on machine words

Sequence numbers and millisecond clocks wrap. Both are compared by the sign of a wrapped
difference, so "after" means "less than half the range ahead".
-/

namespace Sd700.Logic.Modular

variable {w : Nat}

/-- `a` is strictly ahead of `b` by less than half the range. -/
def After (a b : BitVec w) : Prop :=
  a - b ≠ 0#w ∧ (a - b).toNat < 2 ^ (w - 1)

/-- The signed difference `a - b` is not negative. -/
def Reached (a b : BitVec w) : Prop :=
  (a - b).toNat < 2 ^ (w - 1)

instance (a b : BitVec w) : Decidable (After a b) :=
  inferInstanceAs (Decidable (_ ∧ _))

instance (a b : BitVec w) : Decidable (Reached a b) :=
  inferInstanceAs (Decidable (_ < _))

theorem After.reached {a b : BitVec w} (later : After a b) : Reached a b :=
  later.2

theorem After.ne {a b : BitVec w} (later : After a b) : a ≠ b := by
  intro same
  exact later.1 (by rw [same, BitVec.sub_self])

@[simp] theorem not_after_self (a : BitVec w) : ¬ After a a := by
  intro later
  exact later.ne rfl

/-- Offsets of less than half the range from one word compare as the numbers they are. -/
theorem reached_add_iff {b x y : BitVec w} (near : x.toNat < 2 ^ (w - 1)) (far : y.toNat < 2 ^ (w - 1)) :
    Reached (b + x) (b + y) ↔ y.toNat ≤ x.toNat := by
  have offset : b + x - (b + y) = x - y := add_sub_add_left_eq_sub x y b
  have small := y.isLt
  unfold Reached
  rw [offset, BitVec.toNat_sub]
  cases w with
  | zero =>
    simp only [Nat.pow_zero] at small ⊢
    omega
  | succ w =>
    have double : 2 ^ (w + 1) = 2 * 2 ^ w := by rw [Nat.pow_succ, Nat.mul_comm]
    rw [Nat.add_sub_cancel] at near far ⊢
    rw [double]
    by_cases order : y.toNat ≤ x.toNat
    · have split : 2 * 2 ^ w - y.toNat + x.toNat = x.toNat - y.toNat + 2 * 2 ^ w := by omega
      rw [split, Nat.add_mod_right, Nat.mod_eq_of_lt (by omega)]
      omega
    · rw [Nat.mod_eq_of_lt (by omega)]
      omega

def stamp (w t : Nat) : BitVec w :=
  BitVec.ofNat w t

@[simp] theorem stamp_toNat (w t : Nat) : (stamp w t).toNat = t % 2 ^ w :=
  BitVec.toNat_ofNat ..

/-- Two readings less than a full range apart differ by the time that passed. -/
theorem stamp_sub_toNat {s t : Nat} (order : s ≤ t) (near : t - s < 2 ^ w) :
    (stamp w t - stamp w s).toNat = t - s := by
  have split : BitVec.ofNat w t = BitVec.ofNat w (t - s) + BitVec.ofNat w s := by
    rw [← BitVec.ofNat_add, Nat.sub_add_cancel order]
  rw [stamp, stamp, split, BitVec.add_sub_cancel, BitVec.toNat_ofNat, Nat.mod_eq_of_lt near]

/-- A wrapped difference is never more than the time that passed. -/
theorem stamp_sub_le {s t : Nat} (order : s ≤ t) : (stamp w t - stamp w s).toNat ≤ t - s := by
  have split : BitVec.ofNat w t = BitVec.ofNat w (t - s) + BitVec.ofNat w s := by
    rw [← BitVec.ofNat_add, Nat.sub_add_cancel order]
  rw [stamp, stamp, split, BitVec.add_sub_cancel, BitVec.toNat_ofNat]
  exact Nat.mod_le _ _

end Sd700.Logic.Modular
