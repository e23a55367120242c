import Mathlib.Data.BitVec
import Mathlib.Logic.Function.Iterate
import Mathlib.Data.List.GetD

/-! A register that divides by a polynomial as bits are fed to it, the low bit first. Feeding is linear in the
register and the bits together; no step loses anything when the polynomial has its high bit; and up to
a register's width of bits can be fed at once. -/

namespace Sd700.Logic.ShiftRegister

variable {w : Nat} (polynomial : BitVec w)

def step (r : BitVec w) : BitVec w := if r.getLsbD 0 then (r >>> 1) ^^^ polynomial else r >>> 1

def low (bit : Bool) : BitVec w := (BitVec.ofBool bit).setWidth w

def feedBit (r : BitVec w) (bit : Bool) : BitVec w := step polynomial (r ^^^ low bit)

def feed (bits : List Bool) (r : BitVec w) : BitVec w := bits.foldl (feedBit polynomial) r

def word (bits : List Bool) : BitVec w := (BitVec.ofBoolListLE bits).setWidth w

/-! ### Linearity -/

theorem step_eq (r : BitVec w) : step polynomial r = (r >>> 1) ^^^ if r.getLsbD 0 then polynomial else 0 := by
  unfold step
  cases r.getLsbD 0 with
  | false => exact BitVec.xor_zero.symm
  | true => rfl

theorem step_xor (r s : BitVec w) : step polynomial (r ^^^ s) = step polynomial r ^^^ step polynomial s := by
  have folded : (if (r ^^^ s).getLsbD 0 then polynomial else 0) =
      (if r.getLsbD 0 then polynomial else 0) ^^^ if s.getLsbD 0 then polynomial else 0 := by
    rw [BitVec.getLsbD_xor]
    cases r.getLsbD 0 <;> cases s.getLsbD 0 <;> simp
  rw [step_eq, step_eq, step_eq, folded, BitVec.ushiftRight_xor_distrib]
  ac_rfl

theorem step_zero : step polynomial 0 = 0 := by
  unfold step
  rw [if_neg (by simp)]
  exact BitVec.zero_ushiftRight

theorem iterate_xor (n : Nat) (r s : BitVec w) :
    (step polynomial)^[n] (r ^^^ s) = (step polynomial)^[n] r ^^^ (step polynomial)^[n] s := by
  induction n generalizing r s with
  | zero => rfl
  | succ n ih =>
    rw [Function.iterate_succ_apply, Function.iterate_succ_apply, Function.iterate_succ_apply, step_xor]
    apply ih

theorem iterate_zero (n : Nat) : (step polynomial)^[n] 0 = 0 := Function.iterate_fixed (step_zero polynomial) n

theorem low_xor (a b : Bool) : (low (a ^^ b) : BitVec w) = low a ^^^ low b := by
  cases a <;> cases b <;> simp [low]

theorem feed_xor (bits flips : List Bool) (same : flips.length = bits.length) (r s : BitVec w) :
    feed polynomial (List.zipWith xor bits flips) (r ^^^ s) = feed polynomial bits r ^^^ feed polynomial flips s := by
  unfold feed
  induction bits generalizing flips r s with
  | nil =>
    rw [List.eq_nil_of_length_eq_zero same]
    rfl
  | cons bit later ih =>
    cases flips with
    | nil => contradiction
    | cons flip others =>
      have joined : feedBit polynomial (r ^^^ s) (bit ^^ flip) = feedBit polynomial r bit ^^^ feedBit polynomial s flip := by
        unfold feedBit
        rw [← step_xor, low_xor]
        apply congrArg
        ac_rfl
      rw [List.zipWith_cons_cons, List.foldl_cons, List.foldl_cons, List.foldl_cons, joined]
      exact ih others (Nat.succ_inj.mp same) _ _

theorem feed_append (bits later : List Bool) (r : BitVec w) :
    feed polynomial (bits ++ later) r = feed polynomial later (feed polynomial bits r) := List.foldl_append

theorem feed_replicate (n : Nat) (r : BitVec w) :
    feed polynomial (List.replicate n false) r = (step polynomial)^[n] r := by
  induction n generalizing r with
  | zero => rfl
  | succ n ih =>
    have still : feedBit polynomial r false = step polynomial r := by simp [feedBit, low]
    rw [List.replicate_succ, feed, List.foldl_cons, still]
    exact ih _

/-! ### Nothing is lost -/

theorem step_eq_zero (monic : polynomial.msb = true) {r : BitVec w} (fallen : step polynomial r = 0) : r = 0 := by
  unfold step at fallen
  cases parity : r.getLsbD 0 with
  | true =>
    rw [parity, if_pos rfl] at fallen
    rw [← BitVec.xor_eq_zero_iff.mp fallen, BitVec.msb_ushiftRight] at monic
    contradiction
  | false =>
    rw [parity, if_neg Bool.false_ne_true] at fallen
    apply BitVec.eq_of_getLsbD_eq
    intro i inside
    cases i with
    | zero => simp [parity]
    | succ i =>
      have bit := congrArg (fun x => BitVec.getLsbD x i) fallen
      simp only [BitVec.getLsbD_ushiftRight, Nat.add_comm 1] at bit
      rw [bit]
      simp

theorem iterate_eq_zero (monic : polynomial.msb = true) {n : Nat} {r : BitVec w}
    (fallen : (step polynomial)^[n] r = 0) : r = 0 := by
  induction n generalizing r with
  | zero => exact fallen
  | succ n ih =>
    rw [Function.iterate_succ_apply] at fallen
    exact step_eq_zero polynomial monic (ih fallen)

/-! ### Many bits at once -/

theorem word_getLsbD (bits : List Bool) (i : Nat) :
    (word bits : BitVec w).getLsbD i = (decide (i < w) && bits.getD i false) := by
  rw [word, BitVec.getLsbD_setWidth, BitVec.getLsbD_ofBoolListLE]

theorem word_cons (bit : Bool) (bits : List Bool) : (word (bit :: bits) : BitVec w) = low bit ^^^ (word bits <<< 1) := by
  apply BitVec.eq_of_getLsbD_eq
  intro i inside
  rw [BitVec.getLsbD_xor, BitVec.getLsbD_shiftLeft, word_getLsbD, word_getLsbD, low, BitVec.getLsbD_setWidth,
    BitVec.getLsbD_ofBool]
  cases i with
  | zero => simp
  | succ i =>
    have before : i < w := by omega
    simp [inside, before]

theorem step_shiftLeft {r : BitVec w} (room : r.msb = false) : step polynomial (r <<< 1) = r := by
  have even : (r <<< 1).getLsbD 0 = false := by simp
  unfold step
  rw [even, if_neg Bool.false_ne_true]
  apply BitVec.eq_of_getLsbD_eq
  intro i inside
  rw [BitVec.getLsbD_ushiftRight, BitVec.getLsbD_shiftLeft]
  by_cases last : 1 + i < w
  · simp [last]
  · have top : i = w - 1 := by omega
    rw [BitVec.msb_eq_getLsbD_last, ← top] at room
    simp [last, room]

theorem feed_eq_iterate (bits : List Bool) (fits : bits.length ≤ w) (r : BitVec w) :
    feed polynomial bits r = (step polynomial)^[bits.length] (r ^^^ word bits) := by
  induction bits generalizing r with
  | nil =>
    have empty : (word [] : BitVec w) = 0 := by
      apply BitVec.eq_of_getLsbD_eq
      intro i inside
      simp [word_getLsbD]
    rw [empty]
    exact BitVec.xor_zero.symm
  | cons bit later ih =>
    rw [List.length_cons] at fits
    have room : (word later : BitVec w).msb = false := by
      rw [BitVec.msb_eq_getLsbD_last, word_getLsbD, List.getD_eq_default _ _ (by omega), Bool.and_false]
    calc feed polynomial (bit :: later) r
        = feed polynomial later (step polynomial (r ^^^ low bit)) := rfl
      _ = (step polynomial)^[later.length] (step polynomial (r ^^^ low bit) ^^^ word later) := ih (by omega) _
      _ = (step polynomial)^[later.length] (step polynomial (r ^^^ low bit ^^^ (word later <<< 1))) := by
        rw [step_xor polynomial (r ^^^ low bit), step_shiftLeft polynomial room]
      _ = (step polynomial)^[(bit :: later).length] (r ^^^ word (bit :: later)) := by
        rw [word_cons, ← BitVec.xor_assoc, List.length_cons, Function.iterate_succ_apply]

/-- Bits that differ somewhere within a width leave a register that is not 0. -/
theorem feed_burst (monic : polynomial.msb = true) {bits : List Bool} (before after : Nat) (fits : bits.length ≤ w)
    (some_ : true ∈ bits) :
    feed polynomial (List.replicate before false ++ bits ++ List.replicate after false) 0 ≠ 0 := by
  intro fallen
  rw [feed_append, feed_append, feed_replicate, feed_replicate, iterate_zero, feed_eq_iterate polynomial bits fits] at fallen
  have empty := iterate_eq_zero polynomial monic (iterate_eq_zero polynomial monic fallen)
  obtain ⟨i, inside, set_⟩ := List.getElem_of_mem some_
  have bit := congrArg (fun x => BitVec.getLsbD x i) empty
  rw [BitVec.getLsbD_xor, word_getLsbD, List.getD_eq_getElem _ _ inside, set_] at bit
  have within : i < w := by omega
  simp [within] at bit

end Sd700.Logic.ShiftRegister
