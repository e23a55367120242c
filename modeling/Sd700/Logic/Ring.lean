import Mathlib.Data.List.Basic
import Mathlib.Tactic.SplitIfs

/-! A ring of slots between a reader's and a writer's index. One slot stays free, so that equal indices
mean an empty ring. -/

namespace Sd700.Logic.Ring

variable {α : Type*} {size read write : Nat}

/-- The contents of `count` slots from `read` on. -/
def window (size : Nat) (slots : Nat → α) (read count : Nat) : List α :=
  (List.range count).map fun i => slots ((read + i) % size)

def occupied (size read write : Nat) : Nat := (write + size - read) % size

/-- The index behind `index`. -/
def next (size index : Nat) : Nat := (index + 1) % size

theorem wrap {x : Nat} (once : x < size + size) : x % size = if x < size then x else x - size := by
  by_cases below : x < size
  · rw [if_pos below, Nat.mod_eq_of_lt below]
  · rw [if_neg below, Nat.mod_eq_sub_mod (by omega), Nat.mod_eq_of_lt (by omega)]

theorem next_lt (positive : 0 < size) (index : Nat) : next size index < size := Nat.mod_lt _ positive

theorem occupied_lt (positive : 0 < size) (read write : Nat) : occupied size read write < size :=
  Nat.mod_lt _ positive

theorem occupied_eq (reads : read < size) (writes : write < size) :
    occupied size read write = if read ≤ write then write - read else write + size - read := by
  rw [occupied, wrap (by omega)]
  split_ifs <;> omega

theorem occupied_self (reads : read < size) : occupied size read read = 0 := by
  rw [occupied_eq reads reads, if_pos (Nat.le_refl read)]
  omega

/-- The writer would reach the reader exactly when one slot is left. -/
theorem next_eq_iff (reads : read < size) (writes : write < size) :
    next size write = read ↔ occupied size read write + 1 = size := by
  rw [occupied_eq reads writes, next, wrap (by omega)]
  split_ifs <;> omega

theorem occupied_next (reads : read < size) (writes : write < size) (room : occupied size read write + 1 < size) :
    occupied size read (next size write) = occupied size read write + 1 := by
  have inside : next size write < size := next_lt (by omega) write
  have step : next size write = if write + 1 < size then write + 1 else write + 1 - size := wrap (by omega)
  rw [occupied_eq reads writes] at room ⊢
  rw [occupied_eq reads inside]
  split_ifs at step room ⊢ <;> omega

/-- The writer is where the reader gets after the occupied slots. -/
theorem read_occupied (reads : read < size) (writes : write < size) :
    (read + occupied size read write) % size = write := by
  have bound := occupied_lt (by omega : 0 < size) read write
  rw [wrap (by omega), occupied_eq reads writes]
  split_ifs <;> omega

theorem occupied_add (reads : read < size) {count : Nat} (few : count < size) :
    occupied size read ((read + count) % size) = count := by
  have inside : (read + count) % size < size := Nat.mod_lt _ (by omega)
  rw [occupied_eq reads inside, wrap (by omega)]
  split_ifs <;> omega

theorem occupied_advance (reads : read < size) (writes : write < size) {count : Nat}
    (within : count ≤ occupied size read write) :
    occupied size ((read + count) % size) write = occupied size read write - count := by
  have bound := occupied_lt (by omega : 0 < size) read write
  have inside : (read + count) % size < size := Nat.mod_lt _ (by omega)
  have step := @wrap size (read + count) (by omega)
  rw [occupied_eq reads writes] at within bound ⊢
  rw [occupied_eq inside writes]
  split_ifs at step within bound ⊢ <;> omega

/-! ### Windows -/

theorem window_length (size : Nat) (slots : Nat → α) (read count : Nat) :
    (window size slots read count).length = count := by
  rw [window, List.length_map, List.length_range]

theorem window_succ (size : Nat) (slots : Nat → α) (read count : Nat) :
    window size slots read (count + 1) = window size slots read count ++ [slots ((read + count) % size)] := by
  rw [window, List.range_succ, List.map_append]
  rfl

theorem window_take (size : Nat) (slots : Nat → α) (read : Nat) {count more : Nat} (fewer : count ≤ more) :
    (window size slots read more).take count = window size slots read count := by
  rw [window, ← List.map_take, List.take_range, Nat.min_eq_left fewer]
  rfl

theorem window_drop (size : Nat) (slots : Nat → α) (read count more : Nat) :
    (window size slots read (count + more)).drop count = window size slots ((read + count) % size) more := by
  apply List.ext_getElem
  · simp only [List.length_drop, window_length]
    omega
  · intro i _ _
    simp only [window, List.getElem_drop, List.getElem_map, List.getElem_range, Nat.mod_add_mod, Nat.add_assoc]

theorem window_update (slots : Nat → α) (value : α) {count : Nat}
    (outside : ∀ i < count, (read + i) % size ≠ write) :
    window size (Function.update slots write value) read count = window size slots read count := by
  apply List.map_congr_left
  intro i member
  exact Function.update_of_ne (outside i (List.mem_range.mp member)) _ _

theorem window_push (reads : read < size) (writes : write < size) (slots : Nat → α) (value : α) :
    window size (Function.update slots write value) read (occupied size read write + 1) =
      window size slots read (occupied size read write) ++ [value] := by
  have outside : ∀ i < occupied size read write, (read + i) % size ≠ write := by
    intro i earlier same
    have bound := occupied_lt (by omega : 0 < size) read write
    have count := occupied_add reads (by omega : i < size)
    rw [same] at count
    omega
  rw [window_succ, window_update slots value outside, read_occupied reads writes, Function.update_self]

end Sd700.Logic.Ring
