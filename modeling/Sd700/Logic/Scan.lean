import Mathlib.Data.List.Basic

/-! Greedy scanning of a stream. At each position a window of `size` symbols that passes the check is
taken whole, and otherwise one symbol is dropped; what is shorter than a window waits for more. -/

namespace Sd700.Logic.Scan

variable {α : Type*}

inductive Piece (α : Type*)
  | window (symbols : List α)
  | dropped (symbol : α)

def Piece.content : Piece α → List α
  | .window symbols => symbols
  | .dropped symbol => [symbol]

structure Cut (α : Type*) where
  pieces : List (Piece α)
  rest : List α

variable (size : Nat) (valid : List α → Bool)

def scan : List α → Cut α
  | [] => ⟨[], []⟩
  | a :: tail =>
    if (a :: tail).length < size then ⟨[], a :: tail⟩
    else if valid ((a :: tail).take size) then
      ⟨.window ((a :: tail).take size) :: (scan (tail.drop (size - 1))).pieces,
        (scan (tail.drop (size - 1))).rest⟩
    else ⟨.dropped a :: (scan tail).pieces, (scan tail).rest⟩
termination_by stream => stream.length
decreasing_by
  all_goals simp only [List.length_drop, List.length_cons]
  all_goals omega

variable {size} {valid}

theorem drop_pred (positive : 0 < size) (a : α) (tail : List α) :
    tail.drop (size - 1) = (a :: tail).drop size := by
  obtain ⟨before, rfl⟩ := Nat.exists_eq_add_of_lt positive
  simp

theorem scan_short {stream : List α} (short : stream.length < size) :
    scan size valid stream = ⟨[], stream⟩ := by
  cases stream with
  | nil => rw [scan]
  | cons a tail => rw [scan, if_pos short]

theorem scan_window (positive : 0 < size) {stream : List α} (enough : size ≤ stream.length)
    (passes : valid (stream.take size) = true) :
    scan size valid stream =
      ⟨.window (stream.take size) :: (scan size valid (stream.drop size)).pieces,
        (scan size valid (stream.drop size)).rest⟩ := by
  cases stream with
  | nil => exact absurd enough (by simp only [List.length_nil]; omega)
  | cons a tail =>
    rw [scan, if_neg (by omega), if_pos passes, drop_pred positive]

theorem scan_dropped {a : α} {tail : List α} (enough : size ≤ (a :: tail).length)
    (fails : ¬ valid ((a :: tail).take size) = true) :
    scan size valid (a :: tail) =
      ⟨.dropped a :: (scan size valid tail).pieces, (scan size valid tail).rest⟩ := by
  rw [scan, if_neg (by omega), if_neg fails]

theorem rest_short (positive : 0 < size) (stream : List α) :
    (scan size valid stream).rest.length < size := by
  induction stream using scan.induct size valid with
  | case1 => simpa [scan] using positive
  | case2 a tail short => simpa only [scan_short short] using short
  | case3 a tail enough passes ih =>
    rw [scan, if_neg enough, if_pos passes]
    exact ih
  | case4 a tail enough fails ih =>
    rw [scan, if_neg enough, if_neg fails]
    exact ih

theorem scan_content (positive : 0 < size) (stream : List α) :
    (scan size valid stream).pieces.flatMap Piece.content ++ (scan size valid stream).rest = stream := by
  induction stream using scan.induct size valid with
  | case1 => simp [scan]
  | case2 a tail short => simp [scan_short short]
  | case3 a tail enough passes ih =>
    rw [scan_window positive (by omega) passes]
    rw [drop_pred positive] at ih
    rw [List.flatMap_cons, List.append_assoc, ih]
    exact List.take_append_drop size (a :: tail)
  | case4 a tail enough fails ih =>
    rw [scan_dropped (by omega) fails]
    simpa [Piece.content] using ih

theorem window_passes {stream symbols : List α}
    (taken : .window symbols ∈ (scan size valid stream).pieces) :
    symbols.length = size ∧ valid symbols = true := by
  induction stream using scan.induct size valid with
  | case1 => simp [scan] at taken
  | case2 a tail short => simp [scan_short short] at taken
  | case3 a tail enough passes ih =>
    rw [scan, if_neg enough, if_pos passes] at taken
    rcases List.mem_cons.mp taken with here | later
    · cases here
      refine ⟨?_, passes⟩
      rw [List.length_take]
      omega
    · exact ih later
  | case4 a tail enough fails ih =>
    rw [scan, if_neg enough, if_neg fails] at taken
    rcases List.mem_cons.mp taken with here | later
    · cases here
    · exact ih later

/-- Scanning piecemeal: what is left of the first part is scanned again together with the second. -/
theorem scan_append (positive : 0 < size) (first second : List α) :
    scan size valid (first ++ second) =
      ⟨(scan size valid first).pieces ++ (scan size valid ((scan size valid first).rest ++ second)).pieces,
        (scan size valid ((scan size valid first).rest ++ second)).rest⟩ := by
  induction first using scan.induct size valid with
  | case1 => simp [scan]
  | case2 a tail short => simp [scan_short short]
  | case3 a tail enough passes ih =>
    have taken : (a :: tail ++ second).take size = (a :: tail).take size :=
      List.take_append_of_le_length (by omega)
    have left : (a :: tail ++ second).drop size = (a :: tail).drop size ++ second :=
      List.drop_append_of_le_length (by omega)
    have longer : size ≤ (a :: tail ++ second).length := by
      rw [List.length_append]
      omega
    rw [drop_pred positive] at ih
    rw [scan_window positive (by omega) passes, scan_window positive longer (by rwa [taken]), taken, left, ih]
    rfl
  | case4 a tail enough fails ih =>
    have taken : (a :: tail ++ second).take size = (a :: tail).take size :=
      List.take_append_of_le_length (by omega)
    have longer : size ≤ (a :: (tail ++ second)).length := by
      rw [← List.cons_append, List.length_append]
      omega
    have refused : ¬ valid ((a :: (tail ++ second)).take size) = true := by
      rw [← List.cons_append, taken]
      exact fails
    rw [scan_dropped (by omega) fails, List.cons_append, scan_dropped longer refused, ih]
    rfl

/-! ### Where the windows start -/

/-- The positions of the windows taken, for pieces that begin at `base`. -/
def starts : Nat → List (Piece α) → List Nat
  | _, [] => []
  | base, .window symbols :: later => base :: starts (base + symbols.length) later
  | base, .dropped _ :: later => starts (base + 1) later

theorem starts_short (base : Nat) {stream : List α} (short : stream.length < size) :
    starts base (scan size valid stream).pieces = [] := by
  rw [scan_short short, starts]

theorem starts_window (base : Nat) (positive : 0 < size) {symbols : List α} (full : symbols.length = size)
    (passes : valid symbols = true) (more : List α) :
    starts base (scan size valid (symbols ++ more)).pieces =
      base :: starts (base + size) (scan size valid more).pieces := by
  have taken : (symbols ++ more).take size = symbols := List.take_left' full
  have left : (symbols ++ more).drop size = more := List.drop_left' full
  have enough : size ≤ (symbols ++ more).length := by
    rw [List.length_append]
    omega
  rw [scan_window positive enough (by rwa [taken]), taken, left, starts, full]

/-- A symbol no window starts at moves the scan on by one, at the end of the stream too. -/
theorem starts_skip (base : Nat) (positive : 0 < size) {a : α}
    (refused : ∀ symbols, valid (a :: symbols) = false) (more : List α) :
    starts base (scan size valid (a :: more)).pieces = starts (base + 1) (scan size valid more).pieces := by
  obtain ⟨before, rfl⟩ := Nat.exists_eq_add_of_lt positive
  by_cases short : (a :: more).length < 0 + before + 1
  · have shorter : more.length < 0 + before + 1 := by
      simp only [List.length_cons] at short
      omega
    rw [starts_short base short, starts_short (base + 1) shorter]
  · have fails : ¬ valid ((a :: more).take (0 + before + 1)) = true := by
      rw [List.take_succ_cons, refused]
      decide
    rw [scan_dropped (by omega) fails, starts]

theorem starts_dropWhile (head : α → Bool) (refused : ∀ a symbols, head a = false → valid (a :: symbols) = false)
    (positive : 0 < size) (stream more : List α) (base : Nat) :
    starts base (scan size valid (stream ++ more)).pieces =
      starts (base + stream.findIdx head) (scan size valid (stream.drop (stream.findIdx head) ++ more)).pieces := by
  induction stream generalizing base with
  | nil => rfl
  | cons a tail ih =>
    by_cases hit : head a = true
    · rw [List.findIdx_cons, hit]
      rfl
    · have miss : head a = false := Bool.eq_false_iff.mpr hit
      rw [List.cons_append, starts_skip base positive (fun symbols => refused a symbols miss), ih,
        List.findIdx_cons, miss, cond_false, List.drop_succ_cons, Nat.add_assoc, Nat.add_comm 1]

theorem starts_pass (positive : 0 < size) {stream : List α} {base start : Nat}
    (taken : start ∈ starts base (scan size valid stream).pieces) :
    ∃ offset, start = base + offset ∧ offset + size ≤ stream.length ∧
      valid ((stream.drop offset).take size) = true := by
  induction stream using scan.induct size valid generalizing base with
  | case1 =>
    rw [scan] at taken
    exact absurd taken List.not_mem_nil
  | case2 a tail short =>
    rw [starts_short base short] at taken
    exact absurd taken List.not_mem_nil
  | case3 a tail enough passes ih =>
    rw [drop_pred positive] at ih
    rw [scan_window positive (by omega) passes, starts, List.length_take, Nat.min_eq_left (by omega)] at taken
    rcases List.mem_cons.mp taken with rfl | later
    · exact ⟨0, rfl, by omega, passes⟩
    · obtain ⟨offset, same, inside, good⟩ := ih later
      rw [List.length_drop] at inside
      rw [List.drop_drop] at good
      exact ⟨size + offset, by omega, by omega, good⟩
  | case4 a tail enough fails ih =>
    rw [scan_dropped (by omega) fails, starts] at taken
    obtain ⟨offset, same, inside, good⟩ := ih taken
    refine ⟨offset + 1, by omega, ?_, good⟩
    rw [List.length_cons]
    omega

/-- Every window of the stream is taken, unless it overlaps one taken before it. -/
theorem covered (positive : 0 < size) {stream : List α} {offset : Nat} (base : Nat)
    (inside : offset + size ≤ stream.length) (passes : valid ((stream.drop offset).take size) = true) :
    ∃ start ∈ starts base (scan size valid stream).pieces,
      start ≤ base + offset ∧ base + offset < start + size := by
  induction stream using scan.induct size valid generalizing base offset with
  | case1 =>
    simp only [List.length_nil] at inside
    omega
  | case2 a tail short => omega
  | case3 a tail enough taken ih =>
    rw [drop_pred positive] at ih
    rw [scan_window positive (by omega) taken, starts, List.length_take, Nat.min_eq_left (by omega)]
    by_cases within : offset < size
    · exact ⟨base, List.mem_cons_self, by omega, by omega⟩
    · have later : (a :: tail).drop offset = ((a :: tail).drop size).drop (offset - size) := by
        rw [List.drop_drop]
        congr 1
        omega
      rw [later] at passes
      obtain ⟨start, found, low, high⟩ := ih (base + size) (by rw [List.length_drop]; omega) passes
      exact ⟨start, List.mem_cons_of_mem _ found, by omega, by omega⟩
  | case4 a tail enough fails ih =>
    rw [scan_dropped (by omega) fails, starts]
    cases offset with
    | zero => exact absurd passes fails
    | succ offset =>
      simp only [List.length_cons] at inside
      obtain ⟨start, found, low, high⟩ := ih (base + 1) (by omega) passes
      exact ⟨start, found, by omega, by omega⟩

end Sd700.Logic.Scan
