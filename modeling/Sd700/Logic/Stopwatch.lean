import Mathlib.Data.BitVec

/-! A stopwatch on a clock that wraps, restarted by every reading that has gained enough since the last
restart. Readings that stay in a band restart it once at most, so it runs out on them. -/

namespace Sd700.Logic.Stopwatch

variable {width : Nat} {V : Type*}

structure Reading (width : Nat) (V : Type*) where
  instant : BitVec width
  level : V

structure Watch (width : Nat) (V : Type*) where
  running : Bool
  since : BitVec width
  level : V

def Reading.restart (u : Reading width V) : Watch width V := ⟨true, u.instant, u.level⟩

def gap (v u : Reading width V) : Nat := (u.instant - v.instant).toNat

def span : List (Reading width V) → Nat
  | u :: v :: past => gap v u + span (v :: past)
  | _ => 0

def longest : List (Reading width V) → Nat
  | u :: v :: past => max (gap v u) (longest (v :: past))
  | _ => 0

/-- No reading is so much later than the one before that the clock passes itself within a limit. -/
def Forwards (limit : Nat) (run : List (Reading width V)) : Prop :=
  run.IsChain fun u v => gap v u + limit < 2 ^ width

instance (limit : Nat) (run : List (Reading width V)) : Decidable (Forwards limit run) :=
  inferInstanceAs (Decidable (run.IsChain _))

theorem span_append (newer : List (Reading width V)) (a o : Reading width V) (older : List (Reading width V)) :
    span (newer ++ a :: o :: older) = span (newer ++ [a]) + gap o a + span (o :: older) := by
  induction newer with
  | nil => exact (Nat.zero_add _).symm ▸ rfl
  | cons u newer ih =>
    cases newer with
    | nil =>
      change gap a u + (gap o a + span (o :: older)) = gap a u + 0 + gap o a + span (o :: older)
      omega
    | cons v newer =>
      have first : span (u :: v :: newer ++ a :: o :: older) = gap v u + span (v :: newer ++ a :: o :: older) := rfl
      have second : span (u :: v :: newer ++ [a]) = gap v u + span (v :: newer ++ [a]) := rfl
      rw [first, second, ih]
      omega

theorem longest_append (newer : List (Reading width V)) (a o : Reading width V) (older : List (Reading width V)) :
    gap o a ≤ longest (newer ++ a :: o :: older) := by
  induction newer with
  | nil => exact Nat.le_max_left _ _
  | cons u newer ih =>
    cases newer with
    | nil => exact Nat.le_trans ih (Nat.le_max_right _ _)
    | cons v newer => exact Nat.le_trans ih (Nat.le_max_right _ _)

/-- Two stretches of time add up while the clock does not pass itself. -/
theorem elapsed_add {s v u : BitVec width} (fits : (v - s).toNat + (u - v).toNat < 2 ^ width) :
    (u - s).toNat = (v - s).toNat + (u - v).toNat := by
  have parts : u - s = (v - s) + (u - v) := (sub_add_sub_cancel' v s u).symm
  rw [parts, BitVec.toNat_add, Nat.mod_eq_of_lt fits]

variable [Sub V] [LE V] (units : V)

inductive Push (c : Watch width V) (u : Reading width V) : Watch width V → Prop
  | started (stopped : c.running = false) : Push c u u.restart
  | kept (running : c.running = true) : Push c u c
  | gained (running : c.running = true) (gain : units ≤ u.level - c.level) : Push c u u.restart

inductive Pushes (limit : Nat) (c : Watch width V) : List (Reading width V) → Watch width V → Prop
  | none : Pushes limit c [] c
  | push {past : List (Reading width V)} {d e : Watch width V} (u : Reading width V) (before : Pushes limit c past d)
    (push : Push units d u e) (within : (u.instant - e.since).toNat < limit) : Pushes limit c (u :: past) e

def Leaves (run : List (Reading width V)) : Prop :=
  ∃ u ∈ run, ∃ v ∈ run, units ≤ u.level - v.level

/-- Where the watch stands after readings that stay in their band: as it was before them, or as one of them
restarted it. -/
inductive Stands (limit : Nat) (c : Watch width V) (run : List (Reading width V)) (now : BitVec width) :
    Watch width V → Prop
  | before (running : c.running = true) (covered : span run ≤ (now - c.since).toNat) : Stands limit c run now c
  | restarted (newer : List (Reading width V)) (a : Reading width V) (older : List (Reading width V))
    (parts : run = newer ++ a :: older) (elapsed : span (newer ++ [a]) = (now - a.instant).toNat)
    (early : older = [] ∨ c.running = true ∧ span older < limit)
    (gain : c.running = true → units ≤ a.level - c.level) : Stands limit c run now a.restart

variable {units} {limit : Nat} {c d : Watch width V}

theorem Pushes.within {u : Reading width V} {past : List (Reading width V)}
    (pushes : Pushes units limit c (u :: past) d) : (u.instant - d.since).toNat < limit := by
  cases pushes with
  | push u before push within => exact within

theorem Pushes.stands {u : Reading width V} {past : List (Reading width V)}
    (pushes : Pushes units limit c (u :: past) d) (forwards : Forwards limit (u :: past)) :
    Leaves units (u :: past) ∨ Stands units limit c (u :: past) u.instant d := by
  induction past generalizing u d with
  | nil =>
    have still : span ([] ++ [u]) = (u.instant - u.instant).toNat := by
      rw [BitVec.sub_self]
      rfl
    cases pushes with
    | push u before push within =>
      cases before with
      | none =>
        cases push with
        | started stopped =>
          exact Or.inr (.restarted [] u [] rfl still (Or.inl rfl) fun running => absurd (stopped.symm.trans running) nofun)
        | kept running => exact Or.inr (.before running (Nat.zero_le _))
        | gained running gain => exact Or.inr (.restarted [] u [] rfl still (Or.inl rfl) fun _ => gain)
  | cons v past ih =>
    have still : span ([] ++ [u]) = (u.instant - u.instant).toNat := by
      rw [BitVec.sub_self]
      rfl
    cases pushes with
    | push u before push within =>
      have earlier := before.within
      obtain ⟨room, forwards⟩ := List.isChain_cons_cons.mp forwards
      unfold gap at room
      rcases ih before forwards with ⟨x, here, y, there, gain⟩ | stands
      · exact Or.inl ⟨x, List.mem_cons_of_mem u here, y, List.mem_cons_of_mem u there, gain⟩
      cases stands with
      | before running covered =>
        cases push with
        | started stopped => exact absurd (stopped.symm.trans running) nofun
        | kept _ =>
          refine Or.inr (.before running ?_)
          have sum := elapsed_add (s := c.since) (v := v.instant) (u := u.instant) (by omega)
          rw [sum]
          change gap v u + span (v :: past) ≤ _
          unfold gap
          omega
        | gained _ gain =>
          refine Or.inr (.restarted [] u (v :: past) rfl still (Or.inr ⟨running, ?_⟩) fun _ => gain)
          omega
      | restarted newer a older parts elapsed early gain =>
        cases push with
        | started stopped => exact absurd stopped nofun
        | kept _ =>
          refine Or.inr (.restarted (u :: newer) a older (congrArg (List.cons u) parts) ?_ early gain)
          have head : ∃ rest, newer ++ [a] = v :: rest := by
            cases newer with
            | nil => exact ⟨[], congrArg (fun l => [l]) (List.cons.inj parts).1.symm⟩
            | cons x newer => exact ⟨newer ++ [a], congrArg (fun l => l :: (newer ++ [a])) (List.cons.inj parts).1.symm⟩
          obtain ⟨rest, split⟩ := head
          have total : span (u :: newer ++ [a]) = gap v u + span (newer ++ [a]) := by
            rw [List.cons_append, split]
            rfl
          have passed : (v.instant - a.instant).toNat < limit := earlier
          have sum := elapsed_add (s := a.instant) (v := v.instant) (u := u.instant) (by omega)
          rw [total, elapsed, sum]
          exact Nat.add_comm _ _
        | gained _ more =>
          refine Or.inl ⟨u, List.mem_cons_self, a, List.mem_cons_of_mem u ?_, more⟩
          rw [parts]
          exact List.mem_append_right newer List.mem_cons_self

/-- Readings in a band take less than twice the limit and their longest pause. -/
theorem Pushes.span_lt {run : List (Reading width V)} (some_ : run ≠ []) (pushes : Pushes units limit c run d)
    (forwards : Forwards limit run) (banded : ¬ Leaves units run) : span run < 2 * limit + longest run := by
  cases run with
  | nil => exact absurd rfl some_
  | cons u past =>
    have within := pushes.within
    cases (pushes.stands forwards).resolve_left banded with
    | before running covered => omega
    | restarted newer a older parts elapsed early gain =>
      have passed : span (newer ++ [a]) < limit := by
        rw [elapsed]
        exact within
      rw [parts]
      cases older with
      | nil => omega
      | cons o older =>
        have rest := (early.resolve_left nofun).2
        have pause := longest_append newer a o older
        rw [span_append]
        omega

/-- Less than the limit, where the watch was stopped before or stood in the band. -/
theorem Pushes.span_lt_limit {run : List (Reading width V)} (some_ : run ≠ []) (pushes : Pushes units limit c run d)
    (forwards : Forwards limit run) (banded : ¬ Leaves units run)
    (near : c.running = true → ∀ u ∈ run, ¬ units ≤ u.level - c.level) : span run < limit := by
  cases run with
  | nil => exact absurd rfl some_
  | cons u past =>
    have within := pushes.within
    cases (pushes.stands forwards).resolve_left banded with
    | before running covered => omega
    | restarted newer a older parts elapsed early gain =>
      have inside : a ∈ u :: past := by
        rw [parts]
        exact List.mem_append_right newer List.mem_cons_self
      rcases early with none_ | ⟨running, _⟩
      · rw [parts, none_, elapsed]
        exact within
      · exact absurd (gain running) (near running a inside)

end Sd700.Logic.Stopwatch
