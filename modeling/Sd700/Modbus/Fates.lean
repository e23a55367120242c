import Mathlib.Data.List.Perm.Basic
import Mathlib.Data.List.Range
import Mathlib.Data.List.Nodup
import Mathlib.Logic.Relation

/-! What becomes of the requests of a server with a bounded queue and one latched STOP: an arriving
request is latched, refused or queued, and a STOP that is taken empties the queue. -/

namespace Sd700.Modbus.Fates

variable {ρ : Type*}

inductive Fate
  | latched | duplicate | stopped | queued | executed | refused | discarded

def Fate.all : List Fate := [.latched, .duplicate, .stopped, .queued, .executed, .refused, .discarded]

structure Ledger (ρ : Type*) where
  arrived : List ρ
  latched : Option ρ
  duplicates : List ρ
  stopped : List ρ
  queue : List ρ
  executed : List ρ
  refused : List ρ
  discarded : List ρ

def Ledger.having (l : Ledger ρ) : Fate → List ρ
  | .latched => l.latched.toList
  | .duplicate => l.duplicates
  | .stopped => l.stopped
  | .queued => l.queue
  | .executed => l.executed
  | .refused => l.refused
  | .discarded => l.discarded

def Ledger.filed (l : Ledger ρ) : List ρ :=
  l.latched.toList ++ l.duplicates ++ l.stopped ++ l.queue ++ l.executed ++ l.refused ++ l.discarded

variable (stop : ρ → Bool) (number : ρ → ℕ) (capacity : ℕ)

def Ledger.arrive (r : ρ) (l : Ledger ρ) : Ledger ρ :=
  let l := { l with arrived := l.arrived ++ [r] }
  if stop r then
    if l.latched = none then { l with latched := some r }
    else { l with duplicates := l.duplicates ++ [r] }
  else if l.queue.length < capacity then { l with queue := l.queue ++ [r] }
  else { l with refused := l.refused ++ [r] }

def Ledger.take (r : ρ) (l : Ledger ρ) : Ledger ρ :=
  { l with
    latched := none
    stopped := l.stopped ++ [r]
    queue := []
    discarded := l.discarded ++ l.queue }

def Ledger.execute (r : ρ) (later : List ρ) (l : Ledger ρ) : Ledger ρ :=
  { l with queue := later, executed := l.executed ++ [r] }

/-- One event: a request arrives, the latched STOP is taken, or the oldest queued request executes. -/
inductive Step : Ledger ρ → Ledger ρ → Prop
  | arrive (l : Ledger ρ) (r : ρ) (next : number r = l.arrived.length) :
      Step l (l.arrive stop capacity r)
  | take (l : Ledger ρ) (r : ρ) (waiting : l.latched = some r) : Step l (l.take r)
  | execute (l : Ledger ρ) (r : ρ) (later : List ρ) (free : l.latched = none)
      (first : l.queue = r :: later) : Step l (l.execute r later)

abbrev Steps : Ledger ρ → Ledger ρ → Prop := Relation.ReflTransGen (Step stop number capacity)

structure Sound (l : Ledger ρ) : Prop where
  filed : l.arrived.Perm l.filed
  numbered : l.arrived.map number = List.range l.arrived.length
  ordered : (l.executed ++ l.queue).Pairwise fun r q => number r < number q
  fits : l.queue.length ≤ capacity
  stops : ∀ r ∈ l.latched.toList ++ l.duplicates ++ l.stopped, stop r = true
  normal : ∀ r ∈ l.queue ++ l.executed ++ l.refused ++ l.discarded, stop r = false
  barred : ∀ r ∈ l.arrived, stop r = true → l.latched = none → ∀ q ∈ l.queue, number r < number q

variable {stop} {number} {capacity}

/-! ### One event -/

theorem Sound.number_lt {l : Ledger ρ} (sound : Sound stop number capacity l) {r : ρ}
    (member : r ∈ l.arrived) : number r < l.arrived.length := by
  have inside : number r ∈ l.arrived.map number := List.mem_map_of_mem member
  rwa [sound.numbered, List.mem_range] at inside

theorem Sound.filed_mem {l : Ledger ρ} (sound : Sound stop number capacity l) {r : ρ} :
    r ∈ l.arrived ↔ r ∈ l.filed :=
  sound.filed.mem_iff

theorem arrive_filed (r : ρ) (l : Ledger ρ) :
    (l.arrive stop capacity r).filed.Perm (l.filed ++ [r]) := by
  classical
  rw [List.perm_iff_count]
  intro a
  unfold Ledger.arrive
  dsimp only
  split_ifs with isStop free room
  · simp only [Ledger.filed, free, List.count_append, Option.toList_some, Option.toList_none, List.count_nil]
    omega
  · simp only [Ledger.filed, List.count_append]
    omega
  · simp only [Ledger.filed, List.count_append]
    omega
  · simp only [Ledger.filed, List.count_append]
    omega

theorem take_filed {r : ρ} {l : Ledger ρ} (waiting : l.latched = some r) :
    (l.take r).filed.Perm l.filed := by
  classical
  rw [List.perm_iff_count]
  intro a
  simp only [Ledger.take, Ledger.filed, waiting, List.count_append, Option.toList_some, Option.toList_none,
    List.count_nil]
  omega

theorem execute_filed {r : ρ} {later : List ρ} {l : Ledger ρ} (first : l.queue = r :: later) :
    (l.execute r later).filed.Perm l.filed := by
  classical
  rw [List.perm_iff_count]
  intro a
  simp only [Ledger.execute, Ledger.filed, first, List.count_append, List.count_cons, List.count_nil]
  omega

theorem arrive_arrived (r : ρ) (l : Ledger ρ) :
    (l.arrive stop capacity r).arrived = l.arrived ++ [r] := by
  unfold Ledger.arrive
  dsimp only
  split_ifs <;> rfl

theorem arrive_executed (r : ρ) (l : Ledger ρ) : (l.arrive stop capacity r).executed = l.executed := by
  unfold Ledger.arrive
  dsimp only
  split_ifs <;> rfl

/-- Only a normal request joins the queue, and only where there is room. -/
theorem arrive_queue (r : ρ) (l : Ledger ρ) :
    (l.arrive stop capacity r).queue = l.queue ∨
      stop r = false ∧ l.queue.length < capacity ∧ (l.arrive stop capacity r).latched = l.latched ∧
        (l.arrive stop capacity r).queue = l.queue ++ [r] := by
  unfold Ledger.arrive
  dsimp only
  split_ifs with isStop free room
  · exact .inl rfl
  · exact .inl rfl
  · exact .inr ⟨by simpa using isStop, room, rfl, rfl⟩
  · exact .inl rfl

theorem arrive_latched {r : ρ} {l : Ledger ρ} (unlatched : (l.arrive stop capacity r).latched = none) :
    stop r = false ∧ l.latched = none := by
  unfold Ledger.arrive at unlatched
  dsimp only at unlatched
  split_ifs at unlatched with isStop free room
  · exact absurd unlatched free
  · exact ⟨by simpa using isStop, unlatched⟩
  · exact ⟨by simpa using isStop, unlatched⟩

theorem arrive_stops (r : ρ) (l : Ledger ρ) (stops : ∀ q ∈ l.latched.toList ++ l.duplicates ++ l.stopped, stop q = true)
    (normal : ∀ q ∈ l.queue ++ l.executed ++ l.refused ++ l.discarded, stop q = false) :
    (∀ q ∈ (l.arrive stop capacity r).latched.toList ++ (l.arrive stop capacity r).duplicates ++
        (l.arrive stop capacity r).stopped, stop q = true) ∧
      ∀ q ∈ (l.arrive stop capacity r).queue ++ (l.arrive stop capacity r).executed ++
        (l.arrive stop capacity r).refused ++ (l.arrive stop capacity r).discarded, stop q = false := by
  unfold Ledger.arrive
  dsimp only
  split_ifs with isStop free room
  all_goals
    constructor
    all_goals
      intro q member
      grind

theorem Sound.step {l l' : Ledger ρ} (sound : Sound stop number capacity l)
    (step : Step stop number capacity l l') : Sound stop number capacity l' := by
  cases step with
  | arrive r next =>
    have before : ∀ q ∈ l.arrived, number q < number r := fun q member => next ▸ sound.number_lt member
    have queued : ∀ q ∈ l.executed ++ l.queue, q ∈ l.arrived := by
      intro q member
      rw [sound.filed_mem]
      simp only [Ledger.filed, List.mem_append] at member ⊢
      tauto
    have kinds := @arrive_stops _ stop capacity r l sound.stops sound.normal
    constructor
    · rw [arrive_arrived]
      exact (sound.filed.append_right [r]).trans (arrive_filed r l).symm
    · rw [arrive_arrived, List.map_append, sound.numbered, List.length_append, List.length_singleton,
        List.range_succ, List.map_singleton, next]
    · rw [arrive_executed]
      rcases @arrive_queue _ stop capacity r l with same | ⟨-, -, -, grown⟩
      · rw [same]
        exact sound.ordered
      · rw [grown, ← List.append_assoc, List.pairwise_append]
        refine ⟨sound.ordered, List.pairwise_singleton _ _, ?_⟩
        intro q member a here
        rw [List.mem_singleton.mp here]
        exact before q (queued q member)
    · rcases @arrive_queue _ stop capacity r l with same | ⟨-, room, -, grown⟩
      · rw [same]
        exact sound.fits
      · rw [grown, List.length_append]
        exact room
    · exact kinds.1
    · exact kinds.2
    · intro a member isStop unlatched q inside
      obtain ⟨plain, free⟩ := arrive_latched unlatched
      rw [arrive_arrived] at member
      have earlier : a ∈ l.arrived := by
        rcases List.mem_append.mp member with old | new
        · exact old
        · rw [List.mem_singleton.mp new, plain] at isStop
          exact absurd isStop Bool.false_ne_true
      rcases @arrive_queue _ stop capacity r l with same | ⟨-, -, -, grown⟩
      · exact sound.barred a earlier isStop free q (same ▸ inside)
      · rw [grown] at inside
        rcases List.mem_append.mp inside with old | new
        · exact sound.barred a earlier isStop free q old
        · rw [List.mem_singleton.mp new]
          exact before a earlier
  | take r waiting =>
    constructor
    · exact sound.filed.trans (take_filed waiting).symm
    · exact sound.numbered
    · simp only [Ledger.take, List.append_nil]
      exact (List.pairwise_append.mp sound.ordered).1
    · exact Nat.zero_le _
    · intro q member
      apply sound.stops q
      simp only [Ledger.take, waiting, Option.toList_some, Option.toList_none, List.mem_append] at member ⊢
      tauto
    · intro q member
      apply sound.normal q
      simp only [Ledger.take, List.mem_append] at member ⊢
      tauto
    · intro a _ _ _ q inside
      exact absurd inside List.not_mem_nil
  | execute r later free first =>
    constructor
    · exact sound.filed.trans (execute_filed first).symm
    · exact sound.numbered
    · have ordered := sound.ordered
      rw [first] at ordered
      simpa [Ledger.execute] using ordered
    · have fits := sound.fits
      rw [first, List.length_cons] at fits
      exact Nat.le_of_succ_le fits
    · exact sound.stops
    · intro q member
      apply sound.normal q
      simp only [Ledger.execute, first, List.mem_append, List.mem_cons] at member ⊢
      tauto
    · intro a member isStop _ q inside
      exact sound.barred a member isStop free q (first ▸ List.mem_cons_of_mem r inside)

theorem Sound.steps {l l' : Ledger ρ} (sound : Sound stop number capacity l)
    (steps : Steps stop number capacity l l') : Sound stop number capacity l' := by
  induction steps with
  | refl => exact sound
  | tail _ step ih => exact ih.step step

/-! ### What follows -/

theorem Sound.arrived_nodup {l : Ledger ρ} (sound : Sound stop number capacity l) : l.arrived.Nodup := by
  apply List.Nodup.of_map number
  rw [sound.numbered]
  exact List.nodup_range

theorem filed_fates (l : Ledger ρ) : l.filed = Fate.all.flatMap l.having := by
  simp only [Ledger.filed, Fate.all, Ledger.having, List.flatMap_cons, List.flatMap_nil, List.append_nil,
    List.append_assoc]

theorem Fate.mem_all (fate : Fate) : fate ∈ Fate.all := by
  cases fate <;> simp [Fate.all]

theorem having_filed {l : Ledger ρ} {r : ρ} : r ∈ l.filed ↔ ∃ fate, r ∈ l.having fate := by
  rw [filed_fates, List.mem_flatMap]
  constructor
  · rintro ⟨fate, -, inside⟩
    exact ⟨fate, inside⟩
  · rintro ⟨fate, inside⟩
    exact ⟨fate, fate.mem_all, inside⟩

theorem Sound.apart {l : Ledger ρ} (sound : Sound stop number capacity l) :
    (∀ fate, (l.having fate).Nodup) ∧ ∀ fate other, fate ≠ other → (l.having fate).Disjoint (l.having other) := by
  have once : l.filed.Nodup := sound.filed.nodup_iff.mp sound.arrived_nodup
  rw [filed_fates, List.nodup_flatMap] at once
  refine ⟨fun fate => once.1 fate fate.mem_all, ?_⟩
  intro fate other different
  have symmetric : Std.Symm (Function.onFun List.Disjoint l.having) :=
    ⟨fun _ _ disjoint _ inside also => disjoint also inside⟩
  exact once.2.forall fate.mem_all other.mem_all different

theorem Sound.one_fate {l : Ledger ρ} (sound : Sound stop number capacity l) {r : ρ} (member : r ∈ l.arrived) :
    ∃! fate, r ∈ l.having fate := by
  obtain ⟨fate, inside⟩ := having_filed.mp (sound.filed_mem.mp member)
  refine ⟨fate, inside, ?_⟩
  intro other also
  by_contra different
  exact sound.apart.2 other fate different also inside

/-- Along a run, what executes later arrived after every STOP that had arrived before. -/
theorem Sound.later_executed {l l' : Ledger ρ} (sound : Sound stop number capacity l)
    (steps : Steps stop number capacity l l') :
    ∃ arrivals executions, l'.arrived = l.arrived ++ arrivals ∧ l'.executed = l.executed ++ executions ∧
      ∀ r ∈ l.arrived, stop r = true → ∀ q ∈ executions, number r < number q := by
  induction steps with
  | refl => exact ⟨[], [], by simp, by simp, by simp⟩
  | @tail middle last steps step ih =>
    obtain ⟨arrivals, executions, arrived, executed, after⟩ := ih
    have kept := sound.steps steps
    cases step with
    | arrive r next =>
      exact ⟨arrivals ++ [r], executions, by rw [arrive_arrived, arrived, List.append_assoc],
        by rw [arrive_executed, executed], after⟩
    | take r waiting => exact ⟨arrivals, executions, arrived, executed, after⟩
    | execute r later free first =>
      refine ⟨arrivals, executions ++ [r], arrived, ?_, ?_⟩
      · rw [Ledger.execute, executed, List.append_assoc]
      · intro a member isStop q inside
        rcases List.mem_append.mp inside with old | new
        · exact after a member isStop q old
        · have early : a ∈ middle.arrived := arrived ▸ List.mem_append_left arrivals member
          exact List.mem_singleton.mp new ▸ kept.barred a early isStop free r (first ▸ List.mem_cons_self)

end Sd700.Modbus.Fates
