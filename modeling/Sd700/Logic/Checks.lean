import Mathlib.Data.Finmap
import Mathlib.Data.List.Forall2

/-! Code that raises: what a chain of checks that got through says, and images written a byte at a time. -/

namespace Sd700.Logic.Checks

variable {ε α β σ : Type}

theorem bind_ok {first : Except ε α} {next : α → Except ε β} {b : β} :
    (first >>= next) = .ok b ↔ ∃ a, first = .ok a ∧ next a = .ok b := by
  cases first with
  | error e =>
    constructor
    · intro stopped
      contradiction
    · rintro ⟨a, reached, _⟩
      contradiction
  | ok a =>
    constructor
    · intro reached
      exact ⟨a, rfl, reached⟩
    · rintro ⟨_, same, reached⟩
      rw [Except.ok.inj same]
      exact reached

def demand (condition : Prop) [Decidable condition] (raised : ε) : Except ε Unit :=
  if condition then .ok () else .error raised

theorem demand_ok {condition : Prop} [Decidable condition] {raised : ε} :
    demand condition raised = .ok () ↔ condition := by
  unfold demand
  by_cases holds : condition
  · rw [if_pos holds]
    exact ⟨fun _ => holds, fun _ => rfl⟩
  · rw [if_neg holds]
    exact ⟨fun passed => (nomatch passed), fun met => absurd met holds⟩

theorem guard_ok {first : Except ε Unit} {next : Except ε β} {b : β} :
    (first >>= fun _ => next) = .ok b ↔ first = .ok () ∧ next = .ok b := by
  rw [bind_ok]
  constructor
  · rintro ⟨_, passed, reached⟩
    exact ⟨passed, reached⟩
  · rintro ⟨passed, reached⟩
    exact ⟨(), passed, reached⟩

theorem foldlM_cons_ok {step : σ → α → Except ε σ} {s t : σ} {a : α} {later : List α} :
    (a :: later).foldlM step s = .ok t ↔ ∃ u, step s a = .ok u ∧ later.foldlM step u = .ok t := by
  rw [List.foldlM_cons, bind_ok]

theorem forM_ok {check : α → Except ε Unit} {list : List α} :
    list.forM check = .ok () ↔ ∀ a ∈ list, check a = .ok () := by
  induction list with
  | nil => exact ⟨fun _ a listed => absurd listed List.not_mem_nil, fun _ => rfl⟩
  | cons a later ih =>
    change (check a >>= fun _ => later.forM check) = .ok () ↔ _
    rw [guard_ok, ih, List.forall_mem_cons]

theorem mem_of_mapM {read : α → Except ε β} {list : List α} {values : List β} {a : α} {b : β}
    (all : list.mapM read = .ok values) (listed : a ∈ list) (here : read a = .ok b) : b ∈ values := by
  induction list generalizing values with
  | nil => contradiction
  | cons first later ih =>
    rw [List.mapM_cons, bind_ok] at all
    obtain ⟨value, head, rest⟩ := all
    obtain ⟨behind, tail, same⟩ := bind_ok.mp rest
    rw [← Except.ok.inj same]
    rcases List.mem_cons.mp listed with one | another
    · rw [← one, here] at head
      rw [Except.ok.inj head]
      exact List.mem_cons_self
    · exact List.mem_cons_of_mem value (ih tail another)

/-! ### What a computation ends with -/

def Yields (raises : ε → Prop) (returns : α → Prop) : Except ε α → Prop
  | .error e => raises e
  | .ok a => returns a

variable {raises : ε → Prop} {returns : β → Prop} {between : α → Prop}

theorem Yields.bind {first : Except ε α} {next : α → Except ε β} (before : Yields raises between first)
    (behind : ∀ a, between a → Yields raises returns (next a)) : Yields raises returns (first >>= next) := by
  cases first with
  | error e => exact before
  | ok a => exact behind a before

theorem Yields.mono {wider : β → Prop} {run : Except ε β} (yields : Yields raises returns run)
    (wide : ∀ b, returns b → wider b) : Yields raises wider run := by
  cases run with
  | error e => exact yields
  | ok b => exact wide b yields

/-- A loop keeps an invariant of the part of the list behind it. -/
theorem Yields.foldlM {step : σ → α → Except ε σ} {list : List α} (invariant : List α → σ → Prop)
    (kept : ∀ before a after s, list = before ++ a :: after → invariant before s →
      Yields raises (invariant (before ++ [a])) (step s a)) {s : σ} (start : invariant [] s) :
    Yields raises (invariant list) (list.foldlM step s) := by
  have any : ∀ after before s, list = before ++ after → invariant before s →
      Yields raises (invariant list) (after.foldlM step s) := by
    intro after
    induction after with
    | nil =>
      intro before s split held
      rw [List.append_nil] at split
      rw [split]
      exact held
    | cons a after ih =>
      intro before s split held
      rw [List.foldlM_cons]
      apply Yields.bind (kept before a after s split held)
      intro t next
      apply ih (before ++ [a]) t _ next
      rw [split, List.append_assoc, List.singleton_append]
  exact any list [] s rfl start

theorem Yields.forM {check : α → Except ε Unit} {good : α → Prop} {list : List α}
    (checks : ∀ a ∈ list, Yields raises (fun _ => good a) (check a)) :
    Yields raises (fun _ => ∀ a ∈ list, good a) (list.forM check) := by
  induction list with
  | nil => exact fun a listed => absurd listed List.not_mem_nil
  | cons a later ih =>
    apply Yields.bind (checks a List.mem_cons_self)
    intro _ here
    apply Yields.mono (ih fun b listed => checks b (List.mem_cons_of_mem a listed))
    intro _ rest
    exact List.forall_mem_cons.mpr ⟨here, rest⟩

theorem Yields.mapM {read : α → Except ε β} {value : α → β} {list : List α}
    (reads : ∀ a ∈ list, Yields raises (· = value a) (read a)) :
    Yields raises (· = list.map value) (list.mapM read) := by
  induction list with
  | nil => exact rfl
  | cons a later ih =>
    rw [List.mapM_cons]
    apply Yields.bind (reads a List.mem_cons_self)
    rintro _ rfl
    apply Yields.bind (ih fun b listed => reads b (List.mem_cons_of_mem a listed))
    rintro _ rfl
    exact rfl

/-! ### Images -/

abbrev Image (α : Type) := Finmap fun _ : ℕ => α

def cells : ℕ → List α → List (Sigma fun _ : ℕ => α)
  | _, [] => []
  | at_, value :: values => ⟨at_, value⟩ :: cells (at_ + 1) values

/-- Writing consecutive values, each address checked before it is written. -/
def write (check : ℕ → Image α → Except ε Unit) : ℕ → List α → Image α → Except ε (Image α)
  | _, [], image => .ok image
  | at_, value :: values, image => do
    check at_ image
    write check (at_ + 1) values (image.insert at_ value)

theorem mem_cells {at_ a : ℕ} {values : List α} {value : α} :
    (⟨a, value⟩ : Sigma fun _ : ℕ => α) ∈ cells at_ values ↔ at_ ≤ a ∧ values[a - at_]? = some value := by
  induction values generalizing at_ with
  | nil => simp [cells]
  | cons first later ih =>
    rw [cells, List.mem_cons, ih]
    rcases Nat.lt_trichotomy a at_ with before | here | after
    · constructor
      · rintro (same | ⟨low, _⟩)
        · cases same
          omega
        · omega
      · rintro ⟨low, _⟩
        omega
    · subst here
      simp [eq_comm]
    · have place : a - at_ = a - (at_ + 1) + 1 := by omega
      rw [place, List.getElem?_cons_succ]
      constructor
      · rintro (same | ⟨low, found⟩)
        · cases same
          omega
        · exact ⟨by omega, found⟩
      · rintro ⟨low, found⟩
        exact Or.inr ⟨by omega, found⟩

theorem cells_map_fst (at_ : ℕ) (values : List α) : (cells at_ values).map Sigma.fst = List.range' at_ values.length := by
  induction values generalizing at_ with
  | nil => rfl
  | cons value later ih => rw [cells, List.map_cons, ih, List.length_cons, List.range'_succ]

theorem cells_append (at_ : ℕ) (first second : List α) :
    cells at_ (first ++ second) = cells at_ first ++ cells (at_ + first.length) second := by
  induction first generalizing at_ with
  | nil => rfl
  | cons value later ih =>
    rw [List.cons_append, cells, cells, ih, List.length_cons, List.cons_append]
    have same : at_ + 1 + later.length = at_ + (later.length + 1) := by omega
    rw [same]

theorem mem_of_entries {image : Image α} {a : ℕ} {value : α} (listed : ⟨a, value⟩ ∈ image.entries) : a ∈ image :=
  Finmap.mem_def.mpr (Multiset.mem_map_of_mem Sigma.fst listed)

/-- The writes get through exactly when every address may be written and all are new, and what they leave
is what was there and what they wrote. -/
theorem write_ok {check : ℕ → Image α → Except ε Unit} {allowed : ℕ → Prop}
    (checks : ∀ a image, check a image = .ok () ↔ allowed a ∧ a ∉ image) {at_ : ℕ} {values : List α}
    {image final : Image α} :
    write check at_ values image = .ok final ↔
      (∀ cell ∈ cells at_ values, allowed cell.1) ∧ final.entries = image.entries + ↑(cells at_ values) := by
  induction values generalizing at_ image with
  | nil =>
    rw [write, cells, Multiset.coe_nil, add_zero, Except.ok.injEq]
    constructor
    · intro same
      rw [same]
      exact ⟨fun _ listed => absurd listed List.not_mem_nil, rfl⟩
    · rintro ⟨_, same⟩
      exact (Finmap.ext same).symm
  | cons value later ih =>
    rw [write, guard_ok, checks, ih, cells]
    have shifted : ∀ entries : Multiset (Sigma fun _ : ℕ => α),
        (⟨at_, value⟩ ::ₘ entries) + ↑(cells (at_ + 1) later) =
          entries + ↑((⟨at_, value⟩ : Sigma fun _ : ℕ => α) :: cells (at_ + 1) later) := by
      intro entries
      rw [← Multiset.cons_coe, Multiset.cons_add, Multiset.add_cons]
    constructor
    · rintro ⟨⟨may, new⟩, rest, final_⟩
      rw [Finmap.entries_insert_of_notMem new, shifted] at final_
      exact ⟨List.forall_mem_cons.mpr ⟨may, rest⟩, final_⟩
    · rintro ⟨all, final_⟩
      obtain ⟨may, rest⟩ := List.forall_mem_cons.mp all
      have new : at_ ∉ image := by
        intro old
        have distinct : (final.entries.map Sigma.fst).Nodup := Multiset.nodup_keys.mpr final.nodupKeys
        rw [final_, ← shifted, Multiset.cons_add, Multiset.map_cons, Multiset.nodup_cons, Multiset.map_add] at distinct
        exact distinct.1 (Multiset.mem_add.mpr (Or.inl (Finmap.mem_def.mp old)))
      refine ⟨⟨may, new⟩, rest, ?_⟩
      rw [Finmap.entries_insert_of_notMem new, shifted]
      exact final_

theorem nodup_of_entries {image : Image α} {listed : List (Sigma fun _ : ℕ => α)} (same : image.entries = ↑listed) :
    (listed.map Sigma.fst).Nodup := by
  have distinct : (image.entries.map Sigma.fst).Nodup := Multiset.nodup_keys.mpr image.nodupKeys
  rw [same, Multiset.map_coe, Multiset.coe_nodup] at distinct
  exact distinct

end Sd700.Logic.Checks
