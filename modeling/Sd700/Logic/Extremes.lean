import Mathlib.Order.Bounds.Basic
import Mathlib.Data.List.Induction
import Mathlib.Order.MinMax

/-! The least and the greatest of a list, kept on the way. The one for the least starts at `⊥` and takes
`⊥` for "none yet", which is exact only while no value is `⊥`. -/

namespace Sd700.Logic.Extremes

variable {α : Type*} [LinearOrder α] [OrderBot α] {values inner outer : List α} {value : α}

def keepLeast (least value : α) : α := if least = ⊥ ∨ value < least then value else least

def keepMost (most value : α) : α := if most < value then value else most

def leastOf (values : List α) : α := values.foldl keepLeast ⊥

def mostOf (values : List α) : α := values.foldl keepMost ⊥

theorem leastOf_concat (values : List α) (value : α) :
    leastOf (values ++ [value]) = keepLeast (leastOf values) value := by
  unfold leastOf
  rw [List.foldl_append, List.foldl_cons, List.foldl_nil]

theorem mostOf_concat (values : List α) (value : α) : mostOf (values ++ [value]) = max (mostOf values) value := by
  unfold mostOf
  rw [List.foldl_append, List.foldl_cons, List.foldl_nil, keepMost, max_def_lt]

theorem keepLeast_bot (value : α) : keepLeast ⊥ value = value := if_pos (Or.inl rfl)

theorem keepLeast_ne {least : α} (set_ : least ≠ ⊥) : keepLeast least value = min least value := by
  unfold keepLeast
  by_cases below : value < least
  · rw [if_pos (Or.inr below), min_eq_right below.le]
  · rw [if_neg, min_eq_left (not_lt.mp below)]
    rintro (unset | under)
    · exact set_ unset
    · exact below under

/-- What is kept is `⊥` again as soon as a value is. -/
theorem keepLeast_eq_bot {least : α} : keepLeast least value = ⊥ ↔ value = ⊥ := by
  by_cases unset : least = ⊥
  · rw [unset, keepLeast_bot]
  · rw [keepLeast_ne unset]
    constructor
    · intro fallen
      rcases min_choice least value with first | second
      · exact absurd (first.symm.trans fallen) unset
      · exact second.symm.trans fallen
    · intro fallen
      rw [fallen, min_bot_right]

theorem leastOf_eq_bot (nonempty : values ≠ []) : leastOf values = ⊥ ↔ values.getLast? = some ⊥ := by
  induction values using List.reverseRecOn with
  | nil => contradiction
  | append_singleton values value _ =>
    rw [leastOf_concat, keepLeast_eq_bot, List.getLast?_concat, Option.some_inj]

theorem leastOf_isLeast (nonempty : values ≠ []) (absent : ⊥ ∉ values) :
    IsLeast {x | x ∈ values} (leastOf values) := by
  induction values using List.reverseRecOn with
  | nil => contradiction
  | append_singleton values value ih =>
    rw [leastOf_concat]
    by_cases first : values = []
    · subst first
      have kept : keepLeast (leastOf []) value = value := keepLeast_bot value
      rw [kept]
      constructor
      · simp
      · intro x member
        simp only [List.nil_append, List.mem_singleton, Set.mem_ofPred_eq] at member
        exact member.ge
    · have before := ih first fun member => absent (List.mem_append_left _ member)
      have set_ : leastOf values ≠ ⊥ := by
        intro unset
        apply absent
        rw [← unset]
        exact List.mem_append_left _ before.1
      rw [keepLeast_ne set_]
      constructor
      · rcases min_choice (leastOf values) value with old | new
        · rw [old]
          exact List.mem_append_left _ before.1
        · rw [new]
          simp
      · intro x member
        rcases List.mem_append.mp member with old | new
        · exact (min_le_left _ _).trans (before.2 old)
        · rw [List.mem_singleton.mp new]
          exact min_le_right _ _

theorem mostOf_isGreatest (nonempty : values ≠ []) : IsGreatest {x | x ∈ values} (mostOf values) := by
  induction values using List.reverseRecOn with
  | nil => contradiction
  | append_singleton values value ih =>
    rw [mostOf_concat]
    by_cases first : values = []
    · subst first
      have kept : max (mostOf []) value = value := max_eq_right bot_le
      rw [kept]
      constructor
      · simp
      · intro x member
        simp only [List.nil_append, List.mem_singleton, Set.mem_ofPred_eq] at member
        exact member.le
    · have before := ih first
      constructor
      · rcases max_choice (mostOf values) value with old | new
        · rw [old]
          exact List.mem_append_left _ before.1
        · rw [new]
          simp
      · intro x member
        rcases List.mem_append.mp member with old | new
        · exact (before.2 old).trans (le_max_left _ _)
        · rw [List.mem_singleton.mp new]
          exact le_max_right _ _

/-- When the least kept of some of the values is the least of all: no `⊥` is forgotten, and what was left
out is not below. -/
theorem leastOf_isLeast_iff (nonempty : inner ≠ []) (within : ∀ x ∈ inner, x ∈ outer) :
    IsLeast {x | x ∈ outer} (leastOf inner) ↔
      (⊥ ∈ inner → inner.getLast? = some ⊥) ∧ ∀ x ∈ outer, ∃ y ∈ inner, y ≤ x := by
  by_cases absent : ⊥ ∈ inner
  · have bottom : IsLeast {x | x ∈ outer} (leastOf inner) ↔ leastOf inner = ⊥ := by
      constructor
      · intro least
        exact le_bot_iff.mp (least.2 (within ⊥ absent))
      · intro unset
        rw [unset]
        exact ⟨within ⊥ absent, fun _ _ => bot_le⟩
    rw [bottom, leastOf_eq_bot nonempty]
    constructor
    · intro last
      exact ⟨fun _ => last, fun x _ => ⟨⊥, absent, bot_le⟩⟩
    · intro kept
      exact kept.1 absent
  · have least := leastOf_isLeast nonempty absent
    constructor
    · intro all
      exact ⟨fun member => absurd member absent, fun x member => ⟨_, least.1, all.2 member⟩⟩
    · intro kept
      refine ⟨within _ least.1, fun x member => ?_⟩
      obtain ⟨y, counted, below⟩ := kept.2 x member
      exact (least.2 counted).trans below

theorem mostOf_isGreatest_iff (nonempty : inner ≠ []) (within : ∀ x ∈ inner, x ∈ outer) :
    IsGreatest {x | x ∈ outer} (mostOf inner) ↔ ∀ x ∈ outer, ∃ y ∈ inner, x ≤ y := by
  have greatest := mostOf_isGreatest nonempty
  constructor
  · intro all x member
    exact ⟨_, greatest.1, all.2 member⟩
  · intro kept
    refine ⟨within _ greatest.1, fun x member => ?_⟩
    obtain ⟨y, counted, above⟩ := kept x member
    exact above.trans (greatest.2 counted)

end Sd700.Logic.Extremes
