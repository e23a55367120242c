import Mathlib.Logic.Relation

/-! Runs of a deterministic machine over events that a state admits or not, with the inductions that
safety proofs over such runs need, with and without a record of what happened. -/

namespace Sd700.Logic.Run

variable {State Event : Type*} (step : State → Event → State) (admits : State → Event → Prop)

def Next (state next : State) : Prop :=
  ∃ event, admits state event ∧ next = step state event

abbrev Runs : State → State → Prop :=
  Relation.ReflTransGen (Next step admits)

variable {step} {admits}

/-- An invariant that admitted events keep holds after every run. -/
theorem runs_invariant {inv : State → Prop}
    (keeps : ∀ state event, admits state event → inv state → inv (step state event))
    {state last : State} (runs : Runs step admits state last) (initial : inv state) : inv last := by
  induction runs with
  | refl => exact initial
  | tail _ next ih =>
    obtain ⟨event, admitted, rfl⟩ := next
    exact keeps _ event admitted ih

theorem Runs.mono {strict : State → Event → Prop} (fewer : ∀ state event, strict state event → admits state event)
    {state last : State} (runs : Runs step strict state last) : Runs step admits state last := by
  induction runs with
  | refl => exact .refl
  | tail _ next ih =>
    obtain ⟨event, admitted, same⟩ := next
    exact ih.tail ⟨event, fewer _ event admitted, same⟩

/-! ### Recorded runs -/

structure Turn (State Event : Type*) where
  before : State
  event : Event
  after : State

variable (step admits) in
/-- A run from one of the first states, with the record of its turns, newest first. -/
inductive Recorded (first : State → Prop) : List (Turn State Event) → State → Prop
  | first (state : State) (starts : first state) : Recorded first [] state
  | turn {past : List (Turn State Event)} {state : State} (event : Event)
      (recorded : Recorded first past state) (admitted : admits state event) :
      Recorded first (⟨state, event, step state event⟩ :: past) (step state event)

/-- What the first states have and every turn keeps holds after every recorded run. -/
theorem recorded_invariant {first : State → Prop} (inv : List (Turn State Event) → State → Prop)
    (initial : ∀ state, first state → inv [] state)
    (keeps : ∀ past state event, Recorded step admits first past state → admits state event → inv past state →
      inv (⟨state, event, step state event⟩ :: past) (step state event))
    {past : List (Turn State Event)} {state : State} (recorded : Recorded step admits first past state) :
    inv past state := by
  induction recorded with
  | first state starts => exact initial state starts
  | turn event recorded admitted ih => exact keeps _ _ event recorded admitted ih

theorem Recorded.at_turn {first : State → Prop} {later earlier : List (Turn State Event)} {turn : Turn State Event}
    {state : State} (recorded : Recorded step admits first (later ++ turn :: earlier) state) :
    Recorded step admits first earlier turn.before ∧ turn.after = step turn.before turn.event ∧
      admits turn.before turn.event := by
  generalize split : later ++ turn :: earlier = past at recorded
  induction recorded generalizing later with
  | first => exact absurd split (by simp only [List.append_eq_nil_iff, reduceCtorEq, and_false, not_false_iff])
  | turn event recorded admitted ih =>
    cases later with
    | nil =>
      obtain ⟨rfl, rfl⟩ := List.cons.inj split
      exact ⟨recorded, rfl, admitted⟩
    | cons head tail => exact ih (List.cons.inj split).2

variable (step) in
def play (run : List (Turn State Event) × State) : List Event → List (Turn State Event) × State
  | [] => run
  | event :: events => play (⟨run.2, event, step run.2 event⟩ :: run.1, step run.2 event) events

theorem recorded_play {first : State → Prop} (events : List Event) (free : ∀ event ∈ events, ∀ state, admits state event)
    {run : List (Turn State Event) × State} (recorded : Recorded step admits first run.1 run.2) :
    Recorded step admits first (play step run events).1 (play step run events).2 := by
  induction events generalizing run with
  | nil => exact recorded
  | cons event events ih =>
    apply ih (fun e later => free e (List.mem_cons_of_mem event later))
    exact recorded.turn event (free event List.mem_cons_self _)

theorem play_state (run : List (Turn State Event) × State) (events : List Event) :
    (play step run events).2 = events.foldl step run.2 := by
  induction events generalizing run with
  | nil => rfl
  | cons event events ih => exact ih _

theorem play_append (events : List Event) (past : List (Turn State Event)) (state : State) :
    play step (past, state) events =
      ((play step ([], state) events).1 ++ past, (play step ([], state) events).2) := by
  induction events generalizing past state with
  | nil => rfl
  | cons event events ih =>
    have whole := ih (⟨state, event, step state event⟩ :: past) (step state event)
    have rest := ih [⟨state, event, step state event⟩] (step state event)
    calc play step (past, state) (event :: events)
        = ((play step ([], step state event) events).1 ++ ⟨state, event, step state event⟩ :: past,
            (play step ([], step state event) events).2) := whole
      _ = ((play step ([], state) (event :: events)).1 ++ past, (play step ([], state) (event :: events)).2) := by
          rw [play, rest, List.append_assoc]
          rfl

variable (step admits) in
def possible [∀ state event, Decidable (admits state event)] : State → List Event → Bool
  | _, [] => true
  | state, event :: events => decide (admits state event) && possible (step state event) events

theorem recorded_possible [∀ state event, Decidable (admits state event)] {first : State → Prop} {events : List Event}
    {run : List (Turn State Event) × State} (recorded : Recorded step admits first run.1 run.2)
    (admitted : possible step admits run.2 events = true) :
    Recorded step admits first (play step run events).1 (play step run events).2 := by
  induction events generalizing run with
  | nil => exact recorded
  | cons event events ih =>
    obtain ⟨here, rest⟩ := (Bool.and_eq_true _ _).mp admitted
    exact ih (recorded.turn event (of_decide_eq_true here)) rest

/-! ### The newest turn of a kind -/

variable {α : Type*}

/-- Newest first, there is one of the first kind with none of the second kind behind it. -/
def Since (first second : α → Prop) : List α → Prop
  | [] => False
  | latest :: past => first latest ∨ (¬second latest ∧ Since first second past)

theorem Since.intro {first second : α → Prop} {later earlier : List α} {found : α} (holds : first found)
    (none_ : ∀ turn ∈ later, ¬second turn) : Since first second (later ++ found :: earlier) := by
  induction later with
  | nil => exact Or.inl holds
  | cons latest later ih =>
    obtain ⟨here, rest⟩ := List.forall_mem_cons.mp none_
    exact Or.inr ⟨here, ih rest⟩

end Sd700.Logic.Run
