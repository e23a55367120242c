import Mathlib.Data.List.Basic

/-! Programs over registers that write and read back. A write that is not sure may be lost, and any readback may
fail; what is proved of a program holds however they do. -/

namespace Sd700.Logic.Faults

variable {ω κ σ α : Type}

/-- Writes `ω` and readbacks `κ` up to a result `α`. -/
inductive Program (ω κ α : Type)
  | done (result : α)
  | write (sure : Bool) (w : ω) (next : Program ω κ α)
  | ask (k : κ) (next : Bool → Program ω κ α)

/-- What happened: a write with the registers after it, or a readback with its answer. -/
inductive Event (ω κ σ : Type)
  | wrote (w : ω) (left : σ)
  | asked (k : κ) (passed : Bool)

structure Outcome (ω κ σ α : Type) where
  result : α
  left : σ
  events : List (Event ω κ σ)

namespace Program

def writes (sure : Bool) (ws : List ω) (next : Program ω κ α) : Program ω κ α := ws.foldr (write sure) next

variable (effect : ω → σ → σ) (verdict : κ → σ → Bool)

/-- The run of a program; `works` answers for each write that may be lost and each readback, in order, and what
it does not cover works. -/
def run (s : σ) (works : List Bool) : Program ω κ α → Outcome ω κ σ α
  | done result => ⟨result, s, []⟩
  | write true w next =>
    let rest := next.run (effect w s) works
    { rest with events := .wrote w (effect w s) :: rest.events }
  | write false w next =>
    let left := if works.headD true then effect w s else s
    let rest := next.run left works.tail
    { rest with events := .wrote w left :: rest.events }
  | ask k next =>
    let passed := works.headD true && verdict k s
    let rest := (next passed).run s works.tail
    { rest with events := .asked k passed :: rest.events }

end Program

def passes (events : List (Event ω κ σ)) : List κ :=
  events.filterMap fun event => match event with
    | .asked k true => some k
    | _ => none

/-- Every write was allowed by the readbacks that had passed before it, the first `known`. -/
def Justified (law : List κ → ω → σ → Prop) (known : List κ) (events : List (Event ω κ σ)) : Prop :=
  ∀ before w left after, events = before ++ .wrote w left :: after → law (known ++ passes before) w left

/-- However its writes and readbacks fail, the program writes by the law and ends in `post`. -/
def Safe (effect : ω → σ → σ) (verdict : κ → σ → Bool) (law : List κ → ω → σ → Prop) (post : α → σ → Prop) :
    List κ → σ → Program ω κ α → Prop
  | _, s, .done result => post result s
  | known, s, .write sure w next =>
    (law known w (effect w s) ∧ Safe effect verdict law post known (effect w s) next) ∧
      (sure = false → law known w s ∧ Safe effect verdict law post known s next)
  | known, s, .ask k next =>
    Safe effect verdict law post known s (next false) ∧
      (verdict k s = true → Safe effect verdict law post (known ++ [k]) s (next true))

section
variable {effect : ω → σ → σ} {verdict : κ → σ → Bool} {law : List κ → ω → σ → Prop} {post : α → σ → Prop}
  {known : List κ} {s : σ}

theorem justified_nil : Justified law known ([] : List (Event ω κ σ)) := by
  intro before w left after split
  simp at split

theorem justified_wrote {w : ω} {left : σ} {events : List (Event ω κ σ)} (allowed : law known w left)
    (rest : Justified law known events) : Justified law known (.wrote w left :: events) := by
  intro before w' left' after split
  cases before with
  | nil =>
    cases split
    simpa [passes] using allowed
  | cons event before =>
    rw [List.cons_append, List.cons.injEq] at split
    obtain ⟨rfl, split⟩ := split
    exact rest before w' left' after split

theorem justified_asked {k : κ} {passed : Bool} {events : List (Event ω κ σ)}
    (rest : Justified law (if passed then known ++ [k] else known) events) :
    Justified law known (.asked k passed :: events) := by
  intro before w left after split
  cases before with
  | nil => cases split
  | cons event before =>
    rw [List.cons_append, List.cons.injEq] at split
    obtain ⟨rfl, split⟩ := split
    have allowed := rest before w left after split
    cases passed with
    | true => simpa [passes] using allowed
    | false => simpa [passes] using allowed

theorem Safe.run {program : Program ω κ α} (safe : Safe effect verdict law post known s program)
    (works : List Bool) :
    Justified law known (program.run effect verdict s works).events ∧
      post (program.run effect verdict s works).result (program.run effect verdict s works).left := by
  induction program generalizing known s works with
  | done result => exact ⟨justified_nil, safe⟩
  | write sure w next ih =>
    obtain ⟨⟨allowed, kept⟩, lost⟩ := safe
    cases sure with
    | true =>
      obtain ⟨rest, ended⟩ := ih kept works
      exact ⟨justified_wrote allowed rest, ended⟩
    | false =>
      obtain ⟨unmoved, stays⟩ := lost rfl
      simp only [Program.run]
      cases works.headD true with
      | true =>
        obtain ⟨rest, ended⟩ := ih kept works.tail
        exact ⟨justified_wrote allowed rest, ended⟩
      | false =>
        obtain ⟨rest, ended⟩ := ih stays works.tail
        exact ⟨justified_wrote unmoved rest, ended⟩
  | ask k next ih =>
    obtain ⟨failed, passed⟩ := safe
    simp only [Program.run]
    cases answer : works.headD true && verdict k s with
    | true =>
      obtain ⟨rest, ended⟩ := ih true (passed (Bool.and_eq_true _ _ ▸ answer).2) works.tail
      exact ⟨justified_asked rest, ended⟩
    | false =>
      obtain ⟨rest, ended⟩ := ih false failed works.tail
      exact ⟨justified_asked rest, ended⟩

/-- A write, lost or not, under something that it keeps and that allows it. -/
theorem Safe.write {sure : Bool} {w : ω} {next : Program ω κ α} (kept : σ → Prop) (now_ : kept s)
    (keeps : ∀ s, kept s → kept (effect w s)) (allowed : ∀ s, kept s → law known w s)
    (rest : ∀ s, kept s → Safe effect verdict law post known s next) :
    Safe effect verdict law post known s (.write sure w next) :=
  ⟨⟨allowed _ (keeps s now_), rest _ (keeps s now_)⟩, fun _ => ⟨allowed s now_, rest s now_⟩⟩

/-- Several writes under something that each of them keeps and that allows them. -/
theorem Safe.writes {sure : Bool} {ws : List ω} {next : Program ω κ α} (kept : σ → Prop) (now_ : kept s)
    (keeps : ∀ w ∈ ws, ∀ s, kept s → kept (effect w s)) (allowed : ∀ w ∈ ws, ∀ s, kept s → law known w s)
    (rest : ∀ s, kept s → Safe effect verdict law post known s next) :
    Safe effect verdict law post known s (.writes sure ws next) := by
  induction ws generalizing s with
  | nil => exact rest s now_
  | cons w ws ih =>
    apply Safe.write kept now_ (keeps w List.mem_cons_self) (allowed w List.mem_cons_self)
    intro s now_
    exact ih now_ (fun w member => keeps w (List.mem_cons_of_mem _ member))
      (fun w member => allowed w (List.mem_cons_of_mem _ member))

end

end Sd700.Logic.Faults
