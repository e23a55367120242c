import Sd700.Runs.Terminal

/-! The no-response allowance of a Build session is spent once for every millisecond a driving session
passes outside its approach, and nothing but a qualified frame's gain or a new epoch gives it back. -/

namespace Sd700.Runs.NoResponse
open Build.Contract Servo.Config Servo.State Servo.BuildMachine Servo.Machine Servo.Moves Servo.Paths
  Motor.Interface Logic.Modular Logic.Run Runs.Calls Runs.Terminal

variable {Exec : Type} {env : Platform Exec} {may : Permit} {now : U32}

/-! ### The allowance at an instant -/

/-- What is spent of the allowance once the time up to `now` is on the books. -/
def spentBy (now : U32) (w : System Exec) : U32 := (account now w).build.noResponseMs

theorem spentBy_same {w w' : System Exec} (active : w'.session.active = w.session.active)
    (build : w'.build = w.build) : spentBy now w' = spentBy now w := by
  unfold spentBy account spending
  rw [active, build]

theorem saturate_toNat {spent limit dt : U32} (bounded : spent ≤ limit) :
    (spent + if dt < limit - spent then dt else limit - spent).toNat =
      min limit.toNat (spent.toNat + dt.toNat) := by
  by_cases fits : dt < limit - spent
  · rw [if_pos fits]
    bv_omega
  · rw [if_neg fits]
    bv_omega

/-- While the session spends, every millisecond since the books were settled counts once. -/
theorem spentBy_toNat {w : System Exec} (bounded : w.build.noResponseMs ≤ Build.Contract.Config.noResponseMs) :
    (spentBy now w).toNat = if spending w then
      min 45000 (w.build.noResponseMs.toNat + (now - w.build.accountedMs).toNat)
      else w.build.noResponseMs.toNat := by
  unfold spentBy account
  dsimp only
  have limit : Build.Contract.Config.noResponseMs.toNat = 45000 := rfl
  by_cases spends : spending w = true
  · rw [if_pos spends]
    by_cases left : w.build.noResponseMs < Build.Contract.Config.noResponseMs
    · rw [if_pos ⟨spends, left⟩, saturate_toNat bounded, limit]
    · rw [if_neg fun both => left both.2]
      bv_omega
  · rw [if_neg fun both => spends both.1, if_neg spends]

theorem spentBy_settled {w : System Exec} (bounded : w.build.noResponseMs ≤ Build.Contract.Config.noResponseMs)
    (settled : w.build.accountedMs = now) : spentBy now w = w.build.noResponseMs := by
  apply BitVec.eq_of_toNat_eq
  rw [spentBy_toNat bounded, settled, BitVec.sub_self]
  have : w.build.noResponseMs.toNat ≤ 45000 := bounded
  split
  · simp only [BitVec.toNat_zero, Nat.add_zero]
    omega
  · rfl

theorem spentBy_idle {w : System Exec} (idle : spending w = false) : spentBy now w = w.build.noResponseMs := by
  unfold spentBy account
  simp [idle]

theorem spending_inactive {w : System Exec} (inactive : w.session.active = false) : spending w = false := by
  simp [spending, inactive]

/-- The books never go backwards, and never past the allowance. -/
theorem spentBy_bounds {w : System Exec} (bounded : w.build.noResponseMs ≤ Build.Contract.Config.noResponseMs) :
    w.build.noResponseMs ≤ spentBy now w ∧ spentBy now w ≤ Build.Contract.Config.noResponseMs := by
  have spent := @spentBy_toNat Exec now w bounded
  have limit : w.build.noResponseMs.toNat ≤ 45000 := bounded
  constructor
  · rw [BitVec.le_def, spent]
    split <;> omega
  · rw [BitVec.le_def, spent]
    show _ ≤ 45000
    split <;> omega

/-! ### What logs gain -/

def Added {α : Type} (before after : List α) (entry : α) : Prop :=
  ∃ added, after = added ++ before ∧ entry ∈ added

theorem Added.later {α : Type} {before middle after : List α} {entry : α} (added : Added before middle entry)
    (grows : middle <:+ after) : Added before after entry := by
  obtain ⟨first, rfl, member⟩ := added
  obtain ⟨second, rfl⟩ := grows
  exact ⟨second ++ first, (List.append_assoc ..).symm, List.mem_append_right _ member⟩

theorem Added.earlier {α : Type} {before middle after : List α} {entry : α} (added : Added middle after entry)
    (grows : before <:+ middle) : Added before after entry := by
  obtain ⟨second, rfl, member⟩ := added
  obtain ⟨first, rfl⟩ := grows
  exact ⟨second ++ first, (List.append_assoc ..).symm, List.mem_append_left _ member⟩

theorem Added.head {α : Type} (entry : α) (before : List α) : Added before (entry :: before) entry :=
  ⟨[entry], rfl, List.mem_singleton.mpr rfl⟩

theorem move_grows {env : Platform Exec} {w w' : System (Exec × Log)} (move : Move env.logged may now w w') :
    w.exec.2.shown <:+ w'.exec.2.shown ∧ w.exec.2.posts <:+ w'.exec.2.posts := by
  have keeps : ∀ x : Exec × Log, x = w.exec →
      w.exec.2.shown <:+ x.2.shown ∧ w.exec.2.posts <:+ x.2.posts := by
    rintro x rfl
    exact ⟨List.suffix_refl _, List.suffix_refl _⟩
  cases move with
  | quiet _ same => exact keeps _ (congrArg Core.exec same)
  | edited _ _ _ _ same => exact keeps _ (congrArg Core.exec same)
  | disabled => exact ⟨List.suffix_refl _, List.suffix_refl _⟩
  | driven => exact ⟨List.suffix_refl _, List.suffix_refl _⟩
  | refreshed => exact ⟨List.suffix_cons .., List.suffix_refl _⟩
  | offered => exact ⟨List.suffix_refl _, List.suffix_cons ..⟩
  | recorded =>
    rw [recordFault_eq]
    exact keeps _ rfl
  | synced =>
    rw [syncEpoch_eq]
    exact ⟨List.suffix_cons .., List.suffix_refl _⟩
  | opened =>
    unfold openedSession
    rw [syncEpoch_eq]
    split
    · exact ⟨List.suffix_cons .., List.suffix_refl _⟩
    · exact keeps _ rfl
  | answered =>
    unfold Servo.Moves.answered
    rw [creditProgress_eq]
    exact ⟨List.suffix_cons .., List.suffix_cons ..⟩
  | _ => exact keeps _ rfl

theorem path_grows {env : Platform Exec} {w w' : System (Exec × Log)} (path : Path env.logged may now w w') :
    w.exec.2.shown <:+ w'.exec.2.shown ∧ w.exec.2.posts <:+ w'.exec.2.posts := by
  induction path with
  | refl => exact ⟨List.suffix_refl _, List.suffix_refl _⟩
  | tail _ move ih =>
    have last := move_grows move
    exact ⟨ih.1.trans last.1, ih.2.trans last.2⟩

/-! ### Sound books -/

structure Books (w : System Exec) : Prop where
  waiting : w.session.startPending = true → w.session.active = false ∧ w.build.postPending = false
  bounded : w.build.noResponseMs ≤ Build.Contract.Config.noResponseMs

theorem Books.of_same {w w' : System Exec} (books : Books w) (session : w'.session = w.session)
    (build : w'.build = w.build) : Books w' := by
  refine ⟨?_, ?_⟩
  · rw [session, build]
    exact books.waiting
  · rw [build]
    exact books.bounded

theorem Books.drives {w : System Exec} (books : Books w) (drives : Drives env w) :
    w.session.startPending = false := by
  by_contra pending
  have inactive := (books.waiting (by simpa using pending)).1
  rw [drives.1] at inactive
  exact nomatch inactive

theorem Books.account {w : System Exec} (books : Books w) : Books (account now w) :=
  ⟨books.waiting, (spentBy_bounds books.bounded).2⟩

theorem zero_bounded : (0 : U32) ≤ Build.Contract.Config.noResponseMs := by decide

theorem Books.synced {w : System Exec} (books : Books w) : Books (syncEpoch env now w) := by
  rw [syncEpoch_eq]
  refine ⟨books.waiting, ?_⟩
  dsimp only
  split
  · exact zero_bounded
  · exact books.bounded

theorem Books.credited {w : System Exec} (books : Books w) (post : Bool) (force : ℚ) :
    Books (creditProgress post force w) := by
  rw [creditProgress_eq]
  refine ⟨books.waiting, ?_⟩
  dsimp only
  split
  · exact zero_bounded
  · exact books.bounded

theorem Books.move (build : env.policy.buildToTarget = true) {w w' : System Exec} (books : Books w)
    (move : Move env may now w w') : Books w' := by
  cases move with
  | quiet _ same => exact books.of_same (congrArg Core.session same) (congrArg Core.build same)
  | edited _ _ _ _ same => exact books.of_same (congrArg Core.session same) (congrArg Core.build same)
  | accounted => exact books.account
  | synced => exact books.synced
  | withdrawn => exact ⟨fun pending => (nomatch pending), books.bounded⟩
  | ended => exact ⟨fun pending => (nomatch pending), books.bounded⟩
  | requested _ ready =>
    obtain ⟨-, inactive, -, -, -, -, allowance, -⟩ := ready
    exact ⟨fun _ => ⟨inactive, (allowance build).1⟩, books.bounded⟩
  | opened =>
    unfold openedSession
    rw [if_pos build]
    have opened : Books (openSession env now w) := ⟨fun pending => (nomatch pending), books.bounded⟩
    have known : Books (syncEpoch env now (openSession env now w)) := opened.synced
    exact ⟨known.waiting, known.bounded⟩
  | reached => exact ⟨fun pending => (nomatch pending), books.bounded⟩
  | phased => exact ⟨books.waiting, books.bounded⟩
  | answered asked answers token request =>
    have closed : Books { w with
        exec := (offer env token request now w).2, build := { w.build with postPending := false } } :=
      ⟨fun pending => ⟨(books.waiting pending).1, rfl⟩, books.bounded⟩
    exact closed.account.credited _ _
  | closed => exact ⟨fun pending => ⟨(books.waiting pending).1, rfl⟩, books.bounded⟩
  | awaited _ _ drives =>
    refine ⟨fun pending => ?_, books.bounded⟩
    rw [show (awaitPost _ w).session.startPending = false from books.drives drives] at pending
    exact nomatch pending
  | recorded =>
    rw [recordFault_eq]
    exact books.of_same rfl rfl
  | _ => exact books.of_same rfl rfl

theorem Books.path (build : env.policy.buildToTarget = true) {w w' : System Exec} (books : Books w)
    (path : Path env may now w w') : Books w' := by
  induction path with
  | refl => exact books
  | tail _ move ih => exact ih.move build move

/-! ### What a call does to the allowance -/

def EpochShown (v u : System (Exec × Log)) : Prop :=
  ∃ s, Added v.exec.2.shown u.exec.2.shown s ∧ s.epoch ≠ v.build.epoch

/-- A fresh frame answers the pending pulse: the executor shows the segment over and takes the frame,
and the frame's force has gained on the anchor. -/
structure Credited (now : U32) (v u : System (Exec × Log)) : Prop where
  fresh : isPressureFresh now v = true
  pending : v.build.postPending = true
  later : After v.pressure.sequence v.build.postSequence
  gain : Build.Contract.Config.progressN.toNat ≤ rawForce v - v.build.progressAnchor
  ended : ∃ s, Added v.exec.2.shown u.exec.2.shown s ∧ s.segmentActive = false ∧
    Reached v.pressure.received s.endedMs
  taken : Added v.exec.2.posts u.exec.2.posts (v.pressure.sequence, v.pressure.received, true)

def Refunded (may : Permit) (now : U32) (v u : System (Exec × Log)) : Prop :=
  EpochShown v u ∨ may.frames v.pressure ∧ Credited now v u

theorem Refunded.later {v u u' : System (Exec × Log)} (refunded : Refunded may now v u)
    (shown : u.exec.2.shown <:+ u'.exec.2.shown) (posts : u.exec.2.posts <:+ u'.exec.2.posts) :
    Refunded may now v u' := by
  rcases refunded with ⟨s, added, other⟩ | ⟨asked, credited⟩
  · exact .inl ⟨s, added.later shown, other⟩
  · obtain ⟨s, added, off, reached⟩ := credited.ended
    refine .inr ⟨asked, ?_⟩
    exact ⟨credited.fresh, credited.pending, credited.later, credited.gain, ⟨s, added.later shown, off, reached⟩,
      credited.taken.later posts⟩

/-- How the books stand at a point `u` of a call that began in `v`. -/
structure Tally (may : Permit) (now : U32) (v u : System (Exec × Log)) : Prop where
  epoch : u.build.epoch = v.build.epoch ∨ EpochShown v u
  law : v.build.noResponseMs ≤ u.build.noResponseMs ∧ spentBy now u = spentBy now v ∨
    spentBy now u = 0 ∧ Refunded may now v u
  post : u.build.postPending = true → After u.pressure.sequence u.build.postSequence →
    v.build.postPending = true ∧ u.build.postSequence = v.build.postSequence ∧
      u.build.progressAnchor = v.build.progressAnchor

theorem Tally.refl (v : System (Exec × Log)) : Tally may now v v :=
  ⟨.inl rfl, .inl ⟨BitVec.le_refl _, rfl⟩, fun pending _ => ⟨pending, rfl, rfl⟩⟩

theorem Tally.step {v u u' : System (Exec × Log)} (tally : Tally may now v u)
    (shown : u.exec.2.shown <:+ u'.exec.2.shown) (posts : u.exec.2.posts <:+ u'.exec.2.posts)
    (epoch : u'.build.epoch = u.build.epoch) (more : u.build.noResponseMs ≤ u'.build.noResponseMs)
    (spent : spentBy now u' = spentBy now u)
    (post : u'.build.postPending = true → After u'.pressure.sequence u'.build.postSequence →
      u.build.postPending = true ∧ After u.pressure.sequence u.build.postSequence ∧
      u'.build.postSequence = u.build.postSequence ∧ u'.build.progressAnchor = u.build.progressAnchor) :
    Tally may now v u' := by
  refine ⟨?_, ?_, ?_⟩
  · rcases tally.epoch with same | ⟨s, added, other⟩
    · exact .inl (epoch.trans same)
    · exact .inr ⟨s, added.later shown, other⟩
  · rcases tally.law with ⟨kept, same⟩ | ⟨zero, refunded⟩
    · exact .inl ⟨BitVec.le_trans kept more, spent.trans same⟩
    · exact .inr ⟨spent.trans zero, refunded.later shown posts⟩
  · intro pending later
    obtain ⟨before, due, sequence, anchor⟩ := post pending later
    obtain ⟨first, same, kept⟩ := tally.post before due
    exact ⟨first, sequence.trans same, anchor.trans kept⟩

theorem Tally.same {v u u' : System (Exec × Log)} (tally : Tally may now v u)
    (shown : u.exec.2.shown <:+ u'.exec.2.shown) (posts : u.exec.2.posts <:+ u'.exec.2.posts)
    (active : u'.session.active = u.session.active) (build : u'.build = u.build)
    (pressure : u'.pressure = u.pressure) : Tally may now v u' := by
  refine tally.step shown posts (by rw [build]) (by rw [build]; exact BitVec.le_refl _)
    (spentBy_same active build) ?_
  rw [build, pressure]
  exact fun pending later => ⟨pending, later, rfl, rfl⟩

/-- A move that reads the executor's epoch while nothing is spent. -/
theorem Tally.read {v u u' : System (Exec × Log)} (tally : Tally may now v u)
    (so : v.exec.2.shown <:+ u.exec.2.shown) (s : BuildSnapshot) (shown : u'.exec.2.shown = s :: u.exec.2.shown) (posts : u.exec.2.posts <:+ u'.exec.2.posts)
    (epoch : u'.build.epoch = s.epoch)
    (spent : u'.build.noResponseMs = if u.build.epoch ≠ s.epoch then 0 else u.build.noResponseMs)
    (before : spentBy now u = u.build.noResponseMs) (after : spentBy now u' = u'.build.noResponseMs)
    (post : u'.build.postPending = true → After u'.pressure.sequence u'.build.postSequence →
      u.build.postPending = true ∧ After u.pressure.sequence u.build.postSequence ∧
      u'.build.postSequence = u.build.postSequence ∧ u'.build.progressAnchor = u.build.progressAnchor) :
    Tally may now v u' := by
  have grows : u.exec.2.shown <:+ u'.exec.2.shown := by
    rw [shown]
    exact List.suffix_cons ..
  by_cases same : u.build.epoch = s.epoch
  · rw [if_neg (not_not.mpr same)] at spent
    refine tally.step grows posts (epoch.trans same.symm) ?_ ?_ post
    · rw [spent]
      exact BitVec.le_refl _
    · rw [before, after, spent]
  · rw [if_pos same] at spent
    have news : Added u.exec.2.shown u'.exec.2.shown s := by
      rw [shown]
      exact .head s _
    have changed : EpochShown v u' := by
      rcases tally.epoch with known | ⟨t, added, other⟩
      · exact ⟨s, news.earlier so, fun back => same (known.trans back.symm)⟩
      · exact ⟨t, added.later grows, other⟩
    refine ⟨.inr changed, .inr ⟨after.trans spent, .inl changed⟩, fun pending later => ?_⟩
    obtain ⟨before, due, sequence, anchor⟩ := post pending later
    obtain ⟨first, kept, still⟩ := tally.post before due
    exact ⟨first, sequence.trans kept, anchor.trans still⟩

/-- A pulse that is answered: the time up to now is booked, and a gain clears the books. -/
theorem Tally.answered {v u : System (Exec × Log)} (tally : Tally may now v u) (books : Books u)
    (so : v.exec.2.shown <:+ u.exec.2.shown ∧ v.exec.2.posts <:+ u.exec.2.posts)
    (pressure : u.pressure = v.pressure) (fresh : isPressureFresh now u = isPressureFresh now v)
    (asked : may.frames u.pressure) {env : Platform Exec} (answers : Answers env.logged now u)
    (token request : U32) (accepted : (offer env.logged token request now u).1 = true) :
    Tally may now v (answered now (offer env.logged token request now u).2 u) := by
  obtain ⟨-, freshly, due⟩ := answers
  have grows : u.exec.2.shown <:+ (offer env.logged token request now u).2.2.shown ∧
      u.exec.2.posts <:+ (offer env.logged token request now u).2.2.posts :=
    ⟨List.suffix_cons .., List.suffix_cons ..⟩
  have news : Added v.exec.2.shown (offer env.logged token request now u).2.2.shown
      (buildSnapshot env.logged now u) := (Added.head _ _).earlier so.1
  have taken : Added v.exec.2.posts (offer env.logged token request now u).2.2.posts
      (u.pressure.sequence, u.pressure.received, true) := by
    rw [← accepted]
    exact (Added.head _ _).earlier so.2
  generalize (offer env.logged token request now u).2 = x at grows news taken
  simp only [postDue, Bool.and_eq_true, Bool.not_eq_true', decide_eq_true_eq] at due
  obtain ⟨⟨⟨pending, ended⟩, later⟩, reached⟩ := due
  obtain ⟨first, sequence, anchor⟩ := tally.post pending later
  have closed : Books { u with exec := x, build := { u.build with postPending := false } } :=
    ⟨fun waits => ⟨(books.waiting waits).1, rfl⟩, books.bounded⟩
  have spent : spentBy now { u with exec := x, build := { u.build with postPending := false } } =
      spentBy now u := by
    unfold spentBy account spending
    rfl
  unfold Servo.Moves.answered
  have exec : (account now { u with exec := x, build := { u.build with postPending := false } }).exec = x :=
    rfl
  have same : (account now { u with exec := x, build := { u.build with postPending := false } }).pressure =
      u.pressure := rfl
  have booked : (account now { u with exec := x, build := { u.build with postPending := false } }).build =
      { u.build with postPending := false, accountedMs := now, noResponseMs := spentBy now u } := by
    rw [← spent]
    rfl
  have books' := @Books.account _ now _ closed
  generalize account now { u with exec := x, build := { u.build with postPending := false } } = z at *
  have settled : spentBy now z = spentBy now u := by
    rw [spentBy_settled books'.bounded (by rw [booked]), booked]
  have epoch : z.build.epoch = u.build.epoch := by rw [booked]
  have total : z.build.noResponseMs = spentBy now u := by rw [booked]
  have answered : z.build.postPending = false := by rw [booked]
  rw [creditProgress_eq]
  by_cases gain : (Build.Contract.Config.progressN.toNat : ℚ) ≤ rawForce u - u.build.progressAnchor
  · have both : true = true ∧ (Build.Contract.Config.progressN.toNat : ℚ) ≤ rawForce u - z.build.progressAnchor := by
      rw [booked]
      exact ⟨rfl, gain⟩
    rw [if_pos both, if_pos both]
    have refunded : Refunded may now v { z with
        build := { z.build with progressAnchor := rawForce u, noResponseMs := 0 } } := by
      refine .inr ⟨by rw [← pressure]; exact asked, ?_⟩
      refine ⟨fresh.symm.trans freshly, first, ?_, ?_, ⟨buildSnapshot env.logged now u, ?_, ended, ?_⟩, ?_⟩
      · rw [← pressure, ← sequence]
        exact later
      · rw [← anchor, rawForce, ← pressure]
        exact gain
      · exact exec ▸ news
      · rw [← pressure]
        exact reached
      · rw [← pressure]
        exact exec ▸ taken
    refine ⟨?_, .inr ⟨?_, refunded⟩, ?_⟩
    · rcases tally.epoch with known | ⟨s, added, other⟩
      · left
        rw [← known]
        exact epoch
      · exact .inr ⟨s, exec ▸ added.later grows.1, other⟩
    · exact spentBy_settled zero_bounded (congrArg BuildState.accountedMs booked)
    · intro waits
      rw [show z.build.postPending = false from answered] at waits
      exact absurd waits Bool.false_ne_true
  · have none : ¬ (true = true ∧ (Build.Contract.Config.progressN.toNat : ℚ) ≤
        rawForce u - z.build.progressAnchor) := by
      rw [booked]
      exact fun both => gain both.2
    rw [if_neg none, if_neg none]
    refine tally.step (exec ▸ grows.1) (exec ▸ grows.2) epoch ?_ settled ?_
    · rw [show z.build.noResponseMs = spentBy now u from total]
      exact (spentBy_bounds books.bounded).1
    · intro waits
      rw [show z.build.postPending = false from answered] at waits
      exact absurd waits Bool.false_ne_true

/-- A move that leaves the allowance's owner in place, with the books settled or closed. -/
theorem Tally.move {env : Platform Exec} (build : env.policy.buildToTarget = true)
    (stores : ∀ p, ¬ may.stores p) (edits : ∀ p, may.frames p → ¬ may.edits) {v u u' : System (Exec × Log)}
    (path : Path env.logged may now v u) (books : Books u) (tally : Tally may now v u)
    (move : Move env.logged may now u u') : Tally may now v u' := by
  have so := path_grows path
  have grows := move_grows move
  have pressure := (Path.kept stores path).1
  cases move with
  | quiet _ same =>
    exact tally.same grows.1 grows.2 (congrArg (fun c => c.session.active) same) (congrArg Core.build same)
      (congrArg Core.pressure same)
  | edited _ _ _ _ same =>
    exact tally.same grows.1 grows.2 (congrArg (fun c => c.session.active) same) (congrArg Core.build same)
      (congrArg Core.pressure same)
  | recorded =>
    rw [recordFault_eq] at grows ⊢
    exact tally.same grows.1 grows.2 rfl rfl rfl
  | stored p asked => exact absurd asked (stores p)
  | accounted =>
    have settled : spentBy now (account now u) = spentBy now u :=
      spentBy_settled (@Books.account _ now _ books).bounded rfl
    exact tally.step grows.1 grows.2 rfl (spentBy_bounds books.bounded).1 settled
      fun waits later => ⟨waits, later, rfl, rfl⟩
  | ended settled =>
    have before := spentBy_settled books.bounded (settled build)
    have after : spentBy now (endSession u) = u.build.noResponseMs := spentBy_idle rfl
    exact tally.step grows.1 grows.2 rfl (BitVec.le_refl _) (after.trans before.symm)
      fun waits later => ⟨waits, later, rfl, rfl⟩
  | reached x _ _ settled =>
    have before := spentBy_settled books.bounded (settled build)
    have after : spentBy now (markTargetOff u) = u.build.noResponseMs := spentBy_idle rfl
    exact tally.step grows.1 grows.2 rfl (BitVec.le_refl _) (after.trans before.symm)
      fun waits later => ⟨waits, later, rfl, rfl⟩
  | phased phase settled =>
    have before := spentBy_settled books.bounded (settled build)
    have after : spentBy now (enterPhase phase u) = u.build.noResponseMs :=
      spentBy_settled books.bounded (settled build)
    exact tally.step grows.1 grows.2 rfl (BitVec.le_refl _) (after.trans before.symm)
      fun waits later => ⟨waits, later, rfl, rfl⟩
  | closed =>
    exact tally.step grows.1 grows.2 rfl (BitVec.le_refl _) rfl fun waits => (nomatch waits)
  | awaited =>
    refine tally.step grows.1 grows.2 rfl (BitVec.le_refl _) rfl fun _ later => ?_
    exact absurd later (not_after_self u.pressure.sequence)
  | answered asked answers token request accepted =>
    exact tally.answered books so pressure (Path.fresh stores (edits _ asked) path) asked answers token
      request accepted
  | synced _ quiet =>
    have before : spentBy now u = u.build.noResponseMs := by
      rcases quiet with settled | inactive
      · exact spentBy_settled books.bounded (settled build)
      · exact spentBy_idle (spending_inactive inactive)
    have known : Books (syncEpoch env.logged now u) := books.synced
    rw [syncEpoch_eq] at known ⊢
    refine tally.read so.1 (buildSnapshot env.logged now u) rfl (List.suffix_refl _) rfl rfl before ?_
      fun waits later => ⟨waits, later, rfl, rfl⟩
    rcases quiet with settled | inactive
    · exact spentBy_settled known.bounded (settled build)
    · exact spentBy_idle (spending_inactive inactive)
  | opened opens =>
    have pending : u.session.startPending = true := by
      rcases opens with ⟨-, pending, -⟩ | ⟨locked, -⟩
      · exact pending
      · rw [env.logged.policy.characterization_commissioning
          (env.logged.policy.buildToTarget_characterization build)] at locked
        exact nomatch locked
    obtain ⟨inactive, unanswered⟩ := books.waiting pending
    have before : spentBy now u = u.build.noResponseMs := spentBy_idle (spending_inactive inactive)
    have known : Books (openedSession env.logged now u) := Books.move (show env.logged.policy.buildToTarget = true from build) books (.opened u opens)
    have shape : openedSession env.logged now u =
        openBuild now (syncEpoch env.logged now (openSession env.logged now u)) := by
      exact if_pos build
    rw [shape] at known ⊢
    rw [syncEpoch_eq] at known ⊢
    refine tally.read so.1 (buildSnapshot env.logged now u) rfl (List.suffix_refl _) rfl rfl before ?_ ?_
    · exact spentBy_settled known.bounded rfl
    · intro waits
      have open_ : u.build.postPending = true := waits
      rw [unanswered] at open_
      exact nomatch open_
  | _ => exact tally.same grows.1 grows.2 rfl rfl rfl

theorem Tally.path {env : Platform Exec} (build : env.policy.buildToTarget = true)
    (stores : ∀ p, ¬ may.stores p) (edits : ∀ p, may.frames p → ¬ may.edits) {v u : System (Exec × Log)}
    (books : Books v) (path : Path env.logged may now v u) : Tally may now v u := by
  induction path with
  | refl => exact .refl v
  | tail before move ih =>
    have booked : Books _ := Books.path (show env.logged.policy.buildToTarget = true from build) books before
    exact ih.move build stores edits before booked move

/-! ### What a call does to the allowance, event by event -/

/-- A frame earns the allowance back: it is fed to the session as the answer of its pulse, which the
executor shows ended and takes, and it has gained on the anchor. -/
structure Earned (env : Platform Exec) (p : Sample) (now : U32) (v w : System (Exec × Log)) : Prop where
  feeds : Feeds env.logged p now v
  pending : v.build.postPending = true
  later : After p.sequence v.build.postSequence
  gain : (Build.Contract.Config.progressN.toNat : ℚ) ≤ p.raw.toNat - v.build.progressAnchor
  ended : ∃ s, Added v.exec.2.shown w.exec.2.shown s ∧ s.segmentActive = false ∧ Reached p.received s.endedMs
  taken : Added v.exec.2.posts w.exec.2.posts (p.sequence, p.received, true)

/-- The two things that give the allowance back. -/
def Refunds (env : Platform Exec) (e : Event) (now : U32) (v w : System (Exec × Log)) : Prop :=
  EpochShown v w ∨ ∃ p, e = .sample p ∧ Earned env p now v w

def Lawful (env : Platform Exec) (e : Event) (now : U32) (v w : System (Exec × Log)) : Prop :=
  v.build.noResponseMs ≤ w.build.noResponseMs ∧ spentBy now w = spentBy now v ∨
    spentBy now w = 0 ∧ Refunds env e now v w

/-- A path that feeds no frame is shown a new epoch, or gives nothing back. -/
theorem lawful_of_path {env : Platform Exec} (build : env.policy.buildToTarget = true)
    (stores : ∀ p, ¬ may.stores p) (frames : ∀ p, ¬ may.frames p) {v w : System (Exec × Log)}
    (books : Books v) (path : Path env.logged may now v w) (e : Event) : Lawful env e now v w := by
  have tally := Tally.path build stores (fun p asked => absurd asked (frames p)) books path
  rcases tally.law with kept | ⟨zero, shown | ⟨asked, -⟩⟩
  · exact .inl kept
  · exact .inr ⟨zero, .inl shown⟩
  · exact absurd asked (frames _)

def delivery (p : Sample) : Permit := ⟨False, False, False, False, False, fun _ => False, fun q => q = p⟩

theorem not_opens {env : Platform Exec} (build : env.policy.buildToTarget = true)
    (frames : ∀ p, ¬ may.frames p) {w : System Exec} : ¬ MayOpen env may now w := by
  rintro (⟨asked, -⟩ | ⟨locked, -⟩)
  · exact frames _ asked
  · rw [env.policy.characterization_commissioning (env.policy.buildToTarget_characterization build)] at locked
    exact nomatch locked

theorem post_kept {env : Platform Exec} (build : env.policy.buildToTarget = true)
    (frames : ∀ p, ¬ may.frames p) {v w : System Exec} (path : Path env may now v w) :
    w.build.postPending = true → v.build.postPending = true ∧ w.build.postSequence = v.build.postSequence ∧
      w.build.progressAnchor = v.build.progressAnchor := by
  induction path with
  | refl => exact fun pending => ⟨pending, rfl, rfl⟩
  | tail _ move ih =>
    cases move with
    | quiet _ same =>
      rw [show (_ : System Exec).build = _ from congrArg Core.build same]
      exact ih
    | edited _ _ _ _ same =>
      rw [show (_ : System Exec).build = _ from congrArg Core.build same]
      exact ih
    | recorded =>
      rw [recordFault_eq]
      exact ih
    | synced =>
      rw [syncEpoch_eq]
      exact ih
    | opened opens => exact absurd opens (not_opens build frames)
    | answered asked => exact absurd asked (frames _)
    | awaited asked => exact absurd asked (frames _)
    | closed => exact fun pending => nomatch pending
    | _ => exact ih

/-- The checks before a frame, the frame, and what it leads to. -/
theorem lawful_accepted {env : Platform Exec} (build : env.policy.buildToTarget = true) {p : Sample}
    {v : System (Exec × Log)} (books : Books v) (usable : sampleUsable env.logged p = true)
    (later : outOfOrder p v = false) (forwards : receivedBackwards p v = false) :
    Lawful env (.sample p) now v (acceptSample env.logged p now v) := by
  have checks := @checkPressureSafety_path _ env.logged .none now v
  have first : Tally .none now v (checkPressureSafety env.logged now v) :=
    Tally.path build (fun _ => id) (fun _ asked => False.elim asked) books checks
  have posts := post_kept (show env.logged.policy.buildToTarget = true from build) (fun _ => id) checks
  have tuned := (Path.tuned id checks).1
  have so := path_grows checks
  have booked : Books (checkPressureSafety env.logged now v) :=
    Books.path (show env.logged.policy.buildToTarget = true from build) books checks
  unfold acceptSample
  dsimp only
  generalize checkPressureSafety env.logged now v = c at first posts tuned so booked
  have path := @processStored_path _ env.logged (delivery p) now (store p c) rfl
  have second := Tally.path build (fun _ => id) (fun _ _ => id)
    (show Books (store p c) from ⟨booked.waiting, booked.bounded⟩) path
  have grows := path_grows path
  generalize (if env.logged.policy.buildToTarget = true then processBuildSample env.logged now (store p c)
    else if boundaryReached env.logged now (store p c) = true then stopAtBoundary env.logged now (store p c)
    else processSample env.logged now (store p c)) = w at second grows
  have early : EpochShown v c → EpochShown v w := fun ⟨s, added, other⟩ => ⟨s, added.later grows.1, other⟩
  have late : EpochShown (store p c) w → EpochShown v w := by
    rintro ⟨s, added, other⟩
    rcases first.epoch with same | shown
    · exact ⟨s, added.earlier so.1, fun back => other (back.trans same.symm)⟩
    · exact early shown
  have stored : spentBy now (store p c) = spentBy now c := spentBy_same rfl rfl
  rcases second.law with ⟨more, same⟩ | ⟨zero, shown | ⟨-, credited⟩⟩
  · rcases first.law with ⟨before, kept⟩ | ⟨zero, shown | ⟨asked, -⟩⟩
    · exact .inl ⟨BitVec.le_trans before more, same.trans (stored.trans kept)⟩
    · exact .inr ⟨same.trans (stored.trans zero), .inl (early shown)⟩
    · exact asked.elim
  · exact .inr ⟨zero, .inl (late shown)⟩
  · obtain ⟨pending, sequence, anchor⟩ := posts credited.pending
    obtain ⟨s, shown, off, reached⟩ := credited.ended
    refine .inr ⟨zero, .inr ⟨p, rfl, ⟨usable, later, forwards, ?_⟩, pending, ?_, ?_, ?_, ?_⟩⟩
    · have fresh := credited.fresh
      simp only [isPressureFresh, store, Bool.and_eq_true] at fresh
      rw [← tuned]
      exact of_decide_eq_true fresh.2
    · rw [← sequence]
      exact credited.later
    · rw [← anchor]
      exact credited.gain
    · exact ⟨s, shown.earlier so.1, off, reached⟩
    · exact credited.taken.earlier so.2

theorem lawful_sample {env : Platform Exec} (build : env.policy.buildToTarget = true) (p : Sample)
    {v : System (Exec × Log)} (books : Books v) :
    Lawful env (.sample p) now v (handlePressureSample env.logged p now v) := by
  have engaged : ∀ detail, Lawful env (.sample p) now v (faultIfEngaged env.logged detail now v) := fun detail =>
    lawful_of_path build (fun _ => id) (fun _ => id) books
      (@faultIfEngaged_path _ env.logged .none now detail v) _
  unfold handlePressureSample
  split
  · exact engaged _
  rename_i usable
  split
  · split
    · exact engaged _
    · exact .inl ⟨BitVec.le_refl _, rfl⟩
  rename_i later
  split
  · exact engaged _
  · rename_i forwards
    exact lawful_accepted build books (by simpa using usable) (by simpa using later) (by simpa using forwards)

theorem lawful_call {env : Platform Exec} (build : env.policy.buildToTarget = true) (e : Event)
    {v : System (Exec × Log)} (orderly : Orderly env.logged v) (books : Books v) :
    Lawful env e now v (call env.logged e now v) := by
  have path := @call_path _ env.logged now e v orderly.boot
  cases e with
  | sample p => exact lawful_sample build p books
  | _ => exact lawful_of_path build (fun p asked => by cases asked) (fun p asked => by cases asked) books path _

/-! ### Time -/

/-- Whatever spends has its books settled in this call, or has them as the call found them. -/
theorem spending_path (build : env.policy.buildToTarget = true) {v w : System Exec}
    (path : Path env may now v w) : spending w = true →
      w.build.accountedMs = now ∨ spending v = true ∧ w.build.accountedMs = v.build.accountedMs := by
  induction path with
  | refl => exact fun spends => .inr ⟨spends, rfl⟩
  | tail _ move ih =>
    cases move with
    | quiet _ same =>
      rw [spending, show (_ : System Exec).build = _ from congrArg Core.build same,
        show (_ : System Exec).session = _ from congrArg Core.session same]
      exact ih
    | edited _ _ _ _ same =>
      rw [spending, show (_ : System Exec).build = _ from congrArg Core.build same,
        show (_ : System Exec).session = _ from congrArg Core.session same]
      exact ih
    | recorded =>
      rw [recordFault_eq]
      exact ih
    | synced =>
      rw [syncEpoch_eq]
      exact ih
    | accounted => exact fun _ => .inl rfl
    | answered =>
      rw [Servo.Moves.answered, creditProgress_eq]
      exact fun _ => .inl rfl
    | opened =>
      unfold openedSession
      rw [if_pos build]
      exact fun _ => .inl rfl
    | phased _ settled => exact fun _ => .inl (settled build)
    | ended => exact fun spends => absurd spends Bool.false_ne_true
    | reached => exact fun spends => absurd spends Bool.false_ne_true
    | _ => exact ih

theorem tick_settles (build : env.policy.buildToTarget = true) {w : System Exec} (books : Books w)
    (spends : spending (tick env now w) = true) : (tick env now w).build.accountedMs = now := by
  by_cases pending : w.session.startPending = true
  · rcases spending_path build (@tick_path _ env .none now trivial w) spends with settled | ⟨before, -⟩
    · exact settled
    · rw [spending_inactive (books.waiting pending).1] at before
      exact nomatch before
  · obtain ⟨c, cooled⟩ := @endCooling_eq Exec now w
    have path : Path env .none now (account now { w with cooling := c }) (tick env now w) := by
      unfold tick checkPressureSafety
      dsimp only
      rw [cooled, if_neg pending, if_pos build, if_pos build]
      unfold safety
      refine .head (.synced _ build (.inl fun _ => rfl)) ?_
      exact (checkSession_path _).trans ((service_path _).trans (publish_path _))
    rcases spending_path build path spends with settled | ⟨-, kept⟩
    · exact settled
    · exact kept

/-- The machine with the time of its last call and of its last tick, in milliseconds. -/
structure Clocked (Exec : Type) where
  machine : System Exec
  time : Nat
  ticked : Nat

inductive Happening (Exec : Type)
  | call (e : Event) (time : Nat)
  | moved (x : Exec)

def advance (env : Platform Exec) (s : Clocked Exec) : Happening Exec → Clocked Exec
  | .call e time =>
    { machine := call env e (stamp 32 time) s.machine, time := time
      ticked := match e with
        | .tick => time
        | _ => s.ticked }
  | .moved x => { s with machine := { s.machine with exec := x } }

/-- Time does not run backwards, and the main loop ticks the machine before its clock wraps. -/
def keepsTime (between : Exec → Exec → Prop) (s : Clocked Exec) : Happening Exec → Prop
  | .call _ time => s.time ≤ time ∧ time < s.ticked + 2 ^ 32
  | .moved x => between s.machine.exec x

/-- The clocked contexts that runs from boot reach. -/
def ReachableAt (env : Platform Exec) (between : Exec → Exec → Prop) (s : Clocked Exec) : Prop :=
  ∃ config accepted source exec time, Runs (advance env) (keepsTime between)
    ⟨initialized env config accepted (stamp 32 time) source exec, time, time⟩ s

structure OnTime (env : Platform Exec) (s : Clocked Exec) : Prop where
  orderly : Orderly env s.machine
  books : Books s.machine
  ticked : s.ticked ≤ s.time
  settled : spending s.machine = true →
    ∃ at_, s.ticked ≤ at_ ∧ at_ ≤ s.time ∧ s.machine.build.accountedMs = stamp 32 at_

theorem OnTime.advance {between : Exec → Exec → Prop} (build : env.policy.buildToTarget = true)
    {s : Clocked Exec} (onTime : OnTime env s) (next : Happening Exec) (keeps : keepsTime between s next) :
    OnTime env (advance env s next) := by
  cases next with
  | moved x =>
    exact ⟨onTime.orderly.of_same rfl rfl rfl, onTime.books.of_same rfl rfl, onTime.ticked, onTime.settled⟩
  | call e time =>
    obtain ⟨forwards, -⟩ := keeps
    have path := @call_path _ env (stamp 32 time) e _ onTime.orderly.boot
    have orderly := onTime.orderly.path path
    have books := onTime.books.path build path
    have still : ∀ ticked, ticked ≤ s.ticked → spending (call env e (stamp 32 time) s.machine) = true →
        ∃ at_, ticked ≤ at_ ∧ at_ ≤ time ∧
          (call env e (stamp 32 time) s.machine).build.accountedMs = stamp 32 at_ := by
      intro ticked before spends
      have order := onTime.ticked
      rcases spending_path build path spends with settled | ⟨spent, kept⟩
      · exact ⟨time, by omega, le_refl _, settled⟩
      · obtain ⟨at_, since, until_, known⟩ := onTime.settled spent
        exact ⟨at_, by omega, by omega, kept.trans known⟩
    have order := onTime.ticked
    cases e with
    | tick =>
      exact ⟨orderly, books, le_refl _,
        fun spends => ⟨time, le_refl _, le_refl _, tick_settles build onTime.books spends⟩⟩
    | _ => exact ⟨orderly, books, by show s.ticked ≤ time; omega, still s.ticked (le_refl _)⟩

theorem OnTime.reachable {between : Exec → Exec → Prop} (build : env.policy.buildToTarget = true)
    {s : Clocked Exec} (reachable : ReachableAt env between s) : OnTime env s := by
  obtain ⟨config, accepted, source, exec, time, runs⟩ := reachable
  refine runs_invariant (fun _ next keeps onTime => onTime.advance build next keeps) runs ?_
  refine ⟨initialized_orderly config accepted source exec, ?_, le_refl _, ?_⟩
  · unfold initialized publish
    rw [if_pos build]
    exact ⟨fun pending => (nomatch pending), zero_bounded⟩
  · unfold initialized publish
    rw [if_pos build]
    exact fun spends => nomatch spends

def allowance (s : Clocked Exec) : Nat := (spentBy (stamp 32 s.time) s.machine).toNat

/-- Every millisecond that passes counts once while the session spends, up to the limit. -/
def afterWaiting (time : Nat) (s : Clocked Exec) : Nat :=
  if spending s.machine then min 45000 (allowance s + (time - s.time)) else allowance s

theorem OnTime.waited {s : Clocked Exec} (onTime : OnTime env s) {time : Nat} (forwards : s.time ≤ time)
    (wraps : time < s.ticked + 2 ^ 32) :
    (spentBy (stamp 32 time) s.machine).toNat = afterWaiting time s := by
  unfold afterWaiting allowance
  rw [spentBy_toNat onTime.books.bounded, spentBy_toNat onTime.books.bounded]
  by_cases spends : spending s.machine = true
  · obtain ⟨at_, since, until_, known⟩ := onTime.settled spends
    rw [if_pos spends, if_pos spends, if_pos spends, known, stamp_sub_toNat until_ (by omega),
      stamp_sub_toNat (by omega) (by omega)]
    omega
  · rw [if_neg spends, if_neg spends, if_neg spends]

/-! ### The end of the allowance -/

/-- A START is accepted only below the limit, as it stands once the epoch is read. -/
theorem start_below (build : env.policy.buildToTarget = true) {w : System Exec}
    (accepted : (forceStart env now w).2 = .accepted) :
    w.build.noResponseMs < Build.Contract.Config.noResponseMs ∨
      (buildSnapshot env now w).epoch ≠ w.build.epoch := by
  by_cases same : w.build.epoch = (buildSnapshot env now w).epoch
  · left
    unfold forceStart at accepted
    split at accepted
    · exact nomatch accepted
    split at accepted
    · exact nomatch accepted
    unfold admitStart at accepted
    split at accepted
    · exact nomatch accepted
    dsimp only at accepted
    split at accepted
    · exact nomatch accepted
    rename_i refused
    rw [not_not] at refused
    have rested : ready env now (syncEpoch env now w) = true := by
      simpa [build] using refused.1
    have below := (ready_allowance rested).2
    rw [syncEpoch_eq] at below
    simpa only [same, ne_eq, not_true_eq_false, if_false] using below
  · exact .inr fun back => same back.symm

def checkedAt (env : Platform Exec) (now : U32) (w : System Exec) : System Exec :=
  syncEpoch env now (account now (endCooling now w))

/-- No earlier check of the safety function fires. -/
@[mk_iff]
structure ChecksPass (env : Platform Exec) (now : U32) (w : System Exec) : Prop where
  feedback : now - w.pressure.received ≤ u32 w.tuning.config.feedbackGapMs
  running : (buildSnapshot env now (checkedAt env now w)).endReason.isCutoff = false
  owned : env.executor.buildOwnerValid w.course.token (refreshBuild env now (checkedAt env now w)).exec = true
  early : cutoffDue now (buildSnapshot env now (checkedAt env now w)) = false

/-- A driving session outside its approach that has spent its allowance does not pass the checks. -/
theorem checkSession_exhausted {w : System Exec} (drives : driving w = true)
    (phase : w.build.phase ≠ .approach) (spent : Build.Contract.Config.noResponseMs ≤ w.build.noResponseMs)
    (sound : w.state ≠ .fault) :
    (checkSession env now w).state = .fault ∧
      (now - w.pressure.received ≤ u32 w.tuning.config.feedbackGapMs →
        (buildSnapshot env now w).endReason.isCutoff = false →
        env.executor.buildOwnerValid w.course.token (refreshBuild env now w).exec = true →
        cutoffDue now (buildSnapshot env now w) = false →
        (checkSession env now w).fault = .motionTimeout ∧
          (checkSession env now w).faultDetail = .buildNoResponse) := by
  simp only [driving, Bool.and_eq_true, Bool.not_eq_true'] at drives
  obtain ⟨active, watching⟩ := drives
  have last : (refreshBuild env now w).build.phase ≠ .approach ∧
      Build.Contract.Config.noResponseMs ≤ (refreshBuild env now w).build.noResponseMs := ⟨phase, spent⟩
  unfold checkSession
  rw [if_neg (by simp [active])]
  split
  · rename_i late
    exact ⟨fault_state .., fun fresh => absurd late (BitVec.not_lt.mpr fresh)⟩
  rw [if_neg (by simp [watching])]
  unfold checkDrive
  dsimp only
  split
  · rename_i cut
    exact ⟨fault_state .., fun _ running => absurd cut (by simp [running])⟩
  split
  · rename_i foreign
    exact ⟨fault_state .., fun _ _ owned => absurd owned foreign⟩
  split
  · rename_i due
    exact ⟨fault_state .., fun _ _ _ early => absurd due (by simp [early])⟩
  exact ⟨fault_state .., fun _ _ _ _ => fault_code _ _ sound⟩

/-- Nothing is left of the allowance when the safety checks run, and the epoch is the machine's. -/
structure Exhausted (env : Platform Exec) (now : U32) (w : System Exec) : Prop where
  drives : driving w = true
  phase : w.build.phase ≠ .approach
  spent : spentBy now w = Build.Contract.Config.noResponseMs
  epoch : (buildSnapshot env now (account now (endCooling now w))).epoch = w.build.epoch

theorem safety_exhausted (build : env.policy.buildToTarget = true) {w : System Exec} (orderly : Orderly env w)
    (exhausted : Exhausted env now w) :
    (checkPressureSafety env now w).state = .fault ∧ (ChecksPass env now w →
      (checkPressureSafety env now w).fault = .motionTimeout ∧
        (checkPressureSafety env now w).faultDetail = .buildNoResponse) := by
  have drives : Drives env w := (driving_drives build).mp exhausted.drives
  obtain ⟨-, -, sound, -, waiting⟩ := orderly.drives drives
  obtain ⟨c, cooled⟩ := @endCooling_eq Exec now w
  have epoch := exhausted.epoch
  have spent := exhausted.spent
  have phase := exhausted.phase
  have driven := exhausted.drives
  unfold checkPressureSafety
  dsimp only
  have asked : ¬ (endCooling now w).session.startPending = true := by
    rw [cooled]
    simp [waiting]
  rw [if_neg asked, if_pos build]
  unfold safety
  have shape : syncEpoch env now (account now (endCooling now w)) = checkedAt env now w := rfl
  have at_ : (checkedAt env now w).state = w.state ∧ (checkedAt env now w).pressure = w.pressure ∧
      (checkedAt env now w).tuning = w.tuning ∧ (checkedAt env now w).course = w.course ∧
      (checkedAt env now w).session = w.session ∧ (checkedAt env now w).build.monitoring = w.build.monitoring ∧
      (checkedAt env now w).build.phase = w.build.phase ∧
      (checkedAt env now w).build.noResponseMs = spentBy now w := by
    unfold checkedAt
    rw [syncEpoch_eq, epoch, cooled]
    refine ⟨rfl, rfl, rfl, rfl, rfl, rfl, rfl, ?_⟩
    dsimp only
    rw [if_neg (by simp [account])]
    rfl
  rw [shape]
  obtain ⟨state, pressure, tuning, course, session, monitoring, phases, total⟩ := at_
  have checked := @checkSession_exhausted Exec env now (checkedAt env now w)
    (by rw [driving, session, monitoring]; exact driven) (by rw [phases]; exact phase)
    (by rw [total, spent]; exact BitVec.le_refl _) (by rw [state]; exact sound)
  refine ⟨checked.1, fun pass => checked.2 ?_ pass.running ?_ pass.early⟩
  · rw [pressure, tuning]
    exact pass.feedback
  · rw [course]
    exact pass.owned

/-- A call that runs the safety checks: a tick, a check, or a frame that is usable and in order. -/
def ChecksSafety (env : Platform Exec) (e : Event) (w : System Exec) : Prop :=
  e = .tick ∨ e = .safety ∨ ∃ p, e = .sample p ∧ sampleUsable env p = true ∧ outOfOrder p w = false ∧
    receivedBackwards p w = false

theorem exhausted_faults (build : env.policy.buildToTarget = true) {e : Event} {w : System Exec}
    (orderly : Orderly env w) (exhausted : Exhausted env now w) (checks : ChecksSafety env e w) :
    (call env e now w).state = .fault ∧ (ChecksPass env now w →
      (call env e now w).fault = .motionTimeout ∧ (call env e now w).faultDetail = .buildNoResponse) := by
  obtain ⟨faulted, code⟩ := safety_exhausted build orderly exhausted
  have checked : Orderly env (checkPressureSafety env now w) :=
    orderly.path (@checkPressureSafety_path Exec env .none now w)
  have stands : ∀ {v : System Exec} {may : Permit}, ¬ may.resets → ∀ {u : System Exec}, Orderly env u →
      u.state = .fault → u.fault = (checkPressureSafety env now w).fault →
      u.faultDetail = (checkPressureSafety env now w).faultDetail → Path env may now u v →
      v.state = .fault ∧ (ChecksPass env now w → v.fault = .motionTimeout ∧ v.faultDetail = .buildNoResponse) := by
    intro v may kept u orderly faulted sameFault sameDetail path
    obtain ⟨still, fault, detail⟩ := orderly.fault_path kept faulted path
    refine ⟨still, fun pass => ?_⟩
    rw [fault, detail, sameFault, sameDetail]
    exact code pass
  rcases checks with rfl | rfl | ⟨p, rfl, usable, later, forwards⟩
  · have path : Path env .none now (checkPressureSafety env now w) (call env .tick now w) := by
      show Path env .none now _ (tick env now w)
      unfold tick
      dsimp only
      rw [if_pos build]
      exact (service_path _).trans (publish_path _)
    exact stands id checked faulted rfl rfl path
  · exact ⟨faulted, code⟩
  · have path : Path env (delivery p) now (store p (checkPressureSafety env now w))
        (call env (.sample p) now w) := by
      show Path env (delivery p) now _ (handlePressureSample env p now w)
      unfold handlePressureSample acceptSample
      rw [if_neg (by simp [usable]), if_neg (by simp [later]), if_neg (by simp [forwards])]
      exact processStored_path rfl
    have stored : Orderly env (store p (checkPressureSafety env now w)) := checked.of_same rfl rfl rfl
    exact stands id stored faulted rfl rfl path

/-- At the limit every millisecond has been spent, so the next check finds it so. -/
theorem spentBy_limit {w : System Exec} (limit : (spentBy now w).toNat = 45000) :
    spentBy now w = Build.Contract.Config.noResponseMs :=
  BitVec.eq_of_toNat_eq limit

/-! ### The law of the allowance -/

/-- Over every run: the allowance stays within its limit, grows by exactly the time a session spends,
and falls to zero only where a qualified frame earns it or the epoch changes; at the limit a START is
refused, and the session faults at the next check. -/
theorem allowance_law (env : Platform Exec) (build : env.policy.buildToTarget = true)
    (between : Exec → Exec → Prop) (s : Clocked (Exec × Log))
    (reachable : ReachableAt env.logged (logged between) s) :
    s.machine.build.noResponseMs.toNat ≤ 45000 ∧
    (∀ e time, keepsTime (logged between) s (.call e time) →
      let s' := advance env.logged s (.call e time)
      (s.machine.build.noResponseMs ≤ s'.machine.build.noResponseMs ∧ allowance s' = afterWaiting time s) ∨
      (s'.machine.build.noResponseMs = 0 ∧ allowance s' = 0 ∧
        Refunds env e (stamp 32 time) s.machine s'.machine)) ∧
    (∀ now, s.machine.build.noResponseMs.toNat = 45000 →
      (buildSnapshot env.logged now s.machine).epoch = s.machine.build.epoch →
      (forceStart env.logged now s.machine).2 ≠ .accepted) ∧
    (∀ e time, keepsTime (logged between) s (.call e time) → ChecksSafety env.logged e s.machine →
      driving s.machine = true → s.machine.build.phase ≠ .approach → afterWaiting time s = 45000 →
      (buildSnapshot env.logged (stamp 32 time)
        (account (stamp 32 time) (endCooling (stamp 32 time) s.machine))).epoch = s.machine.build.epoch →
      let w := call env.logged e (stamp 32 time) s.machine
      w.state = .fault ∧ (ChecksPass env.logged (stamp 32 time) s.machine →
        w.fault = .motionTimeout ∧ w.faultDetail = .buildNoResponse)) := by
  have built : env.logged.policy.buildToTarget = true := build
  have onTime : OnTime env.logged s := .reachable built reachable
  refine ⟨onTime.books.bounded, ?_, ?_, ?_⟩
  · intro e time keeps
    have waited := onTime.waited keeps.1 keeps.2
    have after : OnTime env.logged (advance env.logged s (.call e time)) := onTime.advance built _ keeps
    dsimp only
    have lawful := @lawful_call Exec (stamp 32 time) env build e _ onTime.orderly onTime.books
    have spent : allowance (advance env.logged s (.call e time)) =
        (spentBy (stamp 32 time) (call env.logged e (stamp 32 time) s.machine)).toNat := rfl
    rcases lawful with ⟨more, same⟩ | ⟨zero, refunds⟩
    · exact .inl ⟨more, by rw [spent, same, waited]⟩
    · refine .inr ⟨?_, by rw [spent, zero]; rfl, refunds⟩
      have below := (@spentBy_bounds _ (stamp 32 time) _ after.books.bounded).1
      rw [show spentBy (stamp 32 time) (advance env.logged s (.call e time)).machine = 0 from zero] at below
      exact BitVec.le_zero_iff.mp below
  · intro now limit known accepted
    have full : s.machine.build.noResponseMs = Build.Contract.Config.noResponseMs :=
      BitVec.eq_of_toNat_eq limit
    rcases start_below built accepted with below | other
    · rw [full] at below
      exact absurd below (BitVec.lt_irrefl _)
    · exact other known
  · intro e time keeps checks drives phase limit epoch
    have waited := onTime.waited keeps.1 keeps.2
    refine exhausted_faults built onTime.orderly ?_ checks
    exact ⟨drives, phase, spentBy_limit (waited.trans limit), epoch⟩

/-! ### A session that uses its allowance up -/

def played (env : Platform Exec) (events : List (Event × Nat)) (s : Clocked Exec) : Clocked Exec :=
  events.foldl (fun s e => advance env s (.call e.1 e.2)) s

theorem ReachableAt.played {env : Platform Exec} {between : Exec → Exec → Prop} {s : Clocked Exec}
    (reachable : ReachableAt env between s) {events : List (Event × Nat)}
    (timely : possible (fun s e => advance env s (.call e.1 e.2)) (fun s e => s.time ≤ e.2 ∧ e.2 < s.ticked + 2 ^ 32) s
      events = true) : ReachableAt env between (played env events s) := by
  induction events generalizing s with
  | nil => exact reachable
  | cons e events ih =>
    obtain ⟨here, rest⟩ := (Bool.and_eq_true _ _).mp timely
    obtain ⟨config, accepted, source, exec, time, runs⟩ := reachable
    have keeps := of_decide_eq_true here
    exact ih ⟨config, accepted, source, exec, time, runs.tail ⟨.call e.1 e.2, keeps, rfl⟩⟩ rest

def starting (version : U16) (sequence raw time : Nat) : List (Event × Nat) :=
  ((planning3000 version).map fun e => (e, time)) ++ [(.sample (benchFrame sequence raw time), time),
    (.write 5 Modbus.Protocol.coilStart 0xFF00, time), (.sample (benchFrame (sequence + 1) raw (time + 1)), time + 1)]

def unanswered : Clocked (Bool × Log) :=
  played (switchPlatform .toTarget).logged ([(.boot true, 0)] ++ starting 0 1 1500 4 ++ [(.sample (benchFrame 3 1500 105), 105)])
    ⟨switchBooted (stamp 32 0), 0, 0⟩

/-- It gains 3 N, drives on until a STOP 44900 ms later, and a second session drives for the rest of the allowance. -/
def exhausted : Clocked (Bool × Log) :=
  played (switchPlatform .toTarget).logged ([(.sample (benchFrame 4 1503 205), 205), (.command ⟨.stop, 0⟩, 45105)] ++
    starting 1 5 1503 60000) unanswered

/-- The fault of that session has been reset, and another plan is armed. -/
def rearmed : Clocked (Bool × Log) :=
  played (switchPlatform .toTarget).logged ([(.tick, 60101), (.command ⟨.faultReset, 0⟩, 60102)] ++
    ((planning3000 2).map fun e => (e, 70000)) ++ [(.sample (benchFrame 7 1503 70000), 70000)]) exhausted

/-- The first session earns its allowance back, the second is faulted at its end, and no third one begins. -/
theorem allowance_law_exhausted :
    Refunds (switchPlatform .toTarget) (.sample (benchFrame 4 1503 205)) (stamp 32 205) unanswered.machine
      (advance (switchPlatform .toTarget).logged unanswered (.call (.sample (benchFrame 4 1503 205)) 205)).machine ∧
    (call (switchPlatform .toTarget).logged .tick (stamp 32 60101) exhausted.machine).faultDetail = .buildNoResponse ∧
    rearmed.machine.plan.armed = true ∧
    (forceStart (switchPlatform .toTarget).logged 70000 rearmed.machine).2 ≠ .accepted := by
  have first : ReachableAt (switchPlatform .toTarget).logged (logged fun _ _ => False) unanswered := by
    apply ReachableAt.played
    · exact ⟨⟨900, 100, 200, false⟩, true, .initial, (false, ⟨[], [], []⟩), 0, .refl⟩
    · decide +kernel
  have second : ReachableAt (switchPlatform .toTarget).logged (logged fun _ _ => False) exhausted := by
    apply first.played
    decide +kernel
  have third : ReachableAt (switchPlatform .toTarget).logged (logged fun _ _ => False) rearmed := by
    apply second.played
    decide +kernel
  have last : rearmed.machine.plan.armed = true ∧ rearmed.machine.build.noResponseMs.toNat = 45000 ∧
      (buildSnapshot (switchPlatform .toTarget).logged 70000 rearmed.machine).epoch = rearmed.machine.build.epoch := by
    decide +kernel
  refine ⟨?_, ?_, last.1, ?_⟩
  · have law := allowance_law (switchPlatform .toTarget) rfl (fun _ _ => False) unanswered first
    have keeps : keepsTime (logged fun _ _ => False) unanswered (.call (.sample (benchFrame 4 1503 205)) 205) :=
      ⟨by decide, by decide⟩
    have less : ¬ unanswered.machine.build.noResponseMs ≤ (advance (switchPlatform .toTarget).logged unanswered
        (.call (.sample (benchFrame 4 1503 205)) 205)).machine.build.noResponseMs := by
      decide +kernel
    rcases law.2.1 _ 205 keeps with more | back
    · exact absurd more.1 less
    · exact back.2.2
  · have law := allowance_law (switchPlatform .toTarget) rfl (fun _ _ => False) exhausted second
    have near : driving exhausted.machine = true ∧ exhausted.machine.build.phase ≠ .approach ∧
        afterWaiting 60101 exhausted = 45000 ∧ ChecksPass (switchPlatform .toTarget).logged (stamp 32 60101)
          exhausted.machine ∧
        (buildSnapshot (switchPlatform .toTarget).logged (stamp 32 60101) (account (stamp 32 60101)
          (endCooling (stamp 32 60101) exhausted.machine))).epoch = exhausted.machine.build.epoch := by
      rw [checksPass_iff]
      decide +kernel
    obtain ⟨drives, phase, limit, pass, epoch⟩ := near
    have fault := law.2.2.2 .tick 60101 ⟨by decide, by decide⟩ (.inl rfl) drives phase limit epoch
    exact (fault.2 pass).2
  · have law := allowance_law (switchPlatform .toTarget) rfl (fun _ _ => False) rearmed third
    exact law.2.2.1 70000 last.2.1 last.2.2

end Sd700.Runs.NoResponse
