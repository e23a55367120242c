import Sd700.Modbus.Fates
import Sd700.Modbus.Framing

/-! Request accounting and the priority of STOP: the server is a ledger of fates that its counters keep
count of. -/

namespace Sd700.Modbus.Accounting
open Build.Contract Servo.State Server Framing Fates

variable {Machine : Type} {app : Application Machine}

def ledger (s : RtuServer Machine) : Ledger RtuRequest where
  arrived := s.history.arrived
  latched := if s.stopLatched then some s.stopRequest else none
  duplicates := s.history.duplicates
  stopped := s.history.stopped
  queue := s.queue
  executed := s.history.executed
  refused := s.history.refused
  discarded := s.history.discarded

def isStop (r : RtuRequest) : Bool := requestIsStop r.bytes

structure Counted (s : RtuServer Machine) : Prop where
  valid : s.snapshot.validRequestCount = s.history.arrived.length
  duplicates : s.snapshot.duplicateStopCount = s.history.duplicates.length
  refused : s.snapshot.normalQueueFullDropCount = s.history.refused.length
  discarded : s.snapshot.normalDiscardedByStopCount = s.history.discarded.length

abbrev Turns (s s' : RtuServer Machine) : Prop :=
  Steps isStop RtuRequest.arrival queueCapacity (ledger s) (ledger s')

/-! ### Arrivals -/

theorem accept_ledger (r : RtuRequest) (s : RtuServer Machine) :
    ledger (accept r s) = (ledger s).arrive isStop queueCapacity r := by
  unfold accept Ledger.arrive
  cases latched : s.stopLatched <;> dsimp only [ledger, isStop] <;> split_ifs <;> simp_all

theorem accept_counted {r : RtuRequest} {s : RtuServer Machine} (counted : Counted s) :
    Counted (accept r s) := by
  obtain ⟨valid, duplicates, refused, discarded⟩ := counted
  unfold accept
  dsimp only
  split_ifs
  all_goals
    constructor
    all_goals simp_all

theorem absorb_turns {s : RtuServer Machine} (counted : Counted s) (piece : Logic.Scan.Piece Byte) :
    Turns s (absorb s piece) ∧ Counted (absorb s piece) := by
  obtain ⟨valid, duplicates, refused, discarded⟩ := counted
  unfold absorb
  cases piece with
  | window frame =>
    dsimp only
    split_ifs
    · exact ⟨.refl, valid, duplicates, refused, discarded⟩
    · refine ⟨?_, accept_counted ⟨valid, duplicates, refused, discarded⟩⟩
      rw [Turns, accept_ledger]
      exact .single (.arrive _ _ valid)
  | dropped byte => exact ⟨.refl, valid, duplicates, refused, discarded⟩

theorem foldl_turns (pieces : List (Logic.Scan.Piece Byte)) {s : RtuServer Machine} (counted : Counted s) :
    Turns s (pieces.foldl absorb s) ∧ Counted (pieces.foldl absorb s) := by
  induction pieces generalizing s with
  | nil => exact ⟨.refl, counted⟩
  | cons piece later ih =>
    obtain ⟨turn, kept⟩ := absorb_turns counted piece
    obtain ⟨turns, last⟩ := ih kept
    exact ⟨turn.trans turns, last⟩

/-! ### Calls -/

def tally (s : RtuServer Machine) : Ledger RtuRequest × Nat × Nat × Nat × Nat :=
  (ledger s, s.snapshot.validRequestCount, s.snapshot.duplicateStopCount,
    s.snapshot.normalQueueFullDropCount, s.snapshot.normalDiscardedByStopCount)

theorem Counted.of_tally {s s' : RtuServer Machine} (counted : Counted s) (same : tally s' = tally s) :
    Counted s' := by
  simp only [tally, ledger, Prod.mk.injEq, Ledger.mk.injEq] at same
  obtain ⟨⟨arrived, -, duplicated, -, -, -, full, dropped⟩, valid, duplicates, refused, discarded⟩ := same
  constructor
  · rw [valid, arrived, counted.valid]
  · rw [duplicates, duplicated, counted.duplicates]
  · rw [refused, full, counted.refused]
  · rw [discarded, dropped, counted.discarded]

theorem turns_of_tally {s s' : RtuServer Machine} (same : tally s' = tally s) : Turns s s' := by
  rw [Turns, show ledger s' = ledger s from congrArg Prod.fst same]

theorem promotePriorityResponse_tally (s : RtuServer Machine) :
    tally (promotePriorityResponse s) = tally s := by
  unfold promotePriorityResponse
  split
  · rfl
  · rfl

theorem queueStopResponse_tally (r : RtuRequest) (result : CommandResult) (s : RtuServer Machine) :
    tally (queueStopResponse r result s) = tally s := by
  unfold queueStopResponse
  dsimp only
  split
  · rfl
  split
  · exact promotePriorityResponse_tally _
  · exact promotePriorityResponse_tally _

theorem serve_tally (now : U32) (s : RtuServer Machine) :
    tally (serve app now s) = tally s ∧ (serve app now s).activeRequest = s.activeRequest := by
  unfold serve
  dsimp only
  split
  · unfold processRead
    dsimp only
    split
    · exact ⟨rfl, rfl⟩
    split
    · exact ⟨rfl, rfl⟩
    · exact ⟨rfl, rfl⟩
  split
  · unfold processWrite
    dsimp only
    split
    · exact ⟨rfl, rfl⟩
    split
    · exact ⟨rfl, rfl⟩
    · exact ⟨rfl, rfl⟩
  · exact ⟨rfl, rfl⟩

theorem completeResponse_tally {s : RtuServer Machine} (short : s.rx.length < requestLength) :
    tally (completeResponse s) = tally s := by
  rw [completeResponse_short short]
  exact promotePriorityResponse_tally _

theorem finish_tally {l : RtuLink Machine} (short : l.server.rx.length < requestLength) :
    tally (finish l).server = tally l.server := by
  unfold finish
  dsimp only
  split
  · rfl
  · exact completeResponse_tally short

theorem takeStop_turns (now : U32) {s : RtuServer Machine} (short : s.rx.length < requestLength)
    (counted : Counted s) : Turns s (takeStop app now s).1 ∧ Counted (takeStop app now s).1 := by
  unfold takeStop
  rw [tryExtractRequest_short short]
  dsimp only
  split
  · exact ⟨.refl, counted⟩
  rename_i latched
  rw [not_not] at latched
  have waiting : (ledger s).latched = some s.stopRequest := if_pos latched
  have taken : ledger (applyStop app now s).1 = (ledger s).take s.stopRequest := rfl
  have kept := queueStopResponse_tally s.stopRequest (applyStop app now s).2 (applyStop app now s).1
  constructor
  · have same : ledger (queueStopResponse s.stopRequest (applyStop app now s).2 (applyStop app now s).1) =
        (ledger s).take s.stopRequest := (congrArg Prod.fst kept).trans taken
    dsimp only
    rw [Turns, same]
    exact .single (.take _ _ waiting)
  · refine Counted.of_tally ?_ kept
    refine ⟨counted.valid, counted.duplicates, counted.refused, ?_⟩
    dsimp only [applyStop]
    rw [counted.discarded, List.length_append]

theorem noteServed_ledger (s : RtuServer Machine) :
    ledger (noteServed s) = (ledger s).execute s.activeRequest (ledger s).queue := rfl

theorem processPending_turns (now : U32) {s : RtuServer Machine} (short : s.rx.length < requestLength)
    (counted : Counted s) : Turns s (processPending app now s).1 ∧ Counted (processPending app now s).1 := by
  rw [processPending_short now short]
  split
  · exact ⟨.refl, counted⟩
  rename_i idle
  simp only [not_or, Bool.not_eq_true] at idle
  cases waiting : s.queue with
  | nil => exact ⟨.refl, counted⟩
  | cons r later =>
    obtain ⟨kept, active⟩ := @serve_tally _ app now (activate r later s)
    have noted : ledger (noteServed (serve app now (activate r later s))) = (ledger s).execute r later := by
      have same : ledger (serve app now (activate r later s)) = ledger (activate r later s) :=
        congrArg Prod.fst kept
      rw [noteServed_ledger, active, same]
      rfl
    have free : (ledger s).latched = none := if_neg (by rw [idle.1]; exact Bool.false_ne_true)
    constructor
    · rw [Turns, noted]
      exact .single (.execute _ _ _ free waiting)
    · obtain ⟨valid, duplicates, refused, discarded⟩ :=
        Counted.of_tally (s := activate r later s) ⟨counted.valid, counted.duplicates, counted.refused,
          counted.discarded⟩ kept
      exact ⟨valid, duplicates, refused, discarded⟩

theorem processBytes_turns (bytes : List Byte) {s : RtuServer Machine} (short : s.rx.length < requestLength)
    (counted : Counted s) : Turns s (processBytes bytes s) ∧ Counted (processBytes bytes s) := by
  rw [processBytes_scan bytes s short]
  obtain ⟨turns, last⟩ := foldl_turns (scanned (s.rx ++ bytes)).pieces counted
  exact ⟨turns, last.valid, last.duplicates, last.refused, last.discarded⟩

theorem call_turns {l : RtuLink Machine} (short : l.server.rx.length < requestLength)
    (counted : Counted l.server) (e : Call) :
    Turns l.server (call app l e).server ∧ Counted (call app l e).server := by
  have quiet : ∀ {s : RtuServer Machine}, tally s = tally l.server → Turns l.server s ∧ Counted s :=
    fun same => ⟨turns_of_tally same, counted.of_tally same⟩
  cases e with
  | processBytes bytes => exact processBytes_turns bytes short counted
  | hasPendingRequest => exact quiet (congrArg tally (tryExtractRequest_short short))
  | pendingIsStop => exact quiet (congrArg tally (tryExtractRequest_short short))
  | takeStop now => exact takeStop_turns now short counted
  | processPending now => exact processPending_turns now short counted
  | completeResponse => exact quiet (completeResponse_tally short)
  | service starts => exact quiet (congrArg tally (service_server starts l))
  | onTransmitComplete => exact quiet (finish_tally short)
  | onError => exact quiet (finish_tally short)

theorem run_turns {stream : List Byte} {l : RtuLink Machine} (framed : Framed stream l.server)
    (counted : Counted l.server) (calls : List Call) :
    Turns l.server (run app calls l).server ∧ Counted (run app calls l).server := by
  induction calls generalizing stream l with
  | nil => exact ⟨.refl, counted⟩
  | cons e later ih =>
    obtain ⟨turn, kept⟩ := @call_turns _ app l framed.short counted e
    obtain ⟨turns, last⟩ := ih (call_framed framed e) kept
    exact ⟨turn.trans turns, last⟩

theorem attached_sound (m : Machine) :
    Sound isStop RtuRequest.arrival queueCapacity (ledger (attached m).server) ∧ Counted (attached m).server := by
  constructor
  · constructor <;> simp [ledger, attached, initialized, Ledger.filed]
  · exact ⟨rfl, rfl, rfl, rfl⟩

/-! ### STOP -/

theorem stop_applied {r : RtuRequest} (stops : isStop r = true) (now : U32) (m : Machine) :
    applyWrite app (byteAt r.bytes 1) (readU16 r.bytes 2) (readU16 r.bytes 4) now m =
      app.handleCommand ⟨.stop, 0⟩ now m := by
  simp only [isStop, requestIsStop, decide_eq_true_eq] at stops
  obtain ⟨function, a, v⟩ := stops
  rw [function, a, v, applyWrite, app.stopFree]
  rfl

def deeds (s : RtuServer Machine) : Machine × List RtuRequest × List RtuRequest :=
  (s.machine, s.history.executed, s.history.stopped)

def latch (s : RtuServer Machine) : Bool × RtuRequest := (s.stopLatched, s.stopRequest)

/-- What a call does to the machine: nothing, with a latched STOP still latched; or, with no STOP
latched, one queued request; or the latched STOP, and the queue is emptied. -/
inductive Effect (app : Application Machine) (s : RtuServer Machine) (e : Call) (s' : RtuServer Machine) : Prop
  | quiet (same : deeds s' = deeds s) (held : s.stopLatched = true → latch s' = latch s)
  | executes (now : U32) (r : RtuRequest) (later : List RtuRequest) (here : e = .processPending now)
      (free : s.stopLatched = false) (first : s.queue = r :: later) (left : s'.queue = later)
      (done_ : deeds s' = ((serve app now (activate r later s)).machine, s.history.executed ++ [r],
        s.history.stopped))
  | stops (now : U32) (here : e = .takeStop now) (latched : s.stopLatched = true)
      (done_ : deeds s' = ((app.handleCommand ⟨.stop, 0⟩ now s.machine).1, s.history.executed,
        s.history.stopped ++ [s.stopRequest]))
      (freed : s'.stopLatched = false) (emptied : s'.queue = [])
      (discarded : s'.history.discarded = s.history.discarded ++ s.queue)

theorem Effect.of_same {s s' : RtuServer Machine} {e : Call} (same : deeds s' = deeds s)
    (held : latch s' = latch s) : Effect app s e s' :=
  .quiet same fun _ => held

theorem absorb_deeds (s : RtuServer Machine) (piece : Logic.Scan.Piece Byte) :
    deeds (absorb s piece) = deeds s ∧ (s.stopLatched = true → latch (absorb s piece) = latch s) := by
  unfold absorb accept
  dsimp only
  split
  · split_ifs with foreign stops free
    · exact ⟨rfl, fun _ => rfl⟩
    · exact ⟨rfl, fun _ => rfl⟩
    · exact ⟨rfl, fun latched => absurd latched free⟩
    · exact ⟨rfl, fun _ => rfl⟩
    · exact ⟨rfl, fun _ => rfl⟩
  · exact ⟨rfl, fun _ => rfl⟩

theorem foldl_deeds (pieces : List (Logic.Scan.Piece Byte)) (s : RtuServer Machine) :
    deeds (pieces.foldl absorb s) = deeds s ∧
      (s.stopLatched = true → latch (pieces.foldl absorb s) = latch s) := by
  induction pieces generalizing s with
  | nil => exact ⟨rfl, fun _ => rfl⟩
  | cons piece later ih =>
    obtain ⟨first, held⟩ := absorb_deeds s piece
    obtain ⟨rest, kept⟩ := ih (absorb s piece)
    refine ⟨rest.trans first, ?_⟩
    intro latched
    have still := held latched
    have latchedStill : (absorb s piece).stopLatched = true := (congrArg Prod.fst still).trans latched
    exact (kept latchedStill).trans still

theorem promotePriorityResponse_deeds (s : RtuServer Machine) :
    deeds (promotePriorityResponse s) = deeds s ∧ latch (promotePriorityResponse s) = latch s := by
  unfold promotePriorityResponse
  split
  · exact ⟨rfl, rfl⟩
  · exact ⟨rfl, rfl⟩

theorem queueStopResponse_deeds (r : RtuRequest) (result : CommandResult) (s : RtuServer Machine) :
    deeds (queueStopResponse r result s) = deeds s := by
  unfold queueStopResponse
  dsimp only
  split
  · rfl
  split
  · exact (promotePriorityResponse_deeds _).1
  · exact (promotePriorityResponse_deeds _).1

theorem completeResponse_deeds {s : RtuServer Machine} (short : s.rx.length < requestLength) :
    deeds (completeResponse s) = deeds s ∧ latch (completeResponse s) = latch s := by
  rw [completeResponse_short short]
  exact promotePriorityResponse_deeds _

theorem finish_effect {l : RtuLink Machine} {e : Call} (short : l.server.rx.length < requestLength) :
    Effect app l.server e (finish l).server := by
  unfold finish
  dsimp only
  split
  · exact .of_same rfl rfl
  · exact .of_same (completeResponse_deeds short).1 (completeResponse_deeds short).2

theorem takeStop_effect (now : U32) {s : RtuServer Machine} (short : s.rx.length < requestLength)
    (stops : s.stopLatched = true → isStop s.stopRequest = true) :
    Effect app s (.takeStop now) (takeStop app now s).1 := by
  unfold takeStop
  rw [tryExtractRequest_short short]
  dsimp only
  split
  · exact .of_same rfl rfl
  rename_i latched
  rw [not_not] at latched
  have kept := queueStopResponse_tally s.stopRequest (applyStop app now s).2 (applyStop app now s).1
  have books := congrArg Prod.fst kept
  have done_ := queueStopResponse_deeds s.stopRequest (applyStop app now s).2 (applyStop app now s).1
  have applied : (applyStop app now s).1.machine = (app.handleCommand ⟨.stop, 0⟩ now s.machine).1 :=
    congrArg Prod.fst (stop_applied (stops latched) now s.machine)
  refine .stops now rfl latched ?_ ?_ (congrArg Ledger.queue books) (congrArg Ledger.discarded books)
  · rw [done_]
    exact congrArg (·, s.history.executed, s.history.stopped ++ [s.stopRequest]) applied
  · have unlatched : (ledger (queueStopResponse s.stopRequest (applyStop app now s).2
        (applyStop app now s).1)).latched = none := congrArg Ledger.latched books
    by_contra still
    rw [Bool.not_eq_false] at still
    rw [show (ledger _).latched = some _ from if_pos still] at unlatched
    exact Option.some_ne_none _ unlatched

theorem processPending_effect (now : U32) {s : RtuServer Machine} (short : s.rx.length < requestLength) :
    Effect app s (.processPending now) (processPending app now s).1 := by
  rw [processPending_short now short]
  split
  · exact .of_same rfl rfl
  rename_i idle
  simp only [not_or, Bool.not_eq_true] at idle
  cases waiting : s.queue with
  | nil => exact .of_same rfl rfl
  | cons r later =>
    obtain ⟨kept, active⟩ := @serve_tally _ app now (activate r later s)
    have books : ledger (serve app now (activate r later s)) = ledger (activate r later s) :=
      congrArg Prod.fst kept
    refine .executes now r later rfl idle.1 waiting (congrArg Ledger.queue books) ?_
    have executed := congrArg Ledger.executed books
    have stopped := congrArg Ledger.stopped books
    dsimp only [ledger] at executed stopped
    simp only [deeds, noteServed, executed, stopped, active]
    rfl

theorem call_effect {l : RtuLink Machine} (short : l.server.rx.length < requestLength)
    (stops : l.server.stopLatched = true → isStop l.server.stopRequest = true) (e : Call) :
    Effect app l.server e (call app l e).server := by
  have quiet : tryExtractRequest l.server = l.server := tryExtractRequest_short short
  cases e with
  | processBytes bytes =>
    have all := foldl_deeds (scanned (l.server.rx ++ bytes)).pieces l.server
    have read := processBytes_scan bytes l.server short
    refine .quiet ?_ ?_
    · exact (congrArg deeds read).trans all.1
    · intro latched
      exact (congrArg latch read).trans (all.2 latched)
  | hasPendingRequest => exact .of_same (congrArg deeds quiet) (congrArg latch quiet)
  | pendingIsStop => exact .of_same (congrArg deeds quiet) (congrArg latch quiet)
  | takeStop now => exact takeStop_effect now short stops
  | processPending now => exact processPending_effect now short
  | completeResponse => exact .of_same (completeResponse_deeds short).1 (completeResponse_deeds short).2
  | service starts => exact .of_same (congrArg deeds (service_server ..)) (congrArg latch (service_server ..))
  | onTransmitComplete => exact finish_effect short
  | onError => exact finish_effect short

/-! ### The account -/

/-- Every valid request of a stream met exactly one fate, the counters add up, and requests execute in the
order they arrived. -/
structure Accounted (stream : List Byte) (s : RtuServer Machine) : Prop where
  received : s.history.arrived.map RtuRequest.bytes = requests (scanned stream).pieces
  one_fate : ∀ r ∈ s.history.arrived, ∃! fate, r ∈ (ledger s).having fate
  once : ∀ fate, ((ledger s).having fate).Nodup
  nothing_else : ∀ fate, ∀ r ∈ (ledger s).having fate, r ∈ s.history.arrived
  total : s.snapshot.validRequestCount =
    s.stopLatched.toNat + s.snapshot.duplicateStopCount + s.history.stopped.length + s.queue.length +
      s.history.executed.length + s.snapshot.normalQueueFullDropCount +
      s.snapshot.normalDiscardedByStopCount
  in_order : s.history.executed.Pairwise fun r q => r.arrival < q.arrival
  stops : ∀ r ∈ s.history.arrived, isStop r = true ↔
    r ∈ (ledger s).having .latched ∨ r ∈ (ledger s).having .duplicate ∨ r ∈ (ledger s).having .stopped

theorem accounted {stream : List Byte} {s : RtuServer Machine} (framed : Framed stream s)
    (sound : Sound isStop RtuRequest.arrival queueCapacity (ledger s)) (counted : Counted s) :
    Accounted stream s := by
  have inside : ∀ fate, ∀ r ∈ (ledger s).having fate, r ∈ s.history.arrived :=
    fun fate r member => sound.filed_mem.mpr (having_filed.mpr ⟨fate, member⟩)
  refine ⟨framed.arrived, fun r member => sound.one_fate member, sound.apart.1, inside, ?_,
    (List.pairwise_append.mp sound.ordered).1, ?_⟩
  · have latched : (ledger s).latched.toList.length = s.stopLatched.toNat := by
      dsimp only [ledger]
      cases s.stopLatched <;> rfl
    have sizes := sound.filed.length_eq
    simp only [Ledger.filed, List.length_append, latched] at sizes
    simp only [ledger] at sizes
    rw [counted.valid, counted.duplicates, counted.refused, counted.discarded, sizes]
  · intro r member
    constructor
    · intro stops
      obtain ⟨fate, met⟩ := having_filed.mp (sound.filed_mem.mp member)
      have normal := sound.normal r
      cases fate with
      | latched => exact .inl met
      | duplicate => exact .inr (.inl met)
      | stopped => exact .inr (.inr met)
      | _ =>
        exact absurd stops (Bool.eq_false_iff.mp (normal (by
          simp only [Ledger.having, List.mem_append] at met ⊢
          tauto)))
    · intro met
      apply sound.stops r
      simpa only [Ledger.having, List.mem_append, or_assoc] using met

/-- For every interleaving of calls: every valid request met exactly one fate; a latched STOP stays until
it is taken and applied, and nothing executes before; and no request that arrived before a STOP executes
once that STOP was extracted. -/
theorem request_accounting (m : Machine) (calls more : List Call) :
    let l := run app calls (attached m)
    Accounted (fed calls) l.server ∧
      (∀ e, Effect app l.server e (call app l e).server) ∧
      ∀ stop ∈ l.server.history.arrived, isStop stop = true →
        ∀ r ∈ (run app more l).server.history.executed, r.arrival < stop.arrival →
          r ∈ l.server.history.executed := by
  have framed := @run_framed _ app _ _ (attached_framed m) calls
  rw [List.nil_append] at framed
  obtain ⟨sound, counted⟩ := attached_sound m
  obtain ⟨turns, counts⟩ := @run_turns _ app _ _ (attached_framed m) counted calls
  have books := sound.steps turns
  refine ⟨accounted framed books counts, ?_, ?_⟩
  · apply call_effect framed.short
    intro latched
    apply books.stops
    simp only [ledger, latched, if_true, Option.toList_some, List.cons_append, List.mem_cons,
      true_or]
  · intro stop member isStop r executed before
    obtain ⟨onward, -⟩ := @run_turns _ app _ _ framed counts more
    obtain ⟨arrivals, executions, -, grown, after⟩ := books.later_executed onward
    have inside : r ∈ (ledger (run app calls (attached m)).server).executed ++ executions := grown ▸ executed
    rcases List.mem_append.mp inside with old | new
    · exact old
    · exact absurd (after stop member isStop r new) (by omega)

end Sd700.Modbus.Accounting
