import Sd700.Logic.Run
import Sd700.Modbus.Accounting

/-! Responses. Every executed request is answered once, the answers leave in the order of execution, and
a transmission keeps its bytes until it ends. -/

namespace Sd700.Modbus.Responses
open Build.Contract Servo.State Protocol Server Framing Fates Accounting Logic.Run

variable {Machine : Type} {app : Application Machine}

/-! ### Frames -/

/-- A request as the scan lets it through: eight bytes with their CRC, for this station. -/
structure Valid (bytes : List Byte) : Prop where
  size : bytes.length = requestLength
  checked : firstFrameCrcIsValid bytes = true
  station : byteAt bytes 0 = stationId

inductive Reply (request : List Byte) : List Byte → Prop
  | echo (writes : byteAt request 1 = 5 ∨ byteAt request 1 = 6) : Reply request request
  | data (values : List Byte) (reads : byteAt request 1 = 3 ∨ byteAt request 1 = 4)
      (positive : readU16 request 4 ≠ 0) (fits : (readU16 request 4).toNat ≤ maxReadRegisters)
      (size : values.length = 2 * (readU16 request 4).toNat) :
      Reply request
        (appendCrc ([stationId, byteAt request 1, (readU16 request 4 * 2).setWidth 8] ++ values))
  | exception (code : Byte) : Reply request (exceptionFrame (byteAt request 1) code)

theorem Valid.crc {bytes : List Byte} (valid : Valid bytes) : bytes = appendCrc (bytes.take 6) := by
  have size : bytes.length = 8 := valid.size
  have sum := of_decide_eq_true valid.checked
  unfold appendCrc
  rw [sum]
  match bytes, size with
  | [a, b, c, d, e, f, low, high], _ =>
    have lower : (high ++ low).extractLsb' 0 8 = low := BitVec.extractLsb'_append_eq_right
    have upper : (high ++ low).extractLsb' 8 8 = high := BitVec.extractLsb'_append_eq_left
    change _ = [a, b, c, d, e, f] ++ [(high ++ low).extractLsb' 0 8, (high ++ low).extractLsb' 8 8]
    rw [lower, upper]
    rfl

theorem Reply.crc {request bytes : List Byte} (reply : Reply request bytes) (valid : Valid request) :
    ∃ content, bytes = appendCrc content := by
  cases reply with
  | echo writes => exact ⟨_, valid.crc⟩
  | data values reads positive fits size => exact ⟨_, rfl⟩
  | exception code => exact ⟨_, rfl⟩

theorem arrived_valid {stream : List Byte} {s : RtuServer Machine} (framed : Framed stream s) {r : RtuRequest}
    (member : r ∈ s.history.arrived) : Valid r.bytes := by
  have listed : r.bytes ∈ requests (scanned stream).pieces := framed.arrived ▸ List.mem_map_of_mem member
  obtain ⟨piece, inside, found⟩ := List.mem_filterMap.mp listed
  cases piece with
  | dropped byte => cases found
  | window frame =>
    dsimp only at found
    split at found
    · rename_i station
      cases found
      obtain ⟨size, checked⟩ := Logic.Scan.window_passes inside
      exact ⟨size, checked, station⟩
    · cases found

/-! ### Serving -/

theorem readLoop_size {function : Byte} {now : U32} {candidate count : Nat} {data values : List Byte}
    {m m' : Machine} (read : Server.readLoop app function now candidate count data m = (m', some values)) :
    values.length = data.length + 2 * count := by
  induction count generalizing candidate data m with
  | zero =>
    rw [Server.readLoop] at read
    cases read
    rfl
  | succ count ih =>
    rw [Server.readLoop] at read
    split at read
    · cases read
    · have grown := ih read
      rw [List.length_append] at grown
      simp only [List.length_cons, List.length_nil] at grown
      omega

theorem serve_reply (now : U32) (s : RtuServer Machine) :
    (serve app now s).responsePending = true ∧ Reply s.activeRequest.bytes (serve app now s).response := by
  unfold serve
  dsimp only
  split
  · rename_i reads
    unfold Server.processRead
    dsimp only
    split
    · exact ⟨rfl, .exception 3⟩
    rename_i quantity
    rw [not_or, not_lt] at quantity
    split
    · exact ⟨rfl, .exception 2⟩
    · rename_i m values read
      have size := readLoop_size read
      rw [List.length_nil, Nat.zero_add] at size
      exact ⟨rfl, .data values reads quantity.1 quantity.2 size⟩
  split
  · rename_i writes
    unfold processWrite
    dsimp only
    split
    · exact ⟨rfl, .exception 2⟩
    split
    · exact ⟨rfl, .echo writes⟩
    · exact ⟨rfl, .exception _⟩
  · exact ⟨rfl, .exception 1⟩

/-! ### The slots -/

def waiting (s : RtuServer Machine) : Option (List Byte) :=
  if s.priorityResponsePending then some s.priorityResponse else none

def responses (answers : List Answer) : List (List Byte) := answers.filterMap Answer.response

structure Booked (s : RtuServer Machine) : Prop where
  fifo : responses s.history.answers =
    s.history.released ++ (getResponse s).toList ++ (waiting s).toList
  waits : ∀ bytes, waiting s = some bytes →
    ∃ a ∈ s.history.answers, isStop a.request = true ∧ a.response = some bytes
  executed : (s.history.answers.map Answer.request).filter (! isStop ·) = s.history.executed
  stopped : (s.history.answers.map Answer.request).filter isStop = s.history.stopped
  replies : ∀ a ∈ s.history.answers, ∀ bytes, a.response = some bytes → Reply a.request.bytes bytes
  dropped : ∀ a ∈ s.history.answers, a.response = none → isStop a.request = true
  counted : s.snapshot.droppedStopResponseCount = s.history.answers.countP (·.response.isNone)

def Behind (s : RtuServer Machine) : Prop := s.priorityResponsePending = true → s.responsePending = true

/-- Everything `Booked` reads. -/
def slots (s : RtuServer Machine) :
    Option (List Byte) × Option (List Byte) × List Answer × List (List Byte) × Nat × List RtuRequest ×
      List RtuRequest :=
  (getResponse s, waiting s, s.history.answers, s.history.released, s.snapshot.droppedStopResponseCount,
    s.history.executed, s.history.stopped)

theorem Booked.of_slots {s s' : RtuServer Machine} (booked : Booked s) (same : slots s' = slots s) :
    Booked s' := by
  simp only [slots, Prod.mk.injEq] at same
  obtain ⟨pending, behind, answers, released, count, executed, stopped⟩ := same
  constructor
  · rw [pending, behind, answers, released, booked.fifo]
  · rw [behind, answers]
    exact booked.waits
  · rw [answers, executed, booked.executed]
  · rw [answers, stopped, booked.stopped]
  · rw [answers]
    exact booked.replies
  · rw [answers]
    exact booked.dropped
  · rw [answers, count, booked.counted]

theorem absorb_slots (s : RtuServer Machine) (piece : Logic.Scan.Piece Byte) :
    slots (absorb s piece) = slots s ∧ (Behind s → Behind (absorb s piece)) := by
  unfold absorb accept
  dsimp only
  split
  · split_ifs
    all_goals exact ⟨rfl, id⟩
  · exact ⟨rfl, id⟩

theorem foldl_slots (pieces : List (Logic.Scan.Piece Byte)) (s : RtuServer Machine) :
    slots (pieces.foldl absorb s) = slots s ∧ (Behind s → Behind (pieces.foldl absorb s)) := by
  induction pieces generalizing s with
  | nil => exact ⟨rfl, id⟩
  | cons piece later ih =>
    have first := absorb_slots s piece
    have rest := ih (absorb s piece)
    exact ⟨rest.1.trans first.1, fun behind => rest.2 (first.2 behind)⟩

theorem promotePriorityResponse_booked {s : RtuServer Machine} (booked : Booked s) :
    Booked (promotePriorityResponse s) ∧ Behind (promotePriorityResponse s) := by
  unfold promotePriorityResponse
  split
  · rename_i free
    obtain ⟨idle, queued⟩ := free
    rw [Bool.not_eq_true] at idle
    have fifo := booked.fifo
    rw [getResponse, waiting, if_neg (by rw [idle]; exact Bool.false_ne_true), if_pos queued] at fifo
    refine ⟨⟨?_, ?_, booked.executed, booked.stopped, booked.replies, booked.dropped, booked.counted⟩, ?_⟩
    · simpa [getResponse, waiting] using fifo
    · intro bytes none_
      exact absurd none_ (by simp [waiting])
    · intro _
      rfl
  · rename_i busy
    refine ⟨booked, ?_⟩
    intro queued
    by_contra idle
    exact busy ⟨idle, queued⟩

theorem completeResponse_booked {s : RtuServer Machine} (short : s.rx.length < requestLength)
    (booked : Booked s) :
    Booked (completeResponse s) ∧ Behind (completeResponse s) ∧
      (completeResponse s).history.released = s.history.released ++ (getResponse s).toList := by
  rw [completeResponse_short short]
  have freed : Booked { s with
      response := []
      responsePending := false
      history := { s.history with released := s.history.released ++ (getResponse s).toList } } := by
    refine ⟨?_, booked.waits, booked.executed, booked.stopped, booked.replies, booked.dropped, booked.counted⟩
    have fifo := booked.fifo
    rw [fifo]
    simp [getResponse, waiting]
  obtain ⟨kept, behind⟩ := promotePriorityResponse_booked freed
  refine ⟨kept, behind, ?_⟩
  unfold promotePriorityResponse
  split
  · rfl
  · rfl

/-! ### Answers -/

theorem Booked.note {s s' : RtuServer Machine} {a : Answer} (booked : Booked s)
    (answers : s'.history.answers = s.history.answers ++ [a])
    (fifo : s'.history.released ++ (getResponse s').toList ++ (waiting s').toList =
      s.history.released ++ (getResponse s).toList ++ (waiting s).toList ++ a.response.toList)
    (waits : waiting s' = waiting s ∨ isStop a.request = true ∧ waiting s' = a.response)
    (executed : s'.history.executed = s.history.executed ++ if isStop a.request then [] else [a.request])
    (stopped : s'.history.stopped = s.history.stopped ++ if isStop a.request then [a.request] else [])
    (reply : ∀ bytes, a.response = some bytes → Reply a.request.bytes bytes)
    (dropped : a.response = none → isStop a.request = true)
    (counted : s'.snapshot.droppedStopResponseCount =
      s.snapshot.droppedStopResponseCount + if a.response.isNone then 1 else 0) : Booked s' := by
  constructor
  · rw [answers, fifo, ← booked.fifo, responses, responses, List.filterMap_append]
    cases response : a.response <;> simp [response]
  · intro bytes held
    rw [answers]
    rcases waits with same | ⟨stops, same⟩
    · obtain ⟨b, member, given⟩ := booked.waits bytes (same ▸ held)
      exact ⟨b, List.mem_append_left _ member, given⟩
    · exact ⟨a, List.mem_append_right _ (List.mem_singleton_self a), stops, same ▸ held⟩
  · rw [answers, List.map_append, List.filter_append, booked.executed, executed]
    cases stops : isStop a.request <;> simp [stops]
  · rw [answers, List.map_append, List.filter_append, booked.stopped, stopped]
    cases stops : isStop a.request <;> simp [stops]
  · intro b member
    rcases List.mem_append.mp (answers ▸ member) with old | new
    · exact booked.replies b old
    · rw [List.mem_singleton.mp new]
      exact reply
  · intro b member
    rcases List.mem_append.mp (answers ▸ member) with old | new
    · exact booked.dropped b old
    · rw [List.mem_singleton.mp new]
      exact dropped
  · rw [answers, counted, booked.counted, List.countP_append, List.countP_singleton]

theorem stop_function {r : RtuRequest} (stops : isStop r = true) : byteAt r.bytes 1 = 5 :=
  (of_decide_eq_true stops).1

theorem promotePriorityResponse_released (s : RtuServer Machine) :
    (promotePriorityResponse s).history.released = s.history.released := by
  unfold promotePriorityResponse
  split
  · rfl
  · rfl

/-- The response of a STOP takes the free priority slot and moves on if it can. -/
theorem holdStopResponse_booked {s u : RtuServer Machine} {r : RtuRequest} {bytes : List Byte}
    (booked : Booked s) (free : waiting s = none) (stop : isStop r = true) (reply : Reply r.bytes bytes)
    (applied : slots u = (getResponse s, none, s.history.answers, s.history.released,
      s.snapshot.droppedStopResponseCount, s.history.executed, s.history.stopped ++ [r])) :
    Booked (promotePriorityResponse (holdStopResponse r bytes u)) ∧
      Behind (promotePriorityResponse (holdStopResponse r bytes u)) ∧
      (promotePriorityResponse (holdStopResponse r bytes u)).history.released = s.history.released := by
  simp only [slots, Prod.mk.injEq] at applied
  obtain ⟨pending, -, answers, released, count, executed, stopped⟩ := applied
  have held : Booked (holdStopResponse r bytes u) := by
    apply @Booked.note _ s _ ⟨r, some bytes⟩ booked
    · exact congrArg (· ++ _) answers
    · rw [free, ← pending, ← released]
      simp only [holdStopResponse, waiting, getResponse, if_true, Option.toList_none, List.append_nil]
      rfl
    · exact .inr ⟨stop, rfl⟩
    · simpa [stop, holdStopResponse] using executed
    · simpa [stop, holdStopResponse] using stopped
    · intro given same
      cases same
      exact reply
    · exact fun none_ => nomatch none_
    · exact count
  obtain ⟨kept, behind⟩ := promotePriorityResponse_booked held
  exact ⟨kept, behind, (promotePriorityResponse_released _).trans released⟩

theorem takeStop_booked (now : U32) {s : RtuServer Machine} (short : s.rx.length < requestLength)
    (stops : s.stopLatched = true → isStop s.stopRequest = true) (booked : Booked s) (behind : Behind s) :
    Booked (takeStop app now s).1 ∧ Behind (takeStop app now s).1 ∧
      (takeStop app now s).1.history.released = s.history.released := by
  unfold takeStop
  rw [tryExtractRequest_short short]
  dsimp only
  split
  · exact ⟨booked, behind, rfl⟩
  rename_i latched
  rw [not_not] at latched
  have stop := stops latched
  have function := stop_function stop
  unfold queueStopResponse
  split
  · refine ⟨?_, behind, rfl⟩
    apply @Booked.note _ s _ ⟨s.stopRequest, none⟩ booked rfl
    · exact (List.append_nil _).symm
    · exact .inl rfl
    · simp [stop, applyStop]
    · simp [stop, applyStop]
    · exact fun _ given => nomatch given
    · exact fun _ => stop
    · rfl
  rename_i free
  have nothing : waiting s = none := if_neg free
  have applied : slots (applyStop app now s).1 = (getResponse s, none, s.history.answers, s.history.released,
      s.snapshot.droppedStopResponseCount, s.history.executed, s.history.stopped ++ [s.stopRequest]) := by
    rw [← nothing]
    rfl
  split
  · exact holdStopResponse_booked booked nothing stop (.echo (.inl function)) applied
  · have reply : Reply s.stopRequest.bytes (exceptionFrame 5 (mapCommandError (applyStop app now s).2)) :=
      function ▸ .exception _
    exact holdStopResponse_booked booked nothing stop reply applied

theorem serve_slots (now : U32) (s : RtuServer Machine) :
    waiting (serve app now s) = waiting s ∧ (serve app now s).history = s.history ∧
      (serve app now s).activeRequest = s.activeRequest ∧
      (serve app now s).snapshot.droppedStopResponseCount = s.snapshot.droppedStopResponseCount := by
  unfold serve
  dsimp only
  split
  · unfold Server.processRead
    dsimp only
    split
    · exact ⟨rfl, rfl, rfl, rfl⟩
    split
    · exact ⟨rfl, rfl, rfl, rfl⟩
    · exact ⟨rfl, rfl, rfl, rfl⟩
  split
  · unfold processWrite
    dsimp only
    split
    · exact ⟨rfl, rfl, rfl, rfl⟩
    split
    · exact ⟨rfl, rfl, rfl, rfl⟩
    · exact ⟨rfl, rfl, rfl, rfl⟩
  · exact ⟨rfl, rfl, rfl, rfl⟩

theorem processPending_booked (now : U32) {s : RtuServer Machine} (short : s.rx.length < requestLength)
    (normal : ∀ r ∈ s.queue, isStop r = false) (booked : Booked s) (behind : Behind s) :
    Booked (processPending app now s).1 ∧ Behind (processPending app now s).1 ∧
      (processPending app now s).1.history.released = s.history.released ∧
      (s.responsePending = true → (processPending app now s).1 = s) := by
  rw [processPending_short now short]
  split
  · exact ⟨booked, behind, rfl, fun _ => rfl⟩
  rename_i idle
  simp only [not_or, Bool.not_eq_true] at idle
  cases queued : s.queue with
  | nil => exact ⟨booked, behind, rfl, fun _ => rfl⟩
  | cons r later =>
    have plain : isStop r = false := normal r (queued ▸ List.mem_cons_self)
    obtain ⟨pending, reply⟩ := @serve_reply _ app now (activate r later s)
    obtain ⟨behind', history, active, count⟩ := @serve_slots _ app now (activate r later s)
    have free : waiting s = none := if_neg fun queued => by
      have busy := behind queued
      rw [idle.2] at busy
      exact Bool.false_ne_true busy
    have empty : getResponse s = none := if_neg (by rw [idle.2]; exact Bool.false_ne_true)
    dsimp only
    generalize serve app now (activate r later s) = u at *
    have given : getResponse u = some u.response := if_pos pending
    refine ⟨?_, fun _ => pending, ?_, ?_⟩
    · apply @Booked.note _ s _ ⟨r, some u.response⟩ booked
      · dsimp only [noteServed]
        rw [history, active, if_pos pending]
        rfl
      · rw [free, empty]
        have same : waiting (noteServed u) = none := behind'.trans free
        have answer : getResponse (noteServed u) = some u.response := given
        rw [same, answer]
        dsimp only [noteServed]
        rw [history]
        simp [activate]
      · exact .inl behind'
      · dsimp only [noteServed]
        rw [history, active, plain]
        rfl
      · dsimp only [noteServed]
        rw [history, plain]
        exact (List.append_nil _).symm
      · intro bytes same
        cases same
        exact reply
      · exact fun none_ => nomatch none_
      · exact count
    · dsimp only [noteServed]
      rw [history]
      rfl
    · intro busy
      rw [idle.2] at busy
      exact absurd busy Bool.false_ne_true

/-! ### The link -/

/-- A direct completion is for a response that is not on the wire: the link completes what it sends. -/
def orderly (l : RtuLink Machine) (e : Call) : Prop := e = .completeResponse → l.transmitActive = false

/-- While a transmission is active the pending response is what was handed over, and the driver is
enabled; otherwise it is not. -/
structure Transmits (l : RtuLink Machine) : Prop where
  handed : l.transmitActive = true → getResponse l.server = some l.handed
  enabled : l.driverEnable = l.transmitActive

/-- What a call does to the transmission: it goes on with its bytes, it starts, it ends and releases one
response, or a response leaves that was never sent. A call that could end or start one does. -/
inductive Conduct (l : RtuLink Machine) (e : Call) (l' : RtuLink Machine) : Prop
  | goesOn (unended : e = .onTransmitComplete ∨ e = .onError → l.transmitActive = false)
      (unstarted : e = .service true → l.transmitActive = true ∨ getResponse l.server = none)
      (unreleased : e ≠ .completeResponse) (same : l'.transmitActive = l.transmitActive) (handed : l'.handed = l.handed)
      (released : l'.server.history.released = l.server.history.released)
  | starts (here : e = .service true) (idle : l.transmitActive = false) (active : l'.transmitActive = true)
      (pending : getResponse l.server = some l'.handed) (server : l'.server = l.server)
  | ends (here : e = .onTransmitComplete ∨ e = .onError) (active : l.transmitActive = true)
      (idle : l'.transmitActive = false)
      (released : l'.server.history.released = l.server.history.released ++ [l.handed])
  | completes (here : e = .completeResponse) (idle : l.transmitActive = false)
      (still : l'.transmitActive = false)
      (released : l'.server.history.released =
        l.server.history.released ++ (getResponse l.server).toList)

structure Answered (l : RtuLink Machine) : Prop where
  booked : Booked l.server
  behind : Behind l.server
  transmits : Transmits l

theorem holdStopResponse_busy {r : RtuRequest} {bytes : List Byte} {s : RtuServer Machine}
    (busy : s.responsePending = true) :
    getResponse (promotePriorityResponse (holdStopResponse r bytes s)) = getResponse s := by
  unfold promotePriorityResponse
  rw [if_neg (fun free => free.1 busy)]
  rfl

theorem takeStop_busy (now : U32) {s : RtuServer Machine} (short : s.rx.length < requestLength)
    (busy : s.responsePending = true) : getResponse (takeStop app now s).1 = getResponse s := by
  unfold takeStop
  rw [tryExtractRequest_short short]
  dsimp only
  split
  · rfl
  unfold queueStopResponse
  split
  · rfl
  split
  · exact @holdStopResponse_busy _ _ _ (applyStop app now s).1 busy
  · exact @holdStopResponse_busy _ _ _ { (applyStop app now s).1 with snapshot := _ } busy

theorem pending_of_handed {l : RtuLink Machine} (transmits : Transmits l) (active : l.transmitActive = true) :
    l.server.responsePending = true := by
  have handed := transmits.handed active
  unfold getResponse at handed
  split at handed
  · assumption
  · cases handed

/-- A call into the server that takes no response away keeps the transmission if it keeps a pending response. -/
theorem Answered.server {l : RtuLink Machine} {e : Call} {s : RtuServer Machine} (answered : Answered l)
    (unlinked : e ≠ .onTransmitComplete ∧ e ≠ .onError ∧ e ≠ .service true ∧ e ≠ .completeResponse)
    (booked : Booked s) (behind : Behind s) (released : s.history.released = l.server.history.released)
    (kept : l.server.responsePending = true → getResponse s = getResponse l.server) :
    Answered { l with server := s } ∧ Conduct l e { l with server := s } := by
  obtain ⟨unended, unfailed, unstarted, unreleased⟩ := unlinked
  refine ⟨⟨booked, behind, ?_, answered.transmits.enabled⟩, .goesOn ?_ ?_ unreleased rfl rfl released⟩
  · intro active
    rw [← answered.transmits.handed active]
    exact kept (pending_of_handed answered.transmits active)
  · intro ending
    exact absurd ending (not_or.mpr ⟨unended, unfailed⟩)
  · exact fun starting => absurd starting unstarted

theorem service_answered (begins : Bool) {l : RtuLink Machine} (answered : Answered l) :
    Answered (service begins l) ∧ Conduct l (.service begins) (service begins l) := by
  have unended : Call.service begins = .onTransmitComplete ∨ Call.service begins = .onError →
      l.transmitActive = false := by
    rintro (same | same) <;> cases same
  have unreleased : Call.service begins ≠ .completeResponse := fun same => by cases same
  unfold service
  split
  · rename_i active
    exact ⟨answered, .goesOn unended (fun _ => .inl active) unreleased rfl rfl rfl⟩
  rename_i idle
  rw [Bool.not_eq_true] at idle
  split
  · rename_i nothing
    exact ⟨answered, .goesOn unended (fun _ => .inr nothing) unreleased rfl rfl rfl⟩
  rename_i response pending
  cases begins with
  | false =>
    refine ⟨⟨answered.booked, answered.behind, ?_, idle.symm⟩, .goesOn unended ?_ unreleased rfl rfl rfl⟩
    · intro active
      exact absurd (idle.symm.trans active) Bool.false_ne_true
    · intro starting
      cases starting
  | true =>
    exact ⟨⟨answered.booked, answered.behind, fun _ => pending, rfl⟩, .starts rfl idle rfl pending rfl⟩

theorem finish_answered {l : RtuLink Machine} {e : Call} (ending : e = .onTransmitComplete ∨ e = .onError)
    (short : l.server.rx.length < requestLength) (answered : Answered l) :
    Answered (finish l) ∧ Conduct l e (finish l) := by
  unfold finish
  dsimp only
  split
  · rename_i idle
    rw [Bool.not_eq_true] at idle
    refine ⟨⟨answered.booked, answered.behind, answered.transmits.handed, idle.symm⟩,
      .goesOn (fun _ => idle) ?_ ?_ rfl rfl rfl⟩
    · rintro rfl
      rcases ending with same | same <;> cases same
    · rintro rfl
      rcases ending with same | same <;> cases same
  · rename_i active
    rw [not_not] at active
    obtain ⟨booked, behind, released⟩ := completeResponse_booked short answered.booked
    refine ⟨⟨booked, behind, ?_, rfl⟩, .ends ending active rfl ?_⟩
    · exact fun again => absurd again Bool.false_ne_true
    · dsimp only
      rw [released, answered.transmits.handed active]
      rfl

theorem call_answered {l : RtuLink Machine} {e : Call} (answered : Answered l) (asked : orderly l e)
    (short : l.server.rx.length < requestLength)
    (stops : l.server.stopLatched = true → isStop l.server.stopRequest = true)
    (normal : ∀ r ∈ l.server.queue, isStop r = false) :
    Answered (call app l e) ∧ Conduct l e (call app l e) := by
  have quiet : tryExtractRequest l.server = l.server := tryExtractRequest_short short
  cases e with
  | processBytes bytes =>
    have read := processBytes_scan bytes l.server short
    obtain ⟨same, behind⟩ := foldl_slots (scanned (l.server.rx ++ bytes)).pieces l.server
    have kept : slots (processBytes bytes l.server) = slots l.server := (congrArg slots read).trans same
    refine answered.server (by simp) (answered.booked.of_slots kept) ?_ ?_ fun _ => congrArg Prod.fst kept
    · rw [read]
      exact behind answered.behind
    · simp only [slots, Prod.mk.injEq] at kept
      exact kept.2.2.2.1
  | hasPendingRequest =>
    rw [call, hasPendingRequest, quiet]
    exact answered.server (by simp) answered.booked answered.behind rfl fun _ => rfl
  | pendingIsStop =>
    rw [call, pendingIsStop, quiet]
    exact answered.server (by simp) answered.booked answered.behind rfl fun _ => rfl
  | takeStop now =>
    obtain ⟨booked, behind, released⟩ :=
      @takeStop_booked _ app now _ short stops answered.booked answered.behind
    exact answered.server (by simp) booked behind released fun busy => takeStop_busy now short busy
  | processPending now =>
    obtain ⟨booked, behind, released, kept⟩ :=
      @processPending_booked _ app now _ short normal answered.booked answered.behind
    exact answered.server (by simp) booked behind released fun busy => congrArg getResponse (kept busy)
  | completeResponse =>
    have idle := asked rfl
    obtain ⟨booked, behind, released⟩ := completeResponse_booked short answered.booked
    refine ⟨⟨booked, behind, ?_, answered.transmits.enabled⟩, .completes rfl idle idle released⟩
    exact fun active => absurd (idle.symm.trans active) Bool.false_ne_true
  | service begins => exact service_answered begins answered
  | onTransmitComplete => exact finish_answered (.inl rfl) short answered
  | onError => exact finish_answered (.inr rfl) short answered

theorem attached_answered (m : Machine) : Answered (attached m) := by
  refine ⟨⟨rfl, ?_, rfl, rfl, ?_, ?_, rfl⟩, ?_, ⟨?_, rfl⟩⟩
  · exact fun _ held => nomatch held
  · exact fun _ member => nomatch member
  · exact fun _ member => nomatch member
  · exact fun queued => absurd queued Bool.false_ne_true
  · exact fun active => absurd active Bool.false_ne_true

structure Reached (l : RtuLink Machine) : Prop where
  framed : ∃ stream, Framed stream l.server
  counted : Counted l.server
  sound : Sound isStop RtuRequest.arrival queueCapacity (ledger l.server)
  answered : Answered l

theorem Reached.stops {l : RtuLink Machine} (reached : Reached l) (latched : l.server.stopLatched = true) :
    isStop l.server.stopRequest = true := by
  apply reached.sound.stops
  simp only [ledger, latched, if_true, Option.toList_some, List.cons_append, List.mem_cons, true_or]

theorem Reached.normal {l : RtuLink Machine} (reached : Reached l) : ∀ r ∈ l.server.queue, isStop r = false := by
  intro r member
  apply reached.sound.normal
  simp only [ledger, List.mem_append]
  tauto

theorem Reached.short {l : RtuLink Machine} (reached : Reached l) : l.server.rx.length < requestLength :=
  reached.framed.elim fun _ framed => framed.short

theorem Reached.call {l : RtuLink Machine} {e : Call} (reached : Reached l) (asked : orderly l e) :
    Reached (call app l e) ∧ Conduct l e (call app l e) := by
  obtain ⟨stream, framed⟩ := reached.framed
  obtain ⟨turns, counted⟩ := @call_turns _ app l framed.short reached.counted e
  obtain ⟨answered, conduct⟩ :=
    @call_answered _ app l e reached.answered asked framed.short reached.stops reached.normal
  exact ⟨⟨⟨_, call_framed framed e⟩, counted, reached.sound.steps turns, answered⟩, conduct⟩

theorem runs_of_calls {calls : List Call} (linked : .completeResponse ∉ calls) (l : RtuLink Machine) :
    Runs (call app) orderly l (run app calls l) := by
  induction calls generalizing l with
  | nil => exact .refl
  | cons e later ih =>
    rw [List.mem_cons, not_or] at linked
    exact .head ⟨e, fun same => absurd same.symm linked.1, rfl⟩ (ih linked.2 (call app l e))

theorem reached (m : Machine) {l : RtuLink Machine} (runs : Runs (call app) orderly (attached m) l) :
    Reached l := by
  apply runs_invariant (fun l e asked reached => (Reached.call reached asked).1) runs
  exact ⟨⟨[], attached_framed m⟩, (attached_sound m).2, (attached_sound m).1, attached_answered m⟩

/-- Every executed request and every applied STOP has one answer, in the order of execution; an answer is
an echo, data or an exception with its CRC, or a STOP response that was dropped and counted; and the
answers given are those released, the pending one and at most one STOP response behind it. -/
structure Integrity (s : RtuServer Machine) : Prop where
  executed : (s.history.answers.map Answer.request).filter (! isStop ·) = s.history.executed
  stopped : (s.history.answers.map Answer.request).filter isStop = s.history.stopped
  replies : ∀ a ∈ s.history.answers, ∀ bytes, a.response = some bytes →
    Reply a.request.bytes bytes ∧ ∃ content, bytes = appendCrc content
  dropped : ∀ a ∈ s.history.answers, a.response = none → isStop a.request = true
  counted : s.snapshot.droppedStopResponseCount = s.history.answers.countP (·.response.isNone)
  in_order : s.history.answers.filterMap Answer.response =
    s.history.released ++ (getResponse s).toList ++ (waiting s).toList
  behind : ∀ bytes, waiting s = some bytes → s.responsePending = true ∧
    ∃ a ∈ s.history.answers, isStop a.request = true ∧ a.response = some bytes

theorem Reached.integrity {l : RtuLink Machine} (reached : Reached l) : Integrity l.server := by
  obtain ⟨stream, framed⟩ := reached.framed
  have booked := reached.answered.booked
  refine ⟨booked.executed, booked.stopped, ?_, booked.dropped, booked.counted, booked.fifo, ?_⟩
  · intro a member bytes given
    have reply := booked.replies a member bytes given
    have listed : a.request ∈ l.server.history.answers.map Answer.request := List.mem_map_of_mem member
    have arrived : a.request ∈ l.server.history.arrived := by
      rw [show l.server.history.arrived = (ledger l.server).arrived from rfl, reached.sound.filed_mem,
        having_filed]
      cases stops : isStop a.request with
      | true =>
        refine ⟨.stopped, ?_⟩
        change a.request ∈ l.server.history.stopped
        rw [← booked.stopped]
        exact List.mem_filter.mpr ⟨listed, stops⟩
      | false =>
        refine ⟨.executed, ?_⟩
        change a.request ∈ l.server.history.executed
        rw [← booked.executed]
        exact List.mem_filter.mpr ⟨listed, by rw [stops]; rfl⟩
    exact ⟨reply, reply.crc (arrived_valid framed arrived)⟩
  · intro bytes held
    refine ⟨reached.answered.behind ?_, booked.waits bytes held⟩
    by_contra idle
    rw [waiting, if_neg idle] at held
    cases held

/-- For every interleaving of server calls and link events. -/
theorem response_integrity (m : Machine) (l : RtuLink Machine)
    (runs : Runs (call app) orderly (attached m) l) :
    Integrity l.server ∧ Transmits l ∧ ∀ e, orderly l e → Conduct l e (call app l e) := by
  have reached := reached m runs
  exact ⟨reached.integrity, reached.answered.transmits, fun e asked => (reached.call asked).2⟩

def sevens : Application Unit where
  handleCommand _ _ m := (m, .accepted)
  protocolAddress _ _ := false
  protocolWrite _ _ _ _ m := (m, .unsupported)
  readHolding _ m := (m, some 7)
  readInput _ _ m := (m, some 7)
  stopFree := rfl

theorem response_integrity_read :
    let sending := run sevens
      [.processBytes [1, 4, 0, 2, 0, 1, 0x90, 0x0A], .processPending 0, .service true] (attached ())
    sending.transmitActive = true ∧ Integrity sending.server ∧ Transmits sending ∧
      Conduct sending .onError (call sevens sending .onError) := by
  intro sending
  have runs : Runs (call sevens) orderly (attached ()) sending := runs_of_calls (by simp) (attached ())
  obtain ⟨integrity, transmits, conduct⟩ := response_integrity () sending runs
  exact ⟨by decide +kernel, integrity, transmits, conduct .onError (nomatch ·)⟩

end Sd700.Modbus.Responses
