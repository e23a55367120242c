import Sd700.Logic.Scan
import Sd700.Modbus.Server

/-! Framing. Whatever calls the bytes of a stream arrive in, the server extracts the requests a greedy
scan of the whole stream finds, and less than one frame is ever left in its buffer. -/

namespace Sd700.Modbus.Framing
open Build.Contract Server Logic.Scan

variable {Machine : Type} {app : Application Machine}

def scanned (stream : List Byte) : Cut Byte := scan requestLength firstFrameCrcIsValid stream

def requests (pieces : List (Piece Byte)) : List (List Byte) :=
  pieces.filterMap fun piece =>
    match piece with
    | .window frame => if byteAt frame 0 = stationId then some frame else none
    | .dropped _ => none

def bytesOf : Call → List Byte
  | .processBytes bytes => bytes
  | _ => []

def fed (calls : List Call) : List Byte := calls.flatMap bytesOf

/-! ### One turn of the loop -/

def absorb (s : RtuServer Machine) : Piece Byte → RtuServer Machine
  | .window frame =>
    if byteAt frame 0 ≠ stationId then
      { s with
        snapshot := { s.snapshot with
          wrongStationCount := s.snapshot.wrongStationCount + 1
          droppedResyncByteCount := s.snapshot.droppedResyncByteCount + requestLength } }
    else accept ⟨s.snapshot.validRequestCount, frame⟩ s
  | .dropped byte =>
    { s with
      snapshot := { s.snapshot with
        invalidCrcCount :=
          if byteAt [byte] 0 = stationId then s.snapshot.invalidCrcCount + 1
          else s.snapshot.invalidCrcCount
        droppedResyncByteCount := s.snapshot.droppedResyncByteCount + 1 } }

theorem byteAt_take {bytes : List Byte} {count i : Nat} (inside : i < count) :
    byteAt (bytes.take count) i = byteAt bytes i := by
  simp only [byteAt, List.getD_eq_getElem?_getD, List.getElem?_take_of_lt inside]

theorem firstFrame_take (rx : List Byte) :
    firstFrameCrcIsValid (rx.take requestLength) = firstFrameCrcIsValid rx := by
  unfold firstFrameCrcIsValid
  rw [byteAt_take (by decide), byteAt_take (by decide), List.take_take, Nat.min_eq_left (by decide)]

theorem extractOne_window (s : RtuServer Machine) (passes : firstFrameCrcIsValid s.rx = true) :
    extractOne s = dropFront requestLength (absorb s (.window (s.rx.take requestLength))) := by
  unfold extractOne absorb
  dsimp only
  rw [byteAt_take (by decide), if_neg (not_not_intro passes)]
  split_ifs <;> rfl

theorem extractOne_dropped (s : RtuServer Machine) {byte : Byte} {later : List Byte}
    (held : s.rx = byte :: later) (fails : ¬ firstFrameCrcIsValid s.rx = true) :
    extractOne s = dropFront 1 (absorb s (.dropped byte)) := by
  unfold extractOne absorb
  rw [if_pos fails, held]
  rfl

theorem absorb_rx (s : RtuServer Machine) (rx : List Byte) (piece : Piece Byte) :
    absorb { s with rx := rx } piece = { absorb s piece with rx := rx } := by
  unfold absorb accept
  dsimp only
  split
  · split_ifs <;> rfl
  · rfl

theorem foldl_rx (pieces : List (Piece Byte)) (s : RtuServer Machine) (rx : List Byte) :
    pieces.foldl absorb { s with rx := rx } = { pieces.foldl absorb s with rx := rx } := by
  induction pieces generalizing s with
  | nil => rfl
  | cons piece later ih => rw [List.foldl_cons, List.foldl_cons, absorb_rx, ih]

theorem absorb_held (s : RtuServer Machine) (piece : Piece Byte) : (absorb s piece).rx = s.rx := by
  have same := congrArg RtuServer.rx (absorb_rx s s.rx piece)
  exact same

/-! ### The loop -/

theorem extractLoop_short {turns : Nat} {s : RtuServer Machine} (short : s.rx.length < requestLength) :
    extractLoop turns s = s := by
  cases turns with
  | zero => rfl
  | succ turns => rw [extractLoop, if_pos short]

/-- A loop with turns for all the bytes it holds performs the scan of its buffer. -/
theorem extractLoop_scan (turns : Nat) (s : RtuServer Machine) (enough : s.rx.length ≤ turns) :
    extractLoop turns s = { (scanned s.rx).pieces.foldl absorb s with rx := (scanned s.rx).rest } := by
  induction turns generalizing s with
  | zero =>
    have empty : s.rx.length < requestLength := by
      simp only [requestLength]
      omega
    rw [scanned, scan_short empty]
    rfl
  | succ turns ih =>
    by_cases short : s.rx.length < requestLength
    · rw [extractLoop_short short, scanned, scan_short short]
      rfl
    have nonempty : 0 < s.rx.length := by
      simp only [requestLength] at short
      omega
    rw [extractLoop, if_neg short]
    by_cases passes : firstFrameCrcIsValid s.rx = true
    · have check : firstFrameCrcIsValid (s.rx.take requestLength) = true := by rwa [firstFrame_take]
      have fewer : (dropFront requestLength (absorb s (.window (s.rx.take requestLength)))).rx.length ≤ turns := by
        simp only [dropFront, absorb_held, List.length_drop, requestLength]
        omega
      rw [extractOne_window s passes, ih _ fewer, scanned, scanned, scan_window (by decide) (by omega) check]
      simp only [dropFront, absorb_held, List.foldl_cons]
      rw [foldl_rx]
    · obtain ⟨byte, later, held⟩ := List.exists_cons_of_length_pos nonempty
      have check : ¬ firstFrameCrcIsValid (s.rx.take requestLength) = true := by rwa [firstFrame_take]
      have fewer : (dropFront 1 (absorb s (.dropped byte))).rx.length ≤ turns := by
        simp only [dropFront, absorb_held, List.length_drop]
        omega
      rw [held] at check
      rw [extractOne_dropped s held passes, ih _ fewer]
      simp only [dropFront, absorb_held, held, List.drop_one, List.tail_cons, scanned]
      rw [held] at short
      rw [scan_dropped (by omega) check, foldl_rx, List.foldl_cons]

theorem tryExtractRequest_scan (s : RtuServer Machine) :
    tryExtractRequest s = { (scanned s.rx).pieces.foldl absorb s with rx := (scanned s.rx).rest } :=
  extractLoop_scan s.rx.length s le_rfl

theorem tryExtractRequest_short {s : RtuServer Machine} (short : s.rx.length < requestLength) :
    tryExtractRequest s = s :=
  extractLoop_short short

/-! ### Feeding bytes -/

/-- Bytes that arrive at a buffer with less than a frame are scanned behind it. -/
theorem processBytes_scan (bytes : List Byte) (s : RtuServer Machine) (short : s.rx.length < requestLength) :
    processBytes bytes s =
      { (scanned (s.rx ++ bytes)).pieces.foldl absorb s with rx := (scanned (s.rx ++ bytes)).rest } := by
  induction bytes generalizing s with
  | nil =>
    rw [List.append_nil, scanned, scan_short short]
    rfl
  | cons byte later ih =>
    have room : ¬ s.rx.length = rxBufferCapacity := by
      simp only [requestLength, rxBufferCapacity] at short ⊢
      omega
    have fresh : processByte s byte =
        { (scanned (s.rx ++ [byte])).pieces.foldl absorb s with rx := (scanned (s.rx ++ [byte])).rest } := by
      unfold processByte
      rw [if_neg room, tryExtractRequest_scan]
      dsimp only
      rw [foldl_rx]
    have left : (scanned (s.rx ++ [byte])).rest.length < requestLength := rest_short (by decide) _
    have joined := @scan_append _ requestLength firstFrameCrcIsValid (by decide) (s.rx ++ [byte]) later
    rw [List.append_assoc, List.singleton_append] at joined
    rw [processBytes, List.foldl_cons, fresh, ← processBytes, ih _ left, scanned, scanned, scanned]
    dsimp only
    rw [joined, foldl_rx, List.foldl_append]

/-! ### What is taken in -/

theorem absorb_arrived (s : RtuServer Machine) (piece : Piece Byte) :
    (absorb s piece).history.arrived.map RtuRequest.bytes =
      s.history.arrived.map RtuRequest.bytes ++ requests [piece] := by
  unfold absorb accept
  cases piece with
  | window frame =>
    dsimp only [requests, List.filterMap_cons, List.filterMap_nil]
    by_cases here : byteAt frame 0 = stationId
    · rw [if_neg (not_not_intro here), if_pos here]
      split_ifs <;> simp
    · rw [if_pos here, if_neg here]
      simp
  | dropped byte => simp [requests]

theorem absorb_counted (s : RtuServer Machine) {piece : Piece Byte}
    (full : ∀ frame, piece = .window frame → frame.length = requestLength) :
    requestLength * (absorb s piece).snapshot.validRequestCount +
        (absorb s piece).snapshot.droppedResyncByteCount =
      requestLength * s.snapshot.validRequestCount + s.snapshot.droppedResyncByteCount +
        piece.content.length := by
  unfold absorb accept
  cases piece with
  | window frame =>
    have size := full frame rfl
    dsimp only [Piece.content]
    split_ifs
    all_goals
      dsimp only
      rw [size]
      simp only [requestLength]
      omega
  | dropped byte =>
    dsimp only [Piece.content, List.length_singleton]
    omega

theorem requests_append (first second : List (Piece Byte)) :
    requests (first ++ second) = requests first ++ requests second :=
  List.filterMap_append

theorem foldl_arrived (pieces : List (Piece Byte)) (s : RtuServer Machine) :
    (pieces.foldl absorb s).history.arrived.map RtuRequest.bytes =
      s.history.arrived.map RtuRequest.bytes ++ requests pieces := by
  induction pieces generalizing s with
  | nil => simp [requests]
  | cons piece later ih =>
    rw [List.foldl_cons, ih, absorb_arrived, List.append_assoc, ← requests_append]
    rfl

theorem foldl_counted (pieces : List (Piece Byte)) (s : RtuServer Machine)
    (full : ∀ frame, .window frame ∈ pieces → frame.length = requestLength) :
    requestLength * (pieces.foldl absorb s).snapshot.validRequestCount +
        (pieces.foldl absorb s).snapshot.droppedResyncByteCount =
      requestLength * s.snapshot.validRequestCount + s.snapshot.droppedResyncByteCount +
        (pieces.flatMap Piece.content).length := by
  induction pieces generalizing s with
  | nil => rfl
  | cons piece later ih =>
    have first := @absorb_counted _ s piece (by
      intro frame same
      exact full frame (same ▸ .head later))
    have rest := ih (absorb s piece) fun frame inside => full frame (List.mem_cons_of_mem _ inside)
    rw [List.foldl_cons, List.flatMap_cons, List.length_append]
    omega

structure Framed (stream : List Byte) (s : RtuServer Machine) : Prop where
  waiting : s.rx = (scanned stream).rest
  arrived : s.history.arrived.map RtuRequest.bytes = requests (scanned stream).pieces
  counted : stream.length = requestLength * s.snapshot.validRequestCount +
    s.snapshot.droppedResyncByteCount + s.rx.length

theorem Framed.short {stream : List Byte} {s : RtuServer Machine} (framed : Framed stream s) :
    s.rx.length < requestLength := by
  rw [framed.waiting]
  exact rest_short (by decide) stream

theorem Framed.processBytes {stream : List Byte} {s : RtuServer Machine} (framed : Framed stream s)
    (bytes : List Byte) : Framed (stream ++ bytes) (processBytes bytes s) := by
  have joined := @scan_append _ requestLength firstFrameCrcIsValid (by decide) stream bytes
  rw [← scanned, ← scanned, ← framed.waiting, ← scanned] at joined
  have content := @scan_content _ requestLength firstFrameCrcIsValid (by decide) (s.rx ++ bytes)
  have sizes := congrArg List.length content
  have counted := foldl_counted (scanned (s.rx ++ bytes)).pieces s
    fun frame inside => (window_passes inside).1
  rw [processBytes_scan bytes s framed.short]
  constructor
  · rw [joined]
  · rw [joined, requests_append, ← framed.arrived]
    exact foldl_arrived _ s
  · dsimp only
    have before := framed.counted
    rw [← scanned, List.length_append, List.length_append] at sizes
    rw [counted, List.length_append]
    omega

/-! ### Calls -/

def intake (s : RtuServer Machine) : List Byte × List RtuRequest × Nat × Nat :=
  (s.rx, s.history.arrived, s.snapshot.validRequestCount, s.snapshot.droppedResyncByteCount)

theorem Framed.of_intake {stream : List Byte} {s s' : RtuServer Machine} (framed : Framed stream s)
    (same : intake s' = intake s) : Framed stream s' := by
  simp only [intake, Prod.mk.injEq] at same
  obtain ⟨rx, arrived, valid, dropped⟩ := same
  constructor
  · rw [rx, framed.waiting]
  · rw [arrived, framed.arrived]
  · rw [valid, dropped, rx, framed.counted]

theorem promotePriorityResponse_intake (s : RtuServer Machine) :
    intake (promotePriorityResponse s) = intake s := by
  unfold promotePriorityResponse
  split
  · rfl
  · rfl

theorem queueStopResponse_intake (request : RtuRequest) (result : Servo.State.CommandResult)
    (s : RtuServer Machine) : intake (queueStopResponse request result s) = intake s := by
  unfold queueStopResponse
  dsimp only
  split
  · rfl
  split
  · exact promotePriorityResponse_intake _
  · exact promotePriorityResponse_intake _

theorem serve_intake (now : U32) (s : RtuServer Machine) : intake (serve app now s) = intake s := by
  unfold serve
  dsimp only
  split
  · unfold processRead
    dsimp only
    split
    · rfl
    split
    · rfl
    · rfl
  split
  · unfold processWrite
    dsimp only
    split
    · rfl
    split
    · rfl
    · rfl
  · rfl

theorem intake_rx {s s' : RtuServer Machine} (same : intake s' = intake s) : s'.rx = s.rx :=
  congrArg Prod.fst same

/-- With less than a frame waiting, the calls that look for requests find none. -/
theorem processPending_short (now : U32) {s : RtuServer Machine} (short : s.rx.length < requestLength) :
    processPending app now s =
      if s.stopLatched ∨ s.responsePending then (s, false)
      else
        match s.queue with
        | [] => (s, false)
        | request :: later =>
          (noteServed (serve app now (activate request later s)), true) := by
  unfold processPending pendingIsStop hasPendingRequest
  dsimp only
  rw [tryExtractRequest_short short]
  by_cases busy : s.stopLatched = true ∨ s.responsePending = true
  · rw [if_pos busy, if_pos busy]
  rw [if_neg busy, if_neg busy, tryExtractRequest_short short]
  cases s.queue with
  | nil => rfl
  | cons request later =>
    have held : (noteServed (serve app now (activate request later s))).rx = s.rx :=
      intake_rx (@serve_intake _ app now (activate request later s))
    dsimp only
    rw [tryExtractRequest_short]
    rw [held]
    exact short

theorem completeResponse_short {s : RtuServer Machine} (short : s.rx.length < requestLength) :
    completeResponse s = promotePriorityResponse { s with
      response := []
      responsePending := false
      history := { s.history with released := s.history.released ++ (getResponse s).toList } } := by
  unfold completeResponse
  rw [tryExtractRequest_short]
  rw [intake_rx (promotePriorityResponse_intake _)]
  exact short

theorem takeStop_intake (now : U32) {s : RtuServer Machine} (short : s.rx.length < requestLength) :
    intake (takeStop app now s).1 = intake s := by
  unfold takeStop
  rw [tryExtractRequest_short short]
  dsimp only
  split
  · rfl
  · exact queueStopResponse_intake _ _ _

theorem processPending_intake (now : U32) {s : RtuServer Machine} (short : s.rx.length < requestLength) :
    intake (processPending app now s).1 = intake s := by
  rw [processPending_short now short]
  split
  · rfl
  split
  · rfl
  · exact serve_intake now _

theorem completeResponse_intake {s : RtuServer Machine} (short : s.rx.length < requestLength) :
    intake (completeResponse s) = intake s := by
  rw [completeResponse_short short]
  exact promotePriorityResponse_intake _

theorem finish_intake {l : RtuLink Machine} (short : l.server.rx.length < requestLength) :
    intake (finish l).server = intake l.server := by
  unfold finish
  dsimp only
  split
  · rfl
  · exact completeResponse_intake short

theorem service_server (starts : Bool) (l : RtuLink Machine) : (service starts l).server = l.server := by
  unfold service
  split
  · rfl
  split
  · rfl
  split
  · rfl
  · rfl

theorem call_intake {l : RtuLink Machine} (short : l.server.rx.length < requestLength) {e : Call}
    (silent : ∀ bytes, e ≠ .processBytes bytes) : intake (call app l e).server = intake l.server := by
  cases e with
  | processBytes bytes => exact absurd rfl (silent bytes)
  | hasPendingRequest => exact congrArg intake (tryExtractRequest_short short)
  | pendingIsStop => exact congrArg intake (tryExtractRequest_short short)
  | takeStop now => exact takeStop_intake now short
  | processPending now => exact processPending_intake now short
  | completeResponse => exact completeResponse_intake short
  | service starts => exact congrArg intake (service_server starts l)
  | onTransmitComplete => exact finish_intake short
  | onError => exact finish_intake short

theorem call_framed {stream : List Byte} {l : RtuLink Machine} (framed : Framed stream l.server) (e : Call) :
    Framed (stream ++ bytesOf e) (call app l e).server := by
  by_cases feeds : ∃ bytes, e = .processBytes bytes
  · obtain ⟨bytes, rfl⟩ := feeds
    exact framed.processBytes bytes
  · have silent : ∀ bytes, e ≠ .processBytes bytes := fun bytes same => feeds ⟨bytes, same⟩
    have nothing : bytesOf e = [] := by
      cases e with
      | processBytes bytes => exact absurd rfl (silent bytes)
      | _ => rfl
    rw [nothing, List.append_nil]
    exact framed.of_intake (call_intake framed.short silent)

theorem run_framed {stream : List Byte} {l : RtuLink Machine} (framed : Framed stream l.server)
    (calls : List Call) : Framed (stream ++ fed calls) (run app calls l).server := by
  induction calls generalizing l stream with
  | nil => simpa [fed, run] using framed
  | cons e later ih =>
    have next := ih (@call_framed _ app _ _ framed e)
    rwa [List.append_assoc] at next

theorem attached_framed (m : Machine) : Framed [] (attached m).server := by
  constructor
  · simp [attached, initialized, scanned, scan]
  · simp [attached, initialized, scanned, scan, requests]
  · rfl

/-- The requests extracted are those of the greedy scan of all bytes fed; less than a frame waits after
every call and before every byte of a call, so the buffer never overflows; and every byte fed is
accounted for. -/
theorem greedy_framing (m : Machine) (calls : List Call) :
    let s := (run app calls (attached m)).server
    s.history.arrived.map RtuRequest.bytes = requests (scanned (fed calls)).pieces ∧
      s.rx = (scanned (fed calls)).rest ∧
      s.rx.length < 8 ∧ (∀ bytes, (processBytes bytes s).rx.length < 8) ∧
      (fed calls).length =
        8 * s.snapshot.validRequestCount + s.snapshot.droppedResyncByteCount + s.rx.length := by
  have framed := @run_framed _ app _ _ (attached_framed m) calls
  rw [List.nil_append] at framed
  exact ⟨framed.arrived, framed.waiting, framed.short, fun bytes => (framed.processBytes bytes).short,
    framed.counted⟩

end Sd700.Modbus.Framing
