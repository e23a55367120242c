import Mathlib.Data.List.GetD
import Sd700.Logic.Scan
import Sd700.Pressure.Receiver

/-! Frame reception. Whatever calls the bytes of a stream arrive in, the receiver publishes the frames a
greedy scan of the whole stream finds, each once and in order. -/

namespace Sd700.Pressure.Reception
open Build.Contract Receiver Logic.Scan

/-! ### The reference scanner -/

def formsFrame (bytes : List Byte) : Bool :=
  bytes.length = 7 ∧ byteAt bytes 0 = 0xFD ∧
    byteAt bytes 5 =
      byteAt bytes 0 ^^^ byteAt bytes 1 ^^^ byteAt bytes 2 ^^^ byteAt bytes 3 ^^^ byteAt bytes 4 ∧
    byteAt bytes 6 = 0xFE

def scanned (stream : List Byte) : Cut Byte := scan frameLength formsFrame stream

def frameStarts (stream : List Byte) : List Nat := starts 0 (scanned stream).pieces

theorem formsFrame_iff {bytes : List Byte} (full : bytes.length = 7) :
    formsFrame bytes = true ↔ decodeFrame bytes = .ok (rawPressureCounts bytes) := by
  match bytes, full with
  | [header, low, high, third, fourth, check, marker], _ =>
    unfold decodeFrame
    by_cases headed : header = 253#8
    · by_cases checked : check = header ^^^ low ^^^ high ^^^ third ^^^ fourth
      · by_cases marked : marker = 254#8
        · simp [formsFrame, calculateBcc, byteAt, frameLength, frameHeader, bccIndex, frameMarker, headed, marked,
            checked]
        · simp [formsFrame, calculateBcc, byteAt, frameLength, frameHeader, bccIndex, frameMarker, headed, marked,
            checked]
      · rw [headed] at checked
        simp [formsFrame, calculateBcc, byteAt, frameLength, frameHeader, bccIndex, headed, checked]
    · simp [formsFrame, byteAt, frameLength, frameHeader, headed]

theorem decodeFrame_counts {bytes : List Byte} {counts : U16} (ok : decodeFrame bytes = .ok counts) :
    decodeFrame bytes = .ok (rawPressureCounts bytes) := by
  unfold decodeFrame at ok ⊢
  split_ifs at ok ⊢ with sized headed checked marked
  rfl

theorem formsFrame_header {byte : Byte} (other : byte ≠ frameHeader) (later : List Byte) :
    formsFrame (byte :: later) = false := by
  apply decide_eq_false
  rintro ⟨_, headed, _⟩
  exact other headed

/-! ### What is published -/

structure Receipt where
  frame : List Byte
  rawPressureCounts : U16
  receivedAtMs : U32
  sampleSequence : U64
  deriving DecidableEq

def receiptOf (s : Snapshot) : Receipt :=
  ⟨s.lastValidFrame, s.rawPressureCounts, s.receivedAtMs, s.sampleSequence⟩

/-- The receipt due for the frame at `start`, stamped with the time of the call that fed its last byte. -/
def due (stream : List Byte) (stamps : List U32) (index start : Nat) : Receipt :=
  let frame := (stream.drop start).take frameLength
  ⟨frame, rawPressureCounts frame, stamps.getD (start + 6) 0, BitVec.ofNat 64 (index + 1)⟩

def fed (calls : List Call) : List Byte := calls.flatMap Call.bytes

def stamped (calls : List Call) : List U32 :=
  calls.flatMap fun call => List.replicate call.bytes.length call.receivedAtMs

theorem due_append {stream : List Byte} {stamps : List U32} {start : Nat} (along : stamps.length = stream.length)
    (inside : start + 7 ≤ stream.length) (more : List Byte) (later : List U32) (index : Nat) :
    due (stream ++ more) (stamps ++ later) index start = due stream stamps index start := by
  have same : ((stream ++ more).drop start).take frameLength = (stream.drop start).take frameLength := by
    rw [List.drop_append_of_le_length (by omega), List.take_append_of_le_length]
    rw [List.length_drop, frameLength]
    omega
  have stamp : (stamps ++ later).getD (start + 6) 0 = stamps.getD (start + 6) 0 := by
    rw [List.getD_append _ _ _ _ (by omega)]
  simp only [due, same, stamp]

/-! ### The invariant -/

/-- The receiver behind a stream: `found` are the frames published so far, and what the buffer holds is
the stream from `base` on, which is all the scan still needs. -/
structure Tracks (stream : List Byte) (stamps : List U32) (found : List Nat) (base : Nat) (p : Published) : Prop where
  along : stamps.length = stream.length
  total : stream.length = base + p.1.frame.length
  held : stream.drop base = p.1.frame
  short : p.1.frame.length < frameLength
  headed : p.1.frame = [] ∨ byteAt p.1.frame 0 = frameHeader
  ahead : ∀ more, frameStarts (stream ++ more) = found ++ starts base (scanned (p.1.frame ++ more)).pieces
  inside : ∀ start ∈ found, start + 7 ≤ stream.length
  published : p.2.map receiptOf = found.mapIdx (due stream stamps)
  sequence : p.1.snapshot.sampleSequence = BitVec.ofNat 64 found.length
  valid : p.1.snapshot.validFrameCount = BitVec.ofNat 32 found.length
  dropped : ∃ count, base = 7 * found.length + count ∧
    p.1.snapshot.droppedResyncByteCount = BitVec.ofNat 32 count

variable {stream : List Byte} {stamps : List U32} {found : List Nat} {base : Nat} {p : Published}
  {byte : Byte} {receivedAtMs : U32}

theorem tracks_cleared : Tracks [] [] [] 0 (cleared, []) where
  along := rfl
  total := rfl
  held := rfl
  short := by decide
  headed := Or.inl rfl
  ahead := fun _ => rfl
  inside := fun _ member => nomatch member
  published := rfl
  sequence := rfl
  valid := rfl
  dropped := ⟨0, rfl, rfl⟩

theorem Tracks.still (tracks : Tracks stream stamps found base p) (byte : Byte) (receivedAtMs : U32) :
    p.2.map receiptOf = found.mapIdx (due (stream ++ [byte]) (stamps ++ [receivedAtMs])) := by
  rw [tracks.published, List.mapIdx_eq_mapIdx_iff]
  intro index within
  exact (due_append tracks.along (tracks.inside _ (List.getElem_mem within)) _ _ index).symm

theorem Tracks.grown (tracks : Tracks stream stamps found base p) (byte : Byte) :
    (stream ++ [byte]).drop base = p.1.frame ++ [byte] := by
  have within : base ≤ stream.length := by
    have total := tracks.total
    omega
  rw [List.drop_append_of_le_length within, tracks.held]

theorem Tracks.ahead_byte (tracks : Tracks stream stamps found base p) (byte : Byte) (more : List Byte) :
    frameStarts (stream ++ [byte] ++ more) =
      found ++ starts base (scanned (p.1.frame ++ [byte] ++ more)).pieces := by
  rw [List.append_assoc, tracks.ahead, List.append_assoc]

theorem byteAt_append {first second : List Byte} {i : Nat} (inside : i < first.length) :
    byteAt (first ++ second) i = byteAt first i := List.getD_append _ _ _ _ inside

theorem Tracks.headed_byte (tracks : Tracks stream stamps found base p)
    (taken : ¬(p.1.frame.length = 0 ∧ byte ≠ frameHeader)) :
    byteAt (p.1.frame ++ [byte]) 0 = frameHeader := by
  rcases tracks.headed with empty | headed
  · rw [empty] at taken ⊢
    by_contra other
    exact taken ⟨rfl, other⟩
  · by_cases empty : p.1.frame = []
    · rw [empty] at taken ⊢
      by_contra other
      exact taken ⟨rfl, other⟩
    · rw [byteAt_append (List.length_pos_of_ne_nil empty)]
      exact headed

/-! ### One byte -/

theorem Tracks.skip (tracks : Tracks stream stamps found base p) (empty : p.1.frame.length = 0)
    (other : byte ≠ frameHeader) :
    Tracks (stream ++ [byte]) (stamps ++ [receivedAtMs]) found (base + 1)
      ({ p.1 with snapshot := skipByte p.1.snapshot }, p.2) := by
  have none_ : p.1.frame = [] := List.eq_nil_of_length_eq_zero empty
  have total := tracks.total
  obtain ⟨count, split, dropped⟩ := tracks.dropped
  refine ⟨?_, ?_, ?_, tracks.short, tracks.headed, ?_, ?_, tracks.still byte receivedAtMs, tracks.sequence,
    tracks.valid, count + 1, by omega, ?_⟩
  · simp only [List.length_append, List.length_singleton, tracks.along]
  · simp only [List.length_append, List.length_singleton]
    omega
  · rw [none_, List.drop_eq_nil_iff]
    simp only [List.length_append, List.length_singleton]
    omega
  · intro more
    rw [tracks.ahead_byte, none_, List.nil_append, List.singleton_append]
    exact congrArg (found ++ ·) (starts_skip base (by decide) (fun symbols => formsFrame_header other symbols) more)
  · intro start member
    have inside := tracks.inside start member
    rw [List.length_append]
    omega
  · rw [skipByte, dropped, BitVec.ofNat_add]
    rfl

theorem Tracks.keep (tracks : Tracks stream stamps found base p)
    (taken : ¬(p.1.frame.length = 0 ∧ byte ≠ frameHeader))
    (short : (p.1.frame ++ [byte]).length ≠ frameLength) :
    Tracks (stream ++ [byte]) (stamps ++ [receivedAtMs]) found base
      ({ p.1 with frame := p.1.frame ++ [byte] }, p.2) := by
  have total := tracks.total
  have before := tracks.short
  refine ⟨?_, ?_, tracks.grown byte, ?_, Or.inr (tracks.headed_byte taken), tracks.ahead_byte byte, ?_,
    tracks.still byte receivedAtMs, tracks.sequence, tracks.valid, tracks.dropped⟩
  · simp only [List.length_append, List.length_singleton, tracks.along]
  · simp only [List.length_append, List.length_singleton]
    omega
  · simp only [List.length_append, List.length_singleton] at short ⊢
    omega
  · intro start member
    have inside := tracks.inside start member
    rw [List.length_append]
    omega

theorem noteInterval_count (s : Snapshot) : (noteInterval receivedAtMs s).validFrameCount = s.validFrameCount := by
  unfold noteInterval
  split <;> rfl

theorem noteInterval_sequence (s : Snapshot) : (noteInterval receivedAtMs s).sampleSequence = s.sampleSequence := by
  unfold noteInterval
  split <;> rfl

theorem noteInterval_dropped (s : Snapshot) :
    (noteInterval receivedAtMs s).droppedResyncByteCount = s.droppedResyncByteCount := by
  unfold noteInterval
  split <;> rfl

theorem noteInterval_frame (s : Snapshot) : (noteInterval receivedAtMs s).lastValidFrame = s.lastValidFrame := by
  unfold noteInterval
  split <;> rfl

theorem countFrameError_same (result : FrameResult) (s : Snapshot) :
    (countFrameError result s).sampleSequence = s.sampleSequence ∧
      (countFrameError result s).validFrameCount = s.validFrameCount ∧
      (countFrameError result s).droppedResyncByteCount = s.droppedResyncByteCount := by
  unfold countFrameError
  split <;> exact ⟨rfl, rfl, rfl⟩

def accepted (receivedAtMs : U32) (frame : List Byte) (s : Snapshot) : Snapshot :=
  publishValidFrame (rawPressureCounts frame) receivedAtMs { s with lastValidFrame := frame }

theorem Tracks.accept (tracks : Tracks stream stamps found base p)
    (full : (p.1.frame ++ [byte]).length = frameLength) (good : formsFrame (p.1.frame ++ [byte]) = true) :
    Tracks (stream ++ [byte]) (stamps ++ [receivedAtMs]) (found ++ [base]) (base + frameLength)
      (⟨[], accepted receivedAtMs (p.1.frame ++ [byte]) p.1.snapshot⟩,
        p.2 ++ [accepted receivedAtMs (p.1.frame ++ [byte]) p.1.snapshot]) := by
  have total := tracks.total
  obtain ⟨count, split, dropped⟩ := tracks.dropped
  have whole : stream.length + 1 = base + frameLength := by
    rw [List.length_append, List.length_singleton] at full
    omega
  have stamp : (stamps ++ [receivedAtMs]).getD (base + 6) 0 = receivedAtMs := by
    have last : base + 6 = stamps.length := by
      rw [tracks.along]
      simp only [frameLength] at whole
      omega
    rw [List.getD_append_right _ _ _ _ (by omega), last, Nat.sub_self]
    rfl
  have sequence : (accepted receivedAtMs (p.1.frame ++ [byte]) p.1.snapshot).sampleSequence =
      BitVec.ofNat 64 (found.length + 1) := by
    simp only [accepted, publishValidFrame, noteInterval_sequence, tracks.sequence, BitVec.ofNat_add]
    rfl
  have receipt : receiptOf (accepted receivedAtMs (p.1.frame ++ [byte]) p.1.snapshot) =
      due (stream ++ [byte]) (stamps ++ [receivedAtMs]) found.length base := by
    simp only [receiptOf, due, tracks.grown byte, sequence, stamp, List.take_of_length_le (le_of_eq full)]
    simp only [accepted, publishValidFrame, noteInterval_frame]
  refine ⟨?_, ?_, ?_, Nat.zero_lt_succ 6, Or.inl rfl, ?_, ?_, ?_, ?_, ?_, count, ?_, ?_⟩
  · simp only [List.length_append, List.length_singleton, tracks.along]
  · rw [List.length_append]
    exact whole
  · rw [List.drop_eq_nil_iff, List.length_append]
    exact le_of_eq whole
  · intro more
    have window := starts_window base (by decide : 0 < frameLength) full good more
    rw [tracks.ahead_byte, List.append_assoc found]
    exact congrArg (found ++ ·) window
  · intro start member
    rw [List.length_append, List.length_singleton]
    rcases List.mem_append.mp member with before | here
    · have inside := tracks.inside start before
      omega
    · rw [List.mem_singleton.mp here, whole]
      exact le_refl _
  · rw [List.map_append, tracks.still byte receivedAtMs, List.mapIdx_concat]
    exact congrArg (_ ++ [·]) receipt
  · rw [List.length_append]
    exact sequence
  · simp only [accepted, publishValidFrame, noteInterval_count, tracks.valid, List.length_append,
      List.length_singleton, BitVec.ofNat_add]
    rfl
  · rw [List.length_append, List.length_singleton, frameLength]
    omega
  · simp only [accepted, publishValidFrame, noteInterval_dropped, dropped]

theorem resynchronize_frame (r : PressureReceiver) : (resynchronize r).frame = r.frame.drop (headerIndex r.frame) := by
  unfold resynchronize
  dsimp only
  split
  · rfl
  · rw [List.drop_of_length_le (by omega)]

theorem headerIndex_le {frame : List Byte} (nonempty : 0 < frame.length) : headerIndex frame ≤ frame.length := by
  have bound : (frame.drop 1).findIdx (· == frameHeader) ≤ (frame.drop 1).length := List.findIdx_le_length
  rw [List.length_drop] at bound
  unfold headerIndex
  omega

theorem headed_drop (frame : List Byte) :
    frame.drop (headerIndex frame) = [] ∨ byteAt (frame.drop (headerIndex frame)) 0 = frameHeader := by
  by_cases inside : headerIndex frame < frame.length
  · right
    have found : (frame.drop 1).findIdx (· == frameHeader) < (frame.drop 1).length := by
      rw [List.length_drop]
      unfold headerIndex at inside
      omega
    have hit := List.findIdx_getElem (w := found)
    rw [beq_iff_eq, List.getElem_drop] at hit
    rw [byteAt, List.getD_eq_getElem?_getD, List.getElem?_drop, Nat.add_zero, List.getElem?_eq_getElem inside]
    exact hit
  · left
    exact List.drop_of_length_le (by omega)

theorem Tracks.reject (tracks : Tracks stream stamps found base p) (result : FrameResult)
    (full : (p.1.frame ++ [byte]).length = frameLength) (bad : ¬formsFrame (p.1.frame ++ [byte]) = true) :
    Tracks (stream ++ [byte]) (stamps ++ [receivedAtMs]) found (base + headerIndex (p.1.frame ++ [byte]))
      (resynchronize ⟨p.1.frame ++ [byte], countFrameError result p.1.snapshot⟩, p.2) := by
  have total := tracks.total
  have bound : headerIndex (p.1.frame ++ [byte]) ≤ (p.1.frame ++ [byte]).length := headerIndex_le (by rw [full]; decide)
  have ahead : 1 ≤ headerIndex (p.1.frame ++ [byte]) := Nat.le_add_right 1 _
  obtain ⟨count, split, dropped⟩ := tracks.dropped
  obtain ⟨sequence, valid, unchanged⟩ := countFrameError_same result p.1.snapshot
  have length : (stream ++ [byte]).length = base + (p.1.frame ++ [byte]).length := by
    simp only [List.length_append, List.length_singleton]
    omega
  refine ⟨?_, ?_, ?_, ?_, ?_, ?_, ?_, tracks.still byte receivedAtMs, ?_, ?_,
    count + headerIndex (p.1.frame ++ [byte]), by omega, ?_⟩
  · simp only [List.length_append, List.length_singleton, tracks.along]
  · rw [resynchronize_frame, List.length_drop, length]
    dsimp only
    omega
  · rw [resynchronize_frame, ← List.drop_drop, tracks.grown]
  · rw [resynchronize_frame, List.length_drop, full]
    simp only [frameLength]
    omega
  · rw [resynchronize_frame]
    exact headed_drop _
  · intro more
    rw [tracks.ahead_byte, resynchronize_frame]
    apply congrArg (found ++ ·)
    cases held : p.1.frame ++ [byte] with
    | nil => exact absurd held (by simp)
    | cons header later =>
      rw [held] at full bad
      have enough : frameLength ≤ (header :: (later ++ more)).length := by
        simp only [List.length_cons, List.length_append] at full ⊢
        omega
      have fails : ¬formsFrame ((header :: (later ++ more)).take frameLength) = true := by
        rw [← List.cons_append, List.take_left' full]
        exact bad
      have refused : ∀ (a : Byte) symbols, (a == frameHeader) = false → formsFrame (a :: symbols) = false :=
        fun a symbols other => formsFrame_header (beq_eq_false_iff_ne.mp other) symbols
      have skipped := starts_dropWhile (· == frameHeader) refused (by decide : 0 < frameLength) later more (base + 1)
      rw [List.cons_append, scanned, scan_dropped enough fails, starts, skipped, headerIndex, List.drop_one,
        List.tail_cons, Nat.add_comm 1, List.drop_succ_cons, scanned]
      congr 1
      omega
  · intro start member
    have inside := tracks.inside start member
    rw [List.length_append]
    omega
  · exact sequence.trans tracks.sequence
  · exact valid.trans tracks.valid
  · simp only [resynchronize, unchanged, dropped, BitVec.ofNat_add]

theorem Tracks.step (tracks : Tracks stream stamps found base p) (byte : Byte) (receivedAtMs : U32) :
    ∃ found base, Tracks (stream ++ [byte]) (stamps ++ [receivedAtMs]) found base (advance receivedAtMs p byte) := by
  unfold advance processByte
  by_cases skipped : p.1.frame.length = 0 ∧ byte ≠ frameHeader
  · rw [if_pos skipped]
    have kept : Tracks (stream ++ [byte]) (stamps ++ [receivedAtMs]) found (base + 1)
        ({ p.1 with snapshot := skipByte p.1.snapshot }, p.2) := tracks.skip skipped.1 skipped.2
    simp only [List.append_nil]
    exact ⟨_, _, kept⟩
  rw [if_neg skipped]
  dsimp only
  by_cases full : (p.1.frame ++ [byte]).length = frameLength
  · rw [if_pos full]
    unfold processFrame
    dsimp only
    by_cases good : formsFrame (p.1.frame ++ [byte]) = true
    · rw [(formsFrame_iff full).mp good]
      exact ⟨_, _, tracks.accept full good⟩
    · cases decoded : decodeFrame (p.1.frame ++ [byte]) with
      | error result =>
        simp only [List.append_nil]
        exact ⟨_, _, tracks.reject result full good⟩
      | ok counts => exact absurd decoded fun ok => good ((formsFrame_iff full).mpr (decodeFrame_counts ok))
  · rw [if_neg full]
    simp only [List.append_nil]
    exact ⟨_, _, tracks.keep skipped full⟩

theorem Tracks.run (tracks : Tracks stream stamps found base p) (bytes : List Byte) (receivedAtMs : U32) :
    ∃ found base, Tracks (stream ++ bytes) (stamps ++ List.replicate bytes.length receivedAtMs) found base
      (processBytes receivedAtMs bytes p) := by
  unfold processBytes
  induction bytes generalizing stream stamps found base p with
  | nil =>
    simp only [List.append_nil, List.length_nil, List.replicate_zero]
    exact ⟨found, base, tracks⟩
  | cons byte later ih =>
    obtain ⟨found, base, next⟩ := tracks.step byte receivedAtMs
    have rest := ih next
    rw [List.append_assoc, List.append_assoc] at rest
    exact rest

theorem tracks_receive (calls : List Call) :
    ∃ found base, Tracks (fed calls) (stamped calls) found base (receive calls) := by
  induction calls using List.reverseRecOn with
  | nil => exact ⟨[], 0, tracks_cleared⟩
  | append_singleton calls call ih =>
    obtain ⟨found, base, tracks⟩ := ih
    have next := tracks.run call.bytes call.receivedAtMs
    simp only [fed, stamped, receive, List.flatMap_append, List.flatMap_cons, List.flatMap_nil, List.append_nil,
      List.foldl_append, List.foldl_cons, List.foldl_nil] at next ⊢
    exact next

theorem Tracks.all (tracks : Tracks stream stamps found base p) : frameStarts stream = found := by
  have ahead := tracks.ahead []
  rw [List.append_nil, List.append_nil, scanned, starts_short base tracks.short, List.append_nil] at ahead
  exact ahead

theorem receive_receipts (calls : List Call) :
    (receive calls).2.map receiptOf = (frameStarts (fed calls)).mapIdx (due (fed calls) (stamped calls)) := by
  obtain ⟨found, base, tracks⟩ := tracks_receive calls
  rw [tracks.all]
  exact tracks.published

theorem frameStarts_pass {stream : List Byte} {start : Nat} (found : start ∈ frameStarts stream) :
    start + 7 ≤ stream.length ∧ formsFrame ((stream.drop start).take 7) = true := by
  obtain ⟨offset, same, inside, good⟩ := starts_pass (by decide : 0 < frameLength) found
  rw [Nat.zero_add] at same
  rw [same]
  exact ⟨inside, good⟩

/-! ### The latest snapshot -/

def Shows (p : Published) : Prop :=
  (p.2.getLast?.map receiptOf).getD (receiptOf cleared.snapshot) = receiptOf p.1.snapshot

theorem Shows.step (shows_ : Shows p) (byte : Byte) (receivedAtMs : U32) : Shows (advance receivedAtMs p byte) := by
  unfold Shows at shows_ ⊢
  unfold advance processByte
  by_cases skipped : p.1.frame.length = 0 ∧ byte ≠ frameHeader
  · rw [if_pos skipped]
    simp only [List.append_nil]
    exact shows_
  rw [if_neg skipped]
  dsimp only
  by_cases full : (p.1.frame ++ [byte]).length = frameLength
  · rw [if_pos full]
    unfold processFrame
    dsimp only
    cases decodeFrame (p.1.frame ++ [byte]) with
    | ok counts =>
      simp only [List.getLast?_concat]
      rfl
    | error result =>
      simp only [List.append_nil]
      cases result <;> exact shows_
  · rw [if_neg full]
    simp only [List.append_nil]
    exact shows_

theorem Shows.run (shows_ : Shows p) (bytes : List Byte) (receivedAtMs : U32) :
    Shows (processBytes receivedAtMs bytes p) := by
  unfold processBytes
  induction bytes generalizing p with
  | nil => exact shows_
  | cons byte later ih => exact ih (shows_.step byte receivedAtMs)

theorem shows_receive (calls : List Call) : Shows (receive calls) := by
  induction calls using List.reverseRecOn with
  | nil => rfl
  | append_singleton calls call ih =>
    unfold receive at ih ⊢
    rw [List.foldl_append, List.foldl_cons, List.foldl_nil]
    exact ih.run call.bytes call.receivedAtMs

/-- The snapshot is of the stream's last frame, or there is none. -/
theorem snapshot_due (calls : List Call) :
    (frameStarts (fed calls) = [] ∧ (receive calls).1.snapshot.sampleSequence = 0) ∨
      ∃ start ∈ frameStarts (fed calls), ∃ index,
        receiptOf (receive calls).1.snapshot = due (fed calls) (stamped calls) index start := by
  have shown := shows_receive calls
  have published := receive_receipts calls
  unfold Shows at shown
  rw [← List.getLast?_map, published] at shown
  cases last : ((frameStarts (fed calls)).mapIdx (due (fed calls) (stamped calls))).getLast? with
  | none =>
    left
    rw [last] at shown
    have none_ := List.getLast?_eq_none_iff.mp last
    rw [List.mapIdx_eq_nil_iff] at none_
    exact ⟨none_, (congrArg Receipt.sampleSequence shown).symm⟩
  | some receipt =>
    right
    rw [last] at shown
    obtain ⟨index, within, same⟩ := List.mem_mapIdx.mp (List.mem_of_getLast? last)
    exact ⟨_, List.getElem_mem within, index, shown.symm.trans same.symm⟩

/-! ### The contract -/

/-- The counters of a receiver that was fed `total` bytes and published `count` frames. They wrap. -/
def Accounted (total count : Nat) (r : PressureReceiver) : Prop :=
  r.snapshot.sampleSequence = BitVec.ofNat 64 count ∧ r.snapshot.validFrameCount = BitVec.ofNat 32 count ∧
    ∃ dropped, total = 7 * count + dropped + r.frame.length ∧
      r.snapshot.droppedResyncByteCount = BitVec.ofNat 32 dropped

/-- Frame reception is the greedy scan of the bytes fed, in whatever calls. -/
theorem reception_contract (calls : List Call) :
    (receive calls).2.map receiptOf = (frameStarts (fed calls)).mapIdx (due (fed calls) (stamped calls)) ∧
      (∀ position, position + 7 ≤ (fed calls).length →
        formsFrame (((fed calls).drop position).take 7) = true →
        position ∈ frameStarts (fed calls) ∨
          ∃ start ∈ frameStarts (fed calls), start < position ∧ position < start + 7) ∧
      ((receive calls).1.frame = [] ∨ byteAt (receive calls).1.frame 0 = 0xFD) ∧
      (receive calls).1.frame.length < 7 ∧
      Accounted (fed calls).length (frameStarts (fed calls)).length (receive calls).1 := by
  obtain ⟨found, base, tracks⟩ := tracks_receive calls
  have total := tracks.total
  obtain ⟨dropped, split, counted⟩ := tracks.dropped
  refine ⟨receive_receipts calls, ?_⟩
  rw [tracks.all]
  refine ⟨?_, tracks.headed, tracks.short, tracks.sequence, tracks.valid, dropped, by omega, counted⟩
  intro position inside good
  obtain ⟨start, taken, low, high⟩ := covered (by decide : 0 < frameLength) 0 inside good
  rw [← tracks.all]
  simp only [frameLength, Nat.zero_add] at low high
  rcases Nat.eq_or_lt_of_le low with same | before
  · left
    rw [← same]
    exact taken
  · exact Or.inr ⟨start, taken, before, high⟩

/-! ### The counters wrap -/

theorem processBytes_silence (count : Nat) (receivedAtMs : U32) (p : Published) (empty : p.1.frame = []) :
    (processBytes receivedAtMs (List.replicate count 0) p).1.frame = [] ∧
      (processBytes receivedAtMs (List.replicate count 0) p).1.snapshot.validFrameCount =
        p.1.snapshot.validFrameCount := by
  unfold processBytes
  induction count generalizing p with
  | zero => exact ⟨empty, rfl⟩
  | succ count ih =>
    have skipped : p.1.frame.length = 0 ∧ (0 : Byte) ≠ frameHeader := ⟨by rw [empty]; rfl, by decide⟩
    have first : advance receivedAtMs p 0 = ({ p.1 with snapshot := skipByte p.1.snapshot }, p.2) := by
      unfold advance processByte
      rw [if_pos skipped]
      dsimp only
      rw [List.append_nil]
    rw [List.replicate_succ, List.foldl_cons, first]
    exact ih _ empty

def silence (half : Nat) : List Call := [⟨List.replicate half 0, 0⟩, ⟨List.replicate half 0, 1⟩]

theorem silence_received (half : Nat) :
    (fed (silence half)).length = half + half ∧ (receive (silence half)).1.frame = [] ∧
      (receive (silence half)).1.snapshot.validFrameCount.toNat = 0 := by
  have first := processBytes_silence half 0 (cleared, []) rfl
  have second := processBytes_silence half 1 _ first.1
  refine ⟨?_, second.1, congrArg BitVec.toNat (second.2.trans first.2)⟩
  simp only [fed, silence, List.flatMap_cons, List.flatMap_nil, List.append_nil, List.length_append,
    List.length_replicate]

/-- No value of the 32-bit count of dropped bytes accounts for `2 ^ 32` of them. -/
theorem silence_unaccounted :
    (fed (silence (2 ^ 31))).length ≠
      7 * (receive (silence (2 ^ 31))).1.snapshot.validFrameCount.toNat +
        (receive (silence (2 ^ 31))).1.snapshot.droppedResyncByteCount.toNat +
        (receive (silence (2 ^ 31))).1.frame.length := by
  obtain ⟨length, empty, count⟩ := silence_received (2 ^ 31)
  have bound := (receive (silence (2 ^ 31))).1.snapshot.droppedResyncByteCount.isLt
  rw [length, empty, count, List.length_nil]
  omega

end Sd700.Pressure.Reception
