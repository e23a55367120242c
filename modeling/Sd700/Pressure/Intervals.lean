import Mathlib.Order.Nat
import Sd700.Logic.Extremes
import Sd700.Pressure.Reception

/-! The interval statistics of the receiver: what `frame_interval_min_ms` and `frame_interval_max_ms` are of
the intervals between the valid frames of a stream. -/

namespace Sd700.Pressure.Intervals
open Build.Contract Receiver Reception Logic.Extremes

def arrivals (calls : List Call) : List U32 :=
  (frameStarts (fed calls)).map fun start => (stamped calls).getD (start + 6) 0

/-- The time from each frame to the next, modulo `2 ^ 32`. -/
def intervals : List U32 → List Nat
  | earlier :: later :: times => (later - earlier).toNat :: intervals (later :: times)
  | _ => []

/-- The intervals the receiver looks at: all but those that end when `valid_frame_count` has wrapped to 0. -/
def noted (times : List U32) : List Nat :=
  (intervals times).zipIdx.filterMap fun entry => if BitVec.ofNat 32 (entry.2 + 1) = 0 then none else some entry.1

def Exact (times : List U32) (s : Snapshot) : Prop :=
  IsLeast {x | x ∈ intervals times} s.frameIntervalMinMs.toNat ∧
    IsGreatest {x | x ∈ intervals times} s.frameIntervalMaxMs.toNat

/-- Where a noted interval is zero the last noted one is, and the noted intervals reach as low and as high as all of
them. -/
def Regular (times : List U32) : Prop :=
  (0 ∈ noted times → (noted times).getLast? = some 0) ∧
    ∀ x ∈ intervals times, (∃ y ∈ noted times, y ≤ x) ∧ ∃ y ∈ noted times, x ≤ y

/-! ### Intervals -/

variable {times : List U32} {time last : U32} {p : Published} {s : Snapshot}

theorem intervals_concat (final : times.getLast? = some last) :
    intervals (times ++ [time]) = intervals times ++ [(time - last).toNat] := by
  induction times with
  | nil => contradiction
  | cons earlier later ih =>
    cases later with
    | nil =>
      simp only [List.getLast?_singleton, Option.some_inj] at final
      simp [intervals, final]
    | cons next rest =>
      rw [List.getLast?_cons_cons] at final
      have grown := ih final
      simp only [List.cons_append, intervals] at grown ⊢
      rw [grown]

theorem length_intervals (times : List U32) : (intervals times).length = times.length - 1 := by
  induction times with
  | nil => rfl
  | cons earlier later ih =>
    cases later with
    | nil => rfl
    | cons next rest =>
      simp only [intervals, List.length_cons] at ih ⊢
      omega

theorem noted_concat (final : times.getLast? = some last) :
    noted (times ++ [time]) =
      noted times ++ if BitVec.ofNat 32 times.length = 0 then [] else [(time - last).toNat] := by
  have nonempty : times ≠ [] := by
    intro empty
    rw [empty] at final
    contradiction
  have counted : 0 + (intervals times).length + 1 = times.length := by
    have length := length_intervals times
    have positive := List.length_pos_of_ne_nil nonempty
    omega
  unfold noted
  rw [intervals_concat final, List.zipIdx_append, List.filterMap_append]
  apply congrArg (_ ++ ·)
  rw [List.zipIdx_singleton, List.filterMap_cons, List.filterMap_nil]
  dsimp only
  rw [counted]
  by_cases wrapped : BitVec.ofNat 32 times.length = 0
  · rw [if_pos wrapped, if_pos wrapped]
  · rw [if_neg wrapped, if_neg wrapped]

theorem noted_subset (times : List U32) : ∀ x ∈ noted times, x ∈ intervals times := by
  intro x member
  obtain ⟨entry, listed, kept⟩ := List.mem_filterMap.mp member
  split at kept
  · contradiction
  · rw [← Option.some_inj.mp kept]
    exact List.fst_mem_of_mem_zipIdx listed

theorem noted_ne_nil (two : 2 ≤ times.length) : noted times ≠ [] := by
  match times, two with
  | earlier :: later :: rest, _ =>
    unfold noted
    rw [intervals, List.zipIdx_cons, List.filterMap_cons]
    simp

/-! ### The statistics -/

structure Tallies (p : Published) : Prop where
  count : p.1.snapshot.validFrameCount = BitVec.ofNat 32 p.2.length
  last : ∀ s, p.2.getLast? = some s → p.1.snapshot.lastValidFrameMs = s.receivedAtMs
  least : p.1.snapshot.frameIntervalMinMs.toNat = leastOf (noted (p.2.map Snapshot.receivedAtMs))
  most : p.1.snapshot.frameIntervalMaxMs.toNat = mostOf (noted (p.2.map Snapshot.receivedAtMs))

def Quiet (s t : Snapshot) : Prop :=
  t.validFrameCount = s.validFrameCount ∧ t.lastValidFrameMs = s.lastValidFrameMs ∧
    t.frameIntervalMinMs = s.frameIntervalMinMs ∧ t.frameIntervalMaxMs = s.frameIntervalMaxMs

theorem Quiet.refl (s : Snapshot) : Quiet s s := ⟨rfl, rfl, rfl, rfl⟩

theorem countFrameError_quiet (result : FrameResult) (s : Snapshot) : Quiet s (countFrameError result s) := by
  unfold countFrameError
  split <;> exact Quiet.refl s

theorem processByte_cases (receivedAtMs : U32) (r : PressureReceiver) (byte : Byte) :
    ((processByte receivedAtMs r byte).2 = [] ∧
        Quiet r.snapshot (processByte receivedAtMs r byte).1.snapshot) ∨
      ∃ counts frame s, Quiet r.snapshot s ∧
        processByte receivedAtMs r byte =
          (⟨frame, publishValidFrame counts receivedAtMs s⟩, [publishValidFrame counts receivedAtMs s]) := by
  unfold processByte
  by_cases skipped : r.frame.length = 0 ∧ byte ≠ frameHeader
  · rw [if_pos skipped]
    exact Or.inl ⟨rfl, Quiet.refl _⟩
  rw [if_neg skipped]
  dsimp only
  by_cases full : (r.frame ++ [byte]).length = frameLength
  · rw [if_pos full]
    unfold processFrame
    dsimp only
    cases decoded : decodeFrame (r.frame ++ [byte]) with
    | error result => exact Or.inl ⟨rfl, countFrameError_quiet result r.snapshot⟩
    | ok counts => exact Or.inr ⟨counts, [], { r.snapshot with lastValidFrame := r.frame ++ [byte] }, ⟨rfl, rfl, rfl, rfl⟩, rfl⟩
  · rw [if_neg full]
    exact Or.inl ⟨rfl, Quiet.refl _⟩

theorem tallies_cleared : Tallies (cleared, []) where
  count := rfl
  last := fun _ final => nomatch final
  least := rfl
  most := rfl

theorem keepLeast_toNat (least interval : U32) :
    (if least = 0 ∨ interval.ult least then interval else least).toNat = keepLeast least.toNat interval.toNat := by
  have unset : least = 0 ↔ least.toNat = ⊥ := by
    rw [← BitVec.toNat_inj]
    rfl
  unfold keepLeast
  by_cases taken : least = 0 ∨ interval.ult least
  · rw [if_pos taken, if_pos]
    exact taken.imp unset.mp of_decide_eq_true
  · rw [if_neg taken, if_neg]
    intro kept
    exact taken (kept.imp unset.mpr decide_eq_true)

theorem keepMost_toNat (most interval : U32) :
    (if most.ult interval then interval else most).toNat = max most.toNat interval.toNat := by
  rw [max_def_lt]
  by_cases taken : most.ult interval
  · rw [if_pos taken, if_pos (of_decide_eq_true taken)]
  · rw [if_neg taken, if_neg]
    intro above
    exact taken (decide_eq_true above)

theorem noted_first (times : List U32) (few : times.length < 2) : noted times = [] := by
  have length := length_intervals times
  have empty : intervals times = [] := List.eq_nil_of_length_eq_zero (by omega)
  unfold noted
  rw [empty]
  rfl

/-- A valid frame notes the interval since the one before, unless the count of frames is 0. -/
theorem Tallies.publish (tallies : Tallies p) (quiet : Quiet p.1.snapshot s) (counts : U16) (receivedAtMs : U32)
    (frame : List Byte) :
    Tallies (⟨frame, publishValidFrame counts receivedAtMs s⟩,
      p.2 ++ [publishValidFrame counts receivedAtMs s]) := by
  obtain ⟨count, last, least, most⟩ := quiet
  have times : (p.2 ++ [publishValidFrame counts receivedAtMs s]).map Snapshot.receivedAtMs =
      p.2.map Snapshot.receivedAtMs ++ [receivedAtMs] := by
    rw [List.map_append]
    rfl
  have counted : s.validFrameCount = BitVec.ofNat 32 p.2.length := count.trans tallies.count
  have bounds : (noteInterval receivedAtMs s).frameIntervalMinMs.toNat =
        leastOf (noted (p.2.map Snapshot.receivedAtMs ++ [receivedAtMs])) ∧
      (noteInterval receivedAtMs s).frameIntervalMaxMs.toNat =
        mostOf (noted (p.2.map Snapshot.receivedAtMs ++ [receivedAtMs])) := by
    cases final : p.2.getLast? with
    | none =>
      have empty : p.2 = [] := List.getLast?_eq_none_iff.mp final
      have first : s.validFrameCount = 0 := by
        rw [counted, empty]
        rfl
      have kept : noteInterval receivedAtMs s = s := if_neg fun nonzero => nonzero first
      have before := tallies.least
      have above := tallies.most
      rw [empty, List.map_nil, noted_first [] (by decide)] at before above
      rw [kept, least, most, empty, List.map_nil, List.nil_append, noted_first [receivedAtMs] (Nat.lt_succ_self 1)]
      exact ⟨before, above⟩
    | some previous =>
      have since : s.lastValidFrameMs = previous.receivedAtMs := last.trans (tallies.last previous final)
      have ends : (p.2.map Snapshot.receivedAtMs).getLast? = some previous.receivedAtMs := by
        rw [List.getLast?_map, final]
        rfl
      rw [noted_concat ends, List.length_map, ← counted]
      unfold noteInterval
      by_cases wrapped : s.validFrameCount = 0
      · rw [if_neg fun nonzero => nonzero wrapped, if_pos wrapped, List.append_nil, least, most]
        exact ⟨tallies.least, tallies.most⟩
      · rw [if_pos wrapped, if_neg wrapped, leastOf_concat, mostOf_concat]
        dsimp only
        rw [keepLeast_toNat, keepMost_toNat, since, least, most, tallies.least, tallies.most]
        exact ⟨rfl, rfl⟩
  refine ⟨?_, ?_, ?_, ?_⟩
  · simp only [publishValidFrame, noteInterval_count, counted, List.length_append, List.length_singleton,
      BitVec.ofNat_add]
    rfl
  · intro final found
    rw [List.getLast?_concat, Option.some_inj] at found
    rw [← found]
    rfl
  · rw [times]
    exact bounds.1
  · rw [times]
    exact bounds.2

theorem Tallies.step (tallies : Tallies p) (receivedAtMs : U32) (byte : Byte) :
    Tallies (advance receivedAtMs p byte) := by
  unfold advance
  dsimp only
  rcases processByte_cases receivedAtMs p.1 byte with ⟨silent, quiet⟩ | ⟨counts, frame, s, quiet, published⟩
  · rw [silent, List.append_nil]
    obtain ⟨count, last, least, most⟩ := quiet
    refine ⟨count.trans tallies.count, fun s final => last.trans (tallies.last s final), ?_, ?_⟩
    · rw [least]
      exact tallies.least
    · rw [most]
      exact tallies.most
  · rw [published]
    exact tallies.publish quiet counts receivedAtMs frame

theorem Tallies.run (tallies : Tallies p) (receivedAtMs : U32) (bytes : List Byte) :
    Tallies (processBytes receivedAtMs bytes p) := by
  unfold processBytes
  induction bytes generalizing p with
  | nil => exact tallies
  | cons byte later ih =>
    rw [List.foldl_cons]
    exact ih (tallies.step receivedAtMs byte)

theorem tallies_receive (calls : List Call) : Tallies (receive calls) := by
  induction calls using List.reverseRecOn with
  | nil => exact tallies_cleared
  | append_singleton calls call ih =>
    unfold receive at ih ⊢
    rw [List.foldl_append, List.foldl_cons, List.foldl_nil]
    exact ih.run call.receivedAtMs call.bytes

/-- The times in the published snapshots are the arrivals of the frames. -/
theorem arrivals_eq (calls : List Call) : (receive calls).2.map Snapshot.receivedAtMs = arrivals calls := by
  have published := receive_receipts calls
  have length := congrArg List.length published
  rw [List.length_map, List.length_mapIdx] at length
  apply List.ext_getElem
  · rw [List.length_map, arrivals, List.length_map, length]
  · intro i inside within
    rw [List.length_map] at inside
    have receipt := List.getElem_of_eq published (by rw [List.length_map]; exact inside)
    rw [List.getElem_map, List.getElem_mapIdx] at receipt
    rw [List.getElem_map]
    simp only [arrivals, List.getElem_map]
    exact congrArg Receipt.receivedAtMs receipt

/-- The statistics are exact as long as the intervals are regular, and only then. -/
theorem interval_statistics (calls : List Call) (two : 2 ≤ (arrivals calls).length) :
    Exact (arrivals calls) (receive calls).1.snapshot ↔ Regular (arrivals calls) := by
  have tallies := tallies_receive calls
  have nonempty := noted_ne_nil two
  have within := noted_subset (arrivals calls)
  unfold Exact Regular
  rw [tallies.least, tallies.most, arrivals_eq, leastOf_isLeast_iff nonempty within,
    mostOf_isGreatest_iff nonempty within]
  constructor
  · rintro ⟨⟨last, low⟩, high⟩
    exact ⟨last, fun x member => ⟨low x member, high x member⟩⟩
  · rintro ⟨last, both⟩
    exact ⟨⟨last, fun x member => (both x member).1⟩, fun x member => (both x member).2⟩

def zeroFrame : List Byte := [0xFD, 0, 0, 0, 0, 0xFD, 0xFE]

def chunked : List Call := [⟨zeroFrame ++ zeroFrame, 30⟩, ⟨zeroFrame, 35⟩]

theorem chunked_arrivals : arrivals chunked = [30, 30, 35] := by
  rw [← arrivals_eq]
  decide +kernel

theorem interval_statistics_apart :
    Exact (arrivals [⟨zeroFrame, 30⟩, ⟨zeroFrame, 35⟩])
      (receive [⟨zeroFrame, 30⟩, ⟨zeroFrame, 35⟩]).1.snapshot := by
  have times : arrivals [⟨zeroFrame, 30⟩, ⟨zeroFrame, 35⟩] = [30, 35] := by
    rw [← arrivals_eq]
    decide +kernel
  apply (interval_statistics _ (by rw [times]; decide)).mpr
  rw [times]
  unfold Regular
  decide

/-- The zero between the first two frames is forgotten. -/
theorem chunked_inexact :
    2 ≤ (arrivals chunked).length ∧ ¬Exact (arrivals chunked) (receive chunked).1.snapshot := by
  constructor
  · rw [chunked_arrivals]
    decide
  · rintro ⟨least, _⟩
    have kept : (receive chunked).1.snapshot.frameIntervalMinMs.toNat = 5 := by decide +kernel
    have zero : 0 ∈ intervals (arrivals chunked) := by
      rw [chunked_arrivals]
      decide
    have below := least.2 zero
    omega

end Sd700.Pressure.Intervals
