import Sd700.Logic.ShiftRegister
import Sd700.Modbus.Server

/-! What the CRC of the Modbus frames detects: a frame with its CRC leaves nothing, and no flip of bits within
sixteen consecutive places does. -/

namespace Sd700.Modbus.Crc
open Build.Contract Server Logic.ShiftRegister

def transmitted (bytes : List Byte) : List Bool :=
  bytes.flatMap fun byte => (List.range 8).map fun i => byte.getLsbD i

def flip (bytes flips : List Byte) : List Byte := List.zipWith (· ^^^ ·) bytes flips

/-- Some bits, all within sixteen consecutive places. -/
def Burst (flips : List Byte) : Prop :=
  (∃ i : Nat, (transmitted flips)[i]? = some true) ∧
    ∃ start, ∀ i : Nat, (transmitted flips)[i]? = some true → start ≤ i ∧ i < start + 16

/-- The check of `FirstFrameCrcIsValid`, for a frame of any length. -/
def crcIsValid (frame : List Byte) : Bool :=
  crc16 (frame.take (frame.length - 2)) = byteAt frame (frame.length - 1) ++ byteAt frame (frame.length - 2)

def polynomial : U16 := 0xA001

theorem crcBit_eq (crc : U16) : crcBit crc = step polynomial crc := by
  have parity : crc &&& 1 ≠ 0 ↔ crc.getLsbD 0 = true := by
    have masked : crc &&& 1 = (BitVec.ofBool (crc.getLsbD 0)).setWidth 16 :=
      BitVec.and_one_eq_setWidth_ofBool_getLsbD
    rw [masked]
    cases crc.getLsbD 0 <;> decide
  unfold crcBit step
  by_cases odd : crc.getLsbD 0 = true
  · rw [if_pos (parity.mpr odd), if_pos odd]
    rfl
  · rw [if_neg fun set_ => odd (parity.mp set_), if_neg odd]

theorem transmitted_append (first second : List Byte) :
    transmitted (first ++ second) = transmitted first ++ transmitted second := List.flatMap_append

theorem length_transmitted (bytes : List Byte) : (transmitted bytes).length = 8 * bytes.length := by
  induction bytes with
  | nil => rfl
  | cons byte later ih =>
    have split : transmitted (byte :: later) = transmitted [byte] ++ transmitted later :=
      transmitted_append [byte] later
    have eight : (transmitted [byte]).length = 8 := by simp [transmitted]
    rw [split, List.length_append, ih, eight, List.length_cons]
    omega

theorem word_transmitted (byte : Byte) : (word (transmitted [byte]) : U16) = byte.setWidth 16 := by
  apply BitVec.eq_of_getLsbD_eq
  intro i inside
  rw [word_getLsbD, BitVec.getLsbD_setWidth]
  simp only [transmitted, List.flatMap_cons, List.flatMap_nil, List.append_nil, List.getD_eq_getElem?_getD,
    List.getElem?_map]
  by_cases small : i < 8
  · simp [inside, small]
  · simp [inside, small, BitVec.getLsbD_of_ge byte i (by omega)]

theorem crcByte_eq (crc : U16) (byte : Byte) : crcByte crc byte = feed polynomial (transmitted [byte]) crc := by
  have eight : (transmitted [byte]).length = 8 := by rw [length_transmitted]; rfl
  have same : crcBit = step polynomial := funext crcBit_eq
  rw [feed_eq_iterate polynomial _ (by omega), word_transmitted, eight]
  unfold crcByte
  rw [same]

theorem crcBytes_eq (data : List Byte) (crc : U16) :
    data.foldl crcByte crc = feed polynomial (transmitted data) crc := by
  induction data generalizing crc with
  | nil => rfl
  | cons byte later ih =>
    have split : transmitted (byte :: later) = transmitted [byte] ++ transmitted later :=
      transmitted_append [byte] later
    rw [List.foldl_cons, ih, crcByte_eq, split, feed_append]

theorem crc16_eq {data : List Byte} (nonempty : data ≠ []) :
    crc16 data = feed polynomial (transmitted data) 0xFFFF := by
  unfold crc16
  rw [if_neg nonempty]
  apply crcBytes_eq

/-! ### The residue -/

theorem word_pair (first second : Byte) : (word (transmitted [first, second]) : U16) = second ++ first := by
  apply BitVec.eq_of_getLsbD_eq
  intro i inside
  rw [word_getLsbD, BitVec.getLsbD_append]
  simp only [transmitted, List.flatMap_cons, List.flatMap_nil, List.append_nil, List.getD_eq_getElem?_getD]
  by_cases low_ : i < 8
  · rw [List.getElem?_append_left (by simpa using low_)]
    simp [inside, low_]
  · have high : i - 8 < 8 := by omega
    rw [List.getElem?_append_right (by simpa using low_)]
    simp [inside, low_, high]

/-- A frame is clean exactly when its last two bytes are the CRC of those before. -/
theorem crc16_append {data : List Byte} (nonempty : data ≠ []) (first second : Byte) :
    crc16 (data ++ [first, second]) = 0 ↔ crc16 data = second ++ first := by
  have sixteen : (transmitted [first, second]).length = 16 := by
    rw [length_transmitted]
    rfl
  have whole : crc16 (data ++ [first, second]) = (step polynomial)^[16] (crc16 data ^^^ (second ++ first)) := by
    rw [crc16_eq (by simp), transmitted_append, feed_append, ← crc16_eq nonempty,
      feed_eq_iterate polynomial _ (le_of_eq sixteen), sixteen, word_pair]
  rw [whole]
  constructor
  · intro clean
    exact BitVec.xor_eq_zero_iff.mp (iterate_eq_zero polynomial (by decide) clean)
  · intro matches_
    rw [matches_, BitVec.xor_self]
    apply iterate_zero

theorem split_last {frame : List Byte} (long : 3 ≤ frame.length) :
    ∃ data first second, data ≠ [] ∧ frame = data ++ [first, second] := by
  refine ⟨frame.take (frame.length - 2), byteAt frame (frame.length - 2), byteAt frame (frame.length - 1), ?_, ?_⟩
  · apply List.ne_nil_of_length_pos
    rw [List.length_take]
    omega
  · have tail : frame.drop (frame.length - 2) =
        [byteAt frame (frame.length - 2), byteAt frame (frame.length - 1)] := by
      rw [List.drop_eq_getElem_cons (by omega), List.drop_eq_getElem_cons (by omega), List.drop_of_length_le (by omega)]
      have next : frame.length - 2 + 1 = frame.length - 1 := by omega
      simp only [byteAt, next]
      rw [List.getD_eq_getElem _ _ (by omega), List.getD_eq_getElem _ _ (by omega)]
    rw [← tail, List.take_append_drop]

theorem crcIsValid_iff {frame : List Byte} (long : 3 ≤ frame.length) :
    crcIsValid frame = true ↔ crc16 frame = 0 := by
  obtain ⟨data, first, second, nonempty, rfl⟩ := split_last long
  have length : (data ++ [first, second]).length = data.length + 2 := by simp
  unfold crcIsValid byteAt
  rw [length, Nat.add_sub_cancel, List.take_left', decide_eq_true_iff, crc16_append nonempty,
    List.getD_append_right _ _ _ _ (by omega), List.getD_append_right _ _ _ _ (Nat.le_refl _)]
  · have last : data.length + 2 - 1 - data.length = 1 := by omega
    rw [last, Nat.sub_self]
    rfl
  · rfl

theorem crc16_appendCrc {data : List Byte} (nonempty : data ≠ []) : crc16 (appendCrc data) = 0 := by
  unfold appendCrc
  apply (crc16_append nonempty _ _).mpr
  apply BitVec.eq_of_getLsbD_eq
  intro i inside
  rw [BitVec.getLsbD_append]
  by_cases low_ : i < 8
  · simp [low_]
  · have high : i - 8 < 8 := by omega
    have place : 8 + (i - 8) = i := by omega
    simp [low_, high, place]

theorem transmitted_flip {frame flips : List Byte} (same : flips.length = frame.length) :
    transmitted (flip frame flips) = List.zipWith xor (transmitted frame) (transmitted flips) := by
  induction frame generalizing flips with
  | nil =>
    rw [List.eq_nil_of_length_eq_zero same]
    rfl
  | cons byte later ih =>
    cases flips with
    | nil => contradiction
    | cons flipped others =>
      have split : transmitted (flip (byte :: later) (flipped :: others)) =
          transmitted [byte ^^^ flipped] ++ transmitted (flip later others) :=
        transmitted_append [byte ^^^ flipped] (flip later others)
      have one : transmitted [byte ^^^ flipped] = List.zipWith xor (transmitted [byte]) (transmitted [flipped]) := by
        simp [transmitted, List.zipWith_map]
      have front : transmitted (byte :: later) = transmitted [byte] ++ transmitted later :=
        transmitted_append [byte] later
      have back : transmitted (flipped :: others) = transmitted [flipped] ++ transmitted others :=
        transmitted_append [flipped] others
      rw [split, one, ih (Nat.succ_inj.mp same), front, back, List.zipWith_append]
      rw [length_transmitted, length_transmitted]
      rfl

theorem crc16_flip {frame flips : List Byte} (nonempty : frame ≠ []) (same : flips.length = frame.length) :
    crc16 (flip frame flips) = crc16 frame ^^^ feed polynomial (transmitted flips) 0 := by
  have some_ : flip frame flips ≠ [] := by
    apply List.ne_nil_of_length_pos
    have positive := List.length_pos_of_ne_nil nonempty
    rw [flip, List.length_zipWith, same, Nat.min_self]
    exact positive
  have lengths : (transmitted flips).length = (transmitted frame).length := by
    rw [length_transmitted, length_transmitted, same]
  rw [crc16_eq some_, crc16_eq nonempty, transmitted_flip same, ← feed_xor polynomial _ _ lengths]
  congr 1

theorem burst_leaves {flips : List Byte} (burst : Burst flips) : feed polynomial (transmitted flips) 0 ≠ 0 := by
  obtain ⟨⟨i, set_⟩, start, confined⟩ := burst
  generalize transmitted flips = bits at set_ confined ⊢
  have clear : ∀ j : Nat, ¬(start ≤ j ∧ j < start + 16) → ∀ within : j < bits.length, bits[j] = false := by
    intro j outside within
    by_contra other
    rw [Bool.not_eq_false] at other
    exact outside (confined j (by rw [List.getElem?_eq_getElem within, other]))
  have inside : i < bits.length := (List.getElem?_eq_some_iff.mp set_).1
  have bounds := confined i set_
  have before : bits.take start = List.replicate start false := by
    apply List.ext_getElem
    · rw [List.length_take, List.length_replicate]
      omega
    · intro j first second
      rw [List.length_replicate] at second
      rw [List.getElem_take, List.getElem_replicate, clear j (by omega)]
  have after : bits.drop (start + 16) = List.replicate (bits.length - (start + 16)) false := by
    apply List.ext_getElem
    · rw [List.length_drop, List.length_replicate]
    · intro j first second
      rw [List.getElem_drop, List.getElem_replicate, clear _ (by omega)]
  have split : bits = List.replicate start false ++ (bits.drop start).take 16 ++
      List.replicate (bits.length - (start + 16)) false := by
    rw [← before, ← after, List.append_assoc, ← List.drop_drop, List.take_append_drop, List.take_append_drop]
  have member : true ∈ (bits.drop start).take 16 := by
    have hit : ((bits.drop start).take 16)[i - start]? = some true := by
      have place : start + (i - start) = i := by omega
      rw [List.getElem?_take_of_lt (by omega), List.getElem?_drop, place]
      exact set_
    exact List.mem_of_getElem? hit
  rw [split]
  apply feed_burst polynomial (by decide) start _ _ member
  rw [List.length_take]
  omega

theorem firstFrameCrcIsValid_eq {frame : List Byte} (eight : frame.length = 8) :
    firstFrameCrcIsValid frame = crcIsValid frame := by
  unfold firstFrameCrcIsValid crcIsValid
  rw [eight]

/-- A frame with its CRC is clean and passes, and none with a burst of flipped bits does. -/
theorem crc_law (data : List Byte) (nonempty : data ≠ []) :
    crc16 (appendCrc data) = 0 ∧
      (data.length = 6 → firstFrameCrcIsValid (appendCrc data) = true) ∧
      ∀ flips : List Byte, flips.length = (appendCrc data).length → Burst flips →
        crc16 (flip (appendCrc data) flips) ≠ 0 ∧ crcIsValid (flip (appendCrc data) flips) = false ∧
          (data.length = 6 → firstFrameCrcIsValid (flip (appendCrc data) flips) = false) := by
  have clean := crc16_appendCrc nonempty
  have length : (appendCrc data).length = data.length + 2 := by simp [appendCrc]
  have positive := List.length_pos_of_ne_nil nonempty
  refine ⟨clean, ?_, ?_⟩
  · intro six
    rw [firstFrameCrcIsValid_eq (by omega)]
    exact (crcIsValid_iff (by omega)).mpr clean
  · intro flips same burst
    have flipped : (flip (appendCrc data) flips).length = data.length + 2 := by
      rw [flip, List.length_zipWith, same, Nat.min_self, length]
    have left : crc16 (flip (appendCrc data) flips) ≠ 0 := by
      have alone := crc16_flip (List.ne_nil_of_length_pos (by omega)) same
      rw [clean, BitVec.ofNat_eq_ofNat, BitVec.zero_xor] at alone
      rw [alone]
      exact burst_leaves burst
    have caught : crcIsValid (flip (appendCrc data) flips) = false := by
      rw [← Bool.not_eq_true, crcIsValid_iff (by omega)]
      exact left
    refine ⟨left, caught, fun six => ?_⟩
    rw [firstFrameCrcIsValid_eq (by omega)]
    exact caught

/-- The STOP request with sixteen bits flipped, half a byte into its third. -/
theorem crc_law_stop :
    crc16 (appendCrc [1, 5, 0, 1, 0, 0]) = 0 ∧ firstFrameCrcIsValid (appendCrc [1, 5, 0, 1, 0, 0]) = true ∧
      firstFrameCrcIsValid (flip (appendCrc [1, 5, 0, 1, 0, 0]) [0, 0, 0xF0, 0xFF, 0x0F, 0, 0, 0]) = false := by
  have law := crc_law [1, 5, 0, 1, 0, 0] (by decide)
  have burst : Burst [0, 0, 0xF0, 0xFF, 0x0F, 0, 0, 0] := by
    have all : ∀ i < 64, (transmitted [0, 0, 0xF0, 0xFF, 0x0F, 0, 0, 0])[i]? = some true → 20 ≤ i ∧ i < 20 + 16 := by
      decide
    refine ⟨⟨20, by decide⟩, 20, fun i set_ => ?_⟩
    exact all i (List.getElem?_eq_some_iff.mp set_).1 set_
  exact ⟨law.1, law.2.1 rfl, (law.2.2 _ (by decide) burst).2.2 rfl⟩

end Sd700.Modbus.Crc
