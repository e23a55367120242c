import Sd700.Tools.Hex

/-! What `read_hex` accepts: the texts that write an image, and of those the image they write. -/

namespace Sd700.Tools.HexRecords
open Logic.Checks Python Hex

/-! ### Records -/

inductive Record
  | data (address : BitVec 16) (payload : List Byte)
  | endOfFile
  | linear (upper : BitVec 16)
  | start (entry : BitVec 32)
  deriving DecidableEq

/-- Length, address, kind, payload and the checksum that makes the sum 0. -/
def frame (kind : Byte) (address : BitVec 16) (payload : List Byte) : List Byte :=
  let body := BitVec.ofNat 8 payload.length :: address.extractLsb' 8 8 :: address.extractLsb' 0 8 :: kind :: payload
  body ++ [-body.sum]

def Record.octets : Record → List Byte
  | .data address payload => frame 0 address payload
  | .endOfFile => frame 1 0 []
  | .linear upper => frame 4 0 [upper.extractLsb' 8 8, upper.extractLsb' 0 8]
  | .start entry =>
    frame 5 0 [entry.extractLsb' 24 8, entry.extractLsb' 16 8, entry.extractLsb' 8 8, entry.extractLsb' 0 8]

def Record.Legal : Record → Prop
  | .data address payload => payload ≠ [] ∧ payload.length ≤ 255 ∧ address.toNat + payload.length ≤ 0x10000
  | _ => True

def Record.entry : Record → Option ℕ
  | .start entry => some entry.toNat
  | _ => none

def Record.writes (base : ℕ) : Record → List (Sigma fun _ : ℕ => Byte)
  | .data address payload => cells (base + address.toNat) payload
  | _ => []

def Record.rebased (base : ℕ) : Record → ℕ
  | .linear upper => upper.toNat <<< 16
  | _ => base

/-- The bytes some records put at addresses, each data record above the last linear address. -/
def written : ℕ → List Record → List (Sigma fun _ : ℕ => Byte)
  | _, [] => []
  | base, r :: records => r.writes base ++ written (r.rebased base) records

inductive Digits : List Byte → List Byte → Prop
  | nil : Digits [] []
  | cons {high low octet : Byte} {digits octets : List Byte} (upper : hexDigit high = some (octet.toNat / 16))
      (lower : hexDigit low = some (octet.toNat % 16)) (later : Digits digits octets) :
      Digits (high :: low :: digits) (octet :: octets)

def Spells (line octets : List Byte) : Prop := ∃ digits, line = colon :: digits ∧ Digits digits octets

/-- Records that write an image and an entry: legal ones, an end of file behind the others and nowhere else,
one start record, and every byte of the image once. -/
structure Encodes (image : Image Byte) (entry : ℕ) (records : List Record) : Prop where
  legal : ∀ r ∈ records, r.Legal
  ended : ∃ body, records = body ++ [.endOfFile] ∧ .endOfFile ∉ body
  bytes : image.entries = ↑(written 0 records)
  started : records.filterMap Record.entry = [entry]

/-! ### Digits -/

variable {line octets digits text : List Byte} {lines : List (List Byte)} {s t : HexState} {r : Record}

theorem hexDigit_lt {c : Byte} {value : ℕ} (digit : hexDigit c = some value) : value < 16 := by
  unfold hexDigit at digit
  split_ifs at digit <;> (have same := Option.some.inj digit; omega)

theorem Digits.read (spelled : Digits digits octets) :
    fromHex digits = octets ∧ digits.length = 2 * octets.length ∧
      (digits.all fun digit => (hexDigit digit).isSome) = true := by
  induction spelled with
  | nil => exact ⟨rfl, rfl, rfl⟩
  | @cons high low octet digits octets upper lower _ ih =>
    obtain ⟨same, length, all⟩ := ih
    refine ⟨?_, ?_, ?_⟩
    · rw [fromHex, same, upper, lower]
      dsimp only [Option.getD_some]
      rw [Nat.div_add_mod, BitVec.ofNat_toNat, BitVec.setWidth_eq]
    · simp only [List.length_cons, length]
      omega
    · simp [upper, lower, all]

theorem digits_fromHex (digits : List Byte) (even : digits.length % 2 = 0)
    (all : (digits.all fun digit => (hexDigit digit).isSome) = true) : Digits digits (fromHex digits) := by
  fun_induction fromHex digits with
  | case1 high low digits ih =>
    simp only [List.all_cons, Bool.and_eq_true] at all
    obtain ⟨isHigh, isLow, rest⟩ := all
    obtain ⟨upper, isUpper⟩ := Option.isSome_iff_exists.mp isHigh
    obtain ⟨lower, isLower⟩ := Option.isSome_iff_exists.mp isLow
    have small := hexDigit_lt isUpper
    have less := hexDigit_lt isLower
    have value : (BitVec.ofNat 8 (16 * upper + lower)).toNat = 16 * upper + lower := by
      rw [BitVec.toNat_ofNat]
      omega
    rw [isUpper, isLower]
    dsimp only [Option.getD_some]
    apply Digits.cons
    · rw [isUpper, value]
      congr 1
      omega
    · rw [isLower, value]
      congr 1
      omega
    · apply ih
      · simp only [List.length_cons] at even
        omega
      · exact rest
  | case2 digits odd =>
    match digits, odd, even with
    | [], _, _ => exact Digits.nil
    | high :: low :: more, odd, _ => exact absurd rfl (odd high low more)

/-! ### Frames -/

theorem sum_toNat (bytes : List Byte) : (bytes.map BitVec.toNat).sum % 256 = bytes.sum.toNat := by
  induction bytes with
  | nil => rfl
  | cons byte later ih =>
    rw [List.map_cons, List.sum_cons, List.sum_cons, BitVec.toNat_add, ← ih]
    omega

theorem checksum_iff (bytes : List Byte) : (bytes.map BitVec.toNat).sum &&& 255 = 0 ↔ bytes.sum = 0 := by
  have masked : (bytes.map BitVec.toNat).sum &&& 255 = bytes.sum.toNat := by
    rw [← sum_toNat]
    exact Nat.and_two_pow_sub_one_eq_mod _ 8
  rw [masked, ← BitVec.toNat_inj]
  rfl

theorem sum_concat (body : List Byte) (last : Byte) : (body ++ [last]).sum = body.sum + last := by
  rw [List.sum_append, List.sum_singleton]

theorem length_frame (kind : Byte) (address : BitVec 16) (payload : List Byte) :
    (frame kind address payload).length = payload.length + 5 := by
  simp [frame]

/-- What `read_hex` takes from the bytes of a frame. -/
theorem frame_read {kind : Byte} {address : BitVec 16} {payload : List Byte} (fits : payload.length ≤ 255) :
    (byteAt (frame kind address payload) 0).toNat = payload.length ∧
      byteAt (frame kind address payload) 3 = kind ∧
      fromBigEndian (((frame kind address payload).drop 1).take 2) = address.toNat ∧
      ((frame kind address payload).drop 4).dropLast = payload := by
  refine ⟨?_, rfl, ?_, ?_⟩
  · change (BitVec.ofNat 8 payload.length).toNat = payload.length
    rw [BitVec.toNat_ofNat]
    omega
  · change (0 * 256 + (address.extractLsb' 8 8).toNat) * 256 + (address.extractLsb' 0 8).toNat = address.toNat
    have below := address.isLt
    simp only [BitVec.extractLsb'_toNat, Nat.shiftRight_eq_div_pow]
    omega
  · change (payload ++ [_]).dropLast = payload
    exact List.dropLast_concat

theorem frame_checked (kind : Byte) (address : BitVec 16) (payload : List Byte) :
    ((frame kind address payload).map BitVec.toNat).sum &&& 255 = 0 := by
  rw [checksum_iff, frame, sum_concat, add_neg_cancel]

theorem exists_frame (long : 5 ≤ octets.length) (length : octets.length = (byteAt octets 0).toNat + 5)
    (sum : (octets.map BitVec.toNat).sum &&& 255 = 0) :
    ∃ kind address payload, payload.length ≤ 255 ∧ octets = frame kind address payload := by
  match octets, long with
  | size :: high :: low :: kind :: first :: more, _ =>
    have split := List.dropLast_concat_getLast (List.cons_ne_nil first more)
    generalize (first :: more).dropLast = payload at split
    generalize (first :: more).getLast _ = check at split
    rw [← split] at length sum ⊢
    have counted : payload.length = size.toNat := by
      simp only [byteAt, List.getD_cons_zero, List.length_cons, List.length_append, List.length_nil] at length
      omega
    have below := size.isLt
    refine ⟨kind, high ++ low, payload, by omega, ?_⟩
    have whole : (size :: high :: low :: kind :: payload).sum + check = 0 := by
      rw [checksum_iff] at sum
      exact (sum_concat (size :: high :: low :: kind :: payload) check).symm.trans sum
    have upper : (high ++ low).extractLsb' 8 8 = high :=
      (BitVec.extractLsb'_append_eq_of_le (by decide)).trans BitVec.extractLsb'_eq_self
    have lower : (high ++ low).extractLsb' 0 8 = low :=
      (BitVec.extractLsb'_append_eq_of_add_le (by decide)).trans BitVec.extractLsb'_eq_self
    rw [frame, upper, lower, counted, BitVec.ofNat_toNat, BitVec.setWidth_eq]
    rw [← eq_neg_of_add_eq_zero_right whole]
    rfl

/-! ### One line -/

theorem fullmatch_cons {c : Byte} : fullmatch (c :: digits) = true ↔
    c = colon ∧ digits ≠ [] ∧ (digits.all fun digit => (hexDigit digit).isSome) = true := by
  unfold fullmatch
  rw [decide_eq_true_iff]

theorem mayLoad_ok (a : ℕ) (image : Image Byte) : mayLoad a image = .ok () ↔ InFlash a ∧ a ∉ image := by
  unfold mayLoad
  rw [guard_ok, require_ok, require_ok]

/-- A line that gets through spells a frame, which is then taken. -/
theorem readLine_ok : readLine s line = .ok t ↔
    s.eof = false ∧ ∃ kind address payload, payload.length ≤ 255 ∧ Spells line (frame kind address payload) ∧
      takeRecord s payload.length kind address.toNat payload = .ok t := by
  unfold readLine
  simp only [guard_ok, require_ok]
  constructor
  · rintro ⟨going, shaped, odd, ⟨long, length⟩, sum, taken⟩
    obtain ⟨kind, address, payload, fits, octets⟩ := exists_frame long length sum
    refine ⟨going, kind, address, payload, fits, ?_, ?_⟩
    · match line, shaped, odd with
      | c :: digits, shaped, odd =>
        obtain ⟨headed, _, all⟩ := fullmatch_cons.mp shaped
        have even : digits.length % 2 = 0 := by
          rw [List.length_cons] at odd
          omega
        refine ⟨digits, ?_, ?_⟩
        · rw [headed]
        · rw [← octets]
          exact digits_fromHex digits even all
    · obtain ⟨size, same, placed, content⟩ := @frame_read kind address payload fits
      rw [octets, size, same, placed, content] at taken
      exact taken
  · rintro ⟨going, kind, address, payload, fits, ⟨digits, rfl, spelled⟩, taken⟩
    obtain ⟨same, length, all⟩ := spelled.read
    obtain ⟨size, kind_, placed, content⟩ := @frame_read kind address payload fits
    rw [length_frame] at length
    refine ⟨going, ?_, ?_, ?_, ?_, ?_⟩
    · rw [fullmatch_cons]
      refine ⟨rfl, ?_, all⟩
      rintro rfl
      rw [List.length_nil] at length
      omega
    · rw [List.length_cons]
      omega
    · rw [List.tail_cons, same, length_frame, size]
      omega
    · rw [List.tail_cons, same]
      exact frame_checked kind address payload
    · rw [List.tail_cons, same, size, kind_, placed, content]
      exact taken

/-! ### Integers in payloads -/

theorem fromBigEndian_two (upper : BitVec 16) :
    fromBigEndian [upper.extractLsb' 8 8, upper.extractLsb' 0 8] = upper.toNat := by
  have below := upper.isLt
  simp only [fromBigEndian, List.foldl_cons, List.foldl_nil, BitVec.extractLsb'_toNat, Nat.shiftRight_eq_div_pow]
  omega

theorem fromBigEndian_four (entry : BitVec 32) :
    fromBigEndian [entry.extractLsb' 24 8, entry.extractLsb' 16 8, entry.extractLsb' 8 8, entry.extractLsb' 0 8] =
      entry.toNat := by
  have below := entry.isLt
  simp only [fromBigEndian, List.foldl_cons, List.foldl_nil, BitVec.extractLsb'_toNat, Nat.shiftRight_eq_div_pow]
  omega

theorem extract_ofNat {w value place : ℕ} {byte : Byte} (there : value / 2 ^ place % 256 = byte.toNat)
    (fits : value < 2 ^ w) : (BitVec.ofNat w value).extractLsb' place 8 = byte := by
  apply BitVec.eq_of_toNat_eq
  rw [BitVec.extractLsb'_toNat, BitVec.toNat_ofNat, Nat.mod_eq_of_lt fits, Nat.shiftRight_eq_div_pow]
  exact there

theorem linear_octets (high low : Byte) : ∃ upper, (Record.linear upper).octets = frame 4 0 [high, low] := by
  have first := high.isLt
  have second := low.isLt
  refine ⟨BitVec.ofNat 16 (high.toNat * 256 + low.toNat), ?_⟩
  have upper : (BitVec.ofNat 16 (high.toNat * 256 + low.toNat)).extractLsb' 8 8 = high :=
    extract_ofNat (by omega) (by omega)
  have lower : (BitVec.ofNat 16 (high.toNat * 256 + low.toNat)).extractLsb' 0 8 = low :=
    extract_ofNat (by omega) (by omega)
  rw [Record.octets, upper, lower]

theorem start_octets (a b c d : Byte) : ∃ entry, (Record.start entry).octets = frame 5 0 [a, b, c, d] := by
  have first := a.isLt
  have second := b.isLt
  have third := c.isLt
  have fourth := d.isLt
  refine ⟨BitVec.ofNat 32 (((a.toNat * 256 + b.toNat) * 256 + c.toNat) * 256 + d.toNat), ?_⟩
  generalize joined : ((a.toNat * 256 + b.toNat) * 256 + c.toNat) * 256 + d.toNat = value
  have one : (BitVec.ofNat 32 value).extractLsb' 24 8 = a := extract_ofNat (by omega) (by omega)
  have two : (BitVec.ofNat 32 value).extractLsb' 16 8 = b := extract_ofNat (by omega) (by omega)
  have three : (BitVec.ofNat 32 value).extractLsb' 8 8 = c := extract_ofNat (by omega) (by omega)
  have four : (BitVec.ofNat 32 value).extractLsb' 0 8 = d := extract_ofNat (by omega) (by omega)
  rw [Record.octets, one, two, three, four]

/-! ### One record -/

def Takes (s : HexState) : Record → HexState → Prop
  | .data address payload, t =>
    (∀ cell ∈ cells (s.base + address.toNat) payload, InFlash cell.1) ∧
      ∃ image : Image Byte, image.entries = s.image.entries + ↑(cells (s.base + address.toNat) payload) ∧
        t = { s with image := image }
  | .endOfFile, t => t = { s with eof := true }
  | .linear upper, t => t = { s with base := upper.toNat <<< 16 }
  | .start entry, t => s.entry = none ∧ t = { s with entry := some entry.toNat }

theorem takeRecord_data {address : BitVec 16} {payload : List Byte} :
    takeRecord s payload.length 0 address.toNat payload = .ok t ↔
      (0 < payload.length ∧ address.toNat + payload.length ≤ 0x10000) ∧ Takes s (.data address payload) t := by
  unfold takeRecord
  rw [if_pos rfl, guard_ok, require_ok, bind_ok]
  apply and_congr_right
  intro _
  constructor
  · rintro ⟨image, stored, same⟩
    obtain ⟨allowed, entries⟩ := (write_ok mayLoad_ok).mp stored
    exact ⟨allowed, image, entries, (Except.ok.inj same).symm⟩
  · rintro ⟨allowed, image, entries, rfl⟩
    exact ⟨image, (write_ok mayLoad_ok).mpr ⟨allowed, entries⟩, rfl⟩

/-- A line gets through exactly when it spells a legal record and the file has not ended. -/
theorem readLine_iff : readLine s line = .ok t ↔
    s.eof = false ∧ ∃ r : Record, r.Legal ∧ Spells line r.octets ∧ Takes s r t := by
  rw [readLine_ok]
  apply and_congr_right
  intro _
  constructor
  · rintro ⟨kind, address, payload, fits, spelled, taken⟩
    by_cases data : kind = 0
    · rw [data] at spelled taken
      obtain ⟨⟨some_, within⟩, takes⟩ := takeRecord_data.mp taken
      exact ⟨.data address payload, ⟨List.ne_nil_of_length_pos some_, fits, within⟩, spelled, takes⟩
    unfold takeRecord at taken
    rw [if_neg data] at taken
    by_cases last : kind = 1
    · rw [if_pos last, guard_ok, require_ok] at taken
      obtain ⟨⟨empty, zero⟩, same⟩ := taken
      have none_ : payload = [] := List.eq_nil_of_length_eq_zero empty
      have low : address = 0 := BitVec.eq_of_toNat_eq zero
      rw [last, none_, low] at spelled
      exact ⟨.endOfFile, trivial, spelled, (Except.ok.inj same).symm⟩
    rw [if_neg last] at taken
    by_cases upper : kind = 4
    · rw [if_pos upper, guard_ok, require_ok] at taken
      obtain ⟨⟨two, zero⟩, same⟩ := taken
      have low : address = 0 := BitVec.eq_of_toNat_eq zero
      obtain ⟨a, b, rfl⟩ := List.length_eq_two.mp two
      obtain ⟨value, octets⟩ := linear_octets a b
      have read := fromBigEndian_two value
      have inside : [value.extractLsb' 8 8, value.extractLsb' 0 8] = [a, b] := by
        have content := congrArg (fun bytes => (bytes.drop 4).dropLast) octets
        rw [Record.octets] at content
        exact content
      rw [inside] at read
      rw [read] at same
      rw [upper, low, ← octets] at spelled
      exact ⟨.linear value, trivial, spelled, (Except.ok.inj same).symm⟩
    rw [if_neg upper] at taken
    by_cases begins : kind = 5
    · rw [if_pos begins, guard_ok, require_ok] at taken
      obtain ⟨⟨four, zero, unset⟩, same⟩ := taken
      have low : address = 0 := BitVec.eq_of_toNat_eq zero
      match payload, four with
      | [a, b, c, d], _ =>
        obtain ⟨value, octets⟩ := start_octets a b c d
        have read := fromBigEndian_four value
        have inside : [value.extractLsb' 24 8, value.extractLsb' 16 8, value.extractLsb' 8 8,
            value.extractLsb' 0 8] = [a, b, c, d] := by
          have content := congrArg (fun bytes => (bytes.drop 4).dropLast) octets
          rw [Record.octets] at content
          exact content
        rw [inside] at read
        rw [read] at same
        rw [begins, low, ← octets] at spelled
        exact ⟨.start value, trivial, spelled, unset, (Except.ok.inj same).symm⟩
    · rw [if_neg begins] at taken
      contradiction
  · rintro ⟨r, legal, spelled, takes⟩
    cases r with
    | data address payload =>
      obtain ⟨some_, fits, within⟩ := legal
      exact ⟨0, address, payload, fits, spelled,
        takeRecord_data.mpr ⟨⟨List.length_pos_of_ne_nil some_, within⟩, takes⟩⟩
    | endOfFile =>
      refine ⟨1, 0, [], by decide, spelled, ?_⟩
      rw [takes]
      rfl
    | linear upper =>
      refine ⟨4, 0, _, by simp, spelled, ?_⟩
      rw [takes, ← fromBigEndian_two upper]
      rfl
    | start entry =>
      obtain ⟨unset, rfl⟩ := takes
      refine ⟨5, 0, _, by simp, spelled, ?_⟩
      unfold takeRecord
      rw [if_neg (by decide), if_neg (by decide), if_neg (by decide), if_pos rfl, guard_ok, require_ok,
        fromBigEndian_four]
      exact ⟨⟨rfl, rfl, unset⟩, rfl⟩

/-! ### Runs -/

inductive Runs : HexState → List Record → HexState → Prop
  | nil {s : HexState} : Runs s [] s
  | cons {s u t : HexState} {r : Record} {records : List Record} (going : s.eof = false) (takes : Takes s r u)
      (later : Runs u records t) : Runs s (r :: records) t

theorem foldlM_iff : lines.foldlM readLine s = .ok t ↔
    ∃ records : List Record, List.Forall₂ (fun line r => Spells line r.octets) lines records ∧
      (∀ r ∈ records, r.Legal) ∧ Runs s records t := by
  induction lines generalizing s with
  | nil =>
    constructor
    · intro same
      cases Except.ok.inj same
      exact ⟨[], List.Forall₂.nil, fun _ listed => absurd listed List.not_mem_nil, Runs.nil⟩
    · rintro ⟨records, spelled, _, runs⟩
      cases spelled
      cases runs
      rfl
  | cons line later ih =>
    rw [foldlM_cons_ok]
    constructor
    · rintro ⟨u, first, rest⟩
      obtain ⟨going, r, legal, spelled, takes⟩ := readLine_iff.mp first
      obtain ⟨records, others, all, runs⟩ := ih.mp rest
      exact ⟨r :: records, List.Forall₂.cons spelled others, List.forall_mem_cons.mpr ⟨legal, all⟩,
        Runs.cons going takes runs⟩
    · rintro ⟨records, spelled, all, runs⟩
      cases spelled with
      | @cons _ r _ records first others =>
        cases runs with
        | @cons _ u _ _ _ going takes rest =>
          obtain ⟨legal, legals⟩ := List.forall_mem_cons.mp all
          exact ⟨u, readLine_iff.mpr ⟨going, r, legal, first, takes⟩, ih.mpr ⟨records, others, legals, rest⟩⟩

/-- What a run has gathered: the image of its records on top of what was there, and their entry. -/
structure Gathered (s : HexState) (records : List Record) (t : HexState) : Prop where
  bytes : t.image.entries = s.image.entries + ↑(written s.base records)
  flash : ∀ cell ∈ written s.base records, InFlash cell.1
  started : s.entry.toList ++ records.filterMap Record.entry = t.entry.toList
  ended : (records = [] ∧ t.eof = s.eof) ∨
    (s.eof = false ∧ (t.eof = true → ∃ body, records = body ++ [.endOfFile] ∧ .endOfFile ∉ body))

/-- The end of a file that goes on behind a record that does not end it. -/
theorem ended_cons {records : List Record} {before after : Bool} (other : r ≠ .endOfFile)
    (ended : (records = [] ∧ after = before) ∨
      (before = false ∧ (after = true → ∃ body, records = body ++ [.endOfFile] ∧ .endOfFile ∉ body)))
    (going : before = false) :
    after = true → ∃ body, r :: records = body ++ [.endOfFile] ∧ .endOfFile ∉ body := by
  intro closed
  rcases ended with ⟨_, same⟩ | ⟨_, body⟩
  · rw [same, going] at closed
    contradiction
  · obtain ⟨body, split, absent⟩ := body closed
    refine ⟨r :: body, ?_, ?_⟩
    · rw [split, List.cons_append]
    · rw [List.mem_cons]
      rintro (same | inside)
      · exact other same.symm
      · exact absent inside

/-- A record that is taken writes its bytes and moves the base. -/
theorem Takes.writes (takes : Takes s r t) :
    t.image.entries = s.image.entries + ↑(r.writes s.base) ∧ (∀ cell ∈ r.writes s.base, InFlash cell.1) ∧
      t.base = r.rebased s.base ∧ s.entry.toList ++ r.entry.toList = t.entry.toList ∧
      t.eof = (if r = .endOfFile then true else s.eof) := by
  cases r with
  | data address payload =>
    obtain ⟨allowed, image, entries, rfl⟩ := takes
    exact ⟨entries, allowed, rfl, List.append_nil _, rfl⟩
  | endOfFile =>
    obtain rfl : t = _ := takes
    exact ⟨(add_zero _).symm, fun _ listed => absurd listed List.not_mem_nil, rfl, List.append_nil _, rfl⟩
  | linear upper =>
    obtain rfl : t = _ := takes
    exact ⟨(add_zero _).symm, fun _ listed => absurd listed List.not_mem_nil, rfl, List.append_nil _, rfl⟩
  | start entry =>
    obtain ⟨unset, same⟩ := takes
    obtain rfl : t = _ := same
    refine ⟨(add_zero _).symm, fun _ listed => absurd listed List.not_mem_nil, rfl, ?_, rfl⟩
    rw [unset]
    rfl

theorem filterMap_entry (r : Record) (records : List Record) :
    (r :: records).filterMap Record.entry = r.entry.toList ++ records.filterMap Record.entry := by
  rw [List.filterMap_cons]
  cases r.entry <;> rfl

theorem Runs.gathered {records : List Record} (runs : Runs s records t) : Gathered s records t := by
  induction runs with
  | @nil s =>
    refine ⟨?_, fun _ listed => absurd listed List.not_mem_nil, List.append_nil _, Or.inl ⟨rfl, rfl⟩⟩
    exact (add_zero _).symm
  | @cons s u t r records going takes _ ih =>
    obtain ⟨bytes, flash, started, ended⟩ := ih
    obtain ⟨wrote, allowed, base, begun, closed⟩ := takes.writes
    rw [base] at bytes flash
    refine ⟨?_, ?_, ?_, Or.inr ⟨going, ?_⟩⟩
    · rw [bytes, wrote, written, ← Multiset.coe_add, add_assoc]
    · intro cell listed
      rw [written] at listed
      rcases List.mem_append.mp listed with first | rest
      · exact allowed cell first
      · exact flash cell rest
    · rw [filterMap_entry, ← List.append_assoc, begun, started]
    · by_cases last : r = .endOfFile
      · intro _
        rw [if_pos last] at closed
        rcases ended with ⟨empty, _⟩ | ⟨open_, _⟩
        · rw [empty, last]
          exact ⟨[], rfl, List.not_mem_nil⟩
        · rw [closed] at open_
          contradiction
      · rw [if_neg last] at closed
        rw [closed] at ended
        exact ended_cons last ended going

theorem nodupKeys_of_le {image : Image Byte} {some_ : Multiset (Sigma fun _ : ℕ => Byte)}
    (part : some_ ≤ image.entries) : some_.NodupKeys :=
  Multiset.nodup_keys.mp (Multiset.nodup_of_le (Multiset.map_le_map part) (Multiset.nodup_keys.mpr image.nodupKeys))

/-- A record whose bytes have a place and that starts nothing twice is taken. -/
theorem exists_takes {image : Image Byte} (part : s.image.entries + ↑(r.writes s.base) ≤ image.entries)
    (flash : ∀ a ∈ image, InFlash a) (unset : r.entry ≠ none → s.entry = none) : ∃ t, Takes s r t := by
  cases r with
  | data address payload =>
    refine ⟨_, ?_, ⟨_, nodupKeys_of_le part⟩, rfl, rfl⟩
    intro cell listed
    apply flash
    exact Finmap.mem_def.mpr (Multiset.mem_map_of_mem Sigma.fst
      (Multiset.mem_of_le part (Multiset.mem_add.mpr (Or.inr listed))))
  | endOfFile => exact ⟨_, rfl⟩
  | linear upper => exact ⟨_, rfl⟩
  | start entry => exact ⟨_, unset (Option.some_ne_none _), rfl⟩

/-- Records that write the rest of an image are taken to their end. -/
theorem runs_of_encodes {records : List Record} {image : Image Byte} {entry : ℕ} (going : s.eof = false)
    (ended : ∃ body, records = body ++ [.endOfFile] ∧ .endOfFile ∉ body)
    (bytes : image.entries = s.image.entries + ↑(written s.base records))
    (flash : ∀ a ∈ image, InFlash a) (started : s.entry.toList ++ records.filterMap Record.entry = [entry]) :
    ∃ t, Runs s records t ∧ t.image = image ∧ t.entry = some entry ∧ t.eof = true := by
  induction records generalizing s with
  | nil =>
    obtain ⟨body, split, _⟩ := ended
    exact absurd split (by simp)
  | cons r records ih =>
    rw [written, ← Multiset.coe_add, ← add_assoc] at bytes
    rw [filterMap_entry] at started
    have part : s.image.entries + ↑(r.writes s.base) ≤ image.entries := by
      rw [bytes]
      exact Multiset.le_add_right _ _
    have unset : r.entry ≠ none → s.entry = none := by
      intro begins
      obtain ⟨value, held⟩ := Option.ne_none_iff_exists'.mp begins
      cases before : s.entry with
      | none => rfl
      | some old =>
        rw [before, held] at started
        exact absurd (congrArg List.length started) (by simp)
    obtain ⟨u, takes⟩ := exists_takes part flash unset
    obtain ⟨wrote, _, base, begun, closed⟩ := takes.writes
    rw [← wrote, ← base] at bytes
    rw [← List.append_assoc, begun] at started
    by_cases last : r = .endOfFile
    · have empty : records = [] := by
        obtain ⟨body, split, absent⟩ := ended
        cases body with
        | nil => exact (List.cons.inj split).2
        | cons first body =>
          rw [← (List.cons.inj split).1, last] at absent
          exact absurd List.mem_cons_self absent
      rw [if_pos last] at closed
      rw [empty] at bytes started ⊢
      refine ⟨u, Runs.cons going takes Runs.nil, Finmap.ext (bytes.trans (add_zero _)).symm, ?_, closed⟩
      cases held : u.entry with
      | none =>
        rw [held] at started
        contradiction
      | some value =>
        rw [held] at started
        exact congrArg some (List.cons.inj started).1
    · have later : ∃ body, records = body ++ [.endOfFile] ∧ .endOfFile ∉ body := by
        obtain ⟨body, split, absent⟩ := ended
        cases body with
        | nil => exact absurd (List.cons.inj split).1 last
        | cons _ body => exact ⟨body, (List.cons.inj split).2, fun inside => absent (List.mem_cons_of_mem _ inside)⟩
      rw [if_neg last, going] at closed
      obtain ⟨t, runs, final⟩ := ih closed later bytes started
      exact ⟨t, Runs.cons going takes runs, final⟩

/-! ### Texts -/

def Record.Fits : Record → Prop
  | .data _ payload => payload.length ≤ 255
  | _ => True

structure Written (text : List Byte) (records : List Record) : Prop where
  ascii : isAscii text = true
  spelled : List.Forall₂ (fun line r => Spells line r.octets) (splitlines text) records
  fits : ∀ r ∈ records, r.Fits

theorem Record.Legal.fits (legal : r.Legal) : r.Fits := by
  cases r with
  | data _ payload => exact legal.2.1
  | _ => trivial

/-- What is read of a text is what its records write, and nothing is read of any other text. -/
theorem readHex_iff {image : Image Byte} {entry : ℕ} : readHex text = .ok (image, entry) ↔
    image ≠ ∅ ∧ (∀ a ∈ image, InFlash a) ∧ ∃ records, Written text records ∧ Encodes image entry records := by
  unfold readHex
  rw [guard_ok, require_ok, bind_ok]
  constructor
  · rintro ⟨ascii, t, run, rest⟩
    rw [guard_ok, require_ok] at rest
    obtain ⟨⟨closed, some_, begun⟩, same⟩ := rest
    obtain ⟨rfl, rfl⟩ := Prod.mk.inj (Except.ok.inj same)
    obtain ⟨records, spelled, legal, runs⟩ := foldlM_iff.mp run
    obtain ⟨bytes, flash, started, ended⟩ := runs.gathered
    have whole : t.image.entries = ↑(written 0 records) := bytes.trans (zero_add _)
    refine ⟨some_, ?_, records, ⟨ascii, spelled, fun r listed => (legal r listed).fits⟩, legal, ?_, whole, ?_⟩
    · intro a listed
      obtain ⟨cell, there, here⟩ := Multiset.mem_map.mp (Finmap.mem_def.mp listed)
      rw [← here]
      rw [whole] at there
      exact flash cell there
    · rcases ended with ⟨_, open_⟩ | ⟨_, body⟩
      · rw [closed] at open_
        contradiction
      · exact body closed
    · obtain ⟨value, held⟩ := Option.ne_none_iff_exists'.mp begun
      rw [held] at started ⊢
      exact started
  · rintro ⟨some_, flash, records, ⟨ascii, spelled, _⟩, encodes⟩
    obtain ⟨t, runs, rfl, begun, closed⟩ := runs_of_encodes (rfl : initial.eof = false) encodes.ended
      (encodes.bytes.trans (zero_add _).symm) flash encodes.started
    refine ⟨ascii, _, foldlM_iff.mpr ⟨records, spelled, encodes.legal, runs⟩, ?_⟩
    rw [guard_ok, require_ok, begun]
    exact ⟨⟨closed, some_, Option.some_ne_none entry⟩, rfl⟩

/-- The images agree exactly when the text reads as the entry and bytes of the ELF file. -/
theorem compareImages_ok {entry : ℕ} {loadBytes : Image Byte} :
    compareImages entry loadBytes text = .ok () ↔ readHex text = .ok (loadBytes, entry) := by
  unfold compareImages
  rw [bind_ok]
  constructor
  · rintro ⟨⟨image, value⟩, read, rest⟩
    rw [guard_ok, require_ok, require_ok] at rest
    obtain ⟨rfl, rfl⟩ := rest
    exact read
  · intro read
    refine ⟨_, read, ?_⟩
    rw [guard_ok, require_ok, require_ok]
    exact ⟨rfl, rfl⟩

theorem Spells.unique {first second : List Byte} (one : Spells line first) (two : Spells line second) :
    first = second := by
  obtain ⟨digits, rfl, spelled⟩ := one
  obtain ⟨others, same, respelled⟩ := two
  rw [← spelled.read.1, ← respelled.read.1, (List.cons.inj same).2]

theorem octets_fields (fits : r.Fits) : ∃ kind address payload, r.octets = frame kind address payload ∧
    payload.length ≤ 255 ∧
    match r with
    | .data a p => kind = 0 ∧ address = a ∧ payload = p
    | .endOfFile => kind = 1
    | .linear upper => kind = 4 ∧ fromBigEndian payload = upper.toNat
    | .start entry => kind = 5 ∧ fromBigEndian payload = entry.toNat := by
  cases r with
  | data a p => exact ⟨0, a, p, rfl, fits, rfl, rfl, rfl⟩
  | endOfFile => exact ⟨1, 0, [], rfl, by decide, rfl⟩
  | linear upper => exact ⟨4, 0, _, rfl, by simp, rfl, fromBigEndian_two upper⟩
  | start entry => exact ⟨5, 0, _, rfl, by simp, rfl, fromBigEndian_four entry⟩

theorem frame_inj {kind other : Byte} {address place : BitVec 16} {payload content : List Byte}
    (fits : payload.length ≤ 255) (fitting : content.length ≤ 255)
    (same : frame kind address payload = frame other place content) :
    kind = other ∧ address = place ∧ payload = content := by
  obtain ⟨_, kind_, address_, payload_⟩ := @frame_read kind address payload fits
  obtain ⟨_, other_, place_, content_⟩ := @frame_read other place content fitting
  rw [same] at kind_ address_ payload_
  exact ⟨kind_.symm.trans other_, BitVec.eq_of_toNat_eq (address_.symm.trans place_), payload_.symm.trans content_⟩

theorem octets_inj {q : Record} (fits : r.Fits) (fitting : q.Fits) (same : r.octets = q.octets) : r = q := by
  obtain ⟨kind, address, payload, framed, small, meaning⟩ := octets_fields fits
  obtain ⟨other, place, content, reframed, less, meaning_⟩ := octets_fields fitting
  rw [framed, reframed] at same
  obtain ⟨rfl, rfl, rfl⟩ := frame_inj small less same
  cases r <;> cases q <;> simp only at meaning meaning_
  case data.data => rw [← meaning.2.1, ← meaning.2.2, meaning_.2.1, meaning_.2.2]
  case endOfFile.endOfFile => rfl
  case linear.linear => exact congrArg Record.linear (BitVec.eq_of_toNat_eq (meaning.2.symm.trans meaning_.2))
  case start.start => exact congrArg Record.start (BitVec.eq_of_toNat_eq (meaning.2.symm.trans meaning_.2))
  all_goals grind

theorem Written.unique {records others : List Record} (one : Written text records) (two : Written text others) :
    records = others := by
  obtain ⟨_, spelled, fits⟩ := one
  obtain ⟨_, respelled, fitting⟩ := two
  generalize splitlines text = lines at spelled respelled
  induction spelled generalizing others with
  | nil =>
    cases respelled
    rfl
  | @cons line r later records first _ ih =>
    cases respelled with
    | @cons _ q _ others second rest =>
      obtain ⟨small, smalls⟩ := List.forall_mem_cons.mp fits
      obtain ⟨less, lesser⟩ := List.forall_mem_cons.mp fitting
      rw [octets_inj small less (first.unique second), ih smalls lesser rest]

/-! ### Lines put together -/

def terminators : List (List Byte) := [[0x0D, 0x0A], [0x0A], [0x0B], [0x0C], [0x0D], [0x1C], [0x1D], [0x1E]]

inductive Assembled : List (List Byte) → List Byte → Prop
  | nil : Assembled [] []
  | last (line : List Byte) : Assembled [line] line
  | cons {line terminator text : List Byte} {lines : List (List Byte)} (ends : terminator ∈ terminators)
      (later : Assembled lines text) : Assembled (line :: lines) (line ++ terminator ++ text)

def Plain (line : List Byte) : Prop := line.head? = some colon ∧ ∀ c ∈ line, isBreak c = false ∧ c.toNat < 128

theorem splitFrom_line {c : Byte} (unbroken : ∀ c ∈ line, isBreak c = false) (broken : isBreak c = true) :
    splitFrom false (line ++ c :: text) = line :: splitFrom (c = 0x0D) text := by
  induction line with
  | nil =>
    rw [List.nil_append, splitFrom, if_neg (by simp), if_pos broken]
  | cons first later ih =>
    obtain ⟨here, rest⟩ := List.forall_mem_cons.mp unbroken
    rw [List.cons_append, splitFrom, if_neg (by simp), here, if_neg Bool.false_ne_true, ih rest]

theorem splitFrom_last (some_ : line ≠ []) (unbroken : ∀ c ∈ line, isBreak c = false) :
    splitFrom false line = [line] := by
  induction line with
  | nil => contradiction
  | cons first later ih =>
    obtain ⟨here, rest⟩ := List.forall_mem_cons.mp unbroken
    rw [splitFrom, if_neg (by simp), here, if_neg Bool.false_ne_true]
    by_cases empty : later = []
    · rw [empty]
      rfl
    · rw [ih empty rest]

/-- A carriage return in front of a line, or of nothing, is one break. -/
theorem splitFrom_returned (assembled : Assembled lines text) (plain : ∀ line ∈ lines, Plain line) :
    splitFrom true text = splitFrom false text := by
  have headed : ∀ {line rest : List Byte}, Plain line → splitFrom true (line ++ rest) = splitFrom false (line ++ rest) := by
    intro line rest plain
    match line, plain.1 with
    | c :: later, head =>
      have front : c ≠ 0x0A := by
        rw [Option.some.inj head]
        decide
      have returned : ¬(true = true ∧ c = 0x0A) := fun both => front both.2
      have fresh : ¬(false = true ∧ c = 0x0A) := fun both => front both.2
      rw [List.cons_append, splitFrom, if_neg returned, splitFrom, if_neg fresh]
  cases assembled with
  | nil => rfl
  | last =>
    have alone := @headed text [] (plain text List.mem_cons_self)
    rw [List.append_nil] at alone
    exact alone
  | cons _ _ =>
    rw [List.append_assoc]
    exact headed (plain _ List.mem_cons_self)

theorem splitlines_assembled (assembled : Assembled lines text) (plain : ∀ line ∈ lines, Plain line) :
    splitlines text = lines := by
  unfold splitlines
  induction assembled with
  | nil => rfl
  | last line =>
    obtain ⟨head, clean⟩ := plain line List.mem_cons_self
    apply splitFrom_last
    · rintro rfl
      contradiction
    · exact fun c listed => (clean c listed).1
  | @cons line terminator text lines ends later ih =>
    obtain ⟨⟨_, clean⟩, plains⟩ := List.forall_mem_cons.mp plain
    have unbroken : ∀ c ∈ line, isBreak c = false := fun c listed => (clean c listed).1
    have rest := ih plains
    have returned := splitFrom_returned later plains
    rw [List.append_assoc]
    simp only [terminators, List.mem_cons, List.not_mem_nil, or_false] at ends
    rcases ends with rfl | rfl | rfl | rfl | rfl | rfl | rfl | rfl
    · rw [List.cons_append, splitFrom_line unbroken (by decide), ← rest]
      rfl
    · rw [List.singleton_append, splitFrom_line unbroken (by decide), ← rest]
      rfl
    · rw [List.singleton_append, splitFrom_line unbroken (by decide), ← rest]
      rfl
    · rw [List.singleton_append, splitFrom_line unbroken (by decide), ← rest]
      rfl
    · rw [List.singleton_append, splitFrom_line unbroken (by decide), ← rest, ← returned]
      rfl
    · rw [List.singleton_append, splitFrom_line unbroken (by decide), ← rest]
      rfl
    · rw [List.singleton_append, splitFrom_line unbroken (by decide), ← rest]
      rfl
    · rw [List.singleton_append, splitFrom_line unbroken (by decide), ← rest]
      rfl

theorem plain_digit {c : Byte} {value : ℕ} (digit : hexDigit c = some value) : isBreak c = false ∧ c.toNat < 128 := by
  have range : 0x30 ≤ c.toNat ∧ c.toNat ≤ 0x66 := by
    unfold hexDigit at digit
    split_ifs at digit <;> omega
  refine ⟨?_, by omega⟩
  apply decide_eq_false
  intro listed
  simp only [List.mem_cons, List.not_mem_nil, or_false] at listed
  rcases listed with rfl | rfl | rfl | rfl | rfl | rfl | rfl <;> exact absurd range (by decide)

theorem Spells.plain (spelled : Spells line octets) : Plain line := by
  obtain ⟨digits, rfl, pairs⟩ := spelled
  refine ⟨rfl, fun c listed => ?_⟩
  rcases List.mem_cons.mp listed with rfl | inside
  · decide
  · induction pairs with
    | nil => contradiction
    | cons upper lower _ ih =>
      simp only [List.mem_cons] at inside
      rcases inside with rfl | rfl | deeper
      · exact plain_digit upper
      · exact plain_digit lower
      · exact ih (List.mem_cons_of_mem _ deeper) deeper

theorem ascii_assembled (assembled : Assembled lines text) (plain : ∀ line ∈ lines, Plain line) :
    ∀ c ∈ text, c.toNat < 128 := by
  induction assembled with
  | nil => exact fun _ listed => absurd listed List.not_mem_nil
  | last line => exact fun c listed => ((plain line List.mem_cons_self).2 c listed).2
  | @cons line terminator text lines ends _ ih =>
    obtain ⟨⟨_, clean⟩, plains⟩ := List.forall_mem_cons.mp plain
    have low : ∀ terminator ∈ terminators, ∀ c ∈ terminator, c.toNat < 128 := by decide
    intro c listed
    rcases List.mem_append.mp listed with front | back
    · rcases List.mem_append.mp front with inside | ending
      · exact (clean c inside).2
      · exact low terminator ends c ending
    · exact ih plains c back

theorem written_assembled {records : List Record}
    (spelled : List.Forall₂ (fun line r => Spells line r.octets) lines records) (assembled : Assembled lines text)
    (legal : ∀ r ∈ records, r.Legal) : Written text records := by
  have plain : ∀ line ∈ lines, Plain line := by
    intro line listed
    obtain ⟨i, inside, here⟩ := List.getElem_of_mem listed
    have spells := List.forall₂_iff_get.mp spelled
    rw [← here]
    exact (spells.2 i inside (by rw [← spells.1]; exact inside)).plain
  refine ⟨?_, ?_, fun r listed => (legal r listed).fits⟩
  · apply List.all_eq_true.mpr
    exact fun c listed => decide_eq_true (ascii_assembled assembled plain c listed)
  · rw [splitlines_assembled assembled plain]
    exact spelled

/-- The length byte and the checksum of a record are right. -/
def Whole (octets : List Byte) : Prop :=
  octets.length = (byteAt octets 0).toNat + 5 ∧ (octets.map BitVec.toNat).sum % 256 = 0

theorem octets_whole (fits : r.Fits) : Whole r.octets := by
  obtain ⟨kind, address, payload, framed, small, _⟩ := octets_fields fits
  rw [framed]
  refine ⟨?_, ?_⟩
  · rw [length_frame, (frame_read small).1]
  · have checked := frame_checked kind address payload
    rw [Nat.and_two_pow_sub_one_eq_mod _ 8] at checked
    exact checked

/-- Reading inverts every way to write an image, and what it accepts is one: every line whole, no record behind
the end, and every byte in flash, at an address of its own. -/
theorem read_hex_law :
    (∀ (image : Image Byte) (entry : ℕ) (records : List Record) (lines : List (List Byte)) (text : List Byte),
      image ≠ ∅ → (∀ a ∈ image, InFlash a) → Encodes image entry records →
      List.Forall₂ (fun line r => Spells line r.octets) lines records → Assembled lines text →
      readHex text = .ok (image, entry)) ∧
    ∀ (text : List Byte) (image : Image Byte) (entry : ℕ), readHex text = .ok (image, entry) →
      (∀ line ∈ splitlines text, ∃ octets, Spells line octets ∧ Whole octets) ∧
      (∃ records, Written text records) ∧
      ∀ records, Written text records → Encodes image entry records ∧
        ((written 0 records).map Sigma.fst).Nodup ∧ ∀ cell ∈ written 0 records, InFlash cell.1 := by
  constructor
  · intro image entry records lines text some_ flash encodes spelled assembled
    exact readHex_iff.mpr ⟨some_, flash, records, written_assembled spelled assembled encodes.legal, encodes⟩
  · intro text image entry accepted
    obtain ⟨_, flash, records, written_, encodes⟩ := readHex_iff.mp accepted
    refine ⟨?_, ⟨records, written_⟩, ?_⟩
    · intro line listed
      obtain ⟨i, inside, here⟩ := List.getElem_of_mem listed
      have spells := List.forall₂_iff_get.mp written_.spelled
      have there : i < records.length := by
        rw [← spells.1]
        exact inside
      rw [← here]
      exact ⟨_, spells.2 i inside there, octets_whole (written_.fits _ (List.get_mem records ⟨i, there⟩))⟩
    · intro others written_others
      rw [written_others.unique written_]
      refine ⟨encodes, nodup_of_entries encodes.bytes, fun cell listed => ?_⟩
      apply flash
      apply Finmap.mem_def.mpr
      rw [encodes.bytes]
      exact Multiset.mem_map_of_mem Sigma.fst listed

def ascii (text : String) : List Byte := text.toList.map fun c => BitVec.ofNat 8 c.toNat

theorem spells_of_check (shaped : fullmatch line = true) (odd : line.length % 2 = 1) :
    Spells line (fromHex line.tail) := by
  match line, shaped, odd with
  | c :: digits, shaped, odd =>
    obtain ⟨headed, _, all⟩ := fullmatch_cons.mp shaped
    rw [List.length_cons] at odd
    refine ⟨digits, ?_, digits_fromHex digits (by omega) all⟩
    rw [headed]

def twoPageRecords : List Record :=
  [.linear 0x0801, .data 4 [0x12, 0x34], .linear 0x0800, .data 0 [0xAB], .start 0x08000001, .endOfFile]

def twoPageLines : List (List Byte) :=
  [ascii ":020000040801F1", ascii ":020004001234B4", ascii ":020000040800F2", ascii ":01000000AB54",
    ascii ":0400000508000001ee", ascii ":00000001FF"]

def twoPageImage : Image Byte :=
  ((Finmap.singleton 0x08000000 0xAB).insert 0x08010005 0x34).insert 0x08010004 0x12

theorem read_hex_law_two_pages :
    readHex (twoPageLines.flatMap (· ++ [0x0A])) = .ok (twoPageImage, 0x08000001) ∧
      ((written 0 twoPageRecords).map Sigma.fst).Nodup := by
  have encodes : Encodes twoPageImage 0x08000001 twoPageRecords := by
    refine ⟨?_, ⟨twoPageRecords.dropLast, rfl, by decide⟩, rfl, rfl⟩
    intro r listed
    simp only [twoPageRecords, List.mem_cons, List.not_mem_nil, or_false] at listed
    rcases listed with rfl | rfl | rfl | rfl | rfl | rfl
    · trivial
    · exact ⟨by decide, by decide, by decide⟩
    · trivial
    · exact ⟨by decide, by decide, by decide⟩
    · trivial
    · trivial
  have spelled : List.Forall₂ (fun line r => Spells line (Record.octets r)) twoPageLines twoPageRecords := by
    have upper := @spells_of_check (ascii ":020000040801F1") (by decide +kernel) (by decide +kernel)
    have more := @spells_of_check (ascii ":020004001234B4") (by decide +kernel) (by decide +kernel)
    have lower := @spells_of_check (ascii ":020000040800F2") (by decide +kernel) (by decide +kernel)
    have data := @spells_of_check (ascii ":01000000AB54") (by decide +kernel) (by decide +kernel)
    have start := @spells_of_check (ascii ":0400000508000001ee") (by decide +kernel) (by decide +kernel)
    have last := @spells_of_check (ascii ":00000001FF") (by decide +kernel) (by decide +kernel)
    exact .cons upper (.cons more (.cons lower (.cons data (.cons start (.cons last .nil)))))
  have ends : [(0x0A : Byte)] ∈ terminators := by decide
  have assembled : Assembled twoPageLines (twoPageLines.flatMap (· ++ [0x0A])) :=
    .cons ends (.cons ends (.cons ends (.cons ends (.cons ends (.cons ends .nil)))))
  have flash : ∀ a ∈ twoPageImage, InFlash a := by
    intro a listed
    rcases Finmap.mem_insert.mp listed with rfl | listed
    · decide
    rcases Finmap.mem_insert.mp listed with rfl | listed
    · decide
    · rw [(Finmap.mem_singleton _ _ _).mp listed]
      decide
  have some_ : twoPageImage ≠ ∅ := by decide
  have read := read_hex_law.1 _ _ _ _ _ some_ flash encodes spelled assembled
  exact ⟨read, (read_hex_law.2 _ _ _ read).2.2 twoPageRecords (written_assembled spelled assembled encodes.legal) |>.2.1⟩

end Sd700.Tools.HexRecords
