import Sd700.Tools.Elf

/-! What an accepted ELF file is: the reader raises nothing but `ValueError`, and the image it returns is backed by
the file byte by byte. -/

namespace Sd700.Tools.ElfChecks
open Logic.Checks Python Elf

def IsValueError : Raised → Prop
  | .valueError _ => True
  | .unicodeDecodeError => True
  | _ => False

variable {data : List Byte}

/-! ### The pieces -/

theorem yields_require (condition : Prop) [Decidable condition] (message : String) :
    Yields IsValueError (fun _ => condition) (require condition message) := by
  unfold require demand
  by_cases holds : condition
  · rw [if_pos holds]
    exact holds
  · rw [if_neg holds]
    trivial

theorem yields_guard {α : Type} {condition : Prop} [Decidable condition] {message : String} {next : Except Raised α}
    {returns : α → Prop} (behind : condition → Yields IsValueError returns next) :
    Yields IsValueError returns (require condition message >>= fun _ => next) :=
  (yields_require condition message).bind fun _ => behind

theorem yields_bounded (data : List Byte) (offset size : ℕ) (label : String) :
    Yields IsValueError (fun bytes => offset + size ≤ data.length ∧ bytes = slice data offset size)
      (bounded data offset size label) := by
  unfold bounded
  apply yields_guard
  rintro ⟨inside, fits⟩
  exact ⟨by omega, rfl⟩

def nameAt (table : List Byte) (offset : ℕ) : List Byte := (table.drop offset).takeWhile (· ≠ 0)

theorem yields_cstring (table : List Byte) (offset : ℕ) :
    Yields IsValueError (· = nameAt table offset) (cstring table offset) := by
  unfold cstring
  apply yields_guard
  intro _
  apply yields_guard
  intro _
  dsimp only
  split
  · exact rfl
  · trivial

theorem yields_index {α : Type} {xs : List α} {i : ℕ} (inside : i < xs.length) :
    Yields IsValueError (fun x => xs[i]? = some x) (index xs i) := by
  unfold index
  rw [List.getElem?_eq_getElem inside]
  exact rfl

theorem yields_unpackFrom {α : Type} {size : ℕ} {record : List Byte → ℕ → α} {offset : ℕ}
    (inside : offset + size ≤ data.length) :
    Yields IsValueError (· = record data offset) (unpackFrom size record data offset) := by
  unfold unpackFrom
  rw [if_pos inside]
  exact rfl

theorem length_slice {offset size : ℕ} (inside : offset + size ≤ data.length) :
    (slice data offset size).length = size := by
  rw [slice, List.length_take, List.length_drop]
  omega

theorem getElem?_slice {offset size i : ℕ} (inside : i < size) :
    (slice data offset size)[i]? = data[offset + i]? := by
  rw [slice, List.getElem?_take_of_lt inside, List.getElem?_drop]

/-! ### The header -/

structure Sound (data : List Byte) (h : Header) : Prop where
  phsize : h.phsize = 32
  shsize : h.shsize = 40
  phtable : h.phoff + 32 * h.phcount ≤ data.length
  shtable : h.shoff + 40 * h.shcount ≤ data.length
  shstr : h.shstr < h.shcount

theorem yields_checkHeader (data : List Byte) (h : Header) :
    Yields IsValueError (fun _ => Sound data h) (checkHeader data h) := by
  unfold checkHeader
  apply yields_guard
  intro _
  apply yields_guard
  intro _
  apply yields_guard
  intro _
  apply yields_guard
  rintro ⟨_, phsize, shsize⟩
  apply yields_guard
  rintro ⟨_, _, shstr, _⟩
  apply (yields_bounded _ _ _ _).bind
  rintro _ ⟨phtable, _⟩
  apply (yields_bounded _ _ _ _).bind
  rintro _ ⟨shtable, _⟩
  apply (yields_require _ _).mono
  intro _ _
  rw [phsize] at phtable
  rw [shsize] at shtable
  exact ⟨phsize, shsize, phtable, shtable, shstr⟩

/-! ### Segments -/

def addresses (p : Segment) : Set ℕ := Set.Ico p.virtual (p.virtual + p.memsz)

def fileBytes (data : List Byte) (p : Segment) : List (Sigma fun _ : ℕ => Byte) :=
  cells p.physical (slice data p.off p.filesz)

structure Placed (data : List Byte) (p : Segment) : Prop where
  file : p.off + p.filesz ≤ data.length
  memory : p.filesz ≤ p.memsz
  range : MemoryRange p.virtual p.memsz
  low : flashStart ≤ p.physical
  high : p.physical + p.filesz ≤ flashEnd

structure Loaded (data : List Byte) (h : Header) (before : List ℕ) (s : Loads) : Prop where
  headers : s.loads = before.map fun i => segmentAt data (h.phoff + i * h.phsize)
  placed : ∀ p ∈ s.loads, Placed data p
  apart : s.loads.Pairwise fun p q => Disjoint (addresses p) (addresses q)
  bytes : s.loadBytes.entries = ↑(s.loads.flatMap (fileBytes data))

theorem apart_of_not_overlaps {p prior : Segment} (free : ¬Overlaps p prior) :
    Disjoint (addresses prior) (addresses p) := by
  rw [Set.disjoint_left]
  rintro a ⟨low, high⟩ ⟨above, below⟩
  apply free
  refine ⟨?_, ?_, ?_, ?_⟩ <;> omega

theorem yields_write {message : String} (at_ : ℕ) (values : List Byte) (image : Image Byte) :
    Yields IsValueError (fun final => final.entries = image.entries + ↑(cells at_ values))
      (write (fun a image => require (a ∉ image) message) at_ values image) := by
  have checks : ∀ (a : ℕ) (image : Image Byte), require (a ∉ image) message = .ok () ↔ True ∧ a ∉ image := by
    intro a image
    rw [require_ok, true_and]
  cases run : write (fun a image => require (a ∉ image) message) at_ values image with
  | ok final => exact ((write_ok checks).mp run).2
  | error e =>
    induction values generalizing at_ image with
    | nil => contradiction
    | cons value later ih =>
      rw [write] at run
      unfold require demand at run
      split at run
      · exact ih _ _ run
      · cases run
        trivial

theorem yields_loadSegment {h : Header} (sound : Sound data h) {before : List ℕ} {i : ℕ} {s : Loads}
    (inside : i < h.phcount) (loaded : Loaded data h before s) :
    Yields IsValueError (Loaded data h (before ++ [i])) (loadSegment data h s i) := by
  have room : h.phoff + i * h.phsize + 32 ≤ data.length := by
    have table := sound.phtable
    rw [sound.phsize]
    omega
  unfold loadSegment
  apply (yields_unpackFrom room).bind
  rintro p rfl
  generalize here : segmentAt data (h.phoff + i * h.phsize) = p
  apply yields_guard
  intro _
  apply yields_guard
  rintro ⟨memory, range⟩
  apply yields_guard
  intro _
  apply yields_guard
  intro _
  apply (yields_bounded _ _ _ _).bind
  rintro segment ⟨file, rfl⟩
  apply yields_guard
  rintro ⟨low, top, high⟩
  have free : Yields IsValueError (fun _ => ∀ prior ∈ s.loads, ¬Overlaps p prior)
      (s.loads.forM fun prior => require (¬Overlaps p prior) "ELF overlapping virtual segments") :=
    Yields.forM fun prior _ => yields_require _ _
  apply free.bind
  intro _ apart
  apply (yields_write _ _ _).bind
  intro final bytes
  refine ⟨?_, ?_, ?_, ?_⟩
  · rw [List.map_append, loaded.headers, List.map_cons, List.map_nil, here]
  · intro q listed
    rcases List.mem_append.mp listed with old | new
    · exact loaded.placed q old
    · rw [List.mem_singleton.mp new]
      exact ⟨file, memory, range, low, by omega⟩
  · rw [List.pairwise_append]
    refine ⟨loaded.apart, List.pairwise_singleton _ _, fun prior old q new => ?_⟩
    rw [List.mem_singleton.mp new]
    exact apart_of_not_overlaps (apart prior old)
  · rw [bytes, loaded.bytes, List.flatMap_append, List.flatMap_singleton, Multiset.coe_add]
    rfl

/-! ### Sections -/

def FileBacked (s : Section) : Prop := s.attrs &&& 2 ≠ 0 ∧ s.size ≠ 0 ∧ s.kind ≠ 8

instance (s : Section) : Decidable (FileBacked s) := inferInstanceAs (Decidable (_ ∧ _))

def loadAddress (loads : List Segment) (s : Section) : ℕ :=
  match loads.find? fun p => Holds p s with
  | some p => p.physical + (s.addr - p.virtual)
  | none => 0

def Backed (loads : List Segment) (s : Section) : Prop :=
  ∃ p ∈ loads, Holds p s ∧ (∀ q ∈ loads, Holds q s → q = p) ∧ loadAddress loads s = p.physical + (s.addr - p.virtual) ∧
    s.off = p.off + (s.addr - p.virtual) ∧ s.addr + s.size ≤ p.virtual + p.filesz

structure Covered (data : List Byte) (h : Header) (loads : List Segment) (before : List Section) (c : Cover) : Prop where
  covered : c.covered.val = ↑((before.filter fun s => FileBacked s).flatMap fun s =>
    List.range' (loadAddress loads s) s.size)
  linked : ∀ s ∈ before, s.link < h.shcount
  file : ∀ s ∈ before, s.kind ≠ 8 → s.off + s.size ≤ data.length
  backed : ∀ s ∈ before, FileBacked s → Backed loads s

theorem yields_coverRange (address size : ℕ) (covered : Finset ℕ) :
    Yields IsValueError (fun final => final.val = covered.val + ↑(List.range' address size))
      (coverRange address size covered) := by
  induction size generalizing address covered with
  | zero => exact (add_zero _).symm
  | succ size ih =>
    rw [coverRange]
    apply yields_guard
    intro new
    apply (ih (address + 1) (insert address covered)).mono
    intro final same
    rw [same, Finset.insert_val_of_notMem new, List.range'_succ, ← Multiset.cons_coe, Multiset.cons_add,
      Multiset.add_cons]

theorem holder {loads : List Segment} {s : Section} {p : Segment}
    (alone : (loads.filter fun p => Holds p s).length = 1) (first : (loads.filter fun p => Holds p s)[0]? = some p) :
    p ∈ loads ∧ Holds p s ∧ (∀ q ∈ loads, Holds q s → q = p) ∧
      loadAddress loads s = p.physical + (s.addr - p.virtual) := by
  obtain ⟨only, single⟩ := List.length_eq_one_iff.mp alone
  rw [single] at first
  obtain rfl := Option.some.inj first
  have listed : only ∈ loads.filter fun p => Holds p s := by
    rw [single]
    exact List.mem_singleton_self _
  rw [List.mem_filter] at listed
  refine ⟨listed.1, of_decide_eq_true listed.2, ?_, ?_⟩
  · intro q member holds
    have kept : q ∈ loads.filter fun p => Holds p s := List.mem_filter.mpr ⟨member, decide_eq_true holds⟩
    rw [single] at kept
    exact List.mem_singleton.mp kept
  · have found : (loads.find? fun p => Holds p s) = some only := by
      rw [← List.head?_filter, single]
      rfl
    rw [loadAddress, found]

theorem Covered.skip {h : Header} {loads : List Segment} {before : List Section} {c : Cover} {s : Section}
    (covered : Covered data h loads before c) (bare : ¬FileBacked s) (linked : s.link < h.shcount)
    (file : s.kind ≠ 8 → s.off + s.size ≤ data.length) (names : List (List Byte)) :
    Covered data h loads (before ++ [s]) ⟨c.covered, names⟩ := by
  refine ⟨?_, ?_, ?_, ?_⟩
  · rw [List.filter_append, List.filter_singleton, decide_eq_false bare]
    rw [cond_false, List.append_nil]
    exact covered.covered
  · exact List.forall_mem_append.mpr ⟨covered.linked, List.forall_mem_singleton.mpr linked⟩
  · exact List.forall_mem_append.mpr ⟨covered.file, List.forall_mem_singleton.mpr file⟩
  · exact List.forall_mem_append.mpr
      ⟨covered.backed, List.forall_mem_singleton.mpr fun backed => absurd backed bare⟩

theorem Covered.take {h : Header} {loads : List Segment} {before : List Section} {c : Cover} {s : Section}
    (covered : Covered data h loads before c) (full : FileBacked s) (linked : s.link < h.shcount)
    (file : s.kind ≠ 8 → s.off + s.size ≤ data.length) (names : List (List Byte)) (backed : Backed loads s)
    {final : Finset ℕ} (grown : final.val = c.covered.val + ↑(List.range' (loadAddress loads s) s.size)) :
    Covered data h loads (before ++ [s]) ⟨final, names⟩ := by
  refine ⟨?_, ?_, ?_, ?_⟩
  · rw [List.filter_append, List.filter_singleton, decide_eq_true full]
    rw [cond_true, List.flatMap_append, List.flatMap_singleton, ← Multiset.coe_add, ← covered.covered]
    exact grown
  · exact List.forall_mem_append.mpr ⟨covered.linked, List.forall_mem_singleton.mpr linked⟩
  · exact List.forall_mem_append.mpr ⟨covered.file, List.forall_mem_singleton.mpr file⟩
  · exact List.forall_mem_append.mpr ⟨covered.backed, List.forall_mem_singleton.mpr fun _ => backed⟩

theorem yields_checkFile (data : List Byte) (s : Section) :
    Yields IsValueError (fun _ => s.kind ≠ 8 → s.off + s.size ≤ data.length) (checkFile data s) := by
  unfold checkFile
  by_cases bits : s.kind ≠ 8
  · rw [if_pos bits]
    apply (yields_bounded _ _ _ _).bind
    rintro _ ⟨inside, _⟩ _
    exact inside
  · rw [if_neg bits]
    exact fun other => absurd other bits

theorem yields_coverSection {h : Header} {namesData : List Byte} {loads : List Segment} {before : List Section}
    {c : Cover} {s : Section} (covered : Covered data h loads before c) :
    Yields IsValueError (Covered data h loads (before ++ [s])) (coverSection data namesData h loads c s) := by
  unfold coverSection
  apply (yields_cstring _ _).bind
  intro name _
  dsimp only
  apply yields_guard
  intro linked
  apply yields_guard
  intro _
  apply (yields_checkFile data s).bind
  intro _ file
  by_cases bare : s.attrs &&& 2 = 0 ∨ s.size = 0
  · rw [if_pos bare]
    apply covered.skip _ linked file
    rintro ⟨allocated, sized, _⟩
    exact bare.elim allocated sized
  rw [if_neg bare]
  apply yields_guard
  intro _
  apply yields_guard
  intro alone
  apply (yields_index (by omega)).bind
  intro p first
  obtain ⟨member, holds, unique, address⟩ := holder alone first
  by_cases bits : s.kind = 8
  · rw [if_pos bits]
    apply yields_guard
    intro _
    exact covered.skip (fun backed => backed.2.2 bits) linked file _
  rw [if_neg bits]
  apply yields_guard
  rintro ⟨mapped, within⟩
  have start : p.physical + s.addr - p.virtual = loadAddress loads s := by
    rw [address]
    have above := holds.1
    omega
  rw [start]
  apply (yields_coverRange _ _ _).bind
  intro final grown
  have above := holds.1
  have full : FileBacked s := ⟨fun plain => bare (Or.inl plain), fun empty => bare (Or.inr empty), bits⟩
  exact covered.take full linked file _ ⟨p, member, holds, unique, address, by omega, within⟩ grown

def sectionBytes (data : List Byte) (loads : List Segment) (s : Section) : List (Sigma fun _ : ℕ => Byte) :=
  cells (loadAddress loads s) (slice data s.off s.size)

/-- A byte of a section is the byte of its segment at the same address. -/
theorem Backed.bytes {loads : List Segment} {s : Section} (backed : Backed loads s) :
    ∀ cell ∈ sectionBytes data loads s, cell ∈ loads.flatMap (fileBytes data) := by
  obtain ⟨p, member, ⟨low, _⟩, _, address, off, within⟩ := backed
  rintro ⟨a, byte⟩ listed
  obtain ⟨above, found⟩ := mem_cells.mp listed
  have inside : a - loadAddress loads s < s.size := by
    have short := (List.getElem?_eq_some_iff.mp found).1
    rw [slice, List.length_take] at short
    omega
  rw [getElem?_slice inside] at found
  refine List.mem_flatMap.mpr ⟨p, member, mem_cells.mpr ⟨by omega, ?_⟩⟩
  have place : p.off + (a - p.physical) = s.off + (a - loadAddress loads s) := by omega
  rw [getElem?_slice (by omega), place]
  exact found

theorem Covered.bytes {h : Header} {loads : List Segment} {sections : List Section} {c : Cover} {image : Image Byte}
    (covered : Covered data h loads sections c)
    (loaded : image.entries = ↑(loads.flatMap (fileBytes data))) (exact_ : c.covered = image.keys) :
    image.entries = ↑((sections.filter fun s => FileBacked s).flatMap (sectionBytes data loads)) := by
  have lengths : ∀ s ∈ sections.filter fun s => FileBacked s, (slice data s.off s.size).length = s.size := by
    intro s listed
    obtain ⟨member, full⟩ := List.mem_filter.mp listed
    exact length_slice (covered.file s member (of_decide_eq_true full).2.2)
  have keys : ((sections.filter fun s => FileBacked s).flatMap (sectionBytes data loads)).map Sigma.fst =
      (sections.filter fun s => FileBacked s).flatMap fun s => List.range' (loadAddress loads s) s.size := by
    rw [List.map_flatMap]
    apply List.flatMap_congr
    intro s listed
    rw [sectionBytes, cells_map_fst, lengths s listed]
  have same : image.entries.keys = ↑(((sections.filter fun s => FileBacked s).flatMap
      (sectionBytes data loads)).map Sigma.fst) := by
    rw [keys, ← covered.covered, exact_]
    rfl
  have distinct : ((sections.filter fun s => FileBacked s).flatMap (sectionBytes data loads)).Nodup := by
    apply List.Nodup.of_map Sigma.fst
    rw [← Multiset.coe_nodup, ← same]
    exact Multiset.nodup_keys.mpr image.nodupKeys
  symm
  apply Multiset.eq_of_le_of_card_le
  · rw [Multiset.le_iff_subset (Multiset.coe_nodup.mpr distinct)]
    intro cell listed
    obtain ⟨s, member, here⟩ := List.mem_flatMap.mp listed
    obtain ⟨member, full⟩ := List.mem_filter.mp member
    rw [loaded]
    exact (covered.backed s member (of_decide_eq_true full)).bytes cell here
  · have count := congrArg Multiset.card same
    rw [Multiset.keys, Multiset.card_map, Multiset.coe_card, List.length_map] at count
    rw [Multiset.coe_card, count]

/-! ### Symbols -/

def Tabled (data : List Byte) (sections : List Section) (name : List Byte) (y : Symbol) : Prop :=
  ∃ table ∈ sections, table.kind = 2 ∧ ∃ strings, sections[table.link]? = some strings ∧
    ∃ k, 16 * k + 16 ≤ table.size ∧ y = symbolAt data (table.off + 16 * k) ∧
      name = nameAt (slice data strings.off strings.size) y.name

def Exported (data : List Byte) (sections : List Section) (name bytes : List Byte) (at_ : ℕ) : Prop :=
  ∃ y source, Tabled data sections name y ∧ sections[y.idx]? = some source ∧ source.kind ≠ 8 ∧
    source.addr ≤ y.address ∧ y.address + y.size ≤ source.addr + source.size ∧
    at_ = source.off + (y.address - source.addr) ∧ at_ + y.size ≤ source.off + source.size ∧
    at_ + y.size ≤ data.length ∧ bytes = slice data at_ y.size

structure Kept (data : List Byte) (sections : List Section) (t : Symbols) : Prop where
  bytes : ∀ name bytes, t.symbols.lookup name = some bytes →
    ∃ at_, t.symbolOffsets.lookup name = some at_ ∧ Exported data sections name bytes at_
  offsets : ∀ name at_, t.symbolOffsets.lookup name = some at_ → name ∈ t.symbols

theorem kept_empty (sections : List Section) : Kept data sections ⟨∅, ∅⟩ := by
  refine ⟨fun name bytes found => ?_, fun name at_ found => ?_⟩ <;>
    (rw [Finmap.lookup_empty] at found; contradiction)

theorem Kept.insert {sections : List Section} {t : Symbols} {name bytes : List Byte} {at_ : ℕ}
    (kept : Kept data sections t) (exported : Exported data sections name bytes at_) :
    Kept data sections ⟨t.symbols.insert name bytes, t.symbolOffsets.insert name at_⟩ := by
  refine ⟨fun other value found => ?_, fun other place found => ?_⟩
  · by_cases same : other = name
    · subst same
      rw [Finmap.lookup_insert] at found
      refine ⟨at_, Finmap.lookup_insert _, ?_⟩
      rw [← Option.some.inj found]
      exact exported
    · rw [Finmap.lookup_insert_of_ne _ same] at found
      obtain ⟨place, there, old⟩ := kept.bytes other value found
      exact ⟨place, (Finmap.lookup_insert_of_ne _ same).trans there, old⟩
  · rw [Finmap.mem_insert]
    by_cases same : other = name
    · exact Or.inl same
    · rw [Finmap.lookup_insert_of_ne _ same] at found
      exact Or.inr (kept.offsets other place found)

theorem yields_readSymbol {h : Header} {sections : List Section} {t : Symbols} {table strings : Section} {k : ℕ}
    (counted : sections.length = h.shcount) (member : table ∈ sections) (symbols : table.kind = 2)
    (linked : sections[table.link]? = some strings) (file : table.off + table.size ≤ data.length)
    (inside : 16 * k + 16 ≤ table.size) (kept : Kept data sections t) :
    Yields IsValueError (Kept data sections)
      (readSymbol data (slice data strings.off strings.size) sections h t (table.off + 16 * k)) := by
  unfold readSymbol
  apply (yields_unpackFrom (by omega)).bind
  rintro y rfl
  generalize here : symbolAt data (table.off + 16 * k) = y
  apply (yields_cstring _ _).bind
  rintro name rfl
  apply yields_guard
  intro _
  by_cases passed : y.size = 0 ∨ y.idx = 0 ∨ h.shcount ≤ y.idx
  · rw [if_pos passed]
    exact kept
  rw [if_neg passed]
  apply (yields_index (by omega)).bind
  intro source found
  apply yields_guard
  rintro ⟨low, high⟩
  by_cases bits : source.kind = 8
  · rw [if_pos bits]
    exact kept
  rw [if_neg bits]
  dsimp only
  apply yields_guard
  intro _
  apply (yields_bounded _ _ _ _).bind
  rintro bytes ⟨fits, rfl⟩
  have place : source.off + y.address - source.addr = source.off + (y.address - source.addr) := by omega
  rw [place] at fits ⊢
  exact kept.insert ⟨y, source, ⟨table, member, symbols, strings, linked, k, inside, here.symm, rfl⟩, found, bits,
    low, by omega, rfl, by omega, fits, rfl⟩

theorem yields_readTable {h : Header} {sections : List Section} {t : Symbols} {table : Section}
    (counted : sections.length = h.shcount) (member : table ∈ sections) (linked : table.link < h.shcount)
    (file : table.kind ≠ 8 → table.off + table.size ≤ data.length) (kept : Kept data sections t) :
    Yields IsValueError (Kept data sections) (readTable data sections h t table) := by
  unfold readTable
  by_cases other : table.kind ≠ 2
  · rw [if_pos other]
    exact kept
  rw [if_neg other]
  rw [not_not] at other
  apply yields_guard
  rintro ⟨_, whole⟩
  apply (yields_index (by omega)).bind
  intro strings found
  apply yields_guard
  intro _
  apply (yields_bounded _ _ _ _).bind
  rintro _ ⟨_, rfl⟩
  apply Yields.foldlM (fun _ => Kept data sections)
  · intro before pos after t split kept
    have listed : pos ∈ List.range' table.off ((table.size + 15) / 16) 16 := by
      rw [split]
      exact List.mem_append_right _ List.mem_cons_self
    obtain ⟨k, below, rfl⟩ := List.mem_range'.mp listed
    exact yields_readSymbol counted member other found (file (by omega)) (by omega) kept
  · exact kept

/-! ### The image -/

structure Accepted (data : List Byte) (image : ElfImage) : Prop where
  entry : image.entry = (headerAt data 0).entry
  loads : image.loads = (List.range (headerAt data 0).phcount).map fun i =>
    segmentAt data ((headerAt data 0).phoff + i * (headerAt data 0).phsize)
  sections : image.sections = (List.range (headerAt data 0).shcount).map fun i =>
    sectionAt data ((headerAt data 0).shoff + i * (headerAt data 0).shsize)
  placed : ∀ p ∈ image.loads, p.off + p.filesz ≤ data.length ∧ p.filesz ≤ p.memsz
  bytes : image.loadBytes.entries = ↑(image.loads.flatMap (fileBytes data))
  flash : ∀ a ∈ image.loadBytes, InFlash a
  distinct : ((image.loads.flatMap (fileBytes data)).map Sigma.fst).Nodup
  apart : image.loads.Pairwise fun p q => Disjoint (addresses p) (addresses q)
  backed : ∀ s ∈ image.sections, FileBacked s → Backed image.loads s
  covered : image.loadBytes.entries =
    ↑((image.sections.filter fun s => FileBacked s).flatMap (sectionBytes data image.loads))
  disjoint : ((image.sections.filter fun s => FileBacked s).flatMap
    fun s => List.range' (loadAddress image.loads s) s.size).Nodup
  symbols : ∀ name bytes, image.symbols.lookup name = some bytes →
    ∃ at_, image.symbolOffsets.lookup name = some at_ ∧ Exported data image.sections name bytes at_
  thumb : image.entry &&& 1 ≠ 0
  code : ∃ p ∈ image.loads, Runs p (evenBelow image.entry)

theorem yields_readElf (data : List Byte) : Yields IsValueError (Accepted data) (readElf data) := by
  unfold readElf
  apply yields_guard
  intro long
  apply (yields_unpackFrom (by omega)).bind
  rintro h rfl
  generalize header : headerAt data 0 = h
  apply (yields_checkHeader data h).bind
  intro _ sound
  have table := sound.shtable
  have unpacked : Yields IsValueError (· = (List.range h.shcount).map fun i => sectionAt data (h.shoff + i * h.shsize))
      ((List.range h.shcount).mapM fun i => unpackFrom 40 sectionAt data (h.shoff + i * h.shsize)) := by
    apply Yields.mapM
    intro i listed
    apply yields_unpackFrom
    rw [sound.shsize]
    have below := List.mem_range.mp listed
    omega
  apply unpacked.bind
  intro sections same
  have counted : sections.length = h.shcount := by rw [same, List.length_map, List.length_range]
  clear unpacked
  have named := sound.shstr
  apply (yields_index (by omega)).bind
  intro _ _
  apply yields_guard
  intro _
  have segments : Yields IsValueError (Loaded data h (List.range h.phcount))
      ((List.range h.phcount).foldlM (loadSegment data h) ⟨[], ∅⟩) := by
    apply Yields.foldlM (Loaded data h)
    · intro before i after s split loaded
      have listed : i ∈ List.range h.phcount := by
        rw [split]
        exact List.mem_append_right _ List.mem_cons_self
      exact yields_loadSegment sound (List.mem_range.mp listed) loaded
    · exact ⟨rfl, fun _ listed => absurd listed List.not_mem_nil, List.Pairwise.nil, rfl⟩
  apply segments.bind
  intro s loaded
  apply yields_guard
  rintro ⟨_, thumb, code⟩
  apply (yields_index (by omega)).bind
  intro _ _
  apply yields_guard
  intro _
  apply (yields_bounded _ _ _ _).bind
  rintro namesData _
  have sectioned : Yields IsValueError (Covered data h s.loads sections)
      (sections.foldlM (coverSection data namesData h s.loads) ⟨∅, []⟩) := by
    apply Yields.foldlM (Covered data h s.loads)
    · intro before section_ after c _ covered
      exact yields_coverSection covered
    · exact ⟨rfl, fun _ listed => absurd listed List.not_mem_nil, fun _ listed => absurd listed List.not_mem_nil,
        fun _ listed => absurd listed List.not_mem_nil⟩
  apply sectioned.bind
  intro c covered
  apply yields_guard
  intro exact_
  have tabled : Yields IsValueError (Kept data sections) (sections.foldlM (readTable data sections h) ⟨∅, ∅⟩) := by
    apply Yields.foldlM (fun _ => Kept data sections)
    · intro before section_ after t split kept
      have listed : section_ ∈ sections := by
        rw [split]
        exact List.mem_append_right _ List.mem_cons_self
      exact yields_readTable counted listed (covered.linked _ listed) (covered.file _ listed) kept
    · exact kept_empty sections
  apply tabled.bind
  intro t kept
  rw [← header] at same loaded
  refine ⟨by rw [header], loaded.headers, same, fun p listed => ⟨(loaded.placed p listed).file, (loaded.placed p listed).memory⟩, loaded.bytes, ?_,
    nodup_of_entries loaded.bytes, loaded.apart, covered.backed, covered.bytes loaded.bytes exact_, ?_,
    kept.bytes, thumb, code⟩
  · intro a listed
    obtain ⟨⟨place, byte⟩, there, rfl⟩ := Multiset.mem_map.mp (Finmap.mem_def.mp listed)
    rw [loaded.bytes] at there
    obtain ⟨p, member, here⟩ := List.mem_flatMap.mp there
    obtain ⟨above, found⟩ := mem_cells.mp here
    have short := (List.getElem?_eq_some_iff.mp found).1
    have placed := loaded.placed p member
    rw [length_slice placed.file] at short
    have low := placed.low
    have high := placed.high
    change flashStart ≤ place ∧ place < flashEnd
    omega
  · rw [← Multiset.coe_nodup, ← covered.covered]
    exact c.covered.nodup

/-- Reading an ELF file ends in a `ValueError` or in an image backed by the file. -/
theorem elf_reader_strict (data : List Byte) :
    (∃ e, readElf data = .error e ∧ IsValueError e) ∨ ∃ image, readElf data = .ok image ∧ Accepted data image := by
  have yields := yields_readElf data
  cases run : readElf data with
  | error e =>
    rw [run] at yields
    exact Or.inl ⟨e, rfl, yields⟩
  | ok image =>
    rw [run] at yields
    exact Or.inr ⟨image, rfl, yields⟩

def little (width value : ℕ) : List Byte := (List.range width).map fun i => BitVec.ofNat 8 (value / 256 ^ i)

def fourBytes : List Byte :=
  magic ++ little 2 2 ++ little 2 40 ++ [1, 0x08000001, 52, 84, 0x05000400].flatMap (little 4) ++
    [52, 32, 1, 40, 3, 2].flatMap (little 2) ++
    [1, 204, flashStart, flashStart, 4, 4, 5, 1].flatMap (little 4) ++
    List.replicate 40 0 ++ [0, 1, 6, flashStart, 204, 4, 0, 0, 1, 0].flatMap (little 4) ++
    [0, 3, 0, 0, 208, 1, 0, 0, 1, 0].flatMap (little 4) ++ [0x70, 0x47, 0x00, 0xBF, 0]

example : (readElf fourBytes).toOption.isSome = true := by decide +kernel

end Sd700.Tools.ElfChecks
