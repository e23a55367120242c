import Sd700.Tools.Python

/-! The ELF reader of the load-image tool: `ElfImage` of `firmware_image.py`. The integers of the file are
natural numbers; where Python subtracts below 0 they are taken as integers first. -/

namespace Sd700.Tools.Elf
open Logic.Checks Python

def ramStart : ℕ := 0x20000000
def ramEnd : ℕ := 0x20020000

def slice (data : List Byte) (offset size : ℕ) : List Byte := (data.drop offset).take size

def bounded (data : List Byte) (offset size : ℕ) (label : String) : Except Raised (List Byte) := do
  require (offset ≤ data.length ∧ size ≤ data.length - offset) ("ELF " ++ label ++ " outside file bounds")
  .ok (slice data offset size)

/-- `memory_range`. -/
def MemoryRange (address size : ℕ) : Prop :=
  (flashStart ≤ address ∧ address ≤ flashEnd ∧ size ≤ flashEnd - address) ∨
    (ramStart ≤ address ∧ address ≤ ramEnd ∧ size ≤ ramEnd - address)

instance (address size : ℕ) : Decidable (MemoryRange address size) := inferInstanceAs (Decidable (_ ∨ _))

def cstring (table : List Byte) (offset : ℕ) : Except Raised (List Byte) := do
  require (offset < table.length) "ELF string offset outside table"
  require (0 ∈ table.drop offset) "ELF unterminated string"
  let name := (table.drop offset).takeWhile (· ≠ 0)
  if name.all fun c => c.toNat < 128 then .ok name else .error .unicodeDecodeError

/-- `xs[i]`. -/
def index {α : Type} (xs : List α) (i : ℕ) : Except Raised α :=
  match xs[i]? with
  | some x => .ok x
  | none => .error .indexError

/-! ### Records -/

/-- A little-endian integer of `width` bytes. -/
def littleAt (data : List Byte) (offset width : ℕ) : ℕ :=
  (slice data offset width).foldr (fun byte n => byte.toNat + 256 * n) 0

/-- `struct.unpack_from`, of a record of `size` bytes. -/
def unpackFrom {α : Type} (size : ℕ) (record : List Byte → ℕ → α) (data : List Byte) (offset : ℕ) : Except Raised α :=
  if offset + size ≤ data.length then .ok (record data offset) else .error .structError

structure Header where
  ident : List Byte
  kind : ℕ
  machine : ℕ
  version : ℕ
  entry : ℕ
  phoff : ℕ
  shoff : ℕ
  flags : ℕ
  ehsize : ℕ
  phsize : ℕ
  phcount : ℕ
  shsize : ℕ
  shcount : ℕ
  shstr : ℕ

/-- `'<16sHHIIIIIHHHHHH'`. -/
def headerAt (data : List Byte) (offset : ℕ) : Header where
  ident := slice data offset 16
  kind := littleAt data (offset + 16) 2
  machine := littleAt data (offset + 18) 2
  version := littleAt data (offset + 20) 4
  entry := littleAt data (offset + 24) 4
  phoff := littleAt data (offset + 28) 4
  shoff := littleAt data (offset + 32) 4
  flags := littleAt data (offset + 36) 4
  ehsize := littleAt data (offset + 40) 2
  phsize := littleAt data (offset + 42) 2
  phcount := littleAt data (offset + 44) 2
  shsize := littleAt data (offset + 46) 2
  shcount := littleAt data (offset + 48) 2
  shstr := littleAt data (offset + 50) 2

structure Segment where
  kind : ℕ
  off : ℕ
  virtual : ℕ
  physical : ℕ
  filesz : ℕ
  memsz : ℕ
  perms : ℕ
  align : ℕ
  deriving DecidableEq

/-- `'<8I'`. -/
def segmentAt (data : List Byte) (offset : ℕ) : Segment where
  kind := littleAt data offset 4
  off := littleAt data (offset + 4) 4
  virtual := littleAt data (offset + 8) 4
  physical := littleAt data (offset + 12) 4
  filesz := littleAt data (offset + 16) 4
  memsz := littleAt data (offset + 20) 4
  perms := littleAt data (offset + 24) 4
  align := littleAt data (offset + 28) 4

structure Section where
  name : ℕ
  kind : ℕ
  attrs : ℕ
  addr : ℕ
  off : ℕ
  size : ℕ
  link : ℕ
  info : ℕ
  align : ℕ
  entsize : ℕ
  deriving DecidableEq

/-- `'<10I'`. -/
def sectionAt (data : List Byte) (offset : ℕ) : Section where
  name := littleAt data offset 4
  kind := littleAt data (offset + 4) 4
  attrs := littleAt data (offset + 8) 4
  addr := littleAt data (offset + 12) 4
  off := littleAt data (offset + 16) 4
  size := littleAt data (offset + 20) 4
  link := littleAt data (offset + 24) 4
  info := littleAt data (offset + 28) 4
  align := littleAt data (offset + 32) 4
  entsize := littleAt data (offset + 36) 4

structure Symbol where
  name : ℕ
  value : ℕ
  size : ℕ
  info : ℕ
  other : ℕ
  idx : ℕ

/-- `'<IIIBBH'`. -/
def symbolAt (data : List Byte) (offset : ℕ) : Symbol where
  name := littleAt data offset 4
  value := littleAt data (offset + 4) 4
  size := littleAt data (offset + 8) 4
  info := littleAt data (offset + 12) 1
  other := littleAt data (offset + 13) 1
  idx := littleAt data (offset + 14) 2

/-! ### Segments -/

/-- `n & ~1`. -/
def evenBelow (n : ℕ) : ℕ := n / 2 * 2

structure Loads where
  loads : List Segment
  loadBytes : Image Byte

def Overlaps (p prior : Segment) : Prop :=
  p.memsz ≠ 0 ∧ prior.memsz ≠ 0 ∧ p.virtual < prior.virtual + prior.memsz ∧ prior.virtual < p.virtual + p.memsz

instance (p prior : Segment) : Decidable (Overlaps p prior) := inferInstanceAs (Decidable (_ ∧ _))

def loadSegment (data : List Byte) (h : Header) (s : Loads) (i : ℕ) : Except Raised Loads := do
  let p ← unpackFrom 32 segmentAt data (h.phoff + i * h.phsize)
  require (p.kind = 1) "ELF unexpected program segment type"
  require (p.filesz ≤ p.memsz ∧ MemoryRange p.virtual p.memsz) "ELF invalid segment memory range/size"
  require (p.align = 0 ∨ p.align = 1 ∨
      (p.align &&& (p.align - 1) = 0 ∧ ((p.virtual : ℤ) - p.off) % p.align = 0)) "ELF invalid segment alignment"
  require (p.perms >>> 3 = 0) "ELF invalid segment flags"
  let segment ← bounded data p.off p.filesz "load segment"
  require (flashStart ≤ p.physical ∧ p.physical ≤ flashEnd ∧ p.filesz ≤ flashEnd - p.physical)
    "ELF physical load bytes outside flash"
  s.loads.forM fun prior => require (¬Overlaps p prior) "ELF overlapping virtual segments"
  let loadBytes ← write (fun address image => require (address ∉ image) "ELF overlapping physical load bytes")
    p.physical segment s.loadBytes
  .ok ⟨s.loads ++ [p], loadBytes⟩

/-! ### Sections -/

structure Cover where
  covered : Finset ℕ
  sectionNames : List (List Byte)

def coverRange : ℕ → ℕ → Finset ℕ → Except Raised (Finset ℕ)
  | _, 0, covered => .ok covered
  | address, size + 1, covered => do
    require (address ∉ covered) "ELF overlapping allocated sections"
    coverRange (address + 1) size (insert address covered)

def Holds (p : Segment) (s : Section) : Prop := p.virtual ≤ s.addr ∧ s.addr + s.size ≤ p.virtual + p.memsz

instance (p : Segment) (s : Section) : Decidable (Holds p s) := inferInstanceAs (Decidable (_ ∧ _))

def checkFile (data : List Byte) (s : Section) : Except Raised Unit :=
  if s.kind ≠ 8 then do
    let _ ← bounded data s.off s.size "section"
    .ok ()
  else .ok ()

def coverSection (data namesData : List Byte) (h : Header) (loads : List Segment) (c : Cover) (s : Section) :
    Except Raised Cover := do
  let name ← cstring namesData s.name
  let c : Cover := { c with sectionNames := c.sectionNames ++ [name] }
  require (s.link < h.shcount) "ELF invalid section link"
  require (s.align = 0 ∨ s.align = 1 ∨ s.align &&& (s.align - 1) = 0) "ELF invalid section alignment"
  checkFile data s
  if s.attrs &&& 2 = 0 ∨ s.size = 0 then .ok c
  else do
    require (MemoryRange s.addr s.size) "ELF allocated section outside device memory"
    let candidates := loads.filter fun p => Holds p s
    require (candidates.length = 1) "ELF allocated section lacks a unique load segment"
    let p ← index candidates 0
    if s.kind = 8 then do
      require (p.virtual + p.filesz ≤ s.addr) "ELF NOBITS overlaps initialized bytes"
      .ok c
    else do
      require ((s.off : ℤ) = p.off + s.addr - p.virtual ∧ s.addr + s.size ≤ p.virtual + p.filesz)
        "ELF section/load file mapping disagrees"
      let covered ← coverRange (p.physical + s.addr - p.virtual) s.size c.covered
      .ok { c with covered := covered }

/-! ### Symbols -/

structure Symbols where
  symbols : Finmap fun _ : List Byte => List Byte
  symbolOffsets : Finmap fun _ : List Byte => ℕ

def textOf (name : List Byte) : String := String.ofList (name.map fun c => Char.ofNat c.toNat)

/-- `STT_FUNC` addresses have the Thumb bit. -/
def Symbol.address (y : Symbol) : ℕ := if y.info &&& 15 = 2 then evenBelow y.value else y.value

def readSymbol (data text : List Byte) (sections : List Section) (h : Header) (t : Symbols) (pos : ℕ) :
    Except Raised Symbols := do
  let y ← unpackFrom 16 symbolAt data pos
  let name ← cstring text y.name
  require (y.idx < h.shcount ∨ y.idx = 0xFFF1 ∨ y.idx = 0xFFF2) "ELF invalid symbol section index"
  if y.size = 0 ∨ y.idx = 0 ∨ h.shcount ≤ y.idx then .ok t
  else do
    let source ← index sections y.idx
    require (source.addr ≤ y.address ∧ (y.size : ℤ) ≤ source.size - (y.address - source.addr))
      "ELF symbol outside its section"
    if source.kind = 8 then .ok t
    else do
      let at_ := source.off + y.address - source.addr
      require (name ∉ t.symbols) ("ELF duplicate sized symbol: " ++ textOf name)
      let bytes ← bounded data at_ y.size "symbol"
      .ok ⟨t.symbols.insert name bytes, t.symbolOffsets.insert name at_⟩

/-- One turn of the loop over the sections for their symbols: `range(off, off + size, 16)`. -/
def readTable (data : List Byte) (sections : List Section) (h : Header) (t : Symbols) (s : Section) :
    Except Raised Symbols :=
  if s.kind ≠ 2 then .ok t
  else do
    require (s.entsize = 16 ∧ s.size % 16 = 0) "ELF malformed symbol table"
    let strings ← index sections s.link
    require (strings.kind = 3) "ELF symbol names are not STRTAB"
    let text ← bounded data strings.off strings.size "symbol strings"
    (List.range' s.off ((s.size + 15) / 16) 16).foldlM (readSymbol data text sections h) t

/-! ### The image -/

structure ElfImage where
  entry : ℕ
  sections : List Section
  loads : List Segment
  loadBytes : Image Byte
  sectionNames : List (List Byte)
  symbols : Finmap fun _ : List Byte => List Byte
  symbolOffsets : Finmap fun _ : List Byte => ℕ

def magic : List Byte := [0x7F, 0x45, 0x4C, 0x46, 1, 1, 1, 0, 0, 0, 0, 0, 0, 0, 0, 0]

def nullSection : Section := ⟨0, 0, 0, 0, 0, 0, 0, 0, 0, 0⟩

def checkHeader (data : List Byte) (h : Header) : Except Raised Unit := do
  require (h.ident = magic) "ELF must be ELF32 little-endian System V version1"
  require (h.kind = 2 ∧ h.machine = 40 ∧ h.version = 1) "ELF must be an ARM executable"
  require (h.flags = 0x05000400) "ELF must use the expected ARM EABI5 hard-float ABI"
  require (h.ehsize = 52 ∧ h.phsize = 32 ∧ h.shsize = 40) "ELF header/table entry size mismatch"
  require ((0 < h.phcount ∧ h.phcount < 128) ∧ 0 < h.shstr ∧ h.shstr < h.shcount ∧ h.shcount < 4096)
    "ELF invalid table counts"
  let _ ← bounded data h.phoff (h.phsize * h.phcount) "program table"
  let _ ← bounded data h.shoff (h.shsize * h.shcount) "section table"
  require (h.ehsize ≤ h.phoff ∧ h.phoff + h.phsize * h.phcount ≤ h.shoff) "ELF overlapping header tables"

/-- A segment whose code in the file an address is in. -/
def Runs (p : Segment) (address : ℕ) : Prop :=
  p.perms &&& 1 ≠ 0 ∧ p.virtual ≤ address ∧ address < p.virtual + p.filesz

instance (p : Segment) (address : ℕ) : Decidable (Runs p address) := inferInstanceAs (Decidable (_ ∧ _))

/-- `ElfImage.__init__`. -/
def readElf (data : List Byte) : Except Raised ElfImage := do
  require (52 ≤ data.length) "ELF truncated header"
  let h ← unpackFrom 52 headerAt data 0
  checkHeader data h
  let sections ← (List.range h.shcount).mapM fun i => unpackFrom 40 sectionAt data (h.shoff + i * h.shsize)
  let first ← index sections 0
  require (first = nullSection) "ELF invalid null section"
  let s ← (List.range h.phcount).foldlM (loadSegment data h) ⟨[], ∅⟩
  require (s.loadBytes ≠ ∅ ∧ h.entry &&& 1 ≠ 0 ∧ ∃ p ∈ s.loads, Runs p (evenBelow h.entry))
    "ELF entry is not Thumb code in a file-backed executable segment"
  let names ← index sections h.shstr
  require (names.kind = 3) "ELF section-name table is not STRTAB"
  let namesData ← bounded data names.off names.size "section-name table"
  let c ← sections.foldlM (coverSection data namesData h s.loads) ⟨∅, []⟩
  require (c.covered = s.loadBytes.keys) "ELF load bytes not exactly covered by allocated file sections"
  let t ← sections.foldlM (readTable data sections h) ⟨∅, ∅⟩
  .ok ⟨h.entry, sections, s.loads, s.loadBytes, c.sectionNames, t.symbols, t.symbolOffsets⟩

end Sd700.Tools.Elf
