import Sd700.Tools.Python

/-! The Intel HEX reader of the load-image tool: `read_hex` and `compare_images` of `firmware_image.py`. Text is
the ASCII bytes it was decoded from. -/

namespace Sd700.Tools.Hex
open Logic.Checks Python

/-! ### Lines -/

/-- The characters `str.splitlines` ends a line at, of those ASCII has. -/
def isBreak (c : Byte) : Bool := c ∈ [(0x0A : Byte), 0x0B, 0x0C, 0x0D, 0x1C, 0x1D, 0x1E]

def splitFrom : Bool → List Byte → List (List Byte)
  | _, [] => []
  | returned, c :: text =>
    if returned = true ∧ c = 0x0A then splitFrom false text
    else if isBreak c then [] :: splitFrom (c = 0x0D) text
    else match splitFrom false text with
      | [] => [[c]]
      | line :: lines => (c :: line) :: lines

def splitlines (text : List Byte) : List (List Byte) := splitFrom false text

/-! ### Records -/

def colon : Byte := 0x3A

def hexDigit (c : Byte) : Option ℕ :=
  if 0x30 ≤ c.toNat ∧ c.toNat ≤ 0x39 then some (c.toNat - 0x30)
  else if 0x41 ≤ c.toNat ∧ c.toNat ≤ 0x46 then some (c.toNat - 0x41 + 10)
  else if 0x61 ≤ c.toNat ∧ c.toNat ≤ 0x66 then some (c.toNat - 0x61 + 10)
  else none

/-- `re.fullmatch(':[0-9a-fA-F]+', line)`. -/
def fullmatch (line : List Byte) : Bool :=
  match line with
  | [] => false
  | c :: digits => c = colon ∧ digits ≠ [] ∧ digits.all fun digit => (hexDigit digit).isSome

/-- `bytes.fromhex`, of an even number of digits. -/
def fromHex : List Byte → List Byte
  | high :: low :: digits =>
    BitVec.ofNat 8 (16 * (hexDigit high).getD 0 + (hexDigit low).getD 0) :: fromHex digits
  | _ => []

structure HexState where
  image : Image Byte
  base : ℕ
  entry : Option ℕ
  eof : Bool

def initial : HexState := ⟨∅, 0, none, false⟩

def mayLoad (address : ℕ) (image : Image Byte) : Except Raised Unit := do
  require (InFlash address) "HEX load address outside flash"
  require (address ∉ image) "HEX duplicate/overlapping address"

def takeRecord (s : HexState) (size : ℕ) (kind : Byte) (address : ℕ) (payload : List Byte) :
    Except Raised HexState :=
  if kind = 0 then do
    require (0 < size ∧ address + size ≤ 0x10000) "HEX invalid data record range"
    let image ← write mayLoad (s.base + address) payload s.image
    .ok { s with image := image }
  else if kind = 1 then do
    require (size = 0 ∧ address = 0) "HEX malformed EOF"
    .ok { s with eof := true }
  else if kind = 4 then do
    require (size = 2 ∧ address = 0) "HEX malformed extended linear address"
    .ok { s with base := fromBigEndian payload <<< 16 }
  else if kind = 5 then do
    require (size = 4 ∧ address = 0 ∧ s.entry = none) "HEX malformed/duplicate entry"
    .ok { s with entry := some (fromBigEndian payload) }
  else .error (.valueError "HEX unsupported record type (expected 00/01/04/05)")

/-- One turn of the loop of `read_hex`. -/
def readLine (s : HexState) (line : List Byte) : Except Raised HexState := do
  require (s.eof = false) "HEX record after EOF"
  require (fullmatch line = true) "HEX malformed record"
  require (line.length % 2 = 1) "HEX odd byte encoding"
  let record := fromHex line.tail
  require (5 ≤ record.length ∧ record.length = (byteAt record 0).toNat + 5) "HEX record length mismatch"
  require ((record.map BitVec.toNat).sum &&& 255 = 0) "HEX checksum mismatch"
  takeRecord s (byteAt record 0).toNat (byteAt record 3) (fromBigEndian ((record.drop 1).take 2))
    (record.drop 4).dropLast

def isAscii (data : List Byte) : Bool := data.all fun c => c.toNat < 128

/-- `read_hex`. -/
def readHex (data : List Byte) : Except Raised (Image Byte × ℕ) := do
  require (isAscii data = true) "HEX must be ASCII"
  let s ← (splitlines data).foldlM readLine initial
  require (s.eof = true ∧ s.image ≠ ∅ ∧ s.entry ≠ none) "HEX missing EOF, data or entry record"
  .ok (s.image, s.entry.getD 0)

/-- `compare_images`, against the entry and the load bytes of an ELF file. -/
def compareImages (entry : ℕ) (loadBytes : Image Byte) (hexData : List Byte) : Except Raised Unit := do
  let read ← readHex hexData
  require (read.2 = entry) "HEX/ELF entry mismatch"
  require (read.1 = loadBytes) "HEX/ELF addressized load bytes mismatch"

end Sd700.Tools.Hex
