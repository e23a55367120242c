import Mathlib
import Sd700.Logic.Checks

/-! What the image readers take from Python and from the device: bytes, integers in them, the exceptions they
can end with, and where the flash is. -/

namespace Sd700.Tools.Python
open Logic.Checks

abbrev Byte := BitVec 8

instance : LawfulBEq Byte := inferInstance

/-- The exceptions a reader can end with. A `UnicodeDecodeError` is a `ValueError`. -/
inductive Raised
  | valueError (message : String)
  | unicodeDecodeError
  | indexError
  | structError
  | keyError
  deriving DecidableEq, Repr

def require (condition : Prop) [Decidable condition] (message : String) : Except Raised Unit :=
  demand condition (.valueError message)

def flashStart : ℕ := 0x08000000
def flashEnd : ℕ := 0x08040000

def InFlash (address : ℕ) : Prop := flashStart ≤ address ∧ address < flashEnd

instance (address : ℕ) : Decidable (InFlash address) := inferInstanceAs (Decidable (_ ∧ _))

def byteAt (bytes : List Byte) (i : ℕ) : Byte := bytes.getD i 0

/-- `int.from_bytes(bytes, 'big')`. -/
def fromBigEndian (bytes : List Byte) : ℕ := bytes.foldl (fun n byte => n * 256 + byte.toNat) 0

theorem require_ok {condition : Prop} [Decidable condition] {message : String} :
    require condition message = .ok () ↔ condition := demand_ok

end Sd700.Tools.Python
