import Chip8.Error

/-!
# Bytes made of integers

A byte that the host gives as an integer is refused if it is not one.

## Main definitions

* `Chip8.isByte`
* `Chip8.toByte` : the byte that an integer is.
-/

namespace Chip8

/-- Whether an integer is a byte. -/
def isByte (value : Int) : Bool :=
  0 ≤ value && value < 256

theorem isByte_iff {value : Int} : isByte value ↔ 0 ≤ value ∧ value < 256 := by
  simp [isByte]

/-- Why an integer that is no byte was refused. -/
def Misuse.ofNonByte (value : Int) : Misuse :=
  if fitsInWord value then .notAByte value else .wordTooLarge

/-- The byte that an integer is. -/
def toByte (value : Int) : Except Error UInt8 :=
  if isByte value then .ok (UInt8.ofInt value) else .error (.misuse (.ofNonByte value))

end Chip8
