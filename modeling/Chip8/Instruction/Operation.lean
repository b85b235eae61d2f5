import Chip8.Instruction.Arithmetic
import Chip8.Instruction.Basic

/-!
# Operations

What an instruction means: one of the operations of the machine with its operands. Registers are
given by their index. An instruction whose family or sub-code is not in use means nothing.

## Main definitions

* `Chip8.Operation` : the operations.
* `Chip8.Instruction.operation?` : the operation that an instruction means.
-/

namespace Chip8

/-- The operations of the machine. -/
inductive Operation where
  /-- Turns every pixel off. -/
  | clear
  /-- Returns from a subroutine. -/
  | ret
  /-- Continues at an address. -/
  | jump (address : Int)
  /-- Calls the subroutine at an address. -/
  | call (address : Int)
  /-- Skips the next instruction if the register holds the value. -/
  | skipIfValue (x value : Int)
  /-- Skips the next instruction unless the register holds the value. -/
  | skipUnlessValue (x value : Int)
  /-- Skips the next instruction if the registers are equal. -/
  | skipIfEqual (x y : Int)
  /-- Skips the next instruction unless the registers are equal. -/
  | skipUnlessEqual (x y : Int)
  /-- Sets the register to a value. -/
  | load (x value : Int)
  /-- Adds a value to the register, without a carry. -/
  | increase (x value : Int)
  /-- Combines two registers. -/
  | combine (op : BinaryOp) (x y : Int)
  /-- Sets the index register to an address. -/
  | point (address : Int)
  /-- Continues at an address plus the value of the first register. -/
  | jumpBeyond (address : Int)
  /-- Sets the register to a random byte, masked. -/
  | random (x mask : Int)
  /-- Draws a sprite of `height` rows at the position that two registers hold. -/
  | draw (x y height : Int)
  /-- Skips the next instruction if the key that the register names is down. -/
  | skipIfKey (x : Int)
  /-- Skips the next instruction unless the key that the register names is down. -/
  | skipUnlessKey (x : Int)
  /-- Sets the register to the delay timer. -/
  | readDelay (x : Int)
  /-- Waits for a key, which the register receives. -/
  | awaitKey (x : Int)
  /-- Sets the delay timer to the register. -/
  | setDelay (x : Int)
  /-- Sets the sound timer to the register. -/
  | setSound (x : Int)
  /-- Adds the register to the index register. -/
  | shiftPoint (x : Int)
  /-- Points at the glyph of the digit that the register holds. -/
  | pointAtGlyph (x : Int)
  /-- Stores the three decimal digits of the register. -/
  | storeDecimal (x : Int)
  /-- Stores the registers up to the given one. -/
  | storeRegisters (x : Int)
  /-- Loads the registers up to the given one. -/
  | loadRegisters (x : Int)
  deriving DecidableEq, Repr

namespace Instruction

/-- The operation of a system opcode. -/
def systemOperation? (i : Instruction) : Option Operation :=
  if i.raw = 0x00E0 then some .clear
  else if i.raw = 0x00EE then some .ret
  else none

/-- The operation of an opcode that asks for a key. -/
def keyOperation? (i : Instruction) : Option Operation :=
  if i.nn = 0x9E then some (.skipIfKey i.x)
  else if i.nn = 0xA1 then some (.skipUnlessKey i.x)
  else none

/-- The operation of an opcode of the last family. -/
def miscellaneousOperation? (i : Instruction) : Option Operation :=
  if i.nn = 0x07 then some (.readDelay i.x)
  else if i.nn = 0x0A then some (.awaitKey i.x)
  else if i.nn = 0x15 then some (.setDelay i.x)
  else if i.nn = 0x18 then some (.setSound i.x)
  else if i.nn = 0x1E then some (.shiftPoint i.x)
  else if i.nn = 0x29 then some (.pointAtGlyph i.x)
  else if i.nn = 0x33 then some (.storeDecimal i.x)
  else if i.nn = 0x55 then some (.storeRegisters i.x)
  else if i.nn = 0x65 then some (.loadRegisters i.x)
  else none

/-- The operation that an instruction means, if it means any. Every family that is not one of the
first fifteen is read as the last one. -/
def operation? (i : Instruction) : Option Operation :=
  if i.family = 0x0 then i.systemOperation?
  else if i.family = 0x1 then some (.jump i.nnn)
  else if i.family = 0x2 then some (.call i.nnn)
  else if i.family = 0x3 then some (.skipIfValue i.x i.nn)
  else if i.family = 0x4 then some (.skipUnlessValue i.x i.nn)
  else if i.family = 0x5 then if i.n = 0 then some (.skipIfEqual i.x i.y) else none
  else if i.family = 0x6 then some (.load i.x i.nn)
  else if i.family = 0x7 then some (.increase i.x i.nn)
  else if i.family = 0x8 then (BinaryOp.ofDigit? i.n).map fun op => .combine op i.x i.y
  else if i.family = 0x9 then if i.n = 0 then some (.skipUnlessEqual i.x i.y) else none
  else if i.family = 0xA then some (.point i.nnn)
  else if i.family = 0xB then some (.jumpBeyond i.nnn)
  else if i.family = 0xC then some (.random i.x i.nn)
  else if i.family = 0xD then some (.draw i.x i.y i.n)
  else if i.family = 0xE then i.keyOperation?
  else i.miscellaneousOperation?

end Instruction

end Chip8
