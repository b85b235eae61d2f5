import Chip8.Instruction.Basic

/-!
# Assembly syntax

The conventional text of an instruction. Registers and bytes are written in hexadecimal, and the
height of a sprite in decimal. A shift names its first register only. What is in none of the tables
is written as a data word.

The text is found from the fields of the instruction by tables of its own. It does not ask how the
instruction is executed.

## Main definitions

* `Chip8.Instruction.assembly` : the text of an instruction.
-/

namespace Chip8

/-- The name of a register. -/
def registerName (x : Int) : String :=
  "V" ++ Text.hex 1 x

/-- The text of a byte operand. -/
def byteOperand (value : Int) : String :=
  "0x" ++ Text.hex 2 value

/-- The text of an address operand. -/
def addressOperand (address : Int) : String :=
  "0x" ++ Text.hex 3 address

namespace Instruction

/-- The texts of the system opcodes. -/
def systemTexts : List (Int × String) :=
  [(0x00E0, "CLS"), (0x00EE, "RET")]

/-- The names of the operations on two registers, by the last digit. -/
def arithmeticNames : List (Int × String) :=
  [(0x0, "LD"), (0x1, "OR"), (0x2, "AND"), (0x3, "XOR"), (0x4, "ADD"), (0x5, "SUB"), (0x6, "SHR"),
   (0x7, "SUBN"), (0xE, "SHL")]

/-- The names of the opcodes that ask for a key, by the low byte. -/
def keyNames : List (Int × String) :=
  [(0x9E, "SKP "), (0xA1, "SKNP ")]

/-- The formats of the last family, by the low byte: what stands in front of the register, and what
behind it. -/
def miscellaneousFormats : List (Int × String × String) :=
  [(0x07, "LD ", ", DT"), (0x0A, "LD ", ", K"), (0x15, "LD DT, ", ""), (0x18, "LD ST, ", ""),
   (0x1E, "ADD I, ", ""), (0x29, "LD F, ", ""), (0x33, "LD B, ", ""), (0x55, "LD [I], ", ""),
   (0x65, "LD ", ", [I]")]

/-- The text of an instruction that is in none of the tables. -/
def dataWord (i : Instruction) : String :=
  "DW 0x" ++ Text.hex 4 i.raw

/-- The text of an operation on two registers with a name. -/
def arithmeticText (i : Instruction) (name : String) : String :=
  if i.n = 0x6 ∨ i.n = 0xE then name ++ " " ++ registerName i.x
  else name ++ " " ++ registerName i.x ++ ", " ++ registerName i.y

/-- The text of an instruction of the last family with a format. -/
def miscellaneousText (i : Instruction) (format : String × String) : String :=
  format.1 ++ registerName i.x ++ format.2

/-- The text of an instruction. Every family that is not one of the first fifteen is written as the
last one. -/
def assembly (i : Instruction) : String :=
  if i.family = 0x0 then (systemTexts.lookup i.raw).getD i.dataWord
  else if i.family = 0x1 then "JP " ++ addressOperand i.nnn
  else if i.family = 0x2 then "CALL " ++ addressOperand i.nnn
  else if i.family = 0x3 then "SE " ++ registerName i.x ++ ", " ++ byteOperand i.nn
  else if i.family = 0x4 then "SNE " ++ registerName i.x ++ ", " ++ byteOperand i.nn
  else if i.family = 0x5 then
    if i.n = 0 then "SE " ++ registerName i.x ++ ", " ++ registerName i.y else i.dataWord
  else if i.family = 0x6 then "LD " ++ registerName i.x ++ ", " ++ byteOperand i.nn
  else if i.family = 0x7 then "ADD " ++ registerName i.x ++ ", " ++ byteOperand i.nn
  else if i.family = 0x8 then ((arithmeticNames.lookup i.n).map i.arithmeticText).getD i.dataWord
  else if i.family = 0x9 then
    if i.n = 0 then "SNE " ++ registerName i.x ++ ", " ++ registerName i.y else i.dataWord
  else if i.family = 0xA then "LD I, " ++ addressOperand i.nnn
  else if i.family = 0xB then "JP V0, " ++ addressOperand i.nnn
  else if i.family = 0xC then "RND " ++ registerName i.x ++ ", " ++ byteOperand i.nn
  else if i.family = 0xD then
    "DRW " ++ registerName i.x ++ ", " ++ registerName i.y ++ ", " ++ toString i.n
  else if i.family = 0xE then
    ((keyNames.lookup i.nn).map (· ++ registerName i.x)).getD i.dataWord
  else ((miscellaneousFormats.lookup i.nn).map i.miscellaneousText).getD i.dataWord

end Instruction

end Chip8
