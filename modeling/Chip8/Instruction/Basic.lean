import Chip8.Host.Integer

/-!
# Instructions

An opcode is a word of sixteen bits. Its first hexadecimal digit names the family of the
instruction, and the others are operands, alone or together. An `Instruction` holds these fields
side by side; one that was not made from an opcode may hold any integers.

## Main definitions

* `Chip8.Instruction`, `Chip8.Instruction.ofOpcode`
* `Chip8.decode` : the instruction of a value handed over by the host.
-/

namespace Chip8

/-- The fields of an instruction. -/
structure Instruction where
  /-- The opcode. -/
  raw : Int
  /-- The first hexadecimal digit, which names the family. -/
  family : Int
  /-- The second digit, which names the register `VX`. -/
  x : Int
  /-- The third digit, which names the register `VY`. -/
  y : Int
  /-- The fourth digit. -/
  n : Int
  /-- The low byte. -/
  nn : Int
  /-- The low twelve bits, an address. -/
  nnn : Int
  deriving DecidableEq, Repr

/-- The fields of an opcode. -/
def Instruction.ofOpcode (opcode : Nat) : Instruction where
  raw := opcode
  family := opcode / 4096 % 16
  x := opcode / 256 % 16
  y := opcode / 16 % 16
  n := opcode % 16
  nn := opcode % 256
  nnn := opcode % 4096

/-- The instruction of a value of the host, which stands for an integer of sixteen bits and is no
truth value. -/
def decode (value : HostValue) : Except Error Instruction :=
  match value with
  | .truth _ => .error (.fault (.undecodable value))
  | _ => do
    let opcode ← value.toInt
    if 0 ≤ opcode ∧ opcode ≤ 0xFFFF then return .ofOpcode opcode.toNat
    else throw (.fault (.undecodable value))

end Chip8
