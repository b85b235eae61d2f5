/-!
# Arithmetic of two registers

The nine operations on a pair of registers `VX` and `VY`. An operation gives the new value of `VX`,
and some of them a flag: the carry of a sum, the absence of a borrow, the bit that a shift drops.

## Main definitions

* `Chip8.BinaryOp` : the operations.
* `Chip8.BinaryOp.ofDigit?` : the operation that the last digit of an opcode selects.
* `Chip8.BinaryOp.apply` : the result of an operation, and its flag.
-/

namespace Chip8

/-- The operations on two registers. -/
inductive BinaryOp where
  /-- The second value. -/
  | copy
  /-- The bits set in one of the values. -/
  | or
  /-- The bits set in both values. -/
  | and
  /-- The bits set in exactly one of the values. -/
  | xor
  /-- The sum. -/
  | add
  /-- The first value minus the second. -/
  | subtract
  /-- The first value shifted to the right by one bit. -/
  | shiftRight
  /-- The second value minus the first. -/
  | subtractFrom
  /-- The first value shifted to the left by one bit. -/
  | shiftLeft
  deriving DecidableEq, Repr

namespace BinaryOp

/-- The operation that the last digit of an opcode selects. -/
def ofDigit? (n : Int) : Option BinaryOp :=
  if n = 0x0 then some .copy
  else if n = 0x1 then some .or
  else if n = 0x2 then some .and
  else if n = 0x3 then some .xor
  else if n = 0x4 then some .add
  else if n = 0x5 then some .subtract
  else if n = 0x6 then some .shiftRight
  else if n = 0x7 then some .subtractFrom
  else if n = 0xE then some .shiftLeft
  else none

/-- The value of a flag. -/
def flag (p : Prop) [Decidable p] : Option UInt8 :=
  some (if p then 1 else 0)

/-- The new value of `VX` and the flag, if the operation has one, for the values `a` of `VX` and
`b` of `VY`. -/
def apply (op : BinaryOp) (a b : UInt8) : UInt8 × Option UInt8 :=
  match op with
  | .copy => (b, none)
  | .or => (a ||| b, none)
  | .and => (a &&& b, none)
  | .xor => (a ^^^ b, none)
  | .add => (a + b, flag (255 < a.toNat + b.toNat))
  | .subtract => (a - b, flag (b < a))
  | .shiftRight => (a >>> 1, some (a &&& 1))
  | .subtractFrom => (b - a, flag (a < b))
  | .shiftLeft => (a <<< 1, some (a >>> 7))

end BinaryOp

end Chip8
