import Chip8.Device.Call
import Chip8.Device.Keypad
import Chip8.Device.PixelGrid
import Chip8.Instruction.Assembly
import Chip8.Instruction.Operation
import Chip8.Machine.State
import Chip8.Random.Key

/-!
# Execution

The effect of one instruction on the state and on the pixels. The program counter is advanced
before the operation, so jumps, calls and skips act on the advanced value. An instruction that
fails leaves no state behind; its calls of the devices are not undone. One that means nothing is
reported and only advances the program counter. The generator of random bytes is a parameter.

## Main definitions

* `Chip8.Effect` : what an instruction leaves behind.
* `Chip8.Operation.run` : the effect of an operation.
* `Chip8.execute` : the effect of an instruction.
-/

namespace Chip8

/-- What an instruction leaves behind. Its marks on the devices are there even if it failed. -/
structure Effect where
  /-- The state afterwards, or why the instruction failed. -/
  result : Except Error State
  /-- The pixels afterwards. -/
  grid : PixelGrid
  /-- The calls of the devices. -/
  calls : List DeviceCall := []
  /-- The warnings about it. -/
  warnings : List String := []

/-- The effect of a computation that calls no device. -/
def Effect.silent (grid : PixelGrid) (result : Except Error State) : Effect where
  result := result
  grid := grid

namespace State

/-- The value of a register as a number. -/
def valueOf (s : State) (x : Int) : Nat :=
  (s.registers.get x).toNat

/-- The state that skips the next instruction if a condition holds. -/
def skipIf (s : State) (condition : Bool) : State :=
  if condition then s.advance else s

/-- The state that continues at an address, modulo `2 ^ 16`. -/
def goTo (s : State) (address : Int) : State :=
  { s with pc := UInt16.ofInt address }

/-- The state with a word in the index register, modulo `2 ^ 16`. -/
def pointTo (s : State) (address : Int) : State :=
  { s with index := UInt16.ofInt address }

/-- The state after an operation on two registers. The flag is set before the result, so a result
in the flag register stays. -/
def combine (s : State) (op : BinaryOp) (x y : Int) : State :=
  let (result, flag) := op.apply (s.registers.get x) (s.registers.get y)
  let flagged :=
    match flag with
    | some f => s.registers.set flagRegister f
    | none => s.registers
  { s with registers := flagged.set x result }

/-- The values of the registers from zero to `x`. -/
def registersUpTo (s : State) (x : Int) : List Int :=
  (List.range (x + 1).toNat).map fun (i : Nat) => s.valueOf i

/-- The three decimal digits of a register. -/
def decimalDigits (s : State) (x : Int) : List Int :=
  let value := s.valueOf x
  [value / 100, value / 10 % 10, value % 10]

/-- Stores values in memory at the index register. -/
def store (s : State) (values : List Int) : Except Error State := do
  return { s with memory := ← s.memory.write s.index.toNat values }

end State

/-- The columns of the set bits of a sprite row, the highest bit first. -/
def setColumns (row : UInt8) : List Nat :=
  (List.range spriteWidth).filter fun c => (row >>> (7 - c.toUInt8)) &&& 1 == 1

/-- The pixels of a sprite with its upper left corner at `(x, y)`, row by row. -/
def spritePixels (x y : Int) (rows : List UInt8) : List (Int × Int) :=
  rows.zipIdx.flatMap fun (row, r) => (setColumns row).map fun (c : Nat) => (x + c, y + (r : Nat))

variable [Random.Generator]

namespace Operation

/-- Draws a sprite and reports in the flag register whether a lit pixel was turned off. The rows are
read before the first pixel is inverted. -/
def runDraw (s : State) (grid : PixelGrid) (x y height : Int) : Effect :=
  match s.memory.read s.index.toNat height with
  | .error e => .silent grid (.error e)
  | .ok rows =>
    let pixels := spritePixels (s.valueOf x) (s.valueOf y) rows
    let strokes := grid.toggleAll pixels
    { result :=
        match strokes.failure with
        | some e => .error e
        | none => .ok (s.setRegister flagRegister (if strokes.erased.any id then 1 else 0))
      grid := strokes.grid
      calls := (pixels.zip strokes.erased).map fun (p, e) => .pixel p.1 p.2 e }

/-- Skips the next instruction if the key that a register names is in the given position. -/
def runSkipOnKey (s : State) (grid : PixelGrid) (keys : Keys) (x : Int) (position : Bool) :
    Effect :=
  let key := s.valueOf x
  let down := keys.isDown key
  { result := .ok (s.skipIf (down == position)), grid, calls := [.query key down] }

/-- The effect of an operation on a state whose program counter is already advanced. -/
def run (op : Operation) (s : State) (grid : PixelGrid) (keys : Keys) : Effect :=
  match op with
  | .clear => { result := .ok s, grid := .dark grid.width grid.height, calls := [.clear] }
  | .ret => .silent grid do
    let (address, stack) ← s.stack.pop
    return { s with stack := stack, pc := address }
  | .jump address => .silent grid (.ok (s.goTo address))
  | .call address => .silent grid do
    let stack ← s.stack.push s.pc.toNat
    return { s with stack := stack }.goTo address
  | .skipIfValue x value => .silent grid (.ok (s.skipIf (s.valueOf x == value)))
  | .skipUnlessValue x value => .silent grid (.ok (s.skipIf (s.valueOf x != value)))
  | .skipIfEqual x y => .silent grid (.ok (s.skipIf (s.valueOf x == s.valueOf y)))
  | .skipUnlessEqual x y => .silent grid (.ok (s.skipIf (s.valueOf x != s.valueOf y)))
  | .load x value => .silent grid (.ok (s.setRegister x value))
  | .increase x value => .silent grid (.ok (s.setRegister x (s.valueOf x + value)))
  | .combine op x y => .silent grid (.ok (s.combine op x y))
  | .point address => .silent grid (.ok (s.pointTo address))
  | .jumpBeyond address => .silent grid (.ok (s.goTo (address + s.valueOf 0)))
  | .random x mask => .silent grid (.ok { s with
      registers := s.registers.set x (s.key.byte &&& UInt8.ofInt mask), key := s.key.next })
  | .draw x y height => runDraw s grid x y height
  | .skipIfKey x => runSkipOnKey s grid keys x true
  | .skipUnlessKey x => runSkipOnKey s grid keys x false
  | .readDelay x => .silent grid (.ok (s.setRegister x s.delay.toNat))
  | .awaitKey x => .silent grid (.ok { s with waiting := some x })
  | .setDelay x => .silent grid (.ok { s with delay := s.registers.get x })
  | .setSound x => .silent grid (.ok { s with sound := s.registers.get x })
  | .shiftPoint x => .silent grid (.ok (s.pointTo (s.index.toNat + s.valueOf x)))
  | .pointAtGlyph x => .silent grid (.ok (s.pointTo (fontStart + s.valueOf x * glyphSize)))
  | .storeDecimal x => .silent grid (s.store (s.decimalDigits x))
  | .storeRegisters x => .silent grid (s.store (s.registersUpTo x))
  | .loadRegisters x => .silent grid do
    let values ← s.memory.read s.index.toNat (x + 1)
    return { s with registers := s.registers.setFirst values }

end Operation

/-- The warning about an instruction that means nothing, with the program counter advanced past it
to `pc`. -/
def Instruction.ignoredWarning (i : Instruction) (pc : UInt16) : String :=
  "Unhandled instruction 0x" ++ Text.hex 4 i.raw ++ " (" ++ i.assembly ++ ") at 0x" ++
    Text.hex 3 ((pc.toNat : Int) - 2) ++ ", ignored"

/-- The effect of an instruction. A family that is not one of the sixteen is a fault. -/
def execute (i : Instruction) (s : State) (grid : PixelGrid) (keys : Keys) : Effect :=
  if 0 ≤ i.family ∧ i.family < 16 then
    let advanced := s.advance
    match i.operation? with
    | some op => op.run advanced grid keys
    | none =>
      { result := .ok advanced, grid, warnings := [i.ignoredWarning advanced.pc] }
  else .silent grid (.error (.fault (.undecodable (.ofInt i.raw))))

end Chip8
