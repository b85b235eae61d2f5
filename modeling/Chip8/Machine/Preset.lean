import Chip8.Machine.State

/-!
# Presets

A preset puts a state together part by part: memory first, then registers, program counter, index
register, timers, call stack and wait. Words and timers take the low bits of what is given.

## Main definitions

* `Chip8.Preset`, `Chip8.Preset.apply`
-/

namespace Chip8

/-- The parts of a state that the host sets. -/
structure Preset where
  /-- Bytes to be written, each list from its address on. -/
  memory : List (Int × List Int) := []
  /-- The values of the first registers. -/
  registers : List UInt8 := []
  /-- The program counter. -/
  pc : Option Int := none
  /-- The index register. -/
  index : Option Int := none
  /-- The delay timer. -/
  delay : Option Int := none
  /-- The sound timer. -/
  sound : Option Int := none
  /-- Return addresses to be pushed, the first one first. -/
  stack : List Int := []
  /-- The waiting register, or that none is waiting. -/
  waiting : Option (Option Int) := none

/-- The state with the parts of a preset. -/
def Preset.apply (p : Preset) (s : State) : Except Error State := do
  let memory ← p.memory.foldlM (fun m part => m.write part.1 part.2) s.memory
  let stack ← s.stack.pushAll p.stack
  return { s with
    memory
    registers := s.registers.setFirst p.registers
    pc := (p.pc.map UInt16.ofInt).getD s.pc
    index := (p.index.map UInt16.ofInt).getD s.index
    delay := (p.delay.map UInt8.ofInt).getD s.delay
    sound := (p.sound.map UInt8.ofInt).getD s.sound
    stack
    waiting := p.waiting.getD s.waiting }

end Chip8
