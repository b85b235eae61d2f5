import Chip8.Machine.CallStack
import Chip8.Machine.Memory
import Chip8.Machine.Registers
import Chip8.Random.Key

/-!
# The state of the processor

Memory, registers, call stack, timers and the key of the random generator. The processor waits for
a key when a register is waiting to receive one.

## Main definitions

* `Chip8.State`, `Chip8.State.initial`
* `Chip8.State.fetch` : the opcode at the program counter.
* `Chip8.State.tick` : the timers counted down by one.

## Main statements

* `Chip8.State.fetch_eq` : an opcode is two bytes of the memory.
* `Chip8.State.toNat_countDown` : a timer stops at zero.
-/

namespace Chip8

/-- The state of the processor. -/
structure State where
  /-- The key of the next random byte. -/
  key : Random.Key
  /-- The memory. -/
  memory : Memory := .blank
  /-- The program counter. -/
  pc : UInt16 := 512
  /-- The return addresses. -/
  stack : CallStack := .empty
  /-- The delay timer. -/
  delay : UInt8 := 0
  /-- The sound timer. -/
  sound : UInt8 := 0
  /-- The general registers. -/
  registers : Registers := .blank
  /-- The index register. -/
  index : UInt16 := 0
  /-- The register that waits for a key, if the processor is paused. -/
  waiting : Option Int := none
  deriving DecidableEq

namespace State

/-- The state before any program is loaded, with the program counter at the program start. -/
def initial (key : Random.Key) : State where
  key := key

/-- The processor waits for a key. -/
def paused (s : State) : Bool :=
  s.waiting.isSome

/-- The opcode at the program counter, the high byte first. -/
def fetch (s : State) : Except Error Nat := do
  let bytes ← s.memory.read s.pc.toNat 2
  return bytes.foldl (fun n b => 256 * n + b.toNat) 0

/-- Advances the program counter by one instruction, modulo `2 ^ 16`. -/
def advance (s : State) : State :=
  { s with pc := s.pc + 2 }

/-- Sets a register to the low byte of an integer. -/
def setRegister (s : State) (index value : Int) : State :=
  { s with registers := s.registers.set index (UInt8.ofInt value) }

/-- Counts a timer down by one, stopping at zero. -/
def countDown (timer : UInt8) : UInt8 :=
  if 0 < timer then timer - 1 else timer

/-- Counts both timers down by one, stopping at zero. -/
def tick (s : State) : State :=
  { s with delay := countDown s.delay, sound := countDown s.sound }

/-- Ends a wait with a key, whose low four bits the waiting register receives. -/
def deliver (s : State) (register key : Int) : State :=
  { s.setRegister register (key % 16) with waiting := none }

/-- The state with the font in memory. -/
def withFont (s : State) : State :=
  { s with memory := s.memory.withFont }

/-- The opcode is made of the two bytes at the program counter, if the memory has both. -/
theorem fetch_eq (s : State) :
    s.fetch =
      if s.pc.toNat ≤ 4094 then
        .ok (256 * (s.memory.peek s.pc.toNat).toNat + (s.memory.peek (s.pc.toNat + 1)).toNat)
      else .error (.fault (.outOfBounds s.pc.toNat 2)) := by
  have hb : InBounds s.pc.toNat 2 ↔ s.pc.toNat ≤ 4094 := by
    simp only [InBounds, memorySize]
    omega
  unfold fetch
  rw [Memory.read_eq]
  by_cases h : s.pc.toNat ≤ 4094
  · rw [if_pos (hb.2 h), if_pos h]
    simp [List.range_succ, bind, Except.bind, pure, Except.pure]
  · rw [if_neg (mt hb.1 h), if_neg h]
    rfl

theorem pc_le_of_fetch {s : State} {opcode : Nat} (h : s.fetch = .ok opcode) :
    s.pc.toNat ≤ 4094 := by
  rw [fetch_eq] at h
  split at h
  · assumption
  · cases h

theorem fetch_lt {s : State} {opcode : Nat} (h : s.fetch = .ok opcode) : opcode < 65536 := by
  rw [fetch_eq] at h
  split at h
  · cases h
    have := (s.memory.peek s.pc.toNat).toNat_lt
    have := (s.memory.peek (s.pc.toNat + 1)).toNat_lt
    omega
  · cases h

theorem toNat_countDown (timer : UInt8) : (countDown timer).toNat = timer.toNat - 1 := by
  unfold countDown
  split
  · rename_i h
    have h1 : 1 ≤ timer := UInt8.le_iff_toNat_le.2 (UInt8.lt_iff_toNat_lt.1 h)
    simpa using UInt8.toNat_sub_of_le timer 1 h1
  · rename_i h
    have : timer.toNat ≤ 0 := by simpa [UInt8.lt_iff_toNat_lt] using h
    omega

end State

end Chip8
