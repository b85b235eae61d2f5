import Chip8.Machine.Execution
import Chip8.Session.Basic

/-!
# Frames

The host drives a session frame by frame. A frame executes a batch of instructions, counts the
timers down unless the processor waits for a key, starts or stops the tone, and renders the screen.
A fault ends the frame and halts the processor.

## Main definitions

* `Chip8.Session.executeOpcode` : one instruction.
* `Chip8.Session.cycle` : one frame.
* `Chip8.Session.runFrames` : several frames.
-/

namespace Chip8.Session

open Procedure

/-- Logs an instruction before it is executed, if the configuration asks for it. -/
def traceInstruction (i : Instruction) : Procedure Unit := do
  let s ← session
  if s.config.trace then
    report .debug ("0x" ++ Text.hex 3 s.state.pc.toNat ++ ": " ++ Text.hex 4 i.raw ++ "  " ++
      i.assembly)

variable [Random.Generator]

/-- Executes an instruction on the state and the screen. The screen keeps what was drawn even if the
instruction fails. -/
def perform (i : Instruction) : Procedure Unit := do
  let s ← session
  let effect := execute i s.state s.screen.grid s.keypad.keys
  update fun s => { s with screen := { s.screen with grid := effect.grid } }
  note effect.calls
  print (effect.warnings.flatMap (s.reporter.logAt s.now .warning))
  let state ← ofExcept effect.result
  update fun s => { s with state := state }

/-- Installs the hook for the key that the processor waits for. -/
def requestKey : Procedure Unit := do
  update fun s => { s with keypad := s.keypad.hook () }
  note [.hook]

/-- Decodes and executes an opcode. A wait for a key that begins with it installs the hook. -/
def executeOpcode (opcode : HostValue) : Procedure Unit := do
  let before ← session
  haltingOnFault do
    let i ← ofExcept (decode opcode)
    traceInstruction i
    perform i
  let after ← session
  if after.paused && !before.paused then requestKey

/-- Executes the instruction at the program counter. -/
def step : Procedure Unit := do
  let s ← session
  let opcode ← haltingOnFault (ofExcept s.state.fetch)
  executeOpcode (.ofInt opcode)

/-- Executes up to `n` instructions, and none while the processor waits for a key. -/
def batch : Nat → Procedure Unit
  | 0 => pure ()
  | n + 1 => do
    let s ← session
    if s.paused then pure ()
    else
      step
      batch n

/-- Counts both timers down. -/
def tickTimers : Procedure Unit :=
  update fun s => { s with state := s.state.tick }

/-- Keeps the tone on while the sound timer runs. -/
def updateTone : Procedure Unit := do
  let s ← session
  if 0 < s.state.sound then
    let (result, speaker) := s.speaker.play s.config.toneFrequency
    update fun s => { s with speaker := speaker }
    ofExcept result
    note [.play speaker.frequency]
  else
    update fun s => { s with speaker := s.speaker.stop }
    note [.stop]

/-- Renders the screen. -/
def render : Procedure Unit := do
  let s ← session
  let (deliveries, screen) := s.screen.render
  update fun s => { s with screen := screen }
  note [.render]
  deliver deliveries

/-- The number of instructions of a frame. Zero or less stands for none. -/
def batchSize : Procedure Nat := do
  let s ← session
  match s.speed with
  | .int n => return n.toNat
  | .real _ => fail (.misuse .fractionalCount)

/-- Ends a frame: timers, tone and picture. -/
def endFrame : Procedure Unit := do
  let s ← session
  unless s.paused do tickTimers
  updateTone
  render

/-- Runs one frame. -/
def cycle : Procedure Unit := do
  let s ← session
  if s.halted then fail (.fault .halted)
  batch (← batchSize)
  endFrame

/-- Runs `n` frames, as long as none fails. -/
def cycles : Nat → Procedure Unit
  | 0 => pure ()
  | n + 1 => do
    cycle
    cycles n

/-- Runs a number of frames given by the host. -/
def runFrames (count : Int) : Procedure Unit :=
  if count < 0 then fail (.misuse (.negativeFrames count)) else cycles count.toNat

end Chip8.Session
