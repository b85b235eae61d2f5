import Chip8.Host.Byte
import Chip8.Host.Integer
import Chip8.Rom
import Chip8.Session.Basic

/-!
# Loading and resetting

Programs are copied to the program start, and leave the rest of the state as it is. A reset returns
to the state at the start of the session, with the font if it was installed.

## Main definitions

* `Chip8.Program`, `Chip8.Program.bytes`
* `Chip8.Session.load`, `Chip8.Session.loadRom`, `Chip8.Session.loadFont`
* `Chip8.Session.reset`
-/

namespace Chip8

/-- A program as the host hands it over. -/
inductive Program where
  /-- Bytes. -/
  | raw (bytes : List UInt8)
  /-- Values that have to stand for bytes. -/
  | listed (values : List HostValue)

/-- The bytes of a program. -/
def Program.bytes : Program → Except Error (List UInt8)
  | .raw bytes => .ok bytes
  | .listed values => do
    let numbers ← values.mapM HostValue.toInt
    if numbers.all isByte then return numbers.map UInt8.ofInt
    else throw (.misuse .programByte)

namespace Session

open Procedure

/-- Installs the font. -/
def loadFont : Procedure Unit :=
  update fun s => { s with state := s.state.withFont, fontLoaded := true }

/-- Copies a program to the program start. -/
def load (program : Program) : Procedure Unit := do
  let bytes ← ofExcept program.bytes
  if maxProgramSize < bytes.length then fail (.fault (.programTooLarge bytes.length))
  update fun s =>
    { s with state := { s.state with memory := s.state.memory.store programStart bytes } }
  report .info s!"Loaded program of {bytes.length} bytes at 0x200"

/-- Copies a ROM to the program start. -/
def loadRom (name : String) (entry : RomEntry) : Procedure Unit := do
  let bytes ← ofExcept (readRom name entry)
  load (.raw bytes)

/-- Returns to the start of the session. -/
def reset : Procedure Unit := do
  update fun s =>
    let fresh := State.initial s.seedKey
    { s with state := if s.fontLoaded then fresh.withFont else fresh, halted := false }
  report .info "CPU reset"

end Session

end Chip8
