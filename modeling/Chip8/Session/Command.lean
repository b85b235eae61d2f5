import Chip8.Machine.Preset
import Chip8.Random.Threefry
import Chip8.Session.Frame
import Chip8.Session.Keys
import Chip8.Session.Loading

/-!
# Commands

All that a host can do with a session, as data: the history of a session is a list of commands. It
has an outcome for every generator of random bytes; a host that names none runs with the generator
of `Chip8.Random.Threefry`.

## Main definitions

* `Chip8.Command`, `Chip8.Answer`
* `Chip8.Command.perform` : the operation that a command stands for.
* `Chip8.Session.after` : the session after a history.
-/

namespace Chip8

/-- The commands of a host. -/
inductive Command where
  /-- Install the font. -/
  | loadFont
  /-- Load a program. -/
  | load (program : Program)
  /-- Load a ROM. -/
  | loadRom (name : String) (entry : RomEntry)
  /-- Return to the start. -/
  | reset
  /-- Run one frame. -/
  | cycle
  /-- Run several frames. -/
  | runFrames (count : Int)
  /-- Execute an opcode. -/
  | execute (opcode : HostValue)
  /-- Deliver a key to the waiting processor. -/
  | deliverKey (key : HostValue)
  /-- Count the timers down. -/
  | tickTimers
  /-- Start or stop the tone. -/
  | updateTone
  /-- Press a host key. -/
  | press (hostKey : String)
  /-- Release a host key. -/
  | release (hostKey : String)
  /-- Move a key down. -/
  | keyDown (key : Int)
  /-- Move a key up. -/
  | keyUp (key : Int)
  /-- Move all keys up. -/
  | releaseAll
  /-- Ask for the value of a register. -/
  | register (index : Int)
  /-- Ask for a description. -/
  | describe
  /-- Set the level of the logger of unknown instructions. -/
  | setReporterLevel (level : String)
  /-- Set the level of the logger of the processor. -/
  | setLoggerLevel (level : String)
  /-- Read memory. -/
  | readMemory (address length : Int)
  /-- Write memory. -/
  | writeMemory (address : Int) (values : List Int)
  /-- Put parts of the state in place. -/
  | preset (parts : Preset)
  /-- Set the number of instructions of a frame. -/
  | setSpeed (speed : Number)
  /-- Take samples of the tone. -/
  | samples (count : Int)
  /-- Mute the speaker. -/
  | mute
  /-- Unmute the speaker. -/
  | unmute
  /-- Invert a pixel. -/
  | togglePixel (x y : Int)
  /-- Ask for the picture as text. -/
  | screenLines

/-- The answer to a command. -/
inductive Answer where
  /-- The command was carried out. -/
  | done
  /-- A truth value. -/
  | truth (b : Bool)
  /-- A natural number. -/
  | number (n : Nat)
  /-- A text. -/
  | text (s : String)
  /-- Bytes of memory. -/
  | bytes (l : List UInt8)
  /-- Samples of a tone. -/
  | samples (l : List Int)
  /-- The lines of a picture. -/
  | lines (l : List String)

namespace Session

open Procedure

/-- Takes samples of the tone. -/
def takeSamples (count : Int) : Procedure (List Int) := do
  let s ← session
  let (samples, speaker) ← ofExcept (s.speaker.samples count)
  update fun s => { s with speaker := speaker }
  return samples

/-- Inverts a pixel and returns whether it was lit. -/
def togglePixel (x y : Int) : Procedure Bool := do
  let s ← session
  let (erased, screen) ← ofExcept (s.screen.toggle x y)
  update fun s => { s with screen := screen }
  note [.pixel x y erased]
  return erased

/-- Writes memory. -/
def writeMemory (address : Int) (values : List Int) : Procedure Unit := do
  let s ← session
  let memory ← ofExcept (s.state.memory.write address values)
  update fun s => { s with state := { s.state with memory := memory } }

/-- Puts parts of the state in place. -/
def applyPreset (parts : Preset) : Procedure Unit := do
  let s ← session
  let state ← ofExcept (parts.apply s.state)
  update fun s => { s with state := state }

/-- Sets the level of the logger of unknown instructions. -/
def setReporterLevel (level : String) : Procedure Unit := do
  let s ← session
  let reporter ← ofExcept (s.reporter.setLevel level)
  update fun s => { s with reporter := reporter }

/-- Sets the level of the logger of the processor. -/
def setLoggerLevel (level : String) : Procedure Unit := do
  let s ← session
  let logger ← ofExcept (s.logger.setLevel level)
  update fun s => { s with logger := logger }

end Session

variable [Random.Generator]

open Procedure in
/-- The operation that a command stands for. -/
def Command.perform : Command → Procedure Answer
  | .loadFont => do Session.loadFont; return .done
  | .load program => do Session.load program; return .done
  | .loadRom name entry => do Session.loadRom name entry; return .done
  | .reset => do Session.reset; return .done
  | .cycle => do Session.cycle; return .done
  | .runFrames count => do Session.runFrames count; return .truth true
  | .execute opcode => do Session.executeOpcode opcode; return .done
  | .deliverKey key => do return .truth (← Session.deliverKey key)
  | .tickTimers => do Session.tickTimers; return .done
  | .updateTone => do Session.updateTone; return .done
  | .press hostKey => do return .truth (← Session.press hostKey)
  | .release hostKey => do return .truth (← Session.release hostKey)
  | .keyDown key => do Session.keyDown key; return .done
  | .keyUp key => do Session.keyUp key; return .done
  | .releaseAll => do Session.releaseAll; return .done
  | .register index => do return .number ((← session).state.valueOf index)
  | .describe => do return .text (← session).describe
  | .setReporterLevel level => do Session.setReporterLevel level; return .done
  | .setLoggerLevel level => do Session.setLoggerLevel level; return .done
  | .readMemory address length => do
    return .bytes (← ofExcept ((← session).state.memory.read address length))
  | .writeMemory address values => do Session.writeMemory address values; return .done
  | .preset parts => do Session.applyPreset parts; return .done
  | .setSpeed speed => do update fun s => { s with speed := speed }; return .done
  | .samples count => do return .samples (← Session.takeSamples count)
  | .mute => do update fun s => { s with speaker := s.speaker.mute }; return .done
  | .unmute => do update fun s => { s with speaker := s.speaker.unmute }; return .done
  | .togglePixel x y => do return .truth (← Session.togglePixel x y)
  | .screenLines => do return .lines (← session).screen.grid.lines

/-- The session after a history of commands, some of which may have failed. -/
def Session.after (s : Session) : List Command → Session
  | [] => s
  | c :: l => Session.after (c.perform s).session l

/-- One history after another. -/
theorem Session.after_append (s : Session) (history further : List Command) :
    s.after (history ++ further) = (s.after history).after further := by
  induction history generalizing s with
  | nil => rfl
  | cons c history ih => exact ih _

end Chip8
