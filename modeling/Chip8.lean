import Chip8.Machine.Preset
import Chip8.Device.History
import Chip8.Picture.Video
import Chip8.Session.Command
import Chip8.Proofs.InstructionSet
import Chip8.Proofs.Effect
import Chip8.Proofs.Step
import Chip8.Proofs.Path
import Chip8.Proofs.Frame
import Chip8.Proofs.Failure
import Chip8.Proofs.KeyWait
import Chip8.Proofs.Control
import Chip8.Proofs.Subroutine
import Chip8.Proofs.Bounds
import Chip8.Proofs.Agree
import Chip8.Proofs.Alike
import Chip8.Proofs.Reset
import Chip8.Proofs.Timers
import Chip8.Proofs.Trace
import Chip8.Proofs.Cut
import Chip8.Proofs.Footprint
import Chip8.Proofs.Halting
import Chip8.Proofs.Tone
import Chip8.Proofs.Watching
import Chip8.Proofs.Disassembly
import Chip8.Proofs.RandomStream
import Chip8.Proofs.Recording
import Chip8.Proofs.Toggles
import Chip8.Proofs.Sprite
import Chip8.Proofs.ProgramCounter
import Chip8.Proofs.SavedRegisters
import Chip8.Proofs.Arithmetic
import Chip8.Proofs.Loading
import Chip8.Proofs.WellFormed
import Chip8.Proofs.Rounding
import Chip8.Proofs.Glow
import Chip8.Proofs.Film
import Chip8.Proofs.Afterglow
import Chip8.Proofs.KeyHistory
import Chip8.Proofs.LowerCase
import Chip8.Proofs.HostKeys
import Chip8.Proofs.SampleStream
import Chip8.Proofs.ScreenHistory
import Chip8.Proofs.IndexedAccess
import Chip8.Proofs.MemoryStore
import Chip8.Proofs.StackHistory
