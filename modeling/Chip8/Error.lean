import Chip8.Host.Value
import Chip8.Text.Hexadecimal

/-!
# Errors

A *fault* is what the machine itself cannot do: execute an opcode that is none, call too deep,
reach outside the memory, load a program that does not fit. A fault of an executing instruction
halts the processor. A *misuse* is a request of the host that makes no sense; it halts nothing.

## Main definitions

* `Chip8.Fault`, `Chip8.Fault.name`, `Chip8.Fault.message`
* `Chip8.Misuse`, `Chip8.Misuse.message`
* `Chip8.Error` : a fault or a misuse.
-/

namespace Chip8

/-- The faults of the machine. -/
inductive Fault where
  /-- The value is no opcode of sixteen bits. -/
  | undecodable (opcode : HostValue)
  /-- A return with an empty call stack. -/
  | emptyStack
  /-- A call with a full call stack. -/
  | fullStack
  /-- An access to `length` bytes from `address` on leaves the memory. -/
  | outOfBounds (address length : Int)
  /-- A program is larger than the memory above the program start. -/
  | programTooLarge (length : Nat)
  /-- A ROM is larger than the memory above the program start. -/
  | romTooLarge (name : String) (length : Nat)
  /-- A ROM cannot be read. -/
  | romUnreadable (name reason : String)
  /-- A frame was requested of a halted processor. -/
  | halted

namespace Fault

/-- The name under which a fault is logged. -/
def name : Fault → String
  | .undecodable _ => "DecodeError"
  | .emptyStack => "StackUnderflowError"
  | .fullStack => "StackOverflowError"
  | .outOfBounds .. | .programTooLarge _ | .romTooLarge .. => "MemoryBoundsError"
  | .romUnreadable .. => "RomLoadError"
  | .halted => "CPUHaltedError"

/-- The description of a fault. -/
def message : Fault → String
  | .undecodable opcode => "Cannot decode opcode " ++ opcode.quoted
  | .emptyStack => "Return with an empty call stack"
  | .fullStack => "Call stack is full (16 entries)"
  | .outOfBounds address length =>
    s!"Memory access of {length} byte(s) at 0x{Text.hex 3 address} is out of bounds"
  | .programTooLarge length => s!"Program of {length} bytes exceeds the 3584 bytes available"
  | .romTooLarge name length =>
    "ROM '" ++ name ++ s!"' is {length} bytes, at most 3584 fit in memory"
  | .romUnreadable name reason => "Could not load ROM '" ++ name ++ "': " ++ reason
  | .halted => "CPU halted after a fatal error; call reset() first"

end Fault

/-- Whether an integer fits in 64 signed bits. -/
def fitsInWord (n : Int) : Bool :=
  -0x8000000000000000 ≤ n && n < 0x8000000000000000

/-- The requests that make no sense. -/
inductive Misuse where
  /-- No integer can be made of the value, whatever it holds. -/
  | notANumber (value : HostValue)
  /-- The text is no decimal integer. -/
  | notANumeral (text : String)
  /-- An infinite number has no integer part. -/
  | infiniteNumber
  /-- NaN has no integer part. -/
  | undefinedNumber
  /-- The number of instructions of a frame is a double. -/
  | fractionalCount
  /-- The value is no byte. -/
  | notAByte (value : Int)
  /-- A program holds a value that is no byte. -/
  | programByte
  /-- The integer does not fit in 64 signed bits. -/
  | wordTooLarge
  /-- The integer is too large for a double. -/
  | numberTooLarge
  /-- The key is none of the sixteen. -/
  | noSuchKey (key : Int)
  /-- The log level is none of the five. -/
  | noSuchLevel (level : String)
  /-- A frame needs at least one instruction. -/
  | speedNotPositive (speed : Number)
  /-- The tone of a configuration needs a positive frequency. -/
  | toneNotPositive (frequency : Number)
  /-- A tone needs a positive frequency. -/
  | frequencyNotPositive (frequency : Number)
  /-- A number of frames cannot be negative. -/
  | negativeFrames (count : Int)
  /-- A size cannot be negative. -/
  | negativeSize
  /-- A pixel was addressed on a screen without pixels. -/
  | emptyScreen
  /-- The listener is not attached. -/
  | noSuchListener
  /-- A picture is enlarged at least once. -/
  | scaleNotPositive (scale : Int)
  /-- A recorder keeps at least one frame. -/
  | capacityNotPositive (capacity : Int)
  /-- The capacity does not fit in 64 signed bits. -/
  | capacityTooLarge
  /-- Nothing was recorded. -/
  | nothingRecorded
  /-- No frame was recorded at that place. -/
  | noSuchFrame
  /-- The place of a frame does not fit in 64 signed bits. -/
  | indexTooLarge
  /-- The color scheme is none of the six. -/
  | noSuchScheme (scheme : String)
  /-- A picture without pixels cannot be saved. -/
  | emptyPicture
  /-- A frame of this size does not fit on the phosphor. -/
  | glowMismatch (width height : Nat)
  /-- A frame of this size does not fit in a video. -/
  | frameMismatch (width height : Nat)
  /-- A video needs a frame rate other than the integer zero. -/
  | zeroRate
  /-- A video needs a frame rate other than the double zero. -/
  | zeroRealRate
  /-- A file name holds a null character. -/
  | nullInName

/-- The description of a misuse. -/
def Misuse.message : Misuse → String
  | .notANumber value =>
    "int() argument must be a string, a bytes-like object or a real number, not '" ++
      value.kindName ++ "'"
  | .notANumeral text => "invalid literal for int() with base 10: " ++ Text.quote text
  | .infiniteNumber => "cannot convert float infinity to integer"
  | .undefinedNumber => "cannot convert float NaN to integer"
  | .fractionalCount => "'float' object cannot be interpreted as an integer"
  | .notAByte value => s!"Python integer {value} out of bounds for uint8"
  | .programByte => "Program bytes must be in the range 0-255"
  | .wordTooLarge => "Python int too large to convert to C long"
  | .numberTooLarge => "int too large to convert to float"
  | .noSuchKey key => s!"Key must be in 0x0-0xF, got {key}"
  | .noSuchLevel level =>
    "Unknown log level '" ++ level ++
      "'. Available: ['DEBUG', 'INFO', 'WARNING', 'ERROR', 'CRITICAL']"
  | .speedNotPositive speed =>
    "speed must be a positive number of instructions, got " ++ speed.text
  | .toneNotPositive frequency => "tone_frequency must be positive, got " ++ frequency.text
  | .frequencyNotPositive frequency => "Frequency must be positive, got " ++ frequency.text
  | .negativeFrames count => s!"num_frames must be >= 0, got {count}"
  | .negativeSize => "negative dimensions are not allowed"
  | .emptyScreen => "integer modulo by zero"
  | .noSuchListener => "list.remove(x): x not in list"
  | .scaleNotPositive scale => s!"scale must be >= 1, got {scale}"
  | .capacityNotPositive capacity => s!"max_frames must be >= 1, got {capacity}"
  | .capacityTooLarge => "Python int too large to convert to C ssize_t"
  | .nothingRecorded => "No frames recorded"
  | .noSuchFrame => "deque index out of range"
  | .indexTooLarge => "cannot fit 'int' into an index-sized integer"
  | .noSuchScheme scheme =>
    "Unknown color scheme '" ++ scheme ++
      "'. Available: ['classic', 'amber', 'white', 'blue', 'retro', 'octo']"
  | .emptyPicture => "tile cannot extend outside image"
  | .glowMismatch width height =>
    s!"operands could not be broadcast together with shapes (64,32) ({width},{height}) "
  | .frameMismatch width height =>
    s!"could not broadcast input array from shape ({height},{width}) into shape (32,64)"
  | .zeroRate => "division by zero"
  | .zeroRealRate => "float division by zero"
  | .nullInName => "embedded null byte"

/-- Why an operation failed. -/
inductive Error where
  /-- The machine cannot do it. -/
  | fault (f : Fault)
  /-- The request makes no sense. -/
  | misuse (m : Misuse)

namespace Error

/-- The description of an error. -/
def message : Error → String
  | .fault f => f.message
  | .misuse m => m.message

end Error

end Chip8
