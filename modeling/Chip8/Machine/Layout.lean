/-!
# The layout of the machine

Sizes and addresses of the parts of the machine, and the hexadecimal font at the start of memory.

## Main definitions

* `Chip8.memorySize`, `Chip8.programStart`, `Chip8.maxProgramSize`
* `Chip8.font` : sixteen glyphs of five bytes, one for each hexadecimal digit.
-/

namespace Chip8

/-- The number of bytes of the memory. -/
abbrev memorySize : Nat := 4096

/-- The address of the first byte of a program. -/
abbrev programStart : Nat := 512

/-- The number of bytes above the program start. -/
abbrev maxProgramSize : Nat := 3584

/-- The address of the glyph of the digit zero. -/
abbrev fontStart : Nat := 0

/-- The number of bytes, and of rows, of a glyph. -/
abbrev glyphSize : Nat := 5

/-- The rows of the glyphs of the digits from `0` to `F`. -/
def font : List UInt8 :=
  [0xF0, 0x90, 0x90, 0x90, 0xF0,
   0x20, 0x60, 0x20, 0x20, 0x70,
   0xF0, 0x10, 0xF0, 0x80, 0xF0,
   0xF0, 0x10, 0xF0, 0x10, 0xF0,
   0x90, 0x90, 0xF0, 0x10, 0x10,
   0xF0, 0x80, 0xF0, 0x10, 0xF0,
   0xF0, 0x80, 0xF0, 0x90, 0xF0,
   0xF0, 0x10, 0x20, 0x40, 0x40,
   0xF0, 0x90, 0xF0, 0x90, 0xF0,
   0xF0, 0x90, 0xF0, 0x10, 0xF0,
   0xF0, 0x90, 0xF0, 0x90, 0x90,
   0xE0, 0x90, 0xE0, 0x90, 0xE0,
   0xF0, 0x80, 0x80, 0x80, 0xF0,
   0xE0, 0x90, 0x90, 0x90, 0xE0,
   0xF0, 0x80, 0xF0, 0x80, 0xF0,
   0xF0, 0x80, 0xF0, 0x80, 0x80]

/-- The number of general registers. -/
abbrev registerCount : Nat := 16

/-- The register that receives carries and collisions. -/
abbrev flagRegister : Nat := 15

/-- The number of return addresses that the call stack holds. -/
abbrev stackSize : Nat := 16

/-- The twelve bits of an address inside an opcode. -/
abbrev addressMask : Nat := 4095

/-- The width of the screen in pixels. -/
abbrev screenWidth : Nat := 64

/-- The height of the screen in pixels. -/
abbrev screenHeight : Nat := 32

/-- The width of a sprite in pixels. -/
abbrev spriteWidth : Nat := 8

/-- The number of keys of the keypad. -/
abbrev keyCount : Nat := 16

/-- The number of instructions of a frame, unless the host sets another. -/
abbrev defaultSpeed : Nat := 10

/-- The frequency of the tone in hertz, unless the host sets another. -/
abbrev defaultToneFrequency : Nat := 440

end Chip8
