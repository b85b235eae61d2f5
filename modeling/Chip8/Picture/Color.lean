import Chip8.Host.Byte

/-!
# Colors

A color has a red, a green and a blue channel of one byte each. A color scheme has one color for
lit pixels and one for dark pixels, and six schemes are known by name.

## Main definitions

* `Chip8.Color`, `Chip8.Mixture.toColor`
* `Chip8.ColorScheme`, `Chip8.ColorScheme.ofName`
-/

namespace Chip8

/-- A color of three bytes. -/
structure Color where
  /-- The red channel. -/
  red : UInt8
  /-- The green channel. -/
  green : UInt8
  /-- The blue channel. -/
  blue : UInt8
  deriving DecidableEq, Repr

/-- The color with the red and the blue channel exchanged. -/
def Color.swapRedBlue (c : Color) : Color :=
  ⟨c.blue, c.green, c.red⟩

/-- A color as the host mixes it, from channels that need not be bytes. -/
structure Mixture where
  /-- The red channel. -/
  red : Int
  /-- The green channel. -/
  green : Int
  /-- The blue channel. -/
  blue : Int

/-- The color that was mixed. The first channel that is no byte is refused. -/
def Mixture.toColor (m : Mixture) : Except Error Color := do
  return ⟨← toByte m.red, ← toByte m.green, ← toByte m.blue⟩

/-- The colors of a picture. -/
structure ColorScheme where
  /-- The color of lit pixels. -/
  on : Color
  /-- The color of dark pixels. -/
  off : Color
  deriving DecidableEq, Repr

namespace ColorScheme

/-- Green on black. -/
def classic : ColorScheme := ⟨⟨0, 255, 0⟩, ⟨0, 0, 0⟩⟩

/-- Amber on black. -/
def amber : ColorScheme := ⟨⟨255, 176, 0⟩, ⟨0, 0, 0⟩⟩

/-- White on black. -/
def white : ColorScheme := ⟨⟨255, 255, 255⟩, ⟨0, 0, 0⟩⟩

/-- Cyan on dark blue. -/
def blue : ColorScheme := ⟨⟨0, 255, 255⟩, ⟨0, 0, 64⟩⟩

/-- Yellow on purple. -/
def retro : ColorScheme := ⟨⟨255, 255, 0⟩, ⟨64, 0, 64⟩⟩

/-- Light purple on dark purple. -/
def octo : ColorScheme := ⟨⟨179, 102, 184⟩, ⟨45, 25, 61⟩⟩

/-- The schemes by name. -/
def named : List (String × ColorScheme) :=
  [("classic", classic), ("amber", amber), ("white", white), ("blue", blue), ("retro", retro),
   ("octo", octo)]

/-- The scheme of a name. -/
def ofName (name : String) : Except Error ColorScheme :=
  match named.lookup name with
  | some scheme => .ok scheme
  | none => .error (.misuse (.noSuchScheme name))

end ColorScheme

end Chip8
