import Chip8.Decimal.Binary
import Chip8.Machine.Layout
import Chip8.Picture.Image

/-!
# The phosphor of the screen

A lit pixel glows with full strength, and the glow of a dark pixel fades by a fifth with every
frame. The strength of a glow is a number from zero to one in single precision, here an integer in
units of the least positive number of that precision. The color of a dot lies between the color of
dark pixels and that of lit pixels as the glow lies between zero and one. It is computed in double
precision, and its fraction is dropped.

## Main definitions

* `Chip8.Glow`, `Chip8.Glow.next` : the glow of a pixel one frame later.
* `Chip8.Glow.channel`, `Chip8.Glow.color` : the color of a glow.
* `Chip8.Phosphor`, `Chip8.Phosphor.expose`, `Chip8.Phosphor.image`
-/

namespace Chip8

/-- The strength of a glow, in units of `2 ^ -149`. -/
abbrev Glow := Nat

namespace Glow

/-- The number of significant bits in single precision. -/
abbrev singleBits : Nat := 24

/-- The number of significant bits in double precision. -/
abbrev doubleBits : Nat := 53

/-- No glow. -/
def zero : Glow := 0

/-- The glow of a lit pixel, which is one. -/
def full : Glow := Decimal.twoTo 149

/-- The part of a glow that is left after a frame is this number of units of `2 ^ -24`, the number
in single precision that is nearest to four fifths. -/
def decay : Nat := 13421773

/-- The glow that a pixel has without fading. -/
def ofPixel (lit : Bool) : Glow :=
  if lit then full else zero

/-- The glow that is left after a frame, in single precision. -/
def fade (g : Glow) : Glow :=
  Decimal.divSignificant singleBits (g * decay) (Decimal.twoTo 24)

/-- The glow of a pixel that was lit or dark in a frame, never more than full. -/
def next (g : Glow) (lit : Bool) : Glow :=
  min (Decimal.divSignificant singleBits (g.fade + ofPixel lit) 1) full

/-- The value of a channel, between its value in the dark and its value with full glow. -/
def channel (on off : UInt8) (g : Glow) : Nat :=
  let exact := (full - g) * off.toNat + g * on.toNat
  Decimal.divSignificant doubleBits exact 1 / full

/-- The color of a glow. -/
def color (scheme : ColorScheme) (g : Glow) : Color :=
  ⟨.ofNat (g.channel scheme.on.red scheme.off.red),
    .ofNat (g.channel scheme.on.green scheme.off.green),
    .ofNat (g.channel scheme.on.blue scheme.off.blue)⟩

end Glow

/-- A grid covers the screen if it has the size of the screen, or a single column or row, which is
repeated all over the screen. -/
def PixelGrid.CoversScreen (g : PixelGrid) : Prop :=
  (g.width = 1 ∨ g.width = screenWidth) ∧ (g.height = 1 ∨ g.height = screenHeight)

instance (g : PixelGrid) : Decidable g.CoversScreen :=
  inferInstanceAs (Decidable (_ ∧ _))

/-- The pixel of the screen that a grid covers is lit. -/
def PixelGrid.litOnScreen (g : PixelGrid) (p q : Nat) : Bool :=
  g.lit (if g.width = 1 then 0 else p) (if g.height = 1 then 0 else q)

/-- The glow of the screen. -/
structure Phosphor where
  /-- The glow of the pixels by column and row. -/
  columns : Vector (Vector Glow screenHeight) screenWidth

namespace Phosphor

/-- A screen without glow. -/
def dark : Phosphor :=
  ⟨Vector.replicate screenWidth (Vector.replicate screenHeight Glow.zero)⟩

/-- The glow of a screen that shows a picture and never fades. -/
def ofPicture (g : PixelGrid) : Phosphor :=
  ⟨Vector.ofFn fun p => Vector.ofFn fun q => Glow.ofPixel (g.litOnScreen p q)⟩

/-- The glow of the screen one frame later, when it shows the given picture. -/
def expose (s : Phosphor) (g : PixelGrid) : Phosphor :=
  ⟨Vector.ofFn fun p => Vector.ofFn fun q => s.columns[p][q].next (g.litOnScreen p q)⟩

/-- The image of the screen, one dot for each pixel. -/
def image (s : Phosphor) (scheme : ColorScheme) : Image where
  width := screenWidth
  height := screenHeight
  rows := (transposed s.columns).map fun row => row.map fun glow => glow.color scheme

end Phosphor

end Chip8
