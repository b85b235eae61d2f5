import Chip8.Device.PixelGrid
import Chip8.Machine.Layout

/-!
# The frame buffer

A grid of pixels with listeners. Rendering counts a frame and hands the picture of that moment to
every listener, as often as it is attached, in the order of attachment.

## Main definitions

* `Chip8.FrameBuffer`, `Chip8.FrameBuffer.render`
* `Chip8.Delivery` : a picture handed to a listener.
-/

namespace Chip8

/-- A picture handed to a listener. -/
structure Delivery where
  /-- The name of the listener. -/
  listener : String
  /-- The picture. -/
  picture : PixelGrid

/-- A grid of pixels with listeners, which are known by name. -/
structure FrameBuffer where
  /-- The pixels. -/
  grid : PixelGrid
  /-- The number of frames rendered. -/
  frames : Nat := 0
  /-- The attached listeners. One that was attached twice stands here twice. -/
  listeners : List String := []

namespace FrameBuffer

/-- A dark frame buffer without listeners. -/
def ofSize (width height : Int) : Except Error FrameBuffer :=
  if width < 0 ∨ height < 0 then .error (.misuse .negativeSize)
  else .ok { grid := .dark width.toNat height.toNat }

/-- A dark frame buffer of the size of the screen. -/
def screen : FrameBuffer where
  grid := .dark screenWidth screenHeight

/-- Inverts a pixel and returns whether it was lit. -/
def toggle (f : FrameBuffer) (x y : Int) : Except Error (Bool × FrameBuffer) := do
  let (erased, grid) ← f.grid.toggle x y
  return (erased, { f with grid := grid })

/-- Turns every pixel off. -/
def clear (f : FrameBuffer) : FrameBuffer :=
  { f with grid := .dark f.grid.width f.grid.height }

/-- Counts a frame and hands the picture to the listeners. -/
def render (f : FrameBuffer) : List Delivery × FrameBuffer :=
  (f.listeners.map fun name => ⟨name, f.grid⟩, { f with frames := f.frames + 1 })

/-- Attaches a listener behind the others. -/
def attach (f : FrameBuffer) (name : String) : FrameBuffer :=
  { f with listeners := f.listeners ++ [name] }

/-- Detaches the first occurrence of a listener. -/
def detach (f : FrameBuffer) (name : String) : Except Error FrameBuffer :=
  if f.listeners.contains name then .ok { f with listeners := f.listeners.erase name }
  else .error (.misuse .noSuchListener)

end FrameBuffer

end Chip8
