import Chip8.Device.FrameBuffer
import Chip8.Picture.Image

/-!
# Recorders

A recorder keeps the pictures that it is handed. One with a capacity keeps the newest ones only.

## Main definitions

* `Chip8.Recorder`, `Chip8.Recorder.record`, `Chip8.Recorder.receive`
* `Chip8.Recorder.still` : the image of one recorded picture.
-/

namespace Chip8

/-- A record of pictures. -/
structure Recorder where
  /-- The number of pictures that are kept, if it is bounded. -/
  capacity : Option Nat := some 3600
  /-- The pictures, the oldest first. -/
  frames : List PixelGrid := []

namespace Recorder

/-- An empty recorder with a capacity given by the host. -/
def ofCapacity : Option Int → Except Error Recorder
  | none => .ok { capacity := none }
  | some n =>
    if n < 1 then .error (.misuse (.capacityNotPositive n))
    else if fitsInWord n then .ok { capacity := some n.toNat }
    else .error (.misuse .capacityTooLarge)

/-- The number of pictures to be dropped from a list that is one too long. -/
def excess (r : Recorder) (l : List PixelGrid) : Nat :=
  match r.capacity with
  | some n => l.length - n
  | none => 0

/-- The recorder after it was handed a picture. -/
def record (r : Recorder) (g : PixelGrid) : Recorder :=
  let l := r.frames ++ [g]
  { r with frames := l.drop (r.excess l) }

/-- The recorder after pictures were delivered to listeners, of which it is the one with the given
name. -/
def receive (r : Recorder) (name : String) (deliveries : List Delivery) : Recorder :=
  (deliveries.filter fun d => d.listener == name).foldl (fun r d => r.record d.picture) r

/-- The picture at an index, where negative indexes count from the end. -/
def frame (r : Recorder) (index : Int) : Except Error PixelGrid :=
  let place := if index < 0 then index + r.frames.length else index
  if !fitsInWord index then .error (.misuse .indexTooLarge)
  else if place < 0 then .error (.misuse .noSuchFrame)
  else
    match r.frames[place.toNat]? with
    | some g => .ok g
    | none => .error (.misuse .noSuchFrame)

/-- Refuses a recorder without pictures. -/
def checkNonempty (r : Recorder) : Except Error Unit :=
  if r.frames.isEmpty then .error (.misuse .nothingRecorded) else .ok ()

/-- The image of one recorded picture in the colors of a named scheme. An image without dots cannot
be saved. -/
def still (r : Recorder) (index scale : Int) (scheme : String) : Except Error Image := do
  r.checkNonempty
  let colors ← ColorScheme.ofName scheme
  let image ← (← r.frame index).draw scale colors
  if image.width = 0 ∨ image.height = 0 then throw (.misuse .emptyPicture)
  return image

end Recorder

end Chip8
