import Chip8.Host.Value
import Chip8.Log.Logger
import Chip8.Picture.Phosphor
import Chip8.Picture.Recorder

/-!
# Videos

The pictures of a recorder are handed to a video writer one after the other, with the red and the
blue channel exchanged, as the writer expects them. The writer is opened for a screen enlarged by
the scale, and it is released whatever happens to the pictures. A picture that does not cover the
screen ends the video.

## Main definitions

* `Chip8.VideoSettings`
* `Chip8.VideoCall` : a call of a video writer.
* `Chip8.Recorder.film` : the calls that make a video of the recorded pictures.
-/

namespace Chip8

/-- The settings of a video. -/
structure VideoSettings where
  /-- The number of frames of a second. -/
  rate : Number := .real 60
  /-- The number of dots along the side of a pixel. -/
  scale : Int := 8
  /-- The name of the color scheme. -/
  scheme : String := "classic"
  /-- Whether the glow of a pixel fades slowly. -/
  persistence : Bool := true

/-- A call of a video writer. -/
inductive VideoCall where
  /-- It is opened, for frames of the given size. -/
  | opened (name : String) (rate : Float) (width height : Int)
  /-- It is handed a frame. -/
  | wrote (image : Image)
  /-- It is released. -/
  | released

/-- What the making of a video leaves behind. -/
structure Filming where
  /-- Whether it was made, or why not. -/
  result : Except Error Unit
  /-- The calls of the writer. -/
  calls : List VideoCall := []
  /-- The printed lines. -/
  lines : List String := []

/-- The code of the video format, whose four letters are the bytes of a number, the lowest first. -/
def videoFormat : Nat :=
  "mp4v".toList.foldr (fun c code => c.toNat + 256 * code) 0

namespace VideoSettings

/-- The frame of a video in which the screen glows. Only scales above one enlarge it. -/
def frame (v : VideoSettings) (colors : ColorScheme) (screen : Phosphor) : Image :=
  let image := screen.image colors
  (if 1 < v.scale then image.enlarge v.scale.toNat else image).mapColors Color.swapRedBlue

/-- The glow of the screen when it shows the next picture. -/
def expose (v : VideoSettings) (screen : Phosphor) (g : PixelGrid) : Except Error Phosphor :=
  if v.persistence then
    if g.CoversScreen then .ok (screen.expose g)
    else .error (.misuse (.glowMismatch g.width g.height))
  else
    if g.CoversScreen then .ok (.ofPicture g)
    else .error (.misuse (.frameMismatch g.width g.height))

/-- The frames of a list of pictures up to the first one that does not cover the screen. -/
def frames (v : VideoSettings) (colors : ColorScheme) (screen : Phosphor) :
    List PixelGrid → Except Error Unit × List Image
  | [] => (.ok (), [])
  | g :: l =>
    match v.expose screen g with
    | .error e => (.error e, [])
    | .ok shown =>
      let (result, images) := v.frames colors shown l
      (result, v.frame colors shown :: images)

/-- The duration of a number of frames in seconds. -/
def duration (v : VideoSettings) (count : Nat) : Except Error Float :=
  match v.rate with
  | .int 0 => .error (.misuse .zeroRate)
  | .int n => .ok (Float.ofNat count / Float.ofInt n)
  | .real x =>
    if x == 0 then .error (.misuse .zeroRealRate) else .ok (Float.ofNat count / x)

end VideoSettings

/-- The logger of videos. -/
def videoLogger : Logger where
  name := "Rendering"

/-- The message about a video that was made. -/
def savedMessage (name : String) (count : Nat) (rate : Number) (duration : Float) : String :=
  "Video saved: " ++ name ++ s!" ({count} frames, " ++ rate.text ++ " FPS, " ++
    Decimal.writeFixed 1 duration ++ "s)"

/-- Makes a video of the recorded pictures when the clock reads `now`. -/
def Recorder.film (r : Recorder) (v : VideoSettings) (name : String) (now : Float) : Filming :=
  match (do r.checkNonempty; ColorScheme.ofName v.scheme) with
  | .error e => { result := .error e }
  | .ok colors =>
    match v.rate.toFloat? with
    | none => { result := .error (.misuse .numberTooLarge) }
    | some rate =>
      let opened := VideoCall.opened name rate (screenWidth * v.scale) (screenHeight * v.scale)
      let (result, images) := v.frames colors .dark r.frames
      let calls := opened :: images.map .wrote ++ [.released]
      match (do result; v.duration r.frames.length) with
      | .error e => { result := .error e, calls }
      | .ok seconds =>
        let message := savedMessage name r.frames.length v.rate seconds
        { result := .ok (), calls, lines := videoLogger.logAt now .info message }

end Chip8
