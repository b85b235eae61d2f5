import Chip8.Error
import Chip8.Machine.Layout

/-!
# The speaker

A square wave with a frequency, which sounds while it is playing and its gain is not zero. The
speaker counts the samples that it has given out since the tone started, so that buffers of any
length fit together. Playing again while it plays changes the frequency and not the phase.

## Main definitions

* `Chip8.Speaker`, `Chip8.Speaker.play`, `Chip8.Speaker.stop`
* `Chip8.Speaker.samples` : the next samples of the tone.
-/

namespace Chip8

/-- A square-wave voice. -/
structure Speaker where
  /-- The number of samples of a second. -/
  sampleRate : Float := 44100
  /-- The gain of the voice when it is not muted. -/
  volume : Float := 1
  /-- The present gain. -/
  gain : Float := volume
  /-- The tone is on. -/
  playing : Bool := false
  /-- The frequency in hertz. -/
  frequency : Float := 440
  /-- The number of times that the tone was started. -/
  starts : Nat := 0
  /-- The index of the next sample since the tone started. -/
  phase : Int := 0

namespace Speaker

/-- The voice is muted. -/
def muted (s : Speaker) : Bool :=
  s.gain == 0

/-- The voice can be heard. -/
def sounding (s : Speaker) : Bool :=
  s.playing && !s.muted

/-- The speaker with the tone on. A tone that was off starts from its first sample. -/
def start (s : Speaker) : Speaker :=
  if s.playing then s else { s with playing := true, starts := s.starts + 1, phase := 0 }

/-- Starts the tone or changes its frequency. A frequency that is too large for a double is refused
only after the tone was started. -/
def play (s : Speaker) (frequency : Number) : Except Error Unit × Speaker :=
  if frequency.isNonpositive then (.error (.misuse (.frequencyNotPositive frequency)), s)
  else
    match frequency.toFloat? with
    | none => (.error (.misuse .numberTooLarge), s.start)
    | some f => (.ok (), { s.start with frequency := f })

/-- Ends the tone. -/
def stop (s : Speaker) : Speaker :=
  { s with playing := false }

/-- Sets the gain to zero. -/
def mute (s : Speaker) : Speaker :=
  { s with gain := 0 }

/-- Sets the gain to the volume. -/
def unmute (s : Speaker) : Speaker :=
  { s with gain := s.volume }

/-- The low sixteen bits, with a sign, of a level without its fraction. A level outside of 32 signed
bits counts as zero. -/
def quantize (level : Float) : Int :=
  if -2147483649 < level && level < 2147483648 then
    (Decimal.Binary.ofFloat level).truncate.bmod 65536
  else 0

/-- The sample of a square wave at an index: high during the first half of each period. -/
def wave (frequency sampleRate gain : Float) (index : Int) : Int :=
  let periods := Float.ofInt index * frequency / sampleRate
  let high := periods - periods.floor < 0.5
  quantize ((if high then 1 else -1) * 0.25 * gain * 32767)

/-- The sample that the speaker would give out at an index. -/
def sampleAt (s : Speaker) (index : Int) : Int :=
  wave s.frequency s.sampleRate s.gain index

/-- The next `count` samples of the tone. A voice that cannot be heard gives zeros and stays in its
phase. A negative count gives no samples; it is refused unless the voice is sounding. -/
def samples (s : Speaker) (count : Int) : Except Error (List Int × Speaker) :=
  if s.sounding then
    .ok ((List.range count.toNat).map fun (k : Nat) => s.sampleAt (s.phase + k),
      { s with phase := s.phase + count })
  else if count < 0 then .error (.misuse .negativeSize)
  else .ok (List.replicate count.toNat 0, s)

end Speaker

end Chip8
