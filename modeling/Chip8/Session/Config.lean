import Chip8.Error
import Chip8.Machine.Layout

/-!
# Configurations

The settings of a session. The speed and the frequency of the tone have to be positive; the name of
the log level is examined only where a logger is made of it.

## Main definitions

* `Chip8.Config`, `Chip8.Config.check`
-/

namespace Chip8

/-- The settings of a session. -/
structure Config where
  /-- The number of instructions of a frame. -/
  speed : Number := .int defaultSpeed
  /-- The frequency of the tone in hertz. -/
  toneFrequency : Number := .int defaultToneFrequency
  /-- The seed of the random generator. -/
  seed : Int := 0
  /-- The log level of the processor. -/
  logLevel : String := "INFO"
  /-- Whether every instruction is logged. -/
  trace : Bool := false

/-- Refuses a speed below one and a tone that is not positive. -/
def Config.check (c : Config) : Except Error Unit :=
  if c.speed.isBelowOne then .error (.misuse (.speedNotPositive c.speed))
  else if c.toneFrequency.isNonpositive then .error (.misuse (.toneNotPositive c.toneFrequency))
  else .ok ()

end Chip8
