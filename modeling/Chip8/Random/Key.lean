import Chip8.Error

/-!
# Keys and generators of random bytes

A key is a pair of words of 32 bits. A generator draws a byte from a key, and replaces the key by
the next one. Which byte and which key these are is a matter of the generator alone.

## Main definitions

* `Chip8.Random.Key`, `Chip8.Random.Key.ofSeed`
* `Chip8.Random.Generator` : what is drawn from a key, and what comes behind it.
-/

namespace Chip8.Random

/-- A key of a generator. -/
structure Key where
  /-- The first word. -/
  first : UInt32
  /-- The second word. -/
  second : UInt32
  deriving DecidableEq, Repr

/-- A generator of random bytes. It may do anything. -/
class Generator where
  /-- The key that replaces a key once a byte was drawn from it. -/
  next : Key → Key
  /-- The byte that is drawn from a key. -/
  byte : Key → UInt8

namespace Key

/-- The key of a seed of 64 signed bits, which counts modulo `2 ^ 32`. -/
def ofSeed (seed : Int) : Except Error Key :=
  if fitsInWord seed then .ok ⟨0, UInt32.ofInt seed⟩ else .error (.misuse .wordTooLarge)

variable [Generator]

/-- The key behind a key. -/
abbrev next (k : Key) : Key :=
  Generator.next k

/-- The byte of a key. -/
abbrev byte (k : Key) : UInt8 :=
  Generator.byte k

end Key

end Chip8.Random
