import Chip8.Random.Key

/-!
# A counter-based generator

The Threefry block function scrambles a counter under a key: twenty rounds of addition, rotation and
exclusive or, with the key mixed in after every four. The next key and the key of a draw are the
blocks of the counters zero and one.

This is the generator that programs run with. What is proved of a processor holds for every
generator, so nothing is proved of this one.

## Main definitions

* `Chip8.Random.Threefry.block` : the block function.
* `Chip8.Random.Threefry.generator` : the generator.
-/

namespace Chip8.Random.Threefry

/-- Rotates a word to the left. -/
def rotateLeft (x amount : UInt32) : UInt32 :=
  (x <<< amount) ||| (x >>> (32 - amount))

/-- One round: add the second word to the first, rotate it and mix the sum in. -/
def mix (k : Key) (amount : UInt32) : Key :=
  let sum := k.first + k.second
  ⟨sum, rotateLeft k.second amount ^^^ sum⟩

/-- Adds two words to a block. -/
def inject (k : Key) (a b : UInt32) : Key :=
  ⟨k.first + a, k.second + b⟩

/-- The rotations of the rounds of even groups. -/
def evenRotations : List UInt32 := [13, 15, 26, 6]

/-- The rotations of the rounds of odd groups. -/
def oddRotations : List UInt32 := [17, 29, 16, 24]

/-- The block of the counter `(0, counter)` under a key. -/
def block (k : Key) (counter : UInt32) : Key :=
  let third := k.first ^^^ k.second ^^^ 0x1BD11BDA
  let start := inject ⟨0, counter⟩ k.first k.second
  let one := inject (evenRotations.foldl mix start) k.second (third + 1)
  let two := inject (oddRotations.foldl mix one) third (k.first + 2)
  let three := inject (evenRotations.foldl mix two) k.first (k.second + 3)
  let four := inject (oddRotations.foldl mix three) k.second (third + 4)
  inject (evenRotations.foldl mix four) third (k.first + 5)

/-- A byte is drawn from the block that a draw has for its key. -/
def draw (k : Key) : UInt8 :=
  let bits := block (block (block k 1) 1) 0
  (bits.first ^^^ bits.second).toUInt8

/-- The generator made of the block function. -/
instance generator : Generator where
  next k := block k 0
  byte k := draw k

end Chip8.Random.Threefry
