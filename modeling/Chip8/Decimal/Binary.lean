/-!
# Binary values, exactly

A finite double is an integer times a power of two. Everything that this library writes about
doubles in decimal, and everything that it rounds, goes through that exact value, in integers.

## Main definitions

* `Chip8.Decimal.Binary` : the exact value of a finite double.
* `Chip8.Decimal.divHalfEven` : a quotient rounded to the nearest integer, ties to even.
* `Chip8.Decimal.divSignificant` : a quotient rounded to so many significant bits.
* `Chip8.Decimal.Binary.truncate` : the value without its fraction.
-/

namespace Chip8.Decimal

/-- The exact value of a finite double: `mantissa * 2 ^ exponent`, negated if `negative`. -/
structure Binary where
  /-- Whether the sign bit is set. Zero has a sign, too. -/
  negative : Bool
  /-- The integer that is scaled. -/
  mantissa : Nat
  /-- The power of two that scales it. -/
  exponent : Int
  /-- Whether the next double toward zero is only half as far away as the next one outward. -/
  narrowBelow : Bool
  deriving DecidableEq, Repr

/-- A power of two. -/
def twoTo (k : Nat) : Nat :=
  Nat.pow 2 k

/-- A power of ten. -/
def tenTo (k : Nat) : Nat :=
  Nat.pow 10 k

/-- The value of a finite double. Infinities and NaN have none. -/
def Binary.ofFloat (x : Float) : Binary :=
  let bits := x.toBits
  let scale := ((bits >>> 52) &&& 0x7FF).toNat
  let fraction := (bits &&& 0xFFFFFFFFFFFFF).toNat
  let negative := bits >>> 63 != 0
  if scale = 0 then ⟨negative, fraction, -1074, false⟩
  else ⟨negative, twoTo 52 + fraction, (scale : Int) - 1075, fraction == 0 && scale > 1⟩

/-- The numerator of `n * 2 ^ e` as a fraction with denominator `2 ^ (-e)`, or `1` for `0 ≤ e`. -/
def scaleUp (n : Nat) (e : Int) : Nat :=
  n * twoTo e.toNat

/-- The quotient of two naturals rounded to the nearest integer, a half to the even one. -/
def divHalfEven (num den : Nat) : Nat :=
  let quotient := num / den
  let rest := 2 * (num % den)
  if rest < den then quotient
  else if den < rest then quotient + 1
  else quotient + quotient % 2

/-- The quotient of two naturals rounded to a natural with at most `precision` significant bits, the
nearest one, a tie to the one with the even last place. -/
def divSignificant (precision num den : Nat) : Nat :=
  let excess := (num / den).log2 + 1 - precision
  divHalfEven num (den <<< excess) <<< excess

/-- The value without its fraction, so rounded toward zero. -/
def Binary.truncate (b : Binary) : Int :=
  let magnitude := scaleUp b.mantissa b.exponent / twoTo (-b.exponent).toNat
  if b.negative then -magnitude else magnitude

end Chip8.Decimal
