import Chip8.Decimal.Shortest

/-!
# Decimals with a fixed number of places

A double is written with a set number of digits after the point. The exact value is rounded, and a
half goes to the even neighbour.

## Main definitions

* `Chip8.Decimal.writeFixed` : a double with a set number of places.
* `Chip8.Decimal.padLeft` : a text moved to the right end of a field.
-/

namespace Chip8.Decimal

/-- The value in units of `10 ^ -places`, rounded to the nearest integer, a half to the even one. -/
def Binary.inUnits (b : Binary) (places : Nat) : Nat :=
  divHalfEven (scaleUp b.mantissa b.exponent * tenTo places) (twoTo (-b.exponent).toNat)

/-- Writes a double with `places ≥ 1` digits after the point. -/
def writeFixed (places : Nat) (x : Float) : String :=
  if x.isNaN then "nan"
  else if x.isInf then (if x < 0 then "-inf" else "inf")
  else
    let b := Binary.ofFloat x
    let digits := digitsFilled (places + 1) (b.inUnits places)
    let whole := digits.length - places
    (if b.negative then "-" else "") ++
      String.ofList (digits.take whole ++ '.' :: digits.drop whole)

/-- Fills a text with blanks on the left until it has `width` characters. -/
def padLeft (width : Nat) (s : String) : String :=
  String.ofList (List.replicate (width - s.length) ' ') ++ s

end Chip8.Decimal
