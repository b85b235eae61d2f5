/-!
# Hexadecimal numerals

Addresses, opcodes and registers are written in upper-case hexadecimal. A numeral is filled with
zeros up to a width, and the minus sign of a negative number takes up one place of that width.

## Main definitions

* `Chip8.Text.hexDigits` : the digits of a natural number, the most significant first.
* `Chip8.Text.hex` : the numeral of an integer, filled up to a width.
-/

namespace Chip8.Text

/-- The upper-case digit of a number below sixteen. -/
def hexDigit (d : Nat) : Char :=
  Char.ofNat (if d < 10 then 0x30 + d else 0x37 + d)

/-- The hexadecimal digits of `n`, the most significant first. Zero has one digit. -/
def hexDigits (n : Nat) : List Char :=
  if n < 16 then [hexDigit n] else hexDigits (n / 16) ++ [hexDigit (n % 16)]

/-- Fills a list of characters with zeros on the left until it has `width` of them. -/
def zeroFill (width : Nat) (l : List Char) : List Char :=
  List.replicate (width - l.length) '0' ++ l

/-- The characters of `hex`. -/
def hexChars (width : Nat) (n : Int) : List Char :=
  if n < 0 then '-' :: zeroFill (width - 1) (hexDigits n.natAbs)
  else zeroFill width (hexDigits n.natAbs)

/-- The hexadecimal numeral of `n`, filled with zeros to at least `width` characters. The minus
sign counts as one of them, so `-1` in three places is `-01`. -/
def hex (width : Nat) (n : Int) : String :=
  String.ofList (hexChars width n)

end Chip8.Text
