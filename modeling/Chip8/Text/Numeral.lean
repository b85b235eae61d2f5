/-!
# Reading decimal integers

A numeral may stand between blanks and may have a sign. Its digits are the decimal digits of any
script, and single underscores may stand between two of them.

## Main definitions

* `Chip8.Text.readInteger?` : the integer that a text denotes.
-/

namespace Chip8.Text

/-- The code points of the zeros of all scripts with decimal digits. The other nine digits follow
each of them. -/
def decimalZeros : List Nat :=
  [0x0030, 0x0660, 0x06F0, 0x07C0, 0x0966, 0x09E6, 0x0A66, 0x0AE6, 0x0B66, 0x0BE6, 0x0C66, 0x0CE6,
   0x0D66, 0x0DE6, 0x0E50, 0x0ED0, 0x0F20, 0x1040, 0x1090, 0x17E0, 0x1810, 0x1946, 0x19D0, 0x1A80,
   0x1A90, 0x1B50, 0x1BB0, 0x1C40, 0x1C50, 0xA620, 0xA8D0, 0xA900, 0xA9D0, 0xA9F0, 0xAA50, 0xABF0,
   0xFF10, 0x104A0, 0x10D30, 0x11066, 0x110F0, 0x11136, 0x111D0, 0x112F0, 0x11450, 0x114D0,
   0x11650, 0x116C0, 0x11730, 0x118E0, 0x11950, 0x11C50, 0x11D50, 0x11DA0, 0x16A60, 0x16AC0,
   0x16B50, 0x1D7CE, 0x1D7D8, 0x1D7E2, 0x1D7EC, 0x1D7F6, 0x1E140, 0x1E2F0, 0x1E950, 0x1FBF0]

/-- The value of a decimal digit. -/
def digitValue? (c : Char) : Option Nat :=
  (decimalZeros.find? fun base => base ≤ c.toNat && c.toNat < base + 10).map (c.toNat - ·)

/-- The blanks that may stand around a numeral. -/
def isBlank (c : Char) : Bool :=
  let code := c.toNat
  (0x09 ≤ code && code ≤ 0x0D) || code == 0x20 || code == 0x85 || code == 0xA0 || code == 0x1680 ||
    (0x2000 ≤ code && code ≤ 0x200A) || code == 0x2028 || code == 0x2029 || code == 0x202F ||
    code == 0x205F || code == 0x3000

/-- Reads digits after a digit: `value` is that of the digits before. -/
def readDigitsAfter (value : Nat) : List Char → Option Nat
  | [] => some value
  | '_' :: c :: l =>
    match digitValue? c with
    | some d => readDigitsAfter (10 * value + d) l
    | none => none
  | c :: l =>
    match digitValue? c with
    | some d => readDigitsAfter (10 * value + d) l
    | none => none

/-- Reads a natural number with at least one digit. -/
def readDigits? : List Char → Option Nat
  | [] => none
  | c :: l => (digitValue? c).bind fun d => readDigitsAfter d l

/-- The integer that a text denotes, if it denotes one. -/
def readInteger? (s : String) : Option Int :=
  match ((s.toList.dropWhile isBlank).reverse.dropWhile isBlank).reverse with
  | '-' :: l => (readDigits? l).map fun n => -(n : Int)
  | '+' :: l => (readDigits? l).map fun n => (n : Int)
  | l => (readDigits? l).map fun n => (n : Int)

end Chip8.Text
