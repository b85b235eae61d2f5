import Chip8.Error
import Chip8.Text.Numeral

/-!
# Integers made of host values

Where an integer is needed, a double is rounded toward zero, a truth value counts as one or zero,
and a text is read as a decimal numeral.

## Main definitions

* `Chip8.HostValue.toInt` : the integer that a value stands for.
-/

namespace Chip8.HostValue

/-- The integer that a value stands for. -/
def toInt (v : HostValue) : Except Error Int :=
  match v with
  | .number (.int n) => .ok n
  | .number (.real x) =>
    if x.isNaN then .error (.misuse .undefinedNumber)
    else if x.isInf then .error (.misuse .infiniteNumber)
    else .ok (Decimal.Binary.ofFloat x).truncate
  | .truth b => .ok (if b then 1 else 0)
  | .text s =>
    match Text.readInteger? s with
    | some n => .ok n
    | none => .error (.misuse (.notANumeral s))
  | .nothing | .list | .table => .error (.misuse (.notANumber v))

/-- A whole number. -/
def ofInt (n : Int) : HostValue :=
  .number (.int n)

end Chip8.HostValue
