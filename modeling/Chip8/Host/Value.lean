import Chip8.Decimal.Shortest
import Chip8.Text.Quoted

/-!
# Values handed over by the host

Settings and tones are numbers, which may be integers of any size or doubles, and messages quote
them as they were given. An opcode, a key or a byte of a program can be any value at all: what is
not a whole number is rounded toward zero or refused.

## Main definitions

* `Chip8.Number` : an integer or a double.
* `Chip8.HostValue` : any value of the host.
-/

namespace Chip8

/-- A number given by the host. -/
inductive Number where
  /-- An integer. -/
  | int (n : Int)
  /-- A double. -/
  | real (x : Float)

namespace Number

/-- The number as messages quote it. -/
def text : Number → String
  | .int n => toString n
  | .real x => Decimal.write x

/-- The nearest double, unless the integer is too large for a finite one. -/
def toFloat? : Number → Option Float
  | .int n =>
    let x := Float.ofInt n
    if x.isInf then none else some x
  | .real x => some x

/-- Whether the number is zero or less. NaN is not. -/
def isNonpositive : Number → Bool
  | .int n => n ≤ 0
  | .real x => x ≤ 0

/-- Whether the number is less than one. NaN is not. -/
def isBelowOne : Number → Bool
  | .int n => n < 1
  | .real x => x < 1

end Number

/-- A value of the host, of any kind. -/
inductive HostValue where
  /-- A number. -/
  | number (x : Number)
  /-- A truth value. -/
  | truth (b : Bool)
  /-- A text. -/
  | text (s : String)
  /-- No value. -/
  | nothing
  /-- A list of values. -/
  | list
  /-- A table of values. -/
  | table

namespace HostValue

/-- The value as messages quote it. Lists and tables are abbreviated. -/
def quoted : HostValue → String
  | .number x => x.text
  | .truth b => if b then "True" else "False"
  | .text s => Text.quote s
  | .nothing => "None"
  | .list => "[...]"
  | .table => "(...)"

/-- The name of the kind of a value that no integer can be made of. -/
def kindName : HostValue → String
  | .number (.int _) => "int"
  | .number (.real _) => "float"
  | .truth _ => "bool"
  | .text _ => "str"
  | .nothing => "NoneType"
  | .list => "list"
  | .table => "dict"

end HostValue

end Chip8
