import Chip8.Decimal.Binary

/-!
# The shortest decimal that reads back

A double is written with the fewest decimal digits from which the same double is read back. Of
several decimals of that length the nearest to the value is taken, and of two equally near ones
the even one. The digits are found in exact integer arithmetic: the reals that are rounded to a
double form an interval, and a decimal reads back exactly when it lies in that interval.

The layout is positional while the leading digit stands for a power of ten from `-4` to `15`, and
has an exponent of at least two digits otherwise. A positional numeral keeps a fraction of `.0`.

## Main definitions

* `Chip8.Decimal.Binary.shortest` : the digits and their power of ten.
* `Chip8.Decimal.write` : the layout of a double.
-/

namespace Chip8.Decimal

/-- The decimal `digits * 10 ^ exponent`. -/
structure Numeral where
  /-- The significant digits. -/
  digits : Nat
  /-- The power of ten that scales them. -/
  exponent : Int
  deriving DecidableEq, Repr

/-- Moves trailing zeros of the digits into the exponent. -/
def Numeral.strip (d : Numeral) : Numeral :=
  if h : d.digits ≠ 0 ∧ d.digits % 10 = 0 then
    Numeral.strip ⟨d.digits / 10, d.exponent + 1⟩
  else d
termination_by d.digits
decreasing_by exact Nat.div_lt_self (Nat.pos_of_ne_zero h.1) (by decide)

namespace Binary

/-- The factors `(a, b)` such that quarters of the last mantissa unit, in units of `10 ^ grid`, are
the fraction `a / b`. -/
def quarterRatio (b : Binary) (grid : Int) : Nat × Nat :=
  (twoTo (b.exponent - 2).toNat * tenTo (-grid).toNat,
    twoTo (2 - b.exponent).toNat * tenTo grid.toNat)

/-- The decimal with these digits on the grid of `10 ^ grid` lies among the reals that are rounded
to the value. The ends of that interval belong to it when the mantissa is even. -/
def readsBack (b : Binary) (grid : Int) (digits : Nat) : Bool :=
  let (up, down) := b.quarterRatio grid
  let low := (4 * b.mantissa - if b.narrowBelow then 1 else 2) * up
  let high := (4 * b.mantissa + 2) * up
  let point := digits * down
  if b.mantissa % 2 = 0 then low ≤ point && point ≤ high else low < point && point < high

/-- The nearest decimal on the grid of `10 ^ grid` that reads back, if one of the two neighbours of
the value on that grid does. -/
def nearestOnGrid? (b : Binary) (grid : Int) : Option Numeral :=
  let (up, down) := b.quarterRatio grid
  let value := 4 * b.mantissa * up
  let below := value / down
  let candidates := [below, below + 1].filter (b.readsBack grid)
  match candidates with
  | [] => none
  | [d] => some ⟨d, grid⟩
  | _ =>
    let fromBelow := 2 * (value % down)
    if fromBelow < down then some ⟨below, grid⟩
    else if down < fromBelow then some ⟨below + 1, grid⟩
    else some ⟨below + below % 2, grid⟩

/-- Whether the value is less than `10 ^ k`. -/
def belowPowerOfTen (b : Binary) (k : Int) : Bool :=
  scaleUp b.mantissa b.exponent * tenTo (-k).toNat < tenTo k.toNat * twoTo (-b.exponent).toNat

/-- The least `k` such that the value is below `10 ^ k`. The binary length times `log10 2`, which is
a little more than `0.30102`, comes within one of it. -/
def decimalMagnitude (b : Binary) : Int :=
  let estimate := ((b.mantissa.log2 + 1 + b.exponent) * 30103).fdiv 100000
  (([estimate - 1, estimate, estimate + 1].find? b.belowPowerOfTen).getD (estimate + 2))

/-- All decimal digits of the value. -/
def exact (b : Binary) : Numeral :=
  ⟨scaleUp b.mantissa b.exponent * Nat.pow 5 (-b.exponent).toNat, min b.exponent 0⟩

/-- The fewest digits that read back, at most seventeen of them. -/
def shortest (b : Binary) : Numeral :=
  if b.mantissa = 0 then ⟨0, 0⟩
  else
    let magnitude := b.decimalMagnitude
    let found := (List.range 17).findSome? fun (n : Nat) => b.nearestOnGrid? (magnitude - (n + 1))
    (found.getD b.exact).strip

end Binary

/-- The decimal digits of `n`, at least `width` of them. -/
def digitsFilled (width n : Nat) : List Char :=
  let digits := Nat.toDigits 10 n
  List.replicate (width - digits.length) '0' ++ digits

/-- Lays out a decimal whose leading digit stands for `10 ^ power`: positionally from `10 ^ -4` to
`10 ^ 15`, with an exponent otherwise. -/
def Numeral.layout (d : Numeral) : String :=
  let digits := Nat.toDigits 10 d.digits
  let power := d.exponent + (digits.length : Int) - 1
  if -4 ≤ power ∧ power < 16 then
    if 0 ≤ d.exponent then
      String.ofList (digits ++ List.replicate d.exponent.toNat '0' ++ ['.', '0'])
    else if 0 ≤ power then
      String.ofList (digits.take (power.toNat + 1) ++ '.' :: digits.drop (power.toNat + 1))
    else
      String.ofList ('0' :: '.' :: List.replicate ((-power).toNat - 1) '0' ++ digits)
  else
    let fraction := if digits.length = 1 then [] else '.' :: digits.drop 1
    let sign := if power < 0 then '-' else '+'
    String.ofList (digits.take 1 ++ fraction ++ 'e' :: sign :: digitsFilled 2 power.natAbs)

/-- Writes a double with the fewest digits that read back. -/
def write (x : Float) : String :=
  if x.isNaN then "nan"
  else if x.isInf then (if x < 0 then "-inf" else "inf")
  else
    let b := Binary.ofFloat x
    (if b.negative then "-" else "") ++ b.shortest.layout

end Chip8.Decimal
