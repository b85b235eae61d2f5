import Chip8.Text.Hexadecimal
import Chip8.Text.Invisible

/-!
# Quoted texts

Messages quote a text between single quotes, or between double quotes when it holds a single quote
and no double one. The quote, the backslash and invisible characters are escaped.

## Main definitions

* `Chip8.Text.quote` : a text in quotes.
-/

namespace Chip8.Text

/-- The lower-case hexadecimal numeral of a code point, filled to `width` digits. -/
def codeDigits (width code : Nat) : List Char :=
  (zeroFill width (hexDigits code)).map Char.toLower

/-- A character as it stands between the given quotes. -/
def escape (mark c : Char) : List Char :=
  let code := c.toNat
  if c = mark ∨ c = '\\' then ['\\', c]
  else if c = '\n' then ['\\', 'n']
  else if c = '\r' then ['\\', 'r']
  else if c = '\t' then ['\\', 't']
  else if isInvisible c then
    if code < 0x100 then '\\' :: 'x' :: codeDigits 2 code
    else if code < 0x10000 then '\\' :: 'u' :: codeDigits 4 code
    else '\\' :: 'U' :: codeDigits 8 code
  else [c]

/-- A text between quotes. -/
def quote (s : String) : String :=
  let l := s.toList
  let mark := if l.contains '\'' && !l.contains '"' then '"' else '\''
  String.ofList (mark :: l.flatMap (escape mark) ++ [mark])

end Chip8.Text
