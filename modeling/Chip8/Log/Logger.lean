import Chip8.Decimal.Fixed
import Chip8.Error
import Chip8.Log.Level
import Chip8.Text.LetterCase

/-!
# Loggers

A logger prints messages that reach its level, each with the seconds since the logger was made, the
level and the name of the logger. Levels may be written in any case. A message of a level that is
none of the five is printed like an information, under the name that was given.

## Main definitions

* `Chip8.Logger`, `Chip8.Logger.make`, `Chip8.Logger.setLevel`
* `Chip8.Logger.log` : the lines that a message prints.
-/

namespace Chip8

/-- A logger. -/
structure Logger where
  /-- The name that its lines show. -/
  name : String
  /-- The lowest level that it prints. -/
  level : Level := .info
  /-- It colors the levels. -/
  colored : Bool := false
  /-- It shows the time. -/
  stamped : Bool := true
  /-- The reading of the clock when it was made. -/
  start : Float := 0

namespace Logger

/-- The level of a name in any case. -/
def levelOf (name : String) : Except Error Level :=
  match Level.ofName? (Text.upper name) with
  | some level => .ok level
  | none => .error (.misuse (.noSuchLevel (Text.upper name)))

/-- A logger made when the clock reads `now`. Colors need a terminal. -/
def make (name level : String) (colors stamped terminal : Bool) (now : Float) :
    Except Error Logger := do
  return { name, level := ← levelOf level, colored := colors && terminal, stamped, start := now }

/-- The logger with another level. -/
def setLevel (l : Logger) (level : String) : Except Error Logger := do
  return { l with level := ← levelOf level }

/-- The rank of a label, which is that of the information level unless it names another one. -/
def rankOf (label : String) : Nat :=
  match Level.ofName? (Text.upper label) with
  | some level => level.rank
  | none => Level.info.rank

/-- Whether messages with a label are printed. -/
def isEnabledFor (l : Logger) (label : String) : Bool :=
  l.level.rank ≤ rankOf label

/-- The line of a message when the clock reads `now`. The label is in upper case. -/
def line (l : Logger) (now : Float) (label message : String) : String :=
  let seconds := Decimal.padLeft 8 (Decimal.writeFixed 2 (now - l.start))
  let stamp := if l.stamped then "[" ++ seconds ++ "s]" else ""
  let tag := "[" ++ Decimal.padLeft 8 label ++ "]"
  let colored :=
    if l.colored then labelColor label ++ tag ++ plainColor else tag
  stamp ++ colored ++ "[" ++ l.name ++ "] " ++ message

/-- The lines that a message prints when the clock reads `now`. -/
def log (l : Logger) (now : Float) (label message : String) : List String :=
  if l.isEnabledFor label then [l.line now (Text.upper label) message] else []

/-- The lines that a message of one of the five levels prints. -/
def logAt (l : Logger) (now : Float) (level : Level) (message : String) : List String :=
  l.log now level.name message

end Logger

/-- The logger of the package, which reports instructions that mean nothing. -/
def packageLogger : Logger where
  name := "chip8cpu"

end Chip8
