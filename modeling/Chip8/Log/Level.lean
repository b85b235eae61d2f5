/-!
# Log levels

Messages have one of five levels. A logger prints those that reach its own level.

## Main definitions

* `Chip8.Level`, `Chip8.Level.rank`, `Chip8.Level.ofName?`
-/

namespace Chip8

/-- The weight of a message. -/
inductive Level where
  /-- Details for the search of errors. -/
  | debug
  /-- What happens in normal use. -/
  | info
  /-- What should not happen and does no harm. -/
  | warning
  /-- What failed. -/
  | error
  /-- What ends the work. -/
  | critical
  deriving DecidableEq, Repr

namespace Level

/-- The levels, the lowest first. -/
def all : List Level := [.debug, .info, .warning, .error, .critical]

/-- The name of a level. -/
def name : Level → String
  | .debug => "DEBUG"
  | .info => "INFO"
  | .warning => "WARNING"
  | .error => "ERROR"
  | .critical => "CRITICAL"

/-- The place of a level in the order of the levels. -/
def rank : Level → Nat
  | .debug => 0
  | .info => 1
  | .warning => 2
  | .error => 3
  | .critical => 4

/-- The level of a name in upper case. -/
def ofName? (name : String) : Option Level :=
  all.find? fun level => level.name == name

/-- The escape sequence that sets the color of a level on a terminal. -/
def color : Level → String
  | .debug => "\x1b[36m"
  | .info => "\x1b[32m"
  | .warning => "\x1b[33m"
  | .error => "\x1b[31m"
  | .critical => "\x1b[35m"

end Level

/-- The escape sequence that ends a color on a terminal. -/
def plainColor : String := "\x1b[0m"

/-- The escape sequence in front of a label. A label that is no level has none, but for `RESET`,
which ends the color before. -/
def labelColor (label : String) : String :=
  if label = "RESET" then plainColor
  else ((Level.ofName? label).map Level.color).getD ""

end Chip8
