import Chip8.Session.Command

/-!
# Actions of a host

A host gives commands to a session, and attaches listeners to its screen and detaches them.

## Main definitions

* `Chip8.Action`, `Chip8.Action.perform`
-/

namespace Chip8

/-- The actions of a host. -/
inductive Action where
  /-- A command to the session. -/
  | command (c : Command)
  /-- Attach a listener to the screen. -/
  | attach (listener : String)
  /-- Detach a listener from the screen. -/
  | detach (listener : String)

namespace Session

open Procedure

/-- Attaches a listener to the screen. -/
def attach (listener : String) : Procedure Unit :=
  update fun s => { s with screen := s.screen.attach listener }

/-- Detaches a listener from the screen. -/
def detach (listener : String) : Procedure Unit := do
  let s ← session
  let screen ← ofExcept (s.screen.detach listener)
  update fun s => { s with screen := screen }

end Session

variable [Random.Generator]

/-- The operation that an action stands for. -/
def Action.perform : Action → Procedure Answer
  | .command c => c.perform
  | .attach listener => do Session.attach listener; return .done
  | .detach listener => do Session.detach listener; return .done

end Chip8
