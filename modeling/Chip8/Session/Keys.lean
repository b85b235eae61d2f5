import Chip8.Host.Integer
import Chip8.Session.Basic

/-!
# Keys of a session

A key that goes down while the hook of the processor waits is delivered to it. The processor takes
a key only while it waits for one, so a hook that outlived a reset changes nothing.

## Main definitions

* `Chip8.Session.deliverKey`
* `Chip8.Session.keyDown`, `Chip8.Session.keyUp`
* `Chip8.Session.press`, `Chip8.Session.release` : the same by host keys.
-/

namespace Chip8.Session

open Procedure

/-- Ends the wait of the processor with a key. Returns whether it was waiting. -/
def deliverKey (key : HostValue) : Procedure Bool := do
  let s ← session
  match s.state.waiting with
  | none => return false
  | some register =>
    let k ← ofExcept key.toInt
    update fun s => { s with state := s.state.deliver register k }
    return true

/-- Moves a key down and delivers it if the hook was waiting. -/
def keyDown (key : Int) : Procedure Unit := do
  let s ← session
  let (fired, keypad) ← ofExcept (s.keypad.keyDown key)
  update fun s => { s with keypad := keypad }
  if fired.isSome then discard (deliverKey (.ofInt key))

/-- Moves a key up. -/
def keyUp (key : Int) : Procedure Unit := do
  let s ← session
  let keypad ← ofExcept (s.keypad.keyUp key)
  update fun s => { s with keypad := keypad }

/-- Presses a host key. Returns whether it is mapped to a key. -/
def press (hostKey : String) : Procedure Bool := do
  let s ← session
  match s.keypad.keyOf? hostKey with
  | none => return false
  | some key =>
    keyDown key
    return true

/-- Releases a host key. Returns whether it is mapped to a key. -/
def release (hostKey : String) : Procedure Bool := do
  let s ← session
  match s.keypad.keyOf? hostKey with
  | none => return false
  | some key =>
    keyUp key
    return true

/-- Moves all keys up. -/
def releaseAll : Procedure Unit :=
  update fun s => { s with keypad := s.keypad.releaseAll }

end Chip8.Session
