import Chip8.Device.Keypad

/-!
# Reactions of a host to its hook

A host may answer a fired hook by moving a key, or by installing the hook again. The hook is gone
when the host answers, so an answer that presses a key fires nothing.

## Main definitions

* `Chip8.Reaction` : the answers of a host.
* `Chip8.Keypad.down`, `Chip8.Keypad.press`, `Chip8.Keypad.release` : moving keys, with the answer.
-/

namespace Chip8

/-- What a host does when its hook fires. -/
inductive Reaction where
  /-- Nothing. -/
  | ignore
  /-- It moves a key down. -/
  | down (key : Int)
  /-- It moves a key up. -/
  | up (key : Int)
  /-- It installs the hook again. -/
  | hookAgain

/-- What a move of a key leaves behind. -/
structure Move where
  /-- Whether the key exists, or why the move or the answer to it was refused. -/
  result : Except Error Bool
  /-- The keypad afterwards. -/
  keypad : Keypad Reaction
  /-- The keys for which the hook fired. -/
  fired : List Int := []

namespace Keypad

/-- The keypad after the host has answered its hook. -/
def react (k : Keypad Reaction) : Reaction → Except Error (Keypad Reaction)
  | .ignore => .ok k
  | .down key => (k.keyDown key).map (·.2)
  | .up key => k.keyUp key
  | .hookAgain => .ok (k.hook .hookAgain)

/-- Moves a key down and lets the host answer a fired hook. -/
def down (k : Keypad Reaction) (key : Int) : Move :=
  match k.keyDown key with
  | .error e => ⟨.error e, k, []⟩
  | .ok (none, pressed) => ⟨.ok true, pressed, []⟩
  | .ok (some reaction, pressed) =>
    match pressed.react reaction with
    | .error e => ⟨.error e, pressed, [key]⟩
    | .ok answered => ⟨.ok true, answered, [key]⟩

/-- Moves a key up. -/
def up (k : Keypad Reaction) (key : Int) : Move :=
  match k.keyUp key with
  | .error e => ⟨.error e, k, []⟩
  | .ok released => ⟨.ok true, released, []⟩

/-- Presses a host key. -/
def press (k : Keypad Reaction) (hostKey : String) : Move :=
  match k.keyOf? hostKey with
  | none => ⟨.ok false, k, []⟩
  | some key => k.down key

/-- Releases a host key. -/
def release (k : Keypad Reaction) (hostKey : String) : Move :=
  match k.keyOf? hostKey with
  | none => ⟨.ok false, k, []⟩
  | some key => k.up key

end Keypad

end Chip8
