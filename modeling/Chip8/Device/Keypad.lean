import Chip8.Error
import Chip8.Machine.Layout
import Chip8.Text.LetterCase

/-!
# The keypad

Sixteen keys, each up or down. The host presses them by number or by the names of its own keys. A
hook waits for the next key that goes down: it fires once, with that key, and is gone. A later hook
replaces an earlier one that has not fired.

## Main definitions

* `Chip8.Keypad`, parametrised by what a hook carries.
* `Chip8.Keypad.keyDown` : the keypad with a key down, and the hook that fires.
* `Chip8.Keypad.press`, `Chip8.Keypad.release` : the same by host keys.
-/

namespace Chip8

/-- The host keys laid out as the keypad, a square of four by four. -/
def hostKeys : List (String × Int) :=
  [("1", 0x1), ("2", 0x2), ("3", 0x3), ("4", 0xC),
   ("q", 0x4), ("w", 0x5), ("e", 0x6), ("r", 0xD),
   ("a", 0x7), ("s", 0x8), ("d", 0x9), ("f", 0xE),
   ("z", 0xA), ("x", 0x0), ("c", 0xB), ("v", 0xF)]

/-- The state of the sixteen keys. -/
structure Keys where
  /-- Whether the keys are down, by number. -/
  down : Vector Bool keyCount
  deriving DecidableEq

namespace Keys

/-- No key is down. -/
def allUp : Keys := ⟨Vector.replicate keyCount false⟩

/-- Whether a key is down. A number that names no key is never down. -/
def isDown (k : Keys) (key : Int) : Bool :=
  0 ≤ key && k.down[key.toNat]?.getD false

/-- The keys with one of them moved. -/
def move (k : Keys) (key : Int) (down : Bool) : Keys :=
  ⟨k.down.setIfInBounds key.toNat down⟩

theorem isDown_move (k : Keys) {i : Int} (h : 0 ≤ i ∧ i < keyCount) (j : Int) (down : Bool) :
    (k.move i down).isDown j = if j = i then down else k.isDown j := by
  by_cases hj : j = i
  · subst hj
    have : j.toNat < keyCount := by omega
    simp [isDown, move, h.1, this]
  · by_cases h0 : 0 ≤ j
    · have : i.toNat ≠ j.toNat := by omega
      simp [isDown, move, hj, this]
    · simp [isDown, h0, hj]

theorem isDown_eq_false (k : Keys) {key : Int} (h : ¬(0 ≤ key ∧ key < keyCount)) :
    k.isDown key = false := by
  by_cases h0 : 0 ≤ key
  · have hle : keyCount ≤ key.toNat := by omega
    simp [isDown, Vector.getElem?_eq_none hle]
  · simp [isDown, h0]

theorem isDown_allUp (key : Int) : allUp.isDown key = false := by
  simp only [isDown, allUp, Vector.getElem?_replicate]
  split <;> simp

end Keys

/-- A keypad with hooks that carry an `α`. -/
structure Keypad (α : Type) where
  /-- The keys of the host, each with the key that it moves. -/
  keyMap : List (String × Int) := hostKeys
  /-- The state of the keys. -/
  keys : Keys := .allUp
  /-- The hook that waits for the next key. -/
  pending : Option α := none

namespace Keypad

variable {α : Type}

/-- Refuses a number that names no key. -/
def checkKey (key : Int) : Except Error Unit :=
  if 0 ≤ key ∧ key < keyCount then .ok () else .error (.misuse (.noSuchKey key))

/-- Installs a hook for the next key that goes down. -/
def hook (k : Keypad α) (a : α) : Keypad α :=
  { k with pending := some a }

/-- Moves a key down. Returns the hook that fires, if the key was up and a hook was waiting. -/
def keyDown (k : Keypad α) (key : Int) : Except Error (Option α × Keypad α) := do
  checkKey key
  if k.keys.isDown key then return (none, k)
  else return (k.pending, { k with keys := k.keys.move key true, pending := none })

/-- Moves a key up. -/
def keyUp (k : Keypad α) (key : Int) : Except Error (Keypad α) := do
  checkKey key
  return { k with keys := k.keys.move key false }

/-- The key that a host key moves. Host keys are looked up in lower case. -/
def keyOf? (k : Keypad α) (hostKey : String) : Option Int :=
  k.keyMap.lookup (Text.lower hostKey)

/-- Moves all keys up. -/
def releaseAll (k : Keypad α) : Keypad α :=
  { k with keys := .allUp }

/-- A key that was up takes the hook away when it goes down. -/
theorem keyDown_eq (k : Keypad α) (key : Int) :
    k.keyDown key =
      if 0 ≤ key ∧ key < keyCount then
        if k.keys.isDown key then .ok (none, k)
        else .ok (k.pending, { k with keys := k.keys.move key true, pending := none })
      else .error (.misuse (.noSuchKey key)) := by
  unfold keyDown checkKey
  split
  · simp only [bind, Except.bind, pure, Except.pure]
  · rfl

theorem keyUp_eq (k : Keypad α) (key : Int) :
    k.keyUp key =
      if 0 ≤ key ∧ key < keyCount then .ok { k with keys := k.keys.move key false }
      else .error (.misuse (.noSuchKey key)) := by
  unfold keyUp checkKey
  split <;> rfl

end Keypad

end Chip8
