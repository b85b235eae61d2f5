import Chip8.Proofs.KeyHistory
import Chip8.Proofs.LowerCase

/-!
# Host keys

A host key is looked up by its lower-case form, in a key map that is taken as it is given. So the
entries of a key map that are in lower case serve their host keys in any case, and an entry that is
not in lower case is never found.

## Main definitions

* `Chip8.Keypad.Presses`, `Chip8.Keypad.Releases` : a call moves one key.
* `Chip8.Keypad.Works` : a host key moves a key.

## Main results

* `Chip8.Keypad.works_iff_keyOf?` : the key that a host key moves.
* `Chip8.Keypad.works_iff_lookup_lower` : the host keys that work, and those that do nothing.
* `Chip8.Keypad.capital_does_not_work` : a host key of a key map that does nothing.
-/

namespace Chip8.Keypad

variable {α : Type} {k : Keypad α} {reply : KeypadReply α} {hostKey : String} {key : Int}

/-! ### Calls that move one key -/

/-- The key goes down, and no other moves. The hook fires if the key was up. -/
structure Presses (k : Keypad α) (key : Int) (reply : KeypadReply α) : Prop where
  /-- There was a key to move. -/
  result_eq : reply.result = .ok true
  /-- The key is down. -/
  isDown_eq : ∀ other, reply.keypad.keys.isDown other =
    if other = key then true else k.keys.isDown other
  /-- The hook hears the key if the key was up. -/
  fired_eq : reply.fired = if k.keys.isDown key then none else k.pending.map fun a => (a, key)
  /-- The hook that fires is gone. -/
  pending_eq : reply.keypad.pending = if k.keys.isDown key then k.pending else none

/-- The key goes up, and no other moves. -/
structure Releases (k : Keypad α) (key : Int) (reply : KeypadReply α) : Prop where
  /-- There was a key to move. -/
  result_eq : reply.result = .ok true
  /-- The key is up. -/
  isDown_eq : ∀ other, reply.keypad.keys.isDown other =
    if other = key then false else k.keys.isDown other
  /-- No hook fires. -/
  fired_eq : reply.fired = none
  /-- The hook stays. -/
  pending_eq : reply.keypad.pending = k.pending

theorem presses_performDown (k : Keypad α) (hkey : 0 ≤ key ∧ key < keyCount) :
    k.Presses key (k.performDown key) := by
  rw [performDown, keyDown_eq, if_pos hkey]
  cases hdown : k.keys.isDown key with
  | true =>
    refine ⟨rfl, fun other => ?_, by rw [hdown]; rfl, by rw [hdown]; rfl⟩
    by_cases hother : other = key
    · rw [if_pos hother, hother]
      exact hdown
    · rw [if_neg hother]
      rfl
  | false =>
    exact ⟨rfl, fun other => Keys.isDown_move _ hkey other true, by rw [hdown]; rfl,
      by rw [hdown]; rfl⟩

theorem releases_performUp (k : Keypad α) (hkey : 0 ≤ key ∧ key < keyCount) :
    k.Releases key (k.performUp key) := by
  rw [performUp, keyUp_eq, if_pos hkey]
  exact ⟨rfl, fun other => Keys.isDown_move _ hkey other false, rfl, rfl⟩

/-! ### Host keys that work -/

/-- The host key moves the key: it puts the key down when it is pressed, and up when it is
released. -/
structure Works (k : Keypad α) (hostKey : String) (key : Int) : Prop where
  /-- To press the host key puts the key down. -/
  presses : k.Presses key (k.perform (.press hostKey))
  /-- To release it puts the key up. -/
  releases : k.Releases key (k.perform (.release hostKey))

theorem works_of_keyOf? (h : k.keyOf? hostKey = some key) (hkey : 0 ≤ key ∧ key < keyCount) :
    k.Works hostKey key := by
  constructor
  · simp only [perform, h]
    exact k.presses_performDown hkey
  · simp only [perform, h]
    exact k.releases_performUp hkey

theorem perform_of_keyOf?_eq_none (h : k.keyOf? hostKey = none) :
    k.perform (.press hostKey) = ⟨.ok false, k, none⟩ ∧
      k.perform (.release hostKey) = ⟨.ok false, k, none⟩ := by
  simp only [perform, h, and_self]

/-- A host key moves one key only: if that is up, this shows when the host key is pressed, and if
it is down, when the host key is released. -/
theorem Works.unique {key' : Int} (h : k.Works hostKey key) (h' : k.Works hostKey key') :
    key = key' := by
  by_contra hne
  have hdown := (h.presses.isDown_eq key).symm.trans (h'.presses.isDown_eq key)
  have hup := (h.releases.isDown_eq key).symm.trans (h'.releases.isDown_eq key)
  rw [if_pos rfl, if_neg hne] at hdown hup
  rw [← hdown] at hup
  cases hup

/-- **The key that a host key moves** is the one to which its lower-case form is mapped. -/
theorem works_iff_keyOf? (hmap : ∀ entry ∈ k.keyMap, 0 ≤ entry.2 ∧ entry.2 < keyCount) :
    k.Works hostKey key ↔ k.keyOf? hostKey = some key := by
  have hkey {key : Int} (h : k.keyOf? hostKey = some key) : 0 ≤ key ∧ key < keyCount := by
    obtain ⟨before, behind, hentry, -⟩ := List.lookup_eq_some_iff.1 h
    refine hmap (Text.lower hostKey, key) ?_
    rw [hentry]
    exact List.mem_append_right _ (List.mem_cons_self ..)
  refine ⟨fun h => ?_, fun h => works_of_keyOf? h (hkey h)⟩
  cases hother : k.keyOf? hostKey with
  | none =>
    have hresult := h.presses.result_eq
    rw [(perform_of_keyOf?_eq_none hother).1] at hresult
    cases hresult
  | some other => rw [h.unique (works_of_keyOf? hother (hkey hother))]

/-- A text whose lower-case form is that of no entry is mapped to no key, since its lower-case form
would be its own lower case. -/
theorem keyOf?_eq_none (h : ∀ entry ∈ k.keyMap, Text.lower entry.1 ≠ Text.lower hostKey) :
    k.keyOf? hostKey = none := by
  rw [keyOf?, List.lookup_eq_none_iff]
  intro entry hentry
  rw [bne_iff_ne]
  intro heq
  refine h entry hentry ?_
  rw [← heq, Text.lower_lower]

/-- **The host keys that work, and those that do nothing.** The keys of a key map are among the
sixteen. A host key works as a key exactly if the map gives the key to its lower-case form: so a
host key of the map works as its own key exactly if its lower-case form has the same key, which is
so if it is in lower case itself. A text whose lower-case form is that of no host key of the map
does nothing, and nor does any other whose lower-case form is not in the map. -/
theorem works_iff_lookup_lower (hmap : ∀ entry ∈ k.keyMap, 0 ≤ entry.2 ∧ entry.2 < keyCount)
    (hostKey : String) :
    (∀ key, k.keyMap.lookup hostKey = some key →
      (k.Works hostKey key ↔ k.keyMap.lookup (Text.lower hostKey) = some key) ∧
      (Text.lower hostKey = hostKey → k.Works hostKey key)) ∧
    ((∀ entry ∈ k.keyMap, Text.lower entry.1 ≠ Text.lower hostKey) →
      k.perform (.press hostKey) = ⟨.ok false, k, none⟩ ∧
        k.perform (.release hostKey) = ⟨.ok false, k, none⟩) ∧
    (k.keyMap.lookup (Text.lower hostKey) = none →
      k.perform (.press hostKey) = ⟨.ok false, k, none⟩ ∧
        k.perform (.release hostKey) = ⟨.ok false, k, none⟩) := by
  refine ⟨fun key hlookup => ⟨works_iff_keyOf? hmap, fun hlower => ?_⟩, fun h => ?_,
    perform_of_keyOf?_eq_none⟩
  · rw [works_iff_keyOf? hmap, keyOf?, hlower, hlookup]
  · exact perform_of_keyOf?_eq_none (keyOf?_eq_none h)

/-- A key map with two entries that differ in case. -/
def twoCases : Keypad Nat :=
  { keyMap := [("Q", 0x1), ("q", 0x2), ("ß", 0x3)], pending := some 0 }

/-- The entry in lower case works, and the other does not. The upper case of the third entry is
another text in lower case too, so it does nothing. -/
theorem works_iff_lookup_lower_twoCases :
    (∀ entry ∈ twoCases.keyMap, 0 ≤ entry.2 ∧ entry.2 < keyCount) ∧
      twoCases.Works "q" 0x2 ∧ ¬twoCases.Works "Q" 0x1 ∧
      twoCases.perform (.press "SS") = ⟨.ok false, twoCases, none⟩ := by
  have hmap : ∀ entry ∈ twoCases.keyMap, 0 ≤ entry.2 ∧ entry.2 < keyCount := by decide
  have hsmall := ((works_iff_lookup_lower hmap "q").1 0x2 (by decide +kernel)).2 (by decide +kernel)
  have hcapital := ((works_iff_lookup_lower hmap "Q").1 0x1 (by decide +kernel)).1
  have hother := (works_iff_lookup_lower hmap "SS").2.1 (by decide +kernel)
  exact ⟨hmap, hsmall, fun h => absurd (hcapital.1 h) (by decide +kernel), hother.1⟩

/-- **A host key of a key map that does nothing.** The only entry is a capital letter. To press and
to release this host key gives false and moves no key. -/
theorem capital_does_not_work :
    let k : Keypad Unit := { keyMap := [("Q", 0x4)] }
    (∀ entry ∈ k.keyMap, 0 ≤ entry.2 ∧ entry.2 < keyCount) ∧ k.keyMap.lookup "Q" = some 0x4 ∧
      k.perform (.press "Q") = ⟨.ok false, k, none⟩ ∧
      k.perform (.release "Q") = ⟨.ok false, k, none⟩ ∧ ¬k.Works "Q" 0x4 := by
  intro k
  have hnone : k.keyOf? "Q" = none := by decide +kernel
  obtain ⟨hpress, hrelease⟩ := perform_of_keyOf?_eq_none hnone
  refine ⟨by decide, by decide +kernel, hpress, hrelease, fun h => ?_⟩
  have hresult := h.presses.result_eq
  rw [hpress] at hresult
  cases hresult

end Chip8.Keypad
