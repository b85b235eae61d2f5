import Chip8.Error
import Chip8.Machine.Layout

/-!
# The call stack

Sixteen slots for return addresses, filled from the first on. Popping an address clears its slot.

## Main definitions

* `Chip8.CallStack.push`, `Chip8.CallStack.pop`
* `Chip8.CallStack.addresses` : the stored addresses, the oldest first.
* `Chip8.CallStack.Clean` : the slots that are not in use hold zero.

## Main statements

* `Chip8.CallStack.addresses_push`, `Chip8.CallStack.addresses_pop` : both act on the end of the
  list of addresses.
* `Chip8.CallStack.Clean.eq_of_addresses_eq` : a clean stack is known by its addresses.
-/

namespace Chip8

/-- The return addresses of the calls that have not returned. -/
structure CallStack where
  /-- The slots. -/
  slots : Vector UInt16 stackSize
  /-- The number of stored addresses, which occupy the first slots. -/
  depth : Nat
  /-- There are no more addresses than slots. -/
  depth_le : depth ≤ stackSize := by decide
  deriving DecidableEq

namespace CallStack

/-- A stack without addresses. -/
def empty : CallStack where
  slots := Vector.replicate stackSize 0
  depth := 0

/-- Stores the low sixteen bits of an address. -/
def push (s : CallStack) (address : Int) : Except Error CallStack :=
  if h : s.depth < stackSize then
    .ok ⟨s.slots.set s.depth (UInt16.ofInt address), s.depth + 1, h⟩
  else .error (.fault .fullStack)

/-- Takes the newest address and clears its slot. -/
def pop (s : CallStack) : Except Error (UInt16 × CallStack) :=
  if h : 0 < s.depth then
    have top : s.depth - 1 < stackSize := by have := s.depth_le; omega
    .ok (s.slots[s.depth - 1], ⟨s.slots.set (s.depth - 1) 0, s.depth - 1, Nat.le_of_lt top⟩)
  else .error (.fault .emptyStack)

/-- The stored addresses, the oldest first. -/
def addresses (s : CallStack) : List UInt16 :=
  s.slots.toList.take s.depth

/-- Stores several addresses, the first of the list first. -/
def pushAll (s : CallStack) (addresses : List Int) : Except Error CallStack :=
  addresses.foldlM push s

/-! ### The stack as a list of addresses -/

theorem length_addresses (s : CallStack) : s.addresses.length = s.depth := by
  have := s.depth_le
  simp only [addresses, List.length_take, Vector.length_toList]
  omega

theorem addresses_push {s t : CallStack} {address : Int} (h : s.push address = .ok t) :
    t.addresses = s.addresses ++ [UInt16.ofInt address] := by
  unfold push at h
  split at h
  · rename_i hd
    cases h
    have hl : s.depth < s.slots.toList.length := by simpa using hd
    simp only [addresses, Vector.toList_set]
    rw [List.take_succ_eq_append_getElem (by simpa using hl), List.take_set_of_le (Nat.le_refl _)]
    simp
  · cases h

theorem addresses_pop {s t : CallStack} {address : UInt16} (h : s.pop = .ok (address, t)) :
    s.addresses = t.addresses ++ [address] := by
  unfold pop at h
  split at h
  · rename_i hd
    cases h
    have hl : s.depth - 1 < s.slots.toList.length := by
      have := s.depth_le
      simp only [Vector.length_toList]
      omega
    have hs : s.depth = (s.depth - 1) + 1 := by omega
    simp only [addresses, Vector.toList_set, List.take_set_of_le (Nat.le_refl _)]
    conv => lhs; rw [hs, List.take_succ_eq_append_getElem hl]
    simp
  · cases h

theorem exists_push_eq_ok {s : CallStack} (h : s.depth < stackSize) (address : Int) :
    ∃ t, s.push address = .ok t := by
  rw [push, dif_pos h]
  exact ⟨_, rfl⟩

theorem exists_pop_eq_ok {s : CallStack} (h : 0 < s.depth) :
    ∃ address t, s.pop = .ok (address, t) := by
  rw [pop, dif_pos h]
  exact ⟨_, _, rfl⟩

theorem push_eq_error_iff {s : CallStack} {address : Int} {e : Error} :
    s.push address = .error e ↔ s.depth = stackSize ∧ e = .fault .fullStack := by
  have := s.depth_le
  unfold push
  split
  · simp; omega
  · simp [eq_comm]; omega

theorem pop_eq_error_iff {s : CallStack} {e : Error} :
    s.pop = .error e ↔ s.depth = 0 ∧ e = .fault .emptyStack := by
  unfold pop
  split
  · simp; omega
  · simp [eq_comm]; omega

/-! ### Slots that are not in use -/

/-- The slots behind the stored addresses hold zero. -/
def Clean (s : CallStack) : Prop :=
  ∀ a ∈ s.slots.toList.drop s.depth, a = 0

instance (s : CallStack) : Decidable s.Clean :=
  inferInstanceAs (Decidable (∀ a ∈ s.slots.toList.drop s.depth, a = 0))

theorem clean_empty : empty.Clean := by
  intro a ha
  rw [empty, Vector.toList_replicate] at ha
  exact List.eq_of_mem_replicate (List.mem_of_mem_drop ha)

/-- A stored address leaves the slots behind it as they are. -/
theorem Clean.push {s t : CallStack} {address : Int} (hs : s.Clean)
    (h : s.push address = .ok t) : t.Clean := by
  unfold CallStack.push at h
  split at h
  · cases h
    intro a ha
    simp only [Vector.toList_set, List.drop_set_of_lt (Nat.lt_add_one _)] at ha
    rw [← List.drop_drop] at ha
    exact hs a (List.mem_of_mem_drop ha)
  · cases h

/-- The slot of an address that was taken is cleared. -/
theorem Clean.pop {s t : CallStack} {address : UInt16} (hs : s.Clean)
    (h : s.pop = .ok (address, t)) : t.Clean := by
  unfold CallStack.pop at h
  split at h
  · rename_i hd
    cases h
    intro a ha
    have hl : s.depth - 1 < (s.slots.toList.set (s.depth - 1) 0).length := by
      have := s.depth_le
      simp only [List.length_set, Vector.length_toList]
      omega
    have hdepth : s.depth - 1 + 1 = s.depth := by omega
    simp only [Vector.toList_set] at ha
    rw [List.drop_eq_getElem_cons hl, List.getElem_set_self, hdepth,
      List.drop_set_of_lt (Nat.sub_one_lt_of_lt hd)] at ha
    rcases List.mem_cons.1 ha with rfl | ha
    · rfl
    · exact hs a ha
  · cases h

/-- The slots of a clean stack are its addresses and then zeros. -/
theorem Clean.toList_slots {s : CallStack} (hs : s.Clean) :
    s.slots.toList = s.addresses ++ List.replicate (stackSize - s.depth) 0 := by
  have hdrop := List.eq_replicate_of_mem hs
  rw [List.length_drop, Vector.length_toList] at hdrop
  rw [addresses, ← hdrop, List.take_append_drop]

/-- **A clean stack is known by its addresses.** -/
theorem Clean.eq_of_addresses_eq {s t : CallStack} (hs : s.Clean) (ht : t.Clean)
    (h : s.addresses = t.addresses) : s = t := by
  have hdepth : s.depth = t.depth := by
    rw [← length_addresses, ← length_addresses, h]
  have hslots : s.slots = t.slots := by
    rw [← Vector.toList_inj, hs.toList_slots, ht.toList_slots, h, hdepth]
  cases s
  cases t
  cases hdepth
  cases hslots
  rfl

end CallStack

end Chip8
