import Chip8.Host.Byte
import Chip8.Machine.Layout

/-!
# Memory

The memory holds 4096 bytes. A range of bytes is read or written as a whole: a range that is not
inside the memory is refused, so no address ever stands for another one. The empty range is inside
the memory when it starts there or right behind it.

## Main definitions

* `Chip8.InBounds` : a range lies inside the memory.
* `Chip8.Memory.read`, `Chip8.Memory.write`

## Main statements

* `Chip8.Memory.read_eq`, `Chip8.Memory.write_eq` : when bytes are read and written.
* `Chip8.Memory.peek_store` : what lies where after bytes were stored.
* `Chip8.Memory.eq_of_peek` : a memory is known by its bytes.
* `Chip8.Memory.store_comm` : ranges apart may be stored in either order.
-/

namespace Chip8

/-- The `length` bytes from `address` on lie inside the memory. -/
def InBounds (address length : Int) : Prop :=
  0 ≤ address ∧ 0 ≤ length ∧ address + length ≤ memorySize

instance (address length : Int) : Decidable (InBounds address length) :=
  inferInstanceAs (Decidable (_ ∧ _ ∧ _))

/-- Refuses a range that is not inside the memory. -/
def checkBounds (address length : Int) : Except Error Unit :=
  if InBounds address length then .ok () else .error (.fault (.outOfBounds address length))

/-- The memory of the machine. -/
structure Memory where
  /-- The bytes by address. -/
  bytes : Vector UInt8 memorySize
  deriving DecidableEq

namespace Memory

/-- Memory that holds zeros only. -/
def blank : Memory := ⟨Vector.replicate memorySize 0⟩

/-- The byte at an address. Behind the memory there are zeros. -/
def peek (m : Memory) (address : Nat) : UInt8 :=
  m.bytes[address]?.getD 0

/-- Stores bytes from `address` on. Those that fall behind the memory are lost. -/
def store (m : Memory) (address : Nat) : List UInt8 → Memory
  | [] => m
  | b :: l => store ⟨m.bytes.setIfInBounds address b⟩ (address + 1) l

/-- Reads `length` bytes from `address` on. -/
def read (m : Memory) (address length : Int) : Except Error (List UInt8) := do
  checkBounds address length
  return (List.range length.toNat).map fun j => m.peek (address.toNat + j)

/-- Writes values from `address` on. The range is checked before the values. -/
def write (m : Memory) (address : Int) (values : List Int) : Except Error Memory := do
  checkBounds address values.length
  match values.find? (!isByte ·) with
  | some value => throw (.misuse (.ofNonByte value))
  | none => return m.store address.toNat (values.map UInt8.ofInt)

/-- The memory with the font in its place. -/
def withFont (m : Memory) : Memory :=
  m.store fontStart font

/-! ### Reading and writing -/

theorem read_eq (m : Memory) (address length : Int) :
    m.read address length =
      if InBounds address length then
        .ok ((List.range length.toNat).map fun j => m.peek (address.toNat + j))
      else .error (.fault (.outOfBounds address length)) := by
  unfold read checkBounds
  split <;> rfl

theorem write_eq (m : Memory) (address : Int) {values : List Int} (h : ∀ v ∈ values, isByte v) :
    m.write address values =
      if InBounds address values.length then .ok (m.store address.toNat (values.map UInt8.ofInt))
      else .error (.fault (.outOfBounds address values.length)) := by
  have hfind : values.find? (!isByte ·) = none := by
    simpa [List.find?_eq_none] using h
  unfold write checkBounds
  split
  · simp only [hfind]
    rfl
  · rfl

/-! ### Bytes of a changed memory -/

private theorem peek_set_self {m : Memory} {k : Nat} {b : UInt8} (hk : k < memorySize) :
    peek ⟨m.bytes.setIfInBounds k b⟩ k = b := by
  simp [peek, hk]

private theorem peek_set_ne {m : Memory} {k address : Nat} {b : UInt8} (h : address ≠ k) :
    peek ⟨m.bytes.setIfInBounds address b⟩ k = m.peek k := by
  simp [peek, h]

/-- Stored bytes lie side by side from the address on, and every other byte stays. -/
theorem peek_store (m : Memory) (address : Nat) (l : List UInt8) (k : Nat) :
    (m.store address l).peek k =
      if address ≤ k ∧ k < memorySize then l.getD (k - address) (m.peek k) else m.peek k := by
  induction l generalizing m address with
  | nil => simp [store]
  | cons b l ih =>
    rw [store, ih]
    by_cases hk : k < memorySize
    · rcases Nat.lt_trichotomy k address with h | h | h
      · have h₁ : ¬address ≤ k := by omega
        have h₂ : ¬address + 1 ≤ k := by omega
        simp [h₁, h₂, peek_set_ne (Nat.ne_of_gt h)]
      · subst h
        rw [if_neg fun h => Nat.not_succ_le_self k h.1, if_pos ⟨Nat.le_refl k, hk⟩,
          peek_set_self hk]
        simp
      · have h₁ : address ≤ k := by omega
        have h₂ : k - address = k - (address + 1) + 1 := by omega
        simp [hk, h₁, h₂, Nat.succ_le_of_lt h, peek_set_ne (Nat.ne_of_lt h)]
    · simp [hk, peek]

theorem peek_store_of_outside (m : Memory) {address k : Nat} {l : List UInt8}
    (h : k < address ∨ address + l.length ≤ k) : (m.store address l).peek k = m.peek k := by
  rw [peek_store]
  split
  · rw [List.getD_eq_getElem?_getD, List.getElem?_eq_none (by omega), Option.getD_none]
  · rfl

theorem peek_store_add (m : Memory) {address j : Nat} {l : List UInt8} (hj : j < l.length)
    (hk : address + j < memorySize) : (m.store address l).peek (address + j) = l[j] := by
  rw [peek_store, if_pos ⟨Nat.le_add_right _ _, hk⟩, Nat.add_sub_cancel_left,
    List.getD_eq_getElem?_getD, List.getElem?_eq_getElem hj, Option.getD_some]

theorem eq_of_peek {m m' : Memory} (h : ∀ k < memorySize, m.peek k = m'.peek k) : m = m' := by
  obtain ⟨bytes⟩ := m
  obtain ⟨bytes'⟩ := m'
  refine congrArg Memory.mk (Vector.ext fun k hk => ?_)
  simpa [peek, hk] using h k hk

/-- Bytes that are stored in two ranges apart may be stored in either order. -/
theorem store_comm (m : Memory) {a b : Nat} {l l' : List UInt8} (h : a + l.length ≤ b) :
    (m.store a l).store b l' = (m.store b l').store a l := by
  refine eq_of_peek fun k _ => ?_
  rcases Nat.lt_or_ge k b with hk | hk
  · rw [peek_store_of_outside _ (.inl hk), peek_store, peek_store,
      peek_store_of_outside _ (.inl hk)]
  · have hfar : a + l.length ≤ k := Nat.le_trans h hk
    rw [peek_store_of_outside (m.store b l') (.inr hfar), peek_store (m.store a l),
      peek_store_of_outside m (.inr hfar), peek_store m b]

theorem store_peek (m : Memory) (address n : Nat) :
    m.store address ((List.range n).map fun j => m.peek (address + j)) = m := by
  refine eq_of_peek fun k hk => ?_
  rw [peek_store]
  split
  · rename_i hinside
    by_cases hj : k - address < n
    · have hadd : address + (k - address) = k := by omega
      simp [hj, hadd]
    · simp [hj]
  · rfl

end Memory

end Chip8
