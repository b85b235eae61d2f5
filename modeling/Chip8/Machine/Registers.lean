import Chip8.Machine.Layout

/-!
# Registers

Sixteen registers of one byte. An index may be any integer: a negative one counts from the end.
What is then still out of range reads the nearest register, and writes none.

## Main definitions

* `Chip8.Registers.get`, `Chip8.Registers.set`

## Main statements

* `Chip8.Registers.get_set` : what is read after a register was written.
* `Chip8.Registers.get_setFirst` : what is read after the first registers were written.
-/

namespace Chip8

/-- The general registers. -/
structure Registers where
  /-- The values by index. -/
  values : Vector UInt8 registerCount
  deriving DecidableEq

namespace Registers

/-- Registers that hold zeros only. -/
def blank : Registers := ⟨Vector.replicate registerCount 0⟩

/-- The place of an index, where negative indexes count from the end. -/
def place (index : Int) : Int :=
  if index < 0 then index + registerCount else index

/-- The register that is read at an index: the one at its place, or the nearest one. -/
def readIndex (index : Int) : Fin registerCount :=
  ⟨min (place index).toNat 15, by simp only [registerCount]; omega⟩

/-- The register that is written at an index, if there is one at its place. -/
def writeIndex? (index : Int) : Option (Fin registerCount) :=
  let p := place index
  if h : 0 ≤ p ∧ p < registerCount then some ⟨p.toNat, by simp only [registerCount] at h ⊢; omega⟩
  else none

/-- The value of a register. -/
def get (r : Registers) (index : Int) : UInt8 :=
  r.values[readIndex index]

/-- Sets a register to a value. -/
def set (r : Registers) (index : Int) (value : UInt8) : Registers :=
  match writeIndex? index with
  | some i => ⟨r.values.set i value⟩
  | none => r

/-- Sets the registers from zero on to the values of a list, as far as there are registers. -/
def setFirst (r : Registers) (values : List UInt8) : Registers :=
  (values.zipIdx).foldl (fun r p => r.set p.2 p.1) r

/-- Reading after writing: the written register, if it is the one that is read, and otherwise the
value before. -/
theorem get_set (r : Registers) (i j : Int) (value : UInt8) :
    (r.set i value).get j = if writeIndex? i = some (readIndex j) then value else r.get j := by
  unfold set
  split
  · rename_i k h
    simp only [get, h, Option.some.injEq]
    by_cases hk : k = readIndex j
    · subst hk
      simp
    · simp [hk, Fin.val_ne_of_ne hk]
  · rename_i h
    simp [h]

/-! ### The sixteen registers -/

section Named

variable {x k : Nat}

theorem val_readIndex (hk : k < registerCount) : (readIndex k).val = k := by
  have hk : k < 16 := hk
  simp only [readIndex, place]
  split <;> omega

theorem writeIndex?_natCast (hx : x < registerCount) : writeIndex? x = some ⟨x, hx⟩ := by
  have hplace : place x = x := if_neg (by omega)
  simp only [writeIndex?, hplace]
  rw [dif_pos ⟨by omega, by omega⟩]
  simp

theorem get_set_natCast (r : Registers) (hx : x < registerCount) (hk : k < registerCount)
    (value : UInt8) : (r.set x value).get k = if k = x then value else r.get k := by
  rw [get_set, writeIndex?_natCast hx]
  simp only [Option.some.injEq, Fin.ext_iff, val_readIndex hk, eq_comm]

private theorem get_foldl_set (r : Registers) (l : List UInt8) (start : Nat)
    (hk : k < registerCount) (hl : start + l.length ≤ registerCount) :
    ((l.zipIdx start).foldl (fun r p => r.set p.2 p.1) r).get k =
      if start ≤ k then l.getD (k - start) (r.get k) else r.get k := by
  induction l generalizing r start with
  | nil => simp
  | cons b l ih =>
    rw [List.length_cons] at hl
    rw [List.zipIdx_cons, List.foldl_cons, ih _ _ (by omega), get_set_natCast r (by omega) hk]
    rcases Nat.lt_trichotomy k start with h | rfl | h
    · rw [if_neg (by omega), if_neg (by omega), if_neg (by omega)]
    · rw [if_neg (by omega), if_pos rfl, if_pos (by omega), Nat.sub_self]
      rfl
    · have hd : k - start = k - (start + 1) + 1 := by omega
      simp [hd, Nat.succ_le_of_lt h, Nat.le_of_lt h, Nat.ne_of_gt h]

/-- Values set from zero on lie side by side, and every register behind them stays. -/
theorem get_setFirst (r : Registers) {values : List UInt8} (hl : values.length ≤ registerCount)
    (hk : k < registerCount) : (r.setFirst values).get k = values.getD k (r.get k) := by
  rw [setFirst, get_foldl_set r values 0 hk (by omega), if_pos (Nat.zero_le k), Nat.sub_zero]

end Named

end Registers

end Chip8
