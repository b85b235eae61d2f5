import Chip8.Proofs.Effect
import Chip8.Random.Threefry

/-!
# The laws of arithmetic

The operations on two registers as operations on numbers. The new value of `VX` is the result
modulo 256, whatever the two registers are: both operands are read before a register is written, and
`VX` is written last. Where `VX` is not the flag register itself, the flag makes up for what the
byte lost: the carry of a sum or of a shift, the bit that a shift to the right drops, and whether a
difference needed no borrow.

## Main definitions

* `Chip8.BinaryOp.value` : the new value of `VX` as a number.
* `Chip8.BinaryOp.FlagLaw` : what ties the flag to the operands and the new value.
* `Chip8.BinaryOp.opcode` : the opcode `8XYN` of an operation.

## Main results

* `Chip8.BinaryOp.toNat_fst_apply`, `Chip8.BinaryOp.flagLaw_apply` : the operations on bytes.
* `Chip8.State.get_combine` : the registers after an operation.
* `Chip8.combine_aliased` : the law of the opcodes.
-/

namespace Chip8

namespace BinaryOp

/-- The last digit of the opcodes of an operation. -/
def digit : BinaryOp → Nat
  | .copy => 0x0
  | .or => 0x1
  | .and => 0x2
  | .xor => 0x3
  | .add => 0x4
  | .subtract => 0x5
  | .shiftRight => 0x6
  | .subtractFrom => 0x7
  | .shiftLeft => 0xE

/-- The opcode `8XYN` of an operation on `VX` and `VY`. -/
def opcode (op : BinaryOp) (x y : Fin registerCount) : Nat :=
  0x8000 + 256 * x + 16 * y + op.digit

/-- The new value of `VX`, for the values `a` of `VX` and `b` of `VY`. -/
def value (op : BinaryOp) (a b : Nat) : Int :=
  match op with
  | .copy => b
  | .or => (a ||| b : Nat)
  | .and => (a &&& b : Nat)
  | .xor => (a ^^^ b : Nat)
  | .add => (a + b) % 256
  | .subtract => (a - b) % 256
  | .shiftRight => a / 2
  | .subtractFrom => (b - a) % 256
  | .shiftLeft => 2 * a % 256

/-- The values `a` of `VX` and `b` of `VY`, the flag before, and the new values of `VX` and of the
flag. -/
def FlagLaw (op : BinaryOp) (a b before vx flag : Nat) : Prop :=
  match op with
  | .copy | .or | .and | .xor => flag = before
  | .add => 256 * flag + vx = a + b
  | .subtract => flag = if b < a then 1 else 0
  | .shiftRight => 2 * vx + flag = a
  | .subtractFrom => flag = if a < b then 1 else 0
  | .shiftLeft => 256 * flag + vx = 2 * a

/-! ### Operations on bytes -/

theorem ofDigit?_digit (op : BinaryOp) : ofDigit? op.digit = some op := by
  cases op <;> rfl

theorem toNat_flag (p : Prop) [Decidable p] (before : UInt8) :
    ((flag p).getD before).toNat = if p then 1 else 0 := by
  rw [flag, Option.getD_some]
  split <;> rfl

theorem toNat_shiftRight_one (a : UInt8) : (a >>> 1).toNat = a.toNat / 2 := by
  rw [UInt8.toNat_shiftRight]
  exact Nat.shiftRight_eq_div_pow a.toNat 1

theorem toNat_shiftLeft_one (a : UInt8) : (a <<< 1).toNat = 2 * a.toNat % 256 := by
  rw [UInt8.toNat_shiftLeft]
  change a.toNat <<< 1 % 256 = _
  rw [Nat.shiftLeft_eq]
  omega

theorem toNat_sub_emod (a b : UInt8) :
    ((a - b).toNat : Int) = ((a.toNat : Int) - b.toNat) % 256 := by
  have ha := a.toNat_lt
  have hb := b.toNat_lt
  rw [UInt8.toNat_sub]
  omega

/-- **The new value of `VX`.** -/
theorem toNat_fst_apply (op : BinaryOp) (a b : UInt8) :
    ((op.apply a b).1.toNat : Int) = op.value a.toNat b.toNat := by
  cases op with
  | copy => rfl
  | or => exact congrArg Nat.cast (UInt8.toNat_or a b)
  | and => exact congrArg Nat.cast (UInt8.toNat_and a b)
  | xor => exact congrArg Nat.cast (UInt8.toNat_xor a b)
  | add => exact congrArg Nat.cast (UInt8.toNat_add a b)
  | subtract => exact toNat_sub_emod a b
  | shiftRight => exact congrArg Nat.cast (toNat_shiftRight_one a)
  | subtractFrom => exact toNat_sub_emod b a
  | shiftLeft => exact congrArg Nat.cast (toNat_shiftLeft_one a)

/-- **The flag makes up for what the byte lost.** -/
theorem flagLaw_apply (op : BinaryOp) (a b before : UInt8) :
    op.FlagLaw a.toNat b.toNat before.toNat (op.apply a b).1.toNat
      ((op.apply a b).2.getD before).toNat := by
  have ha := a.toNat_lt
  have hb := b.toNat_lt
  cases op with
  | copy | or | and | xor => rfl
  | add =>
    simp only [FlagLaw, apply, toNat_flag, UInt8.toNat_add]
    split <;> omega
  | subtract => simp only [FlagLaw, apply, toNat_flag, UInt8.lt_iff_toNat_lt]
  | shiftRight =>
    have hbit : (a &&& 1).toNat = a.toNat % 2 := by
      rw [UInt8.toNat_and]
      exact Nat.and_one_is_mod a.toNat
    simp only [FlagLaw, apply, Option.getD_some, toNat_shiftRight_one, hbit]
    omega
  | subtractFrom => simp only [FlagLaw, apply, toNat_flag, UInt8.lt_iff_toNat_lt]
  | shiftLeft =>
    have hbit : (a >>> 7).toNat = a.toNat / 128 := by
      rw [UInt8.toNat_shiftRight]
      exact Nat.shiftRight_eq_div_pow a.toNat 7
    simp only [FlagLaw, apply, Option.getD_some, toNat_shiftLeft_one, hbit]
    omega

end BinaryOp

/-! ### Operations on registers -/

variable (op : BinaryOp) (x y : Fin registerCount) (s : State) (grid : PixelGrid) (keys : Keys)

/-- The new value is written last. -/
theorem State.registers_combine {result : UInt8} {flag : Option UInt8}
    (h : op.apply (s.registers.get x) (s.registers.get y) = (result, flag)) :
    (s.combine op x y).registers =
      (flag.elim s.registers (s.registers.set flagRegister)).set x result := by
  cases flag <;> simp only [combine, h, Option.elim]

theorem State.get_combine (k : Fin registerCount) :
    (s.combine op x y).registers.get k.val =
      if k = x then (op.apply (s.registers.get x) (s.registers.get y)).1
      else if k = 15 then
        (op.apply (s.registers.get x) (s.registers.get y)).2.getD (s.registers.get flagRegister)
      else s.registers.get k.val := by
  have hflag : k = (15 : Fin registerCount) ↔ k.val = flagRegister := Fin.ext_iff
  have hset (f : UInt8) : (s.registers.set flagRegister f).get k.val =
      if k.val = flagRegister then f else s.registers.get k.val :=
    Registers.get_set_natCast _ (by decide) k.isLt f
  obtain ⟨⟨result, flag⟩, hr⟩ : ∃ r, op.apply (s.registers.get x) (s.registers.get y) = r :=
    ⟨_, rfl⟩
  rw [registers_combine op x y s hr, Registers.get_set_natCast _ x.isLt k.isLt, hr]
  simp only [Fin.ext_iff, hflag]
  cases flag with
  | some f => simp only [Option.elim, hset, Option.getD_some]
  | none =>
    by_cases hk : k.val = flagRegister
    · simp only [Option.elim, hk, if_true, Option.getD_none]
    · simp only [Option.elim, hk, if_false]

theorem execute_combine [Random.Generator] :
    (execute (.ofOpcode (op.opcode x y)) s grid keys).result = .ok (s.advance.combine op x y) := by
  have hdigit : op.digit < 16 := by cases op <;> decide
  have hop : (Operation.combine op x y).IsMeantBy (.ofOpcode (op.opcode x y)) := by
    have hx : x.val < 16 := x.isLt
    have hy : y.val < 16 := y.isLt
    have hn : (Instruction.ofOpcode (op.opcode x y)).n = op.digit := by
      simp only [Instruction.ofOpcode, BinaryOp.opcode]
      omega
    simp only [Operation.IsMeantBy, hn, BinaryOp.ofDigit?_digit, true_and]
    simp only [Instruction.ofOpcode, BinaryOp.opcode]
    omega
  rw [execute_ofOpcode hop]
  rfl

/-- **The law of arithmetic.** `8XYN` succeeds whichever registers `VX` and `VY` are, be they the
same one or the flag register. The new value of `VX` comes from the values of `VX` and `VY` before.
Where `VX` is not the flag register, the flag obeys its law. No other register changes. -/
theorem combine_aliased [Random.Generator] :
    ∃ t, (execute (.ofOpcode (op.opcode x y)) s grid keys).result = .ok t ∧
      (t.valueOf x : Int) = op.value (s.valueOf x) (s.valueOf y) ∧
      (x ≠ 15 → op.FlagLaw (s.valueOf x) (s.valueOf y) (s.valueOf flagRegister) (t.valueOf x)
        (t.valueOf flagRegister)) ∧
      ∀ k : Fin registerCount, k ≠ x → k ≠ 15 → t.valueOf k = s.valueOf k := by
  refine ⟨_, execute_combine op x y s grid keys, ?_, fun hx => ?_, fun k hkx hk => ?_⟩
  · have hvx := s.advance.get_combine op x y x
    rw [if_pos rfl] at hvx
    rw [State.valueOf, hvx]
    exact op.toNat_fst_apply _ _
  · have hvx := s.advance.get_combine op x y x
    have hvf := s.advance.get_combine op x y 15
    rw [if_pos rfl] at hvx
    rw [if_neg hx.symm, if_pos rfl] at hvf
    change op.FlagLaw _ _ _ ((s.advance.combine op x y).registers.get x.val).toNat
      ((s.advance.combine op x y).registers.get (15 : Fin registerCount).val).toNat
    rw [hvx, hvf]
    exact op.flagLaw_apply _ _ _
  · have hother := s.advance.get_combine op x y k
    rw [if_neg hkx, if_neg hk] at hother
    exact congrArg UInt8.toNat hother

/-- A state with 200 in `V1` and 100 in the flag register. -/
def State.beforeCarry : State :=
  { State.initial ⟨0, 0⟩ with registers := (Registers.blank.set 1 200).set flagRegister 100 }

/-- The flag register is an operand and then receives the carry. As both operands it receives the
sum. -/
theorem combine_aliased_beforeCarry :
    (1 : Fin registerCount) ≠ 15 ∧ (2 : Fin registerCount) ≠ 1 ∧ (2 : Fin registerCount) ≠ 15 ∧
      (∃ t, (execute (.ofOpcode 0x81F4) .beforeCarry (.dark 1 1) .allUp).result = .ok t ∧
        t.valueOf 1 = 44 ∧ t.valueOf flagRegister = 1 ∧ t.valueOf 2 = 0) ∧
      ∃ t, (execute (.ofOpcode 0x8FF4) .beforeCarry (.dark 1 1) .allUp).result = .ok t ∧
        t.valueOf flagRegister = 200 := by
  have hx : (1 : Fin registerCount) ≠ 15 := by decide
  have hkx : (2 : Fin registerCount) ≠ 1 := by decide
  have hk : (2 : Fin registerCount) ≠ 15 := by decide
  obtain ⟨t, ht, hvalue, hflag, hkept⟩ :=
    combine_aliased .add 1 15 .beforeCarry (.dark 1 1) .allUp
  obtain ⟨u, hu, hsum, -⟩ := combine_aliased .add 15 15 .beforeCarry (.dark 1 1) .allUp
  have hlow : t.valueOf 1 = 44 := Int.ofNat_inj.1 hvalue
  have hcarry : 256 * t.valueOf flagRegister + t.valueOf 1 = 300 := hflag hx
  exact ⟨hx, hkx, hk, ⟨t, ht, hlow, by omega, hkept 2 hkx hk⟩, u, hu, Int.ofNat_inj.1 hsum⟩

end Chip8
