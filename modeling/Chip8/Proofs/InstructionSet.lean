import Mathlib.Tactic.SplitIfs
import Chip8.Instruction.Operation
import Chip8.Machine.Layout

/-!
# The instruction set

The dispatch on families and sub-codes, read backwards: for every operation the instructions that
mean it. An integer is an opcode when it has sixteen bits, and the fields of an opcode are its
hexadecimal digits.

## Main definitions

* `Chip8.Operation.IsMeantBy` : the fields of the instructions that mean an operation.

## Main results

* `Chip8.Instruction.operation?_eq_some_iff` : an instruction of one of the sixteen families means
  an operation if and only if its fields are those of the operation.
* `Chip8.decode_ofInt` : exactly the integers of sixteen bits are opcodes.
-/

namespace Chip8

/-- The instruction belongs to one of the sixteen families. -/
def Instruction.HasFamily (i : Instruction) : Prop :=
  0 ≤ i.family ∧ i.family < 16

/-- The fields of the instructions that mean an operation. -/
def Operation.IsMeantBy (op : Operation) (i : Instruction) : Prop :=
  match op with
  | .clear => i.family = 0x0 ∧ i.raw = 0x00E0
  | .ret => i.family = 0x0 ∧ i.raw = 0x00EE
  | .jump address => i.family = 0x1 ∧ address = i.nnn
  | .call address => i.family = 0x2 ∧ address = i.nnn
  | .skipIfValue x value => i.family = 0x3 ∧ x = i.x ∧ value = i.nn
  | .skipUnlessValue x value => i.family = 0x4 ∧ x = i.x ∧ value = i.nn
  | .skipIfEqual x y => i.family = 0x5 ∧ i.n = 0 ∧ x = i.x ∧ y = i.y
  | .load x value => i.family = 0x6 ∧ x = i.x ∧ value = i.nn
  | .increase x value => i.family = 0x7 ∧ x = i.x ∧ value = i.nn
  | .combine op x y => i.family = 0x8 ∧ BinaryOp.ofDigit? i.n = some op ∧ x = i.x ∧ y = i.y
  | .skipUnlessEqual x y => i.family = 0x9 ∧ i.n = 0 ∧ x = i.x ∧ y = i.y
  | .point address => i.family = 0xA ∧ address = i.nnn
  | .jumpBeyond address => i.family = 0xB ∧ address = i.nnn
  | .random x mask => i.family = 0xC ∧ x = i.x ∧ mask = i.nn
  | .draw x y height => i.family = 0xD ∧ x = i.x ∧ y = i.y ∧ height = i.n
  | .skipIfKey x => i.family = 0xE ∧ i.nn = 0x9E ∧ x = i.x
  | .skipUnlessKey x => i.family = 0xE ∧ i.nn = 0xA1 ∧ x = i.x
  | .readDelay x => i.family = 0xF ∧ i.nn = 0x07 ∧ x = i.x
  | .awaitKey x => i.family = 0xF ∧ i.nn = 0x0A ∧ x = i.x
  | .setDelay x => i.family = 0xF ∧ i.nn = 0x15 ∧ x = i.x
  | .setSound x => i.family = 0xF ∧ i.nn = 0x18 ∧ x = i.x
  | .shiftPoint x => i.family = 0xF ∧ i.nn = 0x1E ∧ x = i.x
  | .pointAtGlyph x => i.family = 0xF ∧ i.nn = 0x29 ∧ x = i.x
  | .storeDecimal x => i.family = 0xF ∧ i.nn = 0x33 ∧ x = i.x
  | .storeRegisters x => i.family = 0xF ∧ i.nn = 0x55 ∧ x = i.x
  | .loadRegisters x => i.family = 0xF ∧ i.nn = 0x65 ∧ x = i.x

namespace Instruction

variable {i : Instruction} {op : Operation}

private theorem isMeantBy_of_systemOperation? (hf : i.family = 0x0)
    (h : i.systemOperation? = some op) : op.IsMeantBy i := by
  unfold systemOperation? at h
  split_ifs at h with h₁ h₂ <;> cases h <;> exact ⟨hf, ‹_›⟩

private theorem isMeantBy_of_keyOperation? (hf : i.family = 0xE)
    (h : i.keyOperation? = some op) : op.IsMeantBy i := by
  unfold keyOperation? at h
  split_ifs at h with h₁ h₂ <;> cases h <;> exact ⟨hf, ‹_›, rfl⟩

private theorem isMeantBy_of_miscellaneousOperation? (hf : i.family = 0xF)
    (h : i.miscellaneousOperation? = some op) : op.IsMeantBy i := by
  unfold miscellaneousOperation? at h
  split_ifs at h <;> cases h <;> exact ⟨hf, ‹_›, rfl⟩

theorem HasFamily.eq (hi : i.HasFamily) :
    i.family = 0x0 ∨ i.family = 0x1 ∨ i.family = 0x2 ∨ i.family = 0x3 ∨ i.family = 0x4 ∨
      i.family = 0x5 ∨ i.family = 0x6 ∨ i.family = 0x7 ∨ i.family = 0x8 ∨ i.family = 0x9 ∨
      i.family = 0xA ∨ i.family = 0xB ∨ i.family = 0xC ∨ i.family = 0xD ∨ i.family = 0xE ∨
      i.family = 0xF := by
  obtain ⟨hlow, hhigh⟩ := hi
  omega

theorem isMeantBy_of_operation? (hi : i.HasFamily) (h : i.operation? = some op) :
    op.IsMeantBy i := by
  rcases hi.eq with h0 | h1 | h2 | h3 | h4 | h5 | h6 | h7 | h8 | h9 | hA | hB | hC | hD | hE | hF
  · exact isMeantBy_of_systemOperation? h0 (by simpa [operation?, h0] using h)
  · obtain rfl : Operation.jump i.nnn = op := by simpa [operation?, h1] using h
    exact ⟨h1, rfl⟩
  · obtain rfl : Operation.call i.nnn = op := by simpa [operation?, h2] using h
    exact ⟨h2, rfl⟩
  · obtain rfl : Operation.skipIfValue i.x i.nn = op := by simpa [operation?, h3] using h
    exact ⟨h3, rfl, rfl⟩
  · obtain rfl : Operation.skipUnlessValue i.x i.nn = op := by simpa [operation?, h4] using h
    exact ⟨h4, rfl, rfl⟩
  · obtain ⟨hn, rfl⟩ : i.n = 0 ∧ Operation.skipIfEqual i.x i.y = op := by
      simpa [operation?, h5] using h
    exact ⟨h5, hn, rfl, rfl⟩
  · obtain rfl : Operation.load i.x i.nn = op := by simpa [operation?, h6] using h
    exact ⟨h6, rfl, rfl⟩
  · obtain rfl : Operation.increase i.x i.nn = op := by simpa [operation?, h7] using h
    exact ⟨h7, rfl, rfl⟩
  · obtain ⟨o, ho, rfl⟩ : ∃ o, BinaryOp.ofDigit? i.n = some o ∧ .combine o i.x i.y = op := by
      simpa [operation?, h8] using h
    exact ⟨h8, ho, rfl, rfl⟩
  · obtain ⟨hn, rfl⟩ : i.n = 0 ∧ Operation.skipUnlessEqual i.x i.y = op := by
      simpa [operation?, h9] using h
    exact ⟨h9, hn, rfl, rfl⟩
  · obtain rfl : Operation.point i.nnn = op := by simpa [operation?, hA] using h
    exact ⟨hA, rfl⟩
  · obtain rfl : Operation.jumpBeyond i.nnn = op := by simpa [operation?, hB] using h
    exact ⟨hB, rfl⟩
  · obtain rfl : Operation.random i.x i.nn = op := by simpa [operation?, hC] using h
    exact ⟨hC, rfl, rfl⟩
  · obtain rfl : Operation.draw i.x i.y i.n = op := by simpa [operation?, hD] using h
    exact ⟨hD, rfl, rfl, rfl⟩
  · exact isMeantBy_of_keyOperation? hE (by simpa [operation?, hE] using h)
  · exact isMeantBy_of_miscellaneousOperation? hF (by simpa [operation?, hF] using h)

/-- An instruction of one of the sixteen families means an operation if and only if its fields are
those of the operation. -/
theorem operation?_eq_some_iff (hi : i.HasFamily) :
    i.operation? = some op ↔ op.IsMeantBy i := by
  refine ⟨isMeantBy_of_operation? hi, fun h => ?_⟩
  cases op <;> simp only [Operation.IsMeantBy] at h <;>
    simp [operation?, systemOperation?, keyOperation?, miscellaneousOperation?, h]

/-! ### The fields of an opcode -/

theorem hasFamily_ofOpcode (opcode : Nat) : (ofOpcode opcode).HasFamily := by
  simp only [HasFamily, ofOpcode]
  omega

theorem family_ofOpcode {opcode : Nat} (ho : opcode < 65536) :
    (ofOpcode opcode).family = (opcode / 4096 : Nat) := by
  simp only [ofOpcode]
  omega

/-- The fields of an opcode are its digits, alone or together. -/
theorem ofOpcode_eq {opcode : Nat} (ho : opcode < 65536) :
    ofOpcode opcode =
      { raw := opcode
        family := (opcode / 4096 : Nat)
        x := (opcode / 256 % 16 : Nat)
        y := (opcode / 16 % 16 : Nat)
        n := (opcode % 16 : Nat)
        nn := (opcode % 256 : Nat)
        nnn := (opcode % 4096 : Nat) } := by
  simp only [ofOpcode, mk.injEq, true_and]
  omega

theorem x_ofOpcode_mem (opcode : Nat) :
    0 ≤ (ofOpcode opcode).x ∧ (ofOpcode opcode).x < registerCount := by
  simp only [ofOpcode, registerCount]
  omega

end Instruction

/-- Exactly the integers of sixteen bits are opcodes. -/
theorem decode_ofInt (n : Int) :
    decode (.ofInt n) =
      if 0 ≤ n ∧ n ≤ 0xFFFF then .ok (.ofOpcode n.toNat)
      else .error (.fault (.undecodable (.ofInt n))) := by
  rfl

theorem exists_ofOpcode_of_decode {value : HostValue} {i : Instruction}
    (h : decode value = .ok i) : ∃ opcode < 65536, i = .ofOpcode opcode := by
  unfold decode at h
  split at h
  · cases h
  · cases hn : value.toInt with
    | error e =>
      rw [hn] at h
      cases h
    | ok n =>
      rw [hn] at h
      simp only [bind, Except.bind] at h
      split at h <;> cases h
      exact ⟨n.toNat, by omega, rfl⟩

end Chip8
