import Chip8.Proofs.Step

/-!
# Faults of instructions

The instruction at the program counter faults for want of an opcode, of a return address, of a slot
for one, or of memory at the index register. These are all the faults there are: every other opcode
succeeds in every state.

## Main definitions

* `Chip8.State.Faults` : the fault of the instruction at the program counter.

## Main results

* `Chip8.State.next_eq_error_iff` : an instruction fails exactly with its fault.
-/

namespace Chip8

namespace State

/-- The instruction at the program counter faults. -/
inductive Faults (s : State) : Fault → Prop
  /-- The two bytes of the opcode are not both in the memory. -/
  | fetch (outside : 4094 < s.pc.toNat) : Faults s (.outOfBounds s.pc.toNat 2)
  /-- `00EE` without a return address. -/
  | ret (fetched : s.fetch = .ok 0x00EE) (empty : s.stack.depth = 0) : Faults s .emptyStack
  /-- `2NNN` without a free slot. -/
  | call {opcode : Nat} (fetched : s.fetch = .ok opcode) (family : opcode / 4096 = 0x2)
      (full : s.stack.depth = 16) : Faults s .fullStack
  /-- `DXYN` without `N` bytes of memory. -/
  | draw {opcode : Nat} (fetched : s.fetch = .ok opcode) (family : opcode / 4096 = 0xD)
      (outside : 4096 < s.index.toNat + opcode % 16) :
      Faults s (.outOfBounds s.index.toNat (opcode % 16 : Nat))
  /-- `FX33` without three bytes of memory. -/
  | storeDecimal {opcode : Nat} (fetched : s.fetch = .ok opcode) (family : opcode / 4096 = 0xF)
      (code : opcode % 256 = 0x33) (outside : 4096 < s.index.toNat + 3) :
      Faults s (.outOfBounds s.index.toNat 3)
  /-- `FX55` or `FX65` without `X + 1` bytes of memory. -/
  | transfer {opcode : Nat} (fetched : s.fetch = .ok opcode) (family : opcode / 4096 = 0xF)
      (code : opcode % 256 = 0x55 ∨ opcode % 256 = 0x65)
      (outside : 4096 < s.index.toNat + (opcode / 256 % 16 + 1)) :
      Faults s (.outOfBounds s.index.toNat (opcode / 256 % 16 + 1 : Nat))

variable {s : State} {opcode : Nat} {f : Fault} {e : Error} {grid : PixelGrid} {keys : Keys}

/-- The names under which the faults of instructions are logged. -/
theorem Faults.name_mem (h : s.Faults f) :
    f.name ∈ ["MemoryBoundsError", "StackUnderflowError", "StackOverflowError"] := by
  cases h <;> simp [Fault.name]

theorem faults_iff_of_outside (h : 4094 < s.pc.toNat) :
    s.Faults f ↔ f = .outOfBounds s.pc.toNat 2 := by
  have hfetch (opcode : Nat) : s.fetch ≠ .ok opcode := fun hf =>
    Nat.not_le.2 h (pc_le_of_fetch hf)
  refine ⟨fun hf => ?_, fun hf => hf ▸ .fetch h⟩
  cases hf with
  | fetch => rfl
  | ret fetched | call fetched | draw fetched | storeDecimal fetched | transfer fetched =>
    exact absurd fetched (hfetch _)

/-- The fault of an operation that a fetched opcode means is that of its instruction. -/
theorem faults_of_fault? {op : Operation} (hf : s.fetch = .ok opcode)
    (hop : op.IsMeantBy (.ofOpcode opcode)) (h : op.fault? s.advance = some f) : s.Faults f := by
  have hfamily := Instruction.family_ofOpcode (fetch_lt hf)
  cases op with
  | ret =>
    obtain ⟨-, hraw⟩ := hop
    obtain rfl : opcode = 0x00EE := by
      simp only [Instruction.ofOpcode] at hraw
      omega
    obtain ⟨hd, h⟩ := Option.ite_none_right_eq_some.1 h
    cases h
    exact .ret hf hd
  | call address =>
    obtain ⟨hfam, -⟩ := hop
    obtain ⟨hd, h⟩ := Option.ite_none_right_eq_some.1 h
    cases h
    exact .call hf (by omega) hd
  | draw x y height =>
    obtain ⟨hfam, -, -, rfl⟩ := hop
    obtain ⟨ho, rfl⟩ := (s.advance.outside?_natCast_eq_some_iff (opcode % 16)).1 h
    exact .draw hf (by omega) ho
  | storeDecimal x =>
    obtain ⟨hfam, hnn, -⟩ := hop
    obtain ⟨ho, rfl⟩ := (s.advance.outside?_natCast_eq_some_iff 3).1 h
    exact .storeDecimal hf (by omega) (by simp only [Instruction.ofOpcode] at hnn; omega) ho
  | storeRegisters x =>
    obtain ⟨hfam, hnn, rfl⟩ := hop
    obtain ⟨ho, rfl⟩ :=
      (s.advance.outside?_natCast_eq_some_iff (opcode / 256 % 16 + 1)).1 h
    exact .transfer hf (by omega) (by simp only [Instruction.ofOpcode] at hnn; omega) ho
  | loadRegisters x =>
    obtain ⟨hfam, hnn, rfl⟩ := hop
    obtain ⟨ho, rfl⟩ :=
      (s.advance.outside?_natCast_eq_some_iff (opcode / 256 % 16 + 1)).1 h
    exact .transfer hf (by omega) (by simp only [Instruction.ofOpcode] at hnn; omega) ho
  | _ => cases h

theorem exists_operation_of_faults (hf : s.fetch = .ok opcode) (h : s.Faults f) :
    ∃ op : Operation, op.IsMeantBy (.ofOpcode opcode) ∧ op.fault? s.advance = some f := by
  have hfamily := Instruction.family_ofOpcode (fetch_lt hf)
  cases h with
  | fetch outside => exact absurd (pc_le_of_fetch hf) (Nat.not_le.2 outside)
  | ret fetched empty =>
    cases hf.symm.trans fetched
    exact ⟨.ret, ⟨rfl, rfl⟩, if_pos empty⟩
  | call fetched family full =>
    cases hf.symm.trans fetched
    exact ⟨.call _, ⟨by omega, rfl⟩, if_pos full⟩
  | draw fetched family outside =>
    cases hf.symm.trans fetched
    exact ⟨.draw _ _ _, ⟨by omega, rfl, rfl, rfl⟩,
      (s.advance.outside?_natCast_eq_some_iff _).2 ⟨outside, rfl⟩⟩
  | storeDecimal fetched family code outside =>
    cases hf.symm.trans fetched
    refine ⟨.storeDecimal _, ⟨by omega, ?_, rfl⟩,
      (s.advance.outside?_natCast_eq_some_iff _).2 ⟨outside, rfl⟩⟩
    simp only [Instruction.ofOpcode]
    omega
  | transfer fetched family code outside =>
    cases hf.symm.trans fetched
    have hshort := (s.advance.outside?_natCast_eq_some_iff _).2 ⟨outside, rfl⟩
    rcases code with code | code
    · refine ⟨.storeRegisters _, ⟨by omega, ?_, rfl⟩, hshort⟩
      simp only [Instruction.ofOpcode]
      omega
    · refine ⟨.loadRegisters _, ⟨by omega, ?_, rfl⟩, hshort⟩
      simp only [Instruction.ofOpcode]
      omega

variable [Random.Generator]

/-- **An instruction fails exactly with its fault.** -/
theorem next_eq_error_iff (hg : grid.HasPixels) :
    s.next grid keys = .error e ↔ ∃ f, e = .fault f ∧ s.Faults f := by
  unfold next
  cases hf : s.fetch with
  | error e' =>
    rw [fetch_eq] at hf
    split at hf
    · cases hf
    · rename_i hpc
      cases hf
      simp only [faults_iff_of_outside (Nat.not_le.1 hpc), exists_eq_right]
      exact ⟨fun h => (Except.error.inj h).symm, fun h => congrArg Except.error h.symm⟩
  | ok opcode =>
    refine (execute_result_eq_error_iff (Instruction.hasFamily_ofOpcode opcode) hg).trans ⟨?_, ?_⟩
    · rintro ⟨op, f, hop, hfault, rfl⟩
      exact ⟨f, rfl, faults_of_fault? hf hop hfault⟩
    · rintro ⟨f, rfl, hfault⟩
      obtain ⟨op, hop, hfault⟩ := exists_operation_of_faults hf hfault
      exact ⟨op, f, hop, hfault, rfl⟩

end State

end Chip8
