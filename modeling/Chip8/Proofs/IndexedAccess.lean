import Chip8.Proofs.Faults
import Chip8.Random.Threefry

/-!
# Accesses at the index register

`DXYN`, `FX33`, `FX55` and `FX65` have to read or write bytes that lie side by side from the index
register on. They fault if one of these bytes is not in the memory. A sprite without rows has no
bytes. It faults nevertheless if the index register points farther than right behind the memory, for
the range is checked by its two ends. So an instruction that reads nothing can halt a processor.

## Main definitions

* `Chip8.Accesses` : how many bytes at the index register an opcode has to read or write.
* `Chip8.State.Touches` : it has to read or write the byte at an address.

## Main results

* `Chip8.execute_eq_fault_iff_of_accesses` : such an opcode faults exactly if its range is outside.
* `Chip8.execute_of_no_rows` : a sprite without rows draws nothing.
* `Chip8.outOfBounds_iff_touches` : when such an opcode faults, by the bytes that it touches.
* `Chip8.Session.emptySprite_halts` : a sprite without rows halts a program.
-/

namespace Chip8

/-- The opcode has to read or write `n` bytes from the index register on. -/
inductive Accesses (opcode : Nat) : Nat → Prop
  /-- `DXYN` reads the `N` rows of its sprite. -/
  | draw (family : opcode / 4096 = 0xD) : Accesses opcode (opcode % 16)
  /-- `FX33` writes three digits. -/
  | decimal (family : opcode / 4096 = 0xF) (code : opcode % 256 = 0x33) : Accesses opcode 3
  /-- `FX55` writes the registers from `V0` to `VX`, and `FX65` reads them. -/
  | transfer (family : opcode / 4096 = 0xF) (code : opcode % 256 = 0x55 ∨ opcode % 256 = 0x65) :
      Accesses opcode (opcode / 256 % 16 + 1)

/-- In the state, the opcode has to read or write the byte at an address. -/
def State.Touches (s : State) (opcode address : Nat) : Prop :=
  ∃ n, Accesses opcode n ∧ s.index.toNat ≤ address ∧ address < s.index.toNat + n

variable {opcode m n : Nat} {s : State} {grid : PixelGrid} {keys : Keys} {f : Fault}

/-! ### Opcodes with a range of bytes -/

namespace Accesses

theorem unique (h : Accesses opcode m) (h' : Accesses opcode n) : m = n := by
  cases h <;> cases h' <;> omega

theorem eq_zero_iff (h : Accesses opcode n) : n = 0 ↔ opcode / 4096 = 0xD ∧ opcode % 16 = 0 := by
  cases h <;> omega

/-- The opcode means an operation that faults if its range is outside the memory. -/
theorem exists_operation (ho : opcode < 65536) (h : Accesses opcode n) :
    ∃ op : Operation, op.IsMeantBy (.ofOpcode opcode) ∧
      ∀ s : State, op.fault? s = s.outside? n := by
  have hfamily := Instruction.family_ofOpcode ho
  cases h with
  | draw family => exact ⟨.draw _ _ _, ⟨by omega, rfl, rfl, rfl⟩, fun s => rfl⟩
  | decimal family code =>
    refine ⟨.storeDecimal _, ⟨by omega, ?_, rfl⟩, fun s => rfl⟩
    simp only [Instruction.ofOpcode]
    omega
  | transfer family code =>
    rcases code with code | code
    · refine ⟨.storeRegisters _, ⟨by omega, ?_, rfl⟩, fun s => rfl⟩
      simp only [Instruction.ofOpcode]
      omega
    · refine ⟨.loadRegisters _, ⟨by omega, ?_, rfl⟩, fun s => rfl⟩
      simp only [Instruction.ofOpcode]
      omega

theorem exists_touches_outside_iff (h : Accesses opcode n) :
    (∃ address, s.Touches opcode address ∧ memorySize ≤ address) ↔
      0 < n ∧ memorySize < s.index.toNat + n := by
  constructor
  · rintro ⟨address, ⟨m, hm, hfirst, hlast⟩, houtside⟩
    obtain rfl := hm.unique h
    omega
  · rintro ⟨hpos, houtside⟩
    exact ⟨s.index.toNat + n - 1, ⟨n, h, by omega, by omega⟩, by omega⟩

end Accesses

/-! ### Faults and drawings -/

section

variable [Random.Generator]

/-- **An opcode with a range faults exactly if the range ends outside the memory.** -/
theorem execute_eq_fault_iff_of_accesses (ho : opcode < 65536) (h : Accesses opcode n) :
    (execute (.ofOpcode opcode) s grid keys).result = .error (.fault f) ↔
      memorySize < s.index.toNat + n ∧ f = .outOfBounds s.index.toNat n := by
  obtain ⟨op, hop, hfault⟩ := h.exists_operation ho
  rw [execute_ofOpcode hop, Operation.run_result_eq_fault_iff, hfault,
    State.outside?_natCast_eq_some_iff]
  rfl

/-- A sprite without rows is not read, not drawn, and erases nothing. -/
theorem execute_of_no_rows (ho : opcode < 65536) (hfamily : opcode / 4096 = 0xD)
    (hrows : opcode % 16 = 0) (hindex : s.index.toNat ≤ memorySize) :
    execute (.ofOpcode opcode) s grid keys =
      { result := .ok (s.advance.setRegister flagRegister 0), grid } := by
  have hop : (Operation.draw (opcode / 256 % 16 : Nat) (opcode / 16 % 16 : Nat) 0).IsMeantBy
      (.ofOpcode opcode) := by
    rw [Instruction.ofOpcode_eq ho, hfamily, hrows]
    exact ⟨rfl, rfl, rfl, rfl⟩
  have hread : s.memory.read s.index.toNat 0 = .ok [] := by
    rw [Memory.read_eq, if_pos ⟨by omega, by omega, by omega⟩]
    rfl
  rw [execute_ofOpcode hop, Operation.run, Operation.runDraw, State.memory_advance,
    State.index_advance, hread]
  rfl

/-- **When an opcode with a range faults.** It faults if a byte that it has to read or write is not
in the memory. The only other case is a sprite without rows, when the index register points farther
than right behind the memory. Otherwise such a sprite does nothing but clear the flag: no pixel is
turned, and no byte of the memory counts. -/
theorem outOfBounds_iff_touches (ho : opcode < 65536) (ha : Accesses opcode n) (s : State)
    (grid : PixelGrid) (keys : Keys) :
    (∀ f, (execute (.ofOpcode opcode) s grid keys).result = .error (.fault f) ↔
      ((∃ address, s.Touches opcode address ∧ memorySize ≤ address) ∨
        opcode / 4096 = 0xD ∧ opcode % 16 = 0 ∧ memorySize < s.index.toNat) ∧
      f = .outOfBounds s.index.toNat n) ∧
    (opcode / 4096 = 0xD → opcode % 16 = 0 → s.index.toNat ≤ memorySize →
      execute (.ofOpcode opcode) s grid keys =
        { result := .ok (s.advance.setRegister flagRegister 0), grid }) := by
  refine ⟨fun f => ?_, execute_of_no_rows ho⟩
  rw [execute_eq_fault_iff_of_accesses ho ha, ha.exists_touches_outside_iff]
  have hzero := ha.eq_zero_iff
  refine and_congr_left fun _ => ?_
  omega

end

/-- A state that points at the last byte of the memory. -/
def State.atLastByte : State :=
  { State.initial ⟨0, 0⟩ with index := 0xFFF }

/-- Two registers cannot be stored at the last byte, and a sprite without rows can be drawn
there. -/
theorem outOfBounds_iff_touches_atLastByte :
    0xF155 < 65536 ∧ Accesses 0xF155 2 ∧ State.atLastByte.Touches 0xF155 0x1000 ∧
      (execute (.ofOpcode 0xF155) .atLastByte (.dark 1 1) .allUp).result =
        .error (.fault (.outOfBounds 0xFFF 2)) ∧
      0xD010 < 65536 ∧ Accesses 0xD010 0 ∧ State.atLastByte.index.toNat ≤ memorySize ∧
      execute (.ofOpcode 0xD010) .atLastByte (.dark 1 1) .allUp =
        { result := .ok (State.atLastByte.advance.setRegister flagRegister 0)
          grid := .dark 1 1 } := by
  have hsave : Accesses 0xF155 2 := .transfer rfl (.inl rfl)
  have hdraw : Accesses 0xD010 0 := .draw rfl
  have htouches : State.atLastByte.Touches 0xF155 0x1000 := ⟨2, hsave, by decide, by decide⟩
  have hindex : State.atLastByte.index.toNat ≤ memorySize := by decide
  have hfault := (outOfBounds_iff_touches (by decide) hsave .atLastByte (.dark 1 1) .allUp).1
  have hempty := (outOfBounds_iff_touches (by decide) hdraw .atLastByte (.dark 1 1) .allUp).2
  exact ⟨by decide, hsave, htouches,
    (hfault _).2 ⟨.inl ⟨0x1000, htouches, Nat.le_refl _⟩, rfl⟩, by decide, hdraw, hindex,
    hempty rfl rfl hindex⟩

set_option maxRecDepth 40000 in
/-- **A sprite without rows halts a program.** It has no byte to read, but the index register was
moved two bytes beyond the last one. -/
theorem Session.emptySprite_halts :
    let s := ofProgram [0x60, 0x02, 0xAF, 0xFF, 0xF0, 0x1E, 0xD0, 0x00] 4
    let t : State :=
      { s.state with pc := 518, index := 0x1001, registers := Registers.blank.set 0 2 }
    Accesses 0xD000 0 ∧ (∀ address, ¬t.Touches 0xD000 address) ∧ t.fetch = .ok 0xD000 ∧
      (execute (.ofOpcode 0xD000) t s.screen.grid s.keypad.keys).result =
        .error (.fault (.outOfBounds 0x1001 0)) ∧
      (cycle s).result = .error (.fault (.outOfBounds 0x1001 0)) ∧
      (cycle s).session = { s with state := t, halted := true } := by
  have hdraw : Accesses 0xD000 0 := .draw rfl
  refine ⟨hdraw, ?_, rfl, rfl, rfl, rfl⟩
  rintro address ⟨n, hn, hfirst, hlast⟩
  obtain rfl := hn.unique hdraw
  omega

end Chip8
