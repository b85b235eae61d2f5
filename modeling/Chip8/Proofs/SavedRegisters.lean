import Chip8.Proofs.Footprint

/-!
# Saved registers

`FX55` stores the registers up to `VX` at the index register, and `FX65` loads them from there. The
two need the same bytes of memory, so they fault together. Whatever is executed in between, as long
as it stores nothing in the window that was written: once the index register points there again,
the registers can be loaded as they were. Loaded registers that are stored back change nothing.

## Main definitions

* `Chip8.Instruction.StoresAt` : an instruction stores a byte at an address.
* `Chip8.State.Beside` : instructions that store nothing in a window.
* `Chip8.saveOpcode`, `Chip8.restoreOpcode`

## Main results

* `Chip8.peek_execute` : an instruction leaves the bytes that it does not store.
* `Chip8.State.Beside.peek_eq` : so the bytes of the window stay.
* `Chip8.execute_save`, `Chip8.execute_restore` : the two instructions, with their fault.
* `Chip8.saved_registers_restored` : saved registers are restored.
-/

namespace Chip8

/-- In the state, the instruction stores a byte at an address. -/
inductive Instruction.StoresAt (i : Instruction) (s : State) (address : Nat) : Prop
  /-- `FX33` stores three bytes. -/
  | decimal (family : i.family = 0xF) (code : i.nn = 0x33)
      (inRange : s.index.toNat ≤ address ∧ address < s.index.toNat + 3) : StoresAt i s address
  /-- `FX55` stores `X + 1` bytes. -/
  | registers (family : i.family = 0xF) (code : i.nn = 0x55)
      (inRange : s.index.toNat ≤ address ∧ address ≤ s.index.toNat + i.x) : StoresAt i s address

/-- Instructions lead from the state `s` to another one, on any pixels and with any keys down. None
of them stores one of the `n` bytes from `start` on. -/
inductive State.Beside [Random.Generator] (start n : Nat) (s : State) : State → Prop
  /-- No instruction. -/
  | none : Beside start n s s
  /-- One instruction more. -/
  | step {t u : State} {i : Instruction} {grid : PixelGrid} {keys : Keys}
      (rest : Beside start n s t) (executed : (execute i t grid keys).result = .ok u)
      (beside : ∀ j < n, ¬i.StoresAt t (start + j)) : Beside start n s u

/-- The opcode `FX55`. -/
def saveOpcode (x : Fin registerCount) : Nat :=
  0xF055 + 256 * x

/-- The opcode `FX65`. -/
def restoreOpcode (x : Fin registerCount) : Nat :=
  0xF065 + 256 * x

variable {s t : State} {grid : PixelGrid} {keys : Keys} {i : Instruction}

/-! ### Bytes that stay -/

/-- The bytes that an operation stores at the index register. -/
def Operation.stored (op : Operation) (s : State) : List UInt8 :=
  match op with
  | .storeDecimal x => (s.decimalDigits x).map UInt8.ofInt
  | .storeRegisters x => (s.registersUpTo x).map UInt8.ofInt
  | _ => []

theorem Operation.storesAt_of_stored {op : Operation} (hop : op.IsMeantBy i) {address : Nat}
    (hinside : s.index.toNat ≤ address ∧
      address < s.index.toNat + (op.stored s.advance).length) : i.StoresAt s address := by
  cases op with
  | storeDecimal x =>
    obtain ⟨hfamily, hcode, rfl⟩ := hop
    exact .decimal hfamily hcode hinside
  | storeRegisters x =>
    obtain ⟨hfamily, hcode, rfl⟩ := hop
    rw [stored, List.length_map, State.length_registersUpTo] at hinside
    exact .registers hfamily hcode (by omega)
  | _ => exact absurd hinside.2 (Nat.not_lt.2 hinside.1)

section

variable [Random.Generator]

theorem Operation.memory_run {op : Operation} (h : (op.run s grid keys).result = .ok t) :
    t.memory = s.memory.store s.index.toNat (op.stored s) := by
  cases op with
  | storeDecimal x =>
    obtain ⟨-, rfl⟩ := store_ok (fun _ => s.isByte_of_mem_decimalDigits) h
    rfl
  | storeRegisters x =>
    obtain ⟨-, rfl⟩ := store_ok (fun _ => s.isByte_of_mem_registersUpTo) h
    rfl
  | ret =>
    obtain ⟨address, stack, -, rfl⟩ := run_ret_ok h
    rfl
  | call address =>
    obtain ⟨stack, -, rfl⟩ := run_call_ok h
    rfl
  | draw x y height =>
    obtain ⟨rows, -, rfl⟩ := run_draw_ok h
    rfl
  | loadRegisters x =>
    obtain ⟨values, -, rfl⟩ := run_loadRegisters_ok h
    rfl
  | skipIfValue | skipUnlessValue | skipIfEqual | skipUnlessEqual | skipIfKey | skipUnlessKey =>
    cases h
    unfold State.skipIf
    split <;> rfl
  | _ =>
    cases h
    rfl

theorem hasFamily_of_execute (h : (execute i s grid keys).result = .ok t) : i.HasFamily := by
  unfold execute at h
  split at h
  · assumption
  · cases h

/-- **An instruction leaves the bytes that it does not store.** -/
theorem peek_execute (h : (execute i s grid keys).result = .ok t) {address : Nat}
    (ha : ¬i.StoresAt s address) : t.memory.peek address = s.memory.peek address := by
  have hi := hasFamily_of_execute h
  rcases run_or_advance_of_execute h with ⟨op, hop, hrun⟩ | rfl
  · have hmeant := Instruction.isMeantBy_of_operation? hi hop
    have hinside := mt (Operation.storesAt_of_stored hmeant) ha
    rw [Operation.memory_run hrun]
    refine Memory.peek_store_of_outside _ ?_
    change address < s.index.toNat ∨ s.index.toNat + _ ≤ address
    omega
  · rfl

/-- **The bytes of the window stay.** -/
theorem State.Beside.peek_eq {start n : Nat} (h : State.Beside start n s t) {j : Nat}
    (hj : j < n) : t.memory.peek (start + j) = s.memory.peek (start + j) := by
  induction h with
  | none => rfl
  | step rest executed beside ih => exact (peek_execute executed (beside j hj)).trans ih

end

/-! ### Saving and restoring -/

/-- The registers up to `VX`. -/
def Registers.upTo (r : Registers) (x : Fin registerCount) : List UInt8 :=
  (List.range (x + 1)).map fun (k : Nat) => r.get k

/-- The bytes at the index register, as many as there are registers up to `VX`. -/
def State.window (s : State) (x : Fin registerCount) : List UInt8 :=
  (List.range (x + 1)).map fun j => s.memory.peek (s.index.toNat + j)

section Window

variable (s) (x : Fin registerCount) (grid : PixelGrid) (keys : Keys)

theorem State.map_registersUpTo :
    (s.registersUpTo x).map UInt8.ofInt = s.registers.upTo x := by
  have hx : ((x : Int) + 1).toNat = x + 1 := by omega
  simp only [registersUpTo, Registers.upTo, List.map_map, hx]
  refine List.map_congr_left fun k _ => ?_
  simp only [Function.comp_apply, ofInt_natCast, valueOf, UInt8.ofNat_toNat]

/-- The two instructions need memory for the registers up to `VX`. -/
theorem inBounds_window_iff :
    InBounds s.index.toNat (x + 1) ↔ s.index.toNat + x + 1 ≤ memorySize := by
  simp only [InBounds]
  omega

/-- `FX55` stores the registers up to `VX`, if there is memory for them. -/
theorem execute_save [Random.Generator] :
    (execute (.ofOpcode (saveOpcode x)) s grid keys).result =
      if s.index.toNat + x + 1 ≤ memorySize then
        .ok { s with
          pc := s.pc + 2
          memory := s.memory.store s.index.toNat (s.registers.upTo x) }
      else .error (.fault (.outOfBounds s.index.toNat (x + 1))) := by
  have hop : (Operation.storeRegisters x).IsMeantBy (.ofOpcode (saveOpcode x)) := by
    have hx : x.val < 16 := x.isLt
    simp only [Operation.IsMeantBy, Instruction.ofOpcode, saveOpcode]
    omega
  have hlength : ((s.advance.registersUpTo x).length : Int) = x + 1 := by
    rw [State.length_registersUpTo]
    omega
  rw [execute_ofOpcode hop]
  refine (s.advance.store_eq fun _ => s.advance.isByte_of_mem_registersUpTo).trans ?_
  rw [State.map_registersUpTo, State.outside?, hlength]
  simp only [State.index_advance, inBounds_window_iff]
  by_cases hmemory : s.index.toNat + x + 1 ≤ memorySize
  · simp only [if_pos hmemory]
    rfl
  · simp only [if_neg hmemory]

theorem execute_restore [Random.Generator] :
    (execute (.ofOpcode (restoreOpcode x)) s grid keys).result =
      if s.index.toNat + x + 1 ≤ memorySize then
        .ok { s with pc := s.pc + 2, registers := s.registers.setFirst (s.window x) }
      else .error (.fault (.outOfBounds s.index.toNat (x + 1))) := by
  have hop : (Operation.loadRegisters x).IsMeantBy (.ofOpcode (restoreOpcode x)) := by
    have hx : x.val < 16 := x.isLt
    simp only [Operation.IsMeantBy, Instruction.ofOpcode, restoreOpcode]
    omega
  have hx : ((x : Int) + 1).toNat = x + 1 := by omega
  rw [execute_ofOpcode hop]
  simp only [Operation.run, Effect.result_silent, State.index_advance, State.memory_advance,
    Memory.read_eq, inBounds_window_iff, hx]
  split <;> rfl

theorem get_setFirst_window (k : Fin registerCount) :
    (s.registers.setFirst (s.window x)).get k.val =
      if k ≤ x then s.memory.peek (s.index.toNat + k) else s.registers.get k.val := by
  have hlength : (s.window x).length ≤ registerCount := by
    have hx : x.val < registerCount := x.isLt
    rw [State.window, List.length_map, List.length_range]
    omega
  rw [Registers.get_setFirst _ hlength k.isLt, List.getD_eq_getElem?_getD, State.window,
    List.getElem?_map]
  by_cases hk : k ≤ x
  · have hin : k.val < x.val + 1 := Nat.lt_succ_of_le hk
    simp [hk, hin]
  · have hout : ¬k.val < x.val + 1 := fun hlt => hk (Nat.le_of_lt_succ hlt)
    simp [hk, hout]

theorem upTo_setFirst_window : (s.registers.setFirst (s.window x)).upTo x = s.window x := by
  refine List.map_congr_left fun k hk => ?_
  have hlt : k < x.val + 1 := List.mem_range.1 hk
  exact (get_setFirst_window s x ⟨k, by omega⟩).trans (if_pos (Nat.le_of_lt_succ hlt))

theorem peek_store_upTo (hmemory : s.index.toNat + x + 1 ≤ memorySize) {k : Fin registerCount}
    (hk : k ≤ x) :
    (s.memory.store s.index.toNat (s.registers.upTo x)).peek (s.index.toNat + k) =
      s.registers.get k.val := by
  have hle : k.val ≤ x.val := hk
  have hlength : k.val < (s.registers.upTo x).length := by
    rw [Registers.upTo, List.length_map, List.length_range]
    omega
  rw [Memory.peek_store_add _ hlength (by omega)]
  simp only [Registers.upTo, List.getElem_map, List.getElem_range]

variable [Random.Generator]

/-- **Saved registers are restored.** After the registers up to `VX` were saved, instructions that
store nothing in the window may follow. Once the index register points at the window again, the
registers can be loaded: they hold what was saved, and the other registers, the memory and the index
register stay. Registers that were just loaded can be stored back, which leaves the memory as it
was. The two instructions have the same faults. -/
theorem saved_registers_restored :
    (s.index.toNat + x + 1 ≤ memorySize →
      ∃ t, (execute (.ofOpcode (saveOpcode x)) s grid keys).result = .ok t ∧
        ∀ u, State.Beside s.index.toNat (x + 1) t u → u.index = s.index →
          ∀ (grid : PixelGrid) (keys : Keys), ∃ v,
            (execute (.ofOpcode (restoreOpcode x)) u grid keys).result = .ok v ∧
              (∀ k : Fin registerCount, v.registers.get k.val =
                if k ≤ x then s.registers.get k.val else u.registers.get k.val) ∧
              v.memory = u.memory ∧ v.index = u.index) ∧
    (∀ t, (execute (.ofOpcode (restoreOpcode x)) s grid keys).result = .ok t →
      ∀ (grid : PixelGrid) (keys : Keys), ∃ u,
        (execute (.ofOpcode (saveOpcode x)) t grid keys).result = .ok u ∧ u.memory = s.memory) ∧
    ∀ e, (execute (.ofOpcode (saveOpcode x)) s grid keys).result = .error e ↔
      (execute (.ofOpcode (restoreOpcode x)) s grid keys).result = .error e := by
  refine ⟨fun hmemory => ?_, fun t ht grid' keys' => ?_, fun e => ?_⟩
  · refine ⟨_, (execute_save s x grid keys).trans (if_pos hmemory), fun u hbeside hindex => ?_⟩
    intro grid' keys'
    have hmemory' : u.index.toNat + x + 1 ≤ memorySize := by rwa [hindex]
    refine ⟨_, (execute_restore u x grid' keys').trans (if_pos hmemory'), fun k => ?_, rfl, rfl⟩
    refine (get_setFirst_window u x k).trans ?_
    by_cases hk : k ≤ x
    · rw [if_pos hk, if_pos hk, hindex, hbeside.peek_eq (Nat.lt_succ_of_le hk)]
      exact peek_store_upTo s x hmemory hk
    · rw [if_neg hk, if_neg hk]
  · rw [execute_restore] at ht
    split at ht
    · rename_i hmemory
      cases ht
      refine ⟨_, (execute_save _ x grid' keys').trans (if_pos hmemory), ?_⟩
      change s.memory.store s.index.toNat ((s.registers.setFirst (s.window x)).upTo x) = s.memory
      rw [upTo_setFirst_window]
      exact s.memory.store_peek s.index.toNat (x + 1)
    · cases ht
  · rw [execute_save, execute_restore]
    split
    · exact ⟨nofun, nofun⟩
    · exact Iff.rfl

end Window

/-- A state that points at the last two bytes of the memory, with 7 in `V0` and 9 in `V1`. -/
def State.atMemoryEnd : State :=
  { State.initial ⟨0, 0⟩ with index := 0xFFE, registers := (Registers.blank.set 0 7).set 1 9 }

/-- The state after both registers were saved. -/
def State.savedAtMemoryEnd : State :=
  { State.atMemoryEnd with pc := 0x202, memory := Memory.blank.store 0xFFE [7, 9] }

set_option maxRecDepth 40000 in
/-- Two registers are saved in the last two bytes of the memory. Then the first is cleared, its
digits are stored at another address, and the index register returns. -/
theorem saved_registers_restored_atMemoryEnd :
    State.atMemoryEnd.index.toNat + (1 : Fin registerCount).val + 1 ≤ memorySize ∧
      (execute (.ofOpcode 0xF155) .atMemoryEnd (.dark 1 1) .allUp).result =
        .ok .savedAtMemoryEnd ∧
      (∃ u v, State.Beside 0xFFE 2 .savedAtMemoryEnd u ∧ u.index = 0xFFE ∧
        u.registers.get 0 = 0 ∧
        (execute (.ofOpcode 0xF165) u (.dark 1 1) .allUp).result = .ok v ∧
        v.registers.get 0 = 7 ∧ v.registers.get 1 = 9 ∧ v.memory = u.memory) ∧
      ∃ t u, (execute (.ofOpcode 0xF165) .atMemoryEnd (.dark 1 1) .allUp).result = .ok t ∧
        (execute (.ofOpcode 0xF155) t (.dark 1 1) .allUp).result = .ok u ∧
        u.memory = State.atMemoryEnd.memory := by
  have hmemory : State.atMemoryEnd.index.toNat + (1 : Fin registerCount).val + 1 ≤ memorySize := by
    decide
  obtain ⟨hrestored, hstored, -⟩ := saved_registers_restored .atMemoryEnd 1 (.dark 1 1) .allUp
  obtain ⟨t, ht, hbehind⟩ := hrestored hmemory
  have hsaved : (execute (.ofOpcode 0xF155) .atMemoryEnd (.dark 1 1) .allUp).result =
      .ok .savedAtMemoryEnd := rfl
  obtain rfl : State.savedAtMemoryEnd = t := Except.ok.inj (hsaved.symm.trans ht)
  have hcleared := (State.Beside.none : State.Beside 0xFFE 2 .savedAtMemoryEnd _).step
    (rfl : (execute (.ofOpcode 0x6000) _ (.dark 1 1) .allUp).result = .ok _)
    (by rintro j - (⟨hf, -, -⟩ | ⟨hf, -, -⟩) <;> cases hf)
  have hmoved := hcleared.step
    (rfl : (execute (.ofOpcode 0xA300) _ (.dark 1 1) .allUp).result = .ok _)
    (by rintro j - (⟨hf, -, -⟩ | ⟨hf, -, -⟩) <;> cases hf)
  have hdigits := hmoved.step
    (rfl : (execute (.ofOpcode 0xF033) _ (.dark 1 1) .allUp).result = .ok _)
    (by
      rintro j - (⟨-, -, -, hbelow⟩ | ⟨-, hcode, -⟩)
      · exact absurd hbelow (Nat.not_lt.2 (Nat.le_add_right_of_le (by decide)))
      · cases hcode)
  have hreturned := hdigits.step
    (rfl : (execute (.ofOpcode 0xAFFE) _ (.dark 1 1) .allUp).result = .ok _)
    (by rintro j - (⟨hf, -, -⟩ | ⟨hf, -, -⟩) <;> cases hf)
  obtain ⟨v, hv, hregisters, hsame, -⟩ := hbehind _ hreturned rfl (.dark 1 1) .allUp
  have hload := (execute_restore .atMemoryEnd 1 (.dark 1 1) .allUp).trans (if_pos hmemory)
  obtain ⟨u, hu, hkept⟩ := hstored _ hload (.dark 1 1) .allUp
  exact ⟨hmemory, hsaved, ⟨_, v, hreturned, rfl, rfl, hv, hregisters 0, hregisters 1, hsame⟩,
    _, u, hload, hu, hkept⟩

end Chip8
