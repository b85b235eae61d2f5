import Mathlib.Logic.Basic
import Chip8.Machine.Execution
import Chip8.Proofs.InstructionSet

/-!
# Effects of instructions

When an instruction fails and with which fault, what is left of it then, and which parts of the
machine the others leave alone. An operation fails for want of a return address, of a slot for one,
or of memory at the index register. Nothing of a failed operation is left on the pixels: sprite rows
are read before the first pixel is inverted, and on a grid with a pixel every pixel can be inverted.

## Main definitions

* `Chip8.Operation.fault?` : the fault of an operation in a state.
* `Chip8.Instruction.awaited?` : the register for which an instruction begins to wait.

## Main results

* `Chip8.Operation.run_of_error` : a failed operation leaves no mark.
* `Chip8.Operation.run_result_eq_error_iff` : an operation fails exactly with its fault.
* `Chip8.Operation.run_result_eq_fault_iff` : that is its only fault, on any grid.
* `Chip8.run_or_advance_of_execute` : what an instruction does that succeeds.
* `Chip8.waiting_execute` : only a wait for a key makes the processor wait.
-/

namespace Chip8

/-! ### Effects without calls -/

namespace Effect

variable (grid : PixelGrid) (result : Except Error State)

@[simp] theorem result_silent : (silent grid result).result = result := rfl

@[simp] theorem calls_silent : (silent grid result).calls = [] := rfl

end Effect

/-- The calls that instructions make themselves. -/
def DeviceCall.IsOfInstruction : DeviceCall → Prop
  | .pixel .. | .clear | .query .. => True
  | .render | .hook | .play _ | .stop => False

namespace State

variable (s : State)

@[simp] theorem memory_advance : s.advance.memory = s.memory := rfl

@[simp] theorem stack_advance : s.advance.stack = s.stack := rfl

@[simp] theorem index_advance : s.advance.index = s.index := rfl

@[simp] theorem waiting_advance : s.advance.waiting = s.waiting := rfl

@[simp] theorem pc_withFont : s.withFont.pc = s.pc := by
  simp only [withFont]

@[simp] theorem stack_withFont : s.withFont.stack = s.stack := by
  simp only [withFont]

@[simp] theorem waiting_withFont : s.withFont.waiting = s.waiting := by
  simp only [withFont]

@[simp] theorem waiting_skipIf (condition : Bool) : (s.skipIf condition).waiting = s.waiting := by
  cases condition <;> rfl

/-- The fault of an access to `length` bytes at the index register, unless all are memory. -/
def outside? (length : Int) : Option Fault :=
  if InBounds s.index.toNat length then none else some (.outOfBounds s.index.toNat length)

theorem outside?_natCast_eq_some_iff (length : Nat) {f : Fault} :
    s.outside? length = some f ↔
      memorySize < s.index.toNat + length ∧ f = .outOfBounds s.index.toNat length := by
  have hb : InBounds s.index.toNat length ↔ ¬memorySize < s.index.toNat + length := by
    simp only [InBounds, memorySize]
    omega
  unfold outside?
  by_cases h : memorySize < s.index.toNat + length
  · rw [if_neg (by rwa [hb, not_not]), Option.some.injEq, eq_comm]
    exact (and_iff_right h).symm
  · rw [if_pos (hb.2 h)]
    simp [h]

theorem outside?_natCast_eq_none_iff (length : Nat) :
    s.outside? length = none ↔ s.index.toNat + length ≤ memorySize := by
  rw [Option.eq_none_iff_forall_ne_some]
  simp only [ne_eq, outside?_natCast_eq_some_iff]
  constructor
  · intro h
    exact Nat.not_lt.1 fun hlt => h _ ⟨hlt, rfl⟩
  · intro h f hf
    exact Nat.not_lt.2 h hf.1

theorem isByte_valueOf (x : Int) : isByte (s.valueOf x) := by
  have := (s.registers.get x).toNat_lt
  rw [isByte_iff, valueOf]
  omega

theorem isByte_of_mem_decimalDigits {x v : Int} (h : v ∈ s.decimalDigits x) : isByte v := by
  have hb := s.isByte_valueOf x
  simp only [decimalDigits, List.mem_cons, List.not_mem_nil, or_false] at h
  rw [isByte_iff] at hb ⊢
  omega

theorem isByte_of_mem_registersUpTo {x v : Int} (h : v ∈ s.registersUpTo x) : isByte v := by
  obtain ⟨i, -, rfl⟩ := List.mem_map.1 h
  exact s.isByte_valueOf i

@[simp] theorem length_registersUpTo (x : Int) :
    (s.registersUpTo x).length = (x + 1).toNat := by
  simp [registersUpTo]

/-- Bytes are stored at the index register exactly if there is memory for them. -/
theorem store_eq {values : List Int} (h : ∀ v ∈ values, isByte v) :
    s.store values =
      match s.outside? values.length with
      | some f => .error (.fault f)
      | none =>
        .ok { s with memory := s.memory.store s.index.toNat (values.map UInt8.ofInt) } := by
  rw [store, outside?, Memory.write_eq _ _ h]
  split <;> rfl

end State

namespace Operation

variable {op : Operation} {s t : State} {grid : PixelGrid} {keys : Keys} {e : Error}

/-- The fault of an operation in a state, if it fails there. -/
def fault? (op : Operation) (s : State) : Option Fault :=
  match op with
  | .ret => if s.stack.depth = 0 then some .emptyStack else none
  | .call _ => if s.stack.depth = stackSize then some .fullStack else none
  | .draw _ _ height => s.outside? height
  | .storeDecimal _ => s.outside? 3
  | .storeRegisters x => s.outside? ((x + 1).toNat : Nat)
  | .loadRegisters x => s.outside? (x + 1)
  | _ => none

theorem runDraw_of_error {x y height : Int} (h : (runDraw s grid x y height).result = .error e) :
    runDraw s grid x y height = .silent grid (.error e) := by
  unfold runDraw at h ⊢
  cases hr : s.memory.read s.index.toNat height with
  | error e' =>
    simp only [hr, Effect.result_silent] at h ⊢
    rw [h]
  | ok rows =>
    simp only [hr] at h ⊢
    split at h
    · rename_i e' hf
      cases h
      rw [PixelGrid.toggleAll_of_failure hf]
      simp [Effect.silent]
    · cases h

/-- **A failed operation leaves no mark.** The pixels are as before, and no device was called. -/
theorem run_of_error [Random.Generator] (h : (op.run s grid keys).result = .error e) :
    op.run s grid keys = .silent grid (.error e) := by
  cases op with
  | draw x y height => exact runDraw_of_error h
  | clear | skipIfKey | skipUnlessKey => cases h
  | _ => exact congrArg (Effect.silent grid) h

/-- Drawing on a grid with a pixel fails only for want of sprite rows. -/
theorem runDraw_result_eq_error_iff (hg : grid.HasPixels) {x y height : Int} :
    (runDraw s grid x y height).result = .error e ↔
      ∃ f, s.outside? height = some f ∧ e = .fault f := by
  rw [runDraw, State.outside?, Memory.read_eq]
  by_cases hb : InBounds s.index.toNat height
  · simp [if_pos hb, PixelGrid.toggleAll_failure hg]
  · simp [if_neg hb, eq_comm]

theorem store_eq_error_iff {values : List Int} (h : ∀ v ∈ values, isByte v) :
    s.store values = .error e ↔ ∃ f, s.outside? values.length = some f ∧ e = .fault f := by
  rw [State.store_eq s h]
  cases s.outside? values.length <;> simp [eq_comm]

/-- **An operation fails exactly with its fault.** The grid needs a pixel, for a drawing on a grid
without one fails at the first pixel. -/
theorem run_result_eq_error_iff [Random.Generator] (hg : grid.HasPixels) :
    (op.run s grid keys).result = .error e ↔ ∃ f, op.fault? s = some f ∧ e = .fault f := by
  cases op with
  | ret =>
    cases hp : s.stack.pop with
    | error e' =>
      obtain ⟨hd, rfl⟩ := CallStack.pop_eq_error_iff.1 hp
      simp [run, fault?, hp, hd, bind, Except.bind, eq_comm]
    | ok r =>
      have hd : s.stack.depth ≠ 0 := by
        intro hd
        rw [CallStack.pop_eq_error_iff.2 ⟨hd, rfl⟩] at hp
        cases hp
      simp [run, fault?, hp, hd, bind, Except.bind, pure, Except.pure]
  | call address =>
    cases hp : s.stack.push s.pc.toNat with
    | error e' =>
      obtain ⟨hd, rfl⟩ := CallStack.push_eq_error_iff.1 hp
      simp [run, fault?, hp, hd, bind, Except.bind, eq_comm]
    | ok r =>
      have hd : s.stack.depth ≠ stackSize := by
        intro hd
        rw [CallStack.push_eq_error_iff.2 ⟨hd, rfl⟩] at hp
        cases hp
      simp [run, fault?, hp, hd, bind, Except.bind, pure, Except.pure]
  | draw x y height => exact runDraw_result_eq_error_iff hg
  | storeDecimal x => exact store_eq_error_iff fun _ => s.isByte_of_mem_decimalDigits
  | storeRegisters x =>
    simpa [run, fault?] using store_eq_error_iff fun _ => s.isByte_of_mem_registersUpTo (x := x)
  | loadRegisters x =>
    simp only [run, fault?, State.outside?, Effect.result_silent, Memory.read_eq]
    by_cases hb : InBounds s.index.toNat (x + 1)
    · simp [if_pos hb, bind, Except.bind, pure, Except.pure]
    · simp [if_neg hb, bind, Except.bind, eq_comm]
  | _ => simp [run, runSkipOnKey, fault?]

/-- A drawing faults for want of sprite rows only, also on a grid without a pixel. -/
theorem outside?_of_runDraw {x y height : Int} {f : Fault}
    (h : (runDraw s grid x y height).result = .error (.fault f)) : s.outside? height = some f := by
  rw [runDraw, Memory.read_eq] at h
  rw [State.outside?]
  by_cases hb : InBounds s.index.toNat height
  · simp only [if_pos hb] at h
    split at h
    · rename_i e hf
      rw [PixelGrid.eq_emptyScreen_of_failure hf] at h
      cases h
    · cases h
  · simp only [if_neg hb] at h ⊢
    cases h
    rfl

theorem runDraw_of_outside {x y height : Int} {f : Fault} (h : s.outside? height = some f) :
    (runDraw s grid x y height).result = .error (.fault f) := by
  rw [State.outside?, Option.ite_none_left_eq_some, Option.some.injEq] at h
  obtain ⟨houtside, rfl⟩ := h
  rw [runDraw, Memory.read_eq, if_neg houtside]
  rfl

theorem store_ok {values : List Int} (hv : ∀ v ∈ values, isByte v) (h : s.store values = .ok t) :
    s.outside? values.length = none ∧
      t = { s with memory := s.memory.store s.index.toNat (values.map UInt8.ofInt) } := by
  rw [State.store_eq s hv] at h
  cases ho : s.outside? values.length <;> simp only [ho] at h <;> cases h
  exact ⟨rfl, rfl⟩

variable [Random.Generator]

/-- Only a drawing looks at the grid. -/
theorem draw_or_result_run_eq (op : Operation) (s : State) (grid other : PixelGrid) (keys : Keys) :
    (∃ x y height, op = .draw x y height) ∨
      (op.run s grid keys).result = (op.run s other keys).result := by
  cases op with
  | draw x y height => exact .inl ⟨x, y, height, rfl⟩
  | _ => exact .inr rfl

/-- **An operation faults exactly with its fault**, on any grid. -/
theorem run_result_eq_fault_iff {f : Fault} :
    (op.run s grid keys).result = .error (.fault f) ↔ op.fault? s = some f := by
  rcases draw_or_result_run_eq op s grid (.dark 1 1) keys with ⟨x, y, height, rfl⟩ | hgrid
  · exact ⟨outside?_of_runDraw, runDraw_of_outside⟩
  · rw [hgrid, run_result_eq_error_iff ⟨Nat.one_pos, Nat.one_pos⟩]
    simp only [Error.fault.injEq, exists_eq_right']

/-! ### What a successful operation leaves -/

theorem run_ret_ok (h : (run .ret s grid keys).result = .ok t) :
    ∃ address stack, s.stack.pop = .ok (address, stack) ∧
      t = { s with stack := stack, pc := address } := by
  cases hp : s.stack.pop with
  | error e' => simp [run, hp, bind, Except.bind] at h
  | ok r =>
    obtain ⟨address, stack⟩ := r
    simp only [run, hp, Effect.result_silent, bind, Except.bind] at h
    cases h
    exact ⟨address, stack, rfl, rfl⟩

theorem run_call_ok {address : Int} (h : (run (.call address) s grid keys).result = .ok t) :
    ∃ stack, s.stack.push s.pc.toNat = .ok stack ∧
      t = { s with stack := stack }.goTo address := by
  cases hp : s.stack.push s.pc.toNat with
  | error e' => simp [run, hp, bind, Except.bind] at h
  | ok stack =>
    simp only [run, hp, Effect.result_silent, bind, Except.bind] at h
    cases h
    exact ⟨stack, rfl, rfl⟩

theorem run_draw_ok {x y height : Int} (h : (run (.draw x y height) s grid keys).result = .ok t) :
    ∃ rows, s.memory.read s.index.toNat height = .ok rows ∧
      t = s.setRegister flagRegister
        (if (grid.toggleAll (spritePixels (s.valueOf x) (s.valueOf y) rows)).erased.any id
          then 1 else 0) := by
  unfold run runDraw at h
  cases hr : s.memory.read s.index.toNat height with
  | error e' => simp [hr] at h
  | ok rows =>
    simp only [hr] at h
    split at h
    · cases h
    · cases h
      exact ⟨rows, rfl, rfl⟩

theorem run_loadRegisters_ok {x : Int} (h : (run (.loadRegisters x) s grid keys).result = .ok t) :
    ∃ values, s.memory.read s.index.toNat (x + 1) = .ok values ∧
      t = { s with registers := s.registers.setFirst values } := by
  cases hr : s.memory.read s.index.toNat (x + 1) with
  | error e' => simp [run, hr, bind, Except.bind] at h
  | ok values =>
    simp only [run, hr, Effect.result_silent, bind, Except.bind] at h
    cases h
    exact ⟨values, rfl, rfl⟩

/-- Only a wait for a key changes the waiting register. -/
theorem waiting_run (h : (op.run s grid keys).result = .ok t) (hop : ∀ x, op ≠ .awaitKey x) :
    t.waiting = s.waiting := by
  cases op with
  | awaitKey x => exact absurd rfl (hop x)
  | ret =>
    obtain ⟨address, stack, -, rfl⟩ := run_ret_ok h
    rfl
  | call address =>
    obtain ⟨stack, -, rfl⟩ := run_call_ok h
    rfl
  | draw x y height =>
    obtain ⟨rows, -, rfl⟩ := run_draw_ok h
    rfl
  | storeDecimal x =>
    obtain ⟨-, rfl⟩ := store_ok (fun _ => s.isByte_of_mem_decimalDigits) h
    rfl
  | storeRegisters x =>
    obtain ⟨-, rfl⟩ := store_ok (fun _ => s.isByte_of_mem_registersUpTo) h
    rfl
  | loadRegisters x =>
    obtain ⟨values, -, rfl⟩ := run_loadRegisters_ok h
    rfl
  | skipIfValue | skipUnlessValue | skipIfEqual | skipUnlessEqual | skipIfKey | skipUnlessKey =>
    cases h
    exact State.waiting_skipIf ..
  | _ =>
    cases h
    rfl

/-- Operations turn, ask and draw, and no more. -/
theorem isOfInstruction_of_mem_calls_run {c : DeviceCall} (h : c ∈ (op.run s grid keys).calls) :
    c.IsOfInstruction := by
  cases op with
  | clear => simp only [run, List.mem_singleton] at h; subst h; trivial
  | draw x y height =>
    unfold run runDraw at h
    cases hr : s.memory.read s.index.toNat height with
    | error e' => simp [hr] at h
    | ok rows =>
      simp only [hr, List.mem_map] at h
      obtain ⟨p, -, rfl⟩ := h
      trivial
  | skipIfKey x | skipUnlessKey x =>
    simp only [run, runSkipOnKey, List.mem_singleton] at h
    subst h
    trivial
  | _ => simp [run] at h

theorem hasPixels_run (hg : grid.HasPixels) : (op.run s grid keys).grid.HasPixels := by
  cases op with
  | draw x y height =>
    change (runDraw s grid x y height).grid.HasPixels
    unfold runDraw
    cases s.memory.read s.index.toNat height with
    | error e' => exact hg
    | ok rows => exact PixelGrid.hasPixels_toggleAll hg _
  | _ => exact hg

end Operation

/-! ### Instructions -/

section Execute

variable {i : Instruction} {s t : State} {grid : PixelGrid} {keys : Keys} {e : Error}

/-- The register for which an instruction begins to wait, if it is a wait for a key. -/
def Instruction.awaited? (i : Instruction) : Option Int :=
  if i.family = 0xF ∧ i.nn = 0x0A then some i.x else none

variable [Random.Generator]

/-- An instruction of one of the sixteen families has the effect of its operation, or none but the
warning. -/
theorem execute_of_hasFamily (hi : i.HasFamily) :
    execute i s grid keys =
      match i.operation? with
      | some op => op.run s.advance grid keys
      | none =>
        { result := .ok s.advance, grid, warnings := [i.ignoredWarning s.advance.pc] } :=
  if_pos hi

theorem execute_ofOpcode {op : Operation} {opcode : Nat} (h : op.IsMeantBy (.ofOpcode opcode)) :
    execute (.ofOpcode opcode) s grid keys = op.run s.advance grid keys := by
  have hi := Instruction.hasFamily_ofOpcode opcode
  rw [execute_of_hasFamily hi, (Instruction.operation?_eq_some_iff hi).2 h]

/-- An instruction that succeeds has the effect of an operation, or only advances the program
counter. -/
theorem run_or_advance_of_execute (h : (execute i s grid keys).result = .ok t) :
    (∃ op, i.operation? = some op ∧ (op.run s.advance grid keys).result = .ok t) ∨
      t = s.advance := by
  unfold execute at h
  split at h
  · cases ho : i.operation? with
    | none =>
      rw [ho] at h
      cases h
      exact .inr rfl
    | some op =>
      rw [ho] at h
      exact .inl ⟨op, rfl, h⟩
  · cases h

theorem execute_of_error (h : (execute i s grid keys).result = .error e) :
    execute i s grid keys = .silent grid (.error e) := by
  unfold execute at h ⊢
  split at h
  · rename_i hi
    rw [if_pos hi]
    split at h
    · exact Operation.run_of_error h
    · cases h
  · rename_i hi
    rw [if_neg hi]
    exact congrArg (Effect.silent grid) h

/-- An instruction of one of the sixteen families fails exactly with the fault of its operation. -/
theorem execute_result_eq_error_iff (hi : i.HasFamily) (hg : grid.HasPixels) :
    (execute i s grid keys).result = .error e ↔
      ∃ (op : Operation) (f : Fault), op.IsMeantBy i ∧ op.fault? s.advance = some f ∧
        e = .fault f := by
  rw [execute_of_hasFamily hi]
  cases ho : i.operation? with
  | none =>
    refine ⟨nofun, fun ⟨op, f, hop, _⟩ => ?_⟩
    rw [(Instruction.operation?_eq_some_iff hi).2 hop] at ho
    cases ho
  | some op =>
    rw [Operation.run_result_eq_error_iff hg]
    refine ⟨fun ⟨f, hf⟩ => ⟨op, f, (Instruction.operation?_eq_some_iff hi).1 ho, hf⟩, ?_⟩
    rintro ⟨op', f, hop, hf⟩
    rw [(Instruction.operation?_eq_some_iff hi).2 hop, Option.some.injEq] at ho
    exact ⟨f, ho ▸ hf⟩

theorem waiting_execute (hi : i.HasFamily) (h : (execute i s grid keys).result = .ok t) :
    t.waiting = i.awaited?.or s.waiting := by
  have ha {x : Int} : i.operation? = some (.awaitKey x) ↔ i.awaited? = some x := by
    rw [Instruction.operation?_eq_some_iff hi]
    simp [Operation.IsMeantBy, Instruction.awaited?, and_assoc, eq_comm]
  rw [execute_of_hasFamily hi] at h
  cases hw : i.awaited? with
  | some x =>
    rw [ha.2 hw] at h
    cases h
    rfl
  | none =>
    cases ho : i.operation? with
    | none =>
      rw [ho] at h
      cases h
      rfl
    | some op =>
      rw [ho] at h
      refine Operation.waiting_run (s := s.advance) h ?_
      rintro x rfl
      rw [ha.1 ho] at hw
      cases hw

/-- An opcode makes the processor wait in one of its registers only. -/
theorem waiting_execute_mem {opcode : Nat}
    (hs : ∀ r, s.waiting = some r → 0 ≤ r ∧ r < registerCount)
    (h : (execute (.ofOpcode opcode) s grid keys).result = .ok t) {r : Int}
    (hr : t.waiting = some r) : 0 ≤ r ∧ r < registerCount := by
  rw [waiting_execute (Instruction.hasFamily_ofOpcode opcode) h, Option.or_eq_some_iff] at hr
  rcases hr with hr | ⟨-, hr⟩
  · obtain ⟨-, hx⟩ := Option.ite_none_right_eq_some.1 hr
    cases hx
    exact Instruction.x_ofOpcode_mem opcode
  · exact hs r hr

theorem isOfInstruction_of_mem_calls_execute {c : DeviceCall}
    (h : c ∈ (execute i s grid keys).calls) : c.IsOfInstruction := by
  unfold execute at h
  split at h
  · split at h
    · exact Operation.isOfInstruction_of_mem_calls_run h
    · cases h
  · cases h

theorem hasPixels_execute (hg : grid.HasPixels) : (execute i s grid keys).grid.HasPixels := by
  unfold execute
  split
  · split
    · exact Operation.hasPixels_run hg
    · exact hg
  · exact hg

end Execute

end Chip8
