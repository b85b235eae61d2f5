import Chip8.Proofs.Path

/-!
# What a program sees of the timers

A program reads the delay timer by one instruction, and the sound timer by none. So from states
that differ in their timers only, every other instruction does the same: it draws and asks the same,
and succeeds with states that again differ in their timers only, or fails with the same error.

## Main definitions

* `Chip8.State.untimed` : a state without its timers.
* `Chip8.Executed.readsDelay` : the instruction that reads the delay timer.

## Main results

* `Chip8.execute_congr` : the effects of an instruction in states that differ in their timers.
* `Chip8.State.next_error_congr` : the instruction at the program counter fails in both of them.
-/

namespace Chip8

/-- What is left of a state without its timers. -/
def State.untimed (s : State) : State :=
  { s with delay := 0, sound := 0 }

/-- What is left of an effect without the timers. -/
def Effect.untimed (e : Effect) : Effect :=
  { e with result := e.result.map State.untimed }

@[simp] theorem Effect.grid_untimed (e : Effect) : e.untimed.grid = e.grid := rfl

@[simp] theorem Effect.calls_untimed (e : Effect) : e.untimed.calls = e.calls := rfl

/-- The instruction reads the delay timer. -/
def Executed.readsDelay (x : Executed) : Bool :=
  x.opcode / 4096 == 0xF && x.opcode % 256 == 0x07

variable {s t u : State} {opcode : Nat} {e : Error} (grid : PixelGrid) (keys : Keys)

namespace State

@[simp] theorem memory_untimed : s.untimed.memory = s.memory := rfl

@[simp] theorem stack_untimed : s.untimed.stack = s.stack := rfl

@[simp] theorem index_untimed : s.untimed.index = s.index := rfl

@[simp] theorem pc_untimed : s.untimed.pc = s.pc := rfl

@[simp] theorem paused_untimed : s.untimed.paused = s.paused := rfl

@[simp] theorem valueOf_untimed (x : Int) : s.untimed.valueOf x = s.valueOf x := rfl

theorem untimed_skipIf (condition : Bool) :
    (s.untimed.skipIf condition).untimed = (s.skipIf condition).untimed := by
  cases condition <;> rfl

theorem untimed_store (values : List Int) :
    (s.untimed.store values).map untimed = (s.store values).map untimed := by
  simp only [store, memory_untimed, index_untimed]
  cases s.memory.write s.index.toNat values <;> rfl

end State

namespace Operation

theorem runDraw_untimed (x y height : Int) :
    (runDraw s.untimed grid x y height).untimed = (runDraw s grid x y height).untimed := by
  simp only [runDraw, State.memory_untimed, State.index_untimed, State.valueOf_untimed]
  cases s.memory.read s.index.toNat height with
  | error e => rfl
  | ok rows =>
    simp only [Effect.untimed]
    split <;> rfl

variable [Random.Generator]

/-- **All operations but one are blind to the timers.** -/
theorem run_untimed (op : Operation) (hop : ∀ x, op ≠ .readDelay x) :
    (op.run s.untimed grid keys).untimed = (op.run s grid keys).untimed := by
  cases op with
  | readDelay x => exact absurd rfl (hop x)
  | ret =>
    simp only [run, State.stack_untimed]
    cases s.stack.pop <;> rfl
  | call address =>
    simp only [run, State.stack_untimed, State.pc_untimed]
    cases s.stack.push s.pc.toNat <;> rfl
  | draw x y height => exact runDraw_untimed grid x y height
  | skipIfValue | skipUnlessValue | skipIfEqual | skipUnlessEqual =>
    exact congrArg (fun t => Effect.silent grid (.ok t)) (State.untimed_skipIf _)
  | skipIfKey x | skipUnlessKey x =>
    exact congrArg (fun t => Effect.mk (.ok t) grid [.query _ _] []) (State.untimed_skipIf _)
  | storeDecimal | storeRegisters => exact congrArg (Effect.silent grid) (State.untimed_store _)
  | loadRegisters x =>
    simp only [run, State.memory_untimed, State.index_untimed]
    cases s.memory.read s.index.toNat (x + 1) <;> rfl
  | _ => rfl

end Operation

/-! ### Instructions -/

theorem ne_readDelay_of_operation? {op : Operation} (ho : opcode < 65536) {calls : List DeviceCall}
    (hread : Executed.readsDelay ⟨opcode, calls⟩ = false)
    (hop : (Instruction.ofOpcode opcode).operation? = some op) (x : Int) : op ≠ .readDelay x := by
  rintro rfl
  obtain ⟨hfamily, hnn, -⟩ :=
    Instruction.isMeantBy_of_operation? (Instruction.hasFamily_ofOpcode opcode) hop
  rw [Instruction.family_ofOpcode ho] at hfamily
  simp only [Instruction.ofOpcode] at hnn
  simp only [Executed.readsDelay, Bool.and_eq_false_iff, beq_eq_false_iff_ne] at hread
  omega

section

variable [Random.Generator]

theorem exists_ok_of_readsDelay (ho : opcode < 65536) {calls : List DeviceCall}
    (hread : Executed.readsDelay ⟨opcode, calls⟩ = true) :
    ∃ t, (execute (.ofOpcode opcode) s grid keys).result = .ok t := by
  simp only [Executed.readsDelay, Bool.and_eq_true, beq_iff_eq] at hread
  have hop : (Operation.readDelay (Instruction.ofOpcode opcode).x).IsMeantBy
      (.ofOpcode opcode) := by
    refine ⟨?_, ?_, rfl⟩
    · rw [Instruction.family_ofOpcode ho]
      omega
    · simp only [Instruction.ofOpcode]
      omega
  rw [execute_ofOpcode hop]
  exact ⟨_, rfl⟩

/-- **An instruction that reads no timer** has the same effect in states that differ in their timers
only. -/
theorem execute_congr (h : s.untimed = t.untimed) (ho : opcode < 65536) {calls : List DeviceCall}
    (hread : Executed.readsDelay ⟨opcode, calls⟩ = false) :
    (execute (.ofOpcode opcode) s grid keys).untimed =
      (execute (.ofOpcode opcode) t grid keys).untimed := by
  have huntimed (s : State) : (execute (.ofOpcode opcode) s grid keys).untimed =
      (execute (.ofOpcode opcode) s.untimed grid keys).untimed := by
    have hi := Instruction.hasFamily_ofOpcode opcode
    rw [execute_of_hasFamily hi, execute_of_hasFamily hi]
    cases hop : (Instruction.ofOpcode opcode).operation? with
    | none => rfl
    | some op =>
      exact (op.run_untimed grid keys (ne_readDelay_of_operation? ho hread hop)).symm
  rw [huntimed s, h, ← huntimed t]

/-- An instruction that reads no timer and succeeds leaves states that differ in their timers
only. -/
theorem exists_ok_of_untimed_eq (h : s.untimed = t.untimed) (ho : opcode < 65536)
    {calls : List DeviceCall} (hread : Executed.readsDelay ⟨opcode, calls⟩ = false)
    (hs : (execute (.ofOpcode opcode) s grid keys).result = .ok u) :
    ∃ v, (execute (.ofOpcode opcode) t grid keys).result = .ok v ∧ u.untimed = v.untimed := by
  have hresult := congrArg Effect.result (execute_congr grid keys h ho hread)
  simp only [Effect.untimed, hs, Except.map] at hresult
  cases ht : (execute (.ofOpcode opcode) t grid keys).result with
  | error e =>
    rw [ht] at hresult
    cases hresult
  | ok v =>
    rw [ht] at hresult
    exact ⟨v, rfl, Except.ok.inj hresult⟩

end

namespace State

theorem paused_congr (h : s.untimed = t.untimed) : s.paused = t.paused := by
  rw [← paused_untimed, h, paused_untimed]

theorem fetch_untimed (s : State) : s.untimed.fetch = s.fetch := rfl

theorem fetch_congr (h : s.untimed = t.untimed) : s.fetch = t.fetch := by
  rw [← fetch_untimed, h, fetch_untimed]

variable [Random.Generator] {grid keys}

/-- **An instruction fails whatever the timers are.** The one that reads a timer never does. -/
theorem next_error_congr (h : s.untimed = t.untimed) (he : s.next grid keys = .error e) :
    t.next grid keys = .error e := by
  cases hf : s.fetch with
  | error e' =>
    rw [next_of_fetch_error hf] at he
    rw [next_of_fetch_error (fetch_congr h ▸ hf), he]
  | ok opcode =>
    have ho := fetch_lt hf
    rw [next_of_fetch hf] at he
    rw [next_of_fetch (fetch_congr h ▸ hf)]
    cases hread : Executed.readsDelay ⟨opcode, []⟩ with
    | true =>
      obtain ⟨u, hu⟩ := exists_ok_of_readsDelay (s := s) grid keys ho hread
      cases hu.symm.trans he
    | false =>
      cases ht : (execute (.ofOpcode opcode) t grid keys).result with
      | error e' =>
        have hresult := congrArg Effect.result
          (execute_congr grid keys h ho hread)
        simp only [Effect.untimed, he, ht, Except.map] at hresult
        exact hresult.symm
      | ok v =>
        obtain ⟨u, hu, -⟩ := exists_ok_of_untimed_eq grid keys h.symm ho hread ht
        cases hu.symm.trans he

end State

end Chip8
