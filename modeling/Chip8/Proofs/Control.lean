import Chip8.Proofs.Effect

/-!
# Control flow

Where a program goes on after an operation, and what the operation does to the call stack. The
program counter was advanced before the operation, so a skip passes over one instruction more and a
call stores the address behind itself. Only calls and returns touch the call stack.

## Main definitions

* `Chip8.Operation.skips` : whether an operation skips the next instruction.
* `Chip8.Operation.target` : the program counter after an operation.
* `Chip8.Operation.Stacks` : what an operation does to the call stack.

## Main results

* `Chip8.Operation.run_control` : the program counter and the call stack after an operation.
* `Chip8.stack_execute` : what an instruction does to the call stack.
-/

namespace Chip8

theorem toNat_ofInt_natCast (n : Nat) : (UInt16.ofInt n).toNat = n % 65536 := by
  simp only [UInt16.ofInt, UInt16.toNat_ofNat']
  omega

theorem ofInt_toNat (w : UInt16) : UInt16.ofInt w.toNat = w := by
  apply UInt16.toNat_inj.1
  rw [toNat_ofInt_natCast, Nat.mod_eq_of_lt w.toNat_lt]

namespace Operation

variable {op : Operation} {s t : State} {grid : PixelGrid} {keys : Keys}

/-- Whether an operation skips the next instruction. -/
def skips (op : Operation) (s : State) (keys : Keys) : Bool :=
  match op with
  | .skipIfValue x value => s.valueOf x == value
  | .skipUnlessValue x value => s.valueOf x != value
  | .skipIfEqual x y => s.valueOf x == s.valueOf y
  | .skipUnlessEqual x y => s.valueOf x != s.valueOf y
  | .skipIfKey x => keys.isDown (s.valueOf x) == true
  | .skipUnlessKey x => keys.isDown (s.valueOf x) == false
  | _ => false

/-- The program counter after an operation. -/
def target (op : Operation) (s : State) (keys : Keys) : UInt16 :=
  match op with
  | .ret => s.stack.addresses.getLastD 0
  | .jump address | .call address => UInt16.ofInt address
  | .jumpBeyond address => UInt16.ofInt (address + s.valueOf 0)
  | _ => if op.skips s keys then s.pc + 2 else s.pc

/-- What an operation does to the call stack: a return takes the newest address, a call stores the
program counter, and no other operation changes it. -/
def Stacks (op : Operation) (s t : State) : Prop :=
  match op with
  | .ret => s.stack.pop = .ok (t.pc, t.stack)
  | .call _ => s.stack.push s.pc.toNat = .ok t.stack
  | _ => t.stack = s.stack

private theorem skipIf_control (s : State) (condition : Bool) :
    (s.skipIf condition).pc = (if condition then s.pc + 2 else s.pc) ∧
      (s.skipIf condition).stack = s.stack := by
  cases condition <;> exact ⟨rfl, rfl⟩

variable [Random.Generator]

/-- **The program counter and the call stack after an operation.** -/
theorem run_control (h : (op.run s grid keys).result = .ok t) :
    t.pc = op.target s keys ∧ op.Stacks s t := by
  cases op with
  | ret =>
    obtain ⟨address, stack, hpop, rfl⟩ := run_ret_ok h
    refine ⟨?_, hpop⟩
    rw [target, CallStack.addresses_pop hpop, List.getLastD_concat]
  | call address =>
    obtain ⟨stack, hpush, rfl⟩ := run_call_ok h
    exact ⟨rfl, hpush⟩
  | draw x y height =>
    obtain ⟨rows, -, rfl⟩ := run_draw_ok h
    exact ⟨rfl, rfl⟩
  | storeDecimal x =>
    obtain ⟨-, rfl⟩ := store_ok (fun _ => s.isByte_of_mem_decimalDigits) h
    exact ⟨rfl, rfl⟩
  | storeRegisters x =>
    obtain ⟨-, rfl⟩ := store_ok (fun _ => s.isByte_of_mem_registersUpTo) h
    exact ⟨rfl, rfl⟩
  | loadRegisters x =>
    obtain ⟨values, -, rfl⟩ := run_loadRegisters_ok h
    exact ⟨rfl, rfl⟩
  | skipIfValue | skipUnlessValue | skipIfEqual | skipUnlessEqual | skipIfKey | skipUnlessKey =>
    cases h
    exact skipIf_control s _
  | _ =>
    cases h
    exact ⟨rfl, rfl⟩

theorem run_call_of_lt {address : Int} (hd : s.stack.depth < stackSize) :
    ∃ stack, s.stack.push s.pc.toNat = .ok stack ∧
      (run (.call address) s grid keys).result = .ok ({ s with stack := stack }.goTo address) := by
  obtain ⟨stack, hpush⟩ := CallStack.exists_push_eq_ok hd s.pc.toNat
  refine ⟨stack, hpush, ?_⟩
  simp only [run, hpush]
  rfl

theorem run_ret_of_pos (hd : 0 < s.stack.depth) :
    ∃ address stack, s.stack.pop = .ok (address, stack) ∧
      (run .ret s grid keys).result = .ok { s with stack := stack, pc := address } := by
  obtain ⟨address, stack, hpop⟩ := CallStack.exists_pop_eq_ok hd
  refine ⟨address, stack, hpop, ?_⟩
  simp only [run, hpop]
  rfl

end Operation

section Execute

variable [Random.Generator] {i : Instruction} {s t : State} {grid : PixelGrid} {keys : Keys}

/-- An instruction leaves the call stack, or stores the address behind itself, or takes the newest
address. -/
theorem stack_execute (h : (execute i s grid keys).result = .ok t) :
    t.stack = s.stack ∨ s.stack.push s.advance.pc.toNat = .ok t.stack ∨
      s.stack.pop = .ok (t.pc, t.stack) := by
  rcases run_or_advance_of_execute h with ⟨op, -, hop⟩ | rfl
  · have hstack := (Operation.run_control hop).2
    cases op with
    | ret => exact .inr (.inr hstack)
    | call => exact .inr (.inl hstack)
    | _ => exact .inl hstack
  · exact .inl rfl

end Execute

end Chip8
