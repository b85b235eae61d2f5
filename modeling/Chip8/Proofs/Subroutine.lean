import Mathlib.Data.List.Infix
import Chip8.Proofs.Control
import Chip8.Random.Threefry

/-!
# Subroutines

A call stores the address behind itself, and the return that takes this address off the stack goes
on there. In between the subroutine may execute anything that does not take the address away: calls
and returns of its own store and take what lies above it, and no other instruction reaches the
stack. So the caller finds the stack as it left it, the cleared slots included.

## Main definitions

* `Chip8.State.Inside` : instructions after which the call stack is never below a depth.

## Main results

* `Chip8.State.Inside.isPrefix_addresses` : what the caller has stored stays.
* `Chip8.subroutine_returns` : a return goes on behind its call, with the stack of the caller.
-/

namespace Chip8

/-- Instructions lead from the state `s` to another one, on any pixels and with any keys down. None
of them leaves fewer than `n` return addresses. -/
inductive State.Inside [Random.Generator] (n : Nat) (s : State) : State → Prop
  /-- No instruction. -/
  | start : Inside n s s
  /-- One instruction more. -/
  | step {t u : State} {i : Instruction} {grid : PixelGrid} {keys : Keys} (rest : Inside n s t)
      (executed : (execute i t grid keys).result = .ok u) (deep : n ≤ u.stack.depth) :
      Inside n s u

namespace State.Inside

variable [Random.Generator] {n : Nat} {s t : State} {base : List UInt16}

/-- The addresses below the depth stay. -/
theorem isPrefix_addresses (h : Inside n s t) (hbase : base <+: s.stack.addresses)
    (hn : base.length ≤ n) : base <+: t.stack.addresses := by
  induction h with
  | start => exact hbase
  | @step t u i grid keys rest executed deep ih =>
    rcases stack_execute executed with hkept | hpush | hpop
    · rwa [hkept]
    · rw [CallStack.addresses_push hpush]
      exact ih.trans (List.prefix_append _ _)
    · -- The address that is taken lies behind those that are left, and these are `n` at least.
      rw [CallStack.addresses_pop hpop] at ih
      refine List.prefix_of_prefix_length_le ih (List.prefix_append _ _) ?_
      rw [CallStack.length_addresses]
      exact hn.trans deep

theorem clean (h : Inside n s t) (hs : s.stack.Clean) : t.stack.Clean := by
  induction h with
  | start => exact hs
  | step rest executed deep ih =>
    rcases stack_execute executed with hkept | hpush | hpop
    · rwa [hkept]
    · exact ih.push hpush
    · exact ih.pop hpop

end State.Inside

section Return

variable [Random.Generator] {s : State} (grid : PixelGrid) (keys : Keys)

theorem execute_call {opcode : Nat} (hd : s.stack.depth < stackSize) (hcall : opcode / 4096 = 0x2) :
    ∃ stack, s.stack.push (s.pc + 2).toNat = .ok stack ∧
      (execute (.ofOpcode opcode) s grid keys).result =
        .ok { s with stack := stack, pc := UInt16.ofInt (opcode % 4096 : Nat) } := by
  have hop : (Operation.call (opcode % 4096 : Nat)).IsMeantBy (.ofOpcode opcode) := by
    refine ⟨?_, rfl⟩
    simp only [Instruction.ofOpcode]
    omega
  rw [execute_ofOpcode hop]
  exact Operation.run_call_of_lt (s := s.advance) hd

theorem execute_return (hd : 0 < s.stack.depth) :
    ∃ address stack, s.stack.pop = .ok (address, stack) ∧
      (execute (.ofOpcode 0x00EE) s grid keys).result =
        .ok { s with stack := stack, pc := address } := by
  have hop : Operation.ret.IsMeantBy (.ofOpcode 0x00EE) := ⟨rfl, rfl⟩
  rw [execute_ofOpcode hop]
  exact Operation.run_ret_of_pos (s := s.advance) hd

/-- **A return goes on behind its call.** A call goes into its subroutine. Whatever is executed
there, with the address of the call kept on the stack: the return that comes when this address is
the newest one goes on behind the call, and all slots of the stack are as they were before it. -/
theorem subroutine_returns (hs : s.stack.Clean) (hd : s.stack.depth < stackSize) {opcode : Nat}
    (hcall : opcode / 4096 = 0x2) :
    ∃ t, (execute (.ofOpcode opcode) s grid keys).result = .ok t ∧
      t.pc.toNat = opcode % 4096 ∧ t.stack.depth = s.stack.depth + 1 ∧
      ∀ u, State.Inside (s.stack.depth + 1) t u → u.stack.depth = s.stack.depth + 1 →
        ∀ (grid : PixelGrid) (keys : Keys), ∃ v,
          (execute (.ofOpcode 0x00EE) u grid keys).result = .ok v ∧
            v.pc.toNat = (s.pc.toNat + 2) % 65536 ∧ v.stack = s.stack := by
  obtain ⟨stack, hpush, ht⟩ := execute_call grid keys hd hcall
  have haddresses : stack.addresses = s.stack.addresses ++ [s.pc + 2] := by
    rw [CallStack.addresses_push hpush, ofInt_toNat]
  have hdepth : stack.depth = s.stack.depth + 1 := by
    rw [← CallStack.length_addresses, haddresses, List.length_append, CallStack.length_addresses]
    rfl
  refine ⟨_, ht, ?_, hdepth, ?_⟩
  · rw [toNat_ofInt_natCast]
    omega
  · intro u hinside hu grid keys
    obtain ⟨address, rest, hpop, hv⟩ := execute_return (s := u) grid keys (by omega)
    -- The addresses of the call are those of the state, for they are as many.
    have hsame : stack.addresses = u.stack.addresses := by
      have hkept : stack.addresses <+: u.stack.addresses :=
        hinside.isPrefix_addresses (List.prefix_refl _)
          (by rw [CallStack.length_addresses, hdepth])
      refine hkept.eq_of_length ?_
      rw [CallStack.length_addresses, CallStack.length_addresses, hdepth, hu]
    have hpopped : s.stack.addresses ++ [s.pc + 2] = rest.addresses ++ [address] := by
      rw [← haddresses, hsame, CallStack.addresses_pop hpop]
    obtain ⟨hrest, haddress⟩ := List.append_inj' hpopped rfl
    refine ⟨_, hv, ?_, ?_⟩
    · rw [← List.singleton_inj.1 haddress]
      exact UInt16.toNat_add s.pc 2
    · have hclean := (hinside.clean (hs.push hpush)).pop hpop
      exact hclean.eq_of_addresses_eq hs hrest.symm

end Return

/-- A state in the subroutine at `0x300`, which the first instruction of a program called. -/
def State.inSubroutine : State :=
  { State.initial ⟨0, 0⟩ with
    pc := 0x300
    stack := { slots := CallStack.empty.slots.set 0 0x202, depth := 1 } }

set_option maxRecDepth 40000 in
/-- A subroutine that calls another one, loads a register and returns. -/
theorem subroutine_returns_nested :
    (State.initial ⟨0, 0⟩).stack.Clean ∧ (State.initial ⟨0, 0⟩).stack.depth < stackSize ∧
      0x2300 / 4096 = 0x2 ∧
      (execute (.ofOpcode 0x2300) (.initial ⟨0, 0⟩) (.dark 1 1) .allUp).result =
        .ok .inSubroutine ∧
      ∃ u v, State.Inside 1 .inSubroutine u ∧ u.stack.depth = 1 ∧ u.registers.get 1 = 5 ∧
        (execute (.ofOpcode 0x00EE) u (.dark 1 1) .allUp).result = .ok v ∧
        v.pc.toNat = 514 ∧ v.stack = .empty := by
  have hclean : (State.initial ⟨0, 0⟩).stack.Clean := CallStack.clean_empty
  have hfree : (State.initial ⟨0, 0⟩).stack.depth < stackSize := by decide
  have hcall : 0x2300 / 4096 = 0x2 := rfl
  obtain ⟨t, ht, -, -, h⟩ := subroutine_returns (.dark 1 1) .allUp hclean hfree hcall
  obtain rfl : State.inSubroutine = t := Except.ok.inj ht
  have hnested := (State.Inside.start (n := 1) (s := .inSubroutine)).step
    (rfl : (execute (.ofOpcode 0x2400) _ (.dark 1 1) .allUp).result = .ok _) (by decide)
  have hreturned := hnested.step
    (rfl : (execute (.ofOpcode 0x00EE) _ (.dark 1 1) .allUp).result = .ok _) (by decide)
  have hinside := hreturned.step
    (rfl : (execute (.ofOpcode 0x6105) _ (.dark 1 1) .allUp).result = .ok _) (by decide)
  obtain ⟨v, hv, hpc, hstack⟩ := h _ hinside rfl (.dark 1 1) .allUp
  exact ⟨hclean, hfree, hcall, ht, _, v, hinside, rfl, rfl, hv, hpc, hstack⟩

end Chip8
