import Mathlib.Logic.Relation
import Chip8.Proofs.Change
import Chip8.Proofs.Control

/-!
# Well-formed states

In a well-formed state every part is in its range, and the slots of the call stack that are not in
use hold zero. Bytes and words are in range by their types, so it is the call stack that decides. A
host that puts an instruction together itself may write any integers into its fields: indexes of
registers that there are not, values beyond a byte, lengths below zero, or fields that contradict
each other. Such an instruction fails with a fault of the machine or leaves a well-formed state. So
does a key, also where the register that waits for it is none of the sixteen.

## Main definitions

* `Chip8.State.WellFormed` : every part of a state is in its range.
* `Chip8.Instruction.fault?` : the fault of an instruction in a state.
* `Chip8.State.Follows` : one state follows another by an instruction or a key.

## Main results

* `Chip8.State.wellFormed_iff_clean` : only the slots that are not in use have to be looked at.
* `Chip8.execute_result_eq_error_iff_fault?` : an instruction fails exactly with its fault.
* `Chip8.State.WellFormed.of_reflTransGen` : what follows a well-formed state is well formed.
* `Chip8.wellFormed_or_fault` : the outcome of any instruction and of any key.
-/

namespace Chip8

/-! ### The parts of a state -/

/-- Every part of the state is in its range. -/
structure State.WellFormed (s : State) : Prop where
  /-- There are sixteen registers of one byte. -/
  registers : s.registers.values.toList.length = 16 ∧
    ∀ v ∈ s.registers.values.toList, v.toNat ≤ 255
  /-- There are 4096 bytes of memory. -/
  memory : s.memory.bytes.toList.length = 4096 ∧ ∀ b ∈ s.memory.bytes.toList, b.toNat ≤ 255
  /-- The program counter has sixteen bits. -/
  pc_le : s.pc.toNat ≤ 65535
  /-- So has the index register. -/
  index_le : s.index.toNat ≤ 65535
  /-- The timers have eight bits. -/
  timers_le : s.delay.toNat ≤ 255 ∧ s.sound.toNat ≤ 255
  /-- There are sixteen slots for addresses of sixteen bits. -/
  slots : s.stack.slots.toList.length = 16 ∧ ∀ a ∈ s.stack.slots.toList, a.toNat ≤ 65535
  /-- No more slots than that are in use. -/
  depth_le : s.stack.depth ≤ 16
  /-- The others hold zero. -/
  clean : s.stack.Clean

namespace State

variable {s t : State}

/-- **Bytes and words are in range by their types**, so only the slots that are not in use have to
be looked at. -/
theorem wellFormed_iff_clean : s.WellFormed ↔ s.stack.Clean := by
  refine ⟨WellFormed.clean, fun h => ?_⟩
  have hbyte (v : UInt8) : v.toNat ≤ 255 := Nat.le_of_lt_succ v.toNat_lt
  have hword (a : UInt16) : a.toNat ≤ 65535 := Nat.le_of_lt_succ a.toNat_lt
  exact
    { registers := ⟨Vector.length_toList, fun v _ => hbyte v⟩
      memory := ⟨Vector.length_toList, fun b _ => hbyte b⟩
      pc_le := hword _
      index_le := hword _
      timers_le := ⟨hbyte _, hbyte _⟩
      slots := ⟨Vector.length_toList, fun a _ => hword a⟩
      depth_le := s.stack.depth_le
      clean := h }

instance (s : State) : Decidable s.WellFormed :=
  decidable_of_iff s.stack.Clean wellFormed_iff_clean.symm

theorem WellFormed.receive (hs : s.WellFormed) (key : Int) : (s.receive key).WellFormed := by
  have hstack : (s.receive key).stack = s.stack := by
    unfold State.receive
    cases s.waiting <;> rfl
  rw [wellFormed_iff_clean, hstack]
  exact hs.clean

end State

/-! ### Instructions with any fields -/

section Execute

variable {i : Instruction} {s t : State} {grid : PixelGrid} {keys : Keys} {e : Error}

/-- The fault of an instruction in a state, if it fails there. -/
def Instruction.fault? (i : Instruction) (s : State) : Option Fault :=
  if 0 ≤ i.family ∧ i.family < 16 then i.operation?.bind fun op => op.fault? s.advance
  else some (.undecodable (.ofInt i.raw))

variable [Random.Generator]

/-- **An instruction fails exactly with its fault**, whatever its fields hold. -/
theorem execute_result_eq_error_iff_fault? (hg : grid.HasPixels) :
    (execute i s grid keys).result = .error e ↔ ∃ f, i.fault? s = some f ∧ e = .fault f := by
  by_cases hi : i.HasFamily
  · have hfault : i.fault? s = i.operation?.bind fun op => op.fault? s.advance := if_pos hi
    rw [execute_of_hasFamily hi, hfault]
    cases i.operation? with
    | none => simp
    | some op => exact Operation.run_result_eq_error_iff hg
  · have hfault : i.fault? s = some (.undecodable (.ofInt i.raw)) := if_neg hi
    have hresult : (execute i s grid keys).result =
        .error (.fault (.undecodable (.ofInt i.raw))) :=
      congrArg Effect.result (if_neg hi)
    rw [hresult, hfault]
    simp [eq_comm]

/-- An instruction that succeeds keeps a state well formed: it leaves the call stack, or adds to it,
or takes from it. -/
theorem State.WellFormed.execute (hs : s.WellFormed)
    (h : (execute i s grid keys).result = .ok t) : t.WellFormed := by
  rw [wellFormed_iff_clean]
  rcases stack_execute h with hkept | hpush | hpop
  · rw [hkept]
    exact hs.clean
  · exact hs.clean.push hpush
  · exact hs.clean.pop hpop

end Execute

/-! ### Histories -/

/-- A state follows another one: an instruction succeeded, with any fields and any devices, or a
session was handed a key of any number. -/
inductive State.Follows [Random.Generator] (s : State) : State → Prop
  /-- The instruction succeeded. -/
  | instruction {i : Instruction} {grid : PixelGrid} {keys : Keys} {t : State}
      (succeeded : (execute i s grid keys).result = .ok t) : s.Follows t
  /-- The key was handed over. -/
  | key (u : Session) (here : u.state = s) (key : Int) :
      s.Follows (Session.deliverKey (.ofInt key) u).session.state

namespace State

variable {s t : State}

theorem state_deliverKey (u : Session) (key : Int) :
    (Session.deliverKey (.ofInt key) u).session.state = u.state.receive key := by
  rw [(Session.deliverKey_yields key u).session_eq]

variable [Random.Generator]

theorem WellFormed.of_follows (hs : s.WellFormed) (h : s.Follows t) : t.WellFormed := by
  cases h with
  | instruction succeeded => exact hs.execute succeeded
  | key u here key =>
    rw [state_deliverKey, here]
    exact hs.receive key

/-- **What follows a well-formed state**, after any number of steps, is well formed. -/
theorem WellFormed.of_reflTransGen (hs : s.WellFormed) (h : Relation.ReflTransGen Follows s t) :
    t.WellFormed := by
  induction h with
  | refl => exact hs
  | tail _ hstep ih => exact ih.of_follows hstep

end State

/-- **Any instruction and any key.** A state follows a well-formed one by instructions and keys,
whatever integers these hold. Then it is well formed, too. The next instruction, on a screen with a
pixel, either fails, with its fault, or leaves a well-formed state. A key is taken exactly by a
processor that waits, also if it waits in a register that there is not, and leaves a well-formed
state that does not wait. -/
theorem wellFormed_or_fault [Random.Generator] {s t : State} (hs : s.WellFormed)
    (ht : Relation.ReflTransGen State.Follows s t) {grid : PixelGrid} (hg : grid.HasPixels)
    (i : Instruction) (keys : Keys) :
    t.WellFormed ∧
      (match i.fault? t with
        | some f => (execute i t grid keys).result = .error (.fault f)
        | none => ∃ u, (execute i t grid keys).result = .ok u ∧ u.WellFormed) ∧
      ∀ (u : Session) (key : Int) (after : Outcome Bool), u.state = t →
        after = Session.deliverKey (.ofInt key) u →
          after.result = .ok t.paused ∧ after.session.state.WellFormed ∧
            after.session.state.waiting = none := by
  have hwell := hs.of_reflTransGen ht
  refine ⟨hwell, ?_, ?_⟩
  · split
    · rename_i f hf
      exact (execute_result_eq_error_iff_fault? hg).2 ⟨f, hf, rfl⟩
    · rename_i hf
      cases hr : (execute i t grid keys).result with
      | error e =>
        obtain ⟨f, hsome, -⟩ := (execute_result_eq_error_iff_fault? hg).1 hr
        cases hf.symm.trans hsome
      | ok u => exact ⟨u, rfl, hwell.execute hr⟩
  · rintro u key after rfl rfl
    refine ⟨(Session.deliverKey_yields key u).result_eq, ?_, ?_⟩
    · exact hwell.of_follows (.key u rfl key)
    · rw [State.state_deliverKey, State.receive]
      cases hw : u.state.waiting with
      | none => exact hw
      | some register => rfl

/-- A wait for a key in a register that there is not, with fields that contradict each other. -/
def strayWait : Instruction where
  raw := -1
  family := 0xF
  x := 99
  y := -7
  n := 1000
  nn := 0x0A
  nnn := -5

/-- A drawing of fewer than no rows. -/
def strayDraw : Instruction where
  raw := 0x10000
  family := 0xD
  x := -40
  y := 70
  n := -1
  nn := 300
  nnn := 1

/-- The stray wait succeeds, the key that ends it is lost, and then the stray drawing fails. -/
theorem wellFormed_or_fault_strayWait :
    (State.initial ⟨0, 0⟩).WellFormed ∧ (PixelGrid.dark 1 1).HasPixels ∧
      ∃ t u, (execute strayWait (.initial ⟨0, 0⟩) (.dark 1 1) .allUp).result = .ok t ∧
        t.waiting = some 99 ∧ t.receive 300 = u ∧ u.registers = .blank ∧ u.WellFormed ∧
        (execute strayDraw u (.dark 1 1) .allUp).result =
          .error (.fault (.outOfBounds 0 (-1))) := by
  have hs : (State.initial ⟨0, 0⟩).WellFormed :=
    State.wellFormed_iff_clean.2 CallStack.clean_empty
  have hg : (PixelGrid.dark 1 1).HasPixels := ⟨Nat.one_pos, Nat.one_pos⟩
  let t : State := { (State.initial ⟨0, 0⟩).advance with waiting := some 99 }
  let session : Session :=
    { config := {}, speed := .int 1, logger := packageLogger, seedKey := ⟨0, 0⟩, state := t }
  have hwait : (execute strayWait (.initial ⟨0, 0⟩) (.dark 1 1) .allUp).result = .ok t := rfl
  have hkey : t.Follows (t.receive 300) := by
    rw [← State.state_deliverKey session 300]
    exact .key session rfl 300
  obtain ⟨hwell, hdraw, -⟩ :=
    wellFormed_or_fault hs (.tail (.single (.instruction hwait)) hkey) hg strayDraw .allUp
  exact ⟨hs, hg, t, t.receive 300, hwait, rfl, rfl, rfl, hwell, hdraw⟩

end Chip8
