import Chip8.Proofs.Change
import Chip8.Proofs.Control
import Chip8.Proofs.Path

/-!
# Bounds of the program counter and the call stack

A session that is driven by frames executes fetched instructions only. These lie in the memory, so
the program counter behind one of them is at most the size of the memory, and so is every return
address. The farthest jump is the one that adds a register to an address. All of this is far below
the end of a word, so the program counter is never taken modulo `2 ^ 16`.

## Main definitions

* `Chip8.State.Bounded` : the bounds.
* `Chip8.Command.isFrameDriven` : the commands that execute fetched instructions at most.

## Main results

* `Chip8.State.Bounded.execute` : a fetched instruction keeps the bounds.
* `Chip8.Command.keepsBounds` : so does every frame-driven command.
* `Chip8.Session.bounded_after` : the bounds hold after every frame-driven history, and within
  frames.
-/

namespace Chip8

/-- The bounds of the program counter, of the call stack and of the waiting register. -/
structure State.Bounded (s : State) : Prop where
  /-- The farthest address is twelve bits plus a byte. -/
  pc_le : s.pc.toNat ≤ 0x10FE
  /-- There are sixteen slots for return addresses. -/
  depth_le : s.stack.depth ≤ 16
  /-- A return address is behind an instruction in the memory. -/
  stored : ∀ a ∈ s.stack.addresses, 2 ≤ a.toNat ∧ a.toNat ≤ 4096
  /-- The slots behind the stored addresses hold zero. -/
  clean : s.stack.Clean
  /-- Only one of the sixteen registers waits for a key. -/
  waiting : ∀ r, s.waiting = some r → 0 ≤ r ∧ r < 16

namespace State

variable {s t : State} {opcode : Nat} {grid : PixelGrid} {keys : Keys}

/-- Only the program counter, the call stack and the waiting register count. -/
theorem Bounded.of_eq (hs : s.Bounded) (hpc : t.pc = s.pc) (hstack : t.stack = s.stack)
    (hwaiting : t.waiting = s.waiting ∨ t.waiting = none) : t.Bounded where
  pc_le := hpc ▸ hs.pc_le
  depth_le := t.stack.depth_le
  stored := hstack ▸ hs.stored
  clean := hstack ▸ hs.clean
  waiting r hr := by
    rcases hwaiting with hkept | hended
    · exact hs.waiting r (hkept ▸ hr)
    · cases hended.symm.trans hr

theorem bounded_initial (key : Random.Key) : (initial key).Bounded where
  pc_le := (by decide : (512 : UInt16).toNat ≤ 0x10FE)
  depth_le := CallStack.empty.depth_le
  stored a ha := absurd ha List.not_mem_nil
  clean := CallStack.clean_empty
  waiting r hr := by cases hr

theorem Bounded.withFont (hs : s.Bounded) : s.withFont.Bounded :=
  hs.of_eq (pc_withFont s) (stack_withFont s) (.inl (waiting_withFont s))

namespace Bounded

/-- The program counter is not taken modulo `2 ^ 16` when it is advanced. -/
theorem toNat_pc_advance (hs : s.Bounded) : s.advance.pc.toNat = s.pc.toNat + 2 := by
  have hpc := hs.pc_le
  rw [advance, UInt16.toNat_add]
  exact Nat.mod_eq_of_lt (by simp only [UInt16.toNat_ofNat]; omega)

theorem toNat_pc_advance_advance (hs : s.Bounded) :
    s.advance.advance.pc.toNat = s.pc.toNat + 4 := by
  have hpc := hs.pc_le
  have hadvance := hs.toNat_pc_advance
  rw [advance, UInt16.toNat_add, hadvance]
  exact Nat.mod_eq_of_lt (by simp only [UInt16.toNat_ofNat]; omega)

/-- The program counter after an operation, if that of the operation is behind an instruction in
the memory. -/
theorem target_le (hs : s.Bounded) {op : Operation} (hop : op.IsMeantBy (.ofOpcode opcode))
    (hf : s.pc.toNat ≤ 4094) : (op.target s.advance keys).toNat ≤ 0x10FE := by
  have hbehind := hs.toNat_pc_advance
  have hskip := hs.toNat_pc_advance_advance
  have hnnn : (Instruction.ofOpcode opcode).nnn = (opcode % 4096 : Nat) := by
    simp only [Instruction.ofOpcode]
    omega
  cases op with
  | ret =>
    rcases List.eq_nil_or_concat s.stack.addresses with hnil | ⟨l, a, hl⟩
    · simp [Operation.target, hnil]
    · rw [List.concat_eq_append] at hl
      -- A return goes where a call stored, which is behind an instruction in the memory.
      have ha := (hs.stored a (by simp [hl])).2
      simp only [Operation.target, stack_advance, hl, List.getLastD_concat]
      omega
  | jump address | call address =>
    obtain ⟨-, rfl⟩ := hop
    rw [Operation.target, hnnn, toNat_ofInt_natCast]
    omega
  | jumpBeyond address =>
    obtain ⟨-, rfl⟩ := hop
    have hv : s.advance.valueOf 0 < 256 := (s.advance.registers.get 0).toNat_lt
    rw [Operation.target, hnnn, ← Int.natCast_add, toNat_ofInt_natCast]
    omega
  | _ =>
    simp only [Operation.target]
    split
    · rw [show s.advance.pc + 2 = s.advance.advance.pc from rfl, hskip]
      omega
    · omega

variable [Random.Generator]

/-- **A fetched instruction keeps the bounds.** -/
theorem execute (hs : s.Bounded) (hf : s.fetch = .ok opcode)
    (ht : (execute (.ofOpcode opcode) s grid keys).result = .ok t) : t.Bounded := by
  have hpc := pc_le_of_fetch hf
  have hbehind := hs.toNat_pc_advance
  have hi := Instruction.hasFamily_ofOpcode opcode
  refine ⟨?_, t.stack.depth_le, ?_, ?_, fun r hr => waiting_execute_mem hs.waiting ht hr⟩
  · rcases run_or_advance_of_execute ht with ⟨op, hop, hrun⟩ | rfl
    · rw [(Operation.run_control hrun).1]
      exact hs.target_le (Instruction.isMeantBy_of_operation? hi hop) hpc
    · omega
  · intro a ha
    rcases stack_execute ht with hkept | hpush | hpop
    · exact hs.stored a (hkept ▸ ha)
    · rw [CallStack.addresses_push hpush, ofInt_toNat, List.mem_append, List.mem_singleton] at ha
      rcases ha with ha | rfl
      · exact hs.stored a ha
      · omega
    · exact hs.stored a (by simp [CallStack.addresses_pop hpop, ha])
  · rcases stack_execute ht with hkept | hpush | hpop
    · exact hkept ▸ hs.clean
    · exact hs.clean.push hpush
    · exact hs.clean.pop hpop

end Bounded

end State

theorem Path.bounded [Random.Generator] {keys : Keys} {s t : State} {g h : PixelGrid}
    {l : List Executed} (p : Path keys s g l t h) (hs : s.Bounded) : t.Bounded := by
  induction p with
  | nil => exact hs
  | cons fetched succeeded rest ih => exact ih (hs.execute fetched succeeded)

/-! ### Frame-driven sessions -/

/-- The command executes fetched instructions at most: it does not execute an opcode of the host,
nor put parts of the state in place. -/
def Command.isFrameDriven : Command → Bool
  | .execute _ | .preset _ => false
  | _ => true

namespace Session

open Procedure

/-- If the bounds hold in the one session, then in the other one. -/
def KeepsBounds (s t : Session) : Prop :=
  s.state.Bounded → t.state.Bounded

instance : IsPreorder Session KeepsBounds where
  refl _ := id
  trans _ _ _ h h' := h' ∘ h

theorem Spares.keepsBounds {s t : Session} (h : s.Spares t) : s.KeepsBounds t := by
  intro hs
  refine hs.of_eq ?_ ?_ h.waiting
  · rw [h.state]
  · rw [h.state]

theorem keepsBounds_loadFont : Within KeepsBounds loadFont :=
  within_update fun _ hs => hs.withFont

theorem keepsBounds_reset : Within KeepsBounds reset := by
  refine Within.bind (within_update fun s _ => ?_) fun _ => within_report _ _
  have hfresh := State.bounded_initial s.seedKey
  cases s.fontLoaded
  · exact hfresh
  · exact hfresh.withFont

section

variable [Random.Generator]

theorem keepsBounds_cycle : Within KeepsBounds cycle := by
  refine within_cycle (within_step ?_ ?_) (within_endFrame.mono fun _ _ h => h.spares.keepsBounds)
  · intro s opcode t hf ht hs
    exact hs.execute hf ht
  · intro s e _ hs
    exact hs

/-- **A frame-driven command keeps the bounds**, also where it fails. -/
theorem keepsBounds_perform {c : Command} (hc : c.isFrameDriven = true) :
    Within KeepsBounds c.perform := by
  cases c with
  | loadFont => exact keepsBounds_loadFont.answer _
  | reset => exact keepsBounds_reset.answer _
  | cycle => exact keepsBounds_cycle.answer _
  | runFrames count => exact (within_runFrames keepsBounds_cycle count).answer _
  | execute | preset => cases hc
  | _ => exact (Command.within_adjusts rfl).mono fun _ _ h => h.spares.keepsBounds

/-- **The bounds hold after every frame-driven history** of a new session with its own keypad and
speaker, and in every state that a frame then comes through. In none of them does the program
counter pass the end of a word when it is advanced, once or twice. -/
theorem bounded_after {config : Config} {logger : Option Logger} {key : Option Random.Key}
    {screen : FrameBuffer} {s₀ s : Session} {history : List Command}
    (hmake : make config logger key screen = .ok s₀) (keypad : Keypad Unit) (speaker : Speaker)
    (hhistory : ∀ c ∈ history, c.isFrameDriven = true)
    (hs : { s₀ with keypad := keypad, speaker := speaker }.after history = s) :
    s.state.Bounded ∧
      ∀ l t g, Path s.keypad.keys s.state s.screen.grid l t g →
        t.Bounded ∧ t.advance.pc.toNat = t.pc.toNat + 2 ∧
          t.advance.advance.pc.toNat = t.pc.toNat + 4 := by
  have hbounded : s.state.Bounded := by
    obtain ⟨l, k, -, rfl⟩ := exists_eq_of_make hmake
    subst hs
    refine within_after (fun c hc => keepsBounds_perform (hhistory c hc)) _ ?_
    exact State.bounded_initial k
  refine ⟨hbounded, fun l t g hpath => ?_⟩
  have ht := hpath.bounded hbounded
  exact ⟨ht, ht.toNat_pc_advance, ht.toNat_pc_advance_advance⟩

end

/-- A frame that jumps as far as a jump can, and fails there for want of an opcode. -/
def farthestJump : List Command :=
  [.load (.raw [0x60, 0xFF, 0xBF, 0xFF]), .setSpeed (.int 3), .cycle]

set_option maxRecDepth 40000 in
/-- The farthest jump reaches the bound of the program counter. -/
theorem bounded_after_farthestJump :
    make {} (some packageLogger) (some ⟨0, 0⟩) .screen = .ok (ofProgram [] defaultSpeed) ∧
      (∀ c ∈ farthestJump, c.isFrameDriven = true) ∧
      ((ofProgram [] defaultSpeed).after farthestJump).state.pc.toNat = 0x10FE ∧
      ((ofProgram [] defaultSpeed).after farthestJump).halted = true ∧
      ((ofProgram [] defaultSpeed).after farthestJump).state.Bounded := by
  have hmake : make {} (some packageLogger) (some ⟨0, 0⟩) .screen =
      .ok (ofProgram [] defaultSpeed) := rfl
  have hdriven : ∀ c ∈ farthestJump, c.isFrameDriven = true := by decide
  obtain ⟨hbounded, -⟩ := bounded_after hmake {} {} hdriven rfl
  exact ⟨hmake, hdriven, rfl, rfl, hbounded⟩

end Session

end Chip8
