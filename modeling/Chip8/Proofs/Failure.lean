import Mathlib.Data.List.Basic
import Chip8.Proofs.Faults
import Chip8.Proofs.Frame
import Chip8.Random.Threefry

/-!
# Failures

When an instruction fails, and what is left of it and of the frame in which it does. The
instruction sets the flag that the processor is halted and changes nothing else. The frame leaves
what the instructions before it left: the timers are not counted down, the tone is not set and the
screen is not rendered.

## Main definitions

* `Chip8.Session.StopsBehind` : the first instruction of a batch that fails.

## Main results

* `Chip8.Session.batch_result_eq_error_iff` : a batch fails exactly with an instruction.
* `Chip8.Session.failure_leaves` : what is left of a failure.
* `Chip8.Session.fails_iff_faults` : when instructions and frames fail.
-/

namespace Chip8.Session

open Procedure

variable {s : Session} {t : State} {g : PixelGrid} {l : List Executed} {n : Nat} {e : Error}
  {keys : Keys}

theorem flatMap_callsWithHook (hl : ∀ x ∈ l, x.awaitsKey = false) :
    l.flatMap Executed.callsWithHook = l.flatMap Executed.calls := by
  refine List.flatMap_congr fun x hx => ?_
  rw [Executed.callsWithHook, hl x hx, if_neg Bool.false_ne_true, List.append_nil]

section

variable [Random.Generator]

/-- On a grid with a pixel an instruction fails with a fault. -/
theorem exists_fault_of_effectOf {opcode : Nat} (hg : s.screen.grid.HasPixels)
    (h : (s.effectOf (.ofOpcode opcode)).result = .error e) : ∃ f, e = .fault f := by
  have hi := Instruction.hasFamily_ofOpcode opcode
  obtain ⟨-, f, -, -, rfl⟩ := (execute_result_eq_error_iff hi hg).1 h
  exact ⟨f, rfl⟩

theorem exists_fault_of_attempt {opcode : Int} (hg : s.screen.grid.HasPixels)
    (h : s.attempt (.ofInt opcode) = .error e) : ∃ f, e = .fault f := by
  rw [attempt, decode_ofInt] at h
  split at h
  · exact exists_fault_of_effectOf hg h
  · cases h
    exact ⟨_, rfl⟩

theorem exists_fault_of_next (hg : g.HasPixels) (h : t.next g keys = .error e) :
    ∃ f, e = .fault f := by
  obtain ⟨f, he, -⟩ := (State.next_eq_error_iff hg).1 h
  exact ⟨f, he⟩

/-- In a batch of `n` instructions, those of `l` succeed and lead to the state `t` and the pixels
`g`, where the next one is executed and fails. -/
structure StopsBehind (s : Session) (n : Nat) (l : List Executed) (t : State) (g : PixelGrid)
    (e : Error) : Prop where
  /-- The processor runs at the start. -/
  running : s.paused = false
  /-- The instructions that succeed. -/
  path : Path s.keypad.keys s.state s.screen.grid l t g
  /-- None of them is a wait for a key. -/
  no_wait : ∀ x ∈ l, x.awaitsKey = false
  /-- The next one is still in the batch. -/
  length_lt : l.length < n
  /-- The next one is not fetched, or fails. -/
  failed : t.next g s.keypad.keys = .error e

theorem StopsBehind.batch_yields (h : s.StopsBehind n l t g e) :
    (batch n).Yields s (.error e)
      ({ s with state := t, screen := { s.screen with grid := g } }.haltedBy e)
      (l.flatMap Executed.calls) := by
  have ht := h.path.paused_eq_false h.running h.no_wait
  have hreach : s.reach t g = { s with state := t, screen := { s.screen with grid := g } } := by
    simp [reach, ht]
  have hnext : (s.reach t g).next = .error e := by
    rw [hreach]
    exact h.failed
  obtain ⟨m, rfl⟩ := Nat.exists_eq_add_of_lt h.length_lt
  have hfail := batch_succ_yields_error (s := s.reach t g) (n := m) ht (step_yields_error hnext)
  have hbatch := batch_yields_of_path h.path h.running h.no_wait hfail
  rwa [hreach, flatMap_callsWithHook h.no_wait, List.append_nil] at hbatch

/-- A batch fails exactly with the first of its instructions that fails. -/
theorem batch_result_eq_error_iff :
    (batch n s).result = .error e ↔ ∃ l t g, s.StopsBehind n l t g e := by
  constructor
  · intro h
    cases hs : s.paused with
    | true =>
      rw [(batch_yields_of_paused hs n).result_eq] at h
      cases h
    | false =>
      obtain ⟨l, t, g, hpath, ⟨-, -, hy⟩ | ⟨hlt, hl, e', he, hy⟩⟩ := Session.batch_yields hs n
      · rw [hy.result_eq] at h
        cases h
      · obtain rfl : e' = e := Except.error.inj (hy.result_eq.symm.trans h)
        exact ⟨l, t, g, hs, hpath, hl, hlt, he⟩
  · rintro ⟨l, t, g, h⟩
    exact h.batch_yields.result_eq

theorem next_of_batch_error (h : (batch n s).result = .error e) :
    (batch n s).session.next = .error e := by
  obtain ⟨l, t, g, hstops⟩ := batch_result_eq_error_iff.1 h
  rw [hstops.batch_yields.session_eq]
  exact hstops.failed

/-- On a grid with a pixel a frame leaves what the instructions before the one that fails left, and
the processor is halted. -/
theorem StopsBehind.cycle_yields {speed : Int} (h : s.StopsBehind speed.toNat l t g e)
    (hg : s.screen.grid.HasPixels) (hh : s.halted = false) (hn : s.speed = .int speed) :
    cycle.Yields s (.error e)
      { s with state := t, screen := { s.screen with grid := g }, halted := true }
      (l.flatMap Executed.calls) := by
  obtain ⟨f, rfl⟩ := exists_fault_of_next (h.path.hasPixels hg) h.failed
  have hbatch := h.batch_yields
  rw [haltedBy_fault] at hbatch
  exact cycle_yields_error hh hn hbatch

/-- **What is left of a failure.** An opcode that fails sets the flag that the processor is halted,
and nothing else changes. A frame with an instruction that fails leaves the state and the pixels
that the instructions before it left, and only they called the devices. -/
theorem failure_leaves (hg : s.screen.grid.HasPixels) :
    (∀ (opcode : Int) (e : Error), (executeOpcode (.ofInt opcode) s).result = .error e →
      (executeOpcode (.ofInt opcode)).Yields s (.error e) { s with halted := true } []) ∧
    ∀ speed : Int, s.halted = false → s.speed = .int speed →
      (∀ e, (batch speed.toNat s).result = .error e ↔
        ∃ l t g, s.StopsBehind speed.toNat l t g e) ∧
      ∀ l t g e, s.StopsBehind speed.toNat l t g e →
        cycle.Yields s (.error e)
          { s with state := t, screen := { s.screen with grid := g }, halted := true }
          (l.flatMap Executed.calls) ∧
        ∀ c ∈ l.flatMap Executed.calls, c.IsOfInstruction := by
  refine ⟨fun opcode e h => ?_, fun speed hh hn => ⟨fun e => batch_result_eq_error_iff, ?_⟩⟩
  · have ha := executeOpcode_result_eq_error_iff.1 h
    obtain ⟨f, rfl⟩ := exists_fault_of_attempt hg ha
    rw [← haltedBy_fault]
    exact executeOpcode_yields_error ha
  · intro l t g e h
    refine ⟨h.cycle_yields hg hh hn, fun c hc => ?_⟩
    obtain ⟨x, hx, hc⟩ := List.mem_flatMap.1 hc
    exact h.path.isOfInstruction x hx c hc

/-- A session whose second instruction returns without a call. -/
def unmatchedReturn : Session :=
  ofProgram [0x61, 0x05, 0x00, 0xEE] 5

set_option maxRecDepth 40000 in
theorem stopsBehind_unmatchedReturn :
    unmatchedReturn.StopsBehind 5 [⟨0x6105, []⟩]
      { unmatchedReturn.state with pc := 514, registers := Registers.blank.set 1 5 }
      unmatchedReturn.screen.grid (.fault .emptyStack) where
  running := rfl
  path := .cons rfl rfl (.nil ..)
  no_wait := by decide
  length_lt := by decide
  failed := rfl

end

set_option maxRecDepth 40000 in
/-- A return without a call leaves the register that was loaded before it. -/
theorem failure_leaves_unmatchedReturn :
    unmatchedReturn.screen.grid.HasPixels ∧
      (executeOpcode (.ofInt 0x00EE) unmatchedReturn).result = .error (.fault .emptyStack) ∧
      (executeOpcode (.ofInt 0x00EE)).Yields unmatchedReturn (.error (.fault .emptyStack))
        { unmatchedReturn with halted := true } [] ∧
      unmatchedReturn.halted = false ∧ unmatchedReturn.speed = .int 5 ∧
      cycle.Yields unmatchedReturn (.error (.fault .emptyStack))
        { unmatchedReturn with
          state := { unmatchedReturn.state with pc := 514, registers := Registers.blank.set 1 5 }
          halted := true } [] := by
  have hg := hasPixels_ofProgram [0x61, 0x05, 0x00, 0xEE] 5
  obtain ⟨hopcode, hframe⟩ := failure_leaves hg
  have hr : (executeOpcode (.ofInt 0x00EE) unmatchedReturn).result = .error (.fault .emptyStack) :=
    rfl
  exact ⟨hg, hr, hopcode _ _ hr, rfl, rfl,
    ((hframe 5 rfl rfl).2 _ _ _ _ stopsBehind_unmatchedReturn).1⟩

/-! ### When frames fail -/

/-- Where the tone can be played, a frame fails only with an instruction. -/
theorem exists_stopsBehind_of_cycle [Random.Generator] {speed : Int} (hh : s.halted = false)
    (hn : s.speed = .int speed) (htone : s.config.toneFrequency.Playable)
    (h : (cycle s).result = .error e) : ∃ l t g, s.StopsBehind speed.toNat l t g e := by
  rw [← batch_result_eq_error_iff]
  cases hb : (batch speed.toNat s).result with
  | error e' =>
    have hbatch := yields_self (batch speed.toNat) s
    rw [hb] at hbatch
    exact (cycle_yields_error hh hn hbatch).result_eq.symm.trans h
  | ok =>
    obtain ⟨l, t, g, -, -, -, hbatch⟩ := exists_path_of_batch hb
    obtain ⟨_, _, hcycle⟩ := cycle_yields hh hn hbatch fun _ => htone
    rw [hcycle.result_eq] at h
    cases h

/-- **When instructions fail.** The instruction at the program counter fails exactly with its
fault. Where the tone can be played, a frame of a running session fails only with the fault of an
instruction. -/
theorem fails_iff_faults [Random.Generator] (hg : s.screen.grid.HasPixels) :
    (∀ e, (step s).result = .error e ↔ ∃ f, e = .fault f ∧ s.state.Faults f) ∧
    ∀ (speed : Int) (e : Error), s.halted = false → s.speed = .int speed →
      s.config.toneFrequency.Playable → (cycle s).result = .error e →
      ∃ l t g f, s.StopsBehind speed.toNat l t g e ∧ e = .fault f ∧ t.Faults f ∧
        f.name ∈ ["MemoryBoundsError", "StackUnderflowError", "StackOverflowError"] := by
  refine ⟨fun e => step_result_eq_error_iff.trans (State.next_eq_error_iff hg), ?_⟩
  intro speed e hh hn htone h
  obtain ⟨l, t, g, hstop⟩ := exists_stopsBehind_of_cycle hh hn htone h
  obtain ⟨f, he, hf⟩ := (State.next_eq_error_iff (hstop.path.hasPixels hg)).1 hstop.failed
  exact ⟨l, t, g, f, hstop, he, hf, hf.name_mem⟩

set_option maxRecDepth 40000 in
/-- A return without a call fails, and so does the frame. -/
theorem fails_iff_faults_unmatchedReturn :
    unmatchedReturn.screen.grid.HasPixels ∧
      ((step unmatchedReturn).result = .error (.fault .emptyStack) ↔
        ∃ f, Error.fault .emptyStack = .fault f ∧ unmatchedReturn.state.Faults f) ∧
      unmatchedReturn.halted = false ∧ unmatchedReturn.speed = .int 5 ∧
      unmatchedReturn.config.toneFrequency.Playable ∧
      (cycle unmatchedReturn).result = .error (.fault .emptyStack) ∧
      ∃ l t g f, unmatchedReturn.StopsBehind 5 l t g (.fault .emptyStack) ∧
        Error.fault .emptyStack = .fault f ∧ t.Faults f ∧
        f.name ∈ ["MemoryBoundsError", "StackUnderflowError", "StackOverflowError"] := by
  have hg := hasPixels_ofProgram [0x61, 0x05, 0x00, 0xEE] 5
  have htone : unmatchedReturn.config.toneFrequency.Playable := ⟨by decide, by decide⟩
  have hr : (cycle unmatchedReturn).result = .error (.fault .emptyStack) := rfl
  obtain ⟨hstep, hcycle⟩ := fails_iff_faults hg
  exact ⟨hg, hstep _, rfl, rfl, htone, hr, hcycle 5 _ rfl rfl htone hr⟩

end Chip8.Session
