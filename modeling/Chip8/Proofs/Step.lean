import Chip8.Proofs.Effect
import Chip8.Proofs.Yields
import Chip8.Session.Frame

/-!
# One instruction of a session

An instruction that succeeds changes the state and the pixels of the session as its effect says,
and installs the hook if the processor waits from then on. One that fails, be it in the decoding or
in the execution, changes nothing but the flag that the processor is halted.

## Main definitions

* `Chip8.Session.reach` : a session with another state and other pixels.
* `Chip8.Session.ofProgram` : a session that is about to run a program.

## Main results

* `Chip8.Session.executeOpcode_yields`, `Chip8.Session.executeOpcode_yields_error`
* `Chip8.Session.step_yields`, `Chip8.Session.step_yields_error`
-/

namespace Chip8

/-- The state after the instruction at the program counter. -/
def State.next [Random.Generator] (s : State) (grid : PixelGrid) (keys : Keys) :
    Except Error State := do
  let opcode ← s.fetch
  (execute (.ofOpcode opcode) s grid keys).result

namespace State

variable [Random.Generator] {s : State} {grid : PixelGrid} {keys : Keys} {opcode : Nat} {e : Error}

theorem next_of_fetch (hf : s.fetch = .ok opcode) :
    s.next grid keys = (execute (.ofOpcode opcode) s grid keys).result := by
  rw [next, hf]
  rfl

theorem next_of_fetch_error (hf : s.fetch = .error e) : s.next grid keys = .error e := by
  rw [next, hf]
  rfl

end State

namespace Session

open Procedure

/-- The session with another state and other pixels. The hook is installed if the processor waits
there and did not wait before. -/
def reach (s : Session) (t : State) (grid : PixelGrid) : Session :=
  { s with
    state := t
    screen := { s.screen with grid := grid }
    keypad := if t.paused && !s.paused then s.keypad.hook () else s.keypad }

/-- The call that installs the hook, if a state begins to wait. -/
def request (s : Session) (t : State) : List DeviceCall :=
  if t.paused && !s.paused then [.hook] else []

/-- The effect of an instruction on the session. -/
def effectOf [Random.Generator] (s : Session) (i : Instruction) : Effect :=
  execute i s.state s.screen.grid s.keypad.keys

/-- The state after an opcode is decoded and executed in the session. -/
def attempt [Random.Generator] (s : Session) (opcode : HostValue) : Except Error State := do
  let i ← decode opcode
  (s.effectOf i).result

/-- A session with a program in memory, new devices and a number of instructions of a frame. -/
def ofProgram (program : List UInt8) (speed : Int) : Session where
  config := {}
  speed := .int speed
  logger := packageLogger
  seedKey := ⟨0, 0⟩
  state := { State.initial ⟨0, 0⟩ with memory := Memory.blank.store programStart program }

theorem hasPixels_ofProgram (program : List UInt8) (speed : Int) :
    (ofProgram program speed).screen.grid.HasPixels :=
  ⟨(by decide : 0 < screenWidth), (by decide : 0 < screenHeight)⟩

variable {s : Session} {t : State} {i : Instruction} {opcode : HostValue} {e : Error}

@[simp] theorem keys_reach (s : Session) (t : State) (grid : PixelGrid) :
    (s.reach t grid).keypad.keys = s.keypad.keys := by
  unfold reach
  split <;> rfl

@[simp] theorem reach_self (s : Session) : s.reach s.state s.screen.grid = s := by
  simp [reach, paused]

/-- While the processor runs, only the last of two states that are reached counts. -/
theorem reach_reach {grid : PixelGrid} (h : t.paused = s.paused) (u : State) (grid' : PixelGrid) :
    (s.reach t grid).reach u grid' = s.reach u grid' := by
  have h' : t.paused = s.state.paused := h
  simp [reach, paused, h']

/-! ### Executing an opcode -/

theorem traceInstruction_yields (i : Instruction) (s : Session) :
    (traceInstruction i).Yields s (.ok ()) s [] := by
  unfold traceInstruction
  rw [yields_session_bind]
  split
  · exact yields_report ..
  · exact yields_pure ..

theorem decode_natCast {n : Nat} (h : n < 65536) :
    decode (.ofInt n) = .ok (.ofOpcode n) := by
  rw [decode_ofInt, if_pos (by omega), Int.toNat_natCast]

variable [Random.Generator]

theorem perform_yields (h : (s.effectOf i).result = .ok t) :
    (perform i).Yields s (.ok ())
      { s with state := t, screen := { s.screen with grid := (s.effectOf i).grid } }
      (s.effectOf i).calls := by
  have hr : (execute i s.state s.screen.grid s.keypad.keys).result = .ok t := h
  rw [perform, yields_session_bind, yields_update_bind, hr, ← List.append_nil (s.effectOf i).calls]
  refine yields_note_bind ?_
  rw [yields_print_bind, yields_ofExcept_ok_bind]
  exact yields_update ..

theorem perform_yields_error (h : (s.effectOf i).result = .error e) :
    (perform i).Yields s (.error e) s [] := by
  have he : execute i s.state s.screen.grid s.keypad.keys = .silent s.screen.grid (.error e) :=
    execute_of_error h
  rw [perform, yields_session_bind, he, yields_update_bind]
  refine yields_note_bind ?_
  rw [yields_print_bind]
  exact (yields_fail e s).bind_error

/-- **A successful opcode** changes the state and the pixels as its effect says. The hook is
installed if the processor begins to wait. -/
theorem executeOpcode_yields (hd : decode opcode = .ok i) (h : (s.effectOf i).result = .ok t) :
    (executeOpcode opcode).Yields s (.ok ()) (s.reach t (s.effectOf i).grid)
      ((s.effectOf i).calls ++ s.request t) := by
  have hexec : (do
      let i ← ofExcept (decode opcode)
      traceInstruction i
      perform i : Procedure Unit).Yields s (.ok ())
        { s with state := t, screen := { s.screen with grid := (s.effectOf i).grid } }
        (s.effectOf i).calls := by
    rw [hd, yields_ofExcept_ok_bind]
    exact (traceInstruction_yields i s).silent_bind (perform_yields h)
  rw [executeOpcode, yields_session_bind]
  refine hexec.haltingOnFault.andThen ?_
  rw [yields_session_bind]
  change (if (t.paused && !s.paused) = true then requestKey else pure ()).Yields _ _ _ _ _
  unfold reach request
  by_cases hw : (t.paused && !s.paused) = true
  · simp only [if_pos hw]
    exact ⟨rfl, rfl, rfl, rfl⟩
  · simp only [if_neg hw]
    exact yields_pure ..

/-- **A failed opcode** changes nothing but the flag that the processor is halted. -/
theorem executeOpcode_yields_error (h : s.attempt opcode = .error e) :
    (executeOpcode opcode).Yields s (.error e) (s.haltedBy e) [] := by
  rw [executeOpcode, yields_session_bind]
  refine (Yields.haltingOnFault_error ?_).bind_error
  cases hd : decode opcode with
  | error e' =>
    obtain rfl : e' = e := by simpa [attempt, hd, Bind.bind, Except.bind] using h
    exact (yields_fail e' s).bind_error
  | ok i =>
    have hi : (s.effectOf i).result = .error e := by
      simpa [attempt, hd, Bind.bind, Except.bind] using h
    rw [yields_ofExcept_ok_bind]
    exact (traceInstruction_yields i s).silent_bind (perform_yields_error hi)

theorem exists_decode_of_attempt (h : s.attempt opcode = .ok t) :
    ∃ i, decode opcode = .ok i ∧ (s.effectOf i).result = .ok t := by
  unfold attempt at h
  cases hd : decode opcode with
  | error e =>
    rw [hd] at h
    cases h
  | ok i =>
    rw [hd] at h
    exact ⟨i, rfl, h⟩

theorem executeOpcode_result_eq_error_iff :
    (executeOpcode opcode s).result = .error e ↔ s.attempt opcode = .error e := by
  cases ha : s.attempt opcode with
  | error e' =>
    rw [(executeOpcode_yields_error ha).result_eq, Except.error.injEq, Except.error.injEq]
  | ok t =>
    obtain ⟨i, hd, hi⟩ := exists_decode_of_attempt ha
    rw [(executeOpcode_yields hd hi).result_eq]
    exact ⟨nofun, nofun⟩

/-! ### The instruction at the program counter -/

theorem step_yields {n : Nat} (hf : s.state.fetch = .ok n)
    (h : (s.effectOf (.ofOpcode n)).result = .ok t) :
    step.Yields s (.ok ()) (s.reach t (s.effectOf (.ofOpcode n)).grid)
      ((s.effectOf (.ofOpcode n)).calls ++ s.request t) := by
  have hfetch : (ofExcept s.state.fetch).Yields s (.ok n) s [] := by
    rw [hf]
    exact yields_pure n s
  rw [step, yields_session_bind]
  exact hfetch.haltingOnFault.silent_bind
    (executeOpcode_yields (decode_natCast (State.fetch_lt hf)) h)

/-- The state after the instruction at the program counter. -/
def next (s : Session) : Except Error State :=
  s.state.next s.screen.grid s.keypad.keys

theorem exists_fetch_of_next (h : s.next = .ok t) :
    ∃ opcode, s.state.fetch = .ok opcode ∧ (s.effectOf (.ofOpcode opcode)).result = .ok t := by
  cases hf : s.state.fetch with
  | error e => cases (State.next_of_fetch_error hf).symm.trans h
  | ok opcode => exact ⟨opcode, rfl, (State.next_of_fetch hf).symm.trans h⟩

theorem step_yields_error (h : s.next = .error e) :
    step.Yields s (.error e) (s.haltedBy e) [] := by
  rw [step, yields_session_bind]
  cases hf : s.state.fetch with
  | error e' =>
    obtain rfl : e' = e := Except.error.inj ((State.next_of_fetch_error hf).symm.trans h)
    exact (yields_fail e' s).haltingOnFault_error.bind_error
  | ok n =>
    have hn : s.attempt (.ofInt n) = .error e := by
      rw [attempt, decode_natCast (State.fetch_lt hf)]
      exact (State.next_of_fetch hf).symm.trans h
    exact (yields_pure n s).haltingOnFault.silent_bind (executeOpcode_yields_error hn)

theorem step_result_eq_error_iff : (step s).result = .error e ↔ s.next = .error e := by
  cases hn : s.next with
  | error e' => rw [(step_yields_error hn).result_eq, Except.error.injEq, Except.error.injEq]
  | ok t =>
    obtain ⟨opcode, hf, hr⟩ := exists_fetch_of_next hn
    rw [(step_yields hf hr).result_eq]
    exact ⟨nofun, nofun⟩

end Session

end Chip8
