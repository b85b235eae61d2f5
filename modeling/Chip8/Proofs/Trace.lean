import Chip8.Proofs.Frame

/-!
# Traces

The instructions that a session executes, one after the other, in a batch and in frames. The one
that fails does not count, so the length of the trace is its index.

## Main definitions

* `Chip8.Session.batchTrace` : the instructions of a batch.
* `Chip8.Session.framesTrace` : the instructions of frames.

## Main results

* `Chip8.Session.path_batchTrace` : a batch follows the path of its instructions.
* `Chip8.Session.FrameRun.frameTrace_eq` : the trace of a frame is what the frame executes.
* `Chip8.Session.batch_add`, `Chip8.Session.batchTrace_add` : a batch can be cut in two.
-/

namespace Chip8.Session

open Procedure

variable {s t : Session} {e : Error}

/-- What is traced behind a procedure, if that succeeds. -/
def traceBehind (a : Procedure Unit) (trace : Session → List Executed) (s : Session) :
    List Executed :=
  match (a s).result with
  | .error _ => []
  | .ok _ => trace (a s).session

theorem traceBehind_of_ok {a : Procedure Unit} (h : (a s).result = .ok ())
    (trace : Session → List Executed) : s.traceBehind a trace = trace (a s).session := by
  simp only [traceBehind, h]

theorem traceBehind_of_error {a : Procedure Unit} (h : (a s).result = .error e)
    (trace : Session → List Executed) : s.traceBehind a trace = [] := by
  simp only [traceBehind, h]

variable [Random.Generator]

/-- The instruction that a session executes next, if it succeeds. -/
def executed? (s : Session) : Option Executed :=
  s.state.fetch.toOption.bind fun opcode =>
    (s.effectOf (.ofOpcode opcode)).result.toOption.map fun _ =>
      ⟨opcode, (s.effectOf (.ofOpcode opcode)).calls⟩

/-- The instructions of a batch, up to the first that fails. -/
def batchTrace : Nat → Session → List Executed
  | 0, _ => []
  | n + 1, s =>
    if s.paused then []
    else s.executed?.elim [] fun x => x :: batchTrace n (step s).session

/-- The instructions of a frame. -/
def frameTrace (s : Session) : List Executed :=
  if s.halted then []
  else
    match s.speed with
    | .int n => s.batchTrace n.toNat
    | .real _ => []

/-- The instructions of several frames, one after the other, up to the first that fails. -/
def framesTrace : Nat → Session → List Executed
  | 0, _ => []
  | n + 1, s => s.frameTrace ++ s.traceBehind cycle (framesTrace n)

/-! ### Batches -/

theorem executed?_of_ok {opcode : Nat} {u : State} (hf : s.state.fetch = .ok opcode)
    (hr : (s.effectOf (.ofOpcode opcode)).result = .ok u) :
    s.executed? = some ⟨opcode, (s.effectOf (.ofOpcode opcode)).calls⟩ := by
  rw [executed?, hf, Except.toOption, Option.bind_some, hr]
  rfl

theorem executed?_of_error (h : s.next = .error e) : s.executed? = none := by
  cases hf : s.state.fetch with
  | error e' =>
    rw [executed?, hf]
    rfl
  | ok opcode =>
    have hr : (s.effectOf (.ofOpcode opcode)).result = .error e :=
      (State.next_of_fetch hf).symm.trans h
    rw [executed?, hf, Except.toOption, Option.bind_some, hr]
    rfl

theorem batchTrace_of_paused (hs : s.paused = true) (n : Nat) : s.batchTrace n = [] := by
  cases n with
  | zero => rfl
  | succ n => rw [batchTrace, if_pos hs]

theorem batchTrace_succ_of_ok {opcode : Nat} {u : State} (hs : s.paused = false)
    (hf : s.state.fetch = .ok opcode) (hr : (s.effectOf (.ofOpcode opcode)).result = .ok u)
    (n : Nat) :
    s.batchTrace (n + 1) = ⟨opcode, (s.effectOf (.ofOpcode opcode)).calls⟩ ::
      (s.reach u (s.effectOf (.ofOpcode opcode)).grid).batchTrace n := by
  rw [batchTrace, if_neg (by simp [hs]), executed?_of_ok hf hr, Option.elim_some,
    (step_yields hf hr).session_eq]

theorem batchTrace_of_error (h : s.next = .error e) (n : Nat) : s.batchTrace n = [] := by
  cases n with
  | zero => rfl
  | succ n =>
    rw [batchTrace, executed?_of_error h, Option.elim_none, ite_self]

theorem batch_succ_eq {opcode : Nat} {u : State} (hs : s.paused = false)
    (hf : s.state.fetch = .ok opcode) (hr : (s.effectOf (.ofOpcode opcode)).result = .ok u)
    (n : Nat) :
    (batch (n + 1) s).result =
        (batch n (s.reach u (s.effectOf (.ofOpcode opcode)).grid)).result ∧
      (batch (n + 1) s).session =
        (batch n (s.reach u (s.effectOf (.ofOpcode opcode)).grid)).session := by
  have hstep := step_yields hf hr
  rw [batch, session_bind_apply, if_neg (by simp [hs]), bind_of_ok hstep.result_eq,
    hstep.session_eq]
  exact ⟨rfl, rfl⟩

/-- **A batch follows the path of its instructions.** -/
theorem path_batchTrace (s : Session) (n : Nat) :
    Path s.keypad.keys s.state s.screen.grid (s.batchTrace n) (batch n s).session.state
      (batch n s).session.screen.grid := by
  induction n generalizing s with
  | zero => exact .nil ..
  | succ n ih =>
    cases hs : s.paused with
    | true =>
      rw [batchTrace_of_paused hs, (batch_yields_of_paused hs _).session_eq]
      exact .nil ..
    | false =>
      cases hn : s.next with
      | error e =>
        rw [batchTrace_of_error hn, (batch_succ_yields_error hs (step_yields_error hn)).session_eq]
        exact .nil ..
      | ok u =>
        obtain ⟨opcode, hf, hr⟩ := exists_fetch_of_next hn
        have hrest := ih (s.reach u (s.effectOf (.ofOpcode opcode)).grid)
        rw [keys_reach] at hrest
        rw [batchTrace_succ_of_ok hs hf hr, (batch_succ_eq hs hf hr n).2]
        exact .cons hf hr hrest

/-- A path that is a whole batch is what the batch executes. -/
theorem batchTrace_eq_of_path {l : List Executed} {t : State} {g : PixelGrid} {n : Nat}
    (p : Path s.keypad.keys s.state s.screen.grid l t g) (hs : s.paused = false)
    (hl : l.length = batchLength n l) (hle : l.length ≤ n) : s.batchTrace n = l := by
  generalize hk : s.keypad.keys = keys at p
  generalize hst : s.state = st at p
  generalize hg : s.screen.grid = grid at p
  induction p generalizing s n with
  | nil =>
    obtain rfl : n = 0 := hl.symm
    rfl
  | @cons st t v grid h opcode l fetched succeeded rest ih =>
    subst hk hst hg
    obtain ⟨m, rfl⟩ := Nat.exists_eq_add_one_of_ne_zero (Nat.ne_zero_of_lt hle)
    have hx : t.paused = Executed.awaitsKey ⟨opcode, (s.effectOf (.ofOpcode opcode)).calls⟩ :=
      paused_of_execute hs (State.fetch_lt fetched) succeeded _
    refine (batchTrace_succ_of_ok hs fetched succeeded m).trans (congrArg _ ?_)
    cases hw : t.paused with
    | true =>
      -- The wait is the last instruction.
      have hlast := hl.trans (batchLength_cons_of_awaitsKey (hx ▸ hw) ..)
      obtain rfl := List.eq_nil_of_length_eq_zero (Nat.succ.inj hlast)
      exact batchTrace_of_paused (s := s.reach t _) hw m
    | false =>
      have hnext := hl.trans (batchLength_cons_of_not_awaitsKey (hx.symm.trans hw) m l)
      exact ih hw (Nat.succ.inj hnext) (Nat.le_of_succ_le_succ hle) (keys_reach ..) rfl rfl

theorem frameTrace_of_running {n : Int} (hh : s.halted = false) (hn : s.speed = .int n) :
    s.frameTrace = s.batchTrace n.toNat := by
  simp only [frameTrace, hh, hn, Bool.false_eq_true, if_false]

/-- **The instructions of a frame that succeeds** are those that it executes. -/
theorem FrameRun.frameTrace_eq {n : Int} {l : List Executed} {t u : State} {g : PixelGrid}
    {tone : DeviceCall} (h : s.FrameRun n.toNat l t u g tone) (hh : s.halted = false)
    (hn : s.speed = .int n) : s.frameTrace = l := by
  have hlength := h.length_eq
  rw [frameTrace_of_running hh hn]
  cases hs : s.paused with
  | true =>
    rw [hs, if_pos rfl] at hlength
    rw [batchTrace_of_paused hs, List.eq_nil_of_length_eq_zero hlength]
  | false =>
    rw [hs, if_neg Bool.false_ne_true] at hlength
    exact batchTrace_eq_of_path h.path hs hlength h.length_le

/-- **A batch can be cut in two.** -/
theorem batch_add (k n : Nat) : batch (k + n) = batch k >>= fun _ => batch n := by
  induction k with
  | zero => rw [Nat.zero_add, batch, pure_bind]
  | succ k ih =>
    funext s
    rw [Nat.succ_add_eq_add_succ, Nat.add_succ, batch, batch, bind_assoc, session_bind_apply,
      session_bind_apply]
    cases hs : s.paused with
    | true =>
      -- Nothing is executed before the cut, nor behind it.
      cases n with
      | zero => rfl
      | succ n =>
        rw [if_pos rfl, if_pos rfl, pure_bind, batch, session_bind_apply, if_pos hs]
    | false => simp only [Bool.false_eq_true, if_false, bind_assoc, ih]

theorem batchTrace_add (s : Session) (k n : Nat) :
    s.batchTrace (k + n) = s.batchTrace k ++ s.traceBehind (batch k) (batchTrace n) := by
  induction k generalizing s with
  | zero => rw [Nat.zero_add]; rfl
  | succ k ih =>
    rw [Nat.succ_add_eq_add_succ, Nat.add_succ]
    cases hs : s.paused with
    | true =>
      have hbatch := batch_yields_of_paused hs (k + 1)
      rw [batchTrace_of_paused hs, batchTrace_of_paused hs, traceBehind_of_ok hbatch.result_eq,
        hbatch.session_eq, batchTrace_of_paused hs]
      rfl
    | false =>
      cases hn : s.next with
      | error e =>
        have hbatch := batch_succ_yields_error (n := k) hs (step_yields_error hn)
        rw [batchTrace_of_error hn, batchTrace_of_error hn, traceBehind_of_error hbatch.result_eq]
        rfl
      | ok u =>
        obtain ⟨opcode, hf, hr⟩ := exists_fetch_of_next hn
        obtain ⟨hresult, hsession⟩ := batch_succ_eq hs hf hr k
        rw [batchTrace_succ_of_ok hs hf hr, batchTrace_succ_of_ok hs hf hr, ih, traceBehind,
          traceBehind, hresult, hsession]
        rfl

end Chip8.Session
